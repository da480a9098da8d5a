/-!
Time on a clock of whole milliseconds.

Instants and spans of time are numbers of nanoseconds. A timer fires at the first whole
millisecond that is not before its instant.
-/

namespace LiveHighlight.Clock

def nanosPerMilli : Nat := 1000000

def ofMillis (millis : Nat) : Nat :=
  millis * nanosPerMilli

/-- The millisecond at which a timer set for `instant` fires. -/
def tick (instant : Nat) : Nat :=
  (instant + (nanosPerMilli - 1)) / nanosPerMilli

/-- At whole milliseconds a timer has fired exactly if its instant has come. -/
theorem tick_le_iff (instant millis : Nat) : tick instant ≤ millis ↔ instant ≤ ofMillis millis := by
  simp only [tick, ofMillis, nanosPerMilli]
  omega

end LiveHighlight.Clock
