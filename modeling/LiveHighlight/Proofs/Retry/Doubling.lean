import LiveHighlight.Retry
import Mathlib

/-!
How the ceiling of retry delays grows.

Whatever was done with a backoff, it counts the delays handed out since its last reset, as far as
its count goes. Under thirty-two of them the ceiling is the doubled base or the cap, whichever is
less. From the thirty-second on it is the cap alone, also where the doubled base would be less.
-/

namespace LiveHighlight.Backoff

inductive Event where
  | draw
  | reset
  deriving DecidableEq, Repr

def after (backoff : Backoff) : Event → Backoff
  | .draw => backoff.advance
  | .reset => backoff.reset

def afterAll (base cap : Nat) (events : List Event) : Backoff :=
  events.foldl after (fresh base cap)

def handedOut (events : List Event) : Nat :=
  (events.rtakeWhile (· = .draw)).length

@[simp]
theorem base_after (backoff : Backoff) (event : Event) :
    (backoff.after event).base = backoff.base := by
  cases event <;> rfl

@[simp]
theorem cap_after (backoff : Backoff) (event : Event) :
    (backoff.after event).cap = backoff.cap := by
  cases event <;> rfl

theorem handedOut_draw (events : List Event) :
    handedOut (events ++ [.draw]) = handedOut events + 1 := by
  simp [handedOut]

theorem handedOut_reset (events : List Event) : handedOut (events ++ [.reset]) = 0 := by
  simp [handedOut]

/-! ### The count -/

theorem toNat_attempt_advance (backoff : Backoff) :
    backoff.advance.attempt.toNat = min (backoff.attempt.toNat + 1) (2 ^ 32 - 1) := by
  unfold advance
  by_cases full : backoff.attempt = 4294967295
  · simp [full]
  · have below : backoff.attempt.toNat ≠ 4294967295 := fun same => full (UInt32.toNat_inj.mp same)
    have bound := backoff.attempt.toNat_lt
    simp only [full, if_false, UInt32.toNat_add, UInt32.reduceToNat]
    omega

theorem afterAll_concat (base cap : Nat) (events : List Event) (event : Event) :
    afterAll base cap (events ++ [event]) = (afterAll base cap events).after event := by
  simp [afterAll]

theorem settings_afterAll (base cap : Nat) (events : List Event) :
    (afterAll base cap events).base = base ∧ (afterAll base cap events).cap = cap := by
  induction events using List.reverseRecOn with
  | nil => exact ⟨rfl, rfl⟩
  | append_singleton events event ih => simpa only [afterAll_concat, base_after, cap_after] using ih

/-- The count stops at the largest number of thirty-two bits. -/
theorem toNat_attempt_afterAll (base cap : Nat) (events : List Event) :
    (afterAll base cap events).attempt.toNat = min (handedOut events) (2 ^ 32 - 1) := by
  induction events using List.reverseRecOn with
  | nil => rfl
  | append_singleton events event ih =>
      rw [afterAll_concat]
      cases event with
      | draw =>
          rw [after, toNat_attempt_advance, ih, handedOut_draw]
          omega
      | reset =>
          rw [handedOut_reset]
          rfl

/-! ### The ceiling -/

theorem ceiling_eq (backoff : Backoff) (fits : backoff.cap ≤ longestSpan) :
    backoff.ceiling =
      if backoff.attempt.toNat < 32 then min backoff.cap (backoff.base * 2 ^ backoff.attempt.toNat)
      else backoff.cap := by
  unfold ceiling
  rw [Nat.shiftLeft_eq]
  by_cases few : backoff.attempt.toNat < 32
  · by_cases told : backoff.base * 2 ^ backoff.attempt.toNat ≤ longestSpan
    · rw [if_pos ⟨few, told⟩, if_pos few, Nat.min_comm]
    · rw [if_neg fun both => told both.2, if_pos few]
      omega
  · rw [if_neg fun both => few both.1, if_neg few]

theorem ceiling_afterAll (base cap : Nat) (fits : cap ≤ longestSpan) (events : List Event) :
    (afterAll base cap events).ceiling =
      if handedOut events < 32 then min cap (base * 2 ^ handedOut events) else cap := by
  obtain ⟨sameBase, sameCap⟩ := settings_afterAll base cap events
  have count := toNat_attempt_afterAll base cap events
  rw [ceiling_eq _ (by rw [sameCap]; exact fits), sameBase, sameCap]
  by_cases few : handedOut events < 32
  · have same : (afterAll base cap events).attempt.toNat = handedOut events := by omega
    rw [same]
  · have many : ¬(afterAll base cap events).attempt.toNat < 32 := by omega
    rw [if_neg many, if_neg few]

/-- The ceiling is the base doubled with every delay since the last reset, or the cap if that is
less, exactly as long as fewer than thirty-two delays were handed out or the cap is less anyway.
From the thirty-second on it is the cap. So a base of zero gives delays of zero, without a draw,
until then. -/
theorem ceiling_doubles_below_thirtyTwo (base cap : Nat) (fits : cap ≤ longestSpan)
    (events : List Event) :
    ((afterAll base cap events).ceiling = min cap (base * 2 ^ handedOut events) ↔
      handedOut events < 32 ∨ cap ≤ base * 2 ^ handedOut events) ∧
    (32 ≤ handedOut events → (afterAll base cap events).ceiling = cap) ∧
    (base = 0 → handedOut events < 32 → ∀ draws : Draws,
      draws.delay (afterAll base cap events).ceiling = (0, draws)) := by
  rw [ceiling_afterAll base cap fits events]
  refine ⟨?_, ?_, ?_⟩
  · split
    next few => simp [few]
    next many =>
      simp only [many, false_or]
      omega
  · intro many
    rw [if_neg (by omega)]
  · rintro rfl few draws
    simp [few, Draws.delay, drawLimit]

theorem ceiling_doubles_below_thirtyTwo_smallBase :
    (30000000000 ≤ longestSpan ∧ handedOut (List.replicate 32 .draw) = 32) ∧
      (afterAll 1 30000000000 (List.replicate 32 .draw)).ceiling = 30000000000 := by
  have fits : 30000000000 ≤ longestSpan := by decide
  have count : handedOut (List.replicate 32 .draw) = 32 := by decide
  exact ⟨⟨fits, count⟩,
    (ceiling_doubles_below_thirtyTwo 1 30000000000 fits (List.replicate 32 .draw)).2.1 (by omega)⟩

/-- After thirty-two delays a base of zero gives the cap. -/
theorem ceiling_of_zero_base_jumps :
    handedOut (List.replicate 32 .draw) = 32 ∧
      (afterAll 0 30000000000 (List.replicate 32 .draw)).ceiling ≠ min 30000000000 (0 * 2 ^ 32) ∧
      ((Draws.mk [⟨1, 1⟩] 0).delay
        (afterAll 0 30000000000 (List.replicate 32 .draw)).ceiling).1 = 30000000000 := by
  decide

end LiveHighlight.Backoff
