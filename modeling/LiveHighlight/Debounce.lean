import LiveHighlight.Clock

/-!
Bursts of edits collapse into one recompute.

The first edit after a quiet spell sets a deadline; later edits do not move it, so that a steady
stream of edits still leads to a recompute once in a quiet period. Deadlines are exact instants; a
clock that fires at whole milliseconds agrees with them there, by `Clock.tick_le_iff`.
-/

namespace LiveHighlight

structure Debouncer where
  quiet : Nat
  deadline : Option Nat
  deriving DecidableEq, Repr

namespace Debouncer

def disarmed (quiet : Nat) : Debouncer :=
  ⟨quiet, none⟩

def isArmed (debouncer : Debouncer) : Bool :=
  debouncer.deadline.isSome

def arm (debouncer : Debouncer) (now : Nat) : Bool × Debouncer :=
  match debouncer.deadline with
  | some _ => (false, debouncer)
  | none => (true, { debouncer with deadline := some (now + debouncer.quiet) })

def disarm (debouncer : Debouncer) : Debouncer :=
  { debouncer with deadline := none }

structure Wait where
  fired : Bool
  finish : Nat
  debouncer : Debouncer

/-- Waits from `now` for the deadline, for `limit` at most. Firing exactly at the limit counts; a
wait that is given up leaves the deadline where it was. -/
def wait (debouncer : Debouncer) (now limit : Nat) : Wait :=
  match debouncer.deadline with
  | none => ⟨false, now + limit, debouncer⟩
  | some deadline =>
    if deadline ≤ now + limit then ⟨true, max now deadline, debouncer.disarm⟩
    else ⟨false, now + limit, debouncer⟩

end Debouncer
end LiveHighlight
