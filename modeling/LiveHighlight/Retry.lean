import LiveHighlight.Clock

/-!
Retry delays.

Each delay is drawn from zero to a ceiling that doubles with every delay handed out since the last
reset, up to a cap. The draw itself comes from outside.
-/

namespace LiveHighlight

/-- The longest span of time that can be told: its whole seconds fit in sixty-four bits. -/
def longestSpan : Nat :=
  UInt64.size * 1000000000 - 1

structure Backoff where
  base : Nat
  cap : Nat
  attempt : UInt32
  deriving DecidableEq, Repr

namespace Backoff

def fresh (base cap : Nat) : Backoff :=
  ⟨base, cap, 0⟩

/-- From the thirty-second doubling on, or when the doubled base passes the longest span, the
ceiling is the cap. -/
def ceiling (backoff : Backoff) : Nat :=
  if backoff.attempt.toNat < 32 ∧ backoff.base <<< backoff.attempt.toNat ≤ longestSpan then
    min (backoff.base <<< backoff.attempt.toNat) backoff.cap
  else backoff.cap

def drawLimit (ceiling : Nat) : Nat :=
  min ceiling (UInt64.size - 1)

def advance (backoff : Backoff) : Backoff :=
  { backoff with
    attempt := if backoff.attempt = 4294967295 then backoff.attempt else backoff.attempt + 1 }

def reset (backoff : Backoff) : Backoff :=
  { backoff with attempt := 0 }

theorem ceiling_le_cap (backoff : Backoff) : backoff.ceiling ≤ backoff.cap := by
  unfold ceiling
  split
  · exact Nat.min_le_right _ _
  · exact Nat.le_refl _

theorem drawLimit_le (ceiling : Nat) : drawLimit ceiling ≤ ceiling :=
  Nat.min_le_left _ _

end Backoff

structure Share where
  numerator : Nat
  denominator : Nat
  deriving DecidableEq, Repr

/-- Draws taken in turn from a list of shares, round and round. -/
structure Draws where
  shares : List Share
  taken : Nat := 0
  deriving Repr

namespace Draws

def share (draws : Draws) : Share :=
  draws.shares[draws.taken % draws.shares.length]?.getD ⟨1, 1⟩

def delay (draws : Draws) (ceiling : Nat) : Nat × Draws :=
  let limit := Backoff.drawLimit ceiling
  if limit = 0 then (0, draws)
  else
    (limit * draws.share.numerator / draws.share.denominator,
      { draws with taken := draws.taken + 1 })

end Draws

structure Waited where
  elapsed : Bool
  finish : Nat
  deriving DecidableEq, Repr

def waitUnlessCancelled (start delay : Nat) (cancelled : Option Nat) : Waited :=
  match cancelled with
  | none => ⟨true, start + delay⟩
  | some instant =>
    if instant ≤ start then ⟨false, start⟩
    else if instant < start + delay then ⟨false, instant⟩
    else ⟨true, start + delay⟩

end LiveHighlight
