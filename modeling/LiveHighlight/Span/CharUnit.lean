import LiveHighlight.Text.Utf8

/-!
Character units of a byte string.

A lead byte declares a width of one to four. A unit takes the declared width when all its
continuation bytes are present, and one byte otherwise.
-/

namespace LiveHighlight.CharUnit

open Utf8 (Bytes)

def declaredWidth (lead : UInt8) : Nat :=
  if 0xC0 ≤ lead ∧ lead ≤ 0xDF then 2
  else if 0xE0 ≤ lead ∧ lead ≤ 0xEF then 3
  else if 0xF0 ≤ lead ∧ lead ≤ 0xF7 then 4
  else 1

def isContinuation (byte : UInt8) : Bool :=
  byte &&& 0xC0 == 0x80

def width (lead : UInt8) (rest : Bytes) : Nat :=
  let tail := rest.take (declaredWidth lead - 1)
  if tail.length = declaredWidth lead - 1 ∧ tail.all isContinuation then declaredWidth lead else 1

theorem one_le_declaredWidth (lead : UInt8) : 1 ≤ declaredWidth lead := by
  unfold declaredWidth
  repeat' split
  all_goals omega

theorem one_le_width (lead : UInt8) (rest : Bytes) : 1 ≤ width lead rest := by
  have positive := one_le_declaredWidth lead
  simp only [width]
  split <;> omega

theorem width_le (lead : UInt8) (rest : Bytes) : width lead rest ≤ rest.length + 1 := by
  simp only [width, List.length_take]
  split <;> omega

/-- Which bytes begin a unit, where the first `inside` bytes belong to a unit begun before. -/
def leadsFrom : Nat → Bytes → List Bool
  | _, [] => []
  | inside + 1, _ :: rest => false :: leadsFrom inside rest
  | 0, lead :: rest => true :: leadsFrom (width lead rest - 1) rest

def leads (source : Bytes) : List Bool :=
  leadsFrom 0 source

theorem length_leadsFrom (source : Bytes) : ∀ inside, (leadsFrom inside source).length = source.length := by
  induction source with
  | nil => intro inside; cases inside <;> rfl
  | cons lead rest ih => intro inside; cases inside <;> simp [leadsFrom, ih]

@[simp] theorem length_leads (source : Bytes) : (leads source).length = source.length :=
  length_leadsFrom source 0

end LiveHighlight.CharUnit
