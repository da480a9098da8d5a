/-!
Exclusive claims on keys.

Handles that share a group see the same held keys. A claim remembers the group of the handle
through which it was taken, and dropping it frees its own key in that group.
-/

namespace LiveHighlight

structure Claim (κ : Type) where
  key : κ
  group : Nat
  deriving DecidableEq, Repr

/-- The group of each handle, and the keys that are held in each group, latest first. -/
structure Claims (κ : Type) where
  groups : List Nat
  keys : List (List κ)
  deriving Repr

namespace Claims

variable {κ : Type} [DecidableEq κ]

def empty : Claims κ :=
  ⟨[0], [[]]⟩

def groupOf (claims : Claims κ) (handle : Nat) : Nat :=
  claims.groups[handle]?.getD 0

def heldIn (claims : Claims κ) (group : Nat) : List κ :=
  claims.keys[group]?.getD []

def held (claims : Claims κ) (handle : Nat) : List κ :=
  claims.heldIn (claims.groupOf handle)

def contains (claims : Claims κ) (handle : Nat) (key : κ) : Bool :=
  (claims.held handle).contains key

theorem contains_iff (claims : Claims κ) (handle : Nat) (key : κ) :
    claims.contains handle key = true ↔ key ∈ claims.held handle :=
  List.contains_iff_mem

def size (claims : Claims κ) (handle : Nat) : Nat :=
  (claims.held handle).length

def claim? (claims : Claims κ) (handle : Nat) (key : κ) : Option (Claim κ × Claims κ) :=
  if claims.contains handle key then none
  else
    let group := claims.groupOf handle
    some (⟨key, group⟩, { claims with keys := claims.keys.modify group (key :: ·) })

def drop (claims : Claims κ) (claim : Claim κ) : Claims κ :=
  { claims with keys := claims.keys.modify claim.group (·.erase claim.key) }

def share (claims : Claims κ) (handle : Nat) : Nat × Claims κ :=
  (claims.groups.length, { claims with groups := claims.groups ++ [claims.groupOf handle] })

def separate (claims : Claims κ) : Nat × Claims κ :=
  (claims.groups.length, ⟨claims.groups ++ [claims.keys.length], claims.keys ++ [[]]⟩)

end Claims
end LiveHighlight
