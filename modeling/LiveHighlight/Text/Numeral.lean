/-!
Unsigned numerals as the editor's files write them: ASCII digits after an optional plus sign, up
to a largest value. Leading zeros are allowed.
-/

namespace LiveHighlight.Text

def digitValue? (c : Char) : Option Nat :=
  if c.isDigit then some (c.toNat - '0'.toNat) else none

def digitsValue? : List Char → Option Nat
  | [] => none
  | digits => digits.foldlM (fun value c => (digitValue? c).map (10 * value + ·)) 0

def unsigned? (bound : Nat) (text : List Char) : Option Nat :=
  let digits := match text with
    | '+' :: rest => rest
    | _ => text
  (digitsValue? digits).filter (· ≤ bound)

def u32? (text : List Char) : Option UInt32 :=
  (unsigned? (UInt32.size - 1) text).map UInt32.ofNat

end LiveHighlight.Text
