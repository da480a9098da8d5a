import LiveHighlight.Text.Blank
import LiveHighlight.Pattern.CaseOrbits
import LiveHighlight.Pattern.WordRanges

/-!
Sets of characters that a pattern names.
-/

namespace LiveHighlight.Pattern

inductive CharClass where
  | nothing
  | range (low high : Nat)
  | digit
  | word
  | blank
  | union (left right : CharClass)
  | intersection (left right : CharClass)
  | difference (left right : CharClass)
  | symmetricDifference (left right : CharClass)
  | complement (inner : CharClass)
  | anyCase (inner : CharClass)
  deriving Repr, Inhabited

def inRanges (ranges : Array (Nat × Nat)) (c : Char) : Bool :=
  ranges.any fun range => range.1 ≤ c.toNat && c.toNat ≤ range.2

def isWordChar (c : Char) : Bool :=
  inRanges wordRanges c

namespace CharClass

def single (c : Char) : CharClass :=
  .range c.toNat c.toNat

def ofRanges (ranges : List (Nat × Nat)) : CharClass :=
  ranges.foldr (fun range rest => .union (.range range.1 range.2) rest) .nothing

def contains : CharClass → Char → Bool
  | nothing, _ => false
  | range low high, c => low ≤ c.toNat && c.toNat ≤ high
  | digit, c => inRanges digitRanges c
  | word, c => isWordChar c
  | blank, c => Text.isBlank c
  | union left right, c => left.contains c || right.contains c
  | intersection left right, c => left.contains c && right.contains c
  | difference left right, c => left.contains c && !right.contains c
  | symmetricDifference left right, c => left.contains c != right.contains c
  | complement inner, c => !inner.contains c
  | anyCase inner, c => (caseOrbit c).any fun same => inner.contains same

def asciiDigit : CharClass :=
  .range 0x30 0x39

def asciiWord : CharClass :=
  ofRanges [(0x30, 0x39), (0x41, 0x5A), (0x5F, 0x5F), (0x61, 0x7A)]

def asciiBlank : CharClass :=
  ofRanges [(0x09, 0x0D), (0x20, 0x20)]

def named? (name : String) : Option CharClass :=
  match name with
  | "alnum" => some (ofRanges [(0x30, 0x39), (0x41, 0x5A), (0x61, 0x7A)])
  | "alpha" => some (ofRanges [(0x41, 0x5A), (0x61, 0x7A)])
  | "ascii" => some (.range 0x00 0x7F)
  | "blank" => some (ofRanges [(0x09, 0x09), (0x20, 0x20)])
  | "cntrl" => some (ofRanges [(0x00, 0x1F), (0x7F, 0x7F)])
  | "digit" => some asciiDigit
  | "graph" => some (.range 0x21 0x7E)
  | "lower" => some (.range 0x61 0x7A)
  | "print" => some (.range 0x20 0x7E)
  | "punct" => some (ofRanges [(0x21, 0x2F), (0x3A, 0x40), (0x5B, 0x60), (0x7B, 0x7E)])
  | "space" => some asciiBlank
  | "upper" => some (.range 0x41 0x5A)
  | "word" => some asciiWord
  | "xdigit" => some (ofRanges [(0x30, 0x39), (0x41, 0x46), (0x61, 0x66)])
  | _ => none

end CharClass
end LiveHighlight.Pattern
