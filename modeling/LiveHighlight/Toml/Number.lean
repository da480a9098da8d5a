import LiveHighlight.Toml.StringLiteral
import LiveHighlight.Toml.Value

/-!
Numbers. Underscores may stand between digits, and a decimal number has no leading zeros.
-/

namespace LiveHighlight.Toml

def digit? (base : Nat) (c : Char) : Option Nat :=
  (hexValue? c).filter (· < base)

def digitsFrom? (base value : Nat) : Bool → List Char → Option Nat
  | afterDigit, [] => if afterDigit then some value else none
  | afterDigit, c :: rest =>
    if afterDigit && c = '_' then digitsFrom? base value false rest
    else (digit? base c).bind fun digit => digitsFrom? base (base * value + digit) true rest

def digits? (base : Nat) (text : List Char) : Option Nat :=
  digitsFrom? base 0 false text

def decimal? (text : List Char) : Option Nat :=
  if text.head? = some '0' && 1 < text.length then none else digits? 10 text

def withoutSign : List Char → List Char
  | '+' :: rest => rest
  | '-' :: rest => rest
  | text => text

def integer? : List Char → Option Int
  | '0' :: 'x' :: rest => (digits? 16 rest).map Int.ofNat
  | '0' :: 'o' :: rest => (digits? 8 rest).map Int.ofNat
  | '0' :: 'b' :: rest => (digits? 2 rest).map Int.ofNat
  | '-' :: rest => (decimal? rest).map fun value => -Int.ofNat value
  | text => (decimal? (withoutSign text)).map Int.ofNat

def isExponentMark (c : Char) : Bool :=
  c = 'e' || c = 'E'

def isExponent : List Char → Bool
  | [] => false
  | mark :: rest => isExponentMark mark && (digits? 10 (withoutSign rest)).isSome

def isFloatTail : List Char → Bool
  | '.' :: rest =>
    let fraction := rest.takeWhile (!isExponentMark ·)
    let behind := rest.drop fraction.length
    (digits? 10 fraction).isSome && (behind.isEmpty || isExponent behind)
  | text => isExponent text

def isFloat (text : List Char) : Bool :=
  let magnitude := withoutSign text
  if magnitude = "inf".toList || magnitude = "nan".toList then true
  else
    let whole := magnitude.takeWhile fun c => c ≠ '.' && !isExponentMark c
    (decimal? whole).isSome && isFloatTail (magnitude.drop whole.length)

def number? (text : List Char) : Option Value :=
  match integer? text with
  | some value => some (.integer value)
  | none => if isFloat text then some (.float (String.ofList text)) else none

end LiveHighlight.Toml
