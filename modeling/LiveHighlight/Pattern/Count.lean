import LiveHighlight.Pattern.Error
import LiveHighlight.Pattern.Flags

/-!
Counts of repetition in braces.
-/

namespace LiveHighlight.Pattern

structure Count where
  least : Nat
  most : Option Nat

def countLimit : Nat := UInt32.size - 1

def decimalDigits (flags : Flags) : Nat → Option Nat → List Char → Option Nat × List Char
  | 0, value, text => (value, text)
  | fuel + 1, value, text =>
    match text with
    | c :: rest =>
      if c.isDigit then
        decimalDigits flags fuel (some (10 * value.getD 0 + (c.toNat - 48))) (flags.skip rest)
      else (value, text)
    | [] => (value, [])

def decimal (flags : Flags) (text : List Char) : Except Error Nat × List Char :=
  let text := text.dropWhile Text.isBlank
  let (value, rest) := decimalDigits flags text.length none text
  let value := match value with
    | none => .error .countEmpty
    | some value => if value ≤ countLimit then .ok value else .error .countTooLarge
  (value, flags.skip (rest.dropWhile Text.isBlank))

def count (flags : Flags) (text : List Char) : Except Error (Count × List Char) := do
  let text := flags.skip text
  if text.isEmpty then .error .countUnclosed
  else
    let (least, rest) := decimal flags text
    match rest with
    | [] => .error .countUnclosed
    | ',' :: rest =>
      match flags.skip rest with
      | [] => .error .countUnclosed
      | '}' :: rest => return (⟨← least, none⟩, rest)
      | rest =>
        let least ← least
        let (most, rest) := decimal flags rest
        let most ← most
        match rest with
        | '}' :: rest => if least ≤ most then return (⟨least, some most⟩, rest) else .error .countReversed
        | _ => .error .countUnclosed
    | '}' :: rest =>
      let least ← least
      return (⟨least, some least⟩, rest)
    | _ => do
      let _ ← least
      .error .countUnclosed

end LiveHighlight.Pattern
