import LiveHighlight.Toml.Entries
import LiveHighlight.Toml.Key
import LiveHighlight.Toml.Moment

/-!
Values as they are written out: strings, words, arrays and inline tables.

An array and an inline table may go over several lines, and a comma may stand behind the last item.
-/

namespace LiveHighlight.Toml

def isWordChar (c : Char) : Bool :=
  c.isAlphanum || c = '_' || c = '-' || c = '+' || c = '.' || c = ':'

def isDate (word : List Char) : Bool :=
  date? word == some []

/-- The longest word. A space between a date and a digit does not end it. -/
def word (text : List Char) : List Char × List Char :=
  let front := text.takeWhile isWordChar
  let rest := text.drop front.length
  match rest with
  | ' ' :: c :: later =>
    if isDate front && c.isDigit then
      let time := (c :: later).takeWhile isWordChar
      (front ++ ' ' :: time, (c :: later).drop time.length)
    else (front, rest)
  | _ => (front, rest)

def valueOfWord? (word : List Char) : Option Value :=
  if word = "true".toList then some (.boolean true)
  else if word = "false".toList then some (.boolean false)
  else (number? word).or (moment? word)

mutual

def value? : Nat → List Char → Option (Value × List Char)
  | 0, _ => none
  | fuel + 1, text =>
    match text with
    | '[' :: rest => (items? fuel rest).map fun (items, rest) => (.array items, rest)
    | '{' :: rest =>
      (inlineEntries? fuel [] rest).map fun (entries, rest) => (.table (entryValues entries), rest)
    | text =>
      if text.head?.any isQuote then
        (string? text).map fun (chars, rest) => (.string (String.ofList chars), rest)
      else
        let (front, rest) := word text
        (valueOfWord? front).map fun value => (value, rest)

def items? : Nat → List Char → Option (List Value × List Char)
  | 0, _ => none
  | fuel + 1, text =>
    match skipGap false text with
    | ']' :: rest => some ([], rest)
    | text => do
      let (item, rest) ← value? fuel text
      match skipGap false rest with
      | ',' :: rest =>
        let (items, rest) ← items? fuel rest
        some (item :: items, rest)
      | ']' :: rest => some ([item], rest)
      | _ => none

def inlineEntries? : Nat → Entries → List Char → Option (Entries × List Char)
  | 0, _, _ => none
  | fuel + 1, entries, text =>
    match skipGap false text with
    | '}' :: rest => some (entries, rest)
    | text => do
      let (keys, rest) ← dottedKey? (fuel + 1) text
      let rest ← behind? '=' rest
      let (value, rest) ← value? fuel (skipBlanks rest)
      let entries ← entries.set? value keys
      match skipGap false rest with
      | ',' :: rest => inlineEntries? fuel entries rest
      | '}' :: rest => some (entries, rest)
      | _ => none

end

end LiveHighlight.Toml
