import LiveHighlight.Toml.StringLiteral

/-!
Keys: bare or in quotes, and several of them in a row with dots between.
-/

namespace LiveHighlight.Toml

def isKeyChar (c : Char) : Bool :=
  c.isAlphanum || c = '_' || c = '-'

def bareKey? (text : List Char) : Option (String × List Char) :=
  let key := text.takeWhile isKeyChar
  if key.isEmpty then none else some (String.ofList key, text.drop key.length)

def isQuote (c : Char) : Bool :=
  c = '"' || c = '\''

def quotedKey? : List Char → Option (String × List Char)
  | '"' :: rest => (basicString? .none rest).map fun (key, rest) => (String.ofList key, rest)
  | '\'' :: rest => (literalString? rest).map fun (key, rest) => (String.ofList key, rest)
  | _ => none

def key? (text : List Char) : Option (String × List Char) :=
  if text.head?.any isQuote then quotedKey? text else bareKey? text

def dottedKey? : Nat → List Char → Option (List String × List Char)
  | 0, _ => none
  | fuel + 1, text => do
    let (key, rest) ← key? text
    match skipBlanks rest with
    | '.' :: rest =>
      let (keys, rest) ← dottedKey? fuel (skipBlanks rest)
      some (key :: keys, rest)
    | rest => some ([key], rest)

end LiveHighlight.Toml
