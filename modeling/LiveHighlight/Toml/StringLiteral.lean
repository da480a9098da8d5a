import LiveHighlight.Toml.Gap

/-!
Strings in quotes.

A basic string knows escapes, a literal string does not. Three quotes begin a string that may go
over several lines; a line end right behind them does not count, and up to two quotes may stand
before the three that end it.
-/

namespace LiveHighlight.Toml

def hexValue? (c : Char) : Option Nat :=
  if c.isDigit then some (c.toNat - '0'.toNat)
  else if 'a' ≤ c && c ≤ 'f' then some (c.toNat - 'a'.toNat + 10)
  else if 'A' ≤ c && c ≤ 'F' then some (c.toNat - 'A'.toNat + 10)
  else none

def hexNumber? (digits : List Char) : Option Nat :=
  digits.foldlM (fun value c => (hexValue? c).map (16 * value + ·)) 0

def charOfHex? (digits : List Char) : Option Char :=
  (hexNumber? digits).bind fun value =>
    if value.isValidChar then some (Char.ofNat value) else none

def charOfEscape? : Char → Option Char
  | 'b' => some '\x08'
  | 't' => some '\t'
  | 'n' => some '\n'
  | 'f' => some '\x0c'
  | 'r' => some '\r'
  | 'e' => some '\x1b'
  | '"' => some '"'
  | '\\' => some '\\'
  | _ => none

def hexLength? : Char → Option Nat
  | 'x' => some 2
  | 'u' => some 4
  | 'U' => some 8
  | _ => none

inductive Escape where
  | none
  | begun
  | hex (missing : Nat) (digits : List Char)
  | line
  | indent

abbrev StringRead := Option (List Char × List Char)

def StringRead.push (read : StringRead) (c : Char) : StringRead :=
  read.map fun (text, rest) => (c :: text, rest)

def basicString? : Escape → List Char → StringRead
  | _, [] => none
  | .begun, c :: rest =>
    match charOfEscape? c, hexLength? c with
    | some escaped, _ => (basicString? .none rest).push escaped
    | none, some missing => basicString? (.hex missing []) rest
    | none, none => none
  | .hex missing digits, c :: rest =>
    if missing ≤ 1 then
      (charOfHex? (digits ++ [c])).bind fun escaped => (basicString? .none rest).push escaped
    else basicString? (.hex (missing - 1) (digits ++ [c])) rest
  | _, c :: rest =>
    if c = '"' then some ([], rest)
    else if c = '\\' then basicString? .begun rest
    else if isPlain c then (basicString? .none rest).push c
    else none

def literalString? : List Char → StringRead
  | [] => none
  | c :: rest =>
    if c = '\'' then some ([], rest)
    else if isPlain c then (literalString? rest).push c
    else none

def basicLines? : Escape → List Char → StringRead
  | _, [] => none
  | .hex missing digits, c :: rest =>
    if missing ≤ 1 then
      (charOfHex? (digits ++ [c])).bind fun escaped => (basicLines? .none rest).push escaped
    else basicLines? (.hex (missing - 1) (digits ++ [c])) rest
  | .begun, c :: rest =>
    match charOfEscape? c, hexLength? c with
    | some escaped, _ => (basicLines? .none rest).push escaped
    | none, some missing => basicLines? (.hex missing []) rest
    | none, none =>
      if c = '\n' || (c = '\r' && rest.head? = some '\n') then basicLines? .indent rest
      else if isBlank c then basicLines? .line rest
      else none
  | .line, c :: rest =>
    if c = '\n' || (c = '\r' && rest.head? = some '\n') then basicLines? .indent rest
    else if isBlank c then basicLines? .line rest
    else none
  | .indent, '\r' :: '\n' :: rest => basicLines? .indent rest
  | _, '"' :: '"' :: '"' :: '"' :: '"' :: rest => some (['"', '"'], rest)
  | _, '"' :: '"' :: '"' :: '"' :: rest => some (['"'], rest)
  | _, '"' :: '"' :: '"' :: rest => some ([], rest)
  | .none, '\r' :: '\n' :: rest => ((basicLines? .none rest).push '\n').push '\r'
  | escape, c :: rest =>
    if escape matches .indent && (isBlank c || c = '\n') then basicLines? .indent rest
    else if c = '\\' then basicLines? .begun rest
    else if isPlain c || c = '\n' then (basicLines? .none rest).push c
    else none

def literalLines? : List Char → StringRead
  | [] => none
  | '\'' :: '\'' :: '\'' :: '\'' :: '\'' :: rest => some (['\'', '\''], rest)
  | '\'' :: '\'' :: '\'' :: '\'' :: rest => some (['\''], rest)
  | '\'' :: '\'' :: '\'' :: rest => some ([], rest)
  | '\r' :: '\n' :: rest => ((literalLines? rest).push '\n').push '\r'
  | c :: rest => if isPlain c || c = '\n' then (literalLines? rest).push c else none

def skipFirstLineEnd : List Char → List Char
  | '\n' :: rest => rest
  | '\r' :: '\n' :: rest => rest
  | text => text

def string? : List Char → StringRead
  | '"' :: '"' :: '"' :: rest => basicLines? .none (skipFirstLineEnd rest)
  | '\'' :: '\'' :: '\'' :: rest => literalLines? (skipFirstLineEnd rest)
  | '"' :: rest => basicString? .none rest
  | '\'' :: rest => literalString? rest
  | _ => none

end LiveHighlight.Toml
