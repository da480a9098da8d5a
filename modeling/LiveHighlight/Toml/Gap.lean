/-!
What stands between the parts of a document: blanks, comments and line ends.
-/

namespace LiveHighlight.Toml

def isBlank (c : Char) : Bool :=
  c = ' ' || c = '\t'

def isPlain (c : Char) : Bool :=
  c = '\t' || (' ' ≤ c && c ≠ '\x7f')

def skipBlanks (text : List Char) : List Char :=
  text.dropWhile isBlank

def skipComment : List Char → List Char
  | '#' :: rest => rest.dropWhile isPlain
  | text => text

def lineEnd? : List Char → Option (List Char)
  | [] => some []
  | '\n' :: rest => some rest
  | '\r' :: '\n' :: rest => some rest
  | _ => none

def emptyLine? (text : List Char) : Option (List Char) :=
  lineEnd? (skipComment (skipBlanks text))

def skipGap (inComment : Bool) : List Char → List Char
  | [] => []
  | '\n' :: rest => skipGap false rest
  | '\r' :: '\n' :: rest => skipGap false rest
  | c :: rest =>
    if inComment && isPlain c then skipGap true rest
    else if !inComment && isBlank c then skipGap false rest
    else if !inComment && c = '#' then skipGap true rest
    else c :: rest

end LiveHighlight.Toml
