import LiveHighlight.Text.Blank

/-!
Interpreter lines.

A first line `#!program` names the program's last path segment. Behind `env` it names the first
word that is neither an option, nor the value of one, nor an assignment.
-/

namespace LiveHighlight.Interpreter

def lastSegment (path : List Char) : List Char :=
  (path.reverse.takeWhile (· != '/')).reverse

def takesValue (word : List Char) : Bool :=
  word = "-u".toList || word = "--unset".toList || word = "-C".toList || word = "--chdir".toList

def isOption (word : List Char) : Bool :=
  word.head? == some '-'

def isAssignment (word : List Char) : Bool :=
  word.contains '='

def envCommand? : List (List Char) → Option (List Char)
  | [] => none
  | word :: rest =>
    if takesValue word then
      match rest with
      | [] => none
      | _ :: later => envCommand? later
    else if isOption word || isAssignment word then envCommand? rest
    else some word

def programName? : List (List Char) → Option (List Char)
  | [] => none
  | program :: arguments =>
    let name := lastSegment program
    if name = "env".toList then envCommand? arguments
    else if name.isEmpty then none
    else some name

def nameOfLine? : List Char → Option (List Char)
  | '#' :: '!' :: rest => programName? (Text.words rest)
  | _ => none

def name? (line : String) : Option String :=
  (nameOfLine? line.toList).map String.ofList

def isVersionChar (c : Char) : Bool :=
  c.isDigit || c = '.'

def withoutVersion (name : List Char) : List Char :=
  (name.reverse.dropWhile isVersionChar).reverse

def base (name : String) : String :=
  String.ofList (withoutVersion name.toList)

end LiveHighlight.Interpreter
