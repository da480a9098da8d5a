import LiveHighlight.Text.Blank

/-!
The flags under which a pattern is read.
-/

namespace LiveHighlight.Pattern

structure Flags where
  ignoreCase : Bool := false
  multiLine : Bool := false
  dotAll : Bool := false
  carriageReturns : Bool := false
  asciiOnly : Bool := false
  spaced : Bool := false
  deriving Repr

def behindComments : Bool → List Char → List Char
  | _, [] => []
  | true, c :: rest => behindComments (c != '\n') rest
  | false, c :: rest =>
    if c = '#' then behindComments true rest
    else if Text.isBlank c then behindComments false rest
    else c :: rest

def Flags.skip (flags : Flags) (text : List Char) : List Char :=
  if flags.spaced then behindComments false text else text

def strip? : List Char → List Char → Option (List Char)
  | [], text => some text
  | _ :: _, [] => none
  | expected :: later, c :: rest => if c = expected then strip? later rest else none

end LiveHighlight.Pattern
