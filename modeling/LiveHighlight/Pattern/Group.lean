import LiveHighlight.Pattern.Error
import LiveHighlight.Pattern.CharClass
import LiveHighlight.Pattern.Flags

/-!
Flags and names behind the parenthesis that opens a group.
-/

namespace LiveHighlight.Pattern

inductive Flag where
  | ignoreCase
  | multiLine
  | dotAll
  | swapGreed
  | unicode
  | carriageReturns
  | spaced
  deriving DecidableEq

def Flag.ofChar? : Char → Option Flag
  | 'i' => some ignoreCase
  | 'm' => some multiLine
  | 's' => some dotAll
  | 'U' => some swapGreed
  | 'u' => some unicode
  | 'R' => some carriageReturns
  | 'x' => some spaced
  | _ => none

def Flags.set (flags : Flags) (flag : Flag) (value : Bool) : Flags :=
  match flag with
  | .ignoreCase => { flags with ignoreCase := value }
  | .multiLine => { flags with multiLine := value }
  | .dotAll => { flags with dotAll := value }
  | .swapGreed => flags
  | .unicode => { flags with asciiOnly := !value }
  | .carriageReturns => { flags with carriageReturns := value }
  | .spaced => { flags with spaced := value }

structure FlagsRead where
  flags : Flags
  seen : List Flag := []
  negated : Bool := false
  dangling : Bool := false

def flagLetters (read : FlagsRead) : List Char → Except Error (FlagsRead × List Char)
  | [] => .error .flagsUnclosed
  | c :: rest =>
    if c = ':' || c = ')' then
      if read.dangling then .error .flagDangling else .ok (read, c :: rest)
    else if c = '-' then
      if read.negated then .error .flagRepeated
      else flagLetters { read with negated := true, dangling := true } rest
    else
      match Flag.ofChar? c with
      | none => .error .flagUnknown
      | some flag =>
        if read.seen.contains flag then .error .flagRepeated
        else
          flagLetters
            { read with
              flags := read.flags.set flag !read.negated
              seen := flag :: read.seen
              dangling := false } rest

def isLetter (c : Char) : Bool :=
  isWordChar c && !CharClass.asciiDigit.contains c && c != '_'

def isNameChar (isFirst : Bool) (c : Char) : Bool :=
  c = '_' || isLetter c || (!isFirst && (c = '.' || c = '[' || c = ']' || isWordChar c))

def groupName (isFirst : Bool) : List Char → Except Error (List Char × List Char)
  | [] => .error .groupNameUnclosed
  | '>' :: rest => .ok ([], rest)
  | c :: rest =>
    if isNameChar isFirst c then do
      let (name, rest) ← groupName false rest
      return (c :: name, rest)
    else .error .groupNameInvalid

end LiveHighlight.Pattern
