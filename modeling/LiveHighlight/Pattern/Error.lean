/-!
Why a pattern is refused.
-/

namespace LiveHighlight.Pattern

inductive Error where
  | groupUnclosed
  | groupUnopened
  | groupNameInvalid
  | groupNameEmpty
  | groupNameUnclosed
  | groupNameRepeated
  | lookAround
  | flagUnknown
  | flagRepeated
  | flagDangling
  | flagsUnclosed
  | nothingToRepeat
  | countUnclosed
  | countEmpty
  | countTooLarge
  | countReversed
  | classUnclosed
  | rangeReversed
  | rangeEndpoint
  | classEscape
  | escapeUnfinished
  | escapeUnknown
  | backReference
  | numberEmpty
  | numberDigit
  | numberNoCharacter
  | propertyUnknown
  | boundaryUnclosed
  | boundaryUnknown
  | notText
  | nestedTooDeep
  | tooLarge
  deriving DecidableEq, Repr

def Error.message : Error → String
  | groupUnclosed => "unclosed group"
  | groupUnopened => "unopened group"
  | groupNameInvalid => "invalid capture group character"
  | groupNameEmpty => "empty capture group name"
  | groupNameUnclosed => "unclosed capture group name"
  | groupNameRepeated => "duplicate capture group name"
  | lookAround => "look-around, including look-ahead and look-behind, is not supported"
  | flagUnknown => "unrecognized flag"
  | flagRepeated => "duplicate flag"
  | flagDangling => "dangling flag negation operator"
  | flagsUnclosed => "expected flag but got end of regex"
  | nothingToRepeat => "repetition operator missing expression"
  | countUnclosed => "unclosed counted repetition"
  | countEmpty => "repetition quantifier expects a valid decimal"
  | countTooLarge => "decimal literal invalid"
  | countReversed => "invalid repetition count range, the start must be <= the end"
  | classUnclosed => "unclosed character class"
  | rangeReversed => "invalid character class range, the start must be <= the end"
  | rangeEndpoint => "invalid range boundary, must be a literal"
  | classEscape => "invalid escape sequence found in character class"
  | escapeUnfinished => "incomplete escape sequence, reached end of pattern prematurely"
  | escapeUnknown => "unrecognized escape sequence"
  | backReference => "backreferences are not supported"
  | numberEmpty => "hexadecimal literal empty"
  | numberDigit => "invalid hexadecimal digit"
  | numberNoCharacter => "hexadecimal literal is not a Unicode scalar value"
  | propertyUnknown => "Unicode property not found"
  | boundaryUnclosed => "special word boundary assertion is either unclosed or contains an invalid character"
  | boundaryUnknown => "unrecognized special word boundary assertion"
  | notText => "pattern can match invalid UTF-8"
  | nestedTooDeep => "exceeded the maximum number of nested parentheses/brackets (250)"
  | tooLarge => "Compiled regex exceeds size limit of 10485760 bytes."

/-- The lines of a report: what is wrong with the text of a pattern stands on the second. -/
def Error.report : Error → List String
  | tooLarge => [tooLarge.message]
  | error => ["regex parse error:", s!"error: {error.message}"]

end LiveHighlight.Pattern
