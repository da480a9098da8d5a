import LiveHighlight.Pattern.Error
import LiveHighlight.Pattern.Expr
import LiveHighlight.Pattern.Flags

/-!
What follows a backslash in a pattern: a character by its letter or number, a class, or an anchor.
-/

namespace LiveHighlight.Pattern

def hexValue? (c : Char) : Option Nat :=
  if c.isDigit then some (c.toNat - 48)
  else if 'a' ≤ c && c ≤ 'f' then some (c.toNat - 87)
  else if 'A' ≤ c && c ≤ 'F' then some (c.toNat - 55)
  else none

def scalar? (code : Nat) : Except Error Char :=
  if h : code.isValidChar then .ok (Char.ofNatAux code h) else .error .numberNoCharacter

def hexDigitsOf (flags : Flags) : Nat → Nat → List Char → Except Error (Nat × List Char)
  | 0, value, rest => .ok (value, rest)
  | count + 1, value, text =>
    match text with
    | [] => .error .escapeUnfinished
    | c :: rest =>
      match hexValue? c with
      | none => .error .numberDigit
      | some digit => hexDigitsOf flags count (16 * value + digit) (flags.skip rest)

def hexBraced (flags : Flags) : Nat → Option Nat → List Char → Except Error (Nat × List Char)
  | 0, _, _ => .error .escapeUnfinished
  | fuel + 1, value, text =>
    match flags.skip text with
    | [] => .error .escapeUnfinished
    | '}' :: rest =>
      match value with
      | none => .error .numberEmpty
      | some value => .ok (value, flags.skip rest)
    | c :: rest =>
      match hexValue? c with
      | none => .error .numberDigit
      | some digit => hexBraced flags fuel (some (16 * value.getD 0 + digit)) rest

def hexNumber (flags : Flags) (digits : Nat) (text : List Char) : Except Error (Char × List Char) := do
  match flags.skip text with
  | [] => .error .escapeUnfinished
  | '{' :: rest =>
    let (value, rest) ← hexBraced flags (rest.length + 1) none rest
    return (← scalar? value, rest)
  | text =>
    let (value, rest) ← hexDigitsOf flags digits 0 text
    return (← scalar? value, rest)

inductive Primitive where
  | literal (c : Char)
  | members (set : CharClass)
  | anchor (kind : Anchor)

def Flags.digit (flags : Flags) : CharClass :=
  if flags.asciiOnly then .asciiDigit else .digit

def Flags.word (flags : Flags) : CharClass :=
  if flags.asciiOnly then .asciiWord else .word

def Flags.blank (flags : Flags) : CharClass :=
  if flags.asciiOnly then .asciiBlank else .blank

def Flags.negated (flags : Flags) (set : CharClass) : Except Error CharClass :=
  if flags.asciiOnly then .error .notText else .ok (.complement set)

def isBoundaryChar (c : Char) : Bool :=
  c.isAlpha || c = '-'

def boundaryName (flags : Flags) : Nat → List Char → Except Error (List Char × List Char)
  | 0, _ => .error .boundaryUnclosed
  | fuel + 1, text =>
    match flags.skip text with
    | '}' :: rest => .ok ([], rest)
    | c :: rest =>
      if isBoundaryChar c then do
        let (name, rest) ← boundaryName flags fuel rest
        return (c :: name, rest)
      else .error .boundaryUnclosed
    | [] => .error .boundaryUnclosed

/-- The boundary after its letter: one named in braces, or the plain one, whose braces are then a
count. -/
def boundary (flags : Flags) (text : List Char) : Except Error (Anchor × List Char) :=
  match text with
  | '{' :: rest =>
    match flags.skip rest with
    | [] => .error .boundaryUnclosed
    | c :: _ =>
      if isBoundaryChar c then do
        let (name, rest) ← boundaryName flags (rest.length + 1) rest
        match String.ofList name with
        | "start" => return (.wordStart flags.word, rest)
        | "end" => return (.wordEnd flags.word, rest)
        | "start-half" => return (.wordStartHalf flags.word, rest)
        | "end-half" => return (.wordEndHalf flags.word, rest)
        | _ => .error .boundaryUnknown
      else .ok (.wordBoundary flags.word, text)
  | _ => .ok (.wordBoundary flags.word, text)

def escape (flags : Flags) (text : List Char) : Except Error (Primitive × List Char) :=
  match text with
  | [] => .error .escapeUnfinished
  | c :: rest =>
    if c.isDigit then .error .backReference
    else
      match c with
      | 'x' => literally (hexNumber flags 2 rest)
      | 'u' => literally (hexNumber flags 4 rest)
      | 'U' => literally (hexNumber flags 8 rest)
      | 'p' | 'P' => if rest.isEmpty then .error .escapeUnfinished else .error .propertyUnknown
      | 'd' => .ok (.members flags.digit, rest)
      | 's' => .ok (.members flags.blank, rest)
      | 'w' => .ok (.members flags.word, rest)
      | 'D' => (flags.negated flags.digit).map fun set => (.members set, rest)
      | 'S' => (flags.negated flags.blank).map fun set => (.members set, rest)
      | 'W' => (flags.negated flags.word).map fun set => (.members set, rest)
      | 'a' => .ok (.literal '\x07', rest)
      | 'f' => .ok (.literal '\x0C', rest)
      | 't' => .ok (.literal '\t', rest)
      | 'n' => .ok (.literal '\n', rest)
      | 'r' => .ok (.literal '\r', rest)
      | 'v' => .ok (.literal '\x0B', rest)
      | 'A' => .ok (.anchor .textStart, rest)
      | 'z' => .ok (.anchor .textEnd, rest)
      | 'b' => (boundary flags rest).map fun (kind, rest) => (.anchor kind, rest)
      | 'B' => .ok (.anchor (.noWordBoundary flags.word), rest)
      | '<' => .ok (.anchor (.wordStart flags.word), rest)
      | '>' => .ok (.anchor (.wordEnd flags.word), rest)
      | _ =>
        if c.toNat < 0x80 && !c.isAlpha then .ok (.literal c, rest) else .error .escapeUnknown
where
  literally (number : Except Error (Char × List Char)) : Except Error (Primitive × List Char) :=
    number.map fun (c, rest) => (.literal c, rest)

end LiveHighlight.Pattern
