import LiveHighlight.Pattern.Escape

/-!
Classes in brackets: members and ranges, named classes, nested classes, and the operations on
sets between them.
-/

namespace LiveHighlight.Pattern

def Flags.caseOf (flags : Flags) (set : CharClass) : CharClass :=
  if flags.ignoreCase then .anyCase set else set

inductive SetOperator where
  | intersection
  | difference
  | symmetricDifference

def SetOperator.apply (flags : Flags) (operator : SetOperator) (left right : CharClass) :
    CharClass :=
  let left := flags.caseOf left
  let right := flags.caseOf right
  match operator with
  | intersection => .intersection left right
  | difference => .difference left right
  | symmetricDifference => .symmetricDifference left right

/-- A class that is being read: the operand so far, and the operation that waits for it. -/
structure OpenClass where
  negated : Bool
  pending : Option (SetOperator × CharClass)
  operand : CharClass

namespace OpenClass

def add (frame : OpenClass) (set : CharClass) : OpenClass :=
  { frame with operand := .union frame.operand set }

def value (flags : Flags) (frame : OpenClass) : CharClass :=
  match frame.pending with
  | none => frame.operand
  | some (operator, left) => operator.apply flags left frame.operand

def operate (flags : Flags) (frame : OpenClass) (operator : SetOperator) : OpenClass :=
  { frame with pending := some (operator, frame.value flags), operand := .nothing }

def close (flags : Flags) (frame : OpenClass) : Except Error CharClass :=
  let set := flags.caseOf (frame.value flags)
  if frame.negated then flags.negated set else .ok set

end OpenClass

def leadingDashes (flags : Flags) : Nat → OpenClass → List Char → OpenClass × List Char
  | 0, frame, text => (frame, text)
  | fuel + 1, frame, text =>
    match text with
    | '-' :: rest => leadingDashes flags fuel (frame.add (.single '-')) (flags.skip rest)
    | _ => (frame, text)

def openClass (flags : Flags) (text : List Char) : Except Error (OpenClass × List Char) :=
  let text := flags.skip text
  let (negated, text) := match text with
    | '^' :: rest => (true, flags.skip rest)
    | _ => (false, text)
  let frame : OpenClass := ⟨negated, none, .nothing⟩
  let (frame, rest) := leadingDashes flags text.length frame text
  match text, rest with
  | ']' :: _, ']' :: rest => .ok (frame.add (.single ']'), flags.skip rest)
  | _, [] => .error .classUnclosed
  | _, _ => .ok (frame, rest)

def namedClass? (flags : Flags) (text : List Char) : Option (CharClass × List Char) :=
  match text with
  | ':' :: rest =>
    let (negated, rest) := match rest with
      | '^' :: rest => (true, rest)
      | _ => (false, rest)
    let name := rest.takeWhile (· != ':')
    match strip? [':', ']'] (rest.drop name.length), CharClass.named? (String.ofList name) with
    | some rest, some set =>
      let set := flags.caseOf set
      some (if negated then .complement set else set, rest)
    | _, _ => none
  | _ => none

def classItem (flags : Flags) (text : List Char) : Except Error (Primitive × List Char) :=
  match text with
  | [] => .error .classUnclosed
  | '\\' :: rest => escape flags rest
  | c :: rest => .ok (.literal c, rest)

def Primitive.classMember : Primitive → Except Error CharClass
  | literal c => .ok (.single c)
  | members set => .ok set
  | anchor _ => .error .classEscape

def Primitive.endpoint : Primitive → Except Error Char
  | literal c => .ok c
  | _ => .error .rangeEndpoint

def classRange (flags : Flags) (text : List Char) : Except Error (CharClass × List Char) := do
  let (first, rest) ← classItem flags text
  match flags.skip rest with
  | [] => .error .classUnclosed
  | '-' :: later =>
    match flags.skip later with
    | [] => .error .classUnclosed
    | c :: _ =>
      if c = ']' || c = '-' then return (← first.classMember, '-' :: later)
      else
        let (last, rest) ← classItem flags (flags.skip later)
        let low ← first.endpoint
        let high ← last.endpoint
        if low ≤ high then return (.range low.toNat high.toNat, rest)
        else .error .rangeReversed
  | rest => return (← first.classMember, rest)

def classBody (flags : Flags) : Nat → List OpenClass → OpenClass → List Char → Except Error (CharClass × List Char)
  | 0, _, _, _ => .error .classUnclosed
  | fuel + 1, outer, frame, text =>
    match flags.skip text with
    | [] => .error .classUnclosed
    | '[' :: rest =>
      match namedClass? flags rest with
      | some (set, rest) => classBody flags fuel outer (frame.add set) rest
      | none => do
        let (inner, rest) ← openClass flags rest
        classBody flags fuel (frame :: outer) inner rest
    | ']' :: rest => do
      let set ← frame.close flags
      match outer with
      | [] => return (set, rest)
      | parent :: outer => classBody flags fuel outer (parent.add set) rest
    | '&' :: '&' :: rest => classBody flags fuel outer (frame.operate flags .intersection) rest
    | '-' :: '-' :: rest => classBody flags fuel outer (frame.operate flags .difference) rest
    | '~' :: '~' :: rest =>
      classBody flags fuel outer (frame.operate flags .symmetricDifference) rest
    | text => do
      let (set, rest) ← classRange flags text
      classBody flags fuel outer (frame.add set) rest

def bracketed (flags : Flags) (text : List Char) : Except Error (CharClass × List Char) := do
  let (frame, rest) ← openClass flags text
  classBody flags (rest.length + 1) [] frame rest

end LiveHighlight.Pattern
