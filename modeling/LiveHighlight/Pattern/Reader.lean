import LiveHighlight.Pattern.Bracket
import LiveHighlight.Pattern.Count
import LiveHighlight.Pattern.Group

/-!
Reading patterns.

A pattern is read from left to right. `Frame` holds the group that is being read: the branches
before the last bar, and the items after it. Groups that are still open wait on a stack, each with
the flags to which it returns.
-/

namespace LiveHighlight.Pattern

inductive Item where
  | expr (value : Expr) (weight depth : Nat)
  | flags

structure Frame where
  branches : List Item := []
  items : List Item := []

namespace Item

def value : Item → Expr
  | expr value _ _ => value
  | flags => .empty

def weight : Item → Nat
  | expr _ weight _ => weight
  | flags => 0

def depth : Item → Nat
  | expr _ _ depth => depth
  | flags => 0

def deepest (items : List Item) : Nat :=
  items.foldl (fun most item => max most item.depth) 0

def total (items : List Item) : Nat :=
  items.foldl (fun sum item => sum + item.weight) 0

end Item

namespace Frame

def push (frame : Frame) (item : Item) : Frame :=
  { frame with items := item :: frame.items }

def branch (frame : Frame) : Item :=
  match frame.items with
  | [] => .expr .empty 0 0
  | [item] => .expr item.value item.weight item.depth
  | items =>
    .expr (items.foldl (fun later item => .sequence item.value later) .empty)
      (Item.total items) (Item.deepest items + 1)

def bar (frame : Frame) : Frame :=
  ⟨frame.branch :: frame.branches, []⟩

def whole (frame : Frame) : Item :=
  match frame.branches with
  | [] => frame.branch
  | branches =>
    let all := frame.branch :: branches
    .expr (branches.foldl (fun later item => .either item.value later) frame.branch.value)
      (Item.total all + all.length) (Item.deepest all + 1)

end Frame

structure Waiting where
  frame : Frame
  flags : Flags

structure Reader where
  rest : List Char
  flags : Flags := {}
  frame : Frame := {}
  waiting : List Waiting := []
  names : List (List Char) := []

namespace Reader

def push (reader : Reader) (item : Item) (rest : List Char) : Reader :=
  { reader with frame := reader.frame.push item, rest := rest }

def openGroup (reader : Reader) (inner : Flags) (rest : List Char) : Reader :=
  { reader with
    rest := rest
    flags := inner
    frame := {}
    waiting := ⟨reader.frame, reader.flags⟩ :: reader.waiting }

def namedGroup (reader : Reader) (text : List Char) : Except Error Reader := do
  let (name, rest) ← groupName true text
  if name.isEmpty then .error .groupNameEmpty
  else if reader.names.contains name then .error .groupNameRepeated
  else .ok ({ reader with names := name :: reader.names }.openGroup reader.flags rest)

def lookArounds : List (List Char) :=
  [['?', '='], ['?', '!'], ['?', '<', '='], ['?', '<', '!']]

def group (reader : Reader) (text : List Char) : Except Error Reader := do
  let text := reader.flags.skip text
  if lookArounds.any fun start => (strip? start text).isSome then .error .lookAround
  else
    match text with
    | '?' :: 'P' :: '<' :: rest => reader.namedGroup rest
    | '?' :: '<' :: rest => reader.namedGroup rest
    | '?' :: [] => .error .groupUnclosed
    | '?' :: rest =>
      let (read, rest) ← flagLetters { flags := reader.flags } rest
      match rest with
      | ')' :: rest =>
        if read.seen.isEmpty && !read.negated then .error .nothingToRepeat
        else .ok ({ reader with flags := read.flags }.push .flags rest)
      | _ => .ok (reader.openGroup read.flags (rest.drop 1))
    | rest => .ok (reader.openGroup reader.flags rest)

def closeGroup (reader : Reader) (rest : List Char) : Except Error Reader :=
  match reader.waiting with
  | [] => .error .groupUnopened
  | outer :: waiting =>
    let whole := reader.frame.whole
    let item := Item.expr whole.value (whole.weight + 2) (whole.depth + 1)
    .ok { reader with
      rest := rest
      flags := outer.flags
      frame := outer.frame.push item
      waiting := waiting }

def repeatLast (reader : Reader) (count : Count) (rest : List Char) : Except Error Reader :=
  match reader.frame.items with
  | .expr body weight depth :: items =>
    let rest := match rest with
      | '?' :: later => later
      | _ => rest
    let copies := match count.most with
      | some most => max 1 most
      | none => max 1 count.least
    let item := Item.expr (.repeated body count.least count.most) (weight * copies + 1) (depth + 1)
    .ok { reader with frame := { reader.frame with items := item :: items }, rest := rest }
  | _ => .error .nothingToRepeat

def primitive (reader : Reader) (read : Primitive) (rest : List Char) : Except Error Reader :=
  let expr := match read with
    | .literal c => Expr.one (reader.flags.caseOf (.single c))
    | .members set => .one set
    | .anchor kind => .anchor kind
  .ok (reader.push (.expr expr 1 0) rest)

def dot (flags : Flags) : Except Error CharClass :=
  if flags.asciiOnly then .error .notText
  else if flags.dotAll then .ok (.complement .nothing)
  else if flags.carriageReturns then .ok (.complement (.union (.single '\n') (.single '\r')))
  else .ok (.complement (.single '\n'))

def lineStart (flags : Flags) : Anchor :=
  if flags.multiLine then .lineStart flags.carriageReturns else .textStart

def lineEnd (flags : Flags) : Anchor :=
  if flags.multiLine then .lineEnd flags.carriageReturns else .textEnd

def construct (reader : Reader) (c : Char) (rest : List Char) : Except Error Reader :=
  let flags := reader.flags
  match c with
  | '(' => reader.group rest
  | ')' => reader.closeGroup rest
  | '|' => .ok { reader with frame := reader.frame.bar, rest := rest }
  | '[' => do
    let (set, rest) ← bracketed flags rest
    reader.primitive (.members set) rest
  | '?' => reader.repeatLast ⟨0, some 1⟩ rest
  | '*' => reader.repeatLast ⟨0, none⟩ rest
  | '+' => reader.repeatLast ⟨1, none⟩ rest
  | '{' =>
    match reader.frame.items with
    | .expr .. :: _ => do
      let (count, rest) ← count flags rest
      reader.repeatLast count (flags.skip rest)
    | _ => .error .nothingToRepeat
  | '.' => do reader.primitive (.members (← dot flags)) rest
  | '^' => reader.primitive (.anchor (lineStart flags)) rest
  | '$' => reader.primitive (.anchor (lineEnd flags)) rest
  | '\\' => do
    let (read, rest) ← escape flags rest
    reader.primitive read rest
  | c => reader.primitive (.literal c) rest

/-- Reads until the end; every construct takes at least one character, and `fuel` counts them. -/
def run : Nat → Reader → Except Error Item
  | 0, _ => .error .groupUnclosed
  | fuel + 1, reader =>
    match reader.flags.skip reader.rest with
    | [] => if reader.waiting.isEmpty then .ok reader.frame.whole else .error .groupUnclosed
    | c :: rest => do run fuel (← reader.construct c rest)

end Reader

def depthLimit : Nat := 250

/-- How many characters and groups a pattern may hold when its counts are written out. -/
def weightLimit : Nat := 327680

def Expr.read (pattern : String) : Except Error Expr := do
  let text := pattern.toList
  let item ← Reader.run (text.length + 1) { rest := text }
  if item.depth > depthLimit then .error .nestedTooDeep
  else if item.weight > weightLimit then .error .tooLarge
  else .ok item.value

end LiveHighlight.Pattern
