import LiveHighlight.Pattern.CharClass

/-!
Patterns as expressions, and the positions of a text that an expression reaches.

A text of n characters has n + 1 positions. `Expr.reach` maps the positions where a match may
begin to those where it may end, so that no order of trial is needed.
-/

namespace LiveHighlight.Pattern

inductive Anchor where
  | textStart
  | textEnd
  | lineStart (carriageReturns : Bool)
  | lineEnd (carriageReturns : Bool)
  | wordBoundary (members : CharClass)
  | noWordBoundary (members : CharClass)
  | wordStart (members : CharClass)
  | wordEnd (members : CharClass)
  | wordStartHalf (members : CharClass)
  | wordEndHalf (members : CharClass)
  deriving Repr

inductive Expr where
  | empty
  | one (members : CharClass)
  | anchor (kind : Anchor)
  | sequence (first second : Expr)
  | either (first second : Expr)
  | repeated (body : Expr) (least : Nat) (most : Option Nat)
  deriving Repr, Inhabited

def isWordAt (members : CharClass) : Option Char → Bool
  | some c => members.contains c
  | none => false

def Anchor.holds (before after : Option Char) : Anchor → Bool
  | textStart => before.isNone
  | textEnd => after.isNone
  | lineStart false => before.isNone || before == some '\n'
  | lineEnd false => after.isNone || after == some '\n'
  | lineStart true =>
    before.isNone || before == some '\n' || (before == some '\r' && after != some '\n')
  | lineEnd true =>
    after.isNone || after == some '\r' || (after == some '\n' && before != some '\r')
  | wordBoundary members => isWordAt members before != isWordAt members after
  | noWordBoundary members => isWordAt members before == isWordAt members after
  | wordStart members => !isWordAt members before && isWordAt members after
  | wordEnd members => isWordAt members before && !isWordAt members after
  | wordStartHalf members => !isWordAt members before
  | wordEndHalf members => !isWordAt members after

abbrev Positions := List Bool

namespace Positions

def every (text : List Char) : Positions :=
  true :: text.map fun _ => true

def join (left right : Positions) : Positions :=
  List.zipWith (· || ·) left right

def anchored (text : List Char) (anchor : Anchor) (starts : Positions) : Positions :=
  let befores := none :: text.map some
  let afters := text.map some ++ [none]
  List.zipWith (fun here sides => here && anchor.holds sides.1 sides.2) starts
    (befores.zip afters)

def advance (text : List Char) (members : CharClass) (starts : Positions) : Positions :=
  false :: List.zipWith (fun here c => here && members.contains c) starts text

def iterate (step : Positions → Positions) : Nat → Positions → Positions
  | 0, here => here
  | times + 1, here =>
    let next := step here
    if next = here then here else iterate step times next

end Positions

def Expr.reach (text : List Char) : Expr → Positions → Positions
  | .empty, starts => starts
  | .one members, starts => starts.advance text members
  | .anchor kind, starts => starts.anchored text kind
  | .sequence first second, starts => second.reach text (first.reach text starts)
  | .either first second, starts => (first.reach text starts).join (second.reach text starts)
  | .repeated body least most, starts =>
    let further := match most with
      | some most => most - least
      | none => text.length + 1
    Positions.iterate (fun here => here.join (body.reach text here)) further
      (Positions.iterate (body.reach text) least starts)

def Expr.matches (expr : Expr) (text : String) : Bool :=
  (expr.reach text.toList (Positions.every text.toList)).any id

end LiveHighlight.Pattern
