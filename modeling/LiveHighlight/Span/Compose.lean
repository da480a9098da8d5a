import LiveHighlight.Span.Basic
import LiveHighlight.Span.CharUnit

/-!
Spans composed from captures.

Captures are painted in their order onto one slot a byte, and never over a painted slot. A unit
takes the style of its first byte, and every longest run of units of one style becomes a span.
-/

namespace LiveHighlight.Compose

open Utf8 (Bytes)

structure Bounds where
  start : Nat
  stop : Nat

def clamp (length : Nat) (capture : Capture) : Bounds :=
  let stop := min capture.stop length
  ⟨min capture.start stop, stop⟩

theorem clamp_bounds (length : Nat) (capture : Capture) :
    (clamp length capture).start ≤ (clamp length capture).stop ∧
      (clamp length capture).stop ≤ length := by
  simp only [clamp]
  omega

def paint (style : StyleId) (bounds : Bounds) (slots : List StyleId) : List StyleId :=
  slots.mapIdx fun position slot =>
    if bounds.start ≤ position ∧ position < bounds.stop ∧ !slot.isStyled then style else slot

@[simp] theorem length_paint (style : StyleId) (bounds : Bounds) (slots : List StyleId) :
    (paint style bounds slots).length = slots.length := by
  simp [paint]

def paintCapture (table : StyleTable) (slots : List StyleId) (capture : Capture) : List StyleId :=
  match table.resolve capture.kind with
  | some style => paint style (clamp slots.length capture) slots
  | none => slots

def slots (table : StyleTable) (captures : List Capture) (length : Nat) : List StyleId :=
  captures.foldl (paintCapture table) (List.replicate length StyleId.unstyled)

def unitStyles (slots : List StyleId) (source : Bytes) : List StyleId :=
  (slots.zip (CharUnit.leads source)).filterMap fun slot => if slot.2 then some slot.1 else none

def closeRun (style : StyleId) (start stop : Nat) : List Span :=
  if style.isStyled then [⟨style, start, stop⟩] else []

/-- Spans of the runs in a list of styles, when a run of `style` is open from `start` and the list
begins at `position`. -/
def sweepFrom (style : StyleId) (start position : Nat) : List StyleId → List Span
  | [] => closeRun style start position
  | next :: rest =>
    if next = style then sweepFrom style start (position + 1) rest
    else closeRun style start position ++ sweepFrom next position (position + 1) rest

def sweep (styles : List StyleId) : List Span :=
  sweepFrom StyleId.unstyled 0 0 styles

end LiveHighlight.Compose

namespace LiveHighlight

open Compose in
def compose (captures : List Capture) (source : Utf8.Bytes) (table : StyleTable) : List Span :=
  sweep (unitStyles (slots table captures source.length) source)

end LiveHighlight
