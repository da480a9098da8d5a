import LiveHighlight.Style.Table

/-!
Captures and spans.

A capture is a range of bytes under a kind name; a span is a styled range of characters. Both are
half open. `encode` is the form in which the compositor reads spans.
-/

namespace LiveHighlight

structure Capture where
  kind : String
  start : Nat
  stop : Nat
  deriving DecidableEq, Repr

structure Span where
  style : StyleId
  start : Nat
  stop : Nat
  deriving DecidableEq, Repr

namespace Span

def render (span : Span) : String :=
  s!"{span.style.toNat} {span.start} {span.stop}"

def encode (spans : List Span) : String :=
  String.join (spans.map fun span => span.render ++ "\n")

end Span
end LiveHighlight
