import LiveHighlight.Span.Basic

/-!
The order of captures.

Captures of an earlier pattern come before those of a later one, and within a pattern they keep the
order in which they were found. Kinds that start with an underscore are internal to a query.
-/

namespace LiveHighlight

structure Hit where
  pattern : Nat
  capture : Capture
  deriving DecidableEq, Repr

namespace Hit

def isInternal (hit : Hit) : Bool :=
  hit.capture.kind.toList.head? == some '_'

def byPattern (hits : List Hit) : List Hit :=
  hits.mergeSort fun first second => first.pattern ≤ second.pattern

def ranked (hits : List Hit) : List Capture :=
  (byPattern (hits.filter (!·.isInternal))).map (·.capture)

end Hit
end LiveHighlight
