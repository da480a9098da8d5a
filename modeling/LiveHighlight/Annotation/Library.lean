import LiveHighlight.Annotation.Ranking
import LiveHighlight.Text.Utf8

/-!
Grammars as a parser library provides them.
-/

namespace LiveHighlight

open Utf8 (Bytes)

/-- A library compiles the text of a query for a grammar, and it may refuse the text. A source that
is parsed by the grammar is a tree, in which the query finds its hits one after the other. -/
class ParserLibrary (γ : Type) where
  Compiled : Type
  Tree : Type
  compile? : γ → String → Option Compiled
  /-- Whether a parser can be set to the grammar. -/
  accepts : γ → Bool
  parse? : γ → Bytes → Option Tree
  hits : Compiled → Tree → Bytes → List Hit

namespace ParserLibrary

variable {γ : Type} [ParserLibrary γ]

def captures (grammar : γ) (query : Compiled γ) (source : Bytes) : List Capture :=
  if accepts grammar then
    match parse? grammar source with
    | some tree => Hit.ranked (hits query tree source)
    | none => []
  else []

end ParserLibrary
end LiveHighlight
