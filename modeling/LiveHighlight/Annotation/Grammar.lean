import LiveHighlight.Annotation.Library
import LiveHighlight.Annotation.Query
import LiveHighlight.Text.Utf8

/-!
A small parser library: grammars of sources that consist of line comments.

A comment runs from its mark, the first thing on its line that is not blank, to the end of the
line. The whole source is a node as well, which starts with the first comment.
-/

namespace LiveHighlight

open Utf8 (Bytes)

structure Node where
  kind : String
  start : Nat
  stop : Nat
  deriving DecidableEq, Repr

structure Grammar where
  mark : String
  commentKind : String
  sourceKind : String
  deriving DecidableEq, Repr

namespace Grammar

def bash : Grammar := ⟨"#", "comment", "program"⟩

def c : Grammar := ⟨"//", "comment", "translation_unit"⟩

def go : Grammar := ⟨"//", "comment", "source_file"⟩

def java : Grammar := ⟨"//", "line_comment", "program"⟩

def javascript : Grammar := ⟨"//", "comment", "program"⟩

def python : Grammar := ⟨"#", "comment", "module"⟩

def rust : Grammar := ⟨"//", "line_comment", "source_file"⟩

def nodeKinds (grammar : Grammar) : List String :=
  [grammar.commentKind, grammar.sourceKind]

def isBlankByte (byte : UInt8) : Bool :=
  byte = 0x20 || (0x09 ≤ byte && byte ≤ 0x0D)

def isLineEnd (byte : UInt8) : Bool :=
  byte = 0x0A

def linesFrom (start : Nat) : Bytes → List (Nat × Bytes)
  | [] => [(start, [])]
  | byte :: rest =>
    if isLineEnd byte then (start, []) :: linesFrom (start + 1) rest
    else
      match linesFrom (start + 1) rest with
      | [] => [(start, [byte])]
      | (_, line) :: later => (start, byte :: line) :: later

def commentOfLine? (mark : Bytes) (start : Nat) (line : Bytes) : Option (Nat × Nat) :=
  let indent := line.takeWhile isBlankByte
  if mark.isPrefixOf (line.drop indent.length) then
    some (start + indent.length, start + line.length)
  else none

def comments (grammar : Grammar) (source : Bytes) : List (Nat × Nat) :=
  (linesFrom 0 source).filterMap fun (start, line) =>
    commentOfLine? (Utf8.encode grammar.mark.toList) start line

def nodes (grammar : Grammar) (source : Bytes) : List Node :=
  let comments := grammar.comments source
  let start := (comments.head?.map (·.1)).getD source.length
  ⟨grammar.sourceKind, start, source.length⟩ ::
    comments.map fun (start, stop) => ⟨grammar.commentKind, start, stop⟩

end Grammar

namespace Query

def hitsOfNode (number : Nat) (pattern : QueryPattern) (node : Node) : List Hit :=
  if pattern.node = node.kind then
    pattern.captures.map fun kind => ⟨number, kind, node.start, node.stop⟩
  else []

def hits (query : Query) (nodes : List Node) : List Hit :=
  nodes.flatMap fun node =>
    query.patterns.zipIdx.flatMap fun (pattern, number) => hitsOfNode number pattern node

end Query

instance : ParserLibrary Grammar where
  Compiled := Query
  Tree := List Node
  compile? grammar text := Query.read? grammar.nodeKinds text
  accepts _ := true
  parse? grammar source := some (grammar.nodes source)
  hits query nodes _ := query.hits nodes

end LiveHighlight
