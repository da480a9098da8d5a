import LiveHighlight.Libraries
import LiveHighlight.Proofs.Annotation.Ranking
import LiveHighlight.Proofs.Span.Characters

/-!
Scripts that consist of comments.

A parser library is taken to capture the comments of such a script, in bytes. The spans composed
from them are its comments again, in characters.
-/

namespace LiveHighlight

open Utf8 (Bytes)

/-! ### Scripts -/

def isIndent (c : Char) : Bool :=
  c = ' ' || c = '\t' || c = '\x0B' || c = '\x0C'

/-- A line that is blank, or a comment behind blanks. -/
structure ScriptLine where
  indent : List Char
  comment : Option (List Char)
  blank : ∀ c ∈ indent, isIndent c = true
  whole : ∀ behind, comment = some behind → '\n' ∉ behind ∧ '\r' ∉ behind

namespace ScriptLine

def marked (line : ScriptLine) : List Char :=
  (line.comment.map ('#' :: ·)).getD []

def text (line : ScriptLine) : List Char :=
  line.indent ++ line.marked

def script : List ScriptLine → List Char
  | [] => []
  | [line] => line.text
  | line :: next :: later => line.text ++ '\n' :: script (next :: later)

def span? (style : StyleId) (start : Nat) (line : ScriptLine) : Option Span :=
  line.comment.map fun _ => ⟨style, start + line.indent.length, start + line.text.length⟩

def spans (style : StyleId) (start : Nat) : List ScriptLine → List Span
  | [] => []
  | line :: later =>
    (line.span? style start).toList ++ spans style (start + line.text.length + 1) later

/-- The spans that a script is to have: none where the table has no style for comments. -/
def styled (table : StyleTable) (lines : List ScriptLine) : List Span :=
  match table.resolve "comment" with
  | some style => spans style 0 lines
  | none => []

def range? (start : Nat) (line : ScriptLine) : Option (Nat × Nat) :=
  line.comment.map fun _ =>
    (start + (Utf8.encode line.indent).length, start + (Utf8.encode line.text).length)

def ranges (start : Nat) : List ScriptLine → List (Nat × Nat)
  | [] => []
  | line :: later =>
    (line.range? start).toList ++ ranges (start + (Utf8.encode line.text).length + 1) later

def captures (lines : List ScriptLine) : List Capture :=
  (ranges 0 lines).map fun (start, stop) => ⟨"comment", start, stop⟩

theorem kind_of_mem_captures {lines : List ScriptLine} {capture : Capture}
    (member : capture ∈ captures lines) : capture.kind = "comment" := by
  obtain ⟨range, _, rfl⟩ := List.mem_map.mp member
  rfl

end ScriptLine

/-- What is assumed of a grammar and the text of a query for it: in a script the query captures each
comment, once, as `comment` from the mark to the end of the line, and nothing else. -/
structure CapturesComments {γ : Type} [ParserLibrary γ] (grammar : γ) (text : String) : Prop where
  accepts : ParserLibrary.accepts grammar = true
  captures : ∃ query, ParserLibrary.compile? grammar text = some query ∧
    ∀ lines, ∃ tree,
      ParserLibrary.parse? grammar (Utf8.encode (ScriptLine.script lines)) = some tree ∧
        ((ParserLibrary.hits query tree (Utf8.encode (ScriptLine.script lines))).map
          (·.capture)).Perm (ScriptLine.captures lines)

theorem Hit.ranked_perm {hits : List Hit} (shown : ∀ hit ∈ hits, hit.isInternal = false) :
    (ranked hits).Perm (hits.map (·.capture)) := by
  have all : hits.filter (!·.isInternal) = hits :=
    List.filter_eq_self.mpr fun hit member => by rw [shown hit member]; rfl
  rw [ranked, all]
  exact (byPattern_perm hits).map _

theorem CapturesComments.annotate {γ : Type} [ParserLibrary γ] {grammar : γ} {text : String}
    (law : CapturesComments grammar text) {annotator : Annotator γ}
    (bundled : annotator.entry? "bash" = some (.ofText "bash" grammar text))
    (lines : List ScriptLine) :
    (annotator.annotate "bash" (Utf8.encode (ScriptLine.script lines))).Perm
      (ScriptLine.captures lines) := by
  obtain ⟨query, compiled, finds⟩ := law.captures
  obtain ⟨tree, parsed, found⟩ := finds lines
  have shown : ∀ hit ∈ ParserLibrary.hits query tree (Utf8.encode (ScriptLine.script lines)),
      hit.isInternal = false := by
    intro hit member
    have comment := found.subset (List.mem_map_of_mem member)
    rw [Hit.isInternal, ScriptLine.kind_of_mem_captures comment]
    decide
  have annotated : annotator.annotate "bash" (Utf8.encode (ScriptLine.script lines)) =
      Hit.ranked (ParserLibrary.hits query tree (Utf8.encode (ScriptLine.script lines))) := by
    simp [Annotator.annotate, Annotator.annotateOn, bundled, Option.filter, GrammarEntry.hasQuery,
      GrammarEntry.ofText, compiled, TaskPool.dependable, GrammarEntry.captures,
      ParserLibrary.captures, law.accepts, parsed]
  rw [annotated]
  exact (Hit.ranked_perm shown).trans found

/-! ### The grammar of line comments -/

namespace ScriptLine

theorem lineFeed_notMem_text (line : ScriptLine) : '\n' ∉ line.text := by
  simp only [text, marked, List.mem_append, not_or]
  constructor
  · intro member
    have blank := line.blank '\n' member
    revert blank
    decide
  · cases comment : line.comment with
    | none => simp
    | some behind => simpa using (line.whole behind comment).1

theorem lineEnd_notMem_encode (line : ScriptLine) : (0x0A : UInt8) ∉ Utf8.encode line.text :=
  (@Utf8.mem_encode_iff '\n' (by decide) line.text).not.mpr line.lineFeed_notMem_text

theorem encode_script_cons (line next : ScriptLine) (later : List ScriptLine) :
    Utf8.encode (script (line :: next :: later)) =
      Utf8.encode line.text ++ 0x0A :: Utf8.encode (script (next :: later)) := by
  rw [script, Utf8.encode_append, Utf8.encode_cons, Utf8.encodeChar_of_ascii (by decide)]
  rfl

end ScriptLine

namespace Grammar

theorem linesFrom_of_whole {line : Bytes} (whole : 0x0A ∉ line) (start : Nat) :
    linesFrom start line = [(start, line)] := by
  induction line generalizing start with
  | nil => rfl
  | cons byte rest ih =>
      simp only [List.mem_cons, not_or] at whole
      simp [linesFrom, isLineEnd, Ne.symm whole.1, ih whole.2]

theorem linesFrom_append {line : Bytes} (whole : 0x0A ∉ line) (start : Nat) (rest : Bytes) :
    linesFrom start (line ++ 0x0A :: rest) =
      (start, line) :: linesFrom (start + line.length + 1) rest := by
  induction line generalizing start with
  | nil => simp [linesFrom, isLineEnd]
  | cons byte later ih =>
      simp only [List.mem_cons, not_or] at whole
      have position : start + 1 + later.length + 1 = start + (later.length + 1) + 1 := by omega
      simp [linesFrom, isLineEnd, Ne.symm whole.1, ih whole.2, position]

theorem isBlankByte_of_indent {c : Char} (blank : isIndent c = true) {byte : UInt8}
    (written : byte ∈ String.utf8EncodeChar c) : isBlankByte byte = true := by
  simp only [isIndent, Bool.or_eq_true, decide_eq_true_eq] at blank
  have ascii : c.toNat < 0x80 := by
    rcases blank with ((rfl | rfl) | rfl) | rfl <;> decide
  rw [Utf8.encodeChar_of_ascii ascii, List.mem_singleton] at written
  subst written
  rcases blank with ((rfl | rfl) | rfl) | rfl <;> decide

theorem commentOfLine?_text (line : ScriptLine) (start : Nat) :
    commentOfLine? (Utf8.encode "#".toList) start (Utf8.encode line.text) = line.range? start := by
  have blank : ∀ byte ∈ Utf8.encode line.indent, isBlankByte byte = true := by
    intro byte member
    obtain ⟨c, inside, written⟩ := List.mem_flatMap.mp member
    exact isBlankByte_of_indent (line.blank c inside) written
  have mark : Utf8.encode "#".toList = [0x23] := by decide
  rw [commentOfLine?, mark, ScriptLine.text, Utf8.encode_append,
    List.takeWhile_append_of_pos blank]
  cases comment : line.comment with
  | none => simp [ScriptLine.range?, ScriptLine.marked, comment]
  | some behind =>
      have begins : Utf8.encode line.marked = 0x23 :: Utf8.encode behind := by
        simp only [ScriptLine.marked, comment, Option.map_some, Option.getD_some]
        rw [Utf8.encode_cons, Utf8.encodeChar_of_ascii (by decide)]
        rfl
      have stops : isBlankByte 0x23 = false := by decide
      simp [ScriptLine.range?, ScriptLine.text, comment, begins, stops]

theorem filterMap_linesFrom_script (lines : List ScriptLine) (start : Nat) :
    ((linesFrom start (Utf8.encode (ScriptLine.script lines))).filterMap fun (start, line) =>
        commentOfLine? (Utf8.encode "#".toList) start line) = ScriptLine.ranges start lines := by
  rw [List.filterMap_eq_flatMap_toList]
  induction lines generalizing start with
  | nil => rfl
  | cons line later ih =>
      cases later with
      | nil =>
          rw [ScriptLine.script, linesFrom_of_whole line.lineEnd_notMem_encode, List.flatMap_cons]
          simp only [commentOfLine?_text]
          rfl
      | cons next later =>
          rw [ScriptLine.encode_script_cons, linesFrom_append line.lineEnd_notMem_encode,
            List.flatMap_cons, ih]
          simp only [commentOfLine?_text]
          rfl

theorem comments_bash (lines : List ScriptLine) :
    bash.comments (Utf8.encode (ScriptLine.script lines)) = ScriptLine.ranges 0 lines :=
  filterMap_linesFrom_script lines 0

end Grammar

def commentQuery : Query :=
  ⟨[⟨"comment", ["comment"]⟩]⟩

theorem Query.hits_script (lines : List ScriptLine) :
    commentQuery.hits (Grammar.bash.nodes (Utf8.encode (ScriptLine.script lines))) =
      (ScriptLine.ranges 0 lines).map fun range => ⟨0, ⟨"comment", range.1, range.2⟩⟩ := by
  have ofComment (range : Nat × Nat) : hitsOfNode 0 ⟨"comment", ["comment"]⟩
      ⟨Grammar.bash.commentKind, range.1, range.2⟩ =
        [⟨0, ⟨"comment", range.1, range.2⟩⟩] := rfl
  have ofSource (start stop : Nat) : hitsOfNode 0 ⟨"comment", ["comment"]⟩
      ⟨Grammar.bash.sourceKind, start, stop⟩ = [] := rfl
  rw [hits, Grammar.nodes, Grammar.comments_bash]
  simp only [commentQuery, List.zipIdx_cons, List.zipIdx_nil, List.flatMap_cons, List.flatMap_nil,
    List.append_nil, List.flatMap_map, ofComment, ofSource, List.nil_append]
  exact List.map_eq_flatMap.symm

theorem Grammar.capturesComments_bash : CapturesComments bash "(comment) @comment" where
  accepts := rfl
  captures := by
    have compiled : Query.read? bash.nodeKinds "(comment) @comment" = some commentQuery := by
      decide +kernel
    refine ⟨commentQuery, compiled, fun lines => ⟨_, rfl, ?_⟩⟩
    have found := congrArg (List.map Hit.capture) (Query.hits_script lines)
    rw [List.map_map] at found
    exact .of_eq found

/-! ### Spans -/

namespace ScriptLine

def styles (style : StyleId) : List ScriptLine → List StyleId
  | [] => []
  | [line] =>
    List.replicate line.indent.length StyleId.unstyled ++ List.replicate line.marked.length style
  | line :: next :: later =>
    List.replicate line.indent.length StyleId.unstyled ++
      List.replicate line.marked.length style ++ StyleId.unstyled :: styles style (next :: later)

end ScriptLine

def covers (ranges : List (Nat × Nat)) (position : Nat) : Bool :=
  ranges.any fun (start, stop) => start ≤ position && position < stop

theorem covers_append (first second : List (Nat × Nat)) (position : Nat) :
    covers (first ++ second) position = (covers first position || covers second position) := by
  simp [covers]

theorem covers_of_ended {ranges : List (Nat × Nat)} {position : Nat}
    (ended : ∀ range ∈ ranges, range.2 ≤ position) : covers ranges position = false := by
  simp only [covers, List.any_eq_false, Bool.and_eq_true, decide_eq_true_eq]
  intro range member
  have bound := ended range member
  omega

theorem covers_of_ahead {ranges : List (Nat × Nat)} {position : Nat}
    (ahead : ∀ range ∈ ranges, position < range.1) : covers ranges position = false := by
  simp only [covers, List.any_eq_false, Bool.and_eq_true, decide_eq_true_eq]
  intro range member
  have bound := ahead range member
  omega

theorem styleAt_of_comments {captures : List Capture}
    (ofComment : ∀ capture ∈ captures, capture.kind = "comment") (table : StyleTable)
    (position : Nat) :
    Reference.styleAt table captures position =
      if captures.any fun capture => capture.start ≤ position && position < capture.stop then
        table.resolve "comment" else none := by
  induction captures with
  | nil => rfl
  | cons capture later ih =>
      rw [List.forall_mem_cons] at ofComment
      have behind := ih ofComment.2
      rw [Reference.styleAt] at behind
      rw [Reference.styleAt, List.findSome?_cons, behind, ofComment.1, List.any_cons]
      by_cases inside : capture.start ≤ position ∧ position < capture.stop
      · cases table.resolve "comment" <;> simp [inside]
      · simp [inside]

theorem styleAt_of_perm {captures : List Capture} {lines : List ScriptLine}
    (found : captures.Perm (ScriptLine.captures lines)) (table : StyleTable) (position : Nat) :
    Reference.styleAt table captures position =
      if covers (ScriptLine.ranges 0 lines) position then table.resolve "comment" else none := by
  have ofComment : ∀ capture ∈ captures, capture.kind = "comment" := fun _ member =>
    ScriptLine.kind_of_mem_captures (found.subset member)
  rw [styleAt_of_comments ofComment, found.any_eq, ScriptLine.captures, List.any_map]
  rfl

theorem map_charStarts_of_const {α : Type} {value : Nat → α} {style : α} {position : Nat}
    {text : List Char}
    (const : ∀ start, position ≤ start → start < position + (Utf8.encode text).length →
      value start = style) :
    (charStarts position text).map value = List.replicate text.length style := by
  rw [List.eq_replicate_iff]
  refine ⟨by simp, fun found member => ?_⟩
  obtain ⟨start, inside, rfl⟩ := List.mem_map.mp member
  have bounds := mem_charStarts inside
  exact const start bounds.1 bounds.2

namespace ScriptLine

theorem le_of_mem_ranges {lines : List ScriptLine} {start : Nat} {range : Nat × Nat}
    (member : range ∈ ranges start lines) : start ≤ range.1 := by
  induction lines generalizing start with
  | nil => cases member
  | cons line later ih =>
      simp only [ranges, List.mem_append, Option.mem_toList, range?, Option.map_eq_some_iff]
        at member
      rcases member with ⟨_, _, rfl⟩ | behind
      · exact Nat.le_add_right ..
      · have further := ih behind
        omega

theorem stop_of_mem_range? {line : ScriptLine} {start : Nat} {range : Nat × Nat}
    (member : range ∈ (line.range? start).toList) :
    range.2 = start + (Utf8.encode line.text).length := by
  simp only [Option.mem_toList, range?, Option.map_eq_some_iff] at member
  obtain ⟨_, _, rfl⟩ := member
  rfl

theorem map_charStarts_line (style : StyleId) (line : ScriptLine) (start : Nat)
    (before behind : List (Nat × Nat)) (earlier : ∀ range ∈ before, range.2 ≤ start)
    (ahead : ∀ range ∈ behind, start + (Utf8.encode line.text).length < range.1) :
    ((charStarts start line.text).map fun position =>
        if covers (before ++ ((line.range? start).toList ++ behind)) position then style
        else StyleId.unstyled) =
      List.replicate line.indent.length StyleId.unstyled ++
        List.replicate line.marked.length style := by
  have size : (Utf8.encode line.text).length =
      (Utf8.encode line.indent).length + (Utf8.encode line.marked).length := by
    rw [text, Utf8.encode_append, List.length_append]
  rw [text, charStarts_append, List.map_append]
  congr 1
  · refine map_charStarts_of_const fun position lower upper => ?_
    have noneBefore := covers_of_ended fun range member => (earlier range member).trans lower
    have noneBehind : covers behind position = false :=
      covers_of_ahead fun range member => by have bound := ahead range member; omega
    have notYet : covers (line.range? start).toList position = false := by
      refine covers_of_ahead fun range member => ?_
      simp only [Option.mem_toList, range?, Option.map_eq_some_iff] at member
      obtain ⟨_, _, rfl⟩ := member
      exact upper
    simp [covers_append, noneBefore, noneBehind, notYet]
  · refine map_charStarts_of_const fun position lower upper => ?_
    have here : covers (line.range? start).toList position = true := by
      cases comment : line.comment with
      | none =>
          simp only [marked, comment, Option.map_none, Option.getD_none, Utf8.encode_nil,
            List.length_nil] at upper
          omega
      | some behind =>
          simp only [covers, range?, comment, Option.map_some, Option.toList_some, List.any_cons,
            List.any_nil, Bool.or_false, Bool.and_eq_true, decide_eq_true_eq]
          omega
    simp [covers_append, here]

theorem map_charStarts_script (style : StyleId) (lines : List ScriptLine) (start : Nat)
    (before : List (Nat × Nat)) (earlier : ∀ range ∈ before, range.2 ≤ start) :
    ((charStarts start (script lines)).map fun position =>
        if covers (before ++ ranges start lines) position then style
        else StyleId.unstyled) = styles style lines := by
  induction lines generalizing start before with
  | nil => rfl
  | cons line later ih =>
      cases later with
      | nil =>
          exact map_charStarts_line style line start before [] earlier (by simp)
      | cons next later =>
          let rest := ranges (start + (Utf8.encode line.text).length + 1) (next :: later)
          have ahead : ∀ range ∈ rest, start + (Utf8.encode line.text).length < range.1 :=
            fun range member => le_of_mem_ranges member
          have ended : ∀ range ∈ before ++ (line.range? start).toList,
              range.2 ≤ start + (Utf8.encode line.text).length := by
            intro range member
            rcases List.mem_append.mp member with old | own
            · exact (earlier range old).trans (Nat.le_add_right ..)
            · exact (stop_of_mem_range? own).le
          have first := map_charStarts_line style line start before rest earlier ahead
          -- the line feed stands behind the comment of this line and ahead of all later ones
          have between : covers (before ++ ((line.range? start).toList ++ rest))
              (start + (Utf8.encode line.text).length) = false := by
            rw [← List.append_assoc, covers_append, covers_of_ended ended, covers_of_ahead ahead]
            rfl
          have second := ih (start + (Utf8.encode line.text).length + 1)
            (before ++ (line.range? start).toList)
            fun range member => (ended range member).trans (Nat.le_succ _)
          have feed : (String.utf8EncodeChar '\n').length = 1 := rfl
          rw [List.append_assoc] at second
          rw [script, charStarts_append, List.map_append, ranges, styles, first, charStarts,
            List.map_cons, feed, between, second]
          rfl

/-! ### The spans of a script -/

end ScriptLine

namespace Compose

theorem sweepFrom_replicate (style : StyleId) (start position count : Nat) (rest : List StyleId) :
    sweepFrom style start position (List.replicate count style ++ rest) =
      sweepFrom style start (position + count) rest := by
  induction count generalizing position with
  | zero => rfl
  | succ count ih =>
      simp only [List.replicate_succ, List.cons_append, sweepFrom, if_true, ih]
      rw [Nat.add_assoc, Nat.add_comm 1]

theorem closeRun_unstyled (start stop : Nat) : closeRun StyleId.unstyled start stop = [] := rfl

theorem closeRun_styled {style : StyleId} (styled : style.isStyled = true) (start stop : Nat) :
    closeRun style start stop = [⟨style, start, stop⟩] := by
  rw [closeRun, if_pos styled]

end Compose

namespace ScriptLine

open Compose

theorem length_text (line : ScriptLine) :
    line.text.length = line.indent.length + line.marked.length :=
  List.length_append

/-- Behind a line stands the end of the script or a line feed, and either closes a comment. -/
theorem sweepFrom_line {style : StyleId} (styled : style.isStyled = true) (line : ScriptLine)
    (opened position : Nat) (rest : List StyleId)
    (behindIt : ∀ next ∈ rest.head?, next = StyleId.unstyled) :
    ∃ later, sweepFrom StyleId.unstyled opened position
        (List.replicate line.indent.length StyleId.unstyled ++
          List.replicate line.marked.length style ++ rest) =
      (line.span? style position).toList ++
        sweepFrom StyleId.unstyled later (position + line.text.length) rest := by
  rw [List.append_assoc, sweepFrom_replicate]
  cases comment : line.comment with
  | none =>
      refine ⟨opened, ?_⟩
      simp [span?, length_text, marked, comment]
  | some behind =>
      refine ⟨position + line.text.length, ?_⟩
      have different : style ≠ StyleId.unstyled := by simpa [StyleId.isStyled] using styled
      have count : line.marked.length = behind.length + 1 := by simp [marked, comment]
      rw [count, List.replicate_succ, List.cons_append, sweepFrom, if_neg different,
        closeRun_unstyled, List.nil_append, sweepFrom_replicate]
      -- the run that began at the mark is still open, and what comes next closes it
      have stop : position + line.indent.length + 1 + behind.length =
          position + line.text.length := by
        rw [length_text]
        omega
      rw [stop, span?, comment, Option.map_some, Option.toList_some]
      cases rest with
      | nil => rw [sweepFrom, sweepFrom, closeRun_styled styled, closeRun_unstyled, List.append_nil]
      | cons next rest =>
          cases behindIt next (by simp)
          rw [sweepFrom, if_neg different.symm, sweepFrom, if_pos rfl, closeRun_styled styled]

theorem sweepFrom_styles {style : StyleId} (styled : style.isStyled = true)
    (lines : List ScriptLine) (opened position : Nat) :
    sweepFrom StyleId.unstyled opened position (styles style lines) =
      spans style position lines := by
  induction lines generalizing opened position with
  | nil => rfl
  | cons line later ih =>
      cases later with
      | nil =>
          obtain ⟨_, swept⟩ := sweepFrom_line styled line opened position [] (by simp)
          rw [List.append_nil] at swept
          rw [styles, swept]
          rfl
      | cons next later =>
          obtain ⟨between, swept⟩ := sweepFrom_line styled line opened position
            (StyleId.unstyled :: styles style (next :: later)) (by simp)
          rw [styles, swept, sweepFrom, if_pos rfl, ih]
          rfl

end ScriptLine

theorem compose_script {captures : List Capture} {lines : List ScriptLine}
    (found : captures.Perm (ScriptLine.captures lines)) (table : StyleTable) :
    compose captures (Utf8.encode (ScriptLine.script lines)) table =
      ScriptLine.styled table lines := by
  rw [compose_encode]
  simp only [styleAt_of_perm found, ScriptLine.styled]
  cases resolved : table.resolve "comment" with
  | none =>
      simp only [ite_self, Option.getD_none, List.map_const', length_charStarts]
      have blank := Compose.sweepFrom_replicate StyleId.unstyled 0 0
        (ScriptLine.script lines).length []
      rw [List.append_nil] at blank
      exact blank
  | some style =>
      have styles := ScriptLine.map_charStarts_script style lines 0 [] (by simp)
      have same (position : Nat) : (if covers (ScriptLine.ranges 0 lines) position = true then
          some style else none).getD StyleId.unstyled =
            if covers (ScriptLine.ranges 0 lines) position then style else StyleId.unstyled := by
        split <;> rfl
      simp only [List.nil_append] at styles
      simp only [same, styles]
      exact ScriptLine.sweepFrom_styles (table.isStyled_of_resolve _ _ resolved) lines 0 0

end LiveHighlight
