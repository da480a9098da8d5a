import LiveHighlight.Proofs.Span.Coverage
import Mathlib.Logic.Equiv.Fin.Basic

/-!
Lists of captures that compose alike.

What a list of captures gives is decided byte by byte, by the first capture over the byte that
resolves. So captures at the end change nothing that is styled before them, a capture that is first
nowhere can be left out, and captures may change places unless they give one byte different styles.
-/

namespace LiveHighlight

open Utf8 (Bytes)

def StyledAs (spans : List Span) (unit : Nat) (style : StyleId) : Prop :=
  ∃ span ∈ spans, span.style = style ∧ span.start ≤ unit ∧ unit < span.stop

/-- Both captures resolve, to different styles, and there is a byte of the source under both. -/
def Capture.Conflicts (table : StyleTable) (length : Nat) (first second : Capture) : Prop :=
  (∃ position < length, first.Covers position ∧ second.Covers position) ∧
    ∃ style other, table.resolve first.kind = some style ∧
      table.resolve second.kind = some other ∧ style ≠ other

/-- The same captures in another order: where each of them stands. -/
structure Reordering (captures reordered : List Capture) where
  place : Fin captures.length ≃ Fin reordered.length
  same : ∀ index, reordered[place index] = captures[index]

/-- Of two captures in conflict, the one that stands first does so in the other order as well. -/
def Reordering.KeepsConflicts {captures reordered : List Capture} (table : StyleTable)
    (length : Nat) (reordering : Reordering captures reordered) : Prop :=
  ∀ first second, first < second →
    captures[first].Conflicts table length captures[second] →
      reordering.place first < reordering.place second

namespace Reference

variable {table : StyleTable} {captures : List Capture} {position : Nat}

theorem styleAt_append (earlier later : List Capture) :
    styleAt table (earlier ++ later) position =
      (styleAt table earlier position).or (styleAt table later position) :=
  List.findSome?_append

theorem styleAt_unresolved {capture : Capture} (unresolved : table.resolve capture.kind = none) :
    styleAt table [capture] position = none := by
  simp [styleAt, unresolved]

theorem styleAt_uncovered {capture : Capture} (uncovered : ¬capture.Covers position) :
    styleAt table [capture] position = none := by
  unfold Capture.Covers at uncovered
  simp [styleAt, uncovered]

theorem exists_first_of_styleAt {style : StyleId}
    (decided : styleAt table captures position = some style) :
    ∃ first : Fin captures.length, captures[first].Covers position ∧
      table.resolve captures[first].kind = some style ∧
        ∀ index < first, captures[index].Covers position →
          table.resolve captures[index].kind = none := by
  obtain ⟨earlier, capture, later, rfl, covers, resolves, passed⟩ := styleAt_eq_some_iff.mp decided
  refine ⟨⟨earlier.length, by simp⟩, by simpa using covers, by simpa using resolves, ?_⟩
  intro index before
  have inside : index.val < earlier.length := before
  have here : (earlier ++ capture :: later)[index] = earlier[index.val] :=
    List.getElem_append_left inside
  rw [here]
  exact passed _ (List.getElem_mem inside)

end Reference

/-! ### The same styles at every byte -/

theorem Compose.slots_congr {table : StyleTable} {captures others : List Capture} {length : Nat}
    (same : ∀ position < length,
      Reference.styleAt table captures position = Reference.styleAt table others position) :
    slots table captures length = slots table others length := by
  refine List.ext_getElem? fun position => ?_
  by_cases bound : position < length
  · rw [slots_getElem? table captures length position bound,
      slots_getElem? table others length position bound, same position bound]
  · rw [List.getElem?_eq_none (by rw [length_slots]; omega),
      List.getElem?_eq_none (by rw [length_slots]; omega)]

theorem compose_congr {table : StyleTable} {captures others : List Capture} {source : Bytes}
    (same : ∀ position < source.length,
      Reference.styleAt table captures position = Reference.styleAt table others position) :
    compose captures source table = compose others source table := by
  rw [compose, compose, Compose.slots_congr same]

theorem styledAs_compose_iff {table : StyleTable} {captures : List Capture} {source : Bytes}
    {unit : Nat} {style : StyleId} :
    StyledAs (compose captures source table) unit style ↔
      ∃ position, (Reference.unitStarts 0 source)[unit]? = some position ∧
        Reference.styleAt table captures position = some style := by
  have styles : (∃ position, (Reference.unitStarts 0 source)[unit]? = some position ∧
      Reference.styleAt table captures position = some style) ↔
        (Reference.unitStyles table captures source)[unit]? = some (some style) := by
    rw [Reference.unitStyles, List.getElem?_map, Option.map_eq_some_iff]
  rw [styles, compose_eq_reference]
  constructor
  · rintro ⟨span, member, rfl, lower, upper⟩
    exact ((Reference.mem_runs_iff _ span).mp member).style_inside unit lower upper
  · exact Reference.exists_run_around _ unit style

/-! ### Captures at the end, captures left out -/

section

variable {table : StyleTable} {source : Bytes}

theorem styledAs_append_iff {captures : List Capture} {unit : Nat} {style : StyleId}
    (styled : StyledAs (compose captures source table) unit style) (more : List Capture)
    (other : StyleId) :
    StyledAs (compose (captures ++ more) source table) unit other ↔ other = style := by
  obtain ⟨position, start, decided⟩ := styledAs_compose_iff.mp styled
  have kept : Reference.styleAt table (captures ++ more) position = some style := by
    rw [Reference.styleAt_append, decided, Option.some_or]
  rw [styledAs_compose_iff]
  constructor
  · rintro ⟨_, alsoStart, given⟩
    cases start.symm.trans alsoStart
    exact Option.some.inj (given.symm.trans kept)
  · rintro rfl
    exact ⟨position, start, kept⟩

/-- A capture is idle behind others if it does not resolve, or if every byte of the source under it
is already under one of them that does. -/
def Capture.IsIdleBehind (table : StyleTable) (length : Nat) (earlier : List Capture)
    (capture : Capture) : Prop :=
  table.resolve capture.kind = none ∨
    ∀ position, (Compose.clamp length capture).start ≤ position →
      position < (Compose.clamp length capture).stop →
        ∃ other ∈ earlier, other.Covers position ∧ (table.resolve other.kind).isSome = true

theorem compose_leave_out {earlier : List Capture} {capture : Capture}
    (idle : capture.IsIdleBehind table source.length earlier) (later : List Capture) :
    compose (earlier ++ later) source table = compose (earlier ++ capture :: later) source table := by
  refine compose_congr fun position bound => ?_
  have split : earlier ++ capture :: later = earlier ++ ([capture] ++ later) := rfl
  rw [split, Reference.styleAt_append, Reference.styleAt_append, Reference.styleAt_append]
  rcases idle with unresolved | covered
  · rw [Reference.styleAt_unresolved unresolved, Option.none_or]
  by_cases covers : capture.Covers position
  · obtain ⟨lower, upper⟩ := (Compose.covers_clamp_iff capture bound).mpr covers
    obtain ⟨style, decided⟩ := Option.isSome_iff_exists.mp
      (Reference.isSome_styleAt_iff.mpr (covered position lower upper))
    rw [decided, Option.some_or, Option.some_or]
  · rw [Reference.styleAt_uncovered covers, Option.none_or]

/-! ### Captures in another order -/

namespace Reordering

variable {captures reordered : List Capture}

theorem mem_iff (reordering : Reordering captures reordered) (capture : Capture) :
    capture ∈ reordered ↔ capture ∈ captures := by
  constructor
  · intro member
    obtain ⟨index, rfl⟩ := List.mem_iff_get.mp member
    obtain ⟨home, rfl⟩ := reordering.place.surjective index
    have same : reordered.get (reordering.place home) = captures.get home := reordering.same home
    exact same ▸ List.get_mem captures home
  · intro member
    obtain ⟨home, rfl⟩ := List.mem_iff_get.mp member
    have same : reordered.get (reordering.place home) = captures.get home := reordering.same home
    exact same ▸ List.get_mem reordered (reordering.place home)

theorem isSome_styleAt_iff (reordering : Reordering captures reordered) {position : Nat} :
    (Reference.styleAt table reordered position).isSome = true ↔
      (Reference.styleAt table captures position).isSome = true := by
  simp only [Reference.isSome_styleAt_iff, reordering.mem_iff]

theorem style_eq (reordering : Reordering captures reordered) {length position : Nat}
    (keeps : reordering.KeepsConflicts table length) (bound : position < length)
    {style other : StyleId} (decided : Reference.styleAt table captures position = some style)
    (given : Reference.styleAt table reordered position = some other) : style = other := by
  obtain ⟨first, covers, resolves, passed⟩ := Reference.exists_first_of_styleAt decided
  obtain ⟨next, alsoCovers, alsoResolves, alsoPassed⟩ := Reference.exists_first_of_styleAt given
  obtain ⟨home, rfl⟩ := reordering.place.surjective next
  rw [reordering.same home] at alsoCovers alsoResolves
  by_contra different
  -- the captures that decide in the two orders would be in conflict, and neither comes first
  rcases Nat.lt_trichotomy first home with before | same | behind
  · have conflict : captures[first].Conflicts table length captures[home] :=
      ⟨⟨position, bound, covers, alsoCovers⟩, style, other, resolves, alsoResolves, different⟩
    have stays := keeps first home before conflict
    rw [← reordering.same first] at covers resolves
    rw [alsoPassed _ stays covers] at resolves
    cases resolves
  · obtain rfl := Fin.ext same
    exact different (Option.some.inj (resolves.symm.trans alsoResolves))
  · rw [passed home behind alsoCovers] at alsoResolves
    cases alsoResolves

theorem compose_eq (reordering : Reordering captures reordered)
    (keeps : reordering.KeepsConflicts table source.length) :
    compose reordered source table = compose captures source table := by
  refine compose_congr fun position bound => ?_
  have both : (Reference.styleAt table reordered position).isSome = true ↔
      (Reference.styleAt table captures position).isSome = true := reordering.isSome_styleAt_iff
  cases given : Reference.styleAt table reordered position <;>
    cases decided : Reference.styleAt table captures position
  · rfl
  · simp [given, decided] at both
  · simp [given, decided] at both
  · rw [reordering.style_eq keeps bound decided given]

end Reordering

/-- A character that is styled keeps its style when captures are appended. A capture that does not
resolve, or whose range within the source is under earlier captures that do, can be left out. And
captures can be reordered, as long as those that overlap and resolve to different styles keep their
order. -/
theorem captures_rearranged (source : Bytes) (table : StyleTable) :
    (∀ captures more unit style, StyledAs (compose captures source table) unit style →
      ∀ other, StyledAs (compose (captures ++ more) source table) unit other ↔ other = style) ∧
    (∀ earlier capture later, capture.IsIdleBehind table source.length earlier →
      compose (earlier ++ later) source table =
        compose (earlier ++ capture :: later) source table) ∧
    ∀ captures reordered (reordering : Reordering captures reordered),
      reordering.KeepsConflicts table source.length →
        compose reordered source table = compose captures source table := by
  refine ⟨?_, ?_, ?_⟩
  · intro captures more unit style styled other
    exact styledAs_append_iff styled more other
  · intro earlier capture later idle
    exact compose_leave_out idle later
  · intro captures reordered reordering keeps
    exact reordering.compose_eq keeps

end

def fourBytes : Bytes :=
  [0x61, 0x62, 0x63, 0x64]

def keywordFirst : List Capture :=
  [⟨"keyword", 0, 2⟩, ⟨"string", 2, 9⟩]

def stringFirst : List Capture :=
  [⟨"string", 2, 9⟩, ⟨"keyword", 0, 2⟩]

def exchange : Reordering keywordFirst stringFirst where
  place := (Equiv.swap 0 1 : Fin 2 ≃ Fin 2)
  same := Fin.forall_fin_two.mpr ⟨rfl, rfl⟩

theorem keepsConflicts_exchange (table : StyleTable) (length : Nat) :
    exchange.KeepsConflicts table length := by
  intro first second before conflict
  have bound : second.val < 2 := second.isLt
  have order : first.val < second.val := before
  obtain rfl : first = ⟨0, by decide⟩ := Fin.ext (by simp only; omega)
  obtain rfl : second = ⟨1, by decide⟩ := Fin.ext (by simp only; omega)
  obtain ⟨⟨position, _, ⟨_, upper⟩, lower, _⟩, _⟩ := conflict
  exact absurd (Nat.lt_of_le_of_lt lower upper) (Nat.lt_irrefl 2)

theorem captures_rearranged_fourBytes :
    (StyledAs (compose keywordFirst fourBytes .builtin) 3 2 ∧
      ∀ other, StyledAs (compose (keywordFirst ++ [⟨"comment", 0, 4⟩]) fourBytes .builtin) 3 other ↔
        other = 2) ∧
    (Capture.IsIdleBehind .builtin fourBytes.length keywordFirst ⟨"comment", 1, 99⟩ ∧
      compose (keywordFirst ++ []) fourBytes .builtin =
        compose (keywordFirst ++ [⟨"comment", 1, 99⟩]) fourBytes .builtin) ∧
    exchange.KeepsConflicts .builtin fourBytes.length ∧
      compose stringFirst fourBytes .builtin = compose keywordFirst fourBytes .builtin := by
  obtain ⟨append, leaveOut, reorder⟩ := captures_rearranged fourBytes .builtin
  have spans : compose keywordFirst fourBytes .builtin = [⟨3, 0, 2⟩, ⟨2, 2, 4⟩] := by
    decide +kernel
  have styled : StyledAs (compose keywordFirst fourBytes .builtin) 3 2 :=
    ⟨⟨2, 2, 4⟩, by simp [spans], rfl, by decide, by decide⟩
  have keyword : (StyleTable.builtin.resolve "keyword").isSome = true := by decide +kernel
  have string : (StyleTable.builtin.resolve "string").isSome = true := by decide +kernel
  have idle : Capture.IsIdleBehind .builtin fourBytes.length keywordFirst ⟨"comment", 1, 99⟩ := by
    refine .inr fun position _ upper => ?_
    by_cases front : position < 2
    · exact ⟨⟨"keyword", 0, 2⟩, by simp [keywordFirst], ⟨Nat.zero_le _, front⟩, keyword⟩
    · have inside : position < 4 := upper
      exact ⟨⟨"string", 2, 9⟩, by simp [keywordFirst], ⟨by simp only; omega, by simp only; omega⟩,
        string⟩
  exact ⟨⟨styled, append _ _ _ _ styled⟩, ⟨idle, leaveOut _ _ _ idle⟩,
    keepsConflicts_exchange _ _, reorder _ _ exchange (keepsConflicts_exchange _ _)⟩

end LiveHighlight
