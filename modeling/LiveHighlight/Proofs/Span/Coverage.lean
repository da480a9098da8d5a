import LiveHighlight.Proofs.Span.Characters

/-!
Spans of characters as ranges of bytes.

Where captures begin and end between the characters of a text, a character's bytes are all under
the same captures, so its first byte speaks for it. Read back in bytes, spans then cover the bytes
under a capture that resolves, and no others, each byte in the style painted on it.
-/

namespace LiveHighlight

open Utf8 (encode)

/-! ### Characters and bytes -/

/-- The byte at which a character of a text begins, and the end of the text behind its last. -/
def byteOffset (text : List Char) (char : Nat) : Nat :=
  (encode (text.take char)).length

theorem byteOffset_add (text : List Char) (first more : Nat) :
    byteOffset text (first + more) =
      byteOffset text first + (encode ((text.drop first).take more)).length := by
  simp only [byteOffset, List.take_add, Utf8.encode_append, List.length_append]

theorem byteOffset_mono (text : List Char) {first second : Nat} (ordered : first ≤ second) :
    byteOffset text first ≤ byteOffset text second := by
  obtain ⟨more, rfl⟩ := Nat.exists_eq_add_of_le ordered
  rw [byteOffset_add]
  exact Nat.le_add_right _ _

theorem byteOffset_length (text : List Char) :
    byteOffset text text.length = (encode text).length := by
  rw [byteOffset, List.take_length]

theorem byteOffset_le (text : List Char) {char : Nat} (bound : char ≤ text.length) :
    byteOffset text char ≤ (encode text).length :=
  byteOffset_length text ▸ byteOffset_mono text bound

theorem exists_char_below (text : List Char) (position chars : Nat)
    (bound : position < byteOffset text chars) :
    ∃ char < chars, byteOffset text char ≤ position ∧ position < byteOffset text (char + 1) := by
  induction chars with
  | zero => simp [byteOffset] at bound
  | succ chars ih =>
      by_cases before : position < byteOffset text chars
      · obtain ⟨char, below, around⟩ := ih before
        exact ⟨char, by omega, around⟩
      · exact ⟨chars, by omega, by omega, bound⟩

theorem exists_char_around (text : List Char) (position : Nat)
    (bound : position < (encode text).length) :
    ∃ char < text.length, byteOffset text char ≤ position ∧
      position < byteOffset text (char + 1) :=
  exists_char_below text position text.length (by rwa [byteOffset_length])

theorem charStarts_getElem? (text : List Char) (char : Nat) (bound : char < text.length) :
    (charStarts 0 text)[char]? = some (byteOffset text char) := by
  have split : text = text.take char ++ text[char] :: text.drop (char + 1) := by simp
  have before : (text.take char).length = char := by
    rw [List.length_take]
    omega
  conv_lhs => rw [split, charStarts_append]
  rw [List.getElem?_append_right (by rw [length_charStarts, before]), length_charStarts, before,
    Nat.sub_self, charStarts, Nat.zero_add]
  rfl

def IsBoundary (text : List Char) (position : Nat) : Prop :=
  ∃ char, byteOffset text char = position

theorem IsBoundary.le_iff {text : List Char} {boundary char position : Nat}
    (isBoundary : IsBoundary text boundary) (lower : byteOffset text char ≤ position)
    (upper : position < byteOffset text (char + 1)) :
    boundary ≤ position ↔ boundary ≤ byteOffset text char := by
  obtain ⟨other, rfl⟩ := isBoundary
  refine ⟨fun before => byteOffset_mono text ?_, fun before => before.trans lower⟩
  by_contra behind
  have next := byteOffset_mono text (show char + 1 ≤ other by omega)
  omega

/-! ### Captures over bytes -/

def Capture.Covers (capture : Capture) (position : Nat) : Prop :=
  capture.start ≤ position ∧ position < capture.stop

/-- Within the text, a capture begins and ends between characters. -/
def Capture.IsAligned (text : List Char) (capture : Capture) : Prop :=
  IsBoundary text (Compose.clamp (encode text).length capture).start ∧
    IsBoundary text (Compose.clamp (encode text).length capture).stop

theorem Compose.covers_clamp_iff (capture : Capture) {length position : Nat}
    (bound : position < length) :
    (clamp length capture).start ≤ position ∧ position < (clamp length capture).stop ↔
      capture.Covers position := by
  simp only [clamp, Capture.Covers]
  omega

theorem Capture.IsAligned.covers_iff {text : List Char} {capture : Capture}
    (aligned : capture.IsAligned text) {char position : Nat} (inside : char < text.length)
    (lower : byteOffset text char ≤ position) (upper : position < byteOffset text (char + 1)) :
    capture.Covers position ↔ capture.Covers (byteOffset text char) := by
  have bound : position < (encode text).length := upper.trans_le (byteOffset_le text inside)
  have atStart := aligned.1.le_iff lower upper
  have atStop := aligned.2.le_iff lower upper
  rw [← Compose.covers_clamp_iff capture bound,
    ← Compose.covers_clamp_iff capture (lower.trans_lt bound)]
  omega

/-- The first capture that covers a byte and resolves gives it a style. -/
def FirstGives (table : StyleTable) (captures : List Capture) (position : Nat) (style : StyleId) :
    Prop :=
  ∃ earlier capture later, captures = earlier ++ capture :: later ∧ capture.Covers position ∧
    table.resolve capture.kind = some style ∧
    ∀ other ∈ earlier, other.Covers position → table.resolve other.kind = none

namespace Reference

variable {table : StyleTable} {captures : List Capture} {position : Nat}

theorem styleAt_eq_some_iff {style : StyleId} :
    styleAt table captures position = some style ↔ FirstGives table captures position style := by
  have given (capture : Capture) : (if capture.start ≤ position ∧ position < capture.stop then
        table.resolve capture.kind else none) = some style ↔
      capture.Covers position ∧ table.resolve capture.kind = some style := by
    unfold Capture.Covers
    split <;> simp_all
  have passed (capture : Capture) : (if capture.start ≤ position ∧ position < capture.stop then
        table.resolve capture.kind else none) = none ↔
      (capture.Covers position → table.resolve capture.kind = none) := by
    unfold Capture.Covers
    split <;> simp_all
  simp only [styleAt, List.findSome?_eq_some_iff, given, passed, FirstGives, and_assoc]

theorem isSome_styleAt_iff :
    (styleAt table captures position).isSome = true ↔
      ∃ capture ∈ captures, capture.Covers position ∧
        (table.resolve capture.kind).isSome = true := by
  rw [styleAt, List.findSome?_isSome_iff]
  unfold Capture.Covers
  constructor
  · rintro ⟨capture, member, given⟩
    split at given
    next covers => exact ⟨capture, member, covers, given⟩
    next => cases given
  · rintro ⟨capture, member, covers, resolves⟩
    exact ⟨capture, member, by rwa [if_pos covers]⟩

theorem styleAt_congr {other : Nat}
    (same : ∀ capture ∈ captures, (capture.Covers position ↔ capture.Covers other)) :
    styleAt table captures position = styleAt table captures other := by
  induction captures with
  | nil => rfl
  | cons capture later ih =>
      have first := same capture (by simp)
      unfold Capture.Covers at first
      have rest := ih fun other member => same other (List.mem_cons_of_mem capture member)
      simp only [styleAt, List.findSome?_cons, first] at rest ⊢
      rw [rest]

theorem styleAt_within {text : List Char} (aligned : ∀ capture ∈ captures, capture.IsAligned text)
    {char : Nat} (inside : char < text.length) (lower : byteOffset text char ≤ position)
    (upper : position < byteOffset text (char + 1)) :
    styleAt table captures position = styleAt table captures (byteOffset text char) :=
  styleAt_congr fun capture member => (aligned capture member).covers_iff inside lower upper

theorem unitStyles_getElem? (table : StyleTable) (captures : List Capture) (text : List Char)
    (char : Nat) (inside : char < text.length) :
    (unitStyles table captures (encode text))[char]? =
      some (styleAt table captures (byteOffset text char)) := by
  rw [unitStyles, unitStarts_encode, List.getElem?_map, charStarts_getElem? text char inside]
  rfl

end Reference

/-! ### Spans over bytes -/

/-- A byte is within a span, whose ends are counted in characters. -/
def Span.CoversByte (text : List Char) (span : Span) (position : Nat) : Prop :=
  byteOffset text span.start ≤ position ∧ position < byteOffset text span.stop

theorem Span.coversByte_iff {text : List Char} {span : Span} {char position : Nat}
    (lower : byteOffset text char ≤ position) (upper : position < byteOffset text (char + 1)) :
    span.CoversByte text position ↔ span.start ≤ char ∧ char < span.stop := by
  constructor
  · rintro ⟨from_start, to_stop⟩
    constructor
    · by_contra before
      have next := byteOffset_mono text (show char + 1 ≤ span.start by omega)
      omega
    · by_contra behind
      have last := byteOffset_mono text (show span.stop ≤ char by omega)
      omega
  · rintro ⟨from_start, to_stop⟩
    have first := byteOffset_mono text from_start
    have next := byteOffset_mono text (show char + 1 ≤ span.stop by omega)
    exact ⟨by omega, by omega⟩

section

variable {captures : List Capture} {text : List Char} {table : StyleTable}

theorem lt_length_of_coversByte {span : Span} (member : span ∈ compose captures (encode text) table)
    {position : Nat} (covers : span.CoversByte text position) :
    position < (encode text).length := by
  rw [compose_eq_reference] at member
  have bound := ((Reference.mem_runs_iff _ span).mp member).stop_le_length
  rw [Reference.unitStyles, List.length_map, unitStarts_encode, length_charStarts] at bound
  exact covers.2.trans_le (byteOffset_le text bound)

theorem styleAt_of_coversByte (aligned : ∀ capture ∈ captures, capture.IsAligned text) {span : Span}
    (member : span ∈ compose captures (encode text) table) {position : Nat}
    (covers : span.CoversByte text position) :
    Reference.styleAt table captures position = some span.style := by
  obtain ⟨char, inside, lower, upper⟩ :=
    exists_char_around text position (lt_length_of_coversByte member covers)
  obtain ⟨from_start, to_stop⟩ := (Span.coversByte_iff lower upper).mp covers
  rw [compose_eq_reference] at member
  have run := ((Reference.mem_runs_iff _ span).mp member).style_inside char from_start to_stop
  rw [Reference.unitStyles_getElem? table captures text char inside] at run
  rw [Reference.styleAt_within aligned inside lower upper]
  exact Option.some.inj run

theorem exists_span_over (aligned : ∀ capture ∈ captures, capture.IsAligned text) {position : Nat}
    (bound : position < (encode text).length) {style : StyleId}
    (styled : Reference.styleAt table captures position = some style) :
    ∃ span ∈ compose captures (encode text) table, span.CoversByte text position := by
  obtain ⟨char, inside, lower, upper⟩ := exists_char_around text position bound
  rw [Reference.styleAt_within aligned inside lower upper] at styled
  have here := Reference.unitStyles_getElem? table captures text char inside
  obtain ⟨span, member, _, from_start, to_stop⟩ :=
    Reference.exists_run_around _ char style (here.trans (congrArg some styled))
  rw [compose_eq_reference]
  exact ⟨span, member, (Span.coversByte_iff lower upper).mpr ⟨from_start, to_stop⟩⟩

end

/-- Where captures begin and end between characters, the spans of a text cover exactly the bytes
under a capture that resolves. Every byte of a span, and not only the first of each character, is
painted in the span's style, which the first capture over the byte that resolves gives it. -/
theorem spans_cover_captured_bytes (captures : List Capture) (text : List Char) (table : StyleTable)
    (aligned : ∀ capture ∈ captures, capture.IsAligned text) :
    (∀ position < (encode text).length,
      (∃ span ∈ compose captures (encode text) table, span.CoversByte text position) ↔
        ∃ capture ∈ captures, capture.Covers position ∧
          (table.resolve capture.kind).isSome = true) ∧
    ∀ span ∈ compose captures (encode text) table, ∀ position, span.CoversByte text position →
      (Compose.slots table captures (encode text).length)[position]? = some span.style ∧
        FirstGives table captures position span.style := by
  refine ⟨?_, ?_⟩
  · intro position bound
    rw [← Reference.isSome_styleAt_iff]
    constructor
    · rintro ⟨span, member, covers⟩
      rw [styleAt_of_coversByte aligned member covers]
      rfl
    · intro styled
      obtain ⟨style, found⟩ := Option.isSome_iff_exists.mp styled
      exact exists_span_over aligned bound found
  · intro span member position covers
    have bound := lt_length_of_coversByte member covers
    have styled := styleAt_of_coversByte aligned member covers
    refine ⟨?_, Reference.styleAt_eq_some_iff.mp styled⟩
    rw [Compose.slots_getElem? table captures _ position bound, styled]
    rfl

def mixedText : List Char :=
  ['é', '€', 'x']

def mixedCaptures : List Capture :=
  [⟨"nosuch", 0, 6⟩, ⟨"string", 2, 5⟩, ⟨"comment", 0, 99⟩]

theorem spans_cover_captured_bytes_mixedText :
    (∀ capture ∈ mixedCaptures, capture.IsAligned mixedText) ∧
      ∃ span ∈ compose mixedCaptures (encode mixedText) .builtin,
        span.CoversByte mixedText 4 ∧ FirstGives .builtin mixedCaptures 4 span.style := by
  have aligned : ∀ capture ∈ mixedCaptures, capture.IsAligned mixedText := by
    simp only [mixedCaptures, List.forall_mem_cons, List.not_mem_nil, false_implies, implies_true,
      and_true]
    exact ⟨⟨⟨0, rfl⟩, ⟨3, rfl⟩⟩, ⟨⟨1, rfl⟩, ⟨2, rfl⟩⟩, ⟨⟨0, rfl⟩, ⟨3, rfl⟩⟩⟩
  have covered := spans_cover_captured_bytes mixedCaptures mixedText .builtin aligned
  obtain ⟨span, member, covers⟩ := (covered.1 4 (by decide)).mpr
    ⟨⟨"string", 2, 5⟩, by simp [mixedCaptures], ⟨by decide, by decide⟩, by decide +kernel⟩
  exact ⟨aligned, span, member, covers, (covered.2 span member 4 covers).2⟩

end LiveHighlight
