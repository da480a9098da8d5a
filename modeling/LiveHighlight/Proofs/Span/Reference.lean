import LiveHighlight.Span.Compose
import Mathlib.Data.FinEnum

/-!
Spans as they are meant.

A text is cut into units by the leading one bits of its bytes, each unit takes the style of the
first capture over its first byte, and each longest run of units of one style is a span.
-/

namespace LiveHighlight.Reference

open Utf8 (Bytes)

def leadingOnes (byte : UInt8) : Nat :=
  ((List.range 8).takeWhile fun position => byte.toNat.testBit (7 - position)).length

def declaredWidth (lead : UInt8) : Nat :=
  if 2 ≤ leadingOnes lead ∧ leadingOnes lead ≤ 4 then leadingOnes lead else 1

/-- A unit has its declared width if that many bytes are left and all behind the lead byte begin
with a single one bit. -/
def width (lead : UInt8) (rest : Bytes) : Nat :=
  let trail := rest.take (declaredWidth lead - 1)
  if trail.length + 1 = declaredWidth lead ∧ ∀ byte ∈ trail, leadingOnes byte = 1 then
    declaredWidth lead
  else 1

/-- Where the units of bytes begin, when the bytes themselves begin at `position`. -/
def unitStarts (position : Nat) : Bytes → List Nat
  | [] => []
  | lead :: rest =>
    position :: unitStarts (position + width lead rest) (rest.drop (width lead rest - 1))
termination_by bytes => bytes.length

/-- The style of the first capture that resolves and covers a byte. -/
def styleAt (table : StyleTable) (captures : List Capture) (position : Nat) : Option StyleId :=
  captures.findSome? fun capture =>
    if capture.start ≤ position ∧ position < capture.stop then table.resolve capture.kind else none

def unitStyles (table : StyleTable) (captures : List Capture) (source : Bytes) :
    List (Option StyleId) :=
  (unitStarts 0 source).map (styleAt table captures)

def runAt (styles : List (Option StyleId)) (start : Nat) : Option Span :=
  match styles[start]? with
  | some (some style) =>
    if start ≠ 0 ∧ styles[start - 1]? = some (some style) then none
    else some ⟨style, start, start + ((styles.drop start).takeWhile (· = some style)).length⟩
  | _ => none

def runs (styles : List (Option StyleId)) : List Span :=
  (List.range styles.length).filterMap (runAt styles)

def compose (captures : List Capture) (source : Bytes) (table : StyleTable) : List Span :=
  runs (unitStyles table captures source)

/-- A run that no unit before or behind it would lengthen. -/
structure IsLongestRun (styles : List (Option StyleId)) (span : Span) : Prop where
  start_lt_stop : span.start < span.stop
  stop_le_length : span.stop ≤ styles.length
  style_inside : ∀ position, span.start ≤ position → position < span.stop →
    styles[position]? = some (some span.style)
  style_before : span.start ≠ 0 → styles[span.start - 1]? ≠ some (some span.style)
  style_behind : styles[span.stop]? ≠ some (some span.style)

/-! ### Runs -/

theorem takeWhile_length_spec {α : Type} (holds : α → Bool) (values : List α) :
    (∀ position < (values.takeWhile holds).length, ∃ value, values[position]? = some value ∧
        holds value = true) ∧
      ∀ value, values[(values.takeWhile holds).length]? = some value → holds value = false := by
  induction values with
  | nil => simp
  | cons first rest ih =>
      by_cases kept : holds first = true
      · simp only [List.takeWhile_cons_of_pos kept, List.length_cons, List.getElem?_cons_succ]
        refine ⟨?_, ih.2⟩
        intro position bound
        cases position with
        | zero => exact ⟨first, rfl, kept⟩
        | succ position => exact ih.1 position (by omega)
      · simp only [List.takeWhile_cons_of_neg kept, List.length_nil]
        refine ⟨by omega, ?_⟩
        intro value found
        simp only [List.getElem?_cons_zero, Option.some.injEq] at found
        simpa [← found] using kept

theorem runLength_spec (styles : List (Option StyleId)) (start : Nat) (style : StyleId) :
    let stop := start + ((styles.drop start).takeWhile (· = some style)).length
    (∀ position, start ≤ position → position < stop → styles[position]? = some (some style)) ∧
      styles[stop]? ≠ some (some style) := by
  have spec := takeWhile_length_spec (fun unit => decide (unit = some style)) (styles.drop start)
  simp only [decide_eq_true_eq, decide_eq_false_iff_not, List.getElem?_drop] at spec
  refine ⟨?_, fun found => spec.2 _ found rfl⟩
  intro position lower upper
  obtain ⟨value, found, same⟩ := spec.1 (position - start) (by omega)
  have index : start + (position - start) = position := by omega
  rw [index] at found
  rw [found, same]

theorem runAt_eq_some_iff (styles : List (Option StyleId)) (start : Nat) (span : Span) :
    runAt styles start = some span ↔ span.start = start ∧ IsLongestRun styles span := by
  constructor
  · intro found
    unfold runAt at found
    split at found
    next style here =>
      split at found
      next => simp at found
      next first =>
        simp only [Option.some.injEq] at found
        subst found
        have spec := runLength_spec styles start style
        have inside := List.getElem?_eq_some_iff.mp here
        have nonempty : 0 < ((styles.drop start).takeWhile (· = some style)).length := by
          rw [List.drop_eq_getElem_cons inside.1, inside.2]
          simp
        refine ⟨rfl, by simp only; omega, ?_, spec.1, ?_, spec.2⟩
        · have bound := (List.takeWhile_prefix (· = some style) (l := styles.drop start)).length_le
          simp only [List.length_drop] at bound ⊢
          omega
        · intro later before
          exact first ⟨later, before⟩
    next => simp at found
  · rintro ⟨rfl, run⟩
    have here := run.style_inside span.start (Nat.le_refl _) run.start_lt_stop
    have first : ¬(span.start ≠ 0 ∧ styles[span.start - 1]? = some (some span.style)) :=
      fun both => run.style_before both.1 both.2
    have spec := runLength_spec styles span.start span.style
    have stop : span.start + ((styles.drop span.start).takeWhile (· = some span.style)).length =
        span.stop := by
      rcases Nat.lt_trichotomy (span.start +
          ((styles.drop span.start).takeWhile (· = some span.style)).length) span.stop with
        short | same | long
      · exact absurd (run.style_inside _ (by omega) short) spec.2
      · exact same
      · exact absurd (spec.1 span.stop (Nat.le_of_lt run.start_lt_stop) long) run.style_behind
    simp only [runAt, here, first, if_false, stop]

theorem mem_runs_iff (styles : List (Option StyleId)) (span : Span) :
    span ∈ runs styles ↔ IsLongestRun styles span := by
  simp only [runs, List.mem_filterMap, List.mem_range, runAt_eq_some_iff]
  constructor
  · rintro ⟨start, _, _, run⟩
    exact run
  · intro run
    have bounds := run.start_lt_stop
    exact ⟨span.start, by have := run.stop_le_length; omega, rfl, run⟩

theorem IsLongestRun.apart {styles : List (Option StyleId)} {first second : Span}
    (firstRun : IsLongestRun styles first) (secondRun : IsLongestRun styles second)
    (earlier : first.start < second.start) :
    first.stop ≤ second.start ∧ (first.stop = second.start → first.style ≠ second.style) := by
  have opening := secondRun.style_inside second.start (Nat.le_refl _) secondRun.start_lt_stop
  constructor
  · by_contra inside
    have same := firstRun.style_inside second.start (by omega) (by omega)
    have before := firstRun.style_inside (second.start - 1) (by omega) (by omega)
    rw [opening] at same
    simp only [Option.some.injEq] at same
    exact secondRun.style_before (by omega) (same ▸ before)
  · intro touching same
    exact firstRun.style_behind (by rw [touching, opening, same])

theorem exists_run_around (styles : List (Option StyleId)) (unit : Nat) (style : StyleId)
    (here : styles[unit]? = some (some style)) :
    ∃ span ∈ runs styles, span.style = style ∧ span.start ≤ unit ∧ unit < span.stop := by
  -- the run around a unit is the one around the unit before it, unless one begins here
  induction unit with
  | zero =>
      have first : runAt styles 0 = some ⟨style, 0, 0 + ((styles.drop 0).takeWhile
          (· = some style)).length⟩ := by simp [runAt, here]
      obtain ⟨_, run⟩ := (runAt_eq_some_iff styles 0 _).mp first
      exact ⟨_, (mem_runs_iff styles _).mpr run, rfl, Nat.le_refl _, run.start_lt_stop⟩
  | succ unit ih =>
      by_cases before : styles[unit]? = some (some style)
      · obtain ⟨span, member, rfl, lower, upper⟩ := ih before
        refine ⟨span, member, rfl, by omega, ?_⟩
        by_contra ends
        have stop : span.stop = unit + 1 := by omega
        exact ((mem_runs_iff styles span).mp member).style_behind (stop ▸ here)
      · have first : runAt styles (unit + 1) = some ⟨style, unit + 1, unit + 1 +
            ((styles.drop (unit + 1)).takeWhile (· = some style)).length⟩ := by
          simp [runAt, here, before]
        obtain ⟨_, run⟩ := (runAt_eq_some_iff styles (unit + 1) _).mp first
        exact ⟨_, (mem_runs_iff styles _).mpr run, rfl, Nat.le_refl _, run.start_lt_stop⟩

theorem pairwise_runs (styles : List (Option StyleId)) :
    (runs styles).Pairwise fun first second =>
      first.start < second.start ∧ first.stop ≤ second.start ∧
        (first.stop = second.start → first.style ≠ second.style) := by
  rw [runs, List.pairwise_filterMap]
  refine List.pairwise_lt_range.imp ?_
  intro start next ordered first firstFound second secondFound
  obtain ⟨rfl, firstRun⟩ := (runAt_eq_some_iff styles start first).mp firstFound
  obtain ⟨rfl, secondRun⟩ := (runAt_eq_some_iff styles next second).mp secondFound
  exact ⟨ordered, firstRun.apart secondRun ordered⟩

end LiveHighlight.Reference
