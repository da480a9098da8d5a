import LiveHighlight.Proofs.Span.Sequences

/-!
Composition over arrays.

Here painting writes to a slice of the slots, and the sweep goes over slots and source by one
position, which each unit moves on by its width. Every access is checked, and one outside of its
array gives nothing. None is outside: the slices lie within the slots, the units that are visited
tile the source, and what comes out are the spans of `compose`.
-/

namespace LiveHighlight

open Utf8 (Bytes)

namespace CharUnit

/-! ### Units in their places -/

/-- The width of the unit that would begin at a position, if the source reaches that far. -/
def widthAt? (source : Bytes) (position : Nat) : Option Nat :=
  match source.drop position with
  | lead :: rest => some (width lead rest)
  | [] => none

def unitAt (source : Bytes) (position : Nat) : Bytes :=
  (source.drop position).take ((widthAt? source position).getD 0)

def IsOver (source : Bytes) (position index : Nat) : Prop :=
  ∃ width, widthAt? source position = some width ∧ position ≤ index ∧ index < position + width

/-- Positions at which units begin, each where the one before it ends, up to the end of the
source. -/
inductive Tiles (source : Bytes) : Nat → List Nat → Prop
  | done : Tiles source source.length []
  | unit {position width later} (found : widthAt? source position = some width)
      (behind : Tiles source (position + width) later) :
      Tiles source position (position :: later)

section

variable {source : Bytes} {position width : Nat} {positions : List Nat}

theorem widthAt?_eq_some_iff :
    widthAt? source position = some width ↔
      ∃ lead rest, source.drop position = lead :: rest ∧ CharUnit.width lead rest = width := by
  unfold widthAt?
  split
  next lead rest here => simp [here]
  next here => simp [here]

theorem widthAt?_bounds (found : widthAt? source position = some width) :
    1 ≤ width ∧ position + width ≤ source.length := by
  obtain ⟨lead, rest, here, rfl⟩ := widthAt?_eq_some_iff.mp found
  have left : source.length - position = rest.length + 1 := by
    rw [← List.length_drop, here, List.length_cons]
  have atMost := width_le lead rest
  exact ⟨one_le_width lead rest, by omega⟩

theorem exists_widthAt? (within : position < source.length) :
    ∃ width, widthAt? source position = some width :=
  ⟨_, widthAt?_eq_some_iff.mpr ⟨_, _, List.drop_eq_getElem_cons within, rfl⟩⟩

theorem Tiles.bounds (tiles : Tiles source position positions) :
    ∀ start ∈ positions, position ≤ start ∧ start < source.length := by
  induction tiles with
  | done => simp
  | unit found behind ih =>
      have bound := widthAt?_bounds found
      rw [List.forall_mem_cons]
      refine ⟨by omega, fun start member => ?_⟩
      have := ih start member
      omega

theorem Tiles.increasing (tiles : Tiles source position positions) :
    positions.Pairwise (· < ·) := by
  induction tiles with
  | done => exact .nil
  | unit found behind ih =>
      refine .cons (fun start member => ?_) ih
      have := widthAt?_bounds found
      have := (behind.bounds start member).1
      omega

theorem Tiles.exists_over (tiles : Tiles source position positions) {index : Nat}
    (lower : position ≤ index) (upper : index < source.length) :
    ∃ start ∈ positions, IsOver source start index := by
  induction tiles with
  | done => omega
  | @unit position width later found behind ih =>
      by_cases first : index < position + width
      · exact ⟨position, List.mem_cons_self, width, found, lower, first⟩
      · obtain ⟨start, member, covers⟩ := ih (by omega)
        exact ⟨start, List.mem_cons_of_mem _ member, covers⟩

theorem Tiles.not_over_behind {later : List Nat} {start index : Nat}
    (behind : Tiles source (position + width) later) (found : widthAt? source position = some width)
    (covers : IsOver source position index) (member : start ∈ later) :
    ¬IsOver source start index := by
  rintro ⟨_, _, lower, _⟩
  obtain ⟨_, same, _, upper⟩ := covers
  cases found.symm.trans same
  have := (behind.bounds start member).1
  omega

theorem Tiles.eq_of_over (tiles : Tiles source position positions) {first second index : Nat}
    (firstMember : first ∈ positions) (secondMember : second ∈ positions)
    (firstOver : IsOver source first index) (secondOver : IsOver source second index) :
    first = second := by
  induction tiles with
  | done => cases firstMember
  | unit found behind ih =>
      rcases List.mem_cons.mp firstMember with rfl | firstLater
      · rcases List.mem_cons.mp secondMember with rfl | secondLater
        · rfl
        · exact absurd secondOver (behind.not_over_behind found firstOver secondLater)
      · rcases List.mem_cons.mp secondMember with rfl | secondLater
        · exact absurd firstOver (behind.not_over_behind found secondOver firstLater)
        · exact ih firstLater secondLater

theorem Tiles.flatten_units (tiles : Tiles source position positions) :
    (positions.map (unitAt source)).flatten = source.drop position := by
  induction tiles with
  | done => simp
  | @unit position width later found behind ih =>
      rw [List.map_cons, List.flatten_cons, ih, unitAt, found, Option.getD_some, ← List.drop_drop,
        List.take_append_drop]

theorem Tiles.length_le (tiles : Tiles source position positions) :
    position + positions.length ≤ source.length := by
  induction tiles with
  | done => exact Nat.le_refl _
  | unit found behind ih =>
      have := widthAt?_bounds found
      rw [List.length_cons]
      omega

theorem Tiles.eq_unitStarts (tiles : Tiles source position positions) :
    positions = Reference.unitStarts position (source.drop position) := by
  induction tiles with
  | done => rw [List.drop_length, Reference.unitStarts]
  | @unit position width later found behind ih =>
      obtain ⟨lead, rest, here, rfl⟩ := widthAt?_eq_some_iff.mp found
      have positive := one_le_width lead rest
      have rest_eq : source.drop (position + CharUnit.width lead rest) =
          rest.drop (CharUnit.width lead rest - 1) := by
        rw [← List.drop_drop, here]
        obtain ⟨more, same⟩ := Nat.exists_eq_add_of_le' positive
        rw [same]
        rfl
      rw [ih, here, Reference.unitStarts, rest_eq, width_eq]

end

end CharUnit

namespace Compose

/-! ### Painting a slice -/

def paintSlice? (style : StyleId) (bounds : Bounds) (slots : List StyleId) :
    Option (List StyleId) :=
  if bounds.start ≤ bounds.stop ∧ bounds.stop ≤ slots.length then
    some (slots.take bounds.start ++
      ((slots.take bounds.stop).drop bounds.start).map
        (fun slot => if slot.isStyled then slot else style) ++
      slots.drop bounds.stop)
  else none

def paintCapture? (table : StyleTable) (slots : List StyleId) (capture : Capture) :
    Option (List StyleId) :=
  match table.resolve capture.kind with
  | some style => paintSlice? style (clamp slots.length capture) slots
  | none => some slots

def paintAll? (table : StyleTable) (captures : List Capture) (length : Nat) :
    Option (List StyleId) :=
  captures.foldlM (paintCapture? table) (List.replicate length StyleId.unstyled)

theorem paintSlice?_eq (style : StyleId) (bounds : Bounds) (slots : List StyleId)
    (ordered : bounds.start ≤ bounds.stop) (within : bounds.stop ≤ slots.length) :
    paintSlice? style bounds slots = some (paint style bounds slots) := by
  rw [paintSlice?, if_pos ⟨ordered, within⟩, Option.some.injEq]
  refine List.ext_getElem? fun position => ?_
  -- before the slice, in it or behind it, by the lengths of the parts
  simp only [paint, List.getElem?_mapIdx, List.getElem?_append, List.length_append,
    List.length_map, List.length_drop, List.length_take, List.getElem?_map, List.getElem?_drop,
    List.getElem?_take]
  grind

theorem paintCapture?_eq (table : StyleTable) (slots : List StyleId) (capture : Capture) :
    paintCapture? table slots capture = some (paintCapture table slots capture) := by
  unfold paintCapture? paintCapture
  cases table.resolve capture.kind with
  | none => rfl
  | some style =>
      have bounds := clamp_bounds slots.length capture
      exact paintSlice?_eq style _ slots bounds.1 bounds.2

theorem paintAll?_eq (table : StyleTable) (captures : List Capture) (length : Nat) :
    paintAll? table captures length = some (slots table captures length) := by
  unfold paintAll? slots
  generalize List.replicate length StyleId.unstyled = before
  induction captures generalizing before with
  | nil => rfl
  | cons capture later ih =>
      rw [List.foldlM_cons, paintCapture?_eq, List.foldl_cons]
      exact ih _

/-! ### The sweep -/

/-- A sweep between two units: the position of the next, how many are behind it, and the run that
is open there with the spans closed before. -/
structure Sweep where
  position : Nat
  chars : Nat
  style : StyleId
  start : Nat
  spans : List Span

namespace Sweep

def fresh : Sweep :=
  ⟨0, 0, StyleId.unstyled, 0, []⟩

def close (sweep : Sweep) : List Span :=
  sweep.spans ++ closeRun sweep.style sweep.start sweep.chars

def after (sweep : Sweep) (style : StyleId) (width : Nat) : Sweep :=
  let position := sweep.position + width
  let chars := sweep.chars + 1
  if style = sweep.style then { sweep with position := position, chars := chars }
  else ⟨position, chars, style, sweep.chars, sweep.close⟩

def visit? (slots : List StyleId) (source : Bytes) (sweep : Sweep) : Option Sweep :=
  match slots[sweep.position]?, CharUnit.widthAt? source sweep.position with
  | some style, some width => some (sweep.after style width)
  | _, _ => none

/-- The positions that a sweep visits while there are bytes ahead, up to where it stops. -/
inductive Runs (slots : List StyleId) (source : Bytes) : Sweep → List Nat → Sweep → Prop
  | stopped {sweep} (nothing : source.length ≤ sweep.position) : Runs slots source sweep [] sweep
  | visited {sweep next later final} (more : sweep.position < source.length)
      (taken : sweep.visit? slots source = some next)
      (onward : Runs slots source next later final) :
      Runs slots source sweep (sweep.position :: later) final

section

variable {slots : List StyleId} {source : Bytes} {sweep next final : Sweep} {positions : List Nat}

@[simp]
theorem position_after (sweep : Sweep) (style : StyleId) (width : Nat) :
    (sweep.after style width).position = sweep.position + width := by
  unfold after
  split <;> rfl

@[simp]
theorem chars_after (sweep : Sweep) (style : StyleId) (width : Nat) :
    (sweep.after style width).chars = sweep.chars + 1 := by
  unfold after
  split <;> rfl

theorem visit?_eq_some_iff :
    sweep.visit? slots source = some next ↔
      ∃ style width, slots[sweep.position]? = some style ∧
        CharUnit.widthAt? source sweep.position = some width ∧ sweep.after style width = next := by
  unfold visit?
  split
  next style width here found => simp [here, found]
  next missing =>
    simp only [reduceCtorEq, false_iff, not_exists]
    rintro style width ⟨here, found, _⟩
    exact missing style width here found

theorem exists_visit? (long : slots.length = source.length)
    (more : sweep.position < source.length) :
    ∃ next, sweep.visit? slots source = some next ∧ sweep.position < next.position ∧
      next.position ≤ source.length := by
  obtain ⟨width, found⟩ := CharUnit.exists_widthAt? more
  have bounds := CharUnit.widthAt?_bounds found
  have inside : sweep.position < slots.length := long ▸ more
  have here : slots[sweep.position]? = some slots[sweep.position] :=
    List.getElem?_eq_getElem inside
  refine ⟨_, visit?_eq_some_iff.mpr ⟨_, width, here, found, rfl⟩, ?_⟩
  rw [position_after]
  omega

theorem exists_runs (long : slots.length = source.length) :
    ∀ left, ∀ sweep : Sweep, sweep.position ≤ source.length →
      source.length - sweep.position = left →
        ∃ positions final, Runs slots source sweep positions final := by
  intro left
  induction left using Nat.strongRecOn with
  | ind left ih =>
      intro sweep within size
      by_cases more : sweep.position < source.length
      · obtain ⟨next, taken, nearer, still⟩ := exists_visit? long more
        obtain ⟨later, final, onward⟩ :=
          ih (source.length - next.position) (by omega) next still rfl
        exact ⟨_, final, .visited more taken onward⟩
      · exact ⟨[], sweep, .stopped (by omega)⟩

theorem Runs.tiles (runs : Runs slots source sweep positions final)
    (within : sweep.position ≤ source.length) :
    CharUnit.Tiles source sweep.position positions ∧ final.position = source.length ∧
      final.chars = sweep.chars + positions.length := by
  induction runs with
  | @stopped sweep nothing =>
      obtain same : sweep.position = source.length := by omega
      exact ⟨same ▸ .done, same, rfl⟩
  | visited more taken onward ih =>
      obtain ⟨style, width, here, found, rfl⟩ := visit?_eq_some_iff.mp taken
      have bounds := CharUnit.widthAt?_bounds found
      rw [position_after, chars_after] at ih
      obtain ⟨tiles, stop, chars⟩ := ih bounds.2
      exact ⟨.unit found tiles, stop, by rw [chars, List.length_cons]; omega⟩

theorem Runs.close_eq (runs : Runs slots source sweep positions final) :
    final.close = sweep.spans ++ sweepFrom sweep.style sweep.start sweep.chars
      (positions.map fun position => slots[position]?.getD StyleId.unstyled) := by
  induction runs with
  | stopped => rfl
  | visited more taken onward ih =>
      obtain ⟨style, width, here, found, rfl⟩ := visit?_eq_some_iff.mp taken
      rw [ih, List.map_cons, here, Option.getD_some, sweepFrom]
      unfold after
      split
      next same => rfl
      next different => simp [close]

end

end Sweep

theorem unitStyles_eq (slots : List StyleId) (source : Bytes)
    (long : slots.length = source.length) :
    unitStyles slots source = (Reference.unitStarts 0 source).map fun position =>
      slots[position]?.getD StyleId.unstyled := by
  have cut := CharUnit.filterMap_zip_leadsFrom
    (fun position => slots[position]?.getD StyleId.unstyled) source 0 0 slots long
    (fun offset bound => by
      rw [Nat.zero_add, List.getElem?_eq_getElem (long ▸ bound), Option.getD_some])
  simpa only [unitStyles, CharUnit.leads, Nat.add_zero, List.drop_zero] using cut

/-- Composition over arrays comes to its end with the spans of `compose`, whatever the source and
the captures are. Each slice that is painted lies within the slots. At every byte a unit has a width
of one or more and ends within the source. The sweep visits positions of the source only, each
behind the one before, and stops at the end of the source; every byte belongs to just one of the
units that it visits. -/
theorem composition_stays_in_its_arrays (captures : List Capture) (source : Bytes)
    (table : StyleTable) :
    (∀ capture, (clamp source.length capture).start ≤ (clamp source.length capture).stop ∧
      (clamp source.length capture).stop ≤ source.length) ∧
    (∀ position < source.length, ∃ width, CharUnit.widthAt? source position = some width ∧
      1 ≤ width ∧ width ≤ source.length - position) ∧
    ∃ slots positions final, paintAll? table captures source.length = some slots ∧
      Sweep.Runs slots source .fresh positions final ∧
      (∀ position ∈ positions, position < source.length) ∧
      positions.Pairwise (· < ·) ∧
      final.position = source.length ∧
      (∀ index < source.length, ∃! position,
        position ∈ positions ∧ CharUnit.IsOver source position index) ∧
      (positions.map (CharUnit.unitAt source)).flatten = source ∧
      final.chars = positions.length ∧ final.chars ≤ source.length ∧
      final.close = compose captures source table := by
  have long := length_slots table captures source.length
  obtain ⟨positions, final, runs⟩ :=
    Sweep.exists_runs long _ .fresh (Nat.zero_le source.length) rfl
  obtain ⟨tiles, stops, chars⟩ := runs.tiles (Nat.zero_le _)
  have few := tiles.length_le
  simp only [Sweep.fresh, Nat.zero_add] at tiles chars few
  refine ⟨clamp_bounds source.length, fun position within => ?_, slots table captures source.length,
    positions, final, paintAll?_eq table captures source.length, runs,
    fun position member => (tiles.bounds position member).2, tiles.increasing, stops, ?_, ?_, chars,
    chars ▸ few, ?_⟩
  · obtain ⟨width, found⟩ := CharUnit.exists_widthAt? within
    have := CharUnit.widthAt?_bounds found
    exact ⟨width, found, this.1, by omega⟩
  · intro index within
    obtain ⟨position, member, covers⟩ := tiles.exists_over (Nat.zero_le index) within
    exact ⟨position, ⟨member, covers⟩,
      fun other both => tiles.eq_of_over both.1 member both.2 covers⟩
  · exact tiles.flatten_units
  · have starts := tiles.eq_unitStarts
    rw [List.drop_zero] at starts
    rw [runs.close_eq, compose, unitStyles_eq _ _ long, ← starts]
    rfl

end Compose
end LiveHighlight
