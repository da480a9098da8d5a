import LiveHighlight.Proofs.Span.Reference
import LiveHighlight.Proofs.Style.Resolution

/-!
Composition agrees with its reference.

Painting leaves at every byte the style of the first capture over it, the bytes that begin a unit
are those where the reference cuts, and the sweep closes exactly the longest runs.
-/

namespace LiveHighlight

open Utf8 (Bytes)

/-! ### Units -/

namespace CharUnit

theorem declaredWidth_eq (lead : UInt8) : declaredWidth lead = Reference.declaredWidth lead := by
  revert lead
  decide +kernel

theorem isContinuation_iff (byte : UInt8) :
    isContinuation byte = true ↔ Reference.leadingOnes byte = 1 := by
  revert byte
  decide +kernel

theorem width_eq (lead : UInt8) (rest : Bytes) : width lead rest = Reference.width lead rest := by
  have positive := one_le_declaredWidth lead
  simp only [width, Reference.width, ← declaredWidth_eq, List.all_eq_true, isContinuation_iff]
  have sameLength : (rest.take (declaredWidth lead - 1)).length = declaredWidth lead - 1 ↔
      (rest.take (declaredWidth lead - 1)).length + 1 = declaredWidth lead := by
    omega
  simp only [sameLength]

theorem filterMap_zip_leadsFrom {α : Type} (value : Nat → α) (bytes : Bytes) :
    ∀ (inside position : Nat) (values : List α), values.length = bytes.length →
      (∀ offset < bytes.length, values[offset]? = some (value (position + offset))) →
        ((values.zip (leadsFrom inside bytes)).filterMap fun slot =>
            if slot.2 then some slot.1 else none) =
          (Reference.unitStarts (position + inside) (bytes.drop inside)).map value := by
  induction bytes with
  | nil =>
      intro inside position values length agrees
      simp [List.length_eq_zero_iff.mp length, Reference.unitStarts]
  | cons lead rest ih =>
      intro inside position values length agrees
      cases values with
      | nil => simp at length
      | cons first later =>
          have atFirst := agrees 0 (by simp)
          have atLater : ∀ offset < rest.length,
              later[offset]? = some (value (position + 1 + offset)) := by
            intro offset bound
            have next := agrees (offset + 1) (by simpa using bound)
            simpa [Nat.add_assoc, Nat.add_comm 1] using next
          have laterLength : later.length = rest.length := by simpa using length
          cases inside with
          | zero =>
              have tail := ih (width lead rest - 1) (position + 1) later laterLength atLater
              have index : position + 1 + (width lead rest - 1) =
                  position + Reference.width lead rest := by
                have positive := one_le_width lead rest
                rw [← width_eq]
                omega
              simp only [List.getElem?_cons_zero, Nat.add_zero, Option.some.injEq] at atFirst
              simp only [leadsFrom, List.zip_cons_cons, List.filterMap_cons, ↓reduceIte,
                List.drop_zero, Nat.add_zero]
              rw [Reference.unitStarts, List.map_cons, tail, index, width_eq, atFirst]
          | succ inside =>
              have tail := ih inside (position + 1) later laterLength atLater
              have index : position + 1 + inside = position + (inside + 1) := by omega
              simpa [leadsFrom, index] using tail

end CharUnit

/-! ### Painting -/

theorem StyleTable.isStyled_of_resolve (table : StyleTable) (kind : String) (style : StyleId)
    (resolved : table.resolve kind = some style) : style.isStyled = true := by
  simp only [StyleId.isStyled, bne_iff_ne, ne_eq]
  rintro rfl
  exact (nearest_of_resolve resolved).1 rfl

theorem Reference.isStyled_of_styleAt (table : StyleTable) (captures : List Capture)
    (position : Nat) (style : StyleId) (found : styleAt table captures position = some style) :
    style.isStyled = true := by
  obtain ⟨capture, _, resolved⟩ := List.exists_of_findSome?_eq_some found
  split at resolved
  next => exact table.isStyled_of_resolve capture.kind style resolved
  next => simp at resolved

namespace Compose

theorem paint_getElem? (style : StyleId) (bounds : Bounds) (slots : List StyleId)
    (position : Nat) (slot : StyleId) (found : slots[position]? = some slot) :
    (paint style bounds slots)[position]? =
      some (if bounds.start ≤ position ∧ position < bounds.stop ∧ !slot.isStyled then style
        else slot) := by
  simp [paint, List.getElem?_mapIdx, found]

@[simp] theorem length_paintCapture (table : StyleTable) (slots : List StyleId)
    (capture : Capture) : (paintCapture table slots capture).length = slots.length := by
  unfold paintCapture
  split <;> simp

theorem paintCapture_getElem? (table : StyleTable) (slots : List StyleId) (capture : Capture)
    (position : Nat) (slot : StyleId) (found : slots[position]? = some slot) :
    (paintCapture table slots capture)[position]? =
      some (if slot.isStyled then slot
        else (Reference.styleAt table [capture] position).getD slot) := by
  have bound := (List.getElem?_eq_some_iff.mp found).1
  have covered : (clamp slots.length capture).start ≤ position ∧
      position < (clamp slots.length capture).stop ↔
        capture.start ≤ position ∧ position < capture.stop := by
    simp only [clamp]
    omega
  unfold paintCapture
  cases resolved : table.resolve capture.kind with
  | none => simp [Reference.styleAt, resolved, found]
  | some style =>
      simp only [paint_getElem? style _ slots position slot found, ← and_assoc, covered]
      by_cases styled : slot.isStyled = true
      · simp [styled]
      · by_cases inside : capture.start ≤ position ∧ position < capture.stop
        · simp [Reference.styleAt, styled, inside, resolved]
        · simp [Reference.styleAt, styled, inside]

theorem foldl_paintCapture_getElem? (table : StyleTable) (captures : List Capture) :
    ∀ (slots : List StyleId) (position : Nat) (slot : StyleId), slots[position]? = some slot →
      (captures.foldl (paintCapture table) slots)[position]? =
        some (if slot.isStyled then slot
          else (Reference.styleAt table captures position).getD slot) := by
  induction captures with
  | nil => simp [Reference.styleAt]
  | cons capture later ih =>
      intro slots position slot found
      rw [List.foldl_cons, ih _ position _ (paintCapture_getElem? table slots capture position slot found)]
      have first : Reference.styleAt table (capture :: later) position =
          (Reference.styleAt table [capture] position).or
            (Reference.styleAt table later position) := by
        rw [Reference.styleAt, List.findSome?_cons]
        cases here : (if capture.start ≤ position ∧ position < capture.stop then
          table.resolve capture.kind else none) <;> simp [Reference.styleAt, here]
      by_cases styled : slot.isStyled = true
      · simp [styled]
      · cases here : Reference.styleAt table [capture] position with
        | none => simp [first, here, styled]
        | some style =>
            have kept := Reference.isStyled_of_styleAt table [capture] position style here
            simp [first, here, styled, kept]

theorem length_slots (table : StyleTable) (captures : List Capture) (length : Nat) :
    (slots table captures length).length = length := by
  have kept (start : List StyleId) :
      (captures.foldl (paintCapture table) start).length = start.length := by
    induction captures generalizing start with
    | nil => rfl
    | cons capture later ih => rw [List.foldl_cons, ih, length_paintCapture]
  rw [slots, kept, List.length_replicate]

theorem slots_getElem? (table : StyleTable) (captures : List Capture) (length position : Nat)
    (bound : position < length) :
    (slots table captures length)[position]? =
      some ((Reference.styleAt table captures position).getD StyleId.unstyled) := by
  have start : (List.replicate length StyleId.unstyled)[position]? = some StyleId.unstyled :=
    List.getElem?_replicate_of_lt bound
  rw [slots, foldl_paintCapture_getElem? table captures _ position _ start]
  rfl

/-! ### Sweeping -/

def asUnit (style : StyleId) : Option StyleId :=
  if style.isStyled then some style else none

theorem asUnit_eq_some_iff (style unit : StyleId) :
    asUnit style = some unit ↔ style = unit ∧ unit.isStyled = true := by
  unfold asUnit
  split
  next styled =>
    simp only [Option.some.injEq]
    exact ⟨fun same => ⟨same, same ▸ styled⟩, And.left⟩
  next unstyled =>
    simp only [false_iff, reduceCtorEq]
    rintro ⟨rfl, styled⟩
    exact unstyled styled

theorem unitStyles_slots (table : StyleTable) (captures : List Capture) (source : Bytes) :
    unitStyles (slots table captures source.length) source =
      (Reference.unitStarts 0 source).map fun position =>
        (Reference.styleAt table captures position).getD StyleId.unstyled := by
  have cut := CharUnit.filterMap_zip_leadsFrom
    (fun position => (Reference.styleAt table captures position).getD StyleId.unstyled) source 0 0
    (slots table captures source.length) (length_slots table captures source.length)
    (fun offset bound => by
      rw [Nat.zero_add]
      exact slots_getElem? table captures source.length offset bound)
  simpa only [unitStyles, CharUnit.leads, Nat.add_zero, List.drop_zero] using cut

theorem map_asUnit_unitStyles (table : StyleTable) (captures : List Capture) (source : Bytes) :
    (unitStyles (slots table captures source.length) source).map asUnit =
      Reference.unitStyles table captures source := by
  rw [unitStyles_slots, List.map_map, Reference.unitStyles]
  refine List.map_congr_left ?_
  intro position _
  simp only [Function.comp_apply]
  cases here : Reference.styleAt table captures position with
  | none => rfl
  | some style =>
      have styled := Reference.isStyled_of_styleAt table captures position style here
      simp [asUnit, styled]

theorem filterMap_runAt_block (units : List (Option StyleId)) (style : StyleId)
    (start count : Nat) (positive : 0 < count)
    (inside : ∀ position, start ≤ position → position < start + count →
      units[position]? = some (asUnit style))
    (before : start ≠ 0 → units[start - 1]? ≠ some (some style))
    (behind : units[start + count]? ≠ some (some style)) :
    (List.range' start count).filterMap (Reference.runAt units) =
      closeRun style start (start + count) := by
  obtain ⟨more, rfl⟩ : ∃ more, count = more + 1 := ⟨count - 1, by omega⟩
  have later : (List.range' (start + 1) more).filterMap (Reference.runAt units) = [] := by
    rw [List.filterMap_eq_nil_iff]
    intro position member
    rw [List.mem_range'_1] at member
    refine Option.eq_none_iff_forall_ne_some.mpr ?_
    intro span found
    obtain ⟨rfl, run⟩ := (Reference.runAt_eq_some_iff units position span).mp found
    have here := run.style_inside span.start (Nat.le_refl _) run.start_lt_stop
    rw [inside _ (by omega) (by omega)] at here
    refine run.style_before (by omega) ?_
    rw [inside _ (by omega) (by omega), here]
  rw [List.range'_succ, List.filterMap_cons, later]
  have opening := inside start (Nat.le_refl _) (by omega)
  by_cases styled : style.isStyled = true
  · have unit : asUnit style = some style := (asUnit_eq_some_iff style style).mpr ⟨rfl, styled⟩
    have run : Reference.IsLongestRun units ⟨style, start, start + (more + 1)⟩ := by
      refine ⟨by simp only; omega, ?_, ?_, before, behind⟩
      · have last := inside (start + more) (by omega) (by omega)
        have bound := (List.getElem?_eq_some_iff.mp last).1
        simp only
        omega
      · intro position lower upper
        rw [inside position lower upper, unit]
    have found := (Reference.runAt_eq_some_iff units start _).mpr ⟨rfl, run⟩
    simp [found, closeRun, styled]
  · have unit : asUnit style = none := by simp [asUnit, styled]
    have noRun : Reference.runAt units start = none := by simp [Reference.runAt, opening, unit]
    simp [noRun, closeRun, styled]

theorem filterMap_runAt_replicate (before behind : List StyleId) (style : StyleId) (count : Nat)
    (positive : 0 < count) (edgeBefore : before.getLast? ≠ some style)
    (edgeBehind : behind.head? ≠ some style) :
    (List.range' before.length count).filterMap
        (Reference.runAt ((before ++ List.replicate count style ++ behind).map asUnit)) =
      closeRun style before.length (before.length + count) := by
  apply filterMap_runAt_block _ style before.length count positive
  · intro position lower upper
    rw [List.getElem?_map, List.append_assoc, List.getElem?_append_right lower,
      List.getElem?_append_left (by simp only [List.length_replicate]; omega),
      List.getElem?_replicate_of_lt (by omega)]
    rfl
  · intro nonzero found
    rw [List.getElem?_map, List.append_assoc, List.getElem?_append_left (by omega),
      ← List.getLast?_eq_getElem?, Option.map_eq_some_iff] at found
    obtain ⟨last, atLast, same⟩ := found
    rw [asUnit_eq_some_iff] at same
    exact edgeBefore (same.1 ▸ atLast)
  · intro found
    rw [List.getElem?_map, List.getElem?_append_right (by simp), Option.map_eq_some_iff] at found
    obtain ⟨next, atNext, same⟩ := found
    rw [asUnit_eq_some_iff] at same
    simp only [List.length_append, List.length_replicate, Nat.sub_self,
      ← List.head?_eq_getElem?] at atNext
    exact edgeBehind (same.1 ▸ atNext)

/-- The sweep behind `before`, when a run of `count` units is open. No unit is in the open run
only at the very beginning. -/
theorem sweepFrom_eq (rest : List StyleId) :
    ∀ (before : List StyleId) (style : StyleId) (count : Nat),
      before.getLast? ≠ some style → (count = 0 → before = [] ∧ style.isStyled = false) →
        sweepFrom style before.length (before.length + count) rest =
          (List.range' before.length (count + rest.length)).filterMap
            (Reference.runAt ((before ++ List.replicate count style ++ rest).map asUnit)) := by
  -- the units read so far are `before` and the open run, so that positions never shift
  induction rest with
  | nil =>
      intro before style count edge fresh
      cases count with
      | zero => simp [sweepFrom, closeRun, (fresh rfl).2]
      | succ count =>
          have block := filterMap_runAt_replicate before [] style (count + 1) (by omega) edge
            (by simp)
          simpa [sweepFrom] using block.symm
  | cons next rest ih =>
      intro before style count edge fresh
      rw [sweepFrom]
      split
      next same =>
        subst next
        have longer := ih before style (count + 1) edge (by omega)
        have list : before ++ List.replicate (count + 1) style ++ rest =
            before ++ List.replicate count style ++ style :: rest := by
          simp [List.replicate_succ']
        have length : count + 1 + rest.length = count + (style :: rest).length := by
          simp only [List.length_cons]
          omega
        rw [list, length] at longer
        exact longer
      next different =>
        have edgeNext : (before ++ List.replicate count style).getLast? ≠ some next := by
          cases count with
          | zero => simp [(fresh rfl).1]
          | succ count => simpa [List.replicate_succ'] using Ne.symm different
        have later := ih (before ++ List.replicate count style) next 1 edgeNext (by omega)
        have list : before ++ List.replicate count style ++ List.replicate 1 next ++ rest =
            before ++ List.replicate count style ++ next :: rest := by
          simp
        rw [list, List.length_append, List.length_replicate] at later
        have first : closeRun style before.length (before.length + count) =
            (List.range' before.length count).filterMap (Reference.runAt
              ((before ++ List.replicate count style ++ next :: rest).map asUnit)) := by
          cases count with
          | zero => simp [closeRun, (fresh rfl).2]
          | succ count =>
              exact (filterMap_runAt_replicate before (next :: rest) style (count + 1) (by omega)
                edge (by simpa using different)).symm
        have length : count + (next :: rest).length = count + (1 + rest.length) := by
          simp only [List.length_cons]
          omega
        have parts : List.range' before.length (count + (1 + rest.length)) =
            List.range' before.length count ++
              List.range' (before.length + count) (1 + rest.length) :=
          List.range'_append_1.symm
        rw [first, later, length, parts, List.filterMap_append]

theorem sweep_eq_runs (styles : List StyleId) :
    sweep styles = Reference.runs (styles.map asUnit) := by
  have whole := sweepFrom_eq styles [] StyleId.unstyled 0 (by simp) (fun _ => ⟨rfl, rfl⟩)
  simpa [sweep, Reference.runs, List.range_eq_range'] using whole

end Compose

theorem compose_eq_reference (captures : List Capture) (source : Bytes) (table : StyleTable) :
    compose captures source table = Reference.compose captures source table := by
  rw [compose, Compose.sweep_eq_runs, Compose.map_asUnit_unitStyles]
  rfl

/-- What composition gives is what the reference gives, so its spans are exactly the longest runs
of units of one style, in order: none is empty or unstyled, none reaches behind the last unit, and
where two touch their styles differ. -/
theorem compose_spans_are_longest_runs (captures : List Capture) (source : Bytes)
    (table : StyleTable) :
    compose captures source table = Reference.compose captures source table ∧
      (∀ span, span ∈ compose captures source table ↔
        Reference.IsLongestRun (Reference.unitStyles table captures source) span) ∧
      (∀ span ∈ compose captures source table, span.start < span.stop ∧ span.style ≠ 0 ∧
        span.stop ≤ (Reference.unitStarts 0 source).length) ∧
      (compose captures source table).Pairwise fun first second =>
        first.start < second.start ∧ first.stop ≤ second.start ∧
          (first.stop = second.start → first.style ≠ second.style) := by
  have members := Reference.mem_runs_iff (Reference.unitStyles table captures source)
  rw [compose_eq_reference]
  refine ⟨rfl, members, ?_, Reference.pairwise_runs (Reference.unitStyles table captures source)⟩
  intro span member
  have run := (members span).mp member
  have here := run.style_inside span.start (Nat.le_refl _) run.start_lt_stop
  refine ⟨run.start_lt_stop, ?_, ?_⟩
  · obtain ⟨position, _, found⟩ := List.mem_map.mp (List.mem_of_getElem? here)
    have styled := Reference.isStyled_of_styleAt table captures position span.style found
    simpa [StyleId.isStyled, StyleId.unstyled] using styled
  · simpa [Reference.unitStyles] using run.stop_le_length

end LiveHighlight
