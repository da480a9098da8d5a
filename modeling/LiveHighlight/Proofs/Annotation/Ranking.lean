import LiveHighlight.Annotation.Ranking
import LiveHighlight.Proofs.Span.Composition

/-!
The earliest pattern wins.

Ranking is a stable sort of the hits that are not internal, and composition lets the first capture
over a byte decide. So a character takes its style from the hit of the earliest pattern that covers
it and resolves, and of several from the one that was found first.
-/

namespace LiveHighlight.Hit

/-! ### The order -/

theorem pairwise_byPattern (hits : List Hit) :
    (byPattern hits).Pairwise fun first second => first.pattern ≤ second.pattern := by
  have sorted := @List.pairwise_mergeSort Hit (fun first second =>
    decide (first.pattern ≤ second.pattern))
    (by simp only [decide_eq_true_eq]; omega)
    (by simp only [Bool.or_eq_true, decide_eq_true_eq]; omega) hits
  exact sorted.imp of_decide_eq_true

theorem byPattern_perm (hits : List Hit) : (byPattern hits).Perm hits :=
  List.mergeSort_perm hits _

theorem filter_byPattern (hits : List Hit) (pattern : Nat) :
    (byPattern hits).filter (·.pattern = pattern) = hits.filter (·.pattern = pattern) := by
  have level : (hits.filter (·.pattern = pattern)).Pairwise fun first second : Hit =>
      decide (first.pattern ≤ second.pattern) = true := by
    refine List.pairwise_of_forall_mem_list ?_
    intro first inFirst second inSecond
    simp only [List.mem_filter, decide_eq_true_eq] at inFirst inSecond ⊢
    omega
  have kept : (hits.filter (·.pattern = pattern)).Sublist (byPattern hits) :=
    List.sublist_mergeSort (by simp only [decide_eq_true_eq]; omega)
      (by simp only [Bool.or_eq_true, decide_eq_true_eq]; omega) level List.filter_sublist
  have sublist := kept.filter (·.pattern = pattern)
  rw [List.filter_filter] at sublist
  simp only [Bool.and_self] at sublist
  exact (sublist.eq_of_length ((byPattern_perm hits).filter _).length_eq.symm).symm

/-! ### Which hit decides -/

def IsCandidate (table : StyleTable) (position : Nat) (hit : Hit) : Prop :=
  hit.isInternal = false ∧ hit.capture.start ≤ position ∧ position < hit.capture.stop ∧
    (table.resolve hit.capture.kind).isSome = true

/-- Of the candidates for a byte, the hit at `place` is of the earliest pattern, and the one of
that pattern that was found first. -/
structure Prevails (table : StyleTable) (hits : List Hit) (position place : Nat) (hit : Hit) :
    Prop where
  found : hits[place]? = some hit
  candidate : hit.IsCandidate table position
  earliest : ∀ other rival, hits[other]? = some rival → rival.IsCandidate table position →
    hit.pattern < rival.pattern ∨ hit.pattern = rival.pattern ∧ place ≤ other

section

variable {table : StyleTable} {hits : List Hit} {position : Nat}

theorem Prevails.unique {place other : Nat} {hit rival : Hit}
    (first : Prevails table hits position place hit)
    (second : Prevails table hits position other rival) : hit = rival := by
  have forth := first.earliest other rival second.found second.candidate
  have back := second.earliest place hit first.found first.candidate
  have same : place = other := by omega
  subst same
  exact Option.some.inj (first.found.symm.trans second.found)

theorem prevails_of_first {order before behind : List Hit} {hit : Hit}
    (sorted : order.Pairwise fun first second => first.pattern ≤ second.pattern)
    (stable : ∀ pattern, order.filter (·.pattern = pattern) =
      (hits.filter (!·.isInternal)).filter (·.pattern = pattern))
    (split : order = before ++ hit :: behind) (candidate : hit.IsCandidate table position)
    (first : ∀ rival ∈ before, ¬rival.IsCandidate table position) :
    ∃ place, Prevails table hits position place hit := by
  have parts := stable hit.pattern
  rw [split, List.filter_append, List.filter_cons_of_pos (by simp), List.filter_filter, eq_comm,
    List.filter_eq_append_iff] at parts
  -- the found hits split as those of this pattern do around the first candidate
  obtain ⟨early, rest, whole, inEarly, inRest⟩ := parts
  obtain ⟨skipped, later, rfl, passed, _, _⟩ := List.filter_eq_cons_iff.mp inRest
  refine ⟨(early ++ skipped).length, ?_, candidate, ?_⟩
  · rw [whole, ← List.append_assoc, List.getElem?_append_right (Nat.le_refl _)]
    simp
  intro other rival atOther able
  have visible : rival ∈ hits.filter (!·.isInternal) :=
    List.mem_filter.mpr ⟨List.mem_of_getElem? atOther, by simp [able.1]⟩
  have ranked : rival ∈ order := by
    have member : rival ∈ order.filter (·.pattern = rival.pattern) := by
      rw [stable]
      exact List.mem_filter.mpr ⟨visible, by simp⟩
    exact (List.mem_filter.mp member).1
  rw [split, List.mem_append, List.mem_cons] at ranked
  have notBefore : rival ∉ before := fun member => first rival member able
  have atLeast : hit.pattern ≤ rival.pattern := by
    rw [split, List.pairwise_append, List.pairwise_cons] at sorted
    rcases ranked with member | rfl | member
    · exact absurd member notBefore
    · exact Nat.le_refl _
    · exact sorted.2.1.1 rival member
  rcases Nat.lt_or_eq_of_le atLeast with less | same
  · exact .inl less
  refine .inr ⟨same, ?_⟩
  by_contra earlier
  rw [whole, ← List.append_assoc, List.getElem?_append_left (by omega)] at atOther
  rcases List.mem_append.mp (List.mem_of_getElem? atOther) with member | member
  · -- hits of the pattern that were found before those skipped stand before the first candidate
    have stays : rival ∈ before.filter (·.pattern = hit.pattern) := by
      rw [← inEarly]
      exact List.mem_filter.mpr ⟨member, by simp [same, able.1]⟩
    exact notBefore (List.mem_filter.mp stays).1
  · exact passed rival member (by simp [same, able.1])

theorem styleAt_ranked_isSome {place : Nat} {hit : Hit}
    (prevails : Prevails table hits position place hit) :
    (Reference.styleAt table (ranked hits) position).isSome = true := by
  obtain ⟨visible, lower, upper, resolves⟩ := prevails.candidate
  rw [Reference.styleAt, List.findSome?_isSome_iff]
  refine ⟨hit.capture, List.mem_map_of_mem ((byPattern_perm _).mem_iff.mpr ?_), ?_⟩
  · exact List.mem_filter.mpr ⟨List.mem_of_getElem? prevails.found, by simp [visible]⟩
  · simpa [lower, upper] using resolves

theorem exists_prevails_of_styleAt {style : StyleId}
    (decided : Reference.styleAt table (ranked hits) position = some style) :
    ∃ place hit, Prevails table hits position place hit ∧
      table.resolve hit.capture.kind = some style := by
  rw [Reference.styleAt, ranked, List.findSome?_map, List.findSome?_eq_some_iff] at decided
  obtain ⟨before, hit, behind, split, resolved, passed⟩ := decided
  have member : hit ∈ byPattern (hits.filter (!·.isInternal)) := by simp [split]
  have visible := (List.mem_filter.mp ((byPattern_perm _).mem_iff.mp member)).2
  simp only [Function.comp_apply] at resolved passed
  split at resolved
  next covers =>
    have first : ∀ rival ∈ before, ¬rival.IsCandidate table position := by
      rintro rival early ⟨_, lower, upper, resolves⟩
      have unresolved := passed rival early
      rw [if_pos ⟨lower, upper⟩] at unresolved
      simp [unresolved] at resolves
    obtain ⟨place, prevails⟩ := prevails_of_first (pairwise_byPattern _) (filter_byPattern _) split
      ⟨by simpa using visible, covers.1, covers.2, by simp [resolved]⟩ first
    exact ⟨place, hit, prevails, resolved⟩
  next => cases resolved

theorem styleAt_ranked_eq_some_iff (style : StyleId) :
    Reference.styleAt table (ranked hits) position = some style ↔
      ∃ place hit, Prevails table hits position place hit ∧
        table.resolve hit.capture.kind = some style := by
  refine ⟨exists_prevails_of_styleAt, ?_⟩
  rintro ⟨place, hit, prevails, resolved⟩
  obtain ⟨other, found⟩ := Option.isSome_iff_exists.mp (styleAt_ranked_isSome prevails)
  obtain ⟨_, rival, alsoPrevails, alsoResolved⟩ := exists_prevails_of_styleAt found
  rw [found, ← alsoResolved, ← prevails.unique alsoPrevails, resolved]

end

/-- Ranked, the hits that are not internal stand pattern by pattern, and as they were found within
a pattern. So a character is under a span of a style just if the candidate of the earliest pattern,
and of that pattern the one found first, resolves to that style. -/
theorem earliest_pattern_wins (hits : List Hit) (source : Utf8.Bytes) (table : StyleTable) :
    (∃ order : List Hit, ranked hits = order.map (·.capture) ∧
      order.Perm (hits.filter (!·.isInternal)) ∧
      (order.Pairwise fun first second => first.pattern ≤ second.pattern) ∧
      ∀ pattern, order.filter (·.pattern = pattern) =
        (hits.filter (!·.isInternal)).filter (·.pattern = pattern)) ∧
    ∀ unit position, (Reference.unitStarts 0 source)[unit]? = some position → ∀ style,
      (∃ span ∈ compose (ranked hits) source table,
        span.style = style ∧ span.start ≤ unit ∧ unit < span.stop) ↔
      ∃ place hit, Prevails table hits position place hit ∧
        table.resolve hit.capture.kind = some style := by
  refine ⟨⟨_, rfl, byPattern_perm _, pairwise_byPattern _, filter_byPattern _⟩, ?_⟩
  intro unit position start style
  have here : (Reference.unitStyles table (ranked hits) source)[unit]? =
      some (Reference.styleAt table (ranked hits) position) := by
    simp [Reference.unitStyles, start]
  rw [← styleAt_ranked_eq_some_iff, compose_eq_reference, Reference.compose]
  constructor
  · rintro ⟨span, member, rfl, lower, upper⟩
    have inside := ((Reference.mem_runs_iff _ span).mp member).style_inside unit lower upper
    exact Option.some.inj (here.symm.trans inside)
  · intro decided
    exact Reference.exists_run_around _ unit style (decided ▸ here)

end LiveHighlight.Hit
