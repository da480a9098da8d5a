import LiveHighlight.Debounce
import Mathlib.Data.List.Pairwise

/-!
The instants at which edits have to be recomputed.

The first edit after the last recompute is recomputed when it has been quiet for its time; the
edits until then are covered by the same recompute. So recomputes are more than a quiet period
apart, and each edit is followed by exactly one within a quiet period.
-/

namespace LiveHighlight.Debouncer

/-- The recomputes for the edits that arrive at some instants, the last recompute being given. -/
def greedy (quiet : Nat) : Option Nat → List Nat → List Nat
  | _, [] => []
  | last, edit :: edits =>
    if last.any (edit ≤ ·) then greedy quiet last edits
    else (edit + quiet) :: greedy quiet (some (edit + quiet)) edits

variable {quiet last edit instant : Nat} {edits : List Nat}

theorem greedy_none_cons (quiet edit : Nat) (edits : List Nat) :
    greedy quiet none (edit :: edits) =
      (edit + quiet) :: greedy quiet (some (edit + quiet)) edits := rfl

theorem greedy_covered (covered : edit ≤ last) :
    greedy quiet (some last) (edit :: edits) = greedy quiet (some last) edits := by
  rw [greedy, if_pos (by simpa using covered)]

theorem greedy_replicate (covered : edit ≤ last) (count : Nat) (edits : List Nat) :
    greedy quiet (some last) (List.replicate count edit ++ edits) =
      greedy quiet (some last) edits := by
  induction count with
  | zero => rfl
  | succ count ih => rw [List.replicate_succ, List.cons_append, greedy_covered covered, ih]

theorem greedy_some_eq_none (later : ∀ edit ∈ edits, last < edit) :
    greedy quiet (some last) edits = greedy quiet none edits := by
  cases edits with
  | nil => rfl
  | cons edit edits =>
      have after := later edit (List.mem_cons_self ..)
      rw [greedy, if_neg (by simpa using after), greedy_none_cons]

theorem edit_of_mem_greedy {last : Option Nat} (member : instant ∈ greedy quiet last edits) :
    ∃ edit ∈ edits, instant = edit + quiet ∧ ∀ before, last = some before → before < edit := by
  induction edits generalizing last with
  | nil => cases member
  | cons edit edits ih =>
      rw [greedy] at member
      split at member
      next =>
        obtain ⟨found, among, same, after⟩ := ih member
        exact ⟨found, List.mem_cons_of_mem _ among, same, after⟩
      next uncovered =>
        have after : ∀ before, last = some before → before < edit := by
          rintro before rfl
          simpa using uncovered
        rcases List.mem_cons.mp member with rfl | member
        · exact ⟨edit, List.mem_cons_self .., rfl, after⟩
        · obtain ⟨found, among, same, later⟩ := ih member
          have := later _ rfl
          exact ⟨found, List.mem_cons_of_mem _ among, same,
            fun before given => by have := after before given; omega⟩

theorem le_of_mem_greedy {now : Nat} {last : Option Nat} (ahead : ∀ edit ∈ edits, now ≤ edit)
    (member : instant ∈ greedy quiet last edits) : now ≤ instant := by
  obtain ⟨edit, among, rfl, _⟩ := edit_of_mem_greedy member
  have := ahead edit among
  omega

theorem greedy_apart (quiet : Nat) (last : Option Nat) (edits : List Nat) :
    (greedy quiet last edits).Pairwise fun earlier later => earlier + quiet < later := by
  induction edits generalizing last with
  | nil => exact .nil
  | cons edit edits ih =>
      rw [greedy]
      split
      next => exact ih last
      next =>
        refine .cons (fun later member => ?_) (ih _)
        obtain ⟨found, _, rfl, after⟩ := edit_of_mem_greedy member
        have := after _ rfl
        omega

theorem recompute_of_mem {last : Option Nat} (sorted : edits.Pairwise (· ≤ ·))
    (member : edit ∈ edits) : (∃ before, last = some before ∧ edit ≤ before) ∨
      ∃ instant ∈ greedy quiet last edits, edit ≤ instant ∧ instant ≤ edit + quiet := by
  induction edits generalizing last with
  | nil => cases member
  | cons first edits ih =>
      obtain ⟨least, sorted⟩ := List.pairwise_cons.mp sorted
      rw [greedy]
      split
      next covered =>
        -- an edit from before the last recompute changes nothing
        obtain ⟨before, rfl, within⟩ := (Option.any_eq_true _ _).mp covered
        rcases List.mem_cons.mp member with rfl | member
        · exact .inl ⟨before, rfl, by simpa using within⟩
        · exact ih sorted member
      next =>
        right
        rcases List.mem_cons.mp member with rfl | member
        · exact ⟨_, List.mem_cons_self .., by omega, Nat.le_refl _⟩
        · have := least edit member
          rcases @ih (some (first + quiet)) sorted member with
            ⟨before, same, within⟩ | ⟨instant, among, bounds⟩
          · cases same
            exact ⟨_, List.mem_cons_self .., within, by omega⟩
          · exact ⟨instant, List.mem_cons_of_mem _ among, bounds⟩

theorem apart_of_mem_greedy {last : Option Nat} {other : Nat}
    (member : instant ∈ greedy quiet last edits) (member' : other ∈ greedy quiet last edits)
    (different : instant ≠ other) : instant + quiet < other ∨ other + quiet < instant := by
  have symmetric : Std.Symm fun first second : Nat =>
      first + quiet < second ∨ second + quiet < first := ⟨fun _ _ => Or.symm⟩
  have spaced := (greedy_apart quiet last edits).imp
    (S := fun first second => first + quiet < second ∨ second + quiet < first) Or.inl
  exact spaced.forall member member' different

theorem one_recompute (sorted : edits.Pairwise (· ≤ ·)) (member : edit ∈ edits)
    (apart : edit ∉ greedy quiet none edits) :
    ∃ instant ∈ greedy quiet none edits, (edit < instant ∧ instant ≤ edit + quiet) ∧
      ∀ other ∈ greedy quiet none edits, edit < other → other ≤ edit + quiet →
        other = instant := by
  rcases @recompute_of_mem quiet edit edits none sorted member with
    ⟨_, given, _⟩ | ⟨instant, among, notBefore, inTime⟩
  · cases given
  · have after : edit < instant := by
      refine Nat.lt_of_le_of_ne notBefore ?_
      rintro rfl
      exact apart among
    refine ⟨instant, among, ⟨after, inTime⟩, fun other member after' inTime' => ?_⟩
    by_contra different
    have := apart_of_mem_greedy member among different
    omega

end LiveHighlight.Debouncer
