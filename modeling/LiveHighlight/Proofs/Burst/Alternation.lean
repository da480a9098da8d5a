import LiveHighlight.Debounce
import Mathlib.Data.List.Chain
import Mathlib.Data.List.Induction

/-!
What a debouncer does over any history of edits, waits and time that passes.

The notes of a history say which edits set a deadline and which waits fired. Read off these notes
alone, the deadline that is outstanding is the one that the debouncer holds. So deadlines are set
and fire in turns.
-/

namespace LiveHighlight.Debouncer

inductive Act where
  | arm
  | pass (nanos : Nat)
  | wait (limit : Nat)
  deriving DecidableEq, Repr

inductive Note where
  | armed (now : Nat)
  | absorbed
  | passed
  | fired (finish : Nat)
  | dropped
  deriving DecidableEq, Repr

structure Timed where
  debouncer : Debouncer
  now : Nat
  deriving DecidableEq, Repr

def Timed.start (quiet now : Nat) : Timed :=
  ⟨disarmed quiet, now⟩

def Timed.after (timed : Timed) : Act → Timed
  | .arm => { timed with debouncer := (timed.debouncer.arm timed.now).2 }
  | .pass nanos => { timed with now := timed.now + nanos }
  | .wait limit =>
    let wait := timed.debouncer.wait timed.now limit
    ⟨wait.debouncer, wait.finish⟩

def Timed.note (timed : Timed) : Act → Note
  | .arm => if (timed.debouncer.arm timed.now).1 then .armed timed.now else .absorbed
  | .pass _ => .passed
  | .wait limit =>
    let wait := timed.debouncer.wait timed.now limit
    if wait.fired then .fired wait.finish else .dropped

def Timed.afterAll (timed : Timed) (acts : List Act) : Timed :=
  acts.foldl after timed

def Timed.notes (timed : Timed) : List Act → List Note
  | [] => []
  | act :: acts => timed.note act :: (timed.after act).notes acts

theorem Timed.afterAll_concat (timed : Timed) (acts : List Act) (act : Act) :
    timed.afterAll (acts ++ [act]) = (timed.afterAll acts).after act := by
  simp [afterAll]

theorem Timed.notes_concat (timed : Timed) (acts : List Act) (act : Act) :
    timed.notes (acts ++ [act]) = timed.notes acts ++ [(timed.afterAll acts).note act] := by
  induction acts generalizing timed with
  | nil => rfl
  | cons first later ih =>
      simp only [List.cons_append, notes, ih]
      rfl

/-! ### The outstanding deadline -/

def Note.outstanding (quiet : Nat) (deadline : Option Nat) : Note → Option Nat
  | armed now => some (now + quiet)
  | fired _ => none
  | _ => deadline

/-- The deadline that was set last, unless it has fired since. -/
def outstanding (quiet : Nat) (notes : List Note) : Option Nat :=
  notes.foldl (Note.outstanding quiet) none

theorem outstanding_concat (quiet : Nat) (notes : List Note) (note : Note) :
    outstanding quiet (notes ++ [note]) = note.outstanding quiet (outstanding quiet notes) := by
  simp [outstanding]

theorem Timed.debouncer_after {quiet : Nat} {deadline : Option Nat} (timed : Timed)
    (holds : timed.debouncer = ⟨quiet, deadline⟩) (act : Act) :
    (timed.after act).debouncer = ⟨quiet, (timed.note act).outstanding quiet deadline⟩ := by
  obtain ⟨debouncer, now⟩ := timed
  cases holds
  cases act with
  | arm => cases deadline <;> rfl
  | pass nanos => rfl
  | wait limit =>
      cases deadline with
      | none => rfl
      | some deadline =>
          by_cases due : deadline ≤ now + limit
          · simp [after, note, wait, due, disarm, Note.outstanding]
          · simp [after, note, wait, due, Note.outstanding]

theorem Timed.debouncer_afterAll (quiet start : Nat) (acts : List Act) :
    ((Timed.start quiet start).afterAll acts).debouncer =
      ⟨quiet, outstanding quiet ((Timed.start quiet start).notes acts)⟩ := by
  induction acts using List.reverseRecOn with
  | nil => rfl
  | append_singleton acts act ih =>
      rw [afterAll_concat, debouncer_after _ ih, notes_concat, outstanding_concat]

theorem wait_fired_iff (quiet now limit : Nat) (deadline : Option Nat) :
    (wait ⟨quiet, deadline⟩ now limit).fired = true ↔
      ∃ instant, deadline = some instant ∧ instant ≤ now + limit := by
  cases deadline with
  | none => simp [wait]
  | some instant => by_cases due : instant ≤ now + limit <;> simp [wait, due]

theorem wait_of_due {quiet now limit instant : Nat} (due : instant ≤ now + limit) :
    (wait ⟨quiet, some instant⟩ now limit).finish = max now instant ∧
      (wait ⟨quiet, some instant⟩ now limit).debouncer = disarmed quiet := by
  simp [wait, due, disarm, disarmed]

theorem wait_of_dropped {debouncer : Debouncer} {now limit : Nat}
    (dropped : (debouncer.wait now limit).fired = false) :
    (debouncer.wait now limit).finish = now + limit ∧
      (debouncer.wait now limit).debouncer = debouncer := by
  obtain ⟨quiet, deadline⟩ := debouncer
  cases deadline with
  | none => exact ⟨rfl, rfl⟩
  | some instant =>
      by_cases due : instant ≤ now + limit
      · simp [wait, due] at dropped
      · simp [wait, due]

/-! ### Turns -/

def Note.turn? : Note → Option Bool
  | armed _ => some true
  | fired _ => some false
  | _ => none

def turns (notes : List Note) : List Bool :=
  notes.filterMap Note.turn?

theorem turns_concat (notes : List Note) (note : Note) :
    turns (notes ++ [note]) = turns notes ++ note.turn?.toList := by
  cases turned : note.turn? <;> simp [turns, List.filterMap_append, turned]

theorem getLast?_turns (quiet : Nat) (notes : List Note) :
    (turns notes).getLast?.getD false = (outstanding quiet notes).isSome := by
  induction notes using List.reverseRecOn with
  | nil => rfl
  | append_singleton notes note ih =>
      rw [turns_concat, outstanding_concat]
      cases note <;> simp [Note.turn?, Note.outstanding, ih]

theorem Timed.turn_of_note {quiet : Nat} {deadline : Option Nat} {set : Bool} (timed : Timed)
    (holds : timed.debouncer = ⟨quiet, deadline⟩) (act : Act)
    (turned : (timed.note act).turn? = some set) : set = !deadline.isSome := by
  obtain ⟨debouncer, now⟩ := timed
  cases holds
  cases act with
  | arm => cases deadline <;> simp_all [note, arm, Note.turn?]
  | pass nanos => cases turned
  | wait limit =>
      simp only [note] at turned
      split at turned
      next fired =>
        obtain ⟨instant, rfl, _⟩ := (wait_fired_iff quiet now limit deadline).mp fired
        exact (Option.some.inj turned).symm
      next => cases turned

theorem turns_alternate (quiet start : Nat) (acts : List Act) :
    (turns ((Timed.start quiet start).notes acts)).IsChain (· ≠ ·) ∧
      (turns ((Timed.start quiet start).notes acts)).head? ≠ some false := by
  induction acts using List.reverseRecOn with
  | nil => exact ⟨List.isChain_nil, by simp [turns, Timed.notes]⟩
  | append_singleton acts act ih =>
      rw [Timed.notes_concat, turns_concat]
      cases turned : (((Timed.start quiet start).afterAll acts).note act).turn? with
      | none => simpa using ih
      | some set =>
          -- the last turn tells whether a deadline is outstanding, and so which turn is next
          have other :
              set = !(turns ((Timed.start quiet start).notes acts)).getLast?.getD false := by
            rw [getLast?_turns quiet]
            exact Timed.turn_of_note _ (Timed.debouncer_afterAll quiet start acts) act turned
          generalize turns ((Timed.start quiet start).notes acts) = before at ih other ⊢
          constructor
          · refine List.isChain_append.mpr ⟨ih.1, List.isChain_singleton _, ?_⟩
            rintro last atEnd _ ⟨rfl⟩
            rw [Option.mem_def.mp atEnd] at other
            simp [other]
          · cases before with
            | nil => simpa using other
            | cons first later => exact ih.2

theorem Timed.act_of_note (timed : Timed) {acts : List Act} {before after : List Note} {note : Note}
    (whole : timed.notes acts = before ++ note :: after) :
    ∃ earlier act, timed.notes earlier = before ∧ (timed.afterAll earlier).note act = note := by
  induction acts using List.reverseRecOn generalizing after with
  | nil => simp [notes] at whole
  | append_singleton acts act ih =>
      rw [notes_concat] at whole
      rcases List.eq_nil_or_concat after with rfl | ⟨between, last, rfl⟩
      · obtain ⟨same, noted⟩ := List.append_inj' whole rfl
        exact ⟨acts, act, same, List.singleton_inj.mp noted⟩
      · rw [List.concat_eq_append, ← List.cons_append, ← List.append_assoc] at whole
        exact ih (List.append_inj' whole rfl).1

theorem outstanding_of_edit {quiet start : Nat} {acts : List Act} {before after : List Note}
    {edit : Note} (whole : (Timed.start quiet start).notes acts = before ++ edit :: after)
    (isEdit : edit = .absorbed ∨ ∃ now, edit = .armed now) :
    (outstanding quiet (before ++ [edit])).isSome = true := by
  rw [outstanding_concat]
  rcases isEdit with rfl | ⟨now, rfl⟩
  · obtain ⟨earlier, act, rfl, noted⟩ := (Timed.start quiet start).act_of_note whole
    have holds := Timed.debouncer_afterAll quiet start earlier
    generalize (Timed.start quiet start).afterAll earlier = timed at holds noted
    cases act with
    | arm =>
        rw [Timed.note, holds] at noted
        cases deadline : outstanding quiet ((Timed.start quiet start).notes earlier) with
        | none => simp [deadline, arm] at noted
        | some instant => rfl
    | pass nanos => cases noted
    | wait limit =>
        simp only [Timed.note] at noted
        split at noted <;> cases noted
  · rfl

theorem outstanding_until_fired {quiet : Nat} {notes later : List Note}
    (set : (outstanding quiet notes).isSome = true) (never : ∀ finish, Note.fired finish ∉ later) :
    (outstanding quiet (notes ++ later)).isSome = true := by
  induction later using List.reverseRecOn with
  | nil => simpa using set
  | append_singleton later note ih =>
      have still := ih fun finish member => never finish (List.mem_append_left _ member)
      rw [← List.append_assoc, outstanding_concat]
      cases note with
      | fired finish => exact absurd (by simp) (never finish)
      | armed now => rfl
      | absorbed | passed | dropped => exact still

theorem fired_between {quiet start : Nat} {acts : List Act} {before between after : List Note}
    {edit : Note} {anew : Nat}
    (whole : (Timed.start quiet start).notes acts =
      before ++ edit :: (between ++ .armed anew :: after))
    (isEdit : edit = .absorbed ∨ ∃ now, edit = .armed now) : ∃ finish, .fired finish ∈ between := by
  by_contra never
  simp only [not_exists] at never
  have set := outstanding_until_fired (outstanding_of_edit whole isEdit) never
  rw [← List.singleton_append, ← List.append_assoc, ← List.append_assoc] at whole
  obtain ⟨earlier, act, same, noted⟩ := (Timed.start quiet start).act_of_note whole
  have unset : true = !(outstanding quiet ((Timed.start quiet start).notes earlier)).isSome :=
    Timed.turn_of_note _ (Timed.debouncer_afterAll quiet start earlier) act (by rw [noted]; rfl)
  rw [same, set] at unset
  cases unset

/-- Over any history of edits, waits and time that passes: an edit sets the deadline exactly if
none is outstanding, and else changes nothing; a wait fires exactly if a deadline is outstanding
and comes within its limit, at the deadline or at once, and with it the deadline is gone; a wait
that is given up changes nothing. So deadlines are set and fire in turns, and after any edit one
has fired before the next is set. -/
theorem arms_and_firings_alternate (quiet start : Nat) (acts : List Act) :
    let timed := (Timed.start quiet start).afterAll acts
    let notes := (Timed.start quiet start).notes acts
    ((timed.debouncer.arm timed.now).1 = true ↔ outstanding quiet notes = none) ∧
    ((timed.debouncer.arm timed.now).1 = false →
      (timed.debouncer.arm timed.now).2 = timed.debouncer) ∧
    (∀ limit,
      let wait := timed.debouncer.wait timed.now limit
      (wait.fired = true ↔
        ∃ deadline, outstanding quiet notes = some deadline ∧ deadline ≤ timed.now + limit) ∧
      (∀ deadline, outstanding quiet notes = some deadline → wait.fired = true →
        wait.finish = max timed.now deadline ∧ wait.debouncer = disarmed quiet) ∧
      (wait.fired = false →
        wait.finish = timed.now + limit ∧ wait.debouncer = timed.debouncer)) ∧
    (turns notes).IsChain (· ≠ ·) ∧ (turns notes).head? ≠ some false ∧
    ∀ before edit between anew after,
      notes = before ++ edit :: (between ++ .armed anew :: after) →
        edit = .absorbed ∨ (∃ now, edit = .armed now) → ∃ finish, .fired finish ∈ between := by
  intro timed notes
  have holds : timed.debouncer = ⟨quiet, outstanding quiet notes⟩ :=
    Timed.debouncer_afterAll quiet start acts
  obtain ⟨alternate, first⟩ := turns_alternate quiet start acts
  refine ⟨?_, ?_, fun limit => ⟨?_, ?_, ?_⟩, alternate, first, ?_⟩
  · rw [holds]
    cases outstanding quiet notes <;> simp [arm]
  · rw [holds]
    cases outstanding quiet notes <;> simp [arm]
  · rw [holds]
    exact wait_fired_iff quiet timed.now limit _
  · intro deadline set fired
    rw [holds] at fired ⊢
    obtain ⟨instant, same, due⟩ := (wait_fired_iff quiet timed.now limit _).mp fired
    cases set.symm.trans same
    rw [set]
    exact wait_of_due due
  · exact wait_of_dropped
  · intro before edit between anew after whole isEdit
    exact fired_between whole isEdit

def twoBursts : List Act :=
  [.arm, .pass 50, .arm, .wait 100, .wait 200, .arm, .arm]

theorem arms_and_firings_alternate_twoBursts :
    (Timed.start 200 0).notes twoBursts = [.armed 0, .passed] ++ .absorbed ::
        ([.dropped, .fired 200] ++ .armed 200 :: [.absorbed]) ∧
      ∃ finish, Note.fired finish ∈ [.dropped, .fired 200] := by
  have whole : (Timed.start 200 0).notes twoBursts = [.armed 0, .passed] ++ .absorbed ::
      ([.dropped, .fired 200] ++ .armed 200 :: [.absorbed]) := by decide
  obtain ⟨_, _, _, _, _, between⟩ := arms_and_firings_alternate 200 0 twoBursts
  exact ⟨whole, between _ _ _ _ _ whole (.inl rfl)⟩

end LiveHighlight.Debouncer
