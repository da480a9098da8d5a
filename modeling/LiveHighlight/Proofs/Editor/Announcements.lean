import LiveHighlight.EditorFiles.Lines
import LiveHighlight.Proofs.Text.Numeral
import LiveHighlight.Proofs.Text.Words
import Mathlib.Data.List.TakeWhile

/-!
The two ways in which a window is announced.

The log tells a window's name to the end of the line. The index tells it as the first word of the
window's tag, so that both tell the same window just if its name is a single word.
-/

namespace LiveHighlight.EditorFiles

open Text (isBlank words IsTrimmed)

/-! ### The lines as they are written -/

/-- A name that the editor can announce. -/
structure IsAnnounced (name : List Char) : Prop where
  nonempty : name ≠ []
  oneLine : '\n' ∉ name
  trimmed : IsTrimmed name

structure Counters where
  tagSize : Nat
  bodySize : Nat
  isDirectory : Nat
  isModified : Nat

def column (width number : Nat) : List Char :=
  List.replicate (width - (Nat.toDigits 10 number).length) ' ' ++ (Nat.toDigits 10 number ++ [' '])

def tag (name : List Char) : List Char :=
  name ++ " Del Snarf | Look ".toList

def indexLine (width : Nat) (id : WindowId) (counters : Counters) (name : List Char) : List Char :=
  column width id.toNat ++ (column width counters.tagSize ++ (column width counters.bodySize ++
    (column width counters.isDirectory ++ (column width counters.isModified ++ tag name))))

def logLine (id : WindowId) (name : List Char) : List Char :=
  (toString id).toList ++ ' ' :: ("new".toList ++ ' ' :: name)

/-! ### The lines as they are read -/

theorem isBlank_of_mem_toDigits {number : Nat} {c : Char} (member : c ∈ Nat.toDigits 10 number) :
    isBlank c = false :=
  Text.isBlank_of_isDigit (Nat.isDigit_of_mem_toDigits (by decide) (by decide) member)

theorem words_column (width number : Nat) (rest : List Char) :
    words (column width number ++ rest) = Nat.toDigits 10 number :: words rest := by
  have spaces : ∀ c ∈ List.replicate (width - (Nat.toDigits 10 number).length) ' ',
      isBlank c = true := by
    intro c member
    rw [List.eq_of_mem_replicate member]
    decide
  rw [column, List.append_assoc, Text.words_blanks_append spaces, List.append_assoc]
  exact Text.words_word_append Nat.toDigits_ne_nil (fun c => isBlank_of_mem_toDigits) (by decide)
    rest

theorem words_tag {name : List Char} (announced : IsAnnounced name) :
    ∃ later, words (tag name) = name.takeWhile (!isBlank ·) :: later := by
  have begins : ∀ c, (tag name).head? = some c → isBlank c = false := by
    intro c first
    rw [tag, List.head?_append_of_ne_nil _ announced.nonempty] at first
    exact announced.trimmed.1 c first
  refine ⟨words ((tag name).dropWhile (!isBlank ·)), ?_⟩
  rw [Text.words_eq_cons (by simp [tag]) begins, tag, List.takeWhile_append]
  split
  next whole =>
    have stops : " Del Snarf | Look ".toList.takeWhile (!isBlank ·) = [] := by decide
    rw [stops, List.append_nil, (List.takeWhile_prefix _).eq_of_length whole]
  next => rfl

theorem windowId?_toDigits (id : WindowId) : windowId? (Nat.toDigits 10 id.toNat) = some id := by
  have trimmed : Text.IsTrimmed (Nat.toDigits 10 id.toNat) :=
    Text.isTrimmed_of_solid fun c => isBlank_of_mem_toDigits
  rw [windowId?, Text.trim_eq_self trimmed, ← Text.toList_toString, Text.u32?_toString]

theorem indexWindow_indexLine (width : Nat) (id : WindowId) (counters : Counters)
    {name : List Char} (announced : IsAnnounced name) :
    indexWindow (indexLine width id counters name) =
      .ok ⟨id, String.ofList (name.takeWhile (!isBlank ·))⟩ := by
  obtain ⟨later, tagWords⟩ := words_tag announced
  simp [indexWindow, indexLine, words_column, tagWords, windowId?_toDigits]

theorem cutAtSpace_append (field rest : List Char) (solid : ' ' ∉ field) :
    cutAtSpace (field ++ ' ' :: rest) = (field, some rest) := by
  induction field with
  | nil => rfl
  | cons first later ih =>
      simp only [List.mem_cons, not_or] at solid
      simp [cutAtSpace, Ne.symm solid.1, ih solid.2]

theorem openedWindow_logLine (id : WindowId) {name : List Char} (announced : IsAnnounced name) :
    openedWindow (logLine id name) = .ok (some ⟨id, String.ofList name⟩) := by
  have digits : ' ' ∉ (toString id).toList := Text.not_mem_toString (by decide) id
  have fields := cutAtSpace_append _ ("new".toList ++ ' ' :: name) digits
  have event := cutAtSpace_append "new".toList name (by decide)
  have number : windowId? (toString id).toList = some id := by
    rw [Text.toList_toString, windowId?_toDigits]
  simp only [openedWindow, logLine, fields, number, event, if_true, Option.getD_some,
    Text.trim_eq_self announced.trimmed]

theorem sameWindow_iff (id : WindowId) (logged listed : String) :
    (.ok (some ⟨id, logged⟩) : Except EditorError (Option Window)) =
        (Except.ok ⟨id, listed⟩ : Except EditorError Window).map some ↔ logged = listed := by
  simp [Except.map]

/-- A window's line in the log tells its whole name, and its line in the index the first word of
it. The two tell the same window just if the name has no blank in it. -/
theorem announcements_agree_iff_single_word (width : Nat) (id : WindowId) (counters : Counters)
    (name : List Char) (announced : IsAnnounced name) :
    openedWindow (logLine id name) = .ok (some ⟨id, String.ofList name⟩) ∧
      indexWindow (indexLine width id counters name) =
        .ok ⟨id, String.ofList (name.takeWhile (!isBlank ·))⟩ ∧
      (openedWindow (logLine id name) =
          (indexWindow (indexLine width id counters name)).map some ↔
        ∀ c ∈ name, isBlank c = false) := by
  have logged := openedWindow_logLine id announced
  have listed := indexWindow_indexLine width id counters announced
  refine ⟨logged, listed, ?_⟩
  have single : name.takeWhile (!isBlank ·) = name ↔ ∀ c ∈ name, isBlank c = false := by
    simp [List.takeWhile_eq_self_iff]
  rw [logged, listed, ← single, sameWindow_iff, String.ofList_inj, eq_comm]

def namedWithSpace : List Char :=
  "/tmp/a b.py".toList

theorem isAnnounced_namedWithSpace : IsAnnounced namedWithSpace := by
  have start : namedWithSpace.head? = some '/' := by decide
  have stop : namedWithSpace.getLast? = some 'y' := by decide
  refine ⟨by decide, by decide, ?_, ?_⟩
  · intro c first
    exact Option.some.inj (start.symm.trans first) ▸ (by decide)
  · intro c last
    exact Option.some.inj (stop.symm.trans last) ▸ (by decide)

theorem announcements_agree_iff_single_word_namedWithSpace :
    IsAnnounced namedWithSpace ∧
      openedWindow (logLine 12 namedWithSpace) = .ok (some ⟨12, "/tmp/a b.py"⟩) ∧
      indexWindow (indexLine 11 12 ⟨41, 97, 0, 0⟩ namedWithSpace) = .ok ⟨12, "/tmp/a"⟩ := by
  have both := announcements_agree_iff_single_word 11 12 ⟨41, 97, 0, 0⟩ namedWithSpace
    isAnnounced_namedWithSpace
  exact ⟨isAnnounced_namedWithSpace, both.1, both.2.1⟩

/-- A name with a space in it is told whole by the log and cut off by the index. -/
theorem announcements_differ_at_space :
    IsAnnounced namedWithSpace ∧
      openedWindow (logLine 12 namedWithSpace) ≠
        (indexWindow (indexLine 0 12 ⟨41, 97, 0, 0⟩ namedWithSpace)).map some := by
  refine ⟨isAnnounced_namedWithSpace, ?_⟩
  rw [openedWindow_logLine 12 isAnnounced_namedWithSpace,
    indexWindow_indexLine 0 12 _ isAnnounced_namedWithSpace]
  decide

end LiveHighlight.EditorFiles
