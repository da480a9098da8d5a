import LiveHighlight.EditorFiles.Basic
import LiveHighlight.Proofs.Editor.Announcements
import LiveHighlight.Proofs.Text.Encoding

/-!
The editor's index and log as they are written, and as they are read.

A line of the index spells a window's number, four counters and the words of its tag; how it is
spaced makes no difference, nor do blank lines between. A line of the log has its fields between
single spaces. A line whose number cannot be read is quoted by the error.
-/

namespace LiveHighlight.EditorFiles

open Text (isBlank words lines Denotes IsTrimmed Spells Paged)

/-! ### Numbers of windows -/

/-- Whether a field is the number of a window, with blanks of any kind around it. -/
def IsNumber (field : List Char) (id : WindowId) : Prop :=
  ∃ front number back, (∀ c ∈ front, isBlank c = true) ∧ (∀ c ∈ back, isBlank c = true) ∧
    Denotes number id.toNat ∧ field = front ++ (number ++ back)

theorem isTrimmed_of_denotes {number : List Char} {value : Nat} (denotes : Denotes number value) :
    IsTrimmed number :=
  Text.isTrimmed_of_solid (Text.solid_of_denotes denotes).2

theorem windowId?_eq_some_iff {field : List Char} {id : WindowId} :
    windowId? field = some id ↔ IsNumber field id := by
  rw [windowId?, Text.u32?_eq_some_iff]
  constructor
  · intro denotes
    obtain ⟨front, back, before, behind, same⟩ := Text.trim_spec field
    exact ⟨front, _, back, before, behind, denotes, same⟩
  · rintro ⟨front, number, back, before, behind, denotes, rfl⟩
    rwa [Text.trim_padded before behind (Text.solid_of_denotes denotes).1
      (isTrimmed_of_denotes denotes)]

theorem isNumber_toString (id : WindowId) : IsNumber (toString id).toList id :=
  windowId?_eq_some_iff.mp (by rw [Text.toList_toString, windowId?_toDigits])

/-! ### The index -/

/-- Whether these lines of an index tell these windows in their order. A window's name is the first
word behind its number and four counters; with fewer words it has no name. -/
inductive Lists : List (List Char) → List Window → Prop
  | nothing : Lists [] []
  | blank {line : List Char} {later : List (List Char)} {windows : List Window}
      (blank : ∀ c ∈ line, isBlank c = true) (lists : Lists later windows) :
      Lists (line :: later) windows
  | named {line number name : List Char} {counters tag later : List (List Char)} {id : WindowId}
      {windows : List Window} (spelled : Spells line (number :: (counters ++ name :: tag)))
      (denotes : Denotes number id.toNat) (four : counters.length = 4)
      (lists : Lists later windows) :
      Lists (line :: later) (⟨id, String.ofList name⟩ :: windows)
  | nameless {line number : List Char} {counters later : List (List Char)} {id : WindowId}
      {windows : List Window} (spelled : Spells line (number :: counters))
      (denotes : Denotes number id.toNat) (few : counters.length ≤ 4)
      (lists : Lists later windows) : Lists (line :: later) (⟨id, ""⟩ :: windows)

def IsUnreadable (line : List Char) : Prop :=
  ∃ word later, Spells line (word :: later) ∧ ∀ id : WindowId, ¬Denotes word id.toNat

theorem isBlankLine_of_spells {line word : List Char} {later : List (List Char)}
    (spelled : Spells line (word :: later)) : isBlankLine line = false := by
  rw [Bool.eq_false_iff]
  intro blank
  have wordless := Text.words_of_all_blank blank
  rw [Text.words_of_spells spelled] at wordless
  cases wordless

theorem windowId?_word {line word : List Char} {later : List (List Char)} {id : WindowId}
    (spelled : Spells line (word :: later)) : windowId? word = some id ↔ Denotes word id.toNat := by
  have solid : ∀ c ∈ word, isBlank c = false := by
    cases spelled with
    | word _ _ solid _ _ => exact solid
  rw [windowId?, Text.trim_eq_self (Text.isTrimmed_of_solid solid), Text.u32?_eq_some_iff]

theorem indexWindow_of_spells {line number : List Char} {later : List (List Char)} {id : WindowId}
    (spelled : Spells line (number :: later)) (denotes : Denotes number id.toNat) :
    indexWindow line = .ok ⟨id, String.ofList (later[4]?.getD [])⟩ := by
  simp [indexWindow, Text.words_of_spells spelled, (windowId?_word spelled).mpr denotes]

theorem IsUnreadable.indexWindow {line : List Char} (unreadable : IsUnreadable line) :
    indexWindow line = .error (.malformed .index (String.ofList line)) := by
  obtain ⟨word, later, spelled, undenoted⟩ := unreadable
  have none : windowId? word = none := by
    refine Option.eq_none_iff_forall_ne_some.mpr fun id read => ?_
    exact undenoted id ((windowId?_word spelled).mp read)
  simp [EditorFiles.indexWindow, Text.words_of_spells spelled, none]

theorem line_cases (line : List Char) :
    isBlankLine line = true ∨
      (isBlankLine line = false ∧ ∃ window, indexWindow line = .ok window) ∨
      IsUnreadable line := by
  have spelled := Text.spells_words line
  cases read : words line with
  | nil =>
      rw [read] at spelled
      cases spelled with
      | blanks blank => exact .inl (List.all_eq_true.mpr blank)
  | cons word later =>
      rw [read] at spelled
      by_cases denoted : ∃ id : WindowId, Denotes word id.toNat
      · obtain ⟨id, denotes⟩ := denoted
        exact .inr (.inl ⟨isBlankLine_of_spells spelled, _, indexWindow_of_spells spelled denotes⟩)
      · exact .inr (.inr ⟨word, later, spelled, not_exists.mp denoted⟩)

theorem mapM_indexWindow_of_lists {cut : List (List Char)} {windows : List Window}
    (lists : Lists cut windows) :
    (cut.filter (!isBlankLine ·)).mapM indexWindow = .ok windows := by
  induction lists with
  | nothing => rfl
  | blank blank _ ih =>
      rw [List.filter_cons_of_neg (by simpa [isBlankLine] using blank), ih]
  | named spelled denotes four _ ih =>
      rw [List.filter_cons_of_pos (by simp [isBlankLine_of_spells spelled]), List.mapM_cons,
        indexWindow_of_spells spelled denotes, ih]
      simp [four, bind, Except.bind, pure, Except.pure]
  | nameless spelled denotes few _ ih =>
      rw [List.filter_cons_of_pos (by simp [isBlankLine_of_spells spelled]), List.mapM_cons,
        indexWindow_of_spells spelled denotes, ih, List.getElem?_eq_none few]
      rfl

theorem mapM_indexWindow_of_unreadable {cut : List (List Char)}
    (unreadable : ∃ line ∈ cut, IsUnreadable line) :
    ∃ before line after, cut = before ++ line :: after ∧
      (∀ earlier ∈ before, ¬IsUnreadable earlier) ∧ IsUnreadable line ∧
      (cut.filter (!isBlankLine ·)).mapM indexWindow =
        .error (.malformed .index (String.ofList line)) := by
  induction cut with
  | nil => simp at unreadable
  | cons first rest ih =>
      by_cases here : IsUnreadable first
      · refine ⟨[], first, rest, rfl, by simp, here, ?_⟩
        obtain ⟨word, later, spelled, _⟩ := id here
        rw [List.filter_cons_of_pos (by simp [isBlankLine_of_spells spelled]), List.mapM_cons,
          here.indexWindow]
        rfl
      · have further : ∃ line ∈ rest, IsUnreadable line := by
          simpa [here] using unreadable
        obtain ⟨before, line, after, rfl, readable, decides, failed⟩ := ih further
        refine ⟨first :: before, line, after, rfl, by simpa [here] using readable, decides, ?_⟩
        rcases line_cases first with blank | ⟨solid, window, read⟩ | never
        · rw [List.filter_cons_of_neg (by simp [blank]), failed]
        · rw [List.filter_cons_of_pos (by simp [solid]), List.mapM_cons, read, failed]
          rfl
        · exact absurd never here

theorem list_eq {files : EditorFiles} {tree : FileTree} {text : List Char}
    {cut : List (List Char)}
    (stored : tree.read (Path.join files.root "index") = .ok (Utf8.encode text))
    (paged : Paged text cut) :
    files.list tree = (cut.filter (!isBlankLine ·)).mapM indexWindow := by
  have readable : tree.readText (Path.join files.root "index") = .ok (String.ofList text) := by
    simp [FileTree.readText, stored, bind, Except.bind, Utf8.decode?_encode]
  simp only [list, readable, indexWindows, String.toList_ofList, Text.lines_of_paged paged]

/-! ### The log -/

theorem cutAtSpace_eq (line : List Char) :
    cutAtSpace line = (line.takeWhile (· ≠ ' '),
      if ' ' ∈ line then some (line.dropWhile (· ≠ ' ')).tail else none) := by
  induction line with
  | nil => rfl
  | cons first rest ih =>
      by_cases space : first = ' '
      · simp [cutAtSpace, space]
      · simp [cutAtSpace, space, Ne.symm space, ih]

theorem openedWindow_fields {field event rest : List Char} {id : WindowId}
    (whole : ' ' ∉ field) (number : IsNumber field id) (wholeEvent : ' ' ∉ event)
    (apart : ∀ c, rest.head? = some c → c = ' ') :
    openedWindow (field ++ ' ' :: (event ++ rest)) =
      .ok (if event = "new".toList then some ⟨id, String.ofList (Text.trim rest.tail)⟩
        else none) := by
  have fields := cutAtSpace_append field (event ++ rest) whole
  have events : cutAtSpace (event ++ rest) = (event, rest.head?.map fun _ => rest.tail) := by
    cases rest with
    | nil =>
        rw [List.append_nil, cutAtSpace_eq, if_neg wholeEvent]
        refine Prod.ext (List.takeWhile_eq_self_iff.mpr ?_) rfl
        intro c member
        simp only [ne_eq, decide_not, Bool.not_eq_true', decide_eq_false_iff_not]
        rintro rfl
        exact wholeEvent member
    | cons c later =>
        rw [apart c rfl, cutAtSpace_append event later wholeEvent]
        rfl
  simp only [openedWindow, fields, windowId?_eq_some_iff.mpr number, events]
  cases rest <;> split <;> simp_all

theorem openedWindow_eq_error_iff {line : List Char} {error : EditorError} :
    openedWindow line = .error error ↔
      error = .malformed .log (String.ofList line) ∧
        ((∀ id, ¬IsNumber (line.takeWhile (· ≠ ' ')) id) ∨ ' ' ∉ line) := by
  have numbered : (∀ id, ¬IsNumber (line.takeWhile (· ≠ ' ')) id) ↔
      windowId? (line.takeWhile (· ≠ ' ')) = none := by
    simp only [← windowId?_eq_some_iff, Option.eq_none_iff_forall_ne_some, ne_eq]
  rw [numbered]
  simp only [openedWindow, cutAtSpace_eq]
  by_cases second : ' ' ∈ line
  · cases windowId? (line.takeWhile (· ≠ ' ')) with
    | none => simp [second, eq_comm]
    | some id =>
        simp only [second, if_true]
        split <;> simp
  · cases windowId? (line.takeWhile (· ≠ ' ')) <;> simp [second, eq_comm]

/-! ### Both -/

/-- Lines that spell windows, however they are spaced, are listed as these windows in their order;
else the first line that cannot be read is quoted. A line of the log that says `new` is read back
as its window, of other lines none is read, and a line is refused just if its first field is no
number or it has no second. -/
theorem lines_read_as_written :
    (∀ (files : EditorFiles) (tree : FileTree) (text : List Char) (cut : List (List Char)),
      tree.read (Path.join files.root "index") = .ok (Utf8.encode text) → Paged text cut →
      (∀ windows, Lists cut windows → files.list tree = .ok windows) ∧
      ((∃ line ∈ cut, IsUnreadable line) →
        ∃ before line after, cut = before ++ line :: after ∧
          (∀ earlier ∈ before, ¬IsUnreadable earlier) ∧ IsUnreadable line ∧
          files.list tree = .error (.malformed .index (String.ofList line)))) ∧
    (∀ id name, IsTrimmed name →
      openedWindow (logLine id name) = .ok (some ⟨id, String.ofList name⟩)) ∧
    (∀ field event rest id, ' ' ∉ field → IsNumber field id → ' ' ∉ event →
      event ≠ "new".toList → (∀ c, rest.head? = some c → c = ' ') →
      openedWindow (field ++ ' ' :: (event ++ rest)) = .ok none) ∧
    ∀ line error, openedWindow line = .error error ↔
      error = .malformed .log (String.ofList line) ∧
        ((∀ id, ¬IsNumber (line.takeWhile (· ≠ ' ')) id) ∨ ' ' ∉ line) := by
  refine ⟨?_, ?_, ?_, ?_⟩
  · intro files tree text cut stored paged
    rw [list_eq stored paged]
    constructor
    · intro windows lists
      exact mapM_indexWindow_of_lists lists
    · intro unreadable
      exact mapM_indexWindow_of_unreadable unreadable
  · intro id name trimmed
    have digits : ' ' ∉ (toString id).toList := by
      intro member
      exact absurd (Text.isDigit_of_mem_toString member) (by decide)
    have apart : ∀ c, (' ' :: name).head? = some c → c = ' ' := by simp
    have opened := openedWindow_fields digits (isNumber_toString id)
      (show ' ' ∉ "new".toList by decide) apart
    rwa [if_pos rfl, List.tail_cons, Text.trim_eq_self trimmed] at opened
  · intro field event rest id whole number wholeEvent other apart
    rw [openedWindow_fields whole number wholeEvent apart, if_neg other]
  · intro line error
    exact openedWindow_eq_error_iff

def looseIndex : List Char :=
  "\n  +07 41\t97 0  0 /src/a.rs Del Snarf | Look \r\n \t\n 9 0 0 0 0 \n".toList

def looseLines : List (List Char) :=
  [[], "  +07 41\t97 0  0 /src/a.rs Del Snarf | Look ".toList, " \t".toList,
    " 9 0 0 0 0 ".toList]

def looseTree : FileTree :=
  .ofEntries "/t" [("index", some (Utf8.encode looseIndex))]

theorem lists_looseLines : Lists looseLines [⟨7, "/src/a.rs"⟩, ⟨9, ""⟩] := by
  have first : Spells looseLines[1] ("+07".toList :: (["41".toList, "97".toList, "0".toList,
      "0".toList] ++ "/src/a.rs".toList :: ["Del".toList, "Snarf".toList, "|".toList,
      "Look".toList])) :=
    Text.spells_iff.mpr (by decide +kernel)
  have second : Spells looseLines[3] ("9".toList :: List.replicate 4 "0".toList) :=
    Text.spells_iff.mpr (by decide +kernel)
  have last : Lists (looseLines.drop 3) [⟨9, ""⟩] :=
    .nameless second ⟨[], 0, .inl rfl, by decide⟩ (Nat.le_refl 4) .nothing
  have behind : Lists (looseLines.drop 2) [⟨9, ""⟩] := .blank (List.all_eq_true.mp rfl) last
  exact .blank (List.all_eq_true.mp rfl) (.named first ⟨['+'], 1, .inr rfl, by decide⟩ rfl behind)

def letteredLine : List Char :=
  "x 41 97 0 0 /src/a.rs".toList

def letteredTree : FileTree :=
  .ofEntries "/t" [("index", some (Utf8.encode letteredLine))]

theorem isUnreadable_letteredLine : IsUnreadable letteredLine := by
  refine ⟨_, _, Text.spells_words letteredLine, ?_⟩
  intro id denotes
  have unread : Text.u32? "x".toList = none := by decide
  cases unread.symm.trans (Text.u32?_eq_some_iff.mpr denotes)

theorem lines_read_as_written_looseIndex :
    looseTree.read "/t/index" = .ok (Utf8.encode looseIndex) ∧ Paged looseIndex looseLines ∧
      EditorFiles.list ⟨"/t"⟩ looseTree = .ok [⟨7, "/src/a.rs"⟩, ⟨9, ""⟩] ∧
      EditorFiles.list ⟨"/t"⟩ letteredTree =
        .error (.malformed .index (String.ofList letteredLine)) ∧
      IsNumber "12".toList 12 ∧ openedWindow "12 focus /tmp/x.py".toList = .ok none := by
  obtain ⟨index, _, others, _⟩ := lines_read_as_written
  have stored : looseTree.read "/t/index" = .ok (Utf8.encode looseIndex) := rfl
  have paged : Paged looseIndex looseLines := Text.paged_iff.mpr rfl
  have number : IsNumber "12".toList 12 :=
    ⟨[], "12".toList, [], by simp, by simp, ⟨[], 0, .inl rfl, by decide⟩, by simp⟩
  refine ⟨stored, paged, (index ⟨"/t"⟩ _ _ _ stored paged).1 _ lists_looseLines, ?_, number, ?_⟩
  · have alone : Paged letteredLine [letteredLine] := Text.paged_iff.mpr rfl
    obtain ⟨before, line, after, cut, _, _, refused⟩ :=
      (index ⟨"/t"⟩ letteredTree _ _ rfl alone).2 ⟨_, by simp, isUnreadable_letteredLine⟩
    obtain ⟨_, rfl, _⟩ : before = [] ∧ line = letteredLine ∧ after = [] := by
      simpa [List.cons_eq_append_iff, and_assoc] using cut
    exact refused
  · exact others "12".toList "focus".toList " /tmp/x.py".toList 12 (by decide) number (by decide)
      (by decide) (by simp)

end LiveHighlight.EditorFiles
