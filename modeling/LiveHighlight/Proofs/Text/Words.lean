import LiveHighlight.Text.Blank
import Mathlib.Data.List.Basic
import Mathlib.Data.List.TakeWhile

/-!
Words and lines of a text, and texts without blanks at their ends.
-/

namespace LiveHighlight.Text

def IsTrimmed (text : List Char) : Prop :=
  (∀ c, text.head? = some c → isBlank c = false) ∧ ∀ c, text.getLast? = some c → isBlank c = false

theorem isTrimmed_of_solid {text : List Char} (solid : ∀ c ∈ text, isBlank c = false) :
    IsTrimmed text :=
  ⟨fun c first => solid c (List.mem_of_mem_head? first),
    fun c last => solid c (List.mem_of_mem_getLast? last)⟩

theorem dropWhile_isBlank_of_head? {text : List Char}
    (solid : ∀ c, text.head? = some c → isBlank c = false) : text.dropWhile isBlank = text := by
  cases text with
  | nil => rfl
  | cons first rest => rw [List.dropWhile_cons_of_neg (by simp [solid first rfl])]

theorem trim_eq_self {text : List Char} (trimmed : IsTrimmed text) : trim text = text := by
  have start : trimStart text = text := dropWhile_isBlank_of_head? trimmed.1
  have stop : text.reverse.dropWhile isBlank = text.reverse :=
    dropWhile_isBlank_of_head? (by simpa using trimmed.2)
  rw [trim, start, trimEnd, stop, List.reverse_reverse]

theorem trim_spec (text : List Char) :
    ∃ front back, (∀ c ∈ front, isBlank c = true) ∧ (∀ c ∈ back, isBlank c = true) ∧
      text = front ++ (trim text ++ back) := by
  refine ⟨text.takeWhile isBlank, ((trimStart text).reverse.takeWhile isBlank).reverse,
    fun c => List.mem_takeWhile_imp,
    fun c member => List.mem_takeWhile_imp (List.mem_reverse.mp member), ?_⟩
  rw [trim, trimEnd, ← List.reverse_append, List.takeWhile_append_dropWhile, List.reverse_reverse,
    trimStart, List.takeWhile_append_dropWhile]

theorem trim_padded {front text back : List Char} (before : ∀ c ∈ front, isBlank c = true)
    (behind : ∀ c ∈ back, isBlank c = true) (nonempty : text ≠ []) (trimmed : IsTrimmed text) :
    trim (front ++ (text ++ back)) = text := by
  have start : trimStart (front ++ (text ++ back)) = text ++ back := by
    rw [trimStart, List.dropWhile_append_of_pos before]
    refine dropWhile_isBlank_of_head? ?_
    rw [List.head?_append_of_ne_nil _ nonempty]
    exact trimmed.1
  have stop : (text ++ back).reverse.dropWhile isBlank = text.reverse := by
    rw [List.reverse_append, List.dropWhile_append_of_pos (by simpa using behind)]
    exact dropWhile_isBlank_of_head? (by simpa using trimmed.2)
  rw [trim, start, trimEnd, stop, List.reverse_reverse]

theorem words_of_blank_next {c next : Char} (rest : List Char) (solid : isBlank c = false)
    (blank : isBlank next = true) : words (c :: next :: rest) = [c] :: words rest := by
  rw [← words_blank rest blank]
  conv_lhs => unfold words
  cases words (next :: rest) <;> simp [solid, blank]

theorem words_of_solid_next {c next : Char} {rest word : List Char} {later : List (List Char)}
    (solid : isBlank c = false) (solidNext : isBlank next = false)
    (read : words (next :: rest) = word :: later) :
    words (c :: next :: rest) = (c :: word) :: later := by
  conv_lhs => unfold words
  simp [solid, solidNext, read]

theorem words_eq_cons {text : List Char} (nonempty : text ≠ [])
    (solid : ∀ c, text.head? = some c → isBlank c = false) :
    words text = text.takeWhile (!isBlank ·) :: words (text.dropWhile (!isBlank ·)) := by
  induction text with
  | nil => exact absurd rfl nonempty
  | cons first rest ih =>
      have begins := solid first rfl
      cases rest with
      | nil => simp [begins, words]
      | cons second later =>
          by_cases blank : isBlank second = true
          · simp [words_of_blank_next later begins blank, begins, blank, words_blank]
          · have solidNext : isBlank second = false := by simpa using blank
            have tail := ih (by simp) (by simpa using blank)
            rw [words_of_solid_next begins solidNext tail]
            simp [begins, solidNext]

theorem words_blanks_append {blanks : List Char} (blank : ∀ c ∈ blanks, isBlank c = true)
    (rest : List Char) : words (blanks ++ rest) = words rest := by
  induction blanks with
  | nil => rfl
  | cons c later ih =>
      rw [List.cons_append, words_blank _ (blank c (by simp)),
        ih fun c member => blank c (by simp [member])]

theorem words_append_blank (text : List Char) {blank : Char} (isBlank_blank : isBlank blank = true)
    (rest : List Char) : words (text ++ blank :: rest) = words text ++ words rest := by
  induction text with
  | nil => exact words_blank rest isBlank_blank
  | cons first later ih =>
      by_cases white : isBlank first = true
      · rw [List.cons_append, words_blank _ white, words_blank _ white, ih]
      · have solid : isBlank first = false := by simpa using white
        cases later with
        | nil =>
            have single : words [first] = [[first]] := by simp [words, solid]
            rw [List.cons_append, List.nil_append, words_of_blank_next rest solid isBlank_blank,
              single, List.singleton_append]
        | cons second behind =>
            by_cases whiteNext : isBlank second = true
            · rw [List.cons_append, words_blank _ whiteNext, words_blank _ whiteNext] at ih
              rw [List.cons_append, List.cons_append, words_of_blank_next _ solid whiteNext,
                words_of_blank_next _ solid whiteNext, ih, List.cons_append]
            · have solidNext : isBlank second = false := by simpa using whiteNext
              have read := words_eq_cons (List.cons_ne_nil second behind) (by simp [solidNext])
              rw [read, List.cons_append, List.cons_append] at ih
              rw [List.cons_append, List.cons_append, words_of_solid_next solid solidNext ih,
                words_of_solid_next solid solidNext read, List.cons_append]

theorem words_append_blanks (text : List Char) {blanks : List Char}
    (blank : ∀ c ∈ blanks, isBlank c = true) : words (text ++ blanks) = words text := by
  cases blanks with
  | nil => rw [List.append_nil]
  | cons c later =>
      have wordless : words later = [] := by
        apply words_of_all_blank
        simpa using fun c member => blank c (List.mem_cons_of_mem _ member)
      rw [words_append_blank text (blank c (by simp)), wordless, List.append_nil]

theorem words_of_solid {word : List Char} (nonempty : word ≠ [])
    (solid : ∀ c ∈ word, isBlank c = false) : words word = [word] := by
  have unblank : ∀ c ∈ word, (!isBlank c) = true := fun c member => by simp [solid c member]
  rw [words_eq_cons nonempty fun c first => solid c (List.mem_of_mem_head? first),
    List.takeWhile_eq_self_iff.mpr unblank, List.dropWhile_eq_nil_iff.mpr unblank]
  rfl

theorem words_word_append {word : List Char} (nonempty : word ≠ [])
    (solid : ∀ c ∈ word, isBlank c = false) {blank : Char} (isBlank_blank : isBlank blank = true)
    (rest : List Char) : words (word ++ blank :: rest) = word :: words rest := by
  rw [words_append_blank word isBlank_blank, words_of_solid nonempty solid, List.singleton_append]

/-! ### Spellings -/

/-- Whether a text is these words in this order, with blanks of any kind and number between them,
in front and at the end. -/
inductive Spells : List Char → List (List Char) → Prop
  | blanks {text : List Char} (blank : ∀ c ∈ text, isBlank c = true) : Spells text []
  | word {gap word rest : List Char} {later : List (List Char)}
      (blank : ∀ c ∈ gap, isBlank c = true) (nonempty : word ≠ [])
      (solid : ∀ c ∈ word, isBlank c = false)
      (apart : ∀ c, rest.head? = some c → isBlank c = true) (spelled : Spells rest later) :
      Spells (gap ++ (word ++ rest)) (word :: later)

theorem nonempty_of_spells {text word : List Char} {later : List (List Char)}
    (spells : Spells text (word :: later)) : word ≠ [] := by
  cases spells with
  | word _ nonempty _ _ _ => exact nonempty

theorem words_of_spells {text : List Char} {spelled : List (List Char)}
    (spells : Spells text spelled) : words text = spelled := by
  induction spells with
  | blanks blank => exact words_of_all_blank (by simpa using blank)
  | @word gap word rest later blank nonempty solid apart spelled ih =>
      rw [words_blanks_append blank]
      cases rest with
      | nil => rw [List.append_nil, words_of_solid nonempty solid, ← ih, words]
      | cons c behind =>
          have white := apart c rfl
          rw [words_word_append nonempty solid white, ← ih, words_blank behind white]

theorem spells_words (text : List Char) : Spells text (words text) := by
  have cut : text.takeWhile isBlank ++ text.dropWhile isBlank = text :=
    List.takeWhile_append_dropWhile
  have gap : ∀ c ∈ text.takeWhile isBlank, isBlank c = true := fun c => List.mem_takeWhile_imp
  have first := List.head?_dropWhile_not isBlank text
  cases behind : text.dropWhile isBlank with
  | nil =>
      rw [behind, List.append_nil] at cut
      rw [words_of_all_blank (List.all_eq_true.mpr (cut ▸ gap))]
      exact .blanks (cut ▸ gap)
  | cons c rest =>
      have solid : isBlank c = false := by simpa [behind] using first
      have starts : (c :: rest).takeWhile (!isBlank ·) = c :: rest.takeWhile (!isBlank ·) := by
        simp [solid]
      -- the recursion is on what is behind the first word
      have shorter : ((c :: rest).dropWhile (!isBlank ·)).length < text.length := by
        rw [← cut, behind, List.length_append, List.dropWhile_cons_of_pos (by simp [solid]),
          List.length_cons]
        have := (List.dropWhile_sublist (!isBlank ·) (l := rest)).length_le
        omega
      rw [← cut, behind, words_blanks_append gap,
        words_eq_cons (List.cons_ne_nil c rest) (by simp [solid])]
      conv in (List.takeWhile isBlank text ++ _) =>
        rw [← List.takeWhile_append_dropWhile (p := (!isBlank ·)) (l := c :: rest)]
      refine .word gap ?_ ?_ ?_ (spells_words _)
      · simp [starts]
      · intro d member
        simpa using List.mem_takeWhile_imp member
      · intro d next
        have stops := List.head?_dropWhile_not (!isBlank ·) (c :: rest)
        simpa [next] using stops
termination_by text.length

theorem spells_iff {text : List Char} {spelled : List (List Char)} :
    Spells text spelled ↔ words text = spelled := by
  constructor
  · exact words_of_spells
  · rintro rfl
    exact spells_words text

/-! ### Blanks at the end -/

theorem trimEnd_append (front : List Char) {solid : Char} (isBlank_solid : isBlank solid = false)
    (text : List Char) : trimEnd (front ++ solid :: text) = front ++ solid :: trimEnd text := by
  have stops : (solid :: front.reverse).dropWhile isBlank = solid :: front.reverse :=
    List.dropWhile_cons_of_neg (by simp [isBlank_solid])
  have cut : (front ++ solid :: text).reverse = text.reverse ++ solid :: front.reverse := by simp
  rw [trimEnd, trimEnd, cut, List.dropWhile_append, stops]
  cases text.reverse.dropWhile isBlank with
  | nil => simp
  | cons c later => simp

theorem words_trimEnd (text : List Char) : words (trimEnd text) = words text := by
  have cut : trimEnd text ++ (text.reverse.takeWhile isBlank).reverse = text := by
    rw [trimEnd, ← List.reverse_append, List.takeWhile_append_dropWhile, List.reverse_reverse]
  have blank : ∀ c ∈ (text.reverse.takeWhile isBlank).reverse, isBlank c = true := by
    intro c member
    exact List.mem_takeWhile_imp (List.mem_reverse.mp member)
  conv_rhs => rw [← cut]
  exact (words_append_blanks (trimEnd text) blank).symm

/-! ### Lines -/

theorem lines_cons {c : Char} {rest : List Char} (inside : c ≠ '\n')
    (unpaired : c = '\r' → rest.head? ≠ some '\n') :
    lines (c :: rest) = (c :: (lines rest).headD []) :: (lines rest).tail := by
  conv_lhs => unfold lines
  split
  next equal => simp at equal
  next equal => exact absurd (List.cons.inj equal).1 inside
  next behind equal =>
    obtain ⟨rfl, rfl⟩ := List.cons.inj equal
    exact absurd rfl (unpaired rfl)
  next first later _ _ equal =>
    obtain ⟨rfl, rfl⟩ := List.cons.inj equal
    cases lines rest <;> rfl

theorem lines_of_whole {line : List Char} (whole : '\n' ∉ line) (nonempty : line ≠ []) :
    lines line = [line] := by
  induction line with
  | nil => exact absurd rfl nonempty
  | cons c rest ih =>
      simp only [List.mem_cons, not_or] at whole
      rw [lines_cons (Ne.symm whole.1) fun _ first => whole.2 (List.mem_of_mem_head? first)]
      cases rest with
      | nil => rfl
      | cons next later => rw [ih whole.2 (by simp)]; rfl

theorem head?_append_of_whole {line : List Char} (whole : '\n' ∉ line) (nonempty : line ≠ [])
    (rest : List Char) : (line ++ rest).head? ≠ some '\n' := by
  rw [List.head?_append_of_ne_nil _ nonempty]
  intro first
  exact whole (List.mem_of_mem_head? first)

theorem lines_append_lineFeed {line : List Char} (whole : '\n' ∉ line)
    (unpaired : line.getLast? ≠ some '\r') (rest : List Char) :
    lines (line ++ '\n' :: rest) = line :: lines rest := by
  induction line with
  | nil => rfl
  | cons c later ih =>
      simp only [List.mem_cons, not_or] at whole
      cases later with
      | nil =>
          have alone : c = '\r' → ('\n' :: rest).head? ≠ some '\n' := by
            intro same
            exact absurd (same ▸ rfl) unpaired
          rw [List.cons_append, List.nil_append, lines_cons (Ne.symm whole.1) alone]
          rfl
      | cons next behind =>
          have tail := ih whole.2 (by simpa using unpaired)
          rw [List.cons_append, lines_cons (Ne.symm whole.1) fun _ =>
            head?_append_of_whole whole.2 (by simp) _, tail]
          rfl

theorem lines_append_return {line : List Char} (whole : '\n' ∉ line) (rest : List Char) :
    lines (line ++ '\r' :: '\n' :: rest) = line :: lines rest := by
  induction line with
  | nil => rfl
  | cons c later ih =>
      simp only [List.mem_cons, not_or] at whole
      rw [List.cons_append, lines_cons (Ne.symm whole.1), ih whole.2]
      · rfl
      · intro _
        cases later with
        | nil => simp
        | cons next behind => exact head?_append_of_whole whole.2 (by simp) _

/-! ### Pages -/

/-- Whether a text is these lines in this order. A line ends at a line feed, or at a carriage
return with a line feed behind it; the last may have no end. -/
inductive Paged : List Char → List (List Char) → Prop
  | empty : Paged [] []
  | last {line : List Char} (whole : '\n' ∉ line) (nonempty : line ≠ []) : Paged line [line]
  | lineFeed {line rest : List Char} {later : List (List Char)} (whole : '\n' ∉ line)
      (unpaired : line.getLast? ≠ some '\r') (paged : Paged rest later) :
      Paged (line ++ '\n' :: rest) (line :: later)
  | returned {line rest : List Char} {later : List (List Char)} (whole : '\n' ∉ line)
      (paged : Paged rest later) : Paged (line ++ '\r' :: '\n' :: rest) (line :: later)

theorem lines_of_paged {text : List Char} {cut : List (List Char)} (paged : Paged text cut) :
    lines text = cut := by
  induction paged with
  | empty => rfl
  | last whole nonempty => exact lines_of_whole whole nonempty
  | lineFeed whole unpaired _ ih => rw [lines_append_lineFeed whole unpaired, ih]
  | returned whole _ ih => rw [lines_append_return whole, ih]

theorem paged_lines (text : List Char) : Paged text (lines text) := by
  by_cases more : '\n' ∈ text
  · obtain ⟨line, rest, rfl, whole⟩ := List.eq_append_cons_of_mem more
    -- the recursion is on what is behind the first line end
    have shorter : rest.length < (line ++ '\n' :: rest).length := by
      rw [List.length_append, List.length_cons]
      omega
    by_cases returned : line.getLast? = some '\r'
    · obtain ⟨shown, rfl⟩ := List.getLast?_eq_some_iff.mp returned
      have wholeShown : '\n' ∉ shown := fun member => whole (List.mem_append_left _ member)
      rw [List.append_assoc, List.singleton_append, lines_append_return wholeShown]
      exact .returned wholeShown (paged_lines rest)
    · rw [lines_append_lineFeed whole returned]
      exact .lineFeed whole returned (paged_lines rest)
  · by_cases empty : text = []
    · exact empty ▸ .empty
    · rw [lines_of_whole more empty]
      exact .last more empty
termination_by text.length

theorem paged_iff {text : List Char} {cut : List (List Char)} :
    Paged text cut ↔ lines text = cut := by
  constructor
  · exact lines_of_paged
  · rintro rfl
    exact paged_lines text

end LiveHighlight.Text
