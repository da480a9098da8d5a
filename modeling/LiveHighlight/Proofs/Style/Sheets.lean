import LiveHighlight.Proofs.Text.Words
import LiveHighlight.Style.Palette

/-!
Palette files as they are written.

A sheet is the rows of a palette file with their line ends. Only its kind names and their order are
read: indents, comments, blank lines, line ends and the fields behind a name make no difference.
-/

namespace LiveHighlight.Palette

open Text (isBlank words lines)

/-! ### Sheets -/

structure Gap where
  chars : List Char
  blank : ∀ c ∈ chars, isBlank c = true
  whole : '\n' ∉ chars

structure Kind where
  name : List Char
  nonempty : name ≠ []
  solid : ∀ c ∈ name, isBlank c = false
  unmarked : name.head? ≠ some '#'

/-- What stands behind a name in its line: nothing, or fields and blanks, a blank first. -/
structure Fields where
  chars : List Char
  apart : ∀ c, chars.head? = some c → isBlank c = true
  whole : '\n' ∉ chars

inductive Row where
  | blank (gap : Gap)
  | comment (indent : Gap) (remark : List Char) (whole : '\n' ∉ remark)
  | entry (indent : Gap) (kind : Kind) (fields : Fields)

inductive LineEnd where
  | lineFeed
  | returnAndLineFeed

def LineEnd.chars : LineEnd → List Char
  | .lineFeed => ['\n']
  | .returnAndLineFeed => ['\r', '\n']

namespace Row

def text : Row → List Char
  | .blank gap => gap.chars
  | .comment indent remark _ => indent.chars ++ '#' :: remark
  | .entry indent kind fields => indent.chars ++ (kind.name ++ fields.chars)

def kind? : Row → Option String
  | .entry _ kind _ => some (String.ofList kind.name)
  | _ => none

end Row

structure Sheet where
  ended : List (Row × LineEnd)
  last : Row

namespace Sheet

def textFrom (last : Row) : List (Row × LineEnd) → List Char
  | [] => last.text
  | (row, stop) :: later => row.text ++ (stop.chars ++ textFrom last later)

def text (sheet : Sheet) : List Char :=
  textFrom sheet.last sheet.ended

def rows (sheet : Sheet) : List Row :=
  sheet.ended.map Prod.fst ++ [sheet.last]

def kinds (sheet : Sheet) : List String :=
  sheet.rows.filterMap Row.kind?

end Sheet

/-! ### What is read -/

theorem entry_congr {line other : List Char} (same : words line = words other) :
    entry? line = entry? other := by
  unfold entry?
  rw [same]

theorem entry_append_return (line : List Char) : entry? (line ++ ['\r']) = entry? line :=
  entry_congr (Text.words_append_blanks line (List.forall_mem_singleton.mpr (by decide)))

theorem Kind.words_append (kind : Kind) (fields : Fields) :
    words (kind.name ++ fields.chars) = kind.name :: words fields.chars := by
  cases spelled : fields.chars with
  | nil =>
      rw [List.append_nil, Text.words_of_solid kind.nonempty kind.solid]
      rfl
  | cons c rest =>
      have blank : isBlank c = true := fields.apart c (by simp [spelled])
      rw [Text.words_word_append kind.nonempty kind.solid blank, Text.words_blank rest blank]

namespace Row

theorem whole (row : Row) : '\n' ∉ row.text := by
  cases row with
  | blank gap => exact gap.whole
  | comment indent remark whole => simp [text, indent.whole, whole]
  | entry indent kind fields =>
      have solid : '\n' ∉ kind.name := by
        intro member
        exact absurd (kind.solid _ member) (by decide)
      simp [text, indent.whole, solid, fields.whole]

theorem entry_text (row : Row) : entry? row.text = row.kind? := by
  cases row with
  | blank gap =>
      have wordless : words gap.chars = words [] := by
        simpa using Text.words_blanks_append gap.blank []
      exact entry_congr wordless
  | comment indent remark whole =>
      have begins : ∀ c, ('#' :: remark).head? = some c → isBlank c = false := by
        intro c first
        rw [List.head?_cons, Option.some.injEq] at first
        rw [← first]
        decide
      unfold entry?
      rw [text, Text.words_blanks_append indent.blank,
        Text.words_eq_cons (List.cons_ne_nil '#' remark) begins]
      rfl
  | entry indent kind fields =>
      -- the name is the first word, and no mark of a comment stands in front of it
      unfold entry?
      rw [text, Text.words_blanks_append indent.blank, kind.words_append]
      split
      next equal => simp at equal
      next equal =>
        have marked := congrArg List.head? (List.cons.inj equal).1
        exact absurd marked kind.unmarked
      next equal =>
        rw [← (List.cons.inj equal).1]
        rfl

end Row

/-- A carriage return is a blank, so that it makes no difference whether it belongs to the line or
to its end. -/
theorem filterMap_lines_append {line : List Char} (whole : '\n' ∉ line) (rest : List Char) :
    (lines (line ++ '\n' :: rest)).filterMap entry? = (line :: lines rest).filterMap entry? := by
  by_cases returned : line.getLast? = some '\r'
  · obtain ⟨shown, rfl⟩ := List.getLast?_eq_some_iff.mp returned
    have wholeShown : '\n' ∉ shown := fun member => whole (List.mem_append_left _ member)
    rw [List.append_assoc, List.singleton_append, Text.lines_append_return wholeShown,
      List.filterMap_cons, List.filterMap_cons, entry_append_return]
  · rw [Text.lines_append_lineFeed whole returned]

theorem filterMap_lines_row (row : Row) (stop : LineEnd) (rest : List Char) :
    (lines (row.text ++ (stop.chars ++ rest))).filterMap entry? =
      (row.text :: lines rest).filterMap entry? := by
  cases stop with
  | lineFeed => exact filterMap_lines_append row.whole rest
  | returnAndLineFeed =>
      rw [LineEnd.chars, List.cons_append, List.singleton_append,
        Text.lines_append_return row.whole]

theorem filterMap_lines_last (row : Row) :
    (lines row.text).filterMap entry? = [row.text].filterMap entry? := by
  by_cases empty : row.text = []
  · rw [empty]
    rfl
  · rw [Text.lines_of_whole row.whole empty]

theorem entries_text (sheet : Sheet) : entries (String.ofList sheet.text) = sheet.kinds := by
  have read : (lines sheet.text).filterMap entry? =
      (sheet.rows.map Row.text).filterMap entry? := by
    rw [Sheet.text, Sheet.rows]
    induction sheet.ended with
    | nil => exact filterMap_lines_last sheet.last
    | cons row later ih =>
        rw [Sheet.textFrom, filterMap_lines_row, List.map_cons, List.cons_append, List.map_cons,
          List.filterMap_cons, List.filterMap_cons, ih]
  rw [entries, String.toList_ofList, read, Sheet.kinds, List.filterMap_map]
  exact List.filterMap_congr fun row _ => row.entry_text

/-! ### Every text is a sheet -/

theorem exists_kind {c : Char} {rest : List Char} (solid : isBlank c = false) (unmarked : c ≠ '#')
    (whole : '\n' ∉ c :: rest) :
    ∃ (kind : Kind) (fields : Fields), kind.name ++ fields.chars = c :: rest := by
  have starts : (c :: rest).takeWhile (!isBlank ·) = c :: rest.takeWhile (!isBlank ·) := by
    simp [solid]
  refine ⟨⟨(c :: rest).takeWhile (!isBlank ·), ?_, ?_, ?_⟩,
    ⟨(c :: rest).dropWhile (!isBlank ·), ?_, ?_⟩, List.takeWhile_append_dropWhile⟩
  · simp [starts]
  · intro d member
    simpa using List.mem_takeWhile_imp member
  · simp [starts, unmarked]
  · intro d first
    have stops := List.head?_dropWhile_not (!isBlank ·) (c :: rest)
    simpa [first] using stops
  · exact fun member => whole ((List.dropWhile_sublist _).mem member)

theorem exists_row {line : List Char} (whole : '\n' ∉ line) : ∃ row : Row, row.text = line := by
  have cut : line.takeWhile isBlank ++ line.dropWhile isBlank = line :=
    List.takeWhile_append_dropWhile
  have wholeIndent : '\n' ∉ line.takeWhile isBlank := fun member =>
    whole ((List.takeWhile_sublist isBlank).mem member)
  have wholeRest : '\n' ∉ line.dropWhile isBlank := fun member =>
    whole ((List.dropWhile_sublist isBlank).mem member)
  let indent : Gap := ⟨line.takeWhile isBlank, fun c => List.mem_takeWhile_imp, wholeIndent⟩
  have first := List.head?_dropWhile_not isBlank line
  cases behind : line.dropWhile isBlank with
  | nil =>
      rw [behind, List.append_nil] at cut
      exact ⟨.blank indent, cut⟩
  | cons c rest =>
      have solid : isBlank c = false := by simpa [behind] using first
      rw [behind] at cut wholeRest
      by_cases marked : c = '#'
      · subst marked
        exact ⟨.comment indent rest (fun member => wholeRest (by simp [member])), cut⟩
      · obtain ⟨kind, fields, spelled⟩ := exists_kind solid marked wholeRest
        refine ⟨.entry indent kind fields, ?_⟩
        rw [Row.text, spelled, cut]

theorem exists_sheet (text : List Char) : ∃ sheet : Sheet, sheet.text = text := by
  by_cases more : '\n' ∈ text
  · obtain ⟨line, rest, cut, whole⟩ := List.eq_append_cons_of_mem more
    obtain ⟨row, spelled⟩ := exists_row whole
    -- the recursion is on what is behind the first line end
    have shorter : rest.length < text.length := by
      rw [cut, List.length_append, List.length_cons]
      omega
    obtain ⟨⟨ended, last⟩, later⟩ := exists_sheet rest
    refine ⟨⟨(row, .lineFeed) :: ended, last⟩, ?_⟩
    rw [cut, ← spelled, ← later]
    rfl
  · obtain ⟨row, spelled⟩ := exists_row more
    exact ⟨⟨[], row⟩, spelled⟩
termination_by text.length

/-- Every text is a sheet, and a sheet makes the table of its kind names, or is refused if these
are too many. Sheets with the same kind names make the same table. -/
theorem sheets_parse_to_their_kinds :
    (∀ text : List Char, ∃ sheet : Sheet, sheet.text = text) ∧
      ∀ sheet : Sheet,
        parse (String.ofList sheet.text) = StyleTable.ofNames sheet.kinds ∧
          ((∃ table, parse (String.ofList sheet.text) = .ok table ∧ table.names = sheet.kinds) ↔
            sheet.kinds.length ≤ 256) ∧
          (∀ count, parse (String.ofList sheet.text) = .error (.tooManyEntries count) ↔
            256 < sheet.kinds.length ∧ count = sheet.kinds.length) ∧
          ∀ other : Sheet, other.kinds = sheet.kinds →
            parse (String.ofList other.text) = parse (String.ofList sheet.text) := by
  have parsed : ∀ sheet : Sheet,
      parse (String.ofList sheet.text) = StyleTable.ofNames sheet.kinds := by
    intro sheet
    rw [parse, entries_text]
  refine ⟨exists_sheet, ?_⟩
  intro sheet
  refine ⟨parsed sheet, ?_, ?_, ?_⟩
  · rw [parsed]
    constructor
    · rintro ⟨table, _, names⟩
      exact names ▸ table.length_le
    · intro fits
      exact ⟨⟨sheet.kinds, fits⟩, StyleTable.ofNames_eq_ok_iff.mpr rfl, rfl⟩
  · intro count
    rw [parsed, StyleTable.ofNames_eq_error_iff, StyleTableError.tooManyEntries.injEq]
  · intro other same
    rw [parsed, parsed, same]

def Gap.spaces (count : Nat) : Gap :=
  ⟨List.replicate count ' ', fun c member => by rw [List.eq_of_mem_replicate member]; decide,
    fun member => absurd (List.eq_of_mem_replicate member) (by decide)⟩

theorem solid_of_all {name : List Char} (solid : name.all (!isBlank ·) = true) :
    ∀ c ∈ name, isBlank c = false := by
  simpa using solid

def keywordKind : Kind :=
  ⟨"keyword".toList, by decide, solid_of_all (by decide), by decide⟩

def defaultKind : Kind :=
  ⟨"default".toList, by decide, solid_of_all (by decide), by decide⟩

def plainSheet : Sheet :=
  ⟨[(.entry (.spaces 0) defaultKind ⟨[], by simp, by decide⟩, .lineFeed)],
    .entry (.spaces 0) keywordKind ⟨[], by simp, by decide⟩⟩

def remarkedSheet : Sheet :=
  ⟨[(.comment (.spaces 0) " palette".toList (by decide), .lineFeed),
      (.blank (.spaces 3), .returnAndLineFeed),
      (.entry (.spaces 1) defaultKind ⟨" 000000 # ffffff".toList, by simp; decide, by decide⟩,
        .returnAndLineFeed),
      (.entry (.spaces 2) keywordKind ⟨" 0000ff - bold".toList, by simp; decide, by decide⟩,
        .lineFeed)],
    .blank (.spaces 0)⟩

theorem sheets_parse_to_their_kinds_remarkedSheet :
    remarkedSheet.kinds = plainSheet.kinds ∧
      String.ofList remarkedSheet.text =
        "# palette\n   \r\n default 000000 # ffffff\r\n  keyword 0000ff - bold\n" ∧
      String.ofList plainSheet.text = "default\nkeyword" ∧
      parse (String.ofList remarkedSheet.text) = parse (String.ofList plainSheet.text) := by
  have same : remarkedSheet.kinds = plainSheet.kinds := by decide
  exact ⟨same, by decide, by decide,
    (sheets_parse_to_their_kinds.2 plainSheet).2.2.2 remarkedSheet same⟩

end LiveHighlight.Palette
