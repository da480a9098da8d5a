/-!
Blanks, words and lines of a text.

`isBlank` is the Unicode property White_Space. `words` and `lines` cut a text where it is blank
and where its lines end.
-/

namespace LiveHighlight.Text

def blankRanges : List (Nat × Nat) :=
  [(0x09, 0x0D), (0x20, 0x20), (0x85, 0x85), (0xA0, 0xA0), (0x1680, 0x1680), (0x2000, 0x200A),
    (0x2028, 0x2029), (0x202F, 0x202F), (0x205F, 0x205F), (0x3000, 0x3000)]

def isBlank (c : Char) : Bool :=
  blankRanges.any fun range => range.1 ≤ c.toNat && c.toNat ≤ range.2

def trimStart (text : List Char) : List Char :=
  text.dropWhile isBlank

def trimEnd (text : List Char) : List Char :=
  (text.reverse.dropWhile isBlank).reverse

def trim (text : List Char) : List Char :=
  trimEnd (trimStart text)

def words : List Char → List (List Char)
  | [] => []
  | c :: rest =>
    if isBlank c then words rest
    else
      match rest, words rest with
      | d :: _, word :: later => if isBlank d then [c] :: word :: later else (c :: word) :: later
      | _, _ => [[c]]

/-- The text between line ends. A carriage return belongs to the line end that follows it; the
last line needs no line end. -/
def lines : List Char → List (List Char)
  | [] => []
  | '\n' :: rest => [] :: lines rest
  | '\r' :: '\n' :: rest => [] :: lines rest
  | c :: rest =>
    match lines rest with
    | [] => [[c]]
    | line :: later => (c :: line) :: later

theorem words_blank {c : Char} (rest : List Char) (blank : isBlank c = true) :
    words (c :: rest) = words rest := by
  simp [words, blank]

theorem words_of_all_blank {text : List Char} (blank : text.all isBlank = true) :
    words text = [] := by
  induction text with
  | nil => rfl
  | cons c rest ih =>
    simp only [List.all_cons, Bool.and_eq_true] at blank
    rw [words_blank rest blank.1, ih blank.2]

end LiveHighlight.Text
