/-!
Highlight queries.

A query is a list of patterns. A pattern names a kind of node in parentheses, and behind it the
kinds under which such a node is captured. Blanks, and comments from `;` to the end of the line,
stand anywhere between the parts.
-/

namespace LiveHighlight

structure QueryPattern where
  node : String
  captures : List String
  deriving DecidableEq, Repr

namespace QueryPattern

/-- A pattern has room for so many captures; those beyond are not looked at. -/
def captureLimit : Nat := 3

def withCapture (pattern : QueryPattern) (kind : String) : QueryPattern :=
  { pattern with captures := (pattern.captures ++ [kind]).take captureLimit }

end QueryPattern

structure Query where
  patterns : List QueryPattern
  deriving DecidableEq, Repr

namespace Query

inductive Token where
  | opening
  | closing
  | name (text : String)
  | capture (text : String)
  deriving DecidableEq, Repr

def startsName (c : Char) : Bool :=
  c.isAlphanum || c = '_' || c = '-'

def continuesName (c : Char) : Bool :=
  startsName c || c = '.'

def isBlank (c : Char) : Bool :=
  c = ' ' || ('\t' ≤ c && c ≤ '\r')

theorem length_dropWhile_lt (holds : Char → Bool) (text : List Char) :
    (text.dropWhile holds).length < text.length + 1 :=
  Nat.lt_succ_of_le (List.dropWhile_sublist holds).length_le

def tokens? : List Char → Option (List Token)
  | [] => some []
  | c :: rest =>
    if isBlank c then tokens? rest
    else if c = ';' then tokens? (rest.dropWhile (· != '\n'))
    else if c = '(' then (tokens? rest).map (.opening :: ·)
    else if c = ')' then (tokens? rest).map (.closing :: ·)
    else if c = '@' then
      if rest.head?.any startsName then
        (tokens? (rest.dropWhile continuesName)).map
          (.capture (String.ofList (rest.takeWhile continuesName)) :: ·)
      else none
    else if startsName c then
      (tokens? (rest.dropWhile continuesName)).map
        (.name (String.ofList (c :: rest.takeWhile continuesName)) :: ·)
    else none
termination_by text => text.length
decreasing_by
  all_goals simp only [List.length_cons, Nat.lt_add_one, length_dropWhile_lt]

def ofTokens? (nodes : List String) : List QueryPattern → List Token → Option Query
  | patterns, [] => some ⟨patterns.reverse⟩
  | patterns, .opening :: .name node :: .closing :: rest =>
    if nodes.contains node then ofTokens? nodes (⟨node, []⟩ :: patterns) rest else none
  | pattern :: earlier, .capture kind :: rest =>
    ofTokens? nodes (pattern.withCapture kind :: earlier) rest
  | _, _ => none

def read? (nodes : List String) (text : String) : Option Query :=
  (tokens? text.toList).bind (ofTokens? nodes [])

end Query
end LiveHighlight
