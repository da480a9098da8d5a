import LiveHighlight.Text.Blank

/-!
Style tables: kind names in the order of their style numbers.

Number 0 means unstyled. A capture name selects the entry of its longest dotted ancestor.
-/

namespace LiveHighlight

abbrev StyleId := UInt8

namespace StyleId

def unstyled : StyleId := 0

def isStyled (style : StyleId) : Bool :=
  style != unstyled

end StyleId

structure StyleTable where
  names : List String
  length_le : names.length ≤ 256

inductive StyleTableError where
  | unreadable (path cause : String)
  | tooManyEntries (count : Nat)
  deriving DecidableEq, Repr

def StyleTableError.message : StyleTableError → String
  | .unreadable path cause => s!"reading style file {path}: {cause}"
  | .tooManyEntries count => s!"style table has {count} entries; at most 256 are supported"

namespace StyleTable

def builtinNames : List String :=
  ["default", "comment", "string", "keyword", "type", "function", "constant", "number", "operator",
    "variable", "property", "punctuation"]

def builtin : StyleTable :=
  ⟨builtinNames, by decide⟩

def ofNames (names : List String) : Except StyleTableError StyleTable :=
  if bound : names.length ≤ 256 then .ok ⟨names, bound⟩
  else .error (.tooManyEntries names.length)

theorem ofNames_eq_ok_iff {names : List String} {table : StyleTable} :
    ofNames names = .ok table ↔ table.names = names := by
  unfold ofNames
  split
  · constructor
    · intro equal
      cases equal
      rfl
    · rintro rfl
      rfl
  · rename_i exceeds
    constructor
    · intro equal
      cases equal
    · rintro rfl
      exact absurd table.length_le exceeds

theorem ofNames_eq_error_iff {names : List String} {error : StyleTableError} :
    ofNames names = .error error ↔ 256 < names.length ∧ error = .tooManyEntries names.length := by
  unfold ofNames
  split
  · rename_i bound
    simp [Nat.not_lt.mpr bound]
  · rename_i exceeds
    simp [Nat.not_le.mp exceeds, eq_comm]

def size (table : StyleTable) : Nat :=
  table.names.length

def isEmpty (table : StyleTable) : Bool :=
  table.names.isEmpty

def name? (table : StyleTable) (style : StyleId) : Option String :=
  table.names[style.toNat]?

/-- The last position of `name`: a later entry replaces an earlier one of the same name. -/
def position? (table : StyleTable) (name : String) : Option Nat :=
  (table.names.zipIdx.reverse.find? fun entry => entry.1 == name).map (·.2)

def dottedStarts : List Char → List (List Char)
  | [] => []
  | c :: rest => (if c = '.' then [[]] else []) ++ (dottedStarts rest).map (c :: ·)

def ancestors (kind : List Char) : List (List Char) :=
  kind :: (dottedStarts kind).reverse

def withoutAt : List Char → List Char
  | '@' :: kind => kind
  | kind => kind

/-- The style of a capture name. The longest ancestor that is an entry decides, also when it
stands at number 0. -/
def resolve (table : StyleTable) (capture : String) : Option StyleId :=
  ((ancestors (withoutAt capture.toList)).findSome? fun kind => table.position? (String.ofList kind))
    |>.bind fun position => if position = 0 then none else some (UInt8.ofNat position)

end StyleTable
end LiveHighlight
