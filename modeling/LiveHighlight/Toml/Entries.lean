import LiveHighlight.Toml.Value

/-!
Tables as they are put together.

A table comes into being through its own header, through the header of a table within it, or
through a dotted key. Each table has one header at most, and a dotted key adds to no table that has
one. A value that was written out is never added to.
-/

namespace LiveHighlight.Toml

inductive Origin where
  | header
  | innerHeader
  | dottedKey
  deriving DecidableEq, Repr

inductive Node where
  | value (value : Value)
  | table (origin : Origin) (entries : List (String × Node))
  /-- A table for each header in double brackets, latest first. -/
  | tables (elements : List (List (String × Node)))

abbrev Entries := List (String × Node)

namespace Entries

def put (entries : Entries) (key : String) (node : Node) : Entries :=
  if (entries.lookup key).isSome then
    entries.map fun entry => if entry.1 = key then (key, node) else entry
  else entries ++ [(key, node)]

def set? (value : Value) : List String → Entries → Option Entries
  | [], _ => none
  | [key], entries =>
    if (entries.lookup key).isSome then none else some (entries.put key (.value value))
  | key :: later, entries =>
    match entries.lookup key with
    | none => (set? value later []).map fun inner => entries.put key (.table .dottedKey inner)
    | some (.table origin inner) =>
      if origin = .header then none
      else (set? value later inner).map fun inner => entries.put key (.table origin inner)
    | some _ => none

/-- Changes the table under a path of headers; of several elements the latest is meant. -/
def within? (change : Entries → Option Entries) : List String → Entries → Option Entries
  | [], entries => change entries
  | key :: later, entries =>
    match entries.lookup key with
    | none => (within? change later []).map fun inner => entries.put key (.table .innerHeader inner)
    | some (.table origin inner) =>
      (within? change later inner).map fun inner => entries.put key (.table origin inner)
    | some (.tables (latest :: earlier)) =>
      (within? change later latest).map fun latest => entries.put key (.tables (latest :: earlier))
    | some _ => none

def openTable? (key : String) (entries : Entries) : Option Entries :=
  match entries.lookup key with
  | none => some (entries.put key (.table .header []))
  | some (.table .innerHeader inner) => some (entries.put key (.table .header inner))
  | some _ => none

def openElement? (key : String) (entries : Entries) : Option Entries :=
  match entries.lookup key with
  | none => some (entries.put key (.tables [[]]))
  | some (.tables elements) => some (entries.put key (.tables ([] :: elements)))
  | some _ => none

end Entries

mutual

def Node.toValue : Node → Value
  | .value value => value
  | .table _ entries => .table (entryValues entries)
  | .tables elements => .array (elementValues elements [])

def entryValues : Entries → List (String × Value)
  | [] => []
  | (key, node) :: later => (key, node.toValue) :: entryValues later

def elementValues : List Entries → List Value → List Value
  | [], behind => behind
  | element :: earlier, behind => elementValues earlier (.table (entryValues element) :: behind)

end

end LiveHighlight.Toml
