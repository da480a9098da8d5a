import LiveHighlight.Config.Basic
import LiveHighlight.Toml.Value

/-!
How a configuration is written in a document.

A record is a table whose keys are the names of its fields, and no others. Instead it may be an
array that lists its fields in their order, of which those at the end may be left out and those
beyond the last are not looked at.
-/

namespace LiveHighlight.Config

open Toml (Value)

abbrev Fields := List (String × Value)

def string? : Value → Option String
  | .string text => some text
  | _ => none

def millis? : Value → Option Nat
  | .integer (.ofNat number) => if number < UInt64.size then some number else none
  | _ => none

def onlyFields? (names : List String) (entries : Fields) : Option Fields :=
  if entries.all fun entry => names.contains entry.1 then some entries else none

def recordFields? (names : List String) : Value → Option Fields
  | .table entries => onlyFields? names entries
  | .array items => some (names.zip items)
  | _ => none

def fieldOr? {α : Type} (fields : Fields) (name : String) (read? : Value → Option α) (other : α) :
    Option α :=
  match fields.lookup name with
  | some value => read? value
  | none => some other

def field? {α : Type} (fields : Fields) (name : String) (read? : Value → Option α) : Option α :=
  (fields.lookup name).bind read?

def handler? (value : Value) : Option HandlerConfig := do
  let fields ← recordFields? ["pattern", "language_id"] value
  return ⟨← field? fields "pattern" string?, ← field? fields "language_id" string?⟩

def handlers? : Value → Option (List HandlerConfig)
  | .array items => items.mapM handler?
  | _ => none

def timing? (value : Value) : Option Timing := do
  let fields ← recordFields? ["debounce_ms", "backoff_base_ms", "backoff_cap_ms"] value
  let preset := Timing.default
  return {
    debounce := ← fieldOr? fields "debounce_ms" millis? preset.debounce
    backoffBase := ← fieldOr? fields "backoff_base_ms" millis? preset.backoffBase
    backoffCap := ← fieldOr? fields "backoff_cap_ms" millis? preset.backoffCap }

def roots? (value : Value) : Option (String × String) := do
  let fields ← recordFields? ["root", "styles_root"] value
  return (← fieldOr? fields "root" string? EditorFiles.defaultRoot,
    ← fieldOr? fields "styles_root" string? StyleFiles.defaultRoot)

/-- The key under which a moment stands when a table is asked for. -/
def momentKey : String := "$__toml_private_datetime"

def stringEntry? (entry : String × Value) : Option (String × String) :=
  (string? entry.2).map fun text => (entry.1, text)

def byKey (table : List (String × String)) : List (String × String) :=
  table.mergeSort fun first second => first.1 ≤ second.1

/-- A table of strings in the order of its keys. A moment counts as a table of one entry. -/
def stringTable? : Value → Option (List (String × String))
  | .table entries => (entries.mapM stringEntry?).map byKey
  | .moment text => some [(momentKey, text)]
  | _ => none

def fieldNames : List String :=
  ["style_file", "layer_name", "query_dir", "acme", "timing", "filename_handlers", "interpreters"]

def ofFields? (entries : Fields) : Option Config := do
  let fields ← onlyFields? fieldNames entries
  let preset := Config.default
  let roots ← fieldOr? fields "acme" roots? (preset.editorRoot, preset.stylesRoot)
  return {
    styleFile := ← fieldOr? fields "style_file" (fun value => (string? value).map some) none
    layerName := ← fieldOr? fields "layer_name" string? preset.layerName
    queryDirectory := ← fieldOr? fields "query_dir" (fun value => (string? value).map some) none
    editorRoot := roots.1
    stylesRoot := roots.2
    timing := ← fieldOr? fields "timing" timing? preset.timing
    handlers := ← fieldOr? fields "filename_handlers" handlers? []
    interpreters := ← fieldOr? fields "interpreters" stringTable? [] }

end LiveHighlight.Config
