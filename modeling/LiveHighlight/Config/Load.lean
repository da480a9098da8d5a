import LiveHighlight.Config.Schema
import LiveHighlight.Toml.Document

/-!
Loading a configuration from a file.
-/

namespace LiveHighlight

inductive ConfigError where
  | unreadable (path cause : String)
  | malformed (path : String)
  | invalid (setting : InvalidSetting)
  deriving DecidableEq, Repr

def ConfigError.message : ConfigError → String
  | unreadable path cause => s!"reading {path}: {cause}"
  | malformed path => s!"parsing {path}"
  | invalid setting => s!"invalid configuration: {setting.message}"

namespace Config

def read? (text : String) : Option Config :=
  (Toml.read? text).bind ofFields?

def load (tree : FileTree) (path : String) : Except ConfigError Config :=
  match tree.readText path with
  | .error cause => .error (.unreadable path cause.message)
  | .ok text =>
    match read? text with
    | none => .error (.malformed path)
    | some config =>
      match config.invalid? with
      | some setting => .error (.invalid setting)
      | none => .ok config

theorem load_eq_ok_iff {tree : FileTree} {path : String} {config : Config} :
    load tree path = .ok config ↔
      ∃ text, tree.readText path = .ok text ∧ read? text = some config ∧
        config.invalid? = none := by
  constructor
  · intro loaded
    unfold load at loaded
    split at loaded
    next => cases loaded
    next text found =>
      split at loaded
      next => cases loaded
      next read =>
        split at loaded
        next => cases loaded
        next valid =>
          cases loaded
          exact ⟨text, found, read, valid⟩
  · rintro ⟨text, found, read, valid⟩
    simp only [load, found, read, valid]

theorem load_eq_ok_of_toOption {tree : FileTree} {path : String} {config : Config}
    (loaded : (load tree path).toOption = some config) : load tree path = .ok config := by
  cases result : load tree path with
  | error cause => simp [result, Except.toOption] at loaded
  | ok found => simpa [result, Except.toOption] using loaded

theorem invalid?_of_load {tree : FileTree} {path : String} {config : Config}
    (loaded : load tree path = .ok config) : config.invalid? = none := by
  obtain ⟨_, _, _, valid⟩ := load_eq_ok_iff.mp loaded
  exact valid

end Config
end LiveHighlight
