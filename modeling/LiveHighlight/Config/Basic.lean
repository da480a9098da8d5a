import LiveHighlight.EditorFiles.Basic
import LiveHighlight.Session.Basic
import LiveHighlight.StyleFiles

/-!
The configuration, and which settings make sense.
-/

namespace LiveHighlight

structure HandlerConfig where
  pattern : String
  language : LanguageId
  deriving DecidableEq, Repr

/-- Spans of time in milliseconds. -/
structure Timing where
  debounce : Nat
  backoffBase : Nat
  backoffCap : Nat
  deriving DecidableEq, Repr

def Timing.default : Timing :=
  ⟨200, 200, 30000⟩

structure Config where
  styleFile : Option String
  layerName : String
  queryDirectory : Option String
  editorRoot : String
  stylesRoot : String
  timing : Timing
  handlers : List HandlerConfig
  interpreters : List (String × LanguageId)
  deriving DecidableEq, Repr

inductive InvalidSetting where
  | emptyLayerName
  | zeroBackoffBase
  | capBelowBase (cap base : Nat)
  deriving DecidableEq, Repr

def InvalidSetting.message : InvalidSetting → String
  | emptyLayerName => "layer_name must not be empty"
  | zeroBackoffBase => "timing.backoff_base_ms must be positive"
  | capBelowBase cap base =>
    s!"timing.backoff_cap_ms ({cap}) is below timing.backoff_base_ms ({base})"

namespace Config

def default : Config :=
  { styleFile := none, layerName := Settings.defaultLayerName, queryDirectory := none,
    editorRoot := EditorFiles.defaultRoot, stylesRoot := StyleFiles.defaultRoot,
    timing := .default, handlers := [], interpreters := [] }

def invalid? (config : Config) : Option InvalidSetting :=
  if config.layerName.toList.all Text.isBlank then some .emptyLayerName
  else if config.timing.backoffBase = 0 then some .zeroBackoffBase
  else if config.timing.backoffCap < config.timing.backoffBase then
    some (.capBelowBase config.timing.backoffCap config.timing.backoffBase)
  else none

theorem invalid?_eq_none_iff {config : Config} :
    config.invalid? = none ↔
      config.layerName.toList.all Text.isBlank = false ∧ 0 < config.timing.backoffBase ∧
        config.timing.backoffBase ≤ config.timing.backoffCap := by
  unfold invalid?
  split
  · simp_all
  · split
    · simp_all
    · split
      · simp_all
      · simp_all
        omega

def settings (config : Config) : Settings :=
  { layerName := config.layerName
    debounce := Clock.ofMillis config.timing.debounce
    backoffBase := Clock.ofMillis config.timing.backoffBase
    backoffCap := Clock.ofMillis config.timing.backoffCap }

end Config
end LiveHighlight
