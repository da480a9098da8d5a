import LiveHighlight.Annotation.Annotator
import LiveHighlight.Config.Load
import LiveHighlight.Style.Palette

/-!
From a configuration to a highlighter that is ready to run.

The style file is looked at first, then the query overrides, and last the filename handlers; the
first failure ends the startup.
-/

namespace LiveHighlight

structure Libraries (γ : Type) where
  patterns : PatternEngine
  bundle : Bundle γ

structure Highlighter (γ : Type) [ParserLibrary γ] where
  setup : Setup
  annotator : Annotator γ
  editor : EditorFiles
  styles : StyleFiles

inductive StartupError where
  | config (path : String) (cause : ConfigError)
  | styleFile (path : String) (cause : StyleTableError)
  | pattern (refused : PatternRefused)
  deriving DecidableEq, Repr

def StartupError.report : StartupError → List String
  | config path cause => [s!"loading config {path}", "", "Caused by:", s!"    {cause.message}"]
  | styleFile path cause =>
    [s!"loading style file {path}", "", "Caused by:", s!"    {cause.message}"]
  | pattern refused => refused.report

def StartupError.headline (error : StartupError) : String :=
  error.report.head?.getD ""

namespace Config

def styleTable (config : Config) (tree : FileTree) : Except StartupError StyleTable :=
  match config.styleFile with
  | none => .ok .builtin
  | some path => (Palette.load tree path).mapError (.styleFile path)

def annotator {γ : Type} [ParserLibrary γ] (config : Config) (bundle : Bundle γ)
    (tree : FileTree) : Annotator γ :=
  match config.queryDirectory with
  | none => .ofBundle bundle
  | some directory => ((Annotator.ofBundle bundle).loadOverrides tree directory).2

def interpreterResolver (config : Config) (languages : List LanguageId) : Resolver :=
  config.interpreters.foldl (fun resolver entry => resolver.registerInterpreter entry.1 entry.2)
    (.ofLanguages languages)

def resolver (config : Config) (engine : PatternEngine) (languages : List LanguageId) :
    Except PatternRefused Resolver :=
  config.handlers.foldlM
    (fun resolver handler => resolver.addHandlerBy engine handler.pattern handler.language)
    (config.interpreterResolver languages)

def highlighterWith {γ : Type} [ParserLibrary γ] (libraries : Libraries γ) (config : Config)
    (tree : FileTree) : Except StartupError (Highlighter γ) := do
  let styles ← config.styleTable tree
  let annotator := config.annotator libraries.bundle tree
  let resolver ← (config.resolver libraries.patterns annotator.languages).mapError .pattern
  return {
    setup := ⟨resolver, styles, config.settings⟩
    annotator
    editor := ⟨config.editorRoot⟩
    styles := ⟨config.stylesRoot⟩ }

end Config
end LiveHighlight
