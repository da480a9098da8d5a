import LiveHighlight.Annotation.Grammar
import LiveHighlight.Pattern.Reader
import LiveHighlight.Startup

/-!
The libraries that the program itself is built with: patterns as they are read and matched here, and
grammars that know line comments. A highlighter can be built with any others.
-/

namespace LiveHighlight

def Pattern.engine : PatternEngine where
  compile pattern :=
    match Expr.read pattern with
    | .ok expr => .ok expr.matches
    | .error error => .error error.report

def Resolver.addHandler (resolver : Resolver) (pattern : String) (language : LanguageId) :
    Except PatternRefused Resolver :=
  resolver.addHandlerBy Pattern.engine pattern language

def Grammar.bundle : Bundle Grammar where
  entries :=
    [("bash", .bash, "(comment) @comment"), ("c", .c, "(comment) @comment"), ("cpp", .c, ""),
      ("go", .go, "(comment) @comment"), ("java", .java, "(line_comment) @comment"),
      ("javascript", .javascript, "(comment) @comment"), ("python", .python, "(comment) @comment"),
      ("rust", .rust, "(line_comment) @comment")]
  languages := rfl

def Annotator.builtin : Annotator Grammar :=
  .ofBundle Grammar.bundle

def Libraries.own : Libraries Grammar :=
  ⟨Pattern.engine, Grammar.bundle⟩

def Config.highlighter (config : Config) (tree : FileTree) :
    Except StartupError (Highlighter Grammar) :=
  config.highlighterWith .own tree

def Highlighter.load (tree : FileTree) (path : String) :
    Except StartupError (Highlighter Grammar) :=
  match Config.load tree path with
  | .error cause => .error (.config path cause)
  | .ok config => config.highlighter tree

end LiveHighlight
