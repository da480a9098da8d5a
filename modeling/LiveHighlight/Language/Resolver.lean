import LiveHighlight.Language.Interpreter
import LiveHighlight.Text.Quoted

/-!
Which language a window is highlighted in.

Filename handlers are tried in the order in which they were added, and the first that matches
decides. Failing that, the interpreter line decides through a table of program names. Only a
registered language is ever the answer. What a pattern matches is up to the engine that compiles it.
-/

namespace LiveHighlight

abbrev LanguageId := String

structure PatternEngine where
  /-- Which texts a pattern matches. A pattern that is refused is so with the lines of a report. -/
  compile : String → Except (List String) (String → Bool)

structure FilenameHandler where
  isMatch : String → Bool
  language : LanguageId

structure Resolver where
  registered : List LanguageId
  handlers : List FilenameHandler
  interpreters : List (String × LanguageId)

structure PatternRefused where
  pattern : String
  cause : List String
  deriving DecidableEq, Repr

def PatternRefused.report (refused : PatternRefused) : List String :=
  match refused.cause with
  | [] => []
  | first :: later => s!"filename handler pattern {Text.quoted refused.pattern}: {first}" :: later

namespace Resolver

def builtinInterpreters : List (String × LanguageId) :=
  [("sh", "bash"), ("bash", "bash"), ("dash", "bash"), ("ksh", "bash"), ("zsh", "bash"),
    ("fish", "bash"), ("python", "python"), ("node", "javascript"), ("nodejs", "javascript"),
    ("deno", "javascript"), ("bun", "javascript"), ("ts-node", "javascript"), ("java", "java"),
    ("jbang", "java"), ("scala", "scala"), ("amm", "scala"), ("rust-script", "rust"), ("go", "go"),
    ("gorun", "go")]

def ofLanguages (registered : List LanguageId) : Resolver :=
  ⟨registered, [], builtinInterpreters⟩

def addHandlerBy (engine : PatternEngine) (resolver : Resolver) (pattern : String)
    (language : LanguageId) : Except PatternRefused Resolver :=
  match engine.compile pattern with
  | .ok isMatch => .ok { resolver with handlers := resolver.handlers ++ [⟨isMatch, language⟩] }
  | .error cause => .error ⟨pattern, cause⟩

def registerInterpreter (resolver : Resolver) (program : String) (language : LanguageId) :
    Resolver :=
  { resolver with interpreters := (program, language) :: resolver.interpreters }

def ifRegistered (resolver : Resolver) (language : LanguageId) : Option LanguageId :=
  if resolver.registered.contains language then some language else none

def ofFilename? (resolver : Resolver) (name : String) : Option LanguageId :=
  (resolver.handlers.find? (·.isMatch name)).bind fun handler =>
    resolver.ifRegistered handler.language

def ofInterpreterLine? (resolver : Resolver) (line : String) : Option LanguageId := do
  let name ← Interpreter.nameOfLine? (Text.trimEnd line.toList)
  let language ← resolver.interpreters.lookup (String.ofList (Interpreter.withoutVersion name))
  resolver.ifRegistered language

end Resolver
end LiveHighlight
