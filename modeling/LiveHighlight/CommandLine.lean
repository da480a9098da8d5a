import LiveHighlight.Libraries

/-!
The command line.

`--config` takes a path and is required, `--verbose` takes nothing, and each stands once at most.
Short options may be run together, and a value may follow its option in the same word. Words are
read from left to right, and a request for help ends the reading.
-/

namespace LiveHighlight.CommandLine

structure Options where
  config : String
  verbose : Bool
  deriving DecidableEq, Repr

inductive UsageError where
  | unknownOption (word : String)
  | unexpectedWord (word : String)
  | unexpectedValue (word : String)
  | missingValue
  | repeatedConfig
  | repeatedVerbose
  | missingConfig
  deriving DecidableEq, Repr

def UsageError.message : UsageError → String
  | unknownOption word => s!"unexpected argument '{word}' found"
  | unexpectedWord word => s!"unexpected argument '{word}' found"
  | unexpectedValue word => s!"unexpected value in '{word}'"
  | missingValue => "a value is required for '--config <PATH>' but none was supplied"
  | repeatedConfig => "the argument '--config <PATH>' cannot be used multiple times"
  | repeatedVerbose => "the argument '--verbose' cannot be used multiple times"
  | missingConfig => "the following required arguments were not provided: --config <PATH>"

inductive Stop where
  | help
  | usage (error : UsageError)
  deriving DecidableEq, Repr

/-- What was read so far; `awaiting` tells that the next word is the path. -/
structure Progress where
  config : Option String := none
  verbose : Bool := false
  awaiting : Bool := false
  deriving DecidableEq, Repr

namespace Progress

def setConfig (progress : Progress) (path : String) : Except Stop Progress :=
  if path.isEmpty then .error (.usage .missingValue)
  else if progress.config.isSome then .error (.usage .repeatedConfig)
  else .ok { progress with config := some path, awaiting := false }

def setVerbose (progress : Progress) : Except Stop Progress :=
  if progress.verbose then .error (.usage .repeatedVerbose)
  else .ok { progress with verbose := true }

def await (progress : Progress) : Progress :=
  { progress with awaiting := true }

def longOption (progress : Progress) (word : String) (name : List Char) :
    Option (List Char) → Except Stop Progress
  | none =>
    if name = "config".toList then .ok progress.await
    else if name = "verbose".toList then progress.setVerbose
    else if name = "help".toList then .error .help
    else .error (.usage (.unknownOption word))
  | some value =>
    if name = "config".toList then progress.setConfig (String.ofList value)
    else if name = "verbose".toList || name = "help".toList then
      .error (.usage (.unexpectedValue word))
    else .error (.usage (.unknownOption word))

def shortOptions (word : String) : Progress → List Char → Except Stop Progress
  | progress, [] => .ok progress
  | progress, 'c' :: '=' :: value => progress.setConfig (String.ofList value)
  | progress, 'c' :: [] => .ok progress.await
  | progress, 'c' :: value => progress.setConfig (String.ofList value)
  | progress, 'v' :: rest => do shortOptions word (← progress.setVerbose) rest
  | _, 'h' :: _ => .error .help
  | _, _ => .error (.usage (.unknownOption word))

def splitValue : List Char → List Char × Option (List Char)
  | [] => ([], none)
  | c :: rest =>
    if c = '=' then ([], some rest)
    else
      let (name, value) := splitValue rest
      (c :: name, value)

def settle (progress : Progress) : Except Stop Progress :=
  if progress.awaiting then .error (.usage .missingValue) else .ok progress

def finish (progress : Progress) : Except Stop Options := do
  match (← progress.settle).config with
  | none => .error (.usage .missingConfig)
  | some path => .ok ⟨path, progress.verbose⟩

def read (progress : Progress) : List String → Except Stop Options
  | [] => progress.finish
  | word :: later => do
    match word.toList with
    | ['-', '-'] =>
      match later with
      | [] => progress.finish
      | unexpected :: _ => .error (.usage (.unexpectedWord unexpected))
    | '-' :: '-' :: rest =>
      let (name, value) := splitValue rest
      read (← (← progress.settle).longOption word name value) later
    | '-' :: first :: rest =>
      read (← shortOptions word (← progress.settle) (first :: rest)) later
    | _ =>
      if progress.awaiting then read (← progress.setConfig word) later
      else .error (.usage (.unexpectedWord word))

end Progress

def read (words : List String) : Except Stop Options :=
  Progress.read {} words

inductive Outcome where
  | help
  | usage (error : UsageError)
  | failed (error : StartupError)
  | runs (highlighter : Highlighter Grammar)

def start (words : List String) (tree : FileTree) : Outcome :=
  match read words with
  | .error .help => .help
  | .error (.usage error) => .usage error
  | .ok options =>
    match Highlighter.load tree options.config with
    | .error error => .failed error
    | .ok highlighter => .runs highlighter

def Outcome.exitCode : Outcome → Nat
  | help => 0
  | usage _ => 2
  | failed _ => 1
  | runs _ => 0

def Outcome.errorLine? : Outcome → Option String
  | failed error => some s!"Error: {error.headline}"
  | _ => none

end LiveHighlight.CommandLine
