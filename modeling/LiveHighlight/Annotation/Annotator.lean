import LiveHighlight.Annotation.Library
import LiveHighlight.Files.Tree
import LiveHighlight.Language.Resolver

/-!
The annotator: grammars by language, each with its highlight query.

A query text that does not compile leaves its language without a query, and such a language has no
captures. A directory of query files replaces the queries of the languages for which it has one.
-/

namespace LiveHighlight

open ParserLibrary (Compiled compile?)

structure GrammarEntry (γ : Type) [ParserLibrary γ] where
  id : LanguageId
  grammar : γ
  query : Option (Compiled γ)

namespace GrammarEntry

variable {γ : Type} [ParserLibrary γ]

def ofText (id : LanguageId) (grammar : γ) (text : String) : GrammarEntry γ :=
  ⟨id, grammar, compile? grammar text⟩

def hasQuery (entry : GrammarEntry γ) : Bool :=
  entry.query.isSome

def captures (entry : GrammarEntry γ) (source : Utf8.Bytes) : List Capture :=
  match entry.query with
  | some query => ParserLibrary.captures entry.grammar query source
  | none => []

end GrammarEntry

def bundledLanguages : List LanguageId :=
  ["bash", "c", "cpp", "go", "java", "javascript", "python", "rust"]

structure Bundle (γ : Type) where
  entries : List (LanguageId × γ × String)
  languages : entries.map (·.1) = bundledLanguages

/-- A map, as its entries in the order in which they are gone through. -/
structure Annotator (γ : Type) [ParserLibrary γ] where
  entries : List (LanguageId × GrammarEntry γ)
  distinct : (entries.map (·.1)).Nodup
  named : ∀ entry ∈ entries, entry.2.id = entry.1

/-- What becomes of work that is given to the pool for blocking tasks: its result, unless the task
is lost. -/
abbrev TaskPool : Type :=
  (Unit → List Capture) → Option (List Capture)

def TaskPool.dependable : TaskPool :=
  fun task => some (task ())

namespace Annotator

variable {γ : Type} [ParserLibrary γ]

def empty : Annotator γ where
  entries := []
  distinct := List.nodup_nil
  named := by simp

def register (annotator : Annotator γ) (language : LanguageId) (grammar : γ) (text : String) :
    Annotator γ where
  entries := (language, .ofText language grammar text) ::
    annotator.entries.filter (·.1 != language)
  distinct := by
    rw [List.map_cons, List.nodup_cons]
    refine ⟨by simp, annotator.distinct.sublist (List.filter_sublist.map _)⟩
  named := by
    rw [List.forall_mem_cons]
    exact ⟨rfl, fun entry member => annotator.named entry (List.mem_filter.mp member).1⟩

def ofBundle (bundle : Bundle γ) : Annotator γ :=
  bundle.entries.foldl (fun annotator (language, grammar, query) =>
    annotator.register language grammar query) empty

def entry? (annotator : Annotator γ) (language : LanguageId) : Option (GrammarEntry γ) :=
  annotator.entries.lookup language

def languages (annotator : Annotator γ) : List LanguageId :=
  (annotator.entries.map (·.1)).mergeSort (· ≤ ·)

def hasQuery (annotator : Annotator γ) (language : LanguageId) : Bool :=
  (annotator.entry? language).any (·.hasQuery)

def captures (annotator : Annotator γ) (language : LanguageId) (source : Utf8.Bytes) :
    List Capture :=
  match annotator.entry? language with
  | some entry => entry.captures source
  | none => []

def annotateOn (pool : TaskPool) (annotator : Annotator γ) (language : LanguageId)
    (source : Utf8.Bytes) : List Capture :=
  match (annotator.entry? language).filter (·.hasQuery) with
  | some entry => (pool fun _ => entry.captures source).getD []
  | none => []

def annotate (annotator : Annotator γ) (language : LanguageId) (source : Utf8.Bytes) :
    List Capture :=
  annotator.annotateOn .dependable language source

/-! ### Overrides -/

def overridePath (directory : String) (language : LanguageId) : String :=
  Path.joinAll directory [language, "highlights.scm"]

def override? (tree : FileTree) (directory : String) (language : LanguageId) : Option String :=
  (tree.readText (overridePath directory language)).toOption

section

variable (text? : LanguageId → Option String)

def overrideEntries (applied : Nat) :
    List (LanguageId × GrammarEntry γ) → Nat × List (LanguageId × GrammarEntry γ)
  | [] => (applied, [])
  | (language, entry) :: rest =>
    match text? entry.id with
    | some text =>
      let (applied, later) := overrideEntries (applied + 1) rest
      (applied, (language, .ofText entry.id entry.grammar text) :: later)
    | none =>
      let (applied, later) := overrideEntries applied rest
      (applied, (language, entry) :: later)

def overridden (entry : GrammarEntry γ) : GrammarEntry γ :=
  match text? entry.id with
  | some text => .ofText entry.id entry.grammar text
  | none => entry

theorem id_overridden (entry : GrammarEntry γ) : (overridden text? entry).id = entry.id := by
  unfold overridden
  split <;> rfl

theorem overrideEntries_eq (applied : Nat) (entries : List (LanguageId × GrammarEntry γ)) :
    overrideEntries text? applied entries =
      (applied + entries.countP fun entry => (text? entry.2.id).isSome,
        entries.map fun entry => (entry.1, overridden text? entry.2)) := by
  induction entries generalizing applied with
  | nil => rfl
  | cons entry rest ih =>
      cases read : text? entry.2.id with
      | none => simp [overrideEntries, overridden, read, ih]
      | some text => simp [overrideEntries, overridden, read, ih, Nat.add_assoc, Nat.add_comm 1]

end

def loadOverrides (annotator : Annotator γ) (tree : FileTree) (directory : String) :
    Nat × Annotator γ :=
  let passed := overrideEntries (override? tree directory) 0 annotator.entries
  (passed.1,
    { entries := passed.2
      distinct := by
        simp only [passed, overrideEntries_eq, List.map_map]
        exact annotator.distinct
      named := by
        simp only [passed, overrideEntries_eq, List.forall_mem_map, id_overridden]
        intro entry member
        exact annotator.named entry member })

end Annotator
end LiveHighlight
