import LiveHighlight.Libraries
import Mathlib.Data.List.Induction

/-!
What is added to a resolver, in any order.

A handler whose pattern is refused leaves no trace. Of those that were taken the first that matches
a name decides, and no handler that comes later changes that. All of this holds for any engine that
compiles the patterns.
-/

namespace LiveHighlight.Resolver

/-! ### Additions -/

inductive Addition where
  | handler (pattern : String) (language : LanguageId)
  | interpreter (program : String) (language : LanguageId)
  deriving DecidableEq, Repr

variable (engine : PatternEngine)

/-- A refused pattern leaves the resolver in use that was there before. -/
def add (resolver : Resolver) : Addition → Resolver
  | .handler pattern language =>
    match resolver.addHandlerBy engine pattern language with
    | .ok extended => extended
    | .error _ => resolver
  | .interpreter program language => resolver.registerInterpreter program language

def addAll (resolver : Resolver) (additions : List Addition) : Resolver :=
  additions.foldl (add engine) resolver

def built (registered : List LanguageId) (additions : List Addition) : Resolver :=
  (ofLanguages registered).addAll engine additions

namespace Addition

def handler? : Addition → Option FilenameHandler
  | .handler pattern language =>
    match engine.compile pattern with
    | .ok isMatch => some ⟨isMatch, language⟩
    | .error _ => none
  | .interpreter _ _ => none

def interpreter? : Addition → Option (String × LanguageId)
  | .handler _ _ => none
  | .interpreter program language => some (program, language)

/-- Whether a name is handled in a language by an addition: by a handler whose pattern is taken and
matches. -/
inductive Handles (name : String) : Addition → LanguageId → Prop
  | matched {pattern : String} {isMatch : String → Bool} {language : LanguageId}
      (compiled : engine.compile pattern = .ok isMatch) (found : isMatch name = true) :
      Handles name (.handler pattern language) language

theorem handles_iff (addition : Addition) (name : String) (language : LanguageId) :
    addition.Handles engine name language ↔
      ((addition.handler? engine).filter (·.isMatch name)).map (·.language) = some language := by
  constructor
  · rintro ⟨compiled, found⟩
    simp [handler?, compiled, found]
  · intro handled
    obtain ⟨handler, taken, rfl⟩ := Option.map_eq_some_iff.mp handled
    obtain ⟨taken, found⟩ := Option.filter_eq_some_iff.mp taken
    cases addition with
    | interpreter program other => simp [handler?] at taken
    | handler pattern other =>
        cases compiled : engine.compile pattern with
        | error cause => simp [handler?, compiled] at taken
        | ok isMatch =>
            obtain rfl : ⟨isMatch, other⟩ = handler := by
              simpa [handler?, compiled] using taken
            exact .matched compiled found

instance (addition : Addition) (name : String) (language : LanguageId) :
    Decidable (addition.Handles engine name language) :=
  decidable_of_iff _ (addition.handles_iff engine name language).symm

end Addition

variable {engine}

theorem addHandlerBy_of_refused (resolver : Resolver) {pattern : String} {cause : List String}
    (refused : engine.compile pattern = .error cause) (language : LanguageId) :
    resolver.addHandlerBy engine pattern language = .error ⟨pattern, cause⟩ := by
  rw [addHandlerBy, refused]

theorem handlers_add (resolver : Resolver) (addition : Addition) :
    (resolver.add engine addition).handlers =
      resolver.handlers ++ (addition.handler? engine).toList := by
  cases addition with
  | interpreter program language => simp [add, registerInterpreter, Addition.handler?]
  | handler pattern language =>
      cases compiled : engine.compile pattern with
      | error cause => simp [add, addHandlerBy, Addition.handler?, compiled]
      | ok isMatch => simp [add, addHandlerBy, Addition.handler?, compiled]

theorem interpreters_add (resolver : Resolver) (addition : Addition) :
    (resolver.add engine addition).interpreters =
      addition.interpreter?.toList ++ resolver.interpreters := by
  cases addition with
  | interpreter program language => simp [add, registerInterpreter, Addition.interpreter?]
  | handler pattern language =>
      cases compiled : engine.compile pattern with
      | error cause => simp [add, addHandlerBy, Addition.interpreter?, compiled]
      | ok isMatch => simp [add, addHandlerBy, Addition.interpreter?, compiled]

theorem registered_add (resolver : Resolver) (addition : Addition) :
    (resolver.add engine addition).registered = resolver.registered := by
  cases addition with
  | interpreter program language => rfl
  | handler pattern language =>
      cases compiled : engine.compile pattern with
      | error cause => simp [add, addHandlerBy, compiled]
      | ok isMatch => simp [add, addHandlerBy, compiled]

theorem built_append (registered : List LanguageId) (earlier later : List Addition) :
    built engine registered (earlier ++ later) =
      (built engine registered earlier).addAll engine later :=
  List.foldl_append

theorem built_concat (registered : List LanguageId) (additions : List Addition)
    (addition : Addition) :
    built engine registered (additions ++ [addition]) =
      (built engine registered additions).add engine addition :=
  built_append registered additions [addition]

theorem handlers_built (registered : List LanguageId) (additions : List Addition) :
    (built engine registered additions).handlers =
      additions.filterMap (Addition.handler? engine) := by
  induction additions using List.reverseRecOn with
  | nil => rfl
  | append_singleton earlier addition ih =>
      rw [built_concat, handlers_add, ih, List.filterMap_append]
      cases taken : addition.handler? engine <;> simp [taken]

theorem registered_built (registered : List LanguageId) (additions : List Addition) :
    (built engine registered additions).registered = registered := by
  induction additions using List.reverseRecOn with
  | nil => rfl
  | append_singleton earlier addition ih => rw [built_concat, registered_add, ih]

theorem ifRegistered_built (registered : List LanguageId) (additions : List Addition)
    (language : LanguageId) :
    (built engine registered additions).ifRegistered language =
      if language ∈ registered then some language else none := by
  simp only [ifRegistered, registered_built, List.contains_iff_mem]

/-! ### The first handler -/

/-- Whether the first addition that handles a name does so in this language. -/
def DecidedBy (engine : PatternEngine) (additions : List Addition) (name : String)
    (language : LanguageId) : Prop :=
  ∃ before addition after, additions = before ++ addition :: after ∧
    addition.Handles engine name language ∧
      ∀ earlier ∈ before, ∀ other, ¬earlier.Handles engine name other

theorem find?_handlers_eq_none {additions : List Addition} {name : String}
    (unhandled : ∀ addition ∈ additions, ∀ language, ¬addition.Handles engine name language) :
    (additions.filterMap (Addition.handler? engine)).find? (·.isMatch name) = none := by
  rw [List.find?_eq_none]
  intro handler member found
  obtain ⟨addition, belongs, taken⟩ := List.mem_filterMap.mp member
  apply unhandled addition belongs handler.language
  simp [Addition.handles_iff, taken, found]

theorem ofFilename?_of_unhandled (registered : List LanguageId) {additions : List Addition}
    {name : String}
    (unhandled : ∀ addition ∈ additions, ∀ language, ¬addition.Handles engine name language) :
    (built engine registered additions).ofFilename? name = none := by
  rw [ofFilename?, handlers_built, find?_handlers_eq_none unhandled, Option.bind_none]

theorem ofFilename?_of_decided (registered : List LanguageId) {additions : List Addition}
    {name : String} {language : LanguageId} (decided : DecidedBy engine additions name language) :
    (built engine registered additions).ofFilename? name =
      if language ∈ registered then some language else none := by
  obtain ⟨before, addition, after, rfl, handles, first⟩ := decided
  obtain ⟨handler, taken, rfl⟩ :=
    Option.map_eq_some_iff.mp ((addition.handles_iff engine name language).mp handles)
  obtain ⟨taken, found⟩ := Option.filter_eq_some_iff.mp taken
  have decisive : (handler :: after.filterMap (Addition.handler? engine)).find?
      (·.isMatch name) = some handler := List.find?_cons_of_pos found
  rw [ofFilename?, handlers_built, List.filterMap_append, List.filterMap_cons_some taken,
    List.find?_append, find?_handlers_eq_none first, Option.none_or, decisive, Option.bind_some,
    ifRegistered_built]

theorem decided_or_unhandled (additions : List Addition) (name : String) :
    (∃ language, DecidedBy engine additions name language) ∨
      ∀ addition ∈ additions, ∀ language, ¬addition.Handles engine name language := by
  induction additions using List.reverseRecOn with
  | nil => exact .inr (by simp)
  | append_singleton earlier addition ih =>
      rcases ih with ⟨language, before, decisive, after, rfl, handles, first⟩ | unhandled
      · exact .inl ⟨language, before, decisive, after ++ [addition], by simp, handles, first⟩
      · by_cases handles : ∃ language, addition.Handles engine name language
        · obtain ⟨language, handles⟩ := handles
          exact .inl ⟨language, earlier, addition, [], rfl, handles, unhandled⟩
        · refine .inr fun other member => ?_
          rcases List.mem_append.mp member with member | member
          · exact unhandled other member
          · rw [List.mem_singleton.mp member]
            exact not_exists.mp handles

theorem DecidedBy.append {additions : List Addition} {name : String} {language : LanguageId}
    (decided : DecidedBy engine additions name language) (later : List Addition) :
    DecidedBy engine (additions ++ later) name language := by
  obtain ⟨before, addition, after, rfl, handles, first⟩ := decided
  exact ⟨before, addition, after ++ later, by simp, handles, first⟩

theorem built_refused (registered : List LanguageId) (before after : List Addition)
    {pattern : String} {cause : List String}
    (refused : engine.compile pattern = .error cause) (language : LanguageId) :
    built engine registered (before ++ .handler pattern language :: after) =
      built engine registered (before ++ after) := by
  have unchanged : (built engine registered before).add engine (.handler pattern language) =
      built engine registered before := by
    rw [add, addHandlerBy_of_refused _ refused]
  rw [built_append, addAll, List.foldl_cons, unchanged, ← addAll, ← built_append]

/-- A name is decided by the first handler that was taken and matches it: in the language of that
handler if this is registered, and in none otherwise. A refused pattern counts for nothing wherever
it stands, and one handler more makes a difference only to names that none before it handles. -/
theorem first_matching_handler_decides (engine : PatternEngine) (registered : List LanguageId)
    (additions : List Addition) (name : String) :
    (∀ language, DecidedBy engine additions name language →
      (built engine registered additions).ofFilename? name =
        if language ∈ registered then some language else none) ∧
    ((∀ addition ∈ additions, ∀ language, ¬addition.Handles engine name language) →
      (built engine registered additions).ofFilename? name = none) ∧
    (∀ before after pattern language cause,
      additions = before ++ .handler pattern language :: after →
      engine.compile pattern = .error cause →
        (built engine registered before).addHandlerBy engine pattern language =
          .error ⟨pattern, cause⟩ ∧
        (built engine registered additions).handlers.length =
          (built engine registered (before ++ after)).handlers.length ∧
        ∀ other, (built engine registered additions).ofFilename? other =
          (built engine registered (before ++ after)).ofFilename? other) ∧
    ∀ pattern language,
      (built engine registered (additions ++ [.handler pattern language])).ofFilename? name ≠
          (built engine registered additions).ofFilename? name →
        ∀ addition ∈ additions, ∀ earlier, ¬addition.Handles engine name earlier := by
  refine ⟨fun language => ofFilename?_of_decided registered,
    ofFilename?_of_unhandled registered, ?_, ?_⟩
  · rintro before after pattern language cause rfl refused
    rw [built_refused registered before after refused]
    exact ⟨addHandlerBy_of_refused _ refused language, rfl, fun _ => rfl⟩
  · intro pattern language differs
    refine (decided_or_unhandled additions name).resolve_left ?_
    rintro ⟨decisive, decided⟩
    rw [ofFilename?_of_decided registered decided,
      ofFilename?_of_decided registered (decided.append _)] at differs
    exact differs rfl

def mixedAdditions : List Addition :=
  [.handler "\\.rb$" "ruby", .handler "(" "rust", .handler "r.$" "rust"]

def rustBuilt (additions : List Addition) : Resolver :=
  built Pattern.engine ["rust"] additions

theorem first_matching_handler_decides_mixedAdditions :
    DecidedBy Pattern.engine mixedAdditions "app.rb" "ruby" ∧
      (rustBuilt mixedAdditions).ofFilename? "app.rb" = none ∧
      Pattern.engine.compile "(" = .error ["regex parse error:", "error: unclosed group"] ∧
      (rustBuilt mixedAdditions).handlers.length =
        (rustBuilt [.handler "\\.rb$" "ruby", .handler "r.$" "rust"]).handlers.length ∧
      (rustBuilt (mixedAdditions ++ [.handler "" "rust"])).ofFilename? "notes" ≠
        (rustBuilt mixedAdditions).ofFilename? "notes" ∧
      (rustBuilt mixedAdditions).ofFilename? "notes" = none := by
  have handles : (Addition.handler "\\.rb$" "ruby").Handles Pattern.engine "app.rb" "ruby" := by
    decide +kernel
  have decided : DecidedBy Pattern.engine mixedAdditions "app.rb" "ruby" :=
    ⟨[], _, _, rfl, handles, by simp⟩
  have refused : Pattern.engine.compile "(" =
      .error ["regex parse error:", "error: unclosed group"] := rfl
  have differs : (rustBuilt (mixedAdditions ++ [.handler "" "rust"])).ofFilename? "notes" ≠
      (rustBuilt mixedAdditions).ofFilename? "notes" := by decide +kernel
  obtain ⟨decides, _, refusal, _⟩ :=
    first_matching_handler_decides Pattern.engine ["rust"] mixedAdditions "app.rb"
  obtain ⟨_, unhandled, _, changed⟩ :=
    first_matching_handler_decides Pattern.engine ["rust"] mixedAdditions "notes"
  exact ⟨decided, decides _ decided, refused, (refusal [_] [_] _ _ _ rfl refused).2.1, differs,
    unhandled (changed _ _ differs)⟩

end LiveHighlight.Resolver
