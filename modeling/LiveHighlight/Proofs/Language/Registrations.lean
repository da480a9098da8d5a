import LiveHighlight.Proofs.Annotation.Overrides
import LiveHighlight.Proofs.Language.Additions
import LiveHighlight.Proofs.Language.Lines
import LiveHighlight.Proofs.Toml.Keys

/-!
Which registration of a program decides its language.

The last registration of a name hides those before it and the built-in entry, also where its own
language is not registered. The table of a configuration has one entry for a name, so that its order
does not matter.
-/

namespace LiveHighlight

open Text (Spells)

/-! ### Lines that run a program -/

namespace Interpreter

/-- A name that a program can be registered under and called by, whatever its version. -/
structure IsProgramName (name : List Char) : Prop where
  nonempty : name ≠ []
  whole : '/' ∉ name
  undashed : name.head? ≠ some '-'
  plain : '=' ∉ name
  other : name ≠ "env".toList
  unversioned : ∀ c, name.getLast? = some c → ¬(c.isDigit = true ∨ c = '.')

/-- Whether the words of a line run a program in a version: from any directory, or bare behind
`env`. -/
inductive Runs (name version : List Char) : List (List Char) → Prop
  | directly {program : List Char} (last : IsLastSegment program (name ++ version))
      (arguments : List (List Char)) : Runs name version (program :: arguments)
  | behindEnv {program : List Char} (env : IsLastSegment program "env".toList)
      (items : List EnvItem) (arguments : List (List Char)) :
      Runs name version (program :: (items.flatMap EnvItem.words ++ (name ++ version) :: arguments))

theorem programName?_of_runs {name version : List Char} {words : List (List Char)}
    (isName : IsProgramName name) (digits : ∀ c ∈ version, isVersionChar c = true)
    (runs : Runs name version words) : programName? words = some (name ++ version) := by
  cases runs with
  | directly last arguments =>
      rw [programName?_of_segment last (append_version_ne_env isName.other digits),
        if_neg (by simp [isName.nonempty])]
  | behindEnv env items arguments =>
      have isCommand : IsCommand name := ⟨isName.undashed, isName.plain⟩
      exact programName?_of_env env ⟨items, _, arguments, isCommand.append_version digits⟩

end Interpreter

/-! ### The entry of a name -/

namespace Resolver

theorem distinct_builtinInterpreters : (builtinInterpreters.map Prod.fst).Nodup := by
  decide +kernel

/-- Whether a program means a language after additions: by its last registration, or by the
built-in entry if it has none. -/
inductive Assigns (additions : List Addition) (program : String) : LanguageId → Prop
  | registered {language : LanguageId} (before after : List Addition)
      (cut : additions = before ++ .interpreter program language :: after)
      (last : ∀ other, .interpreter program other ∉ after) : Assigns additions program language
  | builtin {language : LanguageId}
      (unset : ∀ other, .interpreter program other ∉ additions)
      (entry : (program, language) ∈ builtinInterpreters) : Assigns additions program language

theorem assigns_concat (earlier : List Addition) (addition : Addition) (program : String)
    (language : LanguageId) :
    Assigns (earlier ++ [addition]) program language ↔
      addition = .interpreter program language ∨
        (∀ other, addition ≠ .interpreter program other) ∧ Assigns earlier program language := by
  constructor
  · rintro (⟨before, after, cut, last⟩ | ⟨unset, entry⟩)
    · rcases List.eq_nil_or_concat after with rfl | ⟨middle, final, rfl⟩
      · exact .inl (List.singleton_inj.mp (List.append_inj_right' cut rfl))
      · have regrouped : earlier ++ [addition] =
            (before ++ .interpreter program language :: middle) ++ [final] := by simpa using cut
        obtain ⟨rfl, same⟩ := List.append_inj' regrouped rfl
        obtain rfl := List.singleton_inj.mp same
        refine .inr
          ⟨fun other equal => last other (by simp [equal]), .registered before middle rfl ?_⟩
        exact fun other member => last other (by simp [member])
    · refine .inr ⟨fun other equal => unset other (by simp [equal]), .builtin ?_ entry⟩
      exact fun other member => unset other (by simp [member])
  · rintro (rfl | ⟨unlike, ⟨before, after, rfl, last⟩ | ⟨unset, entry⟩⟩)
    · exact .registered earlier [] rfl (by simp)
    · refine .registered before (after ++ [addition]) (by simp) fun other member => ?_
      rcases List.mem_append.mp member with member | member
      · exact last other member
      · exact unlike other (List.mem_singleton.mp member).symm
    · refine .builtin (fun other member => ?_) entry
      rcases List.mem_append.mp member with member | member
      · exact unset other member
      · exact unlike other (List.mem_singleton.mp member).symm

theorem assigns_insert (before after : List Addition) {addition : Addition} {program : String}
    (unlike : ∀ other, addition ≠ .interpreter program other) (language : LanguageId) :
    Assigns (before ++ addition :: after) program language ↔
      Assigns (before ++ after) program language := by
  induction after using List.reverseRecOn with
  | nil => simp [assigns_concat, unlike]
  | append_singleton middle final ih =>
      rw [← List.cons_append, ← List.append_assoc, ← List.append_assoc, assigns_concat,
        assigns_concat, ih]

theorem lookup_add (engine : PatternEngine) (resolver : Resolver) (addition : Addition)
    (program : String) (language : LanguageId) :
    (resolver.add engine addition).interpreters.lookup program = some language ↔
      addition = .interpreter program language ∨
        (∀ other, addition ≠ .interpreter program other) ∧
          resolver.interpreters.lookup program = some language := by
  rw [interpreters_add]
  cases addition with
  | handler pattern other => simp [Addition.interpreter?]
  | interpreter name other =>
      by_cases same : program = name
      · simp [Addition.interpreter?, same]
      · have apart : (program == name) = false := beq_eq_false_iff_ne.mpr same
        simp [Addition.interpreter?, List.lookup_cons, apart, Ne.symm same]

theorem lookup_built (engine : PatternEngine) (registered : List LanguageId)
    (additions : List Addition) (program : String) (language : LanguageId) :
    (built engine registered additions).interpreters.lookup program = some language ↔
      Assigns additions program language := by
  induction additions using List.reverseRecOn with
  | nil =>
      refine (lookup_eq_some_iff_mem distinct_builtinInterpreters).trans
        ⟨fun member => .builtin (by simp) member, ?_⟩
      rintro (⟨before, after, cut, _⟩ | ⟨_, member⟩)
      · simp at cut
      · exact member
  | append_singleton earlier addition ih => rw [built_concat, lookup_add, assigns_concat, ih]

theorem ofProgram?_built (engine : PatternEngine) (registered : List LanguageId)
    (additions : List Addition) {name : List Char} (isName : Interpreter.IsProgramName name)
    (language : LanguageId) :
    (built engine registered additions).ofProgram? name = some language ↔
      Assigns additions (String.ofList name) language ∧ language ∈ registered := by
  have unversioned : Interpreter.withoutVersion name = name := by
    apply Interpreter.withoutVersion_of_unversioned
    intro c last
    rw [Bool.eq_false_iff, ne_eq, Interpreter.isVersionChar_iff]
    exact isName.unversioned c last
  simp only [ofProgram?, unversioned, Option.bind_eq_some_iff, ifRegistered_built, lookup_built,
    Option.ite_none_right_eq_some, Option.some.injEq]
  constructor
  · rintro ⟨_, assigns, member, rfl⟩
    exact ⟨assigns, member⟩
  · rintro ⟨assigns, member⟩
    exact ⟨language, assigns, member, rfl⟩

theorem ofInterpreterLine?_built (engine : PatternEngine) (registered : List LanguageId)
    (additions : List Addition) {name version : List Char} {words : List (List Char)}
    {line : String} (isName : Interpreter.IsProgramName name)
    (digits : ∀ c ∈ version, Interpreter.isVersionChar c = true)
    (runs : Interpreter.Runs name version words) (spelled : Spells line.toList words)
    (language : LanguageId) :
    (built engine registered additions).ofInterpreterLine? ("#!" ++ line) = some language ↔
      Assigns additions (String.ofList name) language ∧ language ∈ registered := by
  rw [ofInterpreterLine?_of_named _ spelled (Interpreter.programName?_of_runs isName digits runs),
    ofProgram?_append _ name digits, ofProgram?_built _ _ _ isName]

end Resolver

/-! ### Configurations -/

namespace Config

open Resolver (Addition built Assigns)

def additions (config : Config) : List Addition :=
  config.interpreters.map (fun entry => .interpreter entry.1 entry.2) ++
    config.handlers.map fun handler => .handler handler.pattern handler.language

theorem eq_addAll_of_foldlM {engine : PatternEngine} {handlers : List HandlerConfig}
    {start resolver : Resolver} (extended : handlers.foldlM (fun resolver handler =>
      resolver.addHandlerBy engine handler.pattern handler.language) start = .ok resolver) :
    resolver = start.addAll engine
      (handlers.map fun handler => .handler handler.pattern handler.language) := by
  induction handlers generalizing start with
  | nil => exact (Except.ok.inj extended).symm
  | cons handler later ih =>
      rw [List.foldlM_cons] at extended
      cases added : start.addHandlerBy engine handler.pattern handler.language with
      | error refused =>
          rw [added] at extended
          cases extended
      | ok next =>
          rw [added] at extended
          have step : start.add engine (.handler handler.pattern handler.language) = next := by
            rw [Resolver.add, added]
          rw [ih extended, List.map_cons, Resolver.addAll, Resolver.addAll, List.foldl_cons, step]

theorem resolver_eq_built {config : Config} {engine : PatternEngine} {languages : List LanguageId}
    {resolver : Resolver} (made : config.resolver engine languages = .ok resolver) :
    resolver = built engine languages config.additions := by
  have table : config.interpreterResolver languages =
      built engine languages
        (config.interpreters.map fun entry => .interpreter entry.1 entry.2) := by
    rw [interpreterResolver, built, Resolver.addAll, List.foldl_map]
    rfl
  rw [eq_addAll_of_foldlM made, table, additions, Resolver.built_append]

theorem resolver_of_highlighter {γ : Type} [ParserLibrary γ] {libraries : Libraries γ}
    {config : Config} {tree : FileTree} {highlighter : Highlighter γ}
    (made : config.highlighterWith libraries tree = .ok highlighter) :
    highlighter.setup.resolver =
      built libraries.patterns highlighter.annotator.languages config.additions := by
  unfold highlighterWith at made
  cases styles : config.styleTable tree with
  | error cause =>
      rw [styles] at made
      cases made
  | ok table =>
      rw [styles] at made
      cases extended : config.resolver libraries.patterns
          (config.annotator libraries.bundle tree).languages with
      | error refused =>
          simp only [bind, Except.bind, extended, Except.mapError] at made
          cases made
      | ok resolver =>
          simp only [bind, Except.bind, pure, Except.pure, extended, Except.mapError] at made
          cases made
          exact resolver_eq_built extended

theorem assigns_additions {config : Config} (distinct : (config.interpreters.map Prod.fst).Nodup)
    (program : String) (language : LanguageId) :
    Assigns config.additions program language ↔
      (program, language) ∈ config.interpreters ∨
        (∀ other, (program, other) ∉ config.interpreters) ∧
          (program, language) ∈ Resolver.builtinInterpreters := by
  have mem_iff : ∀ other,
      Addition.interpreter program other ∈ config.additions ↔
        (program, other) ∈ config.interpreters := by
    intro other
    simp [additions]
  constructor
  · rintro (⟨before, after, cut, _⟩ | ⟨unset, entry⟩)
    · exact .inl ((mem_iff language).mp (by simp [cut]))
    · exact .inr ⟨fun other member => unset other ((mem_iff other).mpr member), entry⟩
  · rintro (member | ⟨unset, entry⟩)
    · obtain ⟨before, after, cut⟩ := List.append_of_mem member
      rw [cut, List.map_append, List.map_cons, List.nodup_append, List.nodup_cons] at distinct
      have once : ∀ other, (program, other) ∉ after := fun other again =>
        distinct.2.1.1 (List.mem_map.mpr ⟨_, again, rfl⟩)
      refine .registered (before.map fun entry => .interpreter entry.1 entry.2)
        (after.map (fun entry => .interpreter entry.1 entry.2) ++
          config.handlers.map fun handler => .handler handler.pattern handler.language)
        (by simp [additions, cut]) ?_
      intro other again
      simp [once] at again
    · exact .builtin (fun other member => unset other ((mem_iff other).mp member)) entry

theorem keys_of_mapM_stringEntry? {entries : Fields} {strings : List (String × String)}
    (read : entries.mapM stringEntry? = some strings) :
    strings.map Prod.fst = entries.map Prod.fst := by
  induction entries generalizing strings with
  | nil =>
      rw [List.mapM_nil] at read
      rw [← Option.some.inj read]
      rfl
  | cons entry later ih =>
      simp only [List.mapM_cons, bind, Option.bind_eq_some_iff, pure, Option.some.injEq] at read
      obtain ⟨string, found, strings, foundLater, rfl⟩ := read
      obtain ⟨text, _, rfl⟩ := Option.map_eq_some_iff.mp found
      rw [List.map_cons, List.map_cons, ih foundLater]

theorem distinct_of_stringTable? {value : Toml.Value} {table : List (String × String)}
    (distinct : value.HasDistinctKeys) (read : stringTable? value = some table) :
    (table.map Prod.fst).Nodup := by
  unfold stringTable? at read
  split at read
  next entries =>
    obtain ⟨strings, found, rfl⟩ := Option.map_eq_some_iff.mp read
    cases distinct with
    | table keys each =>
        rw [← keys_of_mapM_stringEntry? found] at keys
        exact ((List.mergeSort_perm strings _).map Prod.fst).nodup_iff.mpr keys
  next => simp [← Option.some.inj read]
  next => simp at read

theorem distinct_of_ofFields? {entries : Fields} {config : Config}
    (distinct : (Toml.Value.table entries).HasDistinctKeys)
    (read : ofFields? entries = some config) : (config.interpreters.map Prod.fst).Nodup := by
  simp only [ofFields?, onlyFields?, bind, Option.bind_eq_some_iff, pure, Option.some.injEq,
    Option.ite_none_right_eq_some] at read
  obtain ⟨_, ⟨_, rfl⟩, _, _, _, _, _, _, _, _, _, _, _, _, table, found, rfl⟩ := read
  unfold fieldOr? at found
  split at found
  next value present =>
    cases distinct with
    | table keys each =>
        have member := (lookup_eq_some_iff_mem keys).mp present
        exact distinct_of_stringTable? (each _ member) found
  next => simp [← Option.some.inj found]

theorem distinct_of_load {tree : FileTree} {path : String} {config : Config}
    (loaded : load tree path = .ok config) : (config.interpreters.map Prod.fst).Nodup := by
  obtain ⟨_, _, read, _⟩ := load_eq_ok_iff.mp loaded
  obtain ⟨entries, document, fields⟩ := Option.bind_eq_some_iff.mp read
  exact distinct_of_ofFields? (Toml.hasDistinctKeys_of_read? document) fields

end Config

/-! ### The decisive registration -/

namespace Resolver

open Interpreter (EnvItem IsLastSegment IsProgramName Runs)

/-- However a line runs a program, and in whatever version, it resolves to the language of the
program's last registration, or else of its built-in entry, if that language is registered, and to
none otherwise; what is added besides makes no difference. A highlighter goes by the table of its
configuration, which has one entry for a name when it was loaded, so that its order is of no
account. -/
theorem last_registration_decides {name version : List Char} {words : List (List Char)}
    {line : String} (isName : IsProgramName name)
    (digits : ∀ c ∈ version, c.isDigit = true ∨ c = '.') (runs : Runs name version words)
    (spelled : Spells line.toList words) :
    (∀ engine registered additions language,
      (built engine registered additions).ofInterpreterLine? ("#!" ++ line) = some language ↔
        Assigns additions (String.ofList name) language ∧ language ∈ registered) ∧
    (∀ engine registered before addition after,
      (∀ language, addition ≠ .interpreter (String.ofList name) language) →
        (built engine registered (before ++ addition :: after)).ofInterpreterLine? ("#!" ++ line) =
          (built engine registered (before ++ after)).ofInterpreterLine? ("#!" ++ line)) ∧
    (∀ (γ : Type) [ParserLibrary γ] (libraries : Libraries γ) (config : Config) tree highlighter,
      (config.interpreters.map Prod.fst).Nodup →
      config.highlighterWith libraries tree = .ok highlighter → ∀ language,
        highlighter.setup.resolver.ofInterpreterLine? ("#!" ++ line) = some language ↔
          ((String.ofList name, language) ∈ config.interpreters ∨
            (∀ other, (String.ofList name, other) ∉ config.interpreters) ∧
              (String.ofList name, language) ∈ builtinInterpreters) ∧
          language ∈ highlighter.annotator.languages) ∧
    ∀ tree path config, Config.load tree path = .ok config →
      (config.interpreters.map Prod.fst).Nodup := by
  have suffix : ∀ c ∈ version, Interpreter.isVersionChar c = true := fun c member =>
    (Interpreter.isVersionChar_iff c).mpr (digits c member)
  have resolves : ∀ engine registered additions language,
      (built engine registered additions).ofInterpreterLine? ("#!" ++ line) = some language ↔
        Assigns additions (String.ofList name) language ∧ language ∈ registered :=
    fun engine registered additions =>
      ofInterpreterLine?_built engine registered additions isName suffix runs spelled
  refine ⟨resolves, ?_, ?_, fun tree path config => Config.distinct_of_load⟩
  · intro engine registered before addition after unlike
    apply Option.ext
    intro language
    rw [resolves, resolves, assigns_insert before after unlike]
  · intro γ library libraries config tree highlighter distinct made language
    rw [Config.resolver_of_highlighter made, resolves, Config.assigns_additions distinct]

def overridden : List Addition :=
  [.interpreter "python" "go", .handler "y$" "python", .interpreter "python" "c"]

def pythonFiles : FileTree :=
  .ofEntries "/t" [("config.toml", some (Utf8.encode "[interpreters]\npython = 'c'\n".toList))]

def pythonConfig : Config :=
  { Config.default with interpreters := [("python", "c")] }

theorem load_pythonFiles : Config.load pythonFiles "/t/config.toml" = .ok pythonConfig :=
  Config.load_eq_ok_of_toOption (by decide +kernel)

theorem last_registration_decides_python :
    IsProgramName "python".toList ∧
      Runs "python".toList "3.11".toList ["env".toList, "-S".toList, "python3.11".toList] ∧
      Spells "env -S python3.11\n".toList ["env".toList, "-S".toList, "python3.11".toList] ∧
      (built Pattern.engine ["c", "python"] overridden).ofInterpreterLine?
        ("#!" ++ "env -S python3.11\n") = some "c" ∧
      Config.load pythonFiles "/t/config.toml" = .ok pythonConfig ∧
      (pythonConfig.interpreters.map Prod.fst).Nodup ∧
      ∃ highlighter, pythonConfig.highlighter pythonFiles = .ok highlighter ∧
        highlighter.setup.resolver.ofInterpreterLine? ("#!" ++ "env -S python3.11\n") =
          some "c" := by
  have isName : IsProgramName "python".toList :=
    ⟨by decide, by decide, by decide, by decide, by decide, by simp⟩
  have runs : Runs "python".toList "3.11".toList
      ["env".toList, "-S".toList, "python3.11".toList] :=
    .behindEnv ⟨by decide, .inl rfl⟩ [.option "-S".toList (by decide) (by decide)] []
  have spelled : Spells "env -S python3.11\n".toList
      ["env".toList, "-S".toList, "python3.11".toList] := Text.spells_iff.mpr (by decide)
  obtain ⟨resolves, _, highlights, loads⟩ :=
    last_registration_decides isName (by simp) runs spelled
  have distinct := loads _ _ _ load_pythonFiles
  have assigns : Assigns overridden (String.ofList "python".toList) "c" :=
    .registered [.interpreter "python" "go", .handler "y$" "python"] [] rfl (by simp)
  have listed : "c" ∈ Annotator.builtin.languages := List.mem_mergeSort.mpr (by decide +kernel)
  refine ⟨isName, runs, spelled, (resolves _ _ _ _).mpr ⟨assigns, by decide⟩, load_pythonFiles,
    distinct, _, rfl, ?_⟩
  exact (highlights Grammar .own pythonConfig pythonFiles _ distinct rfl _).mpr
    ⟨.inl (by decide), listed⟩

end Resolver
end LiveHighlight
