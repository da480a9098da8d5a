import LiveHighlight.Annotation.Annotator
import LiveHighlight.Annotation.Grammar
import Mathlib.Data.List.Sort
import Mathlib.Data.String.Basic

/-!
What an annotator has after registrations and overrides.

A language is there once it is registered. Its grammar is the one that was registered last, and its
query is compiled from the text that came last, by a registration or from a file, whether or not the
text compiles. The order in which the entries are gone through makes no difference.
-/

namespace LiveHighlight

theorem lookup_eq_some_iff_mem {α : Type} {entries : List (String × α)} {key : String} {value : α}
    (distinct : (entries.map Prod.fst).Nodup) :
    entries.lookup key = some value ↔ (key, value) ∈ entries := by
  rw [List.lookup_eq_some_iff]
  constructor
  · rintro ⟨before, after, rfl, _⟩
    simp
  · intro member
    obtain ⟨before, after, rfl⟩ := List.append_of_mem member
    refine ⟨before, after, rfl, fun entry earlier => ?_⟩
    rw [List.map_append, List.map_cons, List.nodup_append] at distinct
    have apart := distinct.2.2 entry.1 (List.mem_map_of_mem earlier) key (by simp)
    simpa using apart.symm

namespace Annotator

/-! ### Histories -/

inductive Operation (γ : Type) where
  | register (language : LanguageId) (grammar : γ) (text : String)
  | loadOverrides (tree : FileTree) (directory : String)

section

variable {γ : Type}

def Operation.grammar? (language : LanguageId) : Operation γ → Option γ
  | .register other grammar _ => if other = language then some grammar else none
  | .loadOverrides _ _ => none

def Operation.text? (language : LanguageId) : Operation γ → Option String
  | .register other _ text => if other = language then some text else none
  | .loadOverrides tree directory => override? tree directory language

/-- The latest operation of a history stands first. -/
def lastGrammar? (history : List (Operation γ)) (language : LanguageId) : Option γ :=
  history.findSome? (·.grammar? language)

/-- A file counts also before its language is there, but then a registration comes after it. -/
def lastText? (history : List (Operation γ)) (language : LanguageId) : Option String :=
  history.findSome? (·.text? language)

theorem isSome_lastGrammar?_iff {history : List (Operation γ)} {language : LanguageId} :
    (lastGrammar? history language).isSome = true ↔
      ∃ grammar text, .register language grammar text ∈ history := by
  rw [lastGrammar?, List.findSome?_isSome_iff]
  constructor
  · rintro ⟨operation, member, brings⟩
    cases operation with
    | register other grammar text =>
        by_cases own : other = language
        · exact ⟨grammar, text, own ▸ member⟩
        · simp [Operation.grammar?, own] at brings
    | loadOverrides => cases brings
  · rintro ⟨grammar, text, member⟩
    exact ⟨_, member, by simp [Operation.grammar?]⟩

theorem exists_lastText? {history : List (Operation γ)} {language : LanguageId} {grammar : γ}
    (registered : lastGrammar? history language = some grammar) :
    ∃ text, lastText? history language = some text := by
  obtain ⟨_, text, member⟩ := isSome_lastGrammar?_iff.mp (by rw [registered]; rfl)
  exact Option.isSome_iff_exists.mp
    (List.findSome?_isSome_iff.mpr ⟨_, member, by simp [Operation.text?]⟩)

theorem lastText?_loadOverrides (history : List (Operation γ)) (tree : FileTree)
    (directory : String) (language : LanguageId) :
    lastText? (.loadOverrides tree directory :: history) language =
      (override? tree directory language).or (lastText? history language) := by
  rw [lastText?, List.findSome?_cons, Operation.text?]
  cases override? tree directory language <;> rfl

end

open ParserLibrary (Compiled compile?)

variable {γ : Type} [ParserLibrary γ]

def lastQuery? (history : List (Operation γ)) (language : LanguageId) : Option (Compiled γ) := do
  compile? (← lastGrammar? history language) (← lastText? history language)

def lastCaptures (history : List (Operation γ)) (language : LanguageId) (source : Utf8.Bytes) :
    List Capture :=
  match lastGrammar? history language, lastQuery? history language with
  | some grammar, some query => ParserLibrary.captures grammar query source
  | _, _ => []

def apply (annotator : Annotator γ) : Operation γ → Annotator γ
  | .register language grammar text => annotator.register language grammar text
  | .loadOverrides tree directory => (annotator.loadOverrides tree directory).2

/-- What some operations, the latest first, make of the empty annotator. The entries may come in
another order at any time. -/
inductive After : List (Operation γ) → Annotator γ → Prop
  | nothing : After [] .empty
  | operation {history annotator} (latest : Operation γ) (earlier : After history annotator) :
      After (latest :: history) (annotator.apply latest)
  | reordered {history annotator other} (earlier : After history annotator)
      (same : annotator.entries.Perm other.entries) : After history other

/-! ### Entries -/

theorem entry?_eq_some_iff {annotator : Annotator γ} {language : LanguageId}
    {entry : GrammarEntry γ} :
    annotator.entry? language = some entry ↔ (language, entry) ∈ annotator.entries :=
  lookup_eq_some_iff_mem annotator.distinct

theorem id_of_entry? {annotator : Annotator γ} {language : LanguageId} {entry : GrammarEntry γ}
    (found : annotator.entry? language = some entry) : entry.id = language :=
  annotator.named (language, entry) (entry?_eq_some_iff.mp found)

theorem entry?_perm {annotator other : Annotator γ} (same : annotator.entries.Perm other.entries)
    (language : LanguageId) : other.entry? language = annotator.entry? language := by
  refine Option.ext fun entry => ?_
  rw [entry?_eq_some_iff, entry?_eq_some_iff, same.mem_iff]

theorem entry?_register (annotator : Annotator γ) (registered : LanguageId) (grammar : γ)
    (text : String) (language : LanguageId) :
    entry? (annotator.register registered grammar text) language =
      if registered = language then some (.ofText language grammar text)
      else annotator.entry? language := by
  refine Option.ext fun entry => ?_
  rw [entry?_eq_some_iff]
  by_cases own : registered = language
  · subst own
    simp [register, eq_comm]
  · simp [register, own, Ne.symm own, entry?_eq_some_iff]

theorem entries_loadOverrides (annotator : Annotator γ) (tree : FileTree) (directory : String) :
    (annotator.loadOverrides tree directory).2.entries = annotator.entries.map fun entry =>
      (entry.1, overridden (override? tree directory) entry.2) :=
  congrArg Prod.snd (overrideEntries_eq _ _ _)

theorem entry?_loadOverrides (annotator : Annotator γ) (tree : FileTree) (directory : String)
    (language : LanguageId) :
    entry? (annotator.loadOverrides tree directory).2 language =
      (annotator.entry? language).map (overridden (override? tree directory)) := by
  refine Option.ext fun entry => ?_
  rw [entry?_eq_some_iff, entries_loadOverrides]
  simp [entry?_eq_some_iff]

/-! ### The last text decides -/

def entryAfter? (history : List (Operation γ)) (language : LanguageId) : Option (GrammarEntry γ) :=
  (lastGrammar? history language).bind fun grammar =>
    (lastText? history language).map fun text => .ofText language grammar text

theorem entryAfter?_register (history : List (Operation γ)) (registered : LanguageId) (grammar : γ)
    (text : String) (language : LanguageId) :
    entryAfter? (.register registered grammar text :: history) language =
      if registered = language then some (.ofText language grammar text)
      else entryAfter? history language := by
  by_cases own : registered = language <;>
    simp [entryAfter?, lastGrammar?, lastText?, Operation.grammar?, Operation.text?, own]

theorem overridden_ofText (text? : LanguageId → Option String) (language : LanguageId)
    (grammar : γ) (text : String) :
    overridden text? (.ofText language grammar text) =
      .ofText language grammar ((text? language).getD text) := by
  cases read : text? language <;> simp [overridden, GrammarEntry.ofText, read]

theorem entryAfter?_loadOverrides (history : List (Operation γ)) (tree : FileTree)
    (directory : String) (language : LanguageId) :
    entryAfter? (.loadOverrides tree directory :: history) language =
      (entryAfter? history language).map (overridden (override? tree directory)) := by
  have same : lastGrammar? (.loadOverrides tree directory :: history) language =
      lastGrammar? history language := rfl
  rw [entryAfter?, entryAfter?, same, lastText?_loadOverrides]
  cases registered : lastGrammar? history language with
  | none => rfl
  | some grammar =>
      -- where there is a grammar there is a text, so the file has one to replace
      obtain ⟨text, last⟩ := exists_lastText? registered
      rw [last]
      simp only [Option.bind_some, Option.map_some, overridden_ofText]
      cases override? tree directory language <;> rfl

theorem After.entry?_eq {history : List (Operation γ)} {annotator : Annotator γ}
    (after : After history annotator) (language : LanguageId) :
    annotator.entry? language = entryAfter? history language := by
  induction after with
  | nothing => rfl
  | operation latest _ ih =>
      cases latest with
      | register => rw [apply, entry?_register, entryAfter?_register, ih]
      | loadOverrides => rw [apply, entry?_loadOverrides, entryAfter?_loadOverrides, ih]
  | reordered _ same ih => rw [entry?_perm same, ih]

/-! ### What is asked of an annotator -/

theorem mem_languages_iff {annotator : Annotator γ} {language : LanguageId} :
    language ∈ annotator.languages ↔ (annotator.entry? language).isSome = true := by
  rw [languages, List.mem_mergeSort, entry?, List.lookup_isSome_iff]
  simp only [List.mem_map, beq_iff_eq, @eq_comm _ language]

theorem pairwise_languages (annotator : Annotator γ) : annotator.languages.Pairwise (· < ·) := by
  have sorted := List.pairwise_mergeSort' (· ≤ ·) (annotator.entries.map (·.1))
  have distinct : annotator.languages.Nodup :=
    (List.mergeSort_perm _ _).nodup_iff.mpr annotator.distinct
  exact sorted.imp₂ (fun _ _ => lt_of_le_of_ne) distinct

theorem languages_perm {annotator other : Annotator γ}
    (same : annotator.entries.Perm other.entries) : other.languages = annotator.languages := by
  have perm : other.languages.Perm annotator.languages :=
    (List.mergeSort_perm _ _).trans ((same.symm.map _).trans (List.mergeSort_perm _ _).symm)
  exact perm.eq_of_pairwise (fun _ _ _ _ less greater => absurd greater less.asymm)
    (pairwise_languages other) (pairwise_languages annotator)

theorem applied_loadOverrides (annotator : Annotator γ) (tree : FileTree) (directory : String) :
    (annotator.loadOverrides tree directory).1 =
      annotator.languages.countP fun language => (override? tree directory language).isSome := by
  have applied : (annotator.loadOverrides tree directory).1 =
      annotator.entries.countP fun entry => (override? tree directory entry.2.id).isSome :=
    (congrArg Prod.fst (overrideEntries_eq _ _ _)).trans (Nat.zero_add _)
  rw [applied, languages, (List.mergeSort_perm _ _).countP_eq, List.countP_map]
  refine List.countP_congr fun entry member => ?_
  rw [annotator.named entry member]
  rfl

theorem annotateOn_eq_captures {pool : TaskPool} (runs : ∀ task, pool task = some (task ()))
    (annotator : Annotator γ) (language : LanguageId) (source : Utf8.Bytes) :
    annotateOn pool annotator language source = annotator.captures language source := by
  rw [annotateOn, captures]
  cases annotator.entry? language with
  | none => rfl
  | some entry =>
      cases compiled : entry.query with
      | none => simp [Option.filter_some, GrammarEntry.hasQuery, GrammarEntry.captures, compiled]
      | some query => simp [Option.filter_some, GrammarEntry.hasQuery, compiled, runs]

namespace After

variable {history : List (Operation γ)} {annotator : Annotator γ}

theorem mem_languages_iff (after : After history annotator) (language : LanguageId) :
    language ∈ annotator.languages ↔
      ∃ grammar text, .register language grammar text ∈ history := by
  rw [Annotator.mem_languages_iff, after.entry?_eq, ← isSome_lastGrammar?_iff, entryAfter?]
  cases registered : lastGrammar? history language with
  | none => simp
  | some grammar =>
      obtain ⟨text, last⟩ := exists_lastText? registered
      simp [last]

theorem hasQuery_eq (after : After history annotator) (language : LanguageId) :
    annotator.hasQuery language = (lastQuery? history language).isSome := by
  rw [hasQuery, after.entry?_eq, entryAfter?, lastQuery?]
  cases lastGrammar? history language <;> cases lastText? history language <;> rfl

theorem captures_eq (after : After history annotator) (language : LanguageId)
    (source : Utf8.Bytes) :
    annotator.captures language source = lastCaptures history language source := by
  rw [captures, after.entry?_eq, entryAfter?, lastCaptures, lastQuery?]
  cases lastGrammar? history language with
  | none => rfl
  | some grammar =>
      cases lastText? history language with
      | none => rfl
      | some text =>
          simp only [Option.bind_eq_bind, Option.bind_some, Option.map_some]
          unfold GrammarEntry.captures
          cases compiled : compile? grammar text <;> simp [GrammarEntry.ofText, compiled]

end After

theorem entry?_loadOverrides_of_missing {annotator : Annotator γ} {tree : FileTree}
    {directory : String} {language : LanguageId}
    (missing : language ∈ annotator.languages → override? tree directory language = none) :
    entry? (annotator.loadOverrides tree directory).2 language = annotator.entry? language := by
  rw [entry?_loadOverrides]
  cases found : annotator.entry? language with
  | none => rfl
  | some entry =>
      have absent := missing (mem_languages_iff.mpr (by simp [found]))
      simp [overridden, id_of_entry? found, absent]

/-- After any operations, the languages are those that were registered. Each has a query just if its
last text compiles for its last grammar, and has the captures of that query, or none. As a task of
the pool it has the same. Overrides change only languages with a file that can be read as text, and
their number is told, in whatever order the entries come. -/
theorem last_text_decides {history : List (Operation γ)} {annotator : Annotator γ}
    (after : After history annotator) :
    (annotator.languages.Pairwise (· < ·) ∧ ∀ language, language ∈ annotator.languages ↔
      ∃ grammar text, .register language grammar text ∈ history) ∧
    (∀ language, annotator.hasQuery language = (lastQuery? history language).isSome) ∧
    (∀ language source,
      annotator.captures language source = lastCaptures history language source) ∧
    (∀ pool : TaskPool, (∀ task, pool task = some (task ())) → ∀ language source,
      annotateOn pool annotator language source = annotator.captures language source) ∧
    ∀ tree directory (order : Annotator γ), annotator.entries.Perm order.entries →
      (order.loadOverrides tree directory).1 =
        annotator.languages.countP (fun language => (override? tree directory language).isSome) ∧
      ∀ language, (language ∈ annotator.languages → override? tree directory language = none) →
        entry? (order.loadOverrides tree directory).2 language = annotator.entry? language := by
  refine ⟨⟨pairwise_languages annotator, after.mem_languages_iff⟩, after.hasQuery_eq,
    after.captures_eq, fun _ runs => annotateOn_eq_captures runs annotator, ?_⟩
  intro tree directory order same
  have languages := languages_perm same
  refine ⟨languages ▸ applied_loadOverrides order tree directory, ?_⟩
  intro language missing
  rw [entry?_loadOverrides_of_missing (languages ▸ missing), entry?_perm same]

def run (history : List (Operation γ)) : Annotator γ :=
  history.foldr (fun latest annotator => annotator.apply latest) .empty

theorem after_run (history : List (Operation γ)) : After history (run history) := by
  induction history with
  | nil => exact .nothing
  | cons latest history ih => exact .operation latest ih

def queryFiles : FileTree :=
  .ofEntries "/q" [("bash/highlights.scm", some (Utf8.encode "(comment".toList)),
    ("go/highlights.scm", none)]

def brokenOverride : List (Operation Grammar) :=
  [.loadOverrides queryFiles "/q", .register "go" .go "(comment) @comment",
    .register "bash" .bash "(comment) @comment"]

theorem last_text_decides_brokenOverride :
    After brokenOverride (run brokenOverride) ∧
    "bash" ∈ (run brokenOverride).languages ∧ (run brokenOverride).hasQuery "bash" = false ∧
    (run brokenOverride).hasQuery "go" = true ∧
    (run brokenOverride).captures "go" [0x2F, 0x2F] = [⟨"comment", 0, 2⟩] ∧
    annotateOn .dependable (run brokenOverride) "go" [0x2F, 0x2F] = [⟨"comment", 0, 2⟩] ∧
    ((run brokenOverride).loadOverrides queryFiles "/q").1 = 1 := by
  have after := after_run brokenOverride
  obtain ⟨⟨_, registered⟩, compiles, captures, pooled, passes⟩ := last_text_decides after
  have found : (run brokenOverride).captures "go" [0x2F, 0x2F] = [⟨"comment", 0, 2⟩] := by
    rw [captures]
    decide +kernel
  refine ⟨after, (registered _).mpr ⟨.bash, "(comment) @comment", by simp [brokenOverride]⟩, ?_, ?_,
    found, ?_, ?_⟩
  · rw [compiles]
    decide +kernel
  · rw [compiles]
    decide +kernel
  · rw [pooled .dependable fun _ => rfl, found]
  · rw [(passes queryFiles "/q" _ (.refl _)).1, languages, (List.mergeSort_perm _ _).countP_eq]
    decide +kernel

end Annotator
end LiveHighlight
