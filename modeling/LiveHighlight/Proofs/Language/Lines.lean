import LiveHighlight.Language.Resolver
import LiveHighlight.Proofs.Language.Commands
import LiveHighlight.Proofs.Text.Words

/-!
What an interpreter line resolves to, from its words.

Blanks make no difference, nor does the version of a program. Behind `env` a command stands for
itself with its directory, so that the two ways to run a program agree for a bare command only.
-/

namespace LiveHighlight

open Text (Spells)

namespace Interpreter

/-! ### Versions -/

theorem isVersionChar_iff (c : Char) : isVersionChar c = true ↔ c.isDigit = true ∨ c = '.' := by
  simp [isVersionChar]

theorem withoutVersion_append (name : List Char) {version : List Char}
    (digits : ∀ c ∈ version, isVersionChar c = true) :
    withoutVersion (name ++ version) = withoutVersion name := by
  have dropped : ∀ c ∈ version.reverse, isVersionChar c = true := fun c member =>
    digits c (List.mem_reverse.mp member)
  rw [withoutVersion, withoutVersion, List.reverse_append,
    List.dropWhile_append_of_pos dropped]

theorem withoutVersion_of_unversioned {name : List Char}
    (unversioned : ∀ c, name.getLast? = some c → isVersionChar c = false) :
    withoutVersion name = name := by
  have stops : name.reverse.dropWhile isVersionChar = name.reverse := by
    cases spelled : name.reverse with
    | nil => rfl
    | cons c rest =>
        have last : name.getLast? = some c := by
          rw [← List.head?_reverse, spelled, List.head?_cons]
        exact List.dropWhile_cons_of_neg (by simp [unversioned c last])
  rw [withoutVersion, stops, List.reverse_reverse]

theorem slash_mem_withoutVersion {name : List Char} (slash : '/' ∈ name) :
    '/' ∈ withoutVersion name := by
  have cut : withoutVersion name ++ (name.reverse.takeWhile isVersionChar).reverse = name := by
    rw [withoutVersion, ← List.reverse_append, List.takeWhile_append_dropWhile,
      List.reverse_reverse]
  rw [← cut, List.mem_append, List.mem_reverse] at slash
  refine slash.resolve_right fun member => ?_
  exact absurd (List.mem_takeWhile_imp member) (by decide)

theorem not_mem_version {version : List Char} (digits : ∀ c ∈ version, isVersionChar c = true)
    {c : Char} (other : isVersionChar c = false) : c ∉ version := by
  intro member
  rw [digits c member] at other
  exact absurd other (by decide)

/-! ### Programs and commands with a version -/

theorem IsLastSegment.append_version {program segment version : List Char}
    (last : IsLastSegment program segment) (digits : ∀ c ∈ version, isVersionChar c = true) :
    IsLastSegment (program ++ version) (segment ++ version) := by
  obtain ⟨whole, spelled⟩ := last
  refine ⟨?_, ?_⟩
  · rw [List.mem_append, not_or]
    exact ⟨whole, not_mem_version digits (by decide)⟩
  · rcases spelled with rfl | ⟨directory, rfl⟩
    · exact .inl rfl
    · exact .inr ⟨directory, by simp⟩

theorem append_version_ne_env {segment version : List Char} (other : segment ≠ "env".toList)
    (digits : ∀ c ∈ version, isVersionChar c = true) : segment ++ version ≠ "env".toList := by
  intro same
  cases last : version.getLast? with
  | none =>
      rw [List.getLast?_eq_none_iff] at last
      rw [last, List.append_nil] at same
      exact other same
  | some c =>
      have ends : (segment ++ version).getLast? = some c := by
        rw [List.getLast?_append, last, Option.some_or]
      have digit := digits c (List.mem_of_mem_getLast? last)
      rw [same] at ends
      obtain rfl : 'v' = c := by simpa using ends
      exact absurd digit (by decide)

theorem IsCommand.append_version {command version : List Char} (isCommand : IsCommand command)
    (digits : ∀ c ∈ version, isVersionChar c = true) : IsCommand (command ++ version) := by
  refine ⟨?_, ?_⟩
  · intro first
    rw [List.head?_append, Option.or_eq_some_iff] at first
    rcases first with first | ⟨_, first⟩
    · exact isCommand.undashed first
    · exact not_mem_version digits (by decide) (List.mem_of_mem_head? first)
  · rw [List.mem_append, not_or]
    exact ⟨isCommand.plain, not_mem_version digits (by decide)⟩

/-! ### What the words name -/

theorem programName?_of_segment {program segment : List Char}
    (last : IsLastSegment program segment) (other : segment ≠ "env".toList)
    (arguments : List (List Char)) :
    programName? (program :: arguments) = if segment = [] then none else some segment := by
  rw [isLastSegment_iff] at last
  subst last
  rw [programName?, if_neg other]
  simp

theorem programName?_of_env {program : List Char} (env : IsLastSegment program "env".toList)
    (call : EnvCall) : programName? (program :: call.words) = some call.command :=
  (programName?_eq_some_iff _ _).mpr ⟨_, _, rfl, .behindEnv env call rfl⟩

theorem nameOfLine?_of_spells {text : List Char} {words : List (List Char)}
    (spelled : Spells text words) :
    nameOfLine? (Text.trimEnd ('#' :: '!' :: text)) = programName? words := by
  have mark : Text.trimEnd ('#' :: '!' :: text) = '#' :: '!' :: Text.trimEnd text :=
    Text.trimEnd_append ['#'] (by decide) text
  rw [mark, nameOfLine?, Text.words_trimEnd, Text.words_of_spells spelled]

end Interpreter

namespace Resolver

open Interpreter

def ofProgram? (resolver : Resolver) (name : List Char) : Option LanguageId :=
  (resolver.interpreters.lookup (String.ofList (withoutVersion name))).bind resolver.ifRegistered

variable (resolver : Resolver)

theorem ofInterpreterLine?_of_spells {text : String} {words : List (List Char)}
    (spelled : Spells text.toList words) :
    resolver.ofInterpreterLine? ("#!" ++ text) = (programName? words).bind resolver.ofProgram? := by
  have line : ("#!" ++ text).toList = '#' :: '!' :: text.toList := String.toList_append
  rw [ofInterpreterLine?, line, nameOfLine?_of_spells spelled]
  rfl

theorem ofInterpreterLine?_of_named {text : String} {words : List (List Char)} {name : List Char}
    (spelled : Spells text.toList words) (named : programName? words = some name) :
    resolver.ofInterpreterLine? ("#!" ++ text) = resolver.ofProgram? name := by
  rw [resolver.ofInterpreterLine?_of_spells spelled, named, Option.bind_some]

theorem ofProgram?_append (name : List Char) {version : List Char}
    (digits : ∀ c ∈ version, isVersionChar c = true) :
    resolver.ofProgram? (name ++ version) = resolver.ofProgram? name := by
  rw [ofProgram?, withoutVersion_append name digits, ofProgram?]

theorem ofProgram?_of_slash (slashless : ∀ entry ∈ resolver.interpreters, '/' ∉ entry.1.toList)
    {name : List Char} (slash : '/' ∈ name) : resolver.ofProgram? name = none := by
  rw [ofProgram?, List.lookup_eq_none_iff.mpr, Option.bind_none]
  intro entry member
  rw [bne_iff_ne]
  intro same
  apply slashless entry member
  rw [← same, String.toList_ofList]
  exact slash_mem_withoutVersion slash

/-! ### Commands behind `env` -/

/-- A bare command behind `env` resolves as it does alone. A command with a directory is looked up
with that directory behind `env` and without it alone, so that behind `env` a table of names
without slashes has no language for it. -/
theorem bare_commands_resolve_through_env (call : EnvCall) {program segment : List Char}
    (env : IsLastSegment program "env".toList) (last : IsLastSegment call.command segment)
    (other : segment ≠ "env".toList) {behind direct : String}
    (spelledBehind : Spells behind.toList (program :: call.words))
    (spelledDirect : Spells direct.toList (call.command :: call.rest)) :
    ('/' ∉ call.command →
      resolver.ofInterpreterLine? ("#!" ++ behind) =
        resolver.ofInterpreterLine? ("#!" ++ direct)) ∧
    ('/' ∈ call.command →
      resolver.ofInterpreterLine? ("#!" ++ behind) = resolver.ofProgram? call.command ∧
      resolver.ofInterpreterLine? ("#!" ++ direct) =
        (if segment = [] then none else resolver.ofProgram? segment) ∧
      ((∀ entry ∈ resolver.interpreters, '/' ∉ entry.1.toList) →
        resolver.ofInterpreterLine? ("#!" ++ behind) = none)) := by
  have viaEnv : resolver.ofInterpreterLine? ("#!" ++ behind) =
      resolver.ofProgram? call.command :=
    resolver.ofInterpreterLine?_of_named spelledBehind (programName?_of_env env call)
  have alone : resolver.ofInterpreterLine? ("#!" ++ direct) =
      (if segment = [] then none else resolver.ofProgram? segment) := by
    rw [resolver.ofInterpreterLine?_of_spells spelledDirect, programName?_of_segment last other]
    split <;> rfl
  refine ⟨?_, ?_⟩
  · intro bare
    have same : segment = call.command := by
      rw [(isLastSegment_iff _ _).mp last, lastSegment_of_whole bare]
    rw [viaEnv, alone, same, if_neg (Text.nonempty_of_spells spelledDirect)]
  · intro slash
    refine ⟨viaEnv, alone, ?_⟩
    intro slashless
    rw [viaEnv, resolver.ofProgram?_of_slash slashless slash]

def nodeCall : EnvCall :=
  ⟨[.valued "-C".toList "/srv".toList (by decide), .option "-vS".toList (by decide) (by decide)],
    "node18".toList, ["--inspect".toList], ⟨by decide, by decide⟩⟩

theorem bare_commands_resolve_through_env_nodeCall :
    IsLastSegment nodeCall.command "node18".toList ∧ '/' ∉ nodeCall.command ∧
      Spells " /usr/bin/env -C /srv -vS node18 --inspect".toList
        ("/usr/bin/env".toList :: nodeCall.words) ∧
      Spells "node18\t--inspect\r\n".toList (nodeCall.command :: nodeCall.rest) ∧
      (ofLanguages ["javascript"]).ofInterpreterLine?
          ("#!" ++ " /usr/bin/env -C /srv -vS node18 --inspect") =
        (ofLanguages ["javascript"]).ofInterpreterLine? ("#!" ++ "node18\t--inspect\r\n") := by
  have env : IsLastSegment "/usr/bin/env".toList "env".toList :=
    ⟨by decide, .inr ⟨"/usr/bin".toList, by decide⟩⟩
  have last : IsLastSegment nodeCall.command "node18".toList := ⟨by decide, .inl rfl⟩
  have bare : '/' ∉ nodeCall.command := by decide
  have behind : Spells " /usr/bin/env -C /srv -vS node18 --inspect".toList
      ("/usr/bin/env".toList :: nodeCall.words) := Text.spells_iff.mpr (by decide)
  have direct : Spells "node18\t--inspect\r\n".toList (nodeCall.command :: nodeCall.rest) :=
    Text.spells_iff.mpr (by decide)
  exact ⟨last, bare, behind, direct,
    (bare_commands_resolve_through_env (ofLanguages ["javascript"]) nodeCall env last (by decide)
      behind direct).1 bare⟩

def pathCall : EnvCall :=
  ⟨[], "/usr/bin/python3".toList, [], ⟨by decide, by decide⟩⟩

/-- The table has python, yet not under its directory. -/
theorem path_behind_env_unresolved :
    Spells "/usr/bin/env /usr/bin/python3".toList ("/usr/bin/env".toList :: pathCall.words) ∧
      Spells "/usr/bin/python3".toList (pathCall.command :: pathCall.rest) ∧
      IsLastSegment pathCall.command "python3".toList ∧
      (ofLanguages ["python"]).ofInterpreterLine? "#!/usr/bin/env /usr/bin/python3" = none ∧
      (ofLanguages ["python"]).ofInterpreterLine? "#!/usr/bin/python3" = some "python" :=
  ⟨Text.spells_iff.mpr (by decide), Text.spells_iff.mpr (by decide),
    ⟨by decide, .inr ⟨"/usr/bin".toList, by decide⟩⟩, by decide +kernel, by decide +kernel⟩

/-! ### Blanks and versions -/

/-- Lines with the same words resolve alike, and so do lines that differ in the version of the
program that they name, be it alone or behind `env`. -/
theorem blanks_and_versions_make_no_difference :
    (∀ (words : List (List Char)) (first second : String),
      Spells first.toList words → Spells second.toList words →
        resolver.ofInterpreterLine? ("#!" ++ first) =
          resolver.ofInterpreterLine? ("#!" ++ second)) ∧
    ∀ version : List Char, (∀ c ∈ version, c.isDigit = true ∨ c = '.') →
      (∀ (program segment : List Char) (arguments : List (List Char)) (plain versioned : String),
        IsLastSegment program segment → segment ≠ "env".toList → segment ≠ [] →
        Spells plain.toList (program :: arguments) →
        Spells versioned.toList ((program ++ version) :: arguments) →
          resolver.ofInterpreterLine? ("#!" ++ versioned) =
            resolver.ofInterpreterLine? ("#!" ++ plain)) ∧
      ∀ (program : List Char) (call : EnvCall) (plain versioned : String),
        IsLastSegment program "env".toList →
        Spells plain.toList (program :: call.words) →
        Spells versioned.toList
          (program ::
            (call.items.flatMap EnvItem.words ++ (call.command ++ version) :: call.rest)) →
          resolver.ofInterpreterLine? ("#!" ++ versioned) =
            resolver.ofInterpreterLine? ("#!" ++ plain) := by
  refine ⟨?_, ?_⟩
  · intro words first second spelledFirst spelledSecond
    rw [resolver.ofInterpreterLine?_of_spells spelledFirst,
      resolver.ofInterpreterLine?_of_spells spelledSecond]
  · intro version onlyDigits
    have digits : ∀ c ∈ version, isVersionChar c = true := fun c member =>
      (isVersionChar_iff c).mpr (onlyDigits c member)
    refine ⟨?_, ?_⟩
    · intro program segment arguments plain versioned last other nonempty spelled spelledVersioned
      have named := programName?_of_segment last other arguments
      have namedVersioned := programName?_of_segment (last.append_version digits)
        (append_version_ne_env other digits) arguments
      rw [if_neg nonempty] at named
      rw [if_neg (by simp [nonempty])] at namedVersioned
      rw [resolver.ofInterpreterLine?_of_named spelled named,
        resolver.ofInterpreterLine?_of_named spelledVersioned namedVersioned,
        resolver.ofProgram?_append segment digits]
    · intro program call plain versioned env spelled spelledVersioned
      have namedVersioned : programName? (program ::
          (call.items.flatMap EnvItem.words ++ (call.command ++ version) :: call.rest)) =
            some (call.command ++ version) :=
        programName?_of_env env ⟨call.items, call.command ++ version, call.rest,
          call.isCommand.append_version digits⟩
      rw [resolver.ofInterpreterLine?_of_named spelled (programName?_of_env env call),
        resolver.ofInterpreterLine?_of_named spelledVersioned namedVersioned,
        resolver.ofProgram?_append call.command digits]

theorem blanks_and_versions_make_no_difference_node :
    Spells " node --inspect".toList ["node".toList, "--inspect".toList] ∧
      Spells "node20.1\t --inspect\r\n".toList ["node20.1".toList, "--inspect".toList] ∧
      Spells "env -C /srv -vS node18 --inspect\n".toList ("env".toList :: nodeCall.words) ∧
      Spells "env -C /srv -vS  node18.2 --inspect".toList
        ("env".toList :: (nodeCall.items.flatMap EnvItem.words ++
          (nodeCall.command ++ ".2".toList) :: nodeCall.rest)) ∧
      (ofLanguages ["javascript"]).ofInterpreterLine? ("#!" ++ " node --inspect") =
        (ofLanguages ["javascript"]).ofInterpreterLine? ("#!" ++ "node\t\t--inspect \r\n") ∧
      (ofLanguages ["javascript"]).ofInterpreterLine? ("#!" ++ "node20.1\t --inspect\r\n") =
        (ofLanguages ["javascript"]).ofInterpreterLine? ("#!" ++ " node --inspect") ∧
      (ofLanguages ["javascript"]).ofInterpreterLine?
          ("#!" ++ "env -C /srv -vS  node18.2 --inspect") =
        (ofLanguages ["javascript"]).ofInterpreterLine?
          ("#!" ++ "env -C /srv -vS node18 --inspect\n") := by
  have plain : Spells " node --inspect".toList ["node".toList, "--inspect".toList] :=
    Text.spells_iff.mpr (by decide)
  have apart : Spells "node\t\t--inspect \r\n".toList ["node".toList, "--inspect".toList] :=
    Text.spells_iff.mpr (by decide)
  have versioned : Spells "node20.1\t --inspect\r\n".toList
      ["node20.1".toList, "--inspect".toList] := Text.spells_iff.mpr (by decide)
  have behind : Spells "env -C /srv -vS node18 --inspect\n".toList
      ("env".toList :: nodeCall.words) := Text.spells_iff.mpr (by decide)
  have behindVersioned : Spells "env -C /srv -vS  node18.2 --inspect".toList
      ("env".toList :: (nodeCall.items.flatMap EnvItem.words ++
        (nodeCall.command ++ ".2".toList) :: nodeCall.rest)) := Text.spells_iff.mpr (by decide)
  obtain ⟨blanks, versions⟩ := blanks_and_versions_make_no_difference (ofLanguages ["javascript"])
  have alone := (versions "20.1".toList (by simp)).1 "node".toList "node".toList
    ["--inspect".toList] _ _ ⟨by decide, .inl rfl⟩ (by decide) (by decide) plain versioned
  have viaEnv := (versions ".2".toList (by simp)).2 "env".toList nodeCall _ _
    ⟨by decide, .inl rfl⟩ behind behindVersioned
  exact ⟨plain, versioned, behind, behindVersioned, blanks _ _ _ plain apart, alone, viaEnv⟩

end Resolver
end LiveHighlight
