import LiveHighlight.Language.Interpreter
import Mathlib.Data.List.TakeWhile

/-!
The grammar of interpreter lines.

Behind `env` stand options, some of them with a value, and assignments, then the command. A line is
read in one way at most.
-/

namespace LiveHighlight.Interpreter

/-! ### The grammar -/

structure IsLastSegment (path segment : List Char) : Prop where
  whole : '/' ∉ segment
  last : path = segment ∨ ∃ directory, path = directory ++ '/' :: segment

def valueFlags : List (List Char) :=
  ["-u".toList, "--unset".toList, "-C".toList, "--chdir".toList]

/-- What may stand between `env` and the command. The value of a flag is any word. -/
inductive EnvItem where
  | valued (flag value : List Char) (takes : flag ∈ valueFlags)
  | option (word : List Char) (dashed : word.head? = some '-') (alone : word ∉ valueFlags)
  | assignment (word : List Char) (undashed : word.head? ≠ some '-') (assigns : '=' ∈ word)

def EnvItem.words : EnvItem → List (List Char)
  | .valued flag value _ => [flag, value]
  | .option word _ _ => [word]
  | .assignment word _ _ => [word]

structure IsCommand (word : List Char) : Prop where
  undashed : word.head? ≠ some '-'
  plain : '=' ∉ word

structure EnvCall where
  items : List EnvItem
  command : List Char
  rest : List (List Char)
  isCommand : IsCommand command

def EnvCall.words (call : EnvCall) : List (List Char) :=
  call.items.flatMap EnvItem.words ++ call.command :: call.rest

def EnvCall.prepend (call : EnvCall) (item : EnvItem) : EnvCall :=
  { call with items := item :: call.items }

/-- The interpreter that a program with its arguments stands for. -/
inductive Invokes (program : List Char) (arguments : List (List Char)) : List Char → Prop
  | directly {name : List Char} (segment : IsLastSegment program name)
      (other : name ≠ "env".toList) (nonempty : name ≠ []) : Invokes program arguments name
  | behindEnv (segment : IsLastSegment program "env".toList) (call : EnvCall)
      (spelled : arguments = call.words) : Invokes program arguments call.command

/-! ### Words -/

theorem kept_of_whole {segment : List Char} (whole : '/' ∉ segment) :
    ∀ c ∈ segment.reverse, (c != '/') = true := by
  intro c member
  rw [bne_iff_ne]
  rintro rfl
  exact whole (List.mem_reverse.mp member)

theorem lastSegment_of_whole {path : List Char} (whole : '/' ∉ path) : lastSegment path = path := by
  rw [lastSegment, List.takeWhile_eq_self_iff.mpr (kept_of_whole whole), List.reverse_reverse]

theorem lastSegment_append (directory : List Char) {segment : List Char} (whole : '/' ∉ segment) :
    lastSegment (directory ++ '/' :: segment) = segment := by
  rw [lastSegment, List.reverse_append, List.reverse_cons, List.append_assoc,
    List.takeWhile_append_of_pos (kept_of_whole whole)]
  simp

theorem isLastSegment_iff (path segment : List Char) :
    IsLastSegment path segment ↔ segment = lastSegment path := by
  constructor
  · rintro ⟨whole, rfl | ⟨directory, rfl⟩⟩
    · exact (lastSegment_of_whole whole).symm
    · exact (lastSegment_append directory whole).symm
  · rintro rfl
    by_cases slash : '/' ∈ path.reverse
    · obtain ⟨later, before, cut, whole⟩ := List.eq_append_cons_of_mem slash
      have spelled : path = before.reverse ++ '/' :: later.reverse := by
        rw [← List.reverse_reverse path, cut]
        simp
      have wholeSegment : '/' ∉ later.reverse := by simpa using whole
      rw [spelled, lastSegment_append _ wholeSegment]
      exact ⟨wholeSegment, .inr ⟨before.reverse, rfl⟩⟩
    · have whole : '/' ∉ path := by simpa using slash
      rw [lastSegment_of_whole whole]
      exact ⟨whole, .inl rfl⟩

theorem takesValue_iff (word : List Char) : takesValue word = true ↔ word ∈ valueFlags := by
  simp only [takesValue, valueFlags, Bool.or_eq_true, decide_eq_true_eq, List.mem_cons,
    List.not_mem_nil, or_false, or_assoc]

theorem dashed_of_mem_valueFlags : ∀ flag ∈ valueFlags, flag.head? = some '-' := by
  decide

theorem isOption_iff (word : List Char) : isOption word = true ↔ word.head? = some '-' := by
  simp [isOption]

theorem isAssignment_iff (word : List Char) : isAssignment word = true ↔ '=' ∈ word := by
  simp [isAssignment]

theorem not_takesValue_of_undashed {word : List Char} (undashed : word.head? ≠ some '-') :
    takesValue word = false := by
  rw [Bool.eq_false_iff, ne_eq, takesValue_iff]
  exact fun member => undashed (dashed_of_mem_valueFlags word member)

/-! ### Items are skipped -/

theorem envCommand?_of_not_takesValue {word : List Char} (untaken : takesValue word = false)
    (rest : List (List Char)) :
    envCommand? (word :: rest) =
      if isOption word || isAssignment word then envCommand? rest else some word := by
  cases rest <;> simp [envCommand?, untaken]

theorem envCommand?_command {command : List Char} (isCommand : IsCommand command)
    (rest : List (List Char)) : envCommand? (command :: rest) = some command := by
  have undashed := (isOption_iff command).not.mpr isCommand.undashed
  have plain := (isAssignment_iff command).not.mpr isCommand.plain
  rw [envCommand?_of_not_takesValue (not_takesValue_of_undashed isCommand.undashed)]
  simp [undashed, plain]

theorem envCommand?_item (item : EnvItem) (rest : List (List Char)) :
    envCommand? (item.words ++ rest) = envCommand? rest := by
  cases item with
  | valued flag value takes =>
      have taken := (takesValue_iff flag).mpr takes
      simp [EnvItem.words, envCommand?, taken]
  | option word dashed alone =>
      have untaken : takesValue word = false := by
        rwa [Bool.eq_false_iff, ne_eq, takesValue_iff]
      have skipped := (isOption_iff word).mpr dashed
      rw [EnvItem.words, List.singleton_append, envCommand?_of_not_takesValue untaken]
      simp [skipped]
  | assignment word undashed assigns =>
      have skipped := (isAssignment_iff word).mpr assigns
      rw [EnvItem.words, List.singleton_append,
        envCommand?_of_not_takesValue (not_takesValue_of_undashed undashed)]
      simp [skipped]

theorem envCommand?_items (items : List EnvItem) (rest : List (List Char)) :
    envCommand? (items.flatMap EnvItem.words ++ rest) = envCommand? rest := by
  induction items with
  | nil => rfl
  | cons item later ih =>
      rw [List.flatMap_cons, List.append_assoc, envCommand?_item, ih]

theorem EnvCall.words_prepend (call : EnvCall) (item : EnvItem) :
    (call.prepend item).words = item.words ++ call.words := by
  simp [words, prepend]

theorem exists_call_of_envCommand? (words : List (List Char)) (command : List Char)
    (found : envCommand? words = some command) :
    ∃ call : EnvCall, call.words = words ∧ call.command = command := by
  fun_induction envCommand? words with
  | case1 => simp at found
  | case2 word taken => simp at found
  | case3 word taken value later ih =>
      obtain ⟨call, rfl, rfl⟩ := ih found
      exact ⟨_, call.words_prepend (.valued word value ((takesValue_iff word).mp taken)), rfl⟩
  | case4 word rest untaken skipped ih =>
      obtain ⟨call, rfl, rfl⟩ := ih found
      have alone := (takesValue_iff word).not.mp untaken
      rw [Bool.or_eq_true, isOption_iff, isAssignment_iff] at skipped
      by_cases dashed : word.head? = some '-'
      · exact ⟨_, call.words_prepend (.option word dashed alone), rfl⟩
      · have assigns := skipped.resolve_left dashed
        exact ⟨_, call.words_prepend (.assignment word dashed assigns), rfl⟩
  | case5 word rest untaken unskipped =>
      rw [Bool.or_eq_true, isOption_iff, isAssignment_iff, not_or] at unskipped
      rw [Option.some.injEq] at found
      exact ⟨⟨[], word, rest, unskipped.1, unskipped.2⟩, rfl, found⟩

theorem envCommand?_eq_some_iff (words : List (List Char)) (command : List Char) :
    envCommand? words = some command ↔
      ∃ call : EnvCall, call.words = words ∧ call.command = command := by
  constructor
  · exact exists_call_of_envCommand? words command
  · rintro ⟨call, rfl, rfl⟩
    rw [EnvCall.words, envCommand?_items, envCommand?_command call.isCommand]

theorem programName?_eq_some_iff (words : List (List Char)) (name : List Char) :
    programName? words = some name ↔
      ∃ program arguments, words = program :: arguments ∧ Invokes program arguments name := by
  cases words with
  | nil => simp [programName?]
  | cons program arguments =>
      have segment := (isLastSegment_iff program (lastSegment program)).mpr rfl
      rw [programName?]
      constructor
      · intro found
        refine ⟨program, arguments, rfl, ?_⟩
        split at found
        next env =>
          obtain ⟨call, spelled, rfl⟩ := (envCommand?_eq_some_iff arguments name).mp found
          exact .behindEnv (env ▸ segment) call spelled.symm
        next other =>
          split at found
          next => simp at found
          next nonempty =>
            rw [Option.some.injEq] at found
            exact .directly (found ▸ segment) (found ▸ other) (by simpa [found] using nonempty)
      · rintro ⟨_, _, same, invokes⟩
        obtain ⟨rfl, rfl⟩ := List.cons.inj same
        cases invokes with
        | directly segment other nonempty =>
            rw [isLastSegment_iff] at segment
            rw [← segment, if_neg other, if_neg (by simpa using nonempty)]
        | behindEnv segment call spelled =>
            rw [isLastSegment_iff] at segment
            rw [if_pos segment.symm]
            exact (envCommand?_eq_some_iff _ _).mpr ⟨call, spelled.symm, rfl⟩

theorem nameOfLine?_eq_some_iff (line name : List Char) :
    nameOfLine? line = some name ↔
      ∃ text program arguments, line = '#' :: '!' :: text ∧
        Text.words text = program :: arguments ∧ Invokes program arguments name := by
  unfold nameOfLine?
  split
  next text => simp [programName?_eq_some_iff]
  next other =>
    simp only [reduceCtorEq, false_iff, not_exists, not_and]
    intro text _ _ same
    exact absurd same (other text)

/-! ### One reading -/

theorem EnvItem.not_isCommand (item : EnvItem) {later rest : List (List Char)} {command : List Char}
    (same : item.words ++ later = command :: rest) : ¬IsCommand command := by
  intro isCommand
  cases item with
  | valued flag value takes =>
      obtain ⟨rfl, _⟩ := List.cons.inj same
      exact isCommand.undashed (dashed_of_mem_valueFlags _ takes)
  | option word dashed alone =>
      obtain ⟨rfl, _⟩ := List.cons.inj same
      exact isCommand.undashed dashed
  | assignment word undashed assigns =>
      obtain ⟨rfl, _⟩ := List.cons.inj same
      exact isCommand.plain assigns

theorem EnvItem.append_inj {first second : EnvItem} {later behind : List (List Char)}
    (same : first.words ++ later = second.words ++ behind) : first = second ∧ later = behind := by
  cases first with
  | valued flag value takes =>
      cases second with
      | valued _ _ _ =>
          simp only [words, List.cons_append, List.nil_append, List.cons.injEq] at same
          obtain ⟨rfl, rfl, rfl⟩ := same
          exact ⟨rfl, rfl⟩
      | option word dashed alone =>
          obtain ⟨rfl, _⟩ := List.cons.inj same
          exact absurd takes alone
      | assignment word undashed assigns =>
          obtain ⟨rfl, _⟩ := List.cons.inj same
          exact absurd (dashed_of_mem_valueFlags _ takes) undashed
  | option word dashed alone =>
      cases second with
      | valued flag value takes =>
          obtain ⟨rfl, _⟩ := List.cons.inj same
          exact absurd takes alone
      | option _ _ _ =>
          obtain ⟨rfl, rfl⟩ := List.cons.inj same
          exact ⟨rfl, rfl⟩
      | assignment _ undashed assigns =>
          obtain ⟨rfl, _⟩ := List.cons.inj same
          exact absurd dashed undashed
  | assignment word undashed assigns =>
      cases second with
      | valued flag value takes =>
          obtain ⟨rfl, _⟩ := List.cons.inj same
          exact absurd (dashed_of_mem_valueFlags _ takes) undashed
      | option _ dashed alone =>
          obtain ⟨rfl, _⟩ := List.cons.inj same
          exact absurd dashed undashed
      | assignment _ _ _ =>
          obtain ⟨rfl, rfl⟩ := List.cons.inj same
          exact ⟨rfl, rfl⟩

theorem items_unique {items others : List EnvItem} {command other : List Char}
    {rest behind : List (List Char)} (isCommand : IsCommand command)
    (otherIsCommand : IsCommand other)
    (same : items.flatMap EnvItem.words ++ command :: rest =
      others.flatMap EnvItem.words ++ other :: behind) :
    items = others ∧ command = other ∧ rest = behind := by
  induction items generalizing others with
  | nil =>
      cases others with
      | nil => simpa using same
      | cons item later =>
          rw [List.flatMap_cons, List.append_assoc] at same
          exact absurd isCommand (item.not_isCommand same.symm)
  | cons item later ih =>
      cases others with
      | nil =>
          rw [List.flatMap_cons, List.append_assoc] at same
          exact absurd otherIsCommand (item.not_isCommand same)
      | cons second behindSecond =>
          rw [List.flatMap_cons, List.flatMap_cons, List.append_assoc, List.append_assoc] at same
          obtain ⟨rfl, tails⟩ := EnvItem.append_inj same
          obtain ⟨rfl, equal⟩ := ih tails
          exact ⟨rfl, equal⟩

theorem EnvCall.words_inj {first second : EnvCall} (same : first.words = second.words) :
    first = second := by
  obtain ⟨items, command, rest, isCommand⟩ := first
  obtain ⟨_, _, _, otherIsCommand⟩ := second
  obtain ⟨rfl, rfl, rfl⟩ := items_unique isCommand otherIsCommand same
  rfl

/-- A line names an interpreter just if its words stand for one, and the words behind `env` have
one reading at most. -/
theorem lines_name_what_they_invoke (line name : String) :
    (name? line = some name ↔
        ∃ text program arguments, line.toList = '#' :: '!' :: text ∧
          Text.words text = program :: arguments ∧ Invokes program arguments name.toList) ∧
      ∀ first second : EnvCall, first.words = second.words → first = second := by
  refine ⟨?_, fun first second => EnvCall.words_inj⟩
  rw [← nameOfLine?_eq_some_iff, name?, Option.map_eq_some_iff]
  constructor
  · rintro ⟨read, found, rfl⟩
    rw [found, String.toList_ofList]
  · intro found
    exact ⟨name.toList, found, String.ofList_toList⟩

def scalaCall : EnvCall :=
  ⟨[.valued "-u".toList "-S".toList (by decide), .option "-S".toList (by decide) (by decide),
    .assignment "LANG=C".toList (by decide) (by decide)], "scala".toList,
    ["-cp".toList, "lib".toList], ⟨by decide, by decide⟩⟩

theorem lines_name_what_they_invoke_scalaCall :
    Text.words " /usr/bin/env -u -S -S LANG=C scala -cp lib".toList =
        "/usr/bin/env".toList :: scalaCall.words ∧
      name? "#! /usr/bin/env -u -S -S LANG=C scala -cp lib" = some "scala" ∧
      ∀ call : EnvCall, call.words = scalaCall.words → call = scalaCall := by
  have spelled : Text.words " /usr/bin/env -u -S -S LANG=C scala -cp lib".toList =
      "/usr/bin/env".toList :: scalaCall.words := by decide
  have grammar := lines_name_what_they_invoke
    "#! /usr/bin/env -u -S -S LANG=C scala -cp lib" "scala"
  have segment : IsLastSegment "/usr/bin/env".toList "env".toList :=
    ⟨by decide, .inr ⟨"/usr/bin".toList, by decide⟩⟩
  exact ⟨spelled, grammar.1.mpr ⟨_, _, _, rfl, spelled, .behindEnv segment scalaCall rfl⟩,
    fun call => grammar.2 call scalaCall⟩

end LiveHighlight.Interpreter
