import LiveHighlight.Proofs.Editor.ControlLines
import LiveHighlight.Proofs.Files.Contents
import LiveHighlight.Proofs.Files.Lines
import Mathlib.Data.List.Induction

/-!
Streams of a log that grows while it is read.

Lines are appended to a log, and its stream is asked for the next item now and then. What one line
tells by itself is told once and in its turn, however appending and asking alternate.
-/

namespace LiveHighlight

open Utf8 (Bytes)
open LineStream (lineFeed withoutReturn)

/-! ### Logs -/

def IsWholeLog (log : Bytes) : Prop :=
  log = [] ∨ log.getLast? = some lineFeed

def logLines (log : Bytes) : List Bytes :=
  (log.splitOn lineFeed).dropLast.map withoutReturn

theorem splitOn_line {line : Bytes} (whole : lineFeed ∉ line) (rest : Bytes) :
    (line ++ lineFeed :: rest).splitOn lineFeed = line :: rest.splitOn lineFeed := by
  refine List.splitOn_append_cons_of_forall_mem_beq_eq_false ?_ lineFeed (by simp) rest
  intro byte member
  rw [beq_eq_false_iff_ne]
  rintro rfl
  exact whole member

theorem logLines_line {line : Bytes} (whole : lineFeed ∉ line) (rest : Bytes) :
    logLines (line ++ lineFeed :: rest) = withoutReturn line :: logLines rest := by
  rw [logLines, splitOn_line whole, List.dropLast_cons_of_ne_nil (List.splitOn_ne_nil _ _),
    List.map_cons, logLines]

theorem IsWholeLog.cases {log : Bytes} (whole : IsWholeLog log) :
    log = [] ∨ ∃ line rest, log = line ++ lineFeed :: rest ∧ lineFeed ∉ line ∧
      IsWholeLog rest := by
  rcases whole with empty | ends
  · exact .inl empty
  · obtain ⟨line, rest, rfl, short⟩ := List.eq_append_cons_of_mem (List.mem_of_getLast? ends)
    refine .inr ⟨line, rest, rfl, short, ?_⟩
    cases rest with
    | nil => exact .inl rfl
    | cons byte later => exact .inr (by simpa using ends)

theorem logLines_append {log : Bytes} (whole : IsWholeLog log) (more : Bytes) :
    logLines (log ++ more) = logLines log ++ logLines more := by
  rcases whole.cases with rfl | ⟨line, rest, rfl, short, wholeRest⟩
  · simp [logLines]
  · -- the recursion is on what is behind the first line
    have shorter : rest.length < (line ++ lineFeed :: rest).length := by
      rw [List.length_append, List.length_cons]
      omega
    rw [List.append_assoc, List.cons_append, logLines_line short, logLines_line short,
      logLines_append wholeRest more, List.cons_append]
termination_by log.length

theorem isWholeLog_append (log : Bytes) {more : Bytes} (ends : more.getLast? = some lineFeed) :
    IsWholeLog (log ++ more) := by
  have nonempty : more ≠ [] := by
    rintro rfl
    cases ends
  exact .inr (by rw [List.getLast?_append_of_ne_nil _ nonempty, ends])

/-! ### Offsets -/

namespace LineStream

theorem offset_collect_le {content : Bytes} :
    ∀ (fuel : Nat) (begun : Bytes) {stream : LineStream}, stream.offset ≤ content.length →
      (collect content fuel begun stream).2.offset ≤ content.length := by
  intro fuel
  induction fuel with
  | zero => exact fun _ _ within => within
  | succ fuel ih =>
      intro begun stream within
      rw [collect]
      split
      next => exact within
      next =>
        simp only
        split
        next => exact within
        next =>
          refine ih _ ?_
          simp only [List.length_take, List.length_drop]
          omega

theorem offset_next_le {tree : FileTree} {stream : LineStream} {key : FileKey}
    (source : stream.source = some key) (within : stream.offset ≤ (tree.content key).length) :
    (stream.next tree).2.offset ≤ (tree.content key).length := by
  have collected := offset_collect_le ((tree.content key).length + 2) [] within
  simp only [next, source]
  split
  next same => rwa [same] at collected
  next same =>
    rw [same] at collected
    split <;> exact collected

theorem unread_append {content : Bytes} {stream : LineStream}
    (within : stream.offset ≤ content.length) (more : Bytes) :
    stream.unread (content ++ more) = stream.unread content ++ more := by
  rw [unread, unread, List.drop_append_of_le_length within, List.append_assoc]

end LineStream

/-! ### Items -/

/-- What a stream makes of the lines of its log. -/
structure Telling (α : Type) where
  ended : α
  failed : FileError → α
  told? : List Char → Option α
  failed_ne : ∀ error, failed error ≠ ended
  told_ne : ∀ line, told? line ≠ some ended

namespace Telling

variable {α : Type} {telling : Telling α}

def item? (telling : Telling α) (line : Bytes) : Option α :=
  match Utf8.decode? line with
  | some text => telling.told? text
  | none => some (telling.failed .notText)

def items (telling : Telling α) (log : Bytes) : List α :=
  (logLines log).filterMap telling.item?

def within (telling : Telling α) (tree : FileTree) : Nat → LineStream → α × LineStream
  | 0, stream => (telling.ended, stream)
  | fuel + 1, stream =>
    match stream.next tree with
    | (.error error, stream) => (telling.failed error, stream)
    | (.ok none, stream) => (telling.ended, stream)
    | (.ok (some line), stream) =>
      match telling.told? line with
      | some item => (item, stream)
      | none => telling.within tree fuel stream

def next (telling : Telling α) (tree : FileTree) (stream : LineStream) : α × LineStream :=
  telling.within tree (stream.remaining tree + 1) stream

theorem items_append {log : Bytes} (whole : IsWholeLog log) (more : Bytes) :
    telling.items (log ++ more) = telling.items log ++ telling.items more := by
  rw [items, logLines_append whole, List.filterMap_append, items, items]

theorem item?_ne_ended (line : Bytes) : telling.item? line ≠ some telling.ended := by
  unfold item?
  split
  next text _ => exact telling.told_ne text
  next => simpa using telling.failed_ne .notText

theorem ne_ended_of_mem_items {log : Bytes} {item : α} (member : item ∈ telling.items log) :
    item ≠ telling.ended := by
  obtain ⟨line, _, told⟩ := List.mem_filterMap.mp member
  rintro rfl
  exact item?_ne_ended line told

structure IsAt (log : Bytes) (tree : FileTree) (key : FileKey) (stream : LineStream) : Prop where
  content : tree.content key = log
  source : stream.source = some key
  offset : stream.offset ≤ log.length
  whole : IsWholeLog (stream.unread log)

theorem within_eq {log : Bytes} {tree : FileTree} {key : FileKey} (fuel : Nat) :
    ∀ {stream : LineStream}, IsAt log tree key stream → (stream.unread log).length < fuel →
      ∃ later, telling.within tree fuel stream =
          ((telling.items (stream.unread log)).headD telling.ended, later) ∧
        IsAt log tree key later ∧
        telling.items (later.unread log) = (telling.items (stream.unread log)).tail := by
  induction fuel with
  | zero => exact fun _ short => absurd short (Nat.not_lt_zero _)
  | succ fuel ih =>
      intro stream isAt short
      obtain ⟨content, source, offset, whole⟩ := isAt
      obtain ⟨later, next, same, unread⟩ := @LineStream.next_eq tree stream key source
      have offsetLater := @LineStream.offset_next_le tree stream key source (by rwa [content])
      rw [next, content] at offsetLater
      rw [content] at next unread
      rw [within, next]
      rcases whole.cases with empty | ⟨line, rest, split, inLine, wholeRest⟩
      · rw [empty] at unread ⊢
        exact ⟨later, rfl, ⟨content, same, offsetLater, .inl unread⟩, by rw [unread]; rfl⟩
      · rw [split] at unread short ⊢
        rw [LineStream.behindLine_append inLine] at unread
        rw [LineStream.firstLine?_append inLine, List.nil_append]
        have isAtLater : IsAt log tree key later :=
          ⟨content, same, offsetLater, by rwa [unread]⟩
        have items : telling.items (line ++ lineFeed :: rest) =
            (telling.item? (withoutReturn line)).toList ++ telling.items rest := by
          rw [Telling.items, logLines_line inLine, List.filterMap_cons, Telling.items]
          cases telling.item? (withoutReturn line) <;> rfl
        rw [items, item?, LineStream.answer]
        cases Utf8.decode? (withoutReturn line) with
        | none => exact ⟨later, rfl, isAtLater, by rw [unread]; rfl⟩
        | some text =>
            simp only
            cases telling.told? text with
            | some item => exact ⟨later, rfl, isAtLater, by rw [unread]; rfl⟩
            | none =>
                have shorter : (later.unread log).length < fuel := by
                  rw [unread]
                  simp only [List.length_append, List.length_cons] at short
                  omega
                obtain ⟨last, found, isAtLast, itemsLast⟩ := ih isAtLater shorter
                rw [unread] at found itemsLast
                exact ⟨last, found, isAtLast, itemsLast⟩

theorem next_eq (telling : Telling α) {log : Bytes} {tree : FileTree} {key : FileKey}
    {stream : LineStream} (isAt : IsAt log tree key stream) :
    ∃ later, telling.next tree stream =
        ((telling.items (stream.unread log)).headD telling.ended, later) ∧
      IsAt log tree key later ∧
      telling.items (later.unread log) = (telling.items (stream.unread log)).tail := by
  refine within_eq _ isAt ?_
  rw [LineStream.remaining_eq isAt.source, isAt.content]
  exact Nat.lt_succ_self _

end Telling

/-! ### Reading while the log grows -/

inductive LogEvent where
  | grows (bytes : Bytes)
  | asked

def LogEvent.bytes : LogEvent → Bytes
  | grows bytes => bytes
  | asked => []

structure Follower (α : Type) where
  tree : FileTree
  stream : LineStream
  answers : List α

namespace Follower

variable {α : Type}

def step (place : Place) (read : FileTree → LineStream → α × LineStream) (follower : Follower α) :
    LogEvent → Follower α
  | .grows bytes => { follower with tree := follower.tree.appendFile place bytes }
  | .asked =>
    let (answer, stream) := read follower.tree follower.stream
    { follower with stream, answers := follower.answers ++ [answer] }

def run (place : Place) (read : FileTree → LineStream → α × LineStream) (tree : FileTree)
    (stream : LineStream) (events : List LogEvent) : Follower α :=
  events.foldl (step place read) ⟨tree, stream, []⟩

theorem run_concat (place : Place) (read : FileTree → LineStream → α × LineStream)
    (tree : FileTree) (stream : LineStream) (events : List LogEvent) (event : LogEvent) :
    run place read tree stream (events ++ [event]) =
      (run place read tree stream events).step place read event := by
  simp [run]

def items [DecidableEq α] (telling : Telling α) (follower : Follower α) : List α :=
  follower.answers.filter (· ≠ telling.ended)

/-- A stream tells the items of its log one after the other: those told so far are the first ones,
the next answer is the next item, and the answer that there is none comes only when all were
told. -/
def TellsAll [DecidableEq α] (telling : Telling α) (place : Place)
    (read : FileTree → LineStream → α × LineStream) (tree : FileTree) (stream : LineStream)
    (initial : Bytes) : Prop :=
  ∀ events : List LogEvent,
    (∀ bytes, .grows bytes ∈ events → bytes.getLast? = some lineFeed) →
    let follower := run place read tree stream events
    let all := telling.items (initial ++ events.flatMap LogEvent.bytes)
    follower.items telling <+: all ∧
      (∀ item later, all = follower.items telling ++ item :: later →
        (read follower.tree follower.stream).1 = item) ∧
      ((read follower.tree follower.stream).1 = telling.ended → follower.items telling = all)

/-- The items told so far and those of the unread lines are all. -/
structure IsInStep [DecidableEq α] (telling : Telling α) (place : Place) (key : FileKey)
    (log : Bytes) (follower : Follower α) : Prop where
  stands : follower.tree.node? place = some (.file key)
  kept : key < follower.tree.contents.size
  isAt : Telling.IsAt log follower.tree key follower.stream
  wholeLog : IsWholeLog log
  split : telling.items log =
    follower.items telling ++ telling.items (follower.stream.unread log)

variable [DecidableEq α] {telling : Telling α} {place : Place} {key : FileKey} {log : Bytes}
  {follower : Follower α}

theorem IsInStep.grows (inStep : IsInStep telling place key log follower) {bytes : Bytes}
    (ends : bytes.getLast? = some lineFeed) :
    IsInStep telling place key (log ++ bytes)
      (follower.step place telling.next (.grows bytes)) := by
  obtain ⟨stands, kept, isAt, wholeLog, split⟩ := inStep
  have grown : follower.tree.appendFile place bytes =
      follower.tree.setContent key (follower.tree.content key ++ bytes) := by
    simp only [FileTree.appendFile, stands]
  have unread := LineStream.unread_append isAt.offset bytes
  simp only [step, grown]
  refine ⟨?_, ?_, ⟨?_, isAt.source, ?_, ?_⟩, isWholeLog_append log ends, ?_⟩
  · rw [FileTree.node?_setContent, stands]
  · rwa [FileTree.setContent, Array.size_setIfInBounds]
  · rw [FileTree.content_setContent_self _ kept, isAt.content]
  · rw [List.length_append]
    exact Nat.le_add_right_of_le isAt.offset
  · rw [unread]
    exact isWholeLog_append _ ends
  · rw [unread, Telling.items_append wholeLog, Telling.items_append isAt.whole, split,
      List.append_assoc]
    rfl

theorem IsInStep.asked (inStep : IsInStep telling place key log follower) :
    IsInStep telling place key log (follower.step place telling.next .asked) := by
  obtain ⟨stands, kept, isAt, wholeLog, split⟩ := inStep
  obtain ⟨later, next, isAtLater, unread⟩ := telling.next_eq isAt
  simp only [step, next]
  refine ⟨stands, kept, isAtLater, wholeLog, ?_⟩
  rw [split, unread, items, items, List.filter_append]
  cases waiting : telling.items (follower.stream.unread log) with
  | nil => simp
  | cons item later =>
      have isItem : item ≠ telling.ended :=
        Telling.ne_ended_of_mem_items (waiting ▸ List.mem_cons_self)
      simp [isItem]

theorem IsInStep.run {tree : FileTree} {stream : LineStream} {initial : Bytes}
    (inStep : IsInStep telling place key initial ⟨tree, stream, []⟩) {events : List LogEvent}
    (ended : ∀ bytes, .grows bytes ∈ events → bytes.getLast? = some lineFeed) :
    IsInStep telling place key (initial ++ events.flatMap LogEvent.bytes)
      (run place telling.next tree stream events) := by
  induction events using List.reverseRecOn with
  | nil => simpa [Follower.run] using inStep
  | append_singleton events event ih =>
      have earlier := ih fun bytes member => ended bytes (List.mem_append_left _ member)
      rw [run_concat, List.flatMap_append, ← List.append_assoc, List.flatMap_singleton]
      cases event with
      | grows bytes => exact earlier.grows (ended bytes (by simp))
      | asked =>
          rw [LogEvent.bytes, List.append_nil]
          exact earlier.asked

theorem tellsAll {tree : FileTree} {initial : Bytes} (stands : tree.node? place = some (.file key))
    (kept : key < tree.contents.size) (content : tree.content key = initial)
    (whole : IsWholeLog initial) :
    TellsAll telling place telling.next tree (.ofFile key) initial := by
  intro events ended
  have unread : (LineStream.ofFile key).unread initial = initial := by
    simp [LineStream.unread, LineStream.ofFile]
  have first : IsInStep telling place key initial ⟨tree, .ofFile key, []⟩ :=
    ⟨stands, kept, ⟨content, rfl, Nat.zero_le _, by rwa [unread]⟩, whole, by rw [unread]; rfl⟩
  have inStep := first.run ended
  obtain ⟨later, next, _⟩ := telling.next_eq inStep.isAt
  refine ⟨⟨_, inStep.split.symm⟩, ?_, ?_⟩
  · intro item later split
    rw [inStep.split, List.append_cancel_left_eq] at split
    rw [next, split]
    rfl
  · intro answer
    rw [inStep.split]
    generalize Follower.run place telling.next tree (.ofFile key) events = follower at next answer
    cases waiting : telling.items (follower.stream.unread
        (initial ++ events.flatMap LogEvent.bytes)) with
    | nil => rw [List.append_nil]
    | cons item later =>
        rw [next, waiting] at answer
        exact absurd answer (Telling.ne_ended_of_mem_items (waiting ▸ List.mem_cons_self))

end Follower

/-! ### Streams of windows and of edits -/

namespace EditorFiles

def windowTelling : Telling Daemon.Arrival where
  ended := .ended
  failed error := .failed (.io error.message)
  told? line :=
    match openedWindow line with
    | .ok window => window.map .window
    | .error error => some (.failed error)
  failed_ne := by simp
  told_ne line := by
    cases openedWindow line with
    | ok window => cases window <;> simp
    | error error => simp

def editTelling (window : WindowId) : Telling StreamItem where
  ended := .ended
  failed error := .failed (windowError window error)
  told? line := (edit? line).map .edit
  failed_ne := by simp
  told_ne line := by cases edit? line <;> simp

/-- What a line of the log tells: nothing, unless it says that a window is new, it has no number or
no second field, or it is no text. -/
inductive TellsWindow (line : Bytes) : Option Daemon.Arrival → Prop
  | noText (noText : Utf8.decode? line = none) :
      TellsWindow line (some (.failed (.io FileError.notText.message)))
  | malformed {text : List Char} (decoded : Utf8.decode? line = some text)
      (refused : (∀ id, ¬IsNumber (text.takeWhile (· ≠ ' ')) id) ∨ ' ' ∉ text) :
      TellsWindow line (some (.failed (.malformed .log (String.ofList text))))
  | opened {field rest : List Char} {id : WindowId}
      (decoded : Utf8.decode? line = some (field ++ ' ' :: ("new".toList ++ rest)))
      (whole : ' ' ∉ field) (number : IsNumber field id)
      (apart : ∀ c, rest.head? = some c → c = ' ') :
      TellsWindow line (some (.window ⟨id, String.ofList (Text.trim rest.tail)⟩))
  | other {field event rest : List Char} {id : WindowId}
      (decoded : Utf8.decode? line = some (field ++ ' ' :: (event ++ rest)))
      (whole : ' ' ∉ field) (number : IsNumber field id) (wholeEvent : ' ' ∉ event)
      (apart : ∀ c, rest.head? = some c → c = ' ') (other : event ≠ "new".toList) :
      TellsWindow line none

/-- What a line of a window's log tells, by its first letter. -/
inductive TellsEdit (window : WindowId) (line : Bytes) : Option StreamItem → Prop
  | noText (noText : Utf8.decode? line = none) :
      TellsEdit window line (some (.failed (.io FileError.notText.message)))
  | insertion {rest : List Char} (decoded : Utf8.decode? line = some ('I' :: rest)) :
      TellsEdit window line (some (.edit .insertion))
  | deletion {rest : List Char} (decoded : Utf8.decode? line = some ('D' :: rest)) :
      TellsEdit window line (some (.edit .deletion))
  | other {text : List Char} (decoded : Utf8.decode? line = some text)
      (noInsertion : text.head? ≠ some 'I') (noDeletion : text.head? ≠ some 'D') :
      TellsEdit window line none

theorem exists_cut (text : List Char) : ∃ field rest, text = field ++ rest ∧ ' ' ∉ field ∧
    (∀ c, rest.head? = some c → c = ' ') ∧ text.takeWhile (· ≠ ' ') = field := by
  refine ⟨_, _, List.takeWhile_append_dropWhile.symm, ?_, ?_, rfl⟩
  · intro member
    simpa using List.mem_takeWhile_imp member
  · intro c first
    have stops := List.head?_dropWhile_not (· ≠ ' ') text
    rw [first] at stops
    simpa using stops

theorem exists_tellsWindow (line : Bytes) : ∃ told, TellsWindow line told := by
  cases decoded : Utf8.decode? line with
  | none => exact ⟨_, .noText decoded⟩
  | some text =>
      by_cases refused : (∀ id, ¬IsNumber (text.takeWhile (· ≠ ' ')) id) ∨ ' ' ∉ text
      · exact ⟨_, .malformed decoded refused⟩
      · rw [not_or, not_forall, not_not] at refused
        obtain ⟨⟨id, number⟩, space⟩ := refused
        obtain ⟨field, behind, rfl, whole, first, taken⟩ := exists_cut text
        rw [taken, not_not] at number
        cases behind with
        | nil => exact absurd (by simpa using space) whole
        | cons c later =>
            obtain rfl := first c rfl
            obtain ⟨event, rest, rfl, wholeEvent, apart, _⟩ := exists_cut later
            by_cases new : event = "new".toList
            · subst new
              exact ⟨_, .opened decoded whole number apart⟩
            · exact ⟨_, .other decoded whole number wholeEvent apart new⟩

theorem exists_tellsEdit (window : WindowId) (line : Bytes) :
    ∃ told, TellsEdit window line told := by
  cases decoded : Utf8.decode? line with
  | none => exact ⟨_, .noText decoded⟩
  | some text =>
      by_cases insertion : text.head? = some 'I'
      · obtain ⟨rest, rfl⟩ := List.head?_eq_some_iff.mp insertion
        exact ⟨_, .insertion decoded⟩
      · by_cases deletion : text.head? = some 'D'
        · obtain ⟨rest, rfl⟩ := List.head?_eq_some_iff.mp deletion
          exact ⟨_, .deletion decoded⟩
        · exact ⟨_, .other decoded insertion deletion⟩

theorem item?_of_tellsWindow {line : Bytes} {told : Option Daemon.Arrival}
    (tells : TellsWindow line told) : windowTelling.item? line = told := by
  cases tells with
  | noText noText => simp [Telling.item?, noText, windowTelling]
  | malformed decoded refused =>
      have failed := openedWindow_eq_error_iff.mpr ⟨rfl, refused⟩
      simp [Telling.item?, decoded, windowTelling, failed]
  | opened decoded whole number apart =>
      have opened := openedWindow_fields whole number (show ' ' ∉ "new".toList by decide) apart
      rw [if_pos rfl] at opened
      simp only [Telling.item?, decoded, windowTelling, opened, Option.map_some]
  | other decoded whole number wholeEvent apart other =>
      have opened := openedWindow_fields whole number wholeEvent apart
      rw [if_neg other] at opened
      simp only [Telling.item?, decoded, windowTelling, opened, Option.map_none]

theorem item?_of_tellsEdit {window : WindowId} {line : Bytes} {told : Option StreamItem}
    (tells : TellsEdit window line told) : (editTelling window).item? line = told := by
  cases tells with
  | noText noText => simp [Telling.item?, noText, editTelling, windowError]
  | insertion decoded | deletion decoded => simp [Telling.item?, decoded, editTelling, edit?]
  | @other text decoded noInsertion noDeletion =>
      have none : edit? text = none := by
        unfold edit?
        split <;> simp_all
      simp [Telling.item?, decoded, editTelling, none]

theorem windowTelling_item?_iff {line : Bytes} {told : Option Daemon.Arrival} :
    windowTelling.item? line = told ↔ TellsWindow line told := by
  constructor
  · rintro rfl
    obtain ⟨told, tells⟩ := exists_tellsWindow line
    exact item?_of_tellsWindow tells ▸ tells
  · exact item?_of_tellsWindow

theorem editTelling_item?_iff {window : WindowId} {line : Bytes} {told : Option StreamItem} :
    (editTelling window).item? line = told ↔ TellsEdit window line told := by
  constructor
  · rintro rfl
    obtain ⟨told, tells⟩ := exists_tellsEdit window line
    exact item?_of_tellsEdit tells ▸ tells
  · exact item?_of_tellsEdit

theorem nextArrivalWithin_eq (tree : FileTree) (fuel : Nat) (stream : LineStream) :
    nextArrivalWithin tree fuel stream = windowTelling.within tree fuel stream := by
  induction fuel generalizing stream with
  | zero => rfl
  | succ fuel ih =>
      rw [nextArrivalWithin, Telling.within]
      rcases stream.next tree with ⟨error | _ | line, later⟩
      · rfl
      · rfl
      · simp only [windowTelling]
        rcases openedWindow line with error | _ | window
        · rfl
        · exact ih later
        · rfl

theorem nextEditWithin_eq (tree : FileTree) (window : WindowId) (fuel : Nat)
    (stream : LineStream) :
    nextEditWithin tree window fuel stream = (editTelling window).within tree fuel stream := by
  induction fuel generalizing stream with
  | zero => rfl
  | succ fuel ih =>
      rw [nextEditWithin, Telling.within]
      rcases stream.next tree with ⟨error | _ | line, later⟩
      · rfl
      · rfl
      · simp only [editTelling]
        cases edit? line with
        | some kind => rfl
        | none => exact ih later

theorem nextArrival_eq : nextArrival = windowTelling.next := by
  funext tree stream
  exact nextArrivalWithin_eq tree _ stream

theorem nextEdit_eq (window : WindowId) :
    (nextEdit · window) = (editTelling window).next := by
  funext tree stream
  exact nextEditWithin_eq tree window _ stream

theorem file_of_read {tree : FileTree} {path : String} {place : Place} {bytes : Bytes}
    (leads : tree.place path = .ok place) (read : tree.read path = .ok bytes) :
    ∃ key, tree.node? place = some (.file key) ∧ tree.content key = bytes ∧
      tree.openNode .reading path = .ok (.file key) := by
  obtain ⟨key, opens, content⟩ := FileTree.read_eq_ok_iff.mp read
  obtain ⟨_, same, stands⟩ := FileTree.find_eq_ok_iff.mp (FileTree.find_of_openFile opens)
  cases leads.symm.trans same
  exact ⟨key, stands, content,
    FileTree.openNode_file_iff.mpr (FileTree.openFile_eq_ok_iff.mp opens)⟩

/-- The stream of new windows and the streams of edits lose, repeat and reorder nothing, however
their logs grow while they are read. A line of the log tells a window if it says that one is new,
and a failure if it cannot be read; a line of a window's log tells the edit of its first letter. -/
theorem streams_tell_each_line_once (files : EditorFiles) (tree : FileTree)
    (sound : tree.IsSound) :
    ((∀ line told, windowTelling.item? line = told ↔ TellsWindow line told) ∧
      ∀ place stream initial, tree.place (Path.join files.root "log") = .ok place →
        tree.read (Path.join files.root "log") = .ok initial → IsWholeLog initial →
        files.watch tree = .ok stream →
        Follower.TellsAll windowTelling place nextArrival tree stream initial) ∧
    ∀ window,
      (∀ line told, (editTelling window).item? line = told ↔ TellsEdit window line told) ∧
      ∀ place stream initial, tree.place (files.editsPath window) = .ok place →
        tree.read (files.editsPath window) = .ok initial → IsWholeLog initial →
        files.subscribe tree window = .ok stream →
        Follower.TellsAll (editTelling window) place (nextEdit · window) tree stream
          initial := by
  refine ⟨⟨fun _ _ => windowTelling_item?_iff, ?_⟩, fun window =>
    ⟨fun _ _ => editTelling_item?_iff, ?_⟩⟩
  · intro place stream initial leads read whole opened
    obtain ⟨key, stands, content, found⟩ := file_of_read leads read
    unfold watch at opened
    rw [found] at opened
    rw [← Except.ok.inj opened, nextArrival_eq]
    exact Follower.tellsAll stands (sound.kept place key stands) content whole
  · intro place stream initial leads read whole opened
    obtain ⟨key, stands, content, found⟩ := file_of_read leads read
    unfold subscribe at opened
    rw [found] at opened
    rw [← Except.ok.inj opened, nextEdit_eq]
    exact Follower.tellsAll stands (sound.kept place key stands) content whole

def firstLog : Bytes :=
  Utf8.encode "1 focus /src/main.rs\n3 new /src/lib.rs\n".toList

def firstEdits : Bytes :=
  Utf8.encode "I 0 13\nX bogus\n".toList

def loggedTree : FileTree :=
  .ofEntries "/t" [("log", some firstLog), ("1/log", some firstEdits)]

def readsWhileGrowing : List LogEvent :=
  [.asked, .asked, .grows (Utf8.encode "garbage\n".toList ++ [0xFF, lineFeed]), .asked,
    .grows (Utf8.encode "4 new\r\n".toList), .asked, .asked, .asked]

theorem streams_tell_each_line_once_readsWhileGrowing :
    loggedTree.IsSound ∧ IsWholeLog firstLog ∧ IsWholeLog firstEdits ∧
      EditorFiles.watch ⟨"/t"⟩ loggedTree = .ok (.ofFile 0) ∧
      Follower.TellsAll windowTelling ["log"] nextArrival loggedTree (.ofFile 0) firstLog ∧
      (Follower.run ["log"] nextArrival loggedTree (.ofFile 0) readsWhileGrowing).answers =
        [.window ⟨3, "/src/lib.rs"⟩, .ended, .failed (.malformed .log "garbage"),
          .failed (.io "stream did not contain valid UTF-8"), .window ⟨4, ""⟩, .ended] ∧
      Follower.TellsAll (editTelling 1) ["1", "log"] (nextEdit · 1) loggedTree (.ofFile 1)
        firstEdits := by
  have sound : loggedTree.IsSound := FileTree.isSound_ofEntries (by decide) _
  have both := streams_tell_each_line_once ⟨"/t"⟩ loggedTree sound
  have wholeLog : IsWholeLog firstLog := .inr (by decide)
  have wholeEdits : IsWholeLog firstEdits := .inr (by decide)
  have watched : EditorFiles.watch ⟨"/t"⟩ loggedTree = .ok (.ofFile 0) := rfl
  have subscribed : EditorFiles.subscribe ⟨"/t"⟩ loggedTree 1 = .ok (.ofFile 1) := rfl
  refine ⟨sound, wholeLog, wholeEdits, watched, ?_, by decide +kernel, ?_⟩
  · exact both.1.2 ["log"] _ firstLog rfl rfl wholeLog watched
  · exact (both.2 1).2 ["1", "log"] _ firstEdits rfl rfl wholeEdits subscribed

end EditorFiles
end LiveHighlight
