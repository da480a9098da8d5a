import LiveHighlight.Proofs.Session.Turns
import LiveHighlight.Session.Duo

/-!
Every change that a session and its reader can undergo together.

`Change` lists them with their conditions, and `Duo.step?` makes no others.
-/

namespace LiveHighlight

namespace Reader

inductive Passing (mailbox : Mailbox) (reader : Reader) : Mailbox → Reader → Prop
  | edit {kind} (awaits : reader.phase = .awaiting) (holds : reader.hand = some (.edit kind)) :
      Passing mailbox reader (passOn mailbox (.edit kind))
        { reader with phase := if mailbox.isOpen then .awaiting else .finished, hand := none }
  | failed {error} (awaits : reader.phase = .awaiting)
      (holds : reader.hand = some (.failed error)) :
      Passing mailbox reader mailbox
        { reader with phase := .delivering (.failed error), hand := none }
  | ended (awaits : reader.phase = .awaiting) (holds : reader.hand = some .ended) :
      Passing mailbox reader mailbox { reader with phase := .delivering .closed, hand := none }
  | delivered {last} (delivers : reader.phase = .delivering last) (empty : reader.hand = none)
      (received : mailbox.isOpen = true) :
      Passing mailbox reader (mailbox.put last) { reader with phase := .finished }
  | refused {last} (delivers : reader.phase = .delivering last) (empty : reader.hand = none)
      (refused : mailbox.isOpen = false) :
      Passing mailbox reader mailbox { reader with phase := .finished }

theorem passing_of_pass? {mailbox later : Mailbox} {reader next : Reader}
    (taken : reader.pass? mailbox = some (later, next)) : Passing mailbox reader later next := by
  obtain ⟨phase, stream, hand, isStopped⟩ := reader
  cases hand with
  | some item =>
      cases phase <;> cases item <;> simp only [pass?, step?, Option.map_some, Option.map_none,
        Option.some.injEq, Prod.mk.injEq, reduceCtorEq] at taken
      all_goals obtain ⟨rfl, rfl⟩ := taken
      · have same : (if (!mailbox.isOpen) = true then Phase.finished else .awaiting) =
            if mailbox.isOpen = true then .awaiting else .finished := by
          cases mailbox.isOpen <;> rfl
        rw [same]
        exact .edit rfl rfl
      · exact .failed rfl rfl
      · exact .ended rfl rfl
  | none =>
      cases phase with
      | delivering last =>
          simp only [pass?, step?, Option.map_some] at taken
          split at taken
          next => simp at taken
          next =>
            simp only [Option.some.injEq, Prod.mk.injEq] at taken
            obtain ⟨rfl, rfl⟩ := taken
            split
            next received => exact .delivered rfl rfl received
            next refused => exact .refused rfl rfl (by simpa using refused)
      | awaiting => simp [pass?] at taken
      | finished => simp [pass?] at taken

@[simp]
theorem passOn_isOpen (mailbox : Mailbox) (item : StreamItem) :
    (passOn mailbox item).isOpen = mailbox.isOpen := by
  unfold passOn Mailbox.offer Mailbox.put
  grind

theorem Passing.keeps {mailbox later : Mailbox} {reader next : Reader}
    (passing : Passing mailbox reader later next) :
    later.isOpen = mailbox.isOpen ∧ next.isStopped = reader.isStopped ∧
      next.stream = reader.stream := by
  cases passing <;> simp [Mailbox.put]

theorem Passing.hand {mailbox later : Mailbox} {reader next : Reader}
    (passing : Passing mailbox reader later next) : next.hand = none := by
  cases passing <;> first | rfl | assumption

theorem take?_eq_some_iff {cancelled : Bool} {reader next : Reader} {item : StreamItem} :
    reader.take? cancelled item = some next ↔
      (reader.phase = .awaiting ∧ reader.hand = none ∧ reader.isDismissed cancelled = false) ∧
        { reader with hand := some item } = next := by
  simp [take?]

theorem quit?_eq_some_iff {cancelled : Bool} {reader next : Reader} :
    reader.quit? cancelled = some next ↔
      (reader.phase = .awaiting ∧ reader.hand = none ∧ reader.isDismissed cancelled = true) ∧
        { reader with phase := .finished } = next := by
  obtain ⟨phase, stream, hand, isStopped⟩ := reader
  unfold quit?
  cases phase <;> simp [step?]

end Reader

namespace Duo

open Session (Answer Phase Request Turn)

inductive Change (setup : Setup) (now : Nat) (cancelled : Bool) (duo : Duo) : Act → Duo → Prop
  | begun {request} (asks : duo.session.request? setup = some request) (fresh : duo.begun = none)
      (clear : isPreempted cancelled request = false) :
      Change setup now cancelled duo .begin (duo.begin now request)
  | answered {request answer phase mailbox reader}
      (asks : duo.session.request? setup = some request)
      (admitted : duo.admits now cancelled request answer = true)
      (turn : Turn setup duo.session.window.id now duo.session.phase answer phase)
      (exchanged : duo.exchange? request answer = some (mailbox, reader)) :
      Change setup now cancelled duo (.answer answer)
        ⟨⟨duo.session.window, phase⟩, none, mailbox, reader⟩
  | took {reader item next} (works : duo.reader = some reader)
      (taken : reader.take? cancelled item = some next) :
      Change setup now cancelled duo (.take item) { duo with reader := some next }
  | passed {reader mailbox next} (works : duo.reader = some reader)
      (taken : reader.pass? duo.mailbox = some (mailbox, next)) :
      Change setup now cancelled duo .pass { duo with mailbox := mailbox, reader := some next }
  | quit {reader next} (works : duo.reader = some reader)
      (taken : reader.quit? cancelled = some next) :
      Change setup now cancelled duo .quit { duo with reader := some next }

section

variable {setup : Setup} {now : Nat} {cancelled : Bool} {duo next : Duo} {act : Act}

theorem begun_of_admits {request : Request} {answer : Answer} (other : answer ≠ .cancelled)
    (admitted : duo.admits now cancelled request answer = true) :
    ∃ since, duo.begun = some since ∧ isPossible now since request answer = true := by
  simp only [admits, if_neg other, Bool.and_eq_true] at admitted
  exact Option.any_eq_true _ _ |>.mp admitted.2

theorem change_of_begin? (taken : duo.begin? setup now cancelled = some next) :
    Change setup now cancelled duo .begin next := by
  unfold begin? at taken
  split at taken
  next => simp at taken
  next request asks =>
    split at taken
    next => simp at taken
    next free =>
      simp only [Option.some.injEq] at taken
      subst taken
      simp only [Bool.or_eq_true, not_or, Bool.not_eq_true, Option.isSome_eq_false_iff,
        Option.isNone_iff_eq_none] at free
      exact .begun asks free.1 free.2

theorem change_of_answer? {answer : Answer}
    (taken : duo.answer? setup now cancelled answer = some next) :
    Change setup now cancelled duo (.answer answer) next := by
  unfold answer? at taken
  split at taken
  next => simp at taken
  next request asks =>
    split at taken
    next admitted =>
      split at taken
      next session mailbox reader stepped exchanged =>
        simp only [Option.some.injEq] at taken
        subst taken
        simp only [Session.step?, Option.map_eq_some_iff] at stepped
        obtain ⟨phase, turned, rfl⟩ := stepped
        exact .answered asks admitted (Session.turn_of_next? turned) exchanged
      next => simp at taken
    next => simp at taken

theorem change_of_step? (taken : duo.step? setup now cancelled act = some next) :
    Change setup now cancelled duo act next := by
  cases act with
  | begin => exact change_of_begin? taken
  | answer answer => exact change_of_answer? taken
  | take item =>
      simp only [step?, Option.map_eq_some_iff, Option.bind_eq_some_iff] at taken
      obtain ⟨reader, ⟨worker, works, moved⟩, rfl⟩ := taken
      exact .took works moved
  | pass =>
      simp only [step?, Option.map_eq_some_iff, Option.bind_eq_some_iff] at taken
      obtain ⟨⟨mailbox, reader⟩, ⟨worker, works, moved⟩, rfl⟩ := taken
      exact .passed works moved
  | quit =>
      simp only [step?, Option.map_eq_some_iff, Option.bind_eq_some_iff] at taken
      obtain ⟨reader, ⟨worker, works, moved⟩, rfl⟩ := taken
      exact .quit works moved

end

theorem exchange?_other {duo : Duo} {request : Request} {answer : Answer}
    (started : answer ≠ .readerStarted) (received : ∀ message, answer ≠ .received message)
    (stopped : answer ≠ .readerStopped) :
    duo.exchange? request answer = some (duo.mailbox, duo.reader) := by
  unfold exchange?
  split <;> simp_all

theorem isOpen_of_receive? {duo : Duo} {message : Message} {mailbox : Mailbox}
    (received : duo.receive? message = some mailbox) : mailbox.isOpen = duo.mailbox.isOpen := by
  unfold receive? Mailbox.take? at received
  grind

theorem messages_of_receive? {duo : Duo} {message : Message} {mailbox : Mailbox}
    (received : duo.receive? message = some mailbox) :
    duo.mailbox.messages = message :: mailbox.messages ∨
      duo.mailbox.messages = [] ∧ mailbox = duo.mailbox ∧ duo.readerFinished = true ∧
        message = .closed := by
  obtain ⟨session, begun, ⟨messages, isOpen⟩, reader⟩ := duo
  cases messages with
  | nil =>
      simp only [receive?, Mailbox.take?] at received
      split at received
      next empty =>
        cases received
        exact .inr ⟨rfl, rfl, empty⟩
      next => cases received
  | cons first later =>
      simp only [receive?, Mailbox.take?] at received
      split at received
      next same =>
        cases received
        exact .inl (by rw [same])
      next => cases received

theorem exchange?_cases {duo : Duo} {request : Request} {answer : Answer} {mailbox : Mailbox}
    {reader : Option Reader} (exchanged : duo.exchange? request answer = some (mailbox, reader)) :
    (reader = duo.reader ∨ reader = none ∨ ∃ stream, reader = some (.ofStream stream)) ∧
      ∀ message ∈ mailbox.messages, message ∈ duo.mailbox.messages := by
  unfold exchange? at exchanged
  split at exchanged
  next stream =>
    cases exchanged
    exact ⟨.inr (.inr ⟨stream, rfl⟩), by simp [Mailbox.empty]⟩
  next message =>
    simp only [Option.map_eq_some_iff, Prod.mk.injEq] at exchanged
    obtain ⟨_, taken, rfl, rfl⟩ := exchanged
    refine ⟨.inl rfl, fun later member => ?_⟩
    rcases messages_of_receive? taken with first | ⟨_, rfl, _⟩
    · simp [first, member]
    · exact member
  next =>
    split at exchanged
    next =>
      cases exchanged
      exact ⟨.inr (.inl rfl), by simp [Mailbox.shut]⟩
    next => cases exchanged
  next =>
    cases exchanged
    exact ⟨.inl rfl, fun _ member => member⟩

theorem exchange?_keeps {duo : Duo} {request : Request} {answer : Answer} {mailbox : Mailbox}
    {reader : Option Reader} (exchanged : duo.exchange? request answer = some (mailbox, reader))
    (started : answer ≠ .readerStarted) (stopped : answer ≠ .readerStopped) :
    reader = duo.reader ∧ mailbox.isOpen = duo.mailbox.isOpen ∧
      ((∀ message, answer ≠ .received message) → mailbox = duo.mailbox) := by
  by_cases received : ∃ message, answer = .received message
  · obtain ⟨message, rfl⟩ := received
    unfold exchange? at exchanged
    split at exchanged
    case h_2 =>
      simp only [Option.map_eq_some_iff, Prod.mk.injEq] at exchanged
      obtain ⟨_, taken, rfl, rfl⟩ := exchanged
      exact ⟨rfl, isOpen_of_receive? taken, fun none => absurd rfl (none _)⟩
    all_goals simp_all
  · simp only [not_exists] at received
    rw [exchange?_other started received stopped] at exchanged
    simp_all

@[simp]
theorem session_begin (duo : Duo) (now : Nat) (request : Request) :
    (duo.begin now request).session = duo.session := by
  cases request <;> rfl

@[simp]
theorem begun_begin (duo : Duo) (now : Nat) (request : Request) :
    (duo.begin now request).begun = some now := by
  cases request <;> rfl

theorem begin_of_ne_stopReader (duo : Duo) (now : Nat) {request : Request}
    (other : request ≠ .stopReader) :
    duo.begin now request = { duo with begun := some now } := by
  cases request <;> first | rfl | exact absurd rfl other

end Duo
end LiveHighlight
