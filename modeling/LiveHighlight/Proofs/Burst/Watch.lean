import LiveHighlight.Proofs.Burst.Stages
import LiveHighlight.Proofs.Mounts.Completion
import LiveHighlight.Proofs.Session.Cancellation

/-!
A session as it watches a stream.

Time passes only while nothing can be done: collaborators answer at once, and what the stream yields
is read as soon as it is there. So a watch waits for its deadline or the next item, and it can go on
to any instant, since every act uses up weight. A session leaves it only once it is cancelled, a
collaborator fails or the stream yields its last item. A deadline goes off at its exact instant; at
whole milliseconds that is when the timer of a `Simulation` fires too, by `Clock.tick_le_iff`.
-/

namespace LiveHighlight

open Duo (Act Change Moment)
open Session (Answer Phase Request)

def StreamItem.rest (later : List (Nat × StreamItem)) : StreamItem → List (Nat × StreamItem)
  | edit _ => later
  | _ => []

structure Watch where
  duo : Duo
  now : Nat
  cancelled : Bool
  unread : List (Nat × StreamItem)

/-- Whether a watch may end with a moment: it is cancelled by then, a collaborator fails, or the
stream yields its last item. -/
def Duo.Moment.endsWatch (moment : Moment) : Bool :=
  moment.cancelled ||
    match moment.act with
    | .answer (.reply (.editorFailed _)) | .answer (.reply (.compositorFailed _)) => true
    | .take item => item.message.isLast
    | _ => false

namespace Watch

def goesOn (watch : Watch) : Bool :=
  watch.duo.session.phase.watches

def unreadAfter? (watch : Watch) : Act → Option (List (Nat × StreamItem))
  | .take item =>
    match watch.unread with
    | [] => none
    | (arrived, next) :: later =>
      if arrived ≤ watch.now ∧ next = item then some (item.rest later) else none
  | _ => some watch.unread

def step? (setup : Setup) (watch : Watch) (act : Act) : Option Watch :=
  if watch.goesOn then
    match watch.duo.step? setup watch.now watch.cancelled act, watch.unreadAfter? act with
    | some duo, some unread => some { watch with duo := duo, unread := unread }
    | _, _ => none
  else none

def IsIdle (setup : Setup) (watch : Watch) : Prop :=
  ∀ act, watch.step? setup act = none

def moment (watch : Watch) (act : Act) : Moment :=
  ⟨watch.now, watch.cancelled, watch.duo, act⟩

/-- A watch as it goes on from a start, until the session leaves it. Time passes only while nothing
can be done, so that collaborators answer at once, with whatever they like. Everything may be
cancelled at any moment. -/
inductive Goes (setup : Setup) (start : Watch) : List Moment → Watch → Prop
  | here : Goes setup start [] start
  | act {moments watch act next} (earlier : Goes setup start moments watch)
      (taken : watch.step? setup act = some next) :
      Goes setup start (moments ++ [watch.moment act]) next
  | cancel {moments watch} (earlier : Goes setup start moments watch) :
      Goes setup start moments { watch with cancelled := true }
  | pass {moments watch later} (earlier : Goes setup start moments watch)
      (on : watch.goesOn = true) (ordered : watch.now ≤ later)
      (idle : ∀ moment, watch.now ≤ moment → moment < later →
        IsIdle setup { watch with now := moment }) :
      Goes setup start moments { watch with now := later }

/-! ### Steps -/

section

variable {setup : Setup} {watch next : Watch} {duo : Duo} {now : Nat} {act : Act} {reader : Reader}
  {attempt : Session.Attempt} {layer : StyleLayer} {debouncer : Debouncer}

theorem step?_eq_some_iff : watch.step? setup act = some next ↔
    watch.goesOn = true ∧ ∃ duo unread,
      watch.duo.step? setup watch.now watch.cancelled act = some duo ∧
        watch.unreadAfter? act = some unread ∧
        { watch with duo := duo, unread := unread } = next := by
  unfold step?
  cases watch.goesOn with
  | false => simp
  | true =>
      cases watch.duo.step? setup watch.now watch.cancelled act with
      | none => simp
      | some duo => cases watch.unreadAfter? act <;> simp

theorem unreadAfter?_own (own : ∀ item, act ≠ .take item) :
    watch.unreadAfter? act = some watch.unread := by
  cases act with
  | take item => exact absurd rfl (own item)
  | begin | answer | pass | quit => rfl

theorem unreadAfter?_take {item : StreamItem} {unread : List (Nat × StreamItem)} :
    watch.unreadAfter? (.take item) = some unread ↔ ∃ arrived later,
      watch.unread = (arrived, item) :: later ∧ arrived ≤ watch.now ∧ unread = item.rest later := by
  unfold unreadAfter?
  cases watch.unread with
  | nil => simp
  | cons entry later =>
      obtain ⟨arrived, next⟩ := entry
      by_cases same : next = item
      · subst same
        by_cases due : arrived ≤ watch.now <;> simp [due, eq_comm]
      · simp [same]

/-! ### Idle watches -/

theorem highlighting_of_call (on : watch.goesOn = true) {call : Call}
    (asks : watch.duo.session.request? setup = some (.call call)) :
    ∃ attempt layer debouncer step,
      watch.duo.session.phase = .highlighting attempt layer (.debounced debouncer) step := by
  unfold goesOn at on
  cases phase : watch.duo.session.phase with
  | watching => simp [Session.request?, phase] at asks
  | highlighting attempt layer round step =>
      cases round with
      | initial stream => simp [phase, Phase.watches] at on
      | debounced debouncer => exact ⟨attempt, layer, debouncer, step, rfl⟩
  | _ => simp [phase, Phase.watches] at on

theorem can_call (on : watch.goesOn = true) {call : Call}
    (asks : watch.duo.session.request? setup = some (.call call)) :
    ∃ act, (∀ item, act ≠ .take item) ∧
      (watch.duo.step? setup watch.now watch.cancelled act).isSome = true := by
  obtain ⟨attempt, layer, debouncer, step, phase⟩ := highlighting_of_call on asks
  cases cancelled : watch.cancelled with
  | true =>
      have turned : Session.next? setup watch.duo.session.window.id watch.now
          watch.duo.session.phase .cancelled = some (.stoppingReader attempt layer .cancelled) := by
        rw [phase]
        cases step <;> rfl
      refine ⟨.answer .cancelled, by simp, ?_⟩
      rw [Duo.step?_answer asks (by simp [Duo.admits]) rfl turned]
      rfl
  | false =>
      cases begun : watch.duo.begun with
      | none =>
          exact ⟨.begin, by simp, by simp [Duo.step?, Duo.begin?, asks, begun, Duo.isPreempted]⟩
      | some since =>
          have replies (reply : Reply) {next : Phase} (plain : (Answer.reply reply).isPlain = true)
              (turned : Session.next? setup watch.duo.session.window.id watch.now
                watch.duo.session.phase (.reply reply) = some next) :
              (watch.duo.step? setup watch.now false (.answer (.reply reply))).isSome = true := by
            have admitted :
                watch.duo.admits watch.now false (.call call) (.reply reply) = true := by
              simp [Duo.admits, Duo.isPreempted, begun, Duo.isPossible]
            rw [Duo.step?_answer asks admitted plain turned]
            rfl
          cases step with
          | reading => exact ⟨_, by simp, replies (.text []) rfl (by rw [phase]; rfl)⟩
          | annotating text => exact ⟨_, by simp, replies (.captures []) rfl (by rw [phase]; rfl)⟩
          | applying spans => exact ⟨_, by simp, replies .done rfl (by rw [phase]; rfl)⟩

theorem goesOn_of_watching
    (watching : watch.duo.session.phase = .watching attempt layer debouncer) :
    watch.goesOn = true := by
  rw [goesOn, watching]
  rfl

theorem request?_of_watching {session : Session}
    (watching : session.phase = .watching attempt layer debouncer) :
    session.request? setup = some (.watch debouncer.deadline) := by
  rw [Session.request?, watching]

theorem isSome_received {message : Message} {mailbox : Mailbox} {since : Nat}
    (watching : duo.session.phase = .watching attempt layer debouncer)
    (begun : duo.begun = some since) (taken : duo.receive? message = some mailbox) :
    (duo.step? setup now false (.answer (.received message))).isSome = true := by
  have asks := @request?_of_watching setup _ _ _ _ watching
  have turned : ∃ phase, Session.next? setup duo.session.window.id now duo.session.phase
      (.received message) = some phase := by
    rw [watching]
    cases message <;> exact ⟨_, rfl⟩
  obtain ⟨phase, turned⟩ := turned
  simp [Duo.step?, Duo.answer?, asks, Duo.admits, Duo.isPreempted, begun, Duo.isPossible,
    Session.step?, turned, Duo.exchange?, taken]

theorem IsIdle.not_isSome (idle : watch.IsIdle setup) (on : watch.goesOn = true) (act : Act)
    (own : ∀ item, act ≠ .take item) :
    ¬(watch.duo.step? setup watch.now watch.cancelled act).isSome = true := by
  intro possible
  obtain ⟨duo, taken⟩ := Option.isSome_iff_exists.mp possible
  have stuck := idle act
  rw [step?_eq_some_iff.mpr ⟨on, duo, _, taken, unreadAfter?_own own, rfl⟩] at stuck
  cases stuck

theorem IsIdle.watching (idle : watch.IsIdle setup) (sound : watch.duo.IsSound)
    (on : watch.goesOn = true) : ∃ attempt layer debouncer,
      watch.duo.session.phase = .watching attempt layer debouncer := by
  have noCall : ∀ call, watch.duo.session.request? setup ≠ some (.call call) := by
    intro call asks
    obtain ⟨act, own, possible⟩ := can_call on asks
    exact idle.not_isSome on act own possible
  have held := sound.layer_held
  unfold goesOn at on
  cases phase : watch.duo.session.phase with
  | watching attempt layer debouncer => exact ⟨attempt, layer, debouncer, rfl⟩
  | highlighting attempt layer round step =>
      cases round with
      | initial stream => simp [phase, Phase.watches] at on
      | debounced debouncer =>
          obtain ⟨key, rfl⟩ := held layer (by rw [phase]; rfl)
          cases step with
          | reading | annotating text =>
              exact absurd (by rw [Session.request?, phase]) (noCall _)
          | applying spans => exact absurd (by rw [Session.request?, phase]; rfl) (noCall _)
  | _ => simp [phase, Phase.watches] at on

theorem IsIdle.waits (idle : watch.IsIdle setup)
    (watching : watch.duo.session.phase = .watching attempt layer debouncer) :
    watch.cancelled = false ∧ ∃ since, watch.duo.begun = some since := by
  have on := goesOn_of_watching watching
  have asks := @request?_of_watching setup _ _ _ _ watching
  have clear : watch.cancelled = false := by
    by_contra cancelled
    refine idle.not_isSome on (.answer .cancelled) (by simp) ?_
    rw [Duo.step?_answer asks (by simpa [Duo.admits] using cancelled) rfl (by rw [watching]; rfl)]
    rfl
  refine ⟨clear, Option.ne_none_iff_exists'.mp fun fresh => ?_⟩
  refine idle.not_isSome on .begin (by simp) ?_
  simp [Duo.step?, Duo.begin?, asks, fresh, Duo.isPreempted, clear]

theorem IsIdle.receives_nothing (idle : watch.IsIdle setup)
    (watching : watch.duo.session.phase = .watching attempt layer debouncer) (message : Message) :
    watch.duo.receive? message = none := by
  obtain ⟨clear, since, begun⟩ := idle.waits watching
  refine Option.eq_none_iff_forall_ne_some.mpr fun mailbox taken => ?_
  refine idle.not_isSome (goesOn_of_watching watching) (.answer (.received message)) (by simp) ?_
  rw [clear]
  exact isSome_received watching begun taken

theorem IsIdle.mailbox_empty (idle : watch.IsIdle setup)
    (watching : watch.duo.session.phase = .watching attempt layer debouncer) :
    watch.duo.mailbox.messages = [] := by
  refine Classical.byContradiction fun some_left => ?_
  obtain ⟨first, later, messages⟩ := List.exists_cons_of_ne_nil some_left
  have none_taken := idle.receives_nothing watching first
  simp [Duo.receive?, Mailbox.take?, messages] at none_taken

theorem IsIdle.reader_free (idle : watch.IsIdle setup) (sound : watch.duo.IsSound)
    (watching : watch.duo.session.phase = .watching attempt layer debouncer)
    (works : watch.duo.reader = some reader) : reader.phase = .awaiting ∧ reader.hand = none := by
  have empty := idle.mailbox_empty watching
  have stuck := idle.not_isSome (goesOn_of_watching watching) .pass (by simp)
  simp only [Duo.step?, works, Option.bind_some] at stuck
  cases holds : reader.hand with
  | some item =>
      have awaits := sound.in_hand reader works (by simp [holds])
      cases item <;> simp [Reader.pass?, holds, awaits, Reader.step?] at stuck
  | none =>
      refine ⟨?_, rfl⟩
      cases phase : reader.phase with
      | awaiting => rfl
      | delivering last =>
          simp [Reader.pass?, holds, phase, Mailbox.hasRoom, empty, Mailbox.capacity,
            Reader.step?] at stuck
      | finished =>
          have none_taken := idle.receives_nothing watching .closed
          simp [Duo.receive?, Mailbox.take?, empty, Duo.readerFinished, works, Reader.isFinished,
            phase] at none_taken

theorem IsIdle.ahead (idle : watch.IsIdle setup) (sound : watch.duo.IsSound)
    (watching : watch.duo.session.phase = .watching attempt layer debouncer) :
    (∀ deadline, debouncer.deadline = some deadline → watch.now < deadline) ∧
      watch.duo.edits = 0 ∧
      ∀ arrived item later, watch.unread = (arrived, item) :: later → watch.now < arrived := by
  have on := goesOn_of_watching watching
  have asks := @request?_of_watching setup _ _ _ _ watching
  obtain ⟨clear, since, begun⟩ := idle.waits watching
  obtain ⟨receives, reader, works, running⟩ := sound.watches (by rw [watching]; rfl)
  have empty := idle.mailbox_empty watching
  have free := idle.reader_free sound watching works
  refine ⟨fun deadline armed => ?_, ?_, fun arrived item later next => ?_⟩
  · by_contra elapsed
    refine idle.not_isSome on (.answer .fired) (by simp) ?_
    have due : deadline ≤ watch.now := Nat.le_of_not_lt elapsed
    have admitted : watch.duo.admits watch.now watch.cancelled (.watch debouncer.deadline) .fired =
        true := by
      simp [Duo.admits, Duo.isPreempted, clear, begun, Duo.isPossible, armed, due]
    rw [Duo.step?_answer asks admitted rfl (by rw [watching]; rfl)]
    rfl
  · simp [Duo.edits, empty, works, Duo.editsInHand, free.2]
  · by_contra here
    have worked : (watch.duo.step? setup watch.now watch.cancelled (.take item)).isSome = true := by
      simp [Duo.step?, works, Reader.take?, free, Reader.isDismissed, running, clear]
    obtain ⟨duo, taken⟩ := Option.isSome_iff_exists.mp worked
    have read := unreadAfter?_take.mpr ⟨arrived, later, next, Nat.le_of_not_lt here, rfl⟩
    have stuck := idle (.take item)
    rw [step?_eq_some_iff.mpr ⟨on, duo, _, taken, read, rfl⟩] at stuck
    cases stuck

theorem isIdle_of_ahead {since : Nat}
    (watching : watch.duo.session.phase = .watching attempt layer debouncer)
    (begun : watch.duo.begun = some since) (clear : watch.cancelled = false)
    (empty : watch.duo.mailbox.messages = []) (works : watch.duo.reader = some reader)
    (free : reader.phase = .awaiting ∧ reader.hand = none ∧ reader.isStopped = false)
    (deadline : ∀ deadline, debouncer.deadline = some deadline → watch.now < deadline)
    (arrive : ∀ arrived item later, watch.unread = (arrived, item) :: later →
      watch.now < arrived) : watch.IsIdle setup := by
  obtain ⟨awaits, holds, running⟩ := free
  intro act
  refine Option.eq_none_iff_forall_ne_some.mpr fun next taken => ?_
  obtain ⟨_, duo, unread, stepped, read, rfl⟩ := step?_eq_some_iff.mp taken
  cases Duo.change_of_step? stepped with
  | begun asks fresh => cases begun.symm.trans fresh
  | @answered request answer phase mailbox reader asks admitted turn exchanged =>
      have unheard : ∀ message, answer ≠ .received message := by
        rintro message rfl
        obtain ⟨_, _, _, _, _, received, _⟩ := Duo.receive?_of_turn asks turn exchanged
        rcases Duo.messages_of_receive? received with first | ⟨_, _, finished, _⟩
        · cases empty.symm.trans first
        · simp [Duo.readerFinished, works, Reader.isFinished, awaits] at finished
      have uncancelled : answer ≠ .cancelled := by
        rintro rfl
        simp [Duo.admits, clear] at admitted
      rw [watching] at turn
      cases turn with
      | fired =>
          obtain ⟨instant, armed, elapsed⟩ :=
            (Option.any_eq_true _ _).mp (Duo.due_of_fired asks admitted watching)
          have := deadline instant armed
          simp only [decide_eq_true_eq] at elapsed
          omega
      | edited => exact unheard _ rfl
      | unwound reason =>
          unfold Session.outcome? at reason
          split at reason <;> simp_all
  | took =>
      obtain ⟨arrived, later, next, arrives, _⟩ := unreadAfter?_take.mp read
      have := arrive arrived _ later next
      omega
  | passed at_work passes =>
      cases works.symm.trans at_work
      simp [Reader.pass?, holds, awaits] at passes
  | quit at_work quits =>
      cases works.symm.trans at_work
      simp [Reader.quit?, Reader.isDismissed, running, clear] at quits

end

/-! ### Why a session leaves its watch -/

section

variable {setup : Setup} {start watch : Watch} {moments : List Moment} {now : Nat}
  {cancelled : Bool} {duo next : Duo} {act : Act}

theorem answer_of_outcome? {phase : Phase} {answer : Answer} {outcome : Session.Outcome}
    (reason : Session.outcome? phase answer = some outcome) :
    answer = .cancelled ∨ (∃ error, answer = .reply (.editorFailed error)) ∨
      (∃ error, answer = .reply (.compositorFailed error)) ∨
      ∃ message, answer = .received message ∧ message.isLast = true := by
  unfold Session.outcome? at reason
  split at reason <;> simp_all [Message.isLast]

theorem answer_of_left {window : WindowId} {before after : Phase} {answer : Answer}
    (turn : Session.Turn setup window now before answer after) (on : before.watches = true)
    (off : after.watches = false) :
    answer = .cancelled ∨ (∃ error, answer = .reply (.editorFailed error)) ∨
      (∃ error, answer = .reply (.compositorFailed error)) ∨
      ∃ message, answer = .received message ∧ message.isLast = true := by
  cases turn with
  | unwound reason => exact answer_of_outcome? reason
  | @textRead _ _ round | @annotated _ _ round | @applied _ _ round =>
      cases round with
      | initial stream => cases on
      | debounced debouncer => cases off
  | fired | edited => cases off
  | _ => cases on

theorem endsWatch_of_left (traced : Duo.Traced setup moments duo) (sound : duo.IsSound)
    (sticky : (∃ moment ∈ moments, moment.cancelled = true) → cancelled = true)
    (change : Change setup now cancelled duo act next) (on : duo.session.phase.watches = true)
    (off : next.session.phase.watches = false) :
    ∃ moment ∈ moments ++ [⟨now, cancelled, duo, act⟩], moment.endsWatch = true := by
  cases change with
  | @begun request asks fresh =>
      rw [Duo.session_begin] at off
      cases on.symm.trans off
  | @answered request answer phase mailbox reader asks admitted turn exchanged =>
      have here : (⟨now, cancelled, duo, .answer answer⟩ : Moment) ∈
          moments ++ [⟨now, cancelled, duo, .answer answer⟩] := by simp
      rcases answer_of_left turn on off with
        rfl | ⟨error, rfl⟩ | ⟨error, rfl⟩ | ⟨message, rfl, last⟩
      · have seen : cancelled = true := by simpa [Duo.admits] using admitted
        exact ⟨_, here, by simp [Moment.endsWatch, seen]⟩
      · exact ⟨_, here, by simp [Moment.endsWatch]⟩
      · exact ⟨_, here, by simp [Moment.endsWatch]⟩
      · obtain ⟨item, rfl, moment, member, took⟩ :=
          traced.sent sound sticky asks admitted turn exchanged
        exact ⟨moment, List.mem_append_left _ member, by simp [Moment.endsWatch, took, last]⟩
  | took | passed | quit => cases on.symm.trans off

theorem Goes.traced (goes : Goes setup start moments watch) (sound : start.duo.IsSound)
    (traced : Duo.Traced setup [] start.duo) :
    watch.duo.IsSound ∧ Duo.Traced setup moments watch.duo ∧
      ∀ moment ∈ moments, moment.cancelled = true → watch.cancelled = true := by
  induction goes with
  | here => exact ⟨sound, traced, by simp⟩
  | @act moments watch act next earlier taken ih =>
      obtain ⟨sound, traced, sticky⟩ := ih
      obtain ⟨_, duo, unread, stepped, _, rfl⟩ := step?_eq_some_iff.mp taken
      have change := Duo.change_of_step? stepped
      refine ⟨sound.step change,
        traced.step sound (fun ⟨moment, member, seen⟩ => sticky moment member seen) change, ?_⟩
      intro moment member seen
      rcases List.mem_append.mp member with member | member
      · exact sticky moment member seen
      · obtain rfl := List.mem_singleton.mp member
        exact seen
  | cancel earlier ih => exact ⟨ih.1, ih.2.1, fun _ _ _ => rfl⟩
  | pass earlier on ordered idle ih => exact ih

theorem Goes.ends (goes : Goes setup start moments watch) (sound : start.duo.IsSound)
    (traced : Duo.Traced setup [] start.duo) (on : start.goesOn = true)
    (off : watch.goesOn = false) : ∃ moment ∈ moments, moment.endsWatch = true := by
  induction goes with
  | here => cases on.symm.trans off
  | act earlier taken ih =>
      obtain ⟨sound, traced, sticky⟩ := earlier.traced sound traced
      obtain ⟨watches, duo, unread, stepped, _, rfl⟩ := step?_eq_some_iff.mp taken
      exact endsWatch_of_left traced sound
        (fun ⟨moment, member, seen⟩ => sticky moment member seen)
        (Duo.change_of_step? stepped) watches off
  | cancel earlier ih => exact ih off
  | pass earlier watches => cases watches.symm.trans off

end

/-! ### How a watch goes on -/

/-- An edit loses weight on its way to the session, and so does the session with every act. -/
def weight (watch : Watch) : Nat :=
  watch.duo.session.phase.weight + (if watch.duo.begun.isNone then 1 else 0) +
    watch.duo.reader.elim 0 Reader.weight + 10 * watch.duo.mailbox.messages.length +
    12 * watch.unread.length

section

variable {setup : Setup} {watch : Watch} {now : Nat} {cancelled : Bool} {duo next : Duo} {act : Act}

theorem weight_turn {window : WindowId} {before phase : Phase} {answer : Answer}
    (turn : Session.Turn setup window now before answer phase) (on : before.watches = true)
    (stays : phase.watches = true)
    (due : answer = .fired → ∀ attempt layer debouncer,
      before = .watching attempt layer debouncer → debouncer.deadline.any (· ≤ now) = true) :
    phase.weight + 1 < before.weight ∨
      (∃ kind, answer = .received (.edit kind)) ∧ phase.weight ≤ before.weight + 8 := by
  cases turn with
  | @textRead _ _ round =>
      cases round with
      | initial stream => cases on
      | debounced debouncer => exact .inl (by simp [Phase.weight, Session.HighlightStep.weight])
  | @annotated _ _ round =>
      cases round with
      | initial stream => cases on
      | debounced debouncer => exact .inl (by simp [Phase.weight, Session.HighlightStep.weight])
  | @applied _ _ round =>
      cases round with
      | initial stream => cases on
      | debounced debouncer =>
          exact .inl (by simp [Session.highlighted, Phase.weight, Session.HighlightStep.weight])
  | @fired _ _ debouncer =>
      have armed : debouncer.isArmed = true := by
        obtain ⟨deadline, set, _⟩ := (Option.any_eq_true _ _).mp (due rfl _ _ _ rfl)
        simp [Debouncer.isArmed, set]
      exact .inl (by simp [Phase.weight, Session.HighlightStep.weight,
        Debouncer.weight_of_isArmed armed])
  | @edited _ _ debouncer kind => exact .inr ⟨⟨kind, rfl⟩, debouncer.weight_arm now⟩
  | @unwound _ _ outcome reason =>
      cases before with
      | watching => cases stays
      | highlighting attempt layer round step =>
          cases round with
          | initial stream => cases on
          | debounced debouncer => cases stays
      | _ => cases on
  | _ => cases on

theorem length_exchanged {request : Request} {answer : Answer} {phase : Phase} {mailbox : Mailbox}
    {reader : Option Reader} (asks : duo.session.request? setup = some request)
    (turn : Session.Turn setup duo.session.window.id now duo.session.phase answer phase)
    (on : duo.session.phase.watches = true)
    (exchanged : duo.exchange? request answer = some (mailbox, reader)) :
    mailbox.messages.length ≤ duo.mailbox.messages.length ∧
      ∀ kind, answer = .received (.edit kind) →
        mailbox.messages.length + 1 = duo.mailbox.messages.length := by
  obtain ⟨started, stopped⟩ := Duo.keeps_reader on turn
  by_cases received : ∃ message, answer = .received message
  · obtain ⟨message, rfl⟩ := received
    obtain ⟨_, _, _, _, _, taken, _⟩ := Duo.receive?_of_turn asks turn exchanged
    rcases Duo.messages_of_receive? taken with first | ⟨_, same, _, closed⟩
    · simp [first]
    · simp [same, closed]
  · have others : ∀ message, answer ≠ .received message := by simpa using received
    obtain ⟨_, _, same⟩ := Duo.exchange?_keeps exchanged started stopped
    rw [same others]
    exact ⟨Nat.le_refl _, fun kind edited => absurd edited (others _)⟩

theorem weight_acted (change : Change setup now cancelled duo act next)
    (own : ∀ item, act ≠ .take item) (on : duo.session.phase.watches = true)
    (stays : next.session.phase.watches = true) (unread : List (Nat × StreamItem)) :
    weight ⟨next, now, cancelled, unread⟩ < weight ⟨duo, now, cancelled, unread⟩ := by
  unfold weight
  cases change with
  | @begun request asks fresh =>
      obtain ⟨same, fewer⟩ := MountedDuo.weight_begin now duo request
      simp only [Duo.session_begin, Duo.begun_begin, same, fresh, Option.isNone_none,
        Option.isNone_some, if_true, Bool.false_eq_true, if_false]
      omega
  | @answered request answer phase mailbox reader asks admitted turn exchanged =>
      obtain ⟨started, stopped⟩ := Duo.keeps_reader on turn
      obtain ⟨rfl, _⟩ := Duo.exchange?_keeps exchanged started stopped
      obtain ⟨fewer, oneFewer⟩ := length_exchanged asks turn on exchanged
      have lighter := weight_turn turn on stays (by
        rintro rfl attempt layer debouncer watching
        exact Duo.due_of_fired asks admitted watching)
      simp only [Option.isNone_none, if_true]
      rcases lighter with lighter | ⟨⟨kind, edited⟩, heavier⟩
      · omega
      · have := oneFewer kind edited
        omega
  | took => exact absurd rfl (own _)
  | @passed reader mailbox worker works taken =>
      have lighter := (Reader.passing_of_pass? taken).weight_lt
      simp only [works, Option.elim_some]
      omega
  | @quit reader worker works taken =>
      obtain ⟨⟨awaits, empty, _⟩, rfl⟩ := Reader.quit?_eq_some_iff.mp taken
      have before := Reader.weight_of_ready awaits empty
      have after : Reader.weight { reader with phase := .finished } = 0 := rfl
      simp only [works, Option.elim_some]
      omega

theorem weight_read (arrived : Nat) {item : StreamItem} (later : List (Nat × StreamItem))
    (change : Change setup now cancelled duo (.take item) next) :
    weight ⟨next, now, cancelled, item.rest later⟩ <
      weight ⟨duo, now, cancelled, (arrived, item) :: later⟩ := by
  unfold weight
  cases change with
  | @took reader item worker works taken =>
      obtain ⟨⟨awaits, empty, _⟩, rfl⟩ := Reader.take?_eq_some_iff.mp taken
      have before := Reader.weight_of_ready awaits empty
      have after : Reader.weight { reader with hand := some item } ≤ 24 := by
        cases item <;> simp [Reader.weight, awaits]
      have fewer : (item.rest later).length ≤ later.length := by
        cases item <;> simp [StreamItem.rest]
      simp only [works, Option.elim_some, List.length_cons]
      omega

theorem weight_lt {after : Watch} (taken : watch.step? setup act = some after)
    (stays : after.goesOn = true) : after.weight < watch.weight := by
  obtain ⟨on, duo, unread, stepped, read, rfl⟩ := step?_eq_some_iff.mp taken
  have change := Duo.change_of_step? stepped
  by_cases takes : ∃ item, act = .take item
  · obtain ⟨item, rfl⟩ := takes
    obtain ⟨arrived, later, first, _, rfl⟩ := unreadAfter?_take.mp read
    have lighter := weight_read arrived later change
    rw [← first] at lighter
    exact lighter
  · have own : ∀ item, act ≠ .take item := by simpa using takes
    rw [unreadAfter?_own own, Option.some.injEq] at read
    subst read
    exact weight_acted change own on stays watch.unread

theorem Goes.trans {start between final : Watch} {before after : List Moment}
    (first : Goes setup start before between) (second : Goes setup between after final) :
    Goes setup start (before ++ after) final := by
  induction second with
  | here => rwa [List.append_nil]
  | act earlier taken ih =>
      rw [← List.append_assoc]
      exact ih.act taken
  | cancel earlier ih => exact ih.cancel
  | pass earlier on ordered idle ih => exact ih.pass on ordered idle

theorem first_busy {watch : Watch} {later : Nat}
    (busy : ¬∀ moment, watch.now ≤ moment → moment < later →
      IsIdle setup { watch with now := moment }) :
    ∃ moment, watch.now ≤ moment ∧ moment < later ∧
      ¬IsIdle setup { watch with now := moment } ∧
      ∀ earlier, watch.now ≤ earlier → earlier < moment →
        IsIdle setup { watch with now := earlier } := by
  classical
  have found : ∃ moment, watch.now ≤ moment ∧ moment < later ∧
      ¬IsIdle setup { watch with now := moment } := by
    simpa using busy
  obtain ⟨after, before, busy⟩ := Nat.find_spec found
  refine ⟨Nat.find found, after, before, busy, fun earlier notBefore sooner => ?_⟩
  by_contra busy
  exact Nat.find_min found sooner ⟨notBefore, by omega, busy⟩

theorem goes_on (watch : Watch) {later : Nat} (ordered : watch.now ≤ later) :
    ∃ more final, Goes setup watch more final ∧ final.now ≤ later ∧
      (final.goesOn = true → final.now = later) := by
  induction left : watch.weight using Nat.strongRecOn generalizing watch with
  | ind left ih =>
      subst left
      cases on : watch.goesOn with
      | false => exact ⟨[], watch, .here, ordered, by simp [on]⟩
      | true =>
          by_cases idle : ∀ moment, watch.now ≤ moment → moment < later →
              IsIdle setup { watch with now := moment }
          · exact ⟨[], _, .pass .here on ordered idle, Nat.le_refl _, fun _ => rfl⟩
          · -- time passes to the first busy instant, and the act taken there uses up weight
            obtain ⟨moment, after, before, busy, waits⟩ := first_busy idle
            obtain ⟨act, possible⟩ := not_forall.mp busy
            obtain ⟨next, taken⟩ := Option.ne_none_iff_exists'.mp possible
            have reached := (Goes.here.pass on after waits).act taken
            have inTime : next.now ≤ later := by
              obtain ⟨_, _, _, _, _, rfl⟩ := step?_eq_some_iff.mp taken
              exact Nat.le_of_lt before
            cases stays : next.goesOn with
            | false => exact ⟨_, next, reached, inTime, by simp [stays]⟩
            | true =>
                have lighter := weight_lt taken stays
                obtain ⟨more, final, goes, ends⟩ := ih _ lighter next inTime rfl
                exact ⟨_, final, reached.trans goes, ends⟩

end

end Watch
end LiveHighlight
