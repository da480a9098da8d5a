import LiveHighlight.Proofs.Session.Run

/-!
Why sessions end.

A message reaches its session only after the reader took the item that it tells of, and a reader
that has finished has delivered its last message or was cancelled. So whatever ends a session can
be found among the moments since the window was last opened.
-/

namespace LiveHighlight

def StreamItem.message : StreamItem → Message
  | edit kind => .edit kind
  | failed error => .failed error
  | ended => .closed

def Message.isLast : Message → Bool
  | edit _ => false
  | failed _ | closed => true

namespace Duo

open Session (Answer Ending Holding Outcome Phase Request Turn)

def asksEditor (window : WindowId) (call : Call) : Prop :=
  call = .openWindow window ∨ call = .readFirstLine window ∨ call = .subscribe window ∨
    call = .readText window

def Moment.tellsGone (setup : Setup) (moment : Moment) : Prop :=
  ∃ call window, moment.duo.session.request? setup = some (.call call) ∧
    asksEditor moment.duo.session.window.id call ∧
    moment.act = .answer (.reply (.editorFailed (.windowGone window)))

/-- What ends a session, in a stretch of a run: no language for a first line that was read, the end
of the stream, a window that the editor or the stream reports gone, or cancellation. -/
def Reason (setup : Setup) (moments : List Moment) : Ending → Prop
  | .noLanguage => ∃ moment ∈ moments, ∃ line,
      moment.act = .answer (.reply (.firstLine line)) ∧
        setup.resolver.ofInterpreterLine? line = none
  | .streamEnded => ∃ moment ∈ moments, moment.act = .take .ended
  | .windowGone => ∃ moment ∈ moments, moment.tellsGone setup ∨
      ∃ window, moment.act = .take (.failed (.windowGone window))
  | .cancelled => ∃ moment ∈ moments, moment.cancelled = true

def opensWindow (setup : Setup) (moment : Moment) : Bool :=
  match moment.call? setup with
  | some (.openWindow _) => true
  | _ => false

/-- The ending to which an outcome leads. After a failure the session goes on. -/
def endingOf? : Outcome → Option Ending
  | .streamEnded => some .streamEnded
  | .windowGone => some .windowGone
  | .cancelled => some .cancelled
  | .failed _ => none

theorem Reason.mono {setup : Setup} {moments more : List Moment} {ending : Ending}
    (reason : Reason setup moments ending) (wider : moments ⊆ more) : Reason setup more ending := by
  cases ending
  all_goals
    obtain ⟨moment, member, found⟩ := reason
    exact ⟨moment, wider member, found⟩

def Sent (moments : List Moment) (message : Message) : Prop :=
  ∃ item : StreamItem, item.message = message ∧ ∃ moment ∈ moments, moment.act = .take item

theorem Sent.mono {moments more : List Moment} {message : Message}
    (sent : Sent moments message) (wider : moments ⊆ more) : Sent more message := by
  obtain ⟨item, same, moment, member, took⟩ := sent
  exact ⟨item, same, moment, wider member, took⟩

/-- The messages on their way, and the outcome of the attempt if it is over, have their origin in
`moments`. -/
structure Traced (setup : Setup) (moments : List Moment) (duo : Duo) : Prop where
  in_hand : ∀ reader item, duo.reader = some reader → reader.hand = some item →
    Sent moments item.message
  delivered : ∀ reader last, duo.reader = some reader → reader.phase = .delivering last →
    Sent moments last ∧ last.isLast = true
  received : ∀ message ∈ duo.mailbox.messages, Sent moments message
  finished : ∀ reader layer, duo.reader = some reader → reader.phase = .finished →
    duo.session.phase.holding = .both layer →
    (∃ message ∈ duo.mailbox.messages, message.isLast = true) ∨
      ∃ moment ∈ moments, moment.cancelled = true
  unwinding : ∀ layer outcome ending, duo.session.phase.holding = .stopping layer outcome ∨
      duo.session.phase.holding = .cleaning layer outcome →
    endingOf? outcome = some ending → Reason setup moments ending
  ended : ∀ ending, duo.session.phase = .ended ending → Reason setup moments ending

theorem Traced.mono {setup : Setup} {moments more : List Moment} {duo : Duo}
    (traced : Traced setup moments duo) (wider : moments ⊆ more) : Traced setup more duo where
  in_hand reader item works holds := (traced.in_hand reader item works holds).mono wider
  delivered reader last works delivers :=
    ⟨(traced.delivered reader last works delivers).1.mono wider,
      (traced.delivered reader last works delivers).2⟩
  received message member := (traced.received message member).mono wider
  finished reader layer works finished receives :=
    (traced.finished reader layer works finished receives).imp id
      fun ⟨moment, member, cancelled⟩ => ⟨moment, wider member, cancelled⟩
  unwinding layer outcome ending holds leads :=
    (traced.unwinding layer outcome ending holds leads).mono wider
  ended ending phase := (traced.ended ending phase).mono wider

theorem traced_of_idle {setup : Setup} {duo : Duo} (sound : duo.IsSound)
    (idle : duo.session.phase.holding = .nothing) (goesOn : duo.session.hasEnded = false)
    (moments : List Moment) : Traced setup moments duo := by
  have fits := sound.fits
  rw [idle] at fits
  obtain ⟨shut, nobody⟩ := fits
  constructor
  · simp [nobody]
  · simp [nobody]
  · simp [shut, Mailbox.shut]
  · simp [nobody]
  · simp [idle]
  · intro ending phase
    simp [Session.hasEnded, phase] at goesOn

section

variable {setup : Setup} {now : Nat} {cancelled : Bool} {duo next : Duo} {act : Act}
  {moments : List Moment}

theorem Traced.begun (traced : Traced setup moments duo) {request : Request}
    (asks : duo.session.request? setup = some request) :
    Traced setup moments (duo.begin now request) := by
  by_cases stops : request = .stopReader
  · subst stops
    obtain ⟨attempt, layer, outcome, phase⟩ :=
      (Session.request?_eq_stopReader_iff setup _).mp asks
    constructor
    · intro reader item works holds
      obtain ⟨worker, at_work, rfl⟩ := Option.map_eq_some_iff.mp works
      exact traced.in_hand worker item at_work holds
    · intro reader last works delivers
      obtain ⟨worker, at_work, rfl⟩ := Option.map_eq_some_iff.mp works
      exact traced.delivered worker last at_work delivers
    · simp [begin, Mailbox.shut]
    · simp [begin, phase, Phase.holding]
    · exact traced.unwinding
    · exact traced.ended
  · rw [begin_of_ne_stopReader duo now stops]
    exact ⟨traced.in_hand, traced.delivered, traced.received, traced.finished, traced.unwinding,
      traced.ended⟩

theorem Traced.worked (traced : Traced setup moments duo) {mailbox : Mailbox} {worker : Reader}
    (in_hand : ∀ item, worker.hand = some item → Sent moments item.message)
    (delivered : ∀ last, worker.phase = .delivering last →
      Sent moments last ∧ last.isLast = true)
    (received : ∀ message ∈ mailbox.messages, Sent moments message)
    (finished : ∀ layer, worker.phase = .finished → duo.session.phase.holding = .both layer →
      (∃ message ∈ mailbox.messages, message.isLast = true) ∨
        ∃ moment ∈ moments, moment.cancelled = true) :
    Traced setup moments { duo with mailbox := mailbox, reader := some worker } where
  in_hand _ item works := Option.some.inj works ▸ in_hand item
  delivered _ last works := Option.some.inj works ▸ delivered last
  received := received
  finished _ layer works := Option.some.inj works ▸ finished layer
  unwinding := traced.unwinding
  ended := traced.ended

theorem Traced.took (traced : Traced setup moments duo) {reader worker : Reader} {item : StreamItem}
    (took : ∃ moment ∈ moments, moment.act = .take item)
    (taken : reader.take? cancelled item = some worker) :
    Traced setup moments { duo with reader := some worker } := by
  obtain ⟨⟨awaits, _⟩, rfl⟩ := Reader.take?_eq_some_iff.mp taken
  refine traced.worked ?_ ?_ traced.received ?_
  · rintro _ ⟨rfl⟩
    exact ⟨item, rfl, took⟩
  · intro last delivers
    cases awaits.symm.trans delivers
  · intro layer finished
    cases awaits.symm.trans finished

theorem Traced.passed (traced : Traced setup moments duo) (sound : duo.IsSound)
    {reader worker : Reader} {mailbox : Mailbox} (works : duo.reader = some reader)
    (passing : Reader.Passing duo.mailbox reader mailbox worker) :
    Traced setup moments { duo with mailbox := mailbox, reader := some worker } := by
  have receives : ∀ {layer}, duo.session.phase.holding = .both layer →
      duo.mailbox.isOpen = true := by
    intro layer holds
    have fits := sound.fits
    rw [holds] at fits
    exact fits.1
  cases passing with
  | @edit kind awaits holds =>
      refine traced.worked (by simp) ?_ ?_ ?_
      · intro last delivers
        simp only at delivers
        split at delivers <;> cases delivers
      · intro message member
        unfold Reader.passOn Mailbox.offer Mailbox.put at member
        have cases : message ∈ duo.mailbox.messages ∨ message = .edit kind := by grind
        rcases cases with old | rfl
        · exact traced.received message old
        · exact traced.in_hand reader _ works holds
      · intro layer finished both
        simp [receives both] at finished
  | @failed error awaits holds =>
      refine traced.worked (by simp) ?_ traced.received (by simp)
      rintro last ⟨rfl⟩
      exact ⟨traced.in_hand reader _ works holds, rfl⟩
  | ended awaits holds =>
      refine traced.worked (by simp) ?_ traced.received (by simp)
      rintro last ⟨rfl⟩
      exact ⟨traced.in_hand reader _ works holds, rfl⟩
  | @delivered last delivers empty open_ =>
      have sent := traced.delivered reader last works delivers
      refine traced.worked (by simp [empty]) (by simp) ?_ ?_
      · intro message member
        simp only [Mailbox.put, List.mem_append, List.mem_singleton] at member
        rcases member with old | rfl
        · exact traced.received message old
        · exact sent.1
      · intro layer finished both
        exact .inl ⟨last, by simp [Mailbox.put], sent.2⟩
  | refused delivers empty deaf =>
      refine traced.worked (by simp [empty]) (by simp) traced.received ?_
      intro layer finished both
      simp [receives both] at deaf

theorem Traced.quit (traced : Traced setup moments duo) (sound : duo.IsSound)
    {reader worker : Reader} (works : duo.reader = some reader)
    (seen : cancelled = true → ∃ moment ∈ moments, moment.cancelled = true)
    (taken : reader.quit? cancelled = some worker) :
    Traced setup moments { duo with reader := some worker } := by
  obtain ⟨⟨_, empty, dismissed⟩, rfl⟩ := Reader.quit?_eq_some_iff.mp taken
  refine traced.worked (by simp [empty]) (by simp) traced.received ?_
  intro layer _ both
  have fits := sound.fits
  rw [both] at fits
  obtain ⟨_, same, at_work, running⟩ := fits
  cases works.symm.trans at_work
  simp only [Reader.isDismissed, running, Bool.false_or] at dismissed
  exact .inr (seen dismissed)

theorem receive?_of_turn {request : Request} {message : Message} {phase : Phase}
    {mailbox : Mailbox} {reader : Option Reader}
    (asks : duo.session.request? setup = some request)
    (turn : Turn setup duo.session.window.id now duo.session.phase (.received message) phase)
    (exchanged : duo.exchange? request (.received message) = some (mailbox, reader)) :
    ∃ attempt layer debouncer, duo.session.phase = .watching attempt layer debouncer ∧
      request = .watch debouncer.deadline ∧ duo.receive? message = some mailbox ∧
      reader = duo.reader := by
  obtain ⟨attempt, layer, debouncer, watches⟩ := Session.watching_of_turn turn
  have watch : request = .watch debouncer.deadline := by
    simp only [Session.request?, watches, Option.some.injEq] at asks
    exact asks.symm
  subst watch
  simp only [exchange?, Option.map_eq_some_iff, Prod.mk.injEq] at exchanged
  obtain ⟨_, taken, rfl, rfl⟩ := exchanged
  exact ⟨attempt, layer, debouncer, watches, rfl, taken, rfl⟩

/-- A message that is received was sent: nobody takes the end of a reader that was cancelled for
the end of its stream, since cancellation comes first. -/
theorem Traced.sent (traced : Traced setup moments duo) (sound : duo.IsSound)
    (sticky : (∃ moment ∈ moments, moment.cancelled = true) → cancelled = true)
    {request : Request} {message : Message} {phase : Phase} {mailbox : Mailbox}
    {reader : Option Reader} (asks : duo.session.request? setup = some request)
    (admitted : duo.admits now cancelled request (.received message) = true)
    (turn : Turn setup duo.session.window.id now duo.session.phase (.received message) phase)
    (exchanged : duo.exchange? request (.received message) = some (mailbox, reader)) :
    Sent moments message := by
  obtain ⟨attempt, layer, debouncer, watches, rfl, taken, _⟩ :=
    receive?_of_turn asks turn exchanged
  rcases messages_of_receive? taken with first | ⟨empty, _, finished, _⟩
  · exact traced.received message (by simp [first])
  · -- the mailbox is empty because its reader is finished
    have fits := sound.fits
    rw [watches] at fits
    obtain ⟨_, worker, works, _⟩ := fits
    have at_end : worker.phase = .finished := by
      simpa [readerFinished, works, Reader.isFinished] using finished
    rcases traced.finished worker layer works at_end (by rw [watches]; rfl) with
      ⟨last, member, _⟩ | seen
    · rw [empty] at member
      cases member
    · -- a reader that quit has seen cancellation, which comes before any message
      simp [admits, isPreempted, Request.isCancellable, sticky seen] at admitted

theorem Sent.took {message : Message} (item : StreamItem) (sent : Sent moments message)
    (last : message.isLast = true) (same : item.message = message) :
    ∃ moment ∈ moments, moment.act = .take item := by
  obtain ⟨origin, becomes, took⟩ := sent
  have equal : origin = item := by
    subst same
    cases origin <;> cases item <;> simp_all [StreamItem.message, Message.isLast]
  exact equal ▸ took

theorem endingOf?_editorOutcome {error : EditorError} {ending : Ending}
    (leads : endingOf? (Session.editorOutcome error) = some ending) :
    (∃ window, error = .windowGone window) ∧ ending = .windowGone := by
  cases error <;> simp_all [Session.editorOutcome, endingOf?]

theorem Traced.reason (traced : Traced setup moments duo) (sound : duo.IsSound)
    (sticky : (∃ moment ∈ moments, moment.cancelled = true) → cancelled = true)
    {request : Request} {answer : Answer} {phase : Phase} {mailbox : Mailbox}
    {reader : Option Reader} (asks : duo.session.request? setup = some request)
    (admitted : duo.admits now cancelled request answer = true)
    (turn : Turn setup duo.session.window.id now duo.session.phase answer phase)
    (exchanged : duo.exchange? request answer = some (mailbox, reader))
    {outcome : Outcome} {ending : Ending}
    (ends : Session.outcome? duo.session.phase answer = some outcome)
    (leads : endingOf? outcome = some ending) :
    Reason setup (moments ++ [⟨now, cancelled, duo, .answer answer⟩]) ending := by
  have here : (⟨now, cancelled, duo, .answer answer⟩ : Moment) ∈
      moments ++ [⟨now, cancelled, duo, .answer answer⟩] := by simp
  have wider : moments ⊆ moments ++ [⟨now, cancelled, duo, .answer answer⟩] :=
    List.subset_append_left ..
  have gone : ∀ {error call}, answer = .reply (.editorFailed error) →
      duo.session.request? setup = some (.call call) →
      asksEditor duo.session.window.id call →
      endingOf? (Session.editorOutcome error) = some ending →
      Reason setup (moments ++ [⟨now, cancelled, duo, .answer answer⟩]) ending := by
    rintro error call rfl asks editor leads
    obtain ⟨⟨window, rfl⟩, rfl⟩ := endingOf?_editorOutcome leads
    exact ⟨_, here, .inl ⟨call, window, asks, editor, rfl⟩⟩
  have stopped : answer = .cancelled → ending = .cancelled →
      Reason setup (moments ++ [⟨now, cancelled, duo, .answer answer⟩]) ending := by
    rintro rfl rfl
    exact ⟨_, here, by simpa [admits] using admitted⟩
  unfold Session.outcome? at ends
  split at ends
  case h_1 phase _ error at_phase =>
    cases ends
    exact gone rfl (by rw [Session.request?, at_phase]) (.inl rfl) leads
  case h_2 phase _ error at_phase =>
    cases ends
    exact gone rfl (by rw [Session.request?, at_phase]) (.inr (.inr (.inl rfl))) leads
  case h_4 phase _ _ _ error at_phase =>
    cases ends
    exact gone rfl (by rw [Session.request?, at_phase]) (.inr (.inr (.inr rfl))) leads
  case h_3 | h_5 =>
    cases ends
    cases leads
  case h_6 phase _ _ _ error at_phase =>
    cases ends
    obtain ⟨⟨window, rfl⟩, rfl⟩ := endingOf?_editorOutcome leads
    have sent := traced.sent sound sticky asks admitted turn exchanged
    obtain ⟨moment, member, took⟩ := sent.took (.failed (.windowGone window)) rfl rfl
    exact ⟨moment, wider member, .inr ⟨window, took⟩⟩
  case h_7 phase _ _ _ at_phase =>
    cases ends
    cases leads
    have sent := traced.sent sound sticky asks admitted turn exchanged
    obtain ⟨moment, member, took⟩ := sent.took .ended rfl rfl
    exact ⟨moment, wider member, took⟩
  case h_8 | h_9 | h_10 | h_11 | h_12 =>
    cases ends
    cases leads
    exact stopped rfl rfl
  case h_13 => cases ends

theorem lastMessage_of_edit {request : Request} {kind : EditKind} {phase : Phase}
    {mailbox : Mailbox} {reader : Option Reader}
    (asks : duo.session.request? setup = some request)
    (turn : Turn setup duo.session.window.id now duo.session.phase (.received (.edit kind)) phase)
    (exchanged : duo.exchange? request (.received (.edit kind)) = some (mailbox, reader))
    (waiting : ∃ message ∈ duo.mailbox.messages, message.isLast = true) :
    ∃ message ∈ mailbox.messages, message.isLast = true := by
  obtain ⟨_, _, _, _, _, taken, _⟩ := receive?_of_turn asks turn exchanged
  obtain ⟨message, member, last⟩ := waiting
  rcases messages_of_receive? taken with first | ⟨_, _, _, same⟩
  · rw [first, List.mem_cons] at member
    rcases member with rfl | later
    · cases last
    · exact ⟨message, later, last⟩
  · cases same

theorem afterAttempt_eq_ended {attempt : Session.Attempt} {outcome : Outcome} {ending : Ending}
    (ended : Session.afterAttempt attempt outcome = .ended ending) :
    endingOf? outcome = some ending := by
  cases outcome <;> cases ended <;> rfl

theorem finishAttempt_eq_ended {attempt : Session.Attempt} {layer : StyleLayer} {outcome : Outcome}
    {ending : Ending} (ended : Session.finishAttempt attempt layer outcome = .ended ending) :
    endingOf? outcome = some ending := by
  unfold Session.finishAttempt at ended
  split at ended
  next => cases ended
  next => exact afterAttempt_eq_ended ended

theorem unwound_eq_ended {phase : Phase} {answer : Answer} {outcome : Outcome} {ending : Ending}
    (ends : Session.outcome? phase answer = some outcome)
    (ended : Session.unwound outcome phase = .ended ending) : endingOf? outcome = some ending := by
  cases phase with
  | opening | subscribing | acquiring => exact afterAttempt_eq_ended ended
  | highlighting attempt layer round step =>
      cases round with
      | initial stream => exact finishAttempt_eq_ended ended
      | debounced debouncer => cases ended
  | ended => cases ends
  | _ => cases ended

theorem Traced.answered_ended (traced : Traced setup moments duo) (sound : duo.IsSound)
    (sticky : (∃ moment ∈ moments, moment.cancelled = true) → cancelled = true)
    {request : Request} {answer : Answer} {mailbox : Mailbox} {reader : Option Reader}
    {ending : Ending} (asks : duo.session.request? setup = some request)
    (admitted : duo.admits now cancelled request answer = true)
    (turn : Turn setup duo.session.window.id now duo.session.phase answer (.ended ending))
    (exchanged : duo.exchange? request answer = some (mailbox, reader)) :
    Reason setup (moments ++ [⟨now, cancelled, duo, .answer answer⟩]) ending := by
  have here : (⟨now, cancelled, duo, .answer answer⟩ : Moment) ∈
      moments ++ [⟨now, cancelled, duo, .answer answer⟩] := by simp
  have wider : moments ⊆ moments ++ [⟨now, cancelled, duo, .answer answer⟩] :=
    List.subset_append_left ..
  have reason : ∀ {outcome}, Session.outcome? duo.session.phase answer = some outcome →
      endingOf? outcome = some ending → Reason setup _ ending :=
    traced.reason sound sticky asks admitted turn exchanged
  have unwinding := traced.unwinding
  generalize after : Phase.ended ending = phase at turn
  generalize before : duo.session.phase = earlier at turn reason unwinding
  cases turn with
  | @lineRead backoff line =>
      cases found : setup.resolver.ofInterpreterLine? line with
      | some language =>
          rw [found] at after
          cases after
      | none =>
          rw [found] at after
          cases after
          exact ⟨_, here, line, rfl, found⟩
  | @lineFailed step backoff error asksLine =>
      cases error with
      | windowGone window =>
          cases after
          rcases asksLine with rfl | rfl
          · exact ⟨_, here, .inl ⟨_, window, by rw [Session.request?, before], .inl rfl, rfl⟩⟩
          · exact ⟨_, here, .inl ⟨_, window, by rw [Session.request?, before],
              .inr (.inl rfl), rfl⟩⟩
      | unavailable | io | malformed => cases after
  | lineCancelled | sleepCancelled =>
      cases after
      exact ⟨_, here, by simpa [admits] using admitted⟩
  | unwound ends => exact reason ends (unwound_eq_ended ends after.symm)
  | @readerStopped attempt layer outcome =>
      exact (unwinding layer outcome ending (.inl rfl) (finishAttempt_eq_ended after.symm)).mono wider
  | @cleaned attempt layer outcome answer settles =>
      exact (unwinding layer outcome ending (.inr rfl) (afterAttempt_eq_ended after.symm)).mono wider
  | @applied attempt layer round spans => cases round <;> cases after
  | _ => cases after

theorem Traced.answered (traced : Traced setup moments duo) (sound : duo.IsSound)
    (sticky : (∃ moment ∈ moments, moment.cancelled = true) → cancelled = true)
    {request : Request} {answer : Answer} {phase : Phase} {mailbox : Mailbox}
    {reader : Option Reader} (asks : duo.session.request? setup = some request)
    (admitted : duo.admits now cancelled request answer = true)
    (turn : Turn setup duo.session.window.id now duo.session.phase answer phase)
    (exchanged : duo.exchange? request answer = some (mailbox, reader)) :
    Traced setup (moments ++ [⟨now, cancelled, duo, .answer answer⟩])
      ⟨⟨duo.session.window, phase⟩, none, mailbox, reader⟩ := by
  have wider : moments ⊆ moments ++ [⟨now, cancelled, duo, .answer answer⟩] :=
    List.subset_append_left ..
  have handover := Session.handover_of_turn turn sound.isPresent
  obtain ⟨readers, subset⟩ := exchange?_cases exchanged
  constructor
  · intro worker item works holds
    rcases readers with rfl | rfl | ⟨stream, rfl⟩
    · exact (traced.in_hand worker item works holds).mono wider
    · cases works
    · cases works
      cases holds
  · intro worker last works delivers
    rcases readers with rfl | rfl | ⟨stream, rfl⟩
    · have known := traced.delivered worker last works delivers
      exact ⟨known.1.mono wider, known.2⟩
    · cases works
    · cases works
      cases delivers
  · intro message member
    exact (traced.received message (subset message member)).mono wider
  · intro worker layer works finished both
    change phase.holding = .both layer at both
    rw [both] at handover
    have kept := traced.finished worker layer
    generalize Session.outcome? duo.session.phase answer = outcome at handover
    generalize holds : duo.session.phase.holding = holding at handover kept
    cases handover with
    | started =>
        have fits := sound.fits
        rw [holds] at fits
        rcases readers with rfl | rfl | ⟨stream, rfl⟩
        · cases fits.2.symm.trans works
        · cases works
        · cases works
          cases finished
    | attends plain =>
        have same := (exchange?_keeps exchanged (by grind [Answer.isPlain])
          (by grind [Answer.isPlain])).1
        rcases kept (same ▸ works) finished rfl with waiting | ⟨moment, member, seen⟩
        · rcases plain with plain | ⟨kind, rfl⟩
          · obtain ⟨rfl, _⟩ := exchange?_plain plain exchanged
            exact .inl waiting
          · exact .inl (lastMessage_of_edit asks turn exchanged waiting)
        · exact .inr ⟨moment, wider member, seen⟩
  · intro layer outcome ending holds leads
    change phase.holding = _ ∨ phase.holding = _ at holds
    have reason : ∀ {outcome}, Session.outcome? duo.session.phase answer = some outcome →
        endingOf? outcome = some ending → Reason setup _ ending :=
      traced.reason sound sticky asks admitted turn exchanged
    have unwinding := traced.unwinding layer outcome ending
    generalize Session.outcome? duo.session.phase answer = ended at handover reason
    generalize duo.session.phase.holding = holding at handover unwinding
    rcases holds with stopping | cleaning
    · rw [stopping] at handover
      cases handover with
      | left plain => exact reason rfl leads
    · rw [cleaning] at handover
      cases handover with
      | failed plain => exact reason rfl leads
      | stopped => exact (unwinding (.inl rfl) leads).mono wider
  · rintro ending rfl
    exact traced.answered_ended sound sticky asks admitted turn exchanged

theorem Traced.step (traced : Traced setup moments duo) (sound : duo.IsSound)
    (sticky : (∃ moment ∈ moments, moment.cancelled = true) → cancelled = true)
    (change : Change setup now cancelled duo act next) :
    Traced setup (moments ++ [⟨now, cancelled, duo, act⟩]) next := by
  have wider : moments ⊆ moments ++ [⟨now, cancelled, duo, act⟩] := List.subset_append_left ..
  have here : (⟨now, cancelled, duo, act⟩ : Moment) ∈ moments ++ [⟨now, cancelled, duo, act⟩] := by
    simp
  cases change with
  | begun asks fresh clear => exact (traced.begun asks).mono wider
  | answered asks admitted turn exchanged =>
      exact traced.answered sound sticky asks admitted turn exchanged
  | took works taken => exact (traced.mono wider).took ⟨_, here, rfl⟩ taken
  | passed works taken =>
      exact (traced.mono wider).passed sound works (Reader.passing_of_pass? taken)
  | quit works taken => exact (traced.mono wider).quit sound works (fun seen => ⟨_, here, seen⟩) taken

theorem opens_of_opensWindow {moment : Moment} (opens : opensWindow setup moment = true) :
    moment.opens setup = true := by
  unfold opensWindow at opens
  unfold Moment.opens
  split at opens
  next call => rw [call]
  next => cases opens

theorem idle_of_opensWindow {moment : Moment} (opens : opensWindow setup moment = true)
    (change : Change setup moment.now moment.cancelled moment.duo moment.act next) :
    next.session.phase.holding = .nothing ∧ next.session.hasEnded = false := by
  have idle := holding_of_opens (opens_of_opensWindow opens)
  obtain ⟨now, cancelled, duo, act⟩ := moment
  cases change with
  | @begun request asks fresh clear =>
      rw [session_begin]
      refine ⟨idle, ?_⟩
      unfold Session.hasEnded
      split
      next ending phase =>
        have ended : duo.session.phase = .ended ending := phase
        simp [Session.request?, ended] at asks
      next => rfl
  | answered | took | passed | quit => cases opens

def recent (setup : Setup) (moments : List Moment) : List Moment :=
  since (opensWindow setup) moments

theorem Run.traced {window : Window} (run : Run setup window moments duo) :
    Traced setup (recent setup moments) duo := by
  induction run with
  | start =>
      refine traced_of_idle (isSound_start setup window) ?_ ?_ _
      all_goals
        unfold Duo.start Session.start
        split <;> rfl
  | @step moments duo next now cancelled act earlier later taken traced =>
      have change := change_of_step? taken
      rw [recent, since_concat]
      split
      next opens =>
        obtain ⟨idle, goesOn⟩ := idle_of_opensWindow opens change
        exact traced_of_idle (earlier.isSound.step change) idle goesOn _
      next =>
        refine traced.step earlier.isSound ?_ change
        rintro ⟨moment, member, seen⟩
        exact (later moment (since_subset _ _ member)).2 seen

end

end Duo
end LiveHighlight
