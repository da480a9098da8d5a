import LiveHighlight.Proofs.Session.Changes

/-!
What a session holds, and how it passes from phase to phase.

For its layer and its reader a session knows five conditions. `Handover` lists the ways between
them, and `IsSound` ties mailbox and reader to them; every change keeps it.
-/

namespace LiveHighlight

namespace Session

inductive Holding where
  | nothing
  | layer (layer : StyleLayer)
  /-- A layer, and a reader whose messages are received. -/
  | both (layer : StyleLayer)
  | stopping (layer : StyleLayer) (outcome : Outcome)
  | cleaning (layer : StyleLayer) (outcome : Outcome)

def Holding.layer? : Holding → Option StyleLayer
  | nothing => none
  | layer held | both held | stopping held _ | cleaning held _ => some held

def Phase.holding : Phase → Holding
  | .highlighting _ layer (.initial _) _ | .startingReader _ layer _ => .layer layer
  | .highlighting _ layer (.debounced _) _ | .watching _ layer _ => .both layer
  | .stoppingReader _ layer outcome => .stopping layer outcome
  | .cleaning _ layer outcome => .cleaning layer outcome
  | _ => .nothing

def Answer.isPlain : Answer → Bool
  | .reply (.layer _) | .readerStarted | .readerStopped | .received _ => false
  | _ => true

/-- What a session holds before and after an answer, and the outcome if the answer ended an
attempt. -/
inductive Handover (window : WindowId) : Holding → Answer → Option Outcome → Holding → Prop
  | idle {answer outcome} (plain : answer.isPlain = true) :
      Handover window .nothing answer outcome .nothing
  | acquired {key} : Handover window
      .nothing (.reply (.layer key)) none (.layer (.acquired window key))
  | works {layer answer} (plain : answer.isPlain = true) :
      Handover window (.layer layer) answer none (.layer layer)
  | started {layer} : Handover window (.layer layer) .readerStarted none (.both layer)
  | attends {layer answer}
      (plain : answer.isPlain = true ∨ ∃ kind, answer = .received (.edit kind)) :
      Handover window (.both layer) answer none (.both layer)
  | failed {layer answer outcome} (plain : answer.isPlain = true) :
      Handover window (.layer layer) answer (some outcome) (.cleaning layer outcome)
  | left {layer answer outcome}
      (plain : answer.isPlain = true ∨ ∃ message, answer = .received message) :
      Handover window (.both layer) answer (some outcome) (.stopping layer outcome)
  | stopped {layer outcome} : Handover window
      (.stopping layer outcome) .readerStopped none (.cleaning layer outcome)
  | cleaned {layer outcome answer} (settles : answer.settlesCleanup = true) : Handover window
      (.cleaning layer outcome) answer none .nothing

@[simp]
theorem holding_afterAttempt (attempt : Attempt) (outcome : Outcome) :
    (afterAttempt attempt outcome).holding = .nothing := by
  cases outcome <;> rfl

theorem finishAttempt_present (attempt : Attempt) {layer : StyleLayer} (outcome : Outcome)
    (present : layer.isPresent = true) :
    finishAttempt attempt layer outcome = .cleaning attempt layer outcome := by
  simp [finishAttempt, present]

theorem Phase.eq_stoppingReader {phase : Phase} {layer : StyleLayer} {outcome : Outcome}
    (holds : phase.holding = .stopping layer outcome) :
    ∃ attempt, phase = .stoppingReader attempt layer outcome := by
  unfold holding at holds
  split at holds <;> simp_all

theorem Phase.eq_cleaning {phase : Phase} {layer : StyleLayer} {outcome : Outcome}
    (holds : phase.holding = .cleaning layer outcome) :
    ∃ attempt, phase = .cleaning attempt layer outcome := by
  unfold holding at holds
  split at holds <;> simp_all

theorem request?_eq_stopReader_iff (setup : Setup) (session : Session) :
    session.request? setup = some .stopReader ↔
      ∃ attempt layer outcome, session.phase = .stoppingReader attempt layer outcome := by
  unfold request?
  split <;> simp_all

variable {setup : Setup} {window : WindowId} {now : Nat} {phase later : Phase} {answer : Answer}

theorem handover_of_outcome? {outcome : Outcome} (reason : outcome? phase answer = some outcome)
    (present : ∀ layer, phase.holding.layer? = some layer → layer.isPresent = true) :
    Handover window phase.holding answer (some outcome) (unwound outcome phase).holding := by
  unfold outcome? at reason
  split at reason
  case h_1 | h_2 | h_3 | h_8 | h_9 | h_10 =>
    simp only [unwound, holding_afterAttempt]
    exact .idle rfl
  case h_4 attempt layer round _ | h_5 attempt layer round _ _ | h_11 attempt layer round _ =>
    cases round with
    | initial stream =>
        simp only [unwound, abandon, finishAttempt_present attempt outcome (present layer rfl)]
        exact .failed rfl
    | debounced debouncer => exact .left (.inl rfl)
  case h_6 | h_7 => exact .left (.inr ⟨_, rfl⟩)
  case h_12 => exact .left (.inl rfl)
  case h_13 => cases reason

theorem handover_of_turn (turn : Turn setup window now phase answer later)
    (present : ∀ layer, phase.holding.layer? = some layer → layer.isPresent = true) :
    Handover window phase.holding answer (outcome? phase answer) later.holding := by
  cases turn with
  | lineRead =>
      unfold identified
      split <;> exact .idle rfl
  | @lineFailed step backoff error asks =>
      cases error <;> exact .idle rfl
  | @textRead attempt layer round text =>
      cases round with
      | initial stream => exact .works rfl
      | debounced debouncer => exact .attends (.inl rfl)
  | @annotated attempt layer round text captures =>
      cases round with
      | initial stream => exact .works rfl
      | debounced debouncer => exact .attends (.inl rfl)
  | @applied attempt layer round spans =>
      cases round with
      | initial stream => exact .works rfl
      | debounced debouncer => exact .attends (.inl rfl)
  | unwound reason => exact reason ▸ handover_of_outcome? reason present
  | @readerStopped attempt layer outcome =>
      rw [finishAttempt_present attempt outcome (present layer rfl)]
      exact .stopped
  | cleaned settles =>
      rw [holding_afterAttempt]
      exact .cleaned settles
  | acquired => exact .acquired
  | readerStarted => exact .started
  | fired => exact .attends (.inl rfl)
  | edited => exact .attends (.inr ⟨_, rfl⟩)
  | lineOpened | lineDrawn | lineSlept | lineCancelled | opened | subscribed | drawn | slept
  | sleepCancelled => exact .idle rfl

theorem outcome?_of_reader_answer (phase : Phase) {answer : Answer}
    (ofReader : answer = .readerStarted ∨ answer = .readerStopped) : outcome? phase answer = none := by
  rcases ofReader with rfl | rfl
  all_goals unfold outcome?; split <;> simp_all

theorem startingReader_of_turn (turn : Turn setup window now phase .readerStarted later) :
    ∃ attempt layer stream, phase = .startingReader attempt layer stream := by
  cases turn with
  | readerStarted => exact ⟨_, _, _, rfl⟩
  | unwound reason => simp [outcome?_of_reader_answer phase (.inl rfl)] at reason
  | cleaned settles => cases settles

theorem stoppingReader_of_turn (turn : Turn setup window now phase .readerStopped later) :
    ∃ attempt layer outcome, phase = .stoppingReader attempt layer outcome := by
  cases turn with
  | readerStopped => exact ⟨_, _, _, rfl⟩
  | unwound reason => simp [outcome?_of_reader_answer phase (.inr rfl)] at reason
  | cleaned settles => cases settles

theorem watching_of_turn {message : Message}
    (turn : Turn setup window now phase (.received message) later) :
    ∃ attempt layer debouncer, phase = .watching attempt layer debouncer := by
  cases turn with
  | edited => exact ⟨_, _, _, rfl⟩
  | unwound reason =>
      unfold outcome? at reason
      split at reason <;> simp_all
  | cleaned settles => cases settles

theorem Answer.isPlain_of_settlesCleanup {answer : Answer}
    (settles : answer.settlesCleanup = true) : answer.isPlain = true := by
  unfold settlesCleanup at settles
  split at settles <;> first | rfl | cases settles

end Session

namespace Duo

open Session (Answer Handover Holding Request Turn handover_of_turn request?_eq_stopReader_iff
  startingReader_of_turn stoppingReader_of_turn)

/-- A reader works where messages are received, and is there no longer once it has been stopped. -/
def Fits (duo : Duo) : Holding → Prop
  | .nothing | .layer _ | .cleaning _ _ => duo.mailbox = .shut ∧ duo.reader = none
  | .both _ => duo.mailbox.isOpen = true ∧
      ∃ reader, duo.reader = some reader ∧ reader.isStopped = false
  | .stopping _ _ => ∃ reader, duo.reader = some reader ∧
      (duo.begun.isSome = true → duo.mailbox.isOpen = false ∧ reader.isStopped = true)

structure IsSound (duo : Duo) : Prop where
  layer_held : ∀ layer, duo.session.phase.holding.layer? = some layer →
    ∃ key, layer = .acquired duo.session.window.id key
  fits : duo.Fits duo.session.phase.holding
  in_hand : ∀ reader, duo.reader = some reader → reader.hand.isSome = true →
    reader.phase = .awaiting

theorem isSound_start (setup : Setup) (window : Window) : (start setup window).IsSound := by
  unfold start Session.start
  split <;> exact ⟨fun layer held => by simp [Session.Phase.holding, Holding.layer?] at held,
    ⟨rfl, rfl⟩, by simp⟩

variable {setup : Setup} {now : Nat} {cancelled : Bool} {duo next : Duo} {act : Act}

theorem IsSound.isPresent (sound : duo.IsSound) (layer : StyleLayer)
    (held : duo.session.phase.holding.layer? = some layer) : layer.isPresent = true := by
  obtain ⟨key, rfl⟩ := sound.layer_held layer held
  rfl

theorem IsSound.begun (sound : duo.IsSound) {request : Request}
    (asks : duo.session.request? setup = some request) : (duo.begin now request).IsSound := by
  have fits := sound.fits
  by_cases stops : request = .stopReader
  · subst stops
    obtain ⟨attempt, layer, outcome, phase⟩ := (request?_eq_stopReader_iff ..).mp asks
    rw [phase] at fits
    obtain ⟨reader, works, _⟩ := fits
    refine ⟨sound.layer_held, ?_, ?_⟩
    · simp only [begin, phase]
      exact ⟨reader.stop, by rw [works]; rfl, fun _ => ⟨rfl, rfl⟩⟩
    · intro stopped same holds
      simp only [begin, works, Option.map_some, Option.some.injEq] at same
      subst same
      exact sound.in_hand reader works holds
  · rw [begin_of_ne_stopReader duo now stops]
    refine ⟨sound.layer_held, ?_, sound.in_hand⟩
    show Fits _ duo.session.phase.holding
    cases holds : duo.session.phase.holding with
    | stopping layer outcome =>
        obtain ⟨attempt, phase⟩ := Session.Phase.eq_stoppingReader holds
        have stopping := (request?_eq_stopReader_iff setup _).mpr ⟨_, _, _, phase⟩
        exact absurd (Option.some.inj (asks.symm.trans stopping)) stops
    | nothing | layer _ | cleaning _ _ | both _ =>
        rw [holds] at fits
        exact fits

theorem IsSound.worked (sound : duo.IsSound) {mailbox : Mailbox} {reader worker : Reader}
    (works : duo.reader = some reader) (stillOpen : mailbox.isOpen = duo.mailbox.isOpen)
    (stillStopped : worker.isStopped = reader.isStopped)
    (in_hand : worker.hand.isSome = true → worker.phase = .awaiting) :
    IsSound { duo with mailbox := mailbox, reader := some worker } := by
  refine ⟨sound.layer_held, ?_, fun _ same => Option.some.inj same ▸ in_hand⟩
  have fits := sound.fits
  show Fits _ duo.session.phase.holding
  cases holds : duo.session.phase.holding with
  | nothing | layer _ | cleaning _ _ =>
      rw [holds] at fits
      rw [fits.2] at works
      cases works
  | both _ =>
      rw [holds] at fits
      obtain ⟨receives, same, at_work, running⟩ := fits
      rw [works] at at_work
      cases at_work
      exact ⟨stillOpen.trans receives, worker, rfl, stillStopped.trans running⟩
  | stopping _ _ =>
      rw [holds] at fits
      obtain ⟨same, at_work, stopped⟩ := fits
      rw [works] at at_work
      cases at_work
      exact ⟨worker, rfl, fun begun => ⟨stillOpen.trans (stopped begun).1,
        stillStopped.trans (stopped begun).2⟩⟩

theorem exchange?_plain {request : Request} {answer : Answer} {mailbox : Mailbox}
    {reader : Option Reader} (plain : answer.isPlain = true)
    (exchanged : duo.exchange? request answer = some (mailbox, reader)) :
    mailbox = duo.mailbox ∧ reader = duo.reader := by
  rw [exchange?_other (by rintro rfl; cases plain) (by rintro _ rfl; cases plain)
    (by rintro rfl; cases plain)] at exchanged
  simp_all

theorem IsSound.answered (sound : duo.IsSound) {request : Request} {answer : Answer}
    {phase : Session.Phase} {mailbox : Mailbox} {reader : Option Reader}
    (asks : duo.session.request? setup = some request)
    (turn : Turn setup duo.session.window.id now duo.session.phase answer phase)
    (exchanged : duo.exchange? request answer = some (mailbox, reader)) :
    IsSound ⟨⟨duo.session.window, phase⟩, none, mailbox, reader⟩ := by
  have handover := handover_of_turn turn sound.isPresent
  obtain ⟨layer_held, fits, in_hand⟩ := sound
  suffices keeps : (∀ layer, phase.holding.layer? = some layer →
      ∃ key, layer = .acquired duo.session.window.id key) ∧
      Fits ⟨⟨duo.session.window, phase⟩, none, mailbox, reader⟩ phase.holding ∧
      ∀ worker, reader = some worker → worker.hand.isSome = true → worker.phase = .awaiting from
    ⟨keeps.1, keeps.2.1, keeps.2.2⟩
  generalize before : duo.session.phase.holding = holding at handover layer_held fits
  generalize Session.outcome? duo.session.phase answer = outcome at handover
  generalize phase.holding = later at handover ⊢
  cases handover with
  | idle plain | works plain | failed plain =>
      obtain ⟨rfl, rfl⟩ := exchange?_plain plain exchanged
      exact ⟨layer_held, fits, in_hand⟩
  | cleaned settles =>
      obtain ⟨rfl, rfl⟩ := exchange?_plain (Answer.isPlain_of_settlesCleanup settles) exchanged
      exact ⟨by simp [Holding.layer?], fits, in_hand⟩
  | acquired =>
      rw [exchange?_other (by simp) (by simp) (by simp)] at exchanged
      simp only [Option.some.injEq, Prod.mk.injEq] at exchanged
      obtain ⟨rfl, rfl⟩ := exchanged
      exact ⟨fun layer held => ⟨_, (Option.some.inj held).symm⟩, fits, in_hand⟩
  | started =>
      obtain ⟨attempt, layer, stream, at_start⟩ := startingReader_of_turn turn
      simp only [Session.request?, at_start, Option.some.injEq] at asks
      subst asks
      simp only [exchange?, Option.some.injEq, Prod.mk.injEq] at exchanged
      obtain ⟨rfl, rfl⟩ := exchanged
      exact ⟨layer_held, ⟨rfl, _, rfl, rfl⟩, fun worker same => by cases same; simp [Reader.ofStream]⟩
  | attends plain =>
      have kept := exchange?_keeps exchanged (by grind [Answer.isPlain])
        (by grind [Answer.isPlain])
      obtain ⟨rfl, stillOpen, _⟩ := kept
      exact ⟨layer_held, ⟨stillOpen.trans fits.1, fits.2⟩, in_hand⟩
  | left plain =>
      have kept := exchange?_keeps exchanged (by grind [Answer.isPlain])
        (by grind [Answer.isPlain])
      obtain ⟨rfl, _⟩ := kept
      obtain ⟨_, worker, works, _⟩ := fits
      exact ⟨layer_held, ⟨worker, works, by simp⟩, in_hand⟩
  | stopped =>
      obtain ⟨attempt, layer, outcome, stopping⟩ := stoppingReader_of_turn turn
      rw [(request?_eq_stopReader_iff setup duo.session).mpr ⟨_, _, _, stopping⟩] at asks
      cases asks
      simp only [exchange?] at exchanged
      split at exchanged
      next =>
        simp only [Option.some.injEq, Prod.mk.injEq] at exchanged
        obtain ⟨rfl, rfl⟩ := exchanged
        exact ⟨layer_held, ⟨rfl, rfl⟩, by simp⟩
      next => cases exchanged

theorem IsSound.step (sound : duo.IsSound) (change : Change setup now cancelled duo act next) :
    next.IsSound := by
  cases change with
  | begun asks fresh clear => exact sound.begun asks
  | answered asks admitted turn exchanged => exact sound.answered asks turn exchanged
  | took works taken =>
      obtain ⟨⟨awaits, _⟩, rfl⟩ := Reader.take?_eq_some_iff.mp taken
      exact sound.worked works rfl rfl fun _ => awaits
  | passed works taken =>
      have passing := Reader.passing_of_pass? taken
      exact sound.worked works passing.keeps.1 passing.keeps.2.1
        fun holds => absurd passing.hand (by simp [Option.isSome_iff_ne_none.mp holds])
  | quit works taken =>
      obtain ⟨⟨_, empty, _⟩, rfl⟩ := Reader.quit?_eq_some_iff.mp taken
      exact sound.worked works rfl rfl fun holds => absurd empty (Option.isSome_iff_ne_none.mp holds)

theorem IsSound.goesOn (sound : duo.IsSound) (change : Change setup now cancelled duo act next) :
    duo.session.hasEnded = false := by
  obtain ⟨⟨window, phase⟩, begun, mailbox, reader⟩ := duo
  cases phase with
  | ended ending =>
      obtain ⟨_, none⟩ : mailbox = .shut ∧ reader = none := sound.fits
      cases change with
      | begun asks => cases asks
      | answered asks => cases asks
      | took works | passed works | quit works => cases none.symm.trans works
  | _ => rfl

theorem Change.session_window (change : Change setup now cancelled duo act next) :
    next.session.window = duo.session.window := by
  cases change with
  | @begun request asks =>
      unfold begin
      split <;> rfl
  | answered | took | passed | quit => rfl

end Duo
end LiveHighlight
