import LiveHighlight.Proofs.Session.Unwinding

/-!
Cancellation.

What a session and its reader can do without their collaborators they do at once: time passes only
while both wait. Once everything is cancelled, that leads a session to its end in a few acts. The
only call it still begins is one cleanup call, and only that call takes time.
-/

namespace LiveHighlight

open Session (Answer Outcome Phase Request Turn)

/-! ### What is left to do -/

namespace Session

/-- The turns that a session still takes once everything is cancelled. -/
inductive LastTurn (setup : Setup) : Phase → Answer → Phase → Prop
  | lineDrawn {backoff nanos} : LastTurn setup
      (.identifying .drawing backoff) (.delay nanos)
      (.identifying (.sleeping nanos) backoff.advance)
  | lineCancelled {step backoff} (waits : step ≠ .drawing) : LastTurn setup
      (.identifying step backoff) .cancelled (.ended .cancelled)
  | unwound {phase} (reason : outcome? phase .cancelled = some .cancelled) :
      LastTurn setup phase .cancelled (unwound .cancelled phase)
  | readerStarted {attempt layer stream} : LastTurn setup
      (.startingReader attempt layer stream) .readerStarted
      (.watching attempt layer (.disarmed setup.settings.debounce))
  | readerStopped {attempt layer outcome} : LastTurn setup
      (.stoppingReader attempt layer outcome) .readerStopped (finishAttempt attempt layer outcome)
  | cleaned {attempt layer outcome answer} (settles : answer.settlesCleanup = true) :
      LastTurn setup (.cleaning attempt layer outcome) answer (afterAttempt attempt outcome)
  | drawn {attempt nanos} : LastTurn setup
      (.drawing attempt) (.delay nanos)
      (.sleeping { attempt with backoff := attempt.backoff.advance } nanos)
  | sleepCancelled {attempt delay} : LastTurn setup
      (.sleeping attempt delay) .cancelled (.ended .cancelled)

/-- How many acts a session has left, at most, once everything is cancelled. -/
def Phase.leftover (begun : Bool) : Phase → Nat
  | .identifying .drawing _ | .drawing _ => if begun then 2 else 3
  | .identifying _ _ | .opening _ | .subscribing _ | .acquiring _ _ | .sleeping _ _ => 1
  | .cleaning _ _ _ => if begun then 4 else 5
  | .highlighting _ _ (.initial _) _ => 6
  | .stoppingReader _ _ _ => if begun then 6 else 7
  | .highlighting _ _ (.debounced _) _ | .watching _ _ _ => 8
  | .startingReader _ _ _ => if begun then 10 else 11
  | .ended _ => 0

theorem outcome?_cancelled {phase : Phase} {outcome : Outcome}
    (ends : outcome? phase .cancelled = some outcome) : outcome = .cancelled := by
  unfold outcome? at ends
  split at ends <;> simp_all

variable {setup : Setup} {window : WindowId} {now : Nat} {phase later : Phase} {answer : Answer}

theorem lastTurn_of_cancelled (turn : Turn setup window now phase .cancelled later) :
    LastTurn setup phase .cancelled later := by
  cases turn with
  | lineCancelled waits => exact .lineCancelled waits
  | unwound reason =>
      obtain rfl := outcome?_cancelled reason
      exact .unwound reason
  | cleaned settles => cases settles
  | sleepCancelled => exact .sleepCancelled

theorem lastTurn_of_uncancellable {session : Session} {request : Request}
    (asks : session.request? setup = some request) (stays : request.isCancellable = false)
    (turn : Turn setup window now session.phase answer later) :
    LastTurn setup session.phase answer later := by
  obtain ⟨window, phase⟩ := session
  cases phase with
  | identifying step backoff =>
      cases step <;> cases asks <;> cases stays
      cases turn with
      | lineFailed asks => simp at asks
      | lineDrawn => exact .lineDrawn
      | lineCancelled waits => exact .lineCancelled waits
      | unwound reason => cases reason
  | opening | subscribing | acquiring | watching | sleeping => cases asks; cases stays
  | highlighting attempt layer round step =>
      cases step with
      | reading | annotating text => cases asks; cases stays
      | applying spans =>
          simp only [request?, StyleLayer.applyCall?, Option.map_map,
            Option.map_eq_some_iff] at asks
          obtain ⟨key, _, rfl⟩ := asks
          cases stays
  | startingReader attempt layer stream =>
      cases turn with
      | readerStarted => exact .readerStarted
      | unwound reason => cases reason
  | stoppingReader attempt layer outcome =>
      cases turn with
      | readerStopped => exact .readerStopped
      | unwound reason => cases reason
  | cleaning attempt layer outcome =>
      cases turn with
      | cleaned settles => exact .cleaned settles
      | unwound reason => cases reason
  | drawing attempt =>
      cases turn with
      | drawn => exact .drawn
      | unwound reason => cases reason
  | ended ending => cases asks

theorem leftover_afterAttempt (attempt : Attempt) (outcome : Outcome) :
    (afterAttempt attempt outcome).leftover false ≤ 3 := by
  cases outcome <;> simp [afterAttempt, Phase.leftover]

theorem leftover_finishAttempt (attempt : Attempt) (layer : StyleLayer) (outcome : Outcome) :
    (finishAttempt attempt layer outcome).leftover false ≤ 5 := by
  unfold finishAttempt
  split
  next => simp [Phase.leftover]
  next => exact Nat.le_trans (leftover_afterAttempt attempt outcome) (by omega)

theorem leftover_unwound (reason : outcome? phase .cancelled = some .cancelled) (begun : Bool) :
    (unwound .cancelled phase).leftover false < phase.leftover begun := by
  cases phase with
  | opening | subscribing | acquiring => exact Nat.zero_lt_one
  | highlighting attempt layer round step =>
      cases round with
      | initial stream => exact Nat.lt_succ_of_le (leftover_finishAttempt attempt layer .cancelled)
      | debounced debouncer => exact Nat.lt_succ_self 7
  | watching => exact Nat.lt_succ_self 7
  | _ => cases reason

theorem LastTurn.leftover (turn : LastTurn setup phase answer later) (begun : Bool)
    (waited : answer = .cancelled ∨ begun = true) :
    later.leftover false < phase.leftover begun ∧
      (answer = .readerStarted → later.leftover false + 1 < phase.leftover begun) := by
  cases turn with
  | unwound reason => exact ⟨leftover_unwound reason begun, by simp⟩
  | @lineCancelled step backoff waits => cases step <;> simp_all [Phase.leftover]
  | @readerStopped attempt layer outcome =>
      obtain rfl : begun = true := by simpa using waited
      exact ⟨Nat.lt_succ_of_le (leftover_finishAttempt attempt layer outcome), by simp⟩
  | @cleaned attempt layer outcome answer settles =>
      obtain rfl : begun = true := waited.resolve_left (by rintro rfl; cases settles)
      exact ⟨Nat.lt_succ_of_le (leftover_afterAttempt attempt outcome),
        by rintro rfl; cases settles⟩
  | lineDrawn | readerStarted | drawn | sleepCancelled => simp_all [Phase.leftover]

end Session

/-- How many acts a reader has left, at most, once its wait for the stream is over. -/
def Reader.leftover (reader : Reader) : Nat :=
  match reader.phase, reader.hand with
  | .finished, _ => 0
  | .awaiting, some _ => 2
  | .awaiting, none | .delivering _, _ => 1

theorem Reader.leftover_le (reader : Reader) : reader.leftover ≤ 2 := by
  unfold leftover
  split <;> decide

theorem Reader.Passing.leftover_lt {mailbox later : Mailbox} {reader next : Reader}
    (passing : Passing mailbox reader later next) : next.leftover < reader.leftover := by
  cases passing with
  | edit awaits holds =>
      unfold leftover
      rw [awaits, holds]
      cases mailbox.isOpen <;> simp
  | failed awaits holds | ended awaits holds => simp [leftover, awaits, holds]
  | delivered delivers | refused delivers => simp [leftover, delivers]

theorem Reader.moves_of_stopped {mailbox : Mailbox} {reader : Reader}
    (in_hand : reader.hand.isSome = true → reader.phase = .awaiting)
    (deaf : mailbox.isOpen = false) (stopped : reader.isStopped = true)
    (busy : reader.isFinished = false) :
    (reader.pass? mailbox).isSome = true ∨
      ∀ cancelled, (reader.quit? cancelled).isSome = true := by
  cases holds : reader.hand with
  | some item =>
      have awaits := in_hand (by simp [holds])
      left
      cases item <;> simp [pass?, holds, awaits, step?]
  | none =>
      cases phase : reader.phase with
      | awaiting => exact .inr (by simp [quit?, holds, phase, isDismissed, stopped, step?])
      | delivering last => exact .inl (by simp [pass?, holds, phase, deaf, step?])
      | finished => simp [isFinished, phase] at busy

namespace Duo

def leftover (duo : Duo) : Nat :=
  duo.session.phase.leftover duo.begun.isSome + duo.reader.elim 0 Reader.leftover

theorem leftover_le (duo : Duo) : duo.leftover ≤ 13 := by
  obtain ⟨⟨window, phase⟩, begun, mailbox, reader⟩ := duo
  have ofSession : phase.leftover begun.isSome ≤ 11 := by
    unfold Phase.leftover
    split <;> grind
  have ofReader : reader.elim 0 Reader.leftover ≤ 2 := by
    cases reader with
    | none => exact Nat.zero_le 2
    | some reader => exact reader.leftover_le
  exact Nat.add_le_add ofSession ofReader

section

variable {setup : Setup} {now : Nat} {duo next : Duo} {act : Act}

theorem lastTurn_of_answered {request : Request} {answer : Answer} {phase : Phase}
    (asks : duo.session.request? setup = some request)
    (admitted : duo.admits now true request answer = true)
    (turn : Turn setup duo.session.window.id now duo.session.phase answer phase) :
    Session.LastTurn setup duo.session.phase answer phase ∧
      (answer = .cancelled ∨ duo.begun.isSome = true) := by
  by_cases stops : answer = .cancelled
  · subst stops
    exact ⟨Session.lastTurn_of_cancelled turn, .inl rfl⟩
  · obtain ⟨since, begun, _⟩ := begun_of_admits stops admitted
    simp only [admits, if_neg stops, isPreempted, Bool.true_and, Bool.and_eq_true,
      Bool.not_eq_eq_eq_not, Bool.not_true] at admitted
    exact ⟨Session.lastTurn_of_uncancellable asks admitted.1 turn, .inr (by simp [begun])⟩

theorem leftover_begun {request : Request} (asks : duo.session.request? setup = some request)
    (stays : request.isCancellable = false) :
    duo.session.phase.leftover true < duo.session.phase.leftover false := by
  obtain ⟨⟨window, phase⟩, begun, mailbox, reader⟩ := duo
  cases phase with
  | identifying step backoff => cases step <;> cases asks <;> cases stays; exact Nat.lt_succ_self 2
  | opening | subscribing | acquiring | watching | sleeping => cases asks; cases stays
  | highlighting attempt layer round step =>
      obtain ⟨owner, held⟩ := layer
      cases step <;> cases held <;> cases asks <;> cases stays
  | startingReader => exact Nat.lt_succ_self 10
  | stoppingReader => exact Nat.lt_succ_self 6
  | cleaning => exact Nat.lt_succ_self 4
  | drawing => exact Nat.lt_succ_self 2
  | ended => cases asks

theorem leftover_begin_reader (duo : Duo) (now : Nat) (request : Request) :
    (duo.begin now request).reader.elim 0 Reader.leftover =
      duo.reader.elim 0 Reader.leftover := by
  obtain ⟨session, begun, mailbox, reader⟩ := duo
  cases request <;> cases reader <;> rfl

theorem leftover_exchanged {request : Request} {answer : Answer} {mailbox : Mailbox}
    {reader : Option Reader} (exchanged : duo.exchange? request answer = some (mailbox, reader)) :
    reader.elim 0 Reader.leftover ≤
      duo.reader.elim 0 Reader.leftover + if answer = .readerStarted then 1 else 0 := by
  unfold exchange? at exchanged
  split at exchanged
  next =>
    cases exchanged
    exact Nat.le_add_left 1 _
  next =>
    obtain ⟨_, _, same⟩ := Option.map_eq_some_iff.mp exchanged
    cases same
    exact Nat.le_add_right _ _
  next =>
    split at exchanged
    next =>
      cases exchanged
      exact Nat.zero_le _
    next => cases exchanged
  next =>
    cases exchanged
    exact Nat.le_add_right _ _

theorem Change.leftover_lt (change : Change setup now true duo act next) :
    next.leftover < duo.leftover := by
  unfold leftover
  cases change with
  | @begun request asks fresh clear =>
      have fewer := leftover_begun asks (by simpa [isPreempted] using clear)
      rw [session_begin, begun_begin, leftover_begin_reader, fresh]
      exact Nat.add_lt_add_right fewer _
  | @answered request answer phase mailbox reader asks admitted turn exchanged =>
      obtain ⟨lastTurn, waited⟩ := lastTurn_of_answered asks admitted turn
      obtain ⟨fewer, fewest⟩ := lastTurn.leftover duo.begun.isSome waited
      have kept := leftover_exchanged exchanged
      simp only [Option.isSome_none]
      split at kept
      next starts =>
        have := fewest starts
        omega
      next => omega
  | took works taken =>
      obtain ⟨⟨_, _, goesOn⟩, _⟩ := Reader.take?_eq_some_iff.mp taken
      simp [Reader.isDismissed] at goesOn
  | passed works taken =>
      rw [works]
      exact Nat.add_lt_add_left (Reader.passing_of_pass? taken).leftover_lt _
  | quit works taken =>
      obtain ⟨⟨awaits, empty, _⟩, rfl⟩ := Reader.quit?_eq_some_iff.mp taken
      rw [works]
      refine Nat.add_lt_add_left ?_ _
      simp [Reader.leftover, awaits, empty]

end

end Duo

/-! ### The cleanup call -/

namespace Session

/-- The cleanup calls that a session may still begin once everything is cancelled: none if no layer
is held or such a call is under way. -/
def Holding.cleanupsLeft : Holding → Option Nat → Nat
  | .nothing, _ | .cleaning _ _, some _ => 0
  | _, _ => 1

/-- The instant by which a session has ended if everything is cancelled by now. -/
def Holding.lastInstant (now : Nat) : Holding → Option Nat → Nat
  | .nothing, _ => now
  | .cleaning _ _, some since => max now (since + StyleLayer.cleanupLimit)
  | _, _ => now + StyleLayer.cleanupLimit

theorem Holding.le_lastInstant (now : Nat) (holding : Holding) (begun : Option Nat) :
    now ≤ holding.lastInstant now begun := by
  unfold lastInstant
  split <;> omega

theorem Handover.lastInstant_le {window : WindowId} {before after : Holding} {answer : Answer}
    {outcome : Option Outcome} (handover : Handover window before answer outcome after)
    (other : ∀ key, answer ≠ .reply (.layer key)) (now : Nat) (begun : Option Nat) :
    after.lastInstant now none ≤ before.lastInstant now begun ∧
      after.cleanupsLeft none ≤ before.cleanupsLeft begun := by
  cases handover with
  | acquired => exact absurd rfl (other _)
  | cleaned settles => exact ⟨Holding.le_lastInstant now _ begun, Nat.zero_le _⟩
  | _ => simp [Holding.lastInstant, Holding.cleanupsLeft]

end Session

namespace Duo

def calls (setup : Setup) (moments : List Moment) : List Call :=
  moments.filterMap (Moment.call? setup)

def cleanupsLeft (duo : Duo) : Nat :=
  duo.session.phase.holding.cleanupsLeft duo.begun

def lastInstant (now : Nat) (duo : Duo) : Nat :=
  duo.session.phase.holding.lastInstant now duo.begun

section

variable {setup : Setup} {now : Nat} {duo next : Duo} {act : Act}

theorem calls_concat (setup : Setup) (moments : List Moment) (moment : Moment) :
    calls setup (moments ++ [moment]) = calls setup moments ++ (moment.call? setup).toList := by
  cases found : moment.call? setup <;> simp [calls, List.filterMap_append, found]

theorem call?_begin {request : Request} (asks : duo.session.request? setup = some request) :
    Moment.call? setup ⟨now, true, duo, .begin⟩ =
      match request with
      | .call call => some call
      | _ => none := by
  unfold Moment.call? Moment.request?
  simp only [asks]
  cases request <;> rfl

theorem begun_of_cancelled {request : Request} (asks : duo.session.request? setup = some request)
    (stays : request.isCancellable = false) (fresh : duo.begun = none) :
    ((duo.begin now request).lastInstant now = duo.lastInstant now) ∧
      (Moment.call? setup ⟨now, true, duo, .begin⟩).toList.length +
        (duo.begin now request).cleanupsLeft = duo.cleanupsLeft ∧
      ∀ call, Moment.call? setup ⟨now, true, duo, .begin⟩ = some call → call.isCleanup = true := by
  rw [call?_begin asks]
  unfold lastInstant cleanupsLeft
  rw [session_begin, begun_begin, fresh]
  obtain ⟨⟨window, phase⟩, begun, mailbox, reader⟩ := duo
  cases phase with
  | identifying step backoff =>
      cases step <;> cases asks <;> cases stays
      exact ⟨rfl, rfl, by simp⟩
  | opening | subscribing | acquiring | watching | sleeping => cases asks; cases stays
  | highlighting attempt layer round step =>
      obtain ⟨owner, held⟩ := layer
      cases step <;> cases held <;> cases asks <;> cases stays
  | startingReader | stoppingReader | drawing =>
      cases asks
      exact ⟨rfl, rfl, by simp⟩
  | cleaning attempt layer outcome =>
      obtain ⟨owner, held⟩ := layer
      have whole : max now (now + StyleLayer.cleanupLimit) = now + StyleLayer.cleanupLimit :=
        Nat.max_eq_right (Nat.le_add_right ..)
      cases outcome <;> cases held <;> cases asks
      all_goals exact ⟨whole, rfl, fun call same => Option.some.inj same ▸ rfl⟩
  | ended => cases asks

theorem Change.winds_up (sound : duo.IsSound) (change : Change setup now true duo act next) :
    next.lastInstant now ≤ duo.lastInstant now ∧
      (Moment.call? setup ⟨now, true, duo, act⟩).toList.length + next.cleanupsLeft ≤
        duo.cleanupsLeft ∧
      ∀ call, Moment.call? setup ⟨now, true, duo, act⟩ = some call → call.isCleanup = true := by
  cases change with
  | @begun request asks fresh clear =>
      have stays : request.isCancellable = false := by simpa [isPreempted] using clear
      obtain ⟨same, fewer, cleans⟩ := begun_of_cancelled asks stays fresh
      exact ⟨Nat.le_of_eq same, Nat.le_of_eq fewer, cleans⟩
  | @answered request answer phase mailbox reader asks admitted turn exchanged =>
      obtain ⟨lastTurn, _⟩ := lastTurn_of_answered asks admitted turn
      have other : ∀ key, answer ≠ .reply (.layer key) := by
        rintro key rfl
        generalize duo.session.phase = before at lastTurn
        cases lastTurn with
        | cleaned settles => cases settles
      obtain ⟨sooner, fewer⟩ := (Session.handover_of_turn turn sound.isPresent).lastInstant_le
        other now duo.begun
      refine ⟨sooner, ?_, by simp [Moment.call?, Moment.request?]⟩
      simpa [Moment.call?, Moment.request?, cleanupsLeft] using fewer
  | took | passed | quit =>
      exact ⟨Nat.le_refl _, by simp [Moment.call?, Moment.request?, cleanupsLeft],
        by simp [Moment.call?, Moment.request?]⟩

end

/-! ### Prompt runs -/

def Act.isUnaided : Act → Bool
  | .answer (.reply _) | .take _ => false
  | _ => true

/-- Whether a session and its reader can only wait for the collaborators, or for time to pass. -/
def Waits (setup : Setup) (cancelled : Bool) (now : Nat) (duo : Duo) : Prop :=
  ∀ act : Act, act.isUnaided = true → duo.step? setup now cancelled act = none

/-- Runs from an instant on in which time passes only while there is nothing to do but wait. The
collaborators may reply with anything, at any time or never. -/
inductive Prompt (setup : Setup) (cancelled : Bool) (duo : Duo) (now : Nat) :
    List Moment → Duo → Nat → Prop
  | here : Prompt setup cancelled duo now [] duo now
  | act {moments between instant act next}
      (earlier : Prompt setup cancelled duo now moments between instant)
      (taken : between.step? setup instant cancelled act = some next) :
      Prompt setup cancelled duo now (moments ++ [⟨instant, cancelled, between, act⟩]) next instant
  | wait {moments between instant later}
      (earlier : Prompt setup cancelled duo now moments between instant) (ordered : instant ≤ later)
      (waits : ∀ moment, instant ≤ moment → moment < later →
        Waits setup cancelled moment between) :
      Prompt setup cancelled duo now moments between later

theorem prompt_of_replayFrom? {setup : Setup} {duo between final : Duo} {now instant : Nat}
    {moments later : List Moment} {acts : List Act}
    (earlier : Prompt setup true duo now moments between instant)
    (replayed : replayFrom? setup moments between (acts.map (⟨instant, true, ·⟩)) =
      some (later, final)) :
    Prompt setup true duo now later final instant := by
  induction acts generalizing moments between with
  | nil =>
      simp only [List.map_nil, replayFrom?, Option.some.injEq, Prod.mk.injEq] at replayed
      obtain ⟨rfl, rfl⟩ := replayed
      exact earlier
  | cons act acts ih =>
      simp only [List.map_cons, replayFrom?] at replayed
      split at replayed
      next =>
        split at replayed
        next => cases replayed
        next next taken => exact ih (earlier.act taken) replayed
      next => cases replayed

def IsFree (setup : Setup) (duo : Duo) : Prop :=
  ∃ act : Act, act.isUnaided = true ∧ ∀ now, (duo.step? setup now true act).isSome = true

section

variable {setup : Setup} {duo : Duo}

theorem Prompt.trans {cancelled : Bool} {between final : Duo} {now instant later : Nat}
    {before after : List Moment} (first : Prompt setup cancelled duo now before between instant)
    (second : Prompt setup cancelled between instant after final later) :
    Prompt setup cancelled duo now (before ++ after) final later := by
  induction second with
  | here => rwa [List.append_nil]
  | act earlier taken ih =>
      rw [← List.append_assoc]
      exact .act ih taken
  | wait earlier ordered waits ih => exact .wait ih ordered waits

theorem isFree_of_cancel {request : Request} {phase : Phase}
    (asks : duo.session.request? setup = some request)
    (turned : ∀ now, Session.next? setup duo.session.window.id now duo.session.phase .cancelled =
      some phase) : IsFree setup duo :=
  ⟨.answer .cancelled, rfl, fun now => by
    rw [step?_answer asks (by simp [admits]) rfl (turned now)]
    rfl⟩

theorem isFree_of_begin {request : Request} (asks : duo.session.request? setup = some request)
    (stays : request.isCancellable = false) (fresh : duo.begun = none) : IsFree setup duo :=
  ⟨.begin, rfl, fun now => by simp [step?, begin?, asks, fresh, isPreempted, stays]⟩

theorem isFree_of_answer {request : Request} {phase : Phase} {exchange : Mailbox × Option Reader}
    (answer : Answer) (unaided : Act.isUnaided (.answer answer) = true)
    (asks : duo.session.request? setup = some request) (other : answer ≠ .cancelled)
    (stays : request.isCancellable = false)
    (possible : ∀ now since, isPossible now since request answer = true)
    (turned : ∀ now, Session.next? setup duo.session.window.id now duo.session.phase answer =
      some phase)
    (exchanged : duo.exchange? request answer = some exchange) : IsFree setup duo := by
  cases begun : duo.begun with
  | none => exact isFree_of_begin asks stays begun
  | some since =>
      refine ⟨.answer answer, unaided, fun now => ?_⟩
      simp [step?, answer?, asks, admits, other, isPreempted, stays, begun, possible,
        Session.step?, turned, exchanged]

theorem isFree_of_pass {reader : Reader} (works : duo.reader = some reader)
    (passes : (reader.pass? duo.mailbox).isSome = true) : IsFree setup duo :=
  ⟨.pass, rfl, fun now => by simpa [step?, works] using passes⟩

theorem isFree_of_stopped (sound : duo.IsSound) {reader : Reader} (works : duo.reader = some reader)
    (deaf : duo.mailbox.isOpen = false) (stopped : reader.isStopped = true)
    (busy : reader.isFinished = false) : IsFree setup duo := by
  rcases Reader.moves_of_stopped (sound.in_hand reader works) deaf stopped busy with passes | quits
  · exact isFree_of_pass works passes
  · exact ⟨.quit, rfl, fun now => by simpa [step?, works] using quits true⟩

theorem isFree_of_stopping (sound : duo.IsSound) {attempt : Session.Attempt} {layer : StyleLayer}
    {outcome : Outcome} (phase : duo.session.phase = .stoppingReader attempt layer outcome) :
    IsFree setup duo := by
  have asks : duo.session.request? setup = some .stopReader :=
    (Session.request?_eq_stopReader_iff setup _).mpr ⟨_, _, _, phase⟩
  cases begun : duo.begun with
  | none => exact isFree_of_begin asks rfl begun
  | some since =>
      obtain ⟨reader, works, stopped⟩ := phase ▸ sound.fits
      obtain ⟨deaf, stopped⟩ := stopped (by simp [begun])
      cases finished : reader.isFinished with
      | false => exact isFree_of_stopped sound works deaf stopped finished
      | true =>
          exact isFree_of_answer .readerStopped rfl asks (by simp) rfl (fun _ _ => rfl)
            (fun now => by rw [phase]; rfl)
            (by simp [exchange?, readerFinished, works, finished]; rfl)

theorem isFree_or_cleans (sound : duo.IsSound) (goesOn : duo.session.hasEnded = false) :
    IsFree setup duo ∨ ∃ attempt layer outcome since,
      duo.session.phase = .cleaning attempt layer outcome ∧ duo.begun = some since := by
  have held := sound.layer_held
  cases phase : duo.session.phase with
  | identifying step backoff =>
      left
      cases step with
      | opening | reading | sleeping delay =>
          exact isFree_of_cancel (by rw [Session.request?, phase]) fun now => by rw [phase]; rfl
      | drawing =>
          have asks : duo.session.request? setup = some (.draw backoff.ceiling) := by
            rw [Session.request?, phase]
          exact isFree_of_answer (.delay 0) rfl asks (by simp) rfl
            (fun _ _ => by simp [isPossible]) (fun now => by rw [phase]; rfl) rfl
  | opening | subscribing | acquiring | watching | sleeping =>
      left
      exact isFree_of_cancel (by rw [Session.request?, phase]) fun now => by rw [phase]; rfl
  | highlighting attempt layer round step =>
      left
      obtain ⟨key, rfl⟩ : ∃ key, layer = .acquired duo.session.window.id key := by
        rw [phase] at held
        cases round <;> exact held layer rfl
      cases step with
      | reading | annotating text =>
          exact isFree_of_cancel (by rw [Session.request?, phase]) fun now => by rw [phase]; rfl
      | applying spans =>
          exact isFree_of_cancel (by rw [Session.request?, phase]; rfl) fun now => by
            rw [phase]; rfl
  | startingReader attempt layer stream =>
      left
      have asks : duo.session.request? setup = some (.startReader stream) := by
        rw [Session.request?, phase]
      exact isFree_of_answer .readerStarted rfl asks (by simp) rfl (fun _ _ => rfl)
        (fun now => by rw [phase]; rfl) rfl
  | stoppingReader => exact .inl (isFree_of_stopping sound phase)
  | cleaning attempt layer outcome =>
      obtain ⟨key, rfl⟩ := held layer (by rw [phase]; rfl)
      cases begun : duo.begun with
      | none =>
          exact .inl (isFree_of_begin (request?_of_cleaning phase)
            (isCancellable_cleanupCall _ key outcome) begun)
      | some since => exact .inr ⟨attempt, _, outcome, since, rfl, rfl⟩
  | drawing attempt =>
      left
      have asks : duo.session.request? setup = some (.draw attempt.backoff.ceiling) := by
        rw [Session.request?, phase]
      exact isFree_of_answer (.delay 0) rfl asks (by simp) rfl
        (fun _ _ => by simp [isPossible]) (fun now => by rw [phase]; rfl) rfl
  | ended ending => simp [Session.hasEnded, phase] at goesOn

theorem waits_of_cleaning (sound : duo.IsSound) {attempt : Session.Attempt} {layer : StyleLayer}
    {outcome : Outcome} {since now : Nat}
    (phase : duo.session.phase = .cleaning attempt layer outcome) (begun : duo.begun = some since)
    (early : now < since + StyleLayer.cleanupLimit) : Waits setup true now duo := by
  intro act unaided
  refine Option.eq_none_iff_forall_ne_some.mpr fun next taken => ?_
  have fits := sound.fits
  rw [phase] at fits
  cases change_of_step? taken with
  | begun asks fresh => cases begun.symm.trans fresh
  | @answered request answer later mailbox reader asks admitted turn exchanged =>
      obtain ⟨key, rfl⟩ := sound.layer_held layer (by rw [phase]; rfl)
      cases asks.symm.trans (request?_of_cleaning phase)
      rw [phase] at turn
      cases turn with
      | unwound reason => cases reason
      | cleaned settles =>
          obtain rfl : answer = .givenUp := by
            unfold Answer.settlesCleanup at settles
            split at settles <;> first | rfl | cases unaided | cases settles
          obtain ⟨instant, same, possible⟩ := begun_of_admits (by simp) admitted
          cases begun.symm.trans same
          simp only [isPossible, decide_eq_true_eq] at possible
          omega
  | took works taken => cases unaided
  | passed works | quit works => cases fits.2.symm.trans works

theorem step?_givenUp (sound : duo.IsSound) {attempt : Session.Attempt} {layer : StyleLayer}
    {outcome : Outcome} {since now : Nat}
    (phase : duo.session.phase = .cleaning attempt layer outcome) (begun : duo.begun = some since)
    (expired : since + StyleLayer.cleanupLimit ≤ now) :
    (duo.step? setup now true (.answer .givenUp)).isSome = true := by
  obtain ⟨key, rfl⟩ := sound.layer_held layer (by rw [phase]; rfl)
  have asks := @request?_of_cleaning setup duo attempt key outcome phase
  have stays := isCancellable_cleanupCall duo.session.window.id key outcome
  have admitted : duo.admits now true
      (.call (cleanupCall duo.session.window.id key outcome)) .givenUp = true := by
    have possible : isPossible now since
      (.call (cleanupCall duo.session.window.id key outcome)) .givenUp = true := decide_eq_true expired
    unfold admits isPreempted
    rw [if_neg (by simp), begun, Option.any_some, possible, stays]
    rfl
  have turned : Session.next? setup duo.session.window.id now duo.session.phase .givenUp =
      some (Session.afterAttempt attempt outcome) := by rw [phase]; rfl
  rw [step?_answer asks admitted rfl turned]
  rfl

theorem lastInstant_of_waits (sound : duo.IsSound) (goesOn : duo.session.hasEnded = false)
    {instant later : Nat} (ordered : instant ≤ later)
    (waits : ∀ moment, instant ≤ moment → moment < later → Waits setup true moment duo) :
    duo.lastInstant later ≤ duo.lastInstant instant := by
  rcases @isFree_or_cleans setup duo sound goesOn with ⟨act, unaided, free⟩ | cleans
  · rcases Nat.eq_or_lt_of_le ordered with rfl | moved
    · exact Nat.le_refl _
    · have stuck := waits instant (Nat.le_refl _) moved act unaided
      exact absurd (free instant) (by simp [stuck])
  · obtain ⟨attempt, layer, outcome, since, phase, begun⟩ := cleans
    have bound : later ≤ max instant (since + StyleLayer.cleanupLimit) := by
      refine Nat.le_of_not_lt fun passed => ?_
      have stuck := waits _ (Nat.le_max_left ..) passed (.answer .givenUp) rfl
      have gone := @step?_givenUp setup duo sound attempt layer outcome since _ phase begun
        (Nat.le_max_right instant _)
      exact absurd gone (by simp [stuck])
    have holds : duo.session.phase.holding = .cleaning layer outcome := by rw [phase]; rfl
    simp only [lastInstant, holds, begun, Session.Holding.lastInstant]
    omega

theorem Prompt.winds_up (sound : duo.IsSound) {now later : Nat} {moments : List Moment}
    {final : Duo} (prompt : Prompt setup true duo now moments final later) :
    final.IsSound ∧ moments.length + final.leftover ≤ duo.leftover ∧
      (calls setup moments).length + final.cleanupsLeft ≤ duo.cleanupsLeft ∧
      (∀ call ∈ calls setup moments, call.isCleanup = true) ∧
      (final.session.hasEnded = false → final.lastInstant later ≤ duo.lastInstant now) := by
  induction prompt with
  | here => exact ⟨sound, by simp, by simp [calls], by simp [calls], fun _ => Nat.le_refl _⟩
  | @act moments between instant act next earlier taken ih =>
      obtain ⟨sound, few, fewer, cleans, bound⟩ := ih
      have change := change_of_step? taken
      have used := change.leftover_lt
      obtain ⟨sooner, left, cleanup⟩ := change.winds_up sound
      refine ⟨sound.step change, ?_, ?_, ?_, fun _ => ?_⟩
      · rw [List.length_append, List.length_singleton]
        omega
      · rw [calls_concat, List.length_append]
        omega
      · intro call member
        rw [calls_concat, List.mem_append, Option.mem_toList] at member
        exact member.elim (cleans call) (cleanup call)
      · exact Nat.le_trans sooner (bound (sound.goesOn change))
  | @wait moments between instant later earlier ordered waits ih =>
      obtain ⟨sound, few, fewer, cleans, bound⟩ := ih
      refine ⟨sound, few, fewer, cleans, fun goesOn => ?_⟩
      exact Nat.le_trans (lastInstant_of_waits sound goesOn ordered waits) (bound goesOn)

theorem ends_by_lastInstant (sound : duo.IsSound) (now : Nat) :
    ∃ moments final later, Prompt setup true duo now moments final later ∧
      final.session.hasEnded = true ∧ later ≤ duo.lastInstant now := by
  induction left : duo.leftover using Nat.strongRecOn generalizing duo now with
  | ind left ih =>
      subst left
      have onward : ∀ {instant act}, now ≤ instant → duo.lastInstant instant ≤ duo.lastInstant now →
          (∀ moment, now ≤ moment → moment < instant → Waits setup true moment duo) →
          (duo.step? setup instant true act).isSome = true →
          ∃ moments final later, Prompt setup true duo now moments final later ∧
            final.session.hasEnded = true ∧ later ≤ duo.lastInstant now := by
        intro instant act ordered bound waits possible
        obtain ⟨next, taken⟩ := Option.isSome_iff_exists.mp possible
        have change := change_of_step? taken
        obtain ⟨moments, final, later, prompt, ended, latest⟩ :=
          ih _ change.leftover_lt (sound.step change) instant rfl
        have whole := ((Prompt.here.wait ordered waits).act taken).trans prompt
        refine ⟨_, final, later, whole, ended, ?_⟩
        exact Nat.le_trans latest (Nat.le_trans (change.winds_up sound).1 bound)
      cases ended : duo.session.hasEnded with
      | true => exact ⟨[], duo, now, .here, ended, Session.Holding.le_lastInstant now _ _⟩
      | false =>
          rcases isFree_or_cleans sound ended with ⟨act, _, free⟩ | cleans
          · exact onward (Nat.le_refl now) (Nat.le_refl _) (by omega) (free now)
          · obtain ⟨attempt, layer, outcome, since, phase, begun⟩ := cleans
            refine onward (Nat.le_max_left now (since + StyleLayer.cleanupLimit)) ?_ ?_
              (step?_givenUp sound phase begun (Nat.le_max_right ..))
            · have holds : duo.session.phase.holding = .cleaning layer outcome := by rw [phase]; rfl
              simp only [lastInstant, holds, begun, Session.Holding.lastInstant]
              omega
            · intro moment _ early
              exact waits_of_cleaning sound phase begun (by omega)

end

/-! ### Whole runs -/

theorem Run.begun_mem {setup : Setup} {window : Window} {moments : List Moment} {duo : Duo}
    {since : Nat} (run : Run setup window moments duo) (begun : duo.begun = some since) :
    ∃ moment ∈ moments, moment.now = since := by
  induction run with
  | start => cases begun
  | @step moments duo next now cancelled act earlier later taken ih =>
      cases change_of_step? taken with
      | begun =>
          rw [begun_begin] at begun
          exact ⟨_, List.mem_append_right _ (List.mem_singleton.mpr rfl), Option.some.inj begun⟩
      | answered => cases begun
      | took | passed | quit =>
          obtain ⟨moment, member, same⟩ := ih begun
          exact ⟨moment, List.mem_append_left _ member, same⟩

/-- The instant by which a session has to end once everything is cancelled: at once where it holds
no layer, or else as soon as a cleanup call begun at that instant would be given up. -/
def deadline (instant : Nat) (duo : Duo) : Nat :=
  if duo.session.phase.holding.layer? = none then instant
  else instant + StyleLayer.cleanupLimit

theorem lastInstant_le_deadline {duo : Duo} {instant : Nat}
    (earlier : ∀ since, duo.begun = some since → since ≤ instant) :
    duo.lastInstant instant ≤ deadline instant duo := by
  unfold lastInstant deadline
  generalize duo.session.phase.holding = holding
  cases holding with
  | nothing => exact Nat.le_refl _
  | cleaning layer outcome =>
      cases begun : duo.begun with
      | none => exact Nat.le_refl _
      | some since =>
          have := earlier since begun
          simp only [Session.Holding.lastInstant, Session.Holding.layer?, reduceCtorEq, if_false]
          omega
  | layer | both | stopping => exact Nat.le_refl _

/-- Cancellation comes before everything else: whatever the collaborators do, from that instant on
a session begins no call but one cleanup call, and that only if it holds a layer for which none is
under way. It ends at once if it holds no layer, and else within the limit of a cleanup call. -/
theorem cancellation_preempts (setup : Setup) (window : Window) (before : List Moment) (duo : Duo)
    (run : Run setup window before duo) (instant : Nat)
    (earlier : ∀ moment ∈ before, moment.now ≤ instant) (after : List Moment) (final : Duo)
    (now : Nat) (prompt : Prompt setup true duo instant after final now) :
    (∀ call ∈ calls setup after, call.isCleanup = true) ∧
    (calls setup after).length ≤ duo.cleanupsLeft ∧
    after.length ≤ 13 ∧
    (deadline instant duo < now → final.session.hasEnded = true) ∧
    (final.session.hasEnded = true ∨
      ∃ more last later, Prompt setup true final now more last later ∧
        last.session.hasEnded = true ∧ later ≤ deadline instant duo) := by
  have inTime : duo.lastInstant instant ≤ deadline instant duo := by
    refine lastInstant_le_deadline fun since begun => ?_
    obtain ⟨moment, member, rfl⟩ := run.begun_mem begun
    exact earlier moment member
  obtain ⟨sound, few, fewer, cleans, bound⟩ := prompt.winds_up run.isSound
  refine ⟨cleans, by omega, ?_, fun late => ?_, ?_⟩
  · have := duo.leftover_le
    omega
  · cases ended : final.session.hasEnded with
    | true => rfl
    | false =>
        have := bound ended
        have := Session.Holding.le_lastInstant now final.session.phase.holding final.begun
        unfold lastInstant at *
        omega
  · cases ended : final.session.hasEnded with
    | true => exact .inl rfl
    | false =>
        obtain ⟨more, last, later, onward, ends, latest⟩ :=
          @ends_by_lastInstant setup final sound now
        exact .inr ⟨more, last, later, onward, ends, by have := bound ended; omega⟩

def watchingActs : List Act :=
  attemptActs 1 7 ++ replied .done ++ [.begin, .answer .readerStarted, .begin]

def watching : Duo :=
  ⟨⟨⟨1, "lib.rs"⟩, .watching ⟨"rust", rustOnly.settings.backoff⟩ (.acquired 1 7)
    (.disarmed rustOnly.settings.debounce)⟩, some 0, .empty, some (.ofStream 1)⟩

def deleting : Duo :=
  ⟨⟨⟨1, "lib.rs"⟩, .cleaning ⟨"rust", rustOnly.settings.backoff⟩ (.acquired 1 7) .cancelled⟩,
    some (Clock.ofMillis 5), .shut, none⟩

def unwindingActs : List Act :=
  [.answer .cancelled, .begin, .quit, .answer .readerStopped, .begin]

theorem cancellation_preempts_hungDelete : ∃ before after final,
    Run rustOnly ⟨1, "lib.rs"⟩ before watching ∧
    Prompt rustOnly true watching (Clock.ofMillis 5) after final (Clock.ofMillis 2005) ∧
    calls rustOnly after = [.delete 1 7] ∧ (calls rustOnly after).length ≤ watching.cleanupsLeft ∧
    final.session.hasEnded = true := by
  have run := @run_of_replay? rustOnly ⟨1, "lib.rs"⟩ _ watching (promptly watchingActs) rfl
  have unwinds := @prompt_of_replayFrom? rustOnly watching watching deleting _ _ [] _ unwindingActs
    (@Prompt.here _ _ _ (Clock.ofMillis 5)) rfl
  have sound := (unwinds.winds_up run.isSound).1
  have waits : ∀ moment, Clock.ofMillis 5 ≤ moment → moment < Clock.ofMillis 2005 →
      Waits rustOnly true moment deleting :=
    fun moment _ early => waits_of_cleaning sound rfl rfl early
  have taken : deleting.step? rustOnly (Clock.ofMillis 2005) true (.answer .givenUp) =
    some ⟨⟨⟨1, "lib.rs"⟩, .ended .cancelled⟩, none, .shut, none⟩ := rfl
  have gone := (unwinds.wait (by decide) waits).act taken
  exact ⟨_, _, _, run, gone, rfl,
    (cancellation_preempts rustOnly ⟨1, "lib.rs"⟩ _ watching run _ (by decide) _ _ _ gone).2.1, rfl⟩

end Duo
end LiveHighlight
