import LiveHighlight.Proofs.Session.Cancellation

/-!
Waiting for a reader to finish.

A session that leaves its watch drops the mailbox and dismisses its reader, and then waits until
the reader has finished. The two signals are given one after the other while the reader goes on,
and each releases one of the two places at which a reader waits: the last message of a stream has
no regard for a dismissal, and a wait for the stream has none for the mailbox.
-/

namespace LiveHighlight

structure Parting where
  mailbox : Mailbox
  reader : Reader
  deriving DecidableEq

namespace Parting

inductive Act where
  | drop
  /-- The session ends the wait of its reader for the stream. -/
  | dismiss
  | take (item : StreamItem)
  | pass
  | quit
  deriving DecidableEq, Repr

/-- Whether the reader does this by itself, with nothing from its stream. -/
def Act.isReaders : Act → Bool
  | .pass | .quit => true
  | .drop | .dismiss | .take _ => false

def isSevered (parting : Parting) : Bool :=
  !parting.mailbox.isOpen && parting.reader.isStopped

def step? (cancelled : Bool) (parting : Parting) : Act → Option Parting
  | .drop => if parting.mailbox.isOpen then some ⟨.shut, parting.reader⟩ else none
  | .dismiss =>
    if parting.reader.isStopped then none else some ⟨parting.mailbox, parting.reader.stop⟩
  | .take item => (parting.reader.take? cancelled item).map (⟨parting.mailbox, ·⟩)
  | .pass => (parting.reader.pass? parting.mailbox).map fun (mailbox, reader) => ⟨mailbox, reader⟩
  | .quit => (parting.reader.quit? cancelled).map (⟨parting.mailbox, ·⟩)

/-- One act after the other, whatever else is cancelled meanwhile. -/
inductive Course : Parting → List Act → Parting → Prop
  | done {parting} : Course parting [] parting
  | act {parting next final cancelled act acts} (taken : parting.step? cancelled act = some next)
      (later : Course next acts final) : Course parting (act :: acts) final

inductive Change (cancelled : Bool) (parting : Parting) : Act → Parting → Prop
  | dropped (received : parting.mailbox.isOpen = true) :
      Change cancelled parting .drop ⟨.shut, parting.reader⟩
  | dismissed (works : parting.reader.isStopped = false) :
      Change cancelled parting .dismiss ⟨parting.mailbox, parting.reader.stop⟩
  | took {item reader} (taken : parting.reader.take? cancelled item = some reader) :
      Change cancelled parting (.take item) ⟨parting.mailbox, reader⟩
  | passed {mailbox reader}
      (taken : parting.reader.pass? parting.mailbox = some (mailbox, reader)) :
      Change cancelled parting .pass ⟨mailbox, reader⟩
  | quit {reader} (taken : parting.reader.quit? cancelled = some reader) :
      Change cancelled parting .quit ⟨parting.mailbox, reader⟩

section

variable {cancelled : Bool} {parting next final : Parting} {act : Act} {acts : List Act}

theorem change_of_step? (taken : parting.step? cancelled act = some next) :
    Change cancelled parting act next := by
  cases act with
  | drop =>
      rw [step?, Option.ite_none_right_eq_some] at taken
      obtain ⟨received, same⟩ := taken
      cases same
      exact .dropped received
  | dismiss =>
      rw [step?, Option.ite_none_left_eq_some] at taken
      obtain ⟨works, same⟩ := taken
      cases same
      exact .dismissed (Bool.eq_false_iff.mpr works)
  | take item =>
      obtain ⟨reader, moved, rfl⟩ := Option.map_eq_some_iff.mp taken
      exact .took moved
  | pass =>
      obtain ⟨⟨mailbox, reader⟩, moved, rfl⟩ := Option.map_eq_some_iff.mp taken
      exact .passed moved
  | quit =>
      obtain ⟨reader, moved, rfl⟩ := Option.map_eq_some_iff.mp taken
      exact .quit moved

/-- A reader has an item in its hand only between its waits. -/
def InHand (parting : Parting) : Prop :=
  parting.reader.hand.isSome = true → parting.reader.phase = .awaiting

theorem InHand.step (in_hand : parting.InHand) (change : Change cancelled parting act next) :
    next.InHand := by
  cases change with
  | dropped | dismissed => exact in_hand
  | took taken =>
      obtain ⟨⟨awaits, _⟩, rfl⟩ := Reader.take?_eq_some_iff.mp taken
      exact fun _ => awaits
  | passed taken =>
      have empty := (Reader.passing_of_pass? taken).hand
      exact fun holds => absurd empty (Option.isSome_iff_ne_none.mp holds)
  | quit taken =>
      obtain ⟨⟨_, empty, _⟩, rfl⟩ := Reader.quit?_eq_some_iff.mp taken
      exact fun holds => absurd empty (Option.isSome_iff_ne_none.mp holds)

theorem InHand.course (in_hand : parting.InHand) (course : Course parting acts final) :
    final.InHand := by
  induction course with
  | done => exact in_hand
  | act taken later ih => exact ih (in_hand.step (change_of_step? taken))

/-! ### After both signals -/

theorem Change.of_severed (severed : parting.isSevered = true)
    (change : Change cancelled parting act next) :
    act.isReaders = true ∧ next.isSevered = true ∧
      next.reader.leftover < parting.reader.leftover := by
  obtain ⟨deaf, stopped⟩ : parting.mailbox.isOpen = false ∧ parting.reader.isStopped = true := by
    simpa [isSevered] using severed
  cases change with
  | dropped received => exact absurd received (by simp [deaf])
  | dismissed works => exact absurd stopped (by simp [works])
  | took taken =>
      obtain ⟨⟨_, _, waits⟩, _⟩ := Reader.take?_eq_some_iff.mp taken
      simp [Reader.isDismissed, stopped] at waits
  | passed taken =>
      have passing := Reader.passing_of_pass? taken
      obtain ⟨same, kept, _⟩ := passing.keeps
      exact ⟨rfl, by simp [isSevered, same, kept, deaf, stopped], passing.leftover_lt⟩
  | quit taken =>
      obtain ⟨⟨awaits, empty, _⟩, rfl⟩ := Reader.quit?_eq_some_iff.mp taken
      exact ⟨rfl, severed, by simp [Reader.leftover, awaits, empty]⟩

theorem moves_of_severed (severed : parting.isSevered = true) (in_hand : parting.InHand)
    (busy : parting.reader.isFinished = false) (cancelled : Bool) :
    ∃ act, act.isReaders = true ∧ (parting.step? cancelled act).isSome = true := by
  obtain ⟨deaf, stopped⟩ : parting.mailbox.isOpen = false ∧ parting.reader.isStopped = true := by
    simpa [isSevered] using severed
  rcases Reader.moves_of_stopped in_hand deaf stopped busy with passes | quits
  · exact ⟨.pass, rfl, by simpa [step?] using passes⟩
  · exact ⟨.quit, rfl, by simpa [step?] using quits cancelled⟩

theorem Course.of_severed (course : Course parting acts final)
    (severed : parting.isSevered = true) :
    (∀ act ∈ acts, act.isReaders = true) ∧ final.isSevered = true ∧
      acts.length + final.reader.leftover ≤ parting.reader.leftover := by
  induction course with
  | done => exact ⟨by simp, severed, by simp⟩
  | act taken later ih =>
      obtain ⟨readers, still, lower⟩ := (change_of_step? taken).of_severed severed
      obtain ⟨all, last, bound⟩ := ih still
      refine ⟨by simpa using ⟨readers, all⟩, last, ?_⟩
      rw [List.length_cons]
      omega

theorem InHand.finishes (in_hand : parting.InHand) (severed : parting.isSevered = true) :
    ∃ acts last, Course parting acts last ∧ last.reader.isFinished = true := by
  induction left : parting.reader.leftover using Nat.strongRecOn generalizing parting with
  | ind count ih =>
      cases finished : parting.reader.isFinished with
      | true => exact ⟨[], parting, .done, finished⟩
      | false =>
          obtain ⟨act, _, moves⟩ := moves_of_severed severed in_hand finished false
          obtain ⟨next, taken⟩ := Option.isSome_iff_exists.mp moves
          have change := change_of_step? taken
          obtain ⟨_, still, lower⟩ := change.of_severed severed
          obtain ⟨acts, last, later, ends⟩ := ih _ (left ▸ lower) (in_hand.step change) still rfl
          exact ⟨act :: acts, last, .act taken later, ends⟩

/-- The acts of a reader that winds up: a few of its own, after which it has finished or goes on,
and nothing else can keep it from finishing. -/
structure WindsUp (acts : List Act) (final : Parting) : Prop where
  few : acts.length ≤ 2
  alone : ∀ act ∈ acts, act.isReaders = true
  goes_on : final.reader.isFinished = true ∨
    ∀ cancelled, ∃ act, act.isReaders = true ∧ (final.step? cancelled act).isSome = true
  finishes : ∃ more last, Course final more last ∧ last.reader.isFinished = true

theorem InHand.windsUp (in_hand : parting.InHand) (severed : parting.isSevered = true)
    (course : Course parting acts final) : WindsUp acts final := by
  obtain ⟨alone, still, bound⟩ := course.of_severed severed
  have in_hand := in_hand.course course
  refine ⟨?_, alone, ?_, in_hand.finishes still⟩
  · have := parting.reader.leftover_le
    omega
  · cases finished : final.reader.isFinished with
    | true => exact .inl rfl
    | false => exact .inr (moves_of_severed still in_hand finished)

/-! ### After one signal -/

/-- Without the drop, a reader whose last message finds the mailbox full stays where it is, though
it be dismissed. -/
theorem stuck_undropped {last : Message} (delivers : parting.reader.phase = .delivering last)
    (empty : parting.reader.hand = none) (received : parting.mailbox.isOpen = true)
    (full : parting.mailbox.hasRoom = false) (readers : act.isReaders = true) :
    parting.step? cancelled act = none := by
  cases act with
  | pass => simp [step?, Reader.pass?, delivers, empty, received, full]
  | quit => simp [step?, Reader.quit?, delivers, empty, Reader.step?]
  | drop | dismiss | take => cases readers

/-- Without the dismissal, a reader whose stream yields nothing stays where it is, though nobody
receives. -/
theorem stuck_undismissed (awaits : parting.reader.phase = .awaiting)
    (empty : parting.reader.hand = none) (works : parting.reader.isStopped = false)
    (readers : act.isReaders = true) : parting.step? false act = none := by
  cases act with
  | pass => simp [step?, Reader.pass?, awaits, empty]
  | quit => simp [step?, Reader.quit?, empty, Reader.isDismissed, works]
  | drop | dismiss | take => cases readers

end

end Parting

namespace Duo

open Session (Handover handover_of_turn)

section

variable {setup : Setup} {window : Window} {moments : List Moment} {duo : Duo} {now : Nat}
  {cancelled : Bool} {attempt : Session.Attempt} {layer : StyleLayer} {outcome : Session.Outcome}

def withParting (duo : Duo) (parting : Parting) : Duo :=
  { duo with mailbox := parting.mailbox, reader := some parting.reader }

theorem step?_eq_parting {reader : Reader} (works : duo.reader = some reader) :
    let parting : Parting := ⟨duo.mailbox, reader⟩
    (∀ item, duo.step? setup now cancelled (.take item) =
      (parting.step? cancelled (.take item)).map duo.withParting) ∧
    duo.step? setup now cancelled .pass = (parting.step? cancelled .pass).map duo.withParting ∧
    duo.step? setup now cancelled .quit = (parting.step? cancelled .quit).map duo.withParting := by
  simp only [step?, Parting.step?, works, Option.bind_some, Option.map_map]
  exact ⟨fun _ => rfl, rfl, rfl⟩

def IsConnected (duo : Duo) : Prop :=
  duo.mailbox.isOpen = true ∧ duo.reader.map Reader.isStopped = some false

theorem IsConnected.worked (connected : duo.IsConnected) {mailbox : Mailbox}
    {reader worker : Reader} (works : duo.reader = some reader)
    (stillOpen : mailbox.isOpen = duo.mailbox.isOpen)
    (stillStopped : worker.isStopped = reader.isStopped) :
    IsConnected { duo with mailbox := mailbox, reader := some worker } := by
  obtain ⟨receives, running⟩ := connected
  rw [works] at running
  exact ⟨stillOpen.trans receives, (congrArg some stillStopped).trans running⟩

theorem isConnected_of_left {request : Session.Request} {answer : Session.Answer}
    {mailbox : Mailbox} {reader : Option Reader} (sound : duo.IsSound)
    (turn : Session.Turn setup duo.session.window.id now duo.session.phase answer
      (.stoppingReader attempt layer outcome))
    (exchanged : duo.exchange? request answer = some (mailbox, reader)) :
    mailbox.isOpen = true ∧ reader.map Reader.isStopped = some false := by
  have handover : Handover _ _ _ _ (.stopping layer outcome) :=
    handover_of_turn turn sound.isPresent
  have fits := sound.fits
  generalize duo.session.phase.holding = holding at handover fits
  generalize Session.outcome? duo.session.phase answer = reason at handover
  -- Only a session that holds both a layer and a reader comes to stop its reader.
  cases handover with
  | left plain =>
      obtain ⟨rfl, stillOpen, _⟩ := exchange?_keeps exchanged
        (by grind [Session.Answer.isPlain]) (by grind [Session.Answer.isPlain])
      obtain ⟨receives, worker, works, running⟩ := fits
      exact ⟨stillOpen.trans receives, by rw [works, Option.map_some, running]⟩

theorem Run.isConnected (run : Run setup window moments duo) (fresh : duo.begun = none)
    (left : duo.session.phase = .stoppingReader attempt layer outcome) : duo.IsConnected := by
  induction run with
  | start =>
      simp only [Duo.start, Session.start] at left
      split at left <;> cases left
  | step earlier later stepped ih =>
      cases change_of_step? stepped with
      | begun => simp at fresh
      | answered asks admitted turn exchanged =>
          subst left
          exact isConnected_of_left earlier.isSound turn exchanged
      | took works taken =>
          obtain ⟨_, rfl⟩ := Reader.take?_eq_some_iff.mp taken
          exact (ih fresh left).worked works rfl rfl
      | passed works taken =>
          obtain ⟨stillOpen, stillStopped, _⟩ := (Reader.passing_of_pass? taken).keeps
          exact (ih fresh left).worked works stillOpen stillStopped
      | quit works taken =>
          obtain ⟨_, rfl⟩ := Reader.quit?_eq_some_iff.mp taken
          exact (ih fresh left).worked works rfl rfl

theorem step?_begin_stopReader (fresh : duo.begun = none)
    (left : duo.session.phase = .stoppingReader attempt layer outcome) :
    duo.step? setup now cancelled .begin = some (duo.begin now .stopReader) := by
  have asks : duo.session.request? setup = some .stopReader :=
    (Session.request?_eq_stopReader_iff setup _).mpr ⟨_, _, _, left⟩
  simp [step?, begin?, asks, fresh, isPreempted, Session.Request.isCancellable]

end

/-- However a session leaves its watch, and wherever its reader is by then, the session can drop
the mailbox and dismiss the reader. Once it has done both, with whatever the reader did meanwhile,
the reader finishes after two acts of its own at most, for which it needs neither its stream nor
the session; and then the session's wait for it is over. -/
theorem reader_always_joins (setup : Setup) (window : Window) (moments : List Moment) (duo : Duo)
    (run : Run setup window moments duo) (attempt : Session.Attempt) (layer : StyleLayer)
    (outcome : Session.Outcome)
    (left : duo.session.phase = .stoppingReader attempt layer outcome) :
    ∃ reader, duo.reader = some reader ∧
      (duo.begun = none →
        Parting.Course ⟨duo.mailbox, reader⟩ [.drop, .dismiss] ⟨.shut, reader.stop⟩ ∧
        ∀ now cancelled, duo.step? setup now cancelled .begin =
          some { duo with begun := some now, mailbox := .shut, reader := some reader.stop }) ∧
      (∀ acts parting, Parting.Course ⟨duo.mailbox, reader⟩ acts parting →
        parting.isSevered = true →
        ∀ more final, Parting.Course parting more final → Parting.WindsUp more final) ∧
      (duo.begun.isSome = true → Parting.isSevered ⟨duo.mailbox, reader⟩ = true ∧
        (reader.isFinished = true → ∀ now cancelled,
          duo.step? setup now cancelled (.answer .readerStopped) =
            some ⟨⟨duo.session.window, .cleaning attempt layer outcome⟩, none, .shut, none⟩)) := by
  have sound := run.isSound
  obtain ⟨reader, works, signalled⟩ := left ▸ sound.fits
  refine ⟨reader, works, fun fresh => ⟨?_, fun now cancelled => ?_⟩, ?_, fun begun => ⟨?_, ?_⟩⟩
  · obtain ⟨receives, running⟩ := run.isConnected fresh left
    rw [works, Option.map_some, Option.some.injEq] at running
    have dropped : Parting.step? false ⟨duo.mailbox, reader⟩ .drop = some ⟨.shut, reader⟩ := by
      simp [Parting.step?, receives]
    have dismissed : Parting.step? false ⟨.shut, reader⟩ .dismiss = some ⟨.shut, reader.stop⟩ := by
      simp [Parting.step?, running]
    exact .act dropped (.act dismissed .done)
  · rw [step?_begin_stopReader fresh left, begin, works]
    rfl
  · intro acts parting course severed more final later
    have in_hand : Parting.InHand ⟨duo.mailbox, reader⟩ := sound.in_hand reader works
    exact (in_hand.course course).windsUp severed later
  · obtain ⟨deaf, stopped⟩ := signalled begun
    simp [Parting.isSevered, deaf, stopped]
  · intro finished now cancelled
    have present := sound.isPresent layer (by rw [left]; rfl)
    exact step?_readerStopped present begun left (by simpa [readerFinished, works] using finished)

def armingActs : List Act :=
  watchingActs ++ [.take (.edit .insertion), .pass, .answer (.received (.edit .insertion))]

def rehighlighting : Duo :=
  ⟨⟨⟨1, "lib.rs"⟩, .highlighting ⟨"rust", rustOnly.settings.backoff⟩ (.acquired 1 7)
    (.debounced (.disarmed rustOnly.settings.debounce)) .reading⟩, some (Clock.ofMillis 200),
    .empty, some (.ofStream 1)⟩

def strandingActs : List Act :=
  (List.replicate Mailbox.capacity [.take (.edit .insertion), .pass]).flatten ++
    [.take .ended, .pass, .answer (.reply (.editorFailed (.io "Input/output error")))]

def stranded : Duo :=
  ⟨⟨⟨1, "lib.rs"⟩, .stoppingReader ⟨"rust", rustOnly.settings.backoff⟩ (.acquired 1 7)
    (.failed (.editor (.io "Input/output error")))⟩, none,
    ⟨List.replicate Mailbox.capacity (.edit .insertion), true⟩,
    some ⟨.delivering .closed, 1, none, false⟩⟩

theorem reader_always_joins_stranded : ∃ moments reader,
    Run rustOnly ⟨1, "lib.rs"⟩ moments stranded ∧ stranded.reader = some reader ∧
    (∀ cancelled act, act.isReaders = true →
      Parting.step? cancelled ⟨stranded.mailbox, reader.stop⟩ act = none) ∧
    ∀ acts final, Parting.Course ⟨.shut, reader.stop⟩ acts final → Parting.WindsUp acts final := by
  -- In two parts, since a script as long as both is too deep to be evaluated at once.
  have first := @run_of_replay? rustOnly ⟨1, "lib.rs"⟩ _ rehighlighting
    (promptly armingActs ++
      [.begin, .answer .fired, .begin].map (⟨Clock.ofMillis 200, false, ·⟩)) rfl
  have run := @run_of_replayFrom? rustOnly ⟨1, "lib.rs"⟩ _ _ _ stranded
    (strandingActs.map (⟨Clock.ofMillis 200, false, ·⟩)) first rfl
  obtain ⟨reader, works, leave, windsUp, _⟩ :=
    reader_always_joins rustOnly ⟨1, "lib.rs"⟩ _ stranded run _ _ _ rfl
  cases works
  refine ⟨_, _, run, rfl, ?_, windsUp _ _ (leave rfl).1 rfl⟩
  exact fun cancelled act readers => Parting.stuck_undropped rfl rfl rfl rfl readers

end Duo
end LiveHighlight
