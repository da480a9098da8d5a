import LiveHighlight.Proofs.Session.Run

/-!
A session before an editor that is edited while it runs.

The editor shows a change to reads at once, and notifies the stream of it then or later. The
annotator is a function of language and text, and the compositor keeps what is applied. Nothing
else is said of when things happen: changes, notifications, the reader and the session take turns
in any order.
-/

namespace LiveHighlight

structure Scene where
  duo : Duo
  text : Utf8.Bytes
  /-- What a read could have returned since the session began the wait it is in. -/
  seen : List Utf8.Bytes
  /-- Notifications that the reader has not taken yet. It can read the first `readable` of them. -/
  stream : List StreamItem
  readable : Nat
  isOver : Bool
  shown : List Span
  deriving DecidableEq

namespace Scene

open Duo (replied rustOnly)
open Session (Answer Phase)

inductive Event where
  | change (text : Utf8.Bytes) (kind : EditKind)
  | arrival
  | closing (last : Option EditorError)
  | act (now : Nat) (cancelled : Bool) (act : Duo.Act)

def start (setup : Setup) (window : Window) (text : Utf8.Bytes) : Scene :=
  ⟨.start setup window, text, [], [], 0, false, []⟩

section

variable (setup : Setup) (annotate : LanguageId → Utf8.Bytes → List Capture)

def admits (scene : Scene) : Duo.Act → Bool
  | .answer (.reply (.text text)) => scene.seen.contains text
  | .answer (.reply (.captures captures)) =>
    match scene.duo.session.phase with
    | .highlighting attempt _ _ (.annotating text) => captures = annotate attempt.language text
    | _ => true
  | .take item => scene.stream.head? = some item && 0 < scene.readable
  | _ => true

/-- What an act changes outside of the session: a subscription is to a stream of its own, a layer
is new, and spans are shown once they are applied. -/
def after (scene : Scene) (act : Duo.Act) (duo : Duo) : Scene :=
  match act with
  | .begin => { scene with duo := duo, seen := [scene.text] }
  | .answer (.reply (.subscribed _)) =>
    { scene with duo := duo, stream := [], readable := 0, isOver := false }
  | .answer (.reply (.layer _)) => { scene with duo := duo, shown := [] }
  | .answer (.reply .done) =>
    match scene.duo.session.phase with
    | .highlighting _ _ _ (.applying spans) => { scene with duo := duo, shown := spans }
    | _ => { scene with duo := duo }
  | .take _ =>
    { scene with duo := duo, stream := scene.stream.tail, readable := scene.readable - 1 }
  | _ => { scene with duo := duo }

def step? (scene : Scene) : Event → Option Scene
  | .change text kind =>
    some { scene with
      text := text, seen := text :: scene.seen, stream := scene.stream ++ [.edit kind] }
  | .arrival =>
    if scene.readable < scene.stream.length then
      some { scene with readable := scene.readable + 1 }
    else none
  | .closing last =>
    some { scene with stream := scene.stream ++ [last.elim .ended .failed], isOver := true }
  | .act now cancelled act =>
    if scene.admits annotate act then
      (scene.duo.step? setup now cancelled act).map (scene.after act)
    else none

inductive Reachable (window : Window) : Scene → Prop
  | start (text : Utf8.Bytes) : Reachable window (.start setup window text)
  | step {scene next event} (earlier : Reachable window scene)
      (taken : scene.step? setup annotate event = some next) : Reachable window next

end

/-! ### Wake-ups -/

def OnlyEdits (isOver : Bool) (stream : List StreamItem) (duo : Duo) : Prop :=
  isOver = false →
    (∀ item ∈ stream, ∃ kind, item = .edit kind) ∧
    (∀ reader, duo.reader = some reader →
      (∀ item, reader.hand = some item → ∃ kind, item = .edit kind) ∧
      ∀ last, reader.phase ≠ .delivering last) ∧
    ∀ message ∈ duo.mailbox.messages, ∃ kind, message = .edit kind

def Wakeup (isOver : Bool) (stream : List StreamItem) (duo : Duo) : Prop :=
  isOver = true ∨ stream ≠ [] ∨
    (∃ reader, duo.reader = some reader ∧ reader.hand.isSome = true) ∨
    duo.mailbox.messages ≠ []

section

variable {setup : Setup} {now : Nat} {cancelled : Bool} {duo next : Duo} {act : Duo.Act}
  {isOver : Bool} {stream : List StreamItem}

theorem OnlyEdits.begun (edits : OnlyEdits isOver stream duo) (now : Nat)
    (request : Session.Request) : OnlyEdits isOver stream (duo.begin now request) := by
  intro goesOn
  obtain ⟨unread, reading, received⟩ := edits goesOn
  by_cases stops : request = .stopReader
  · subst stops
    refine ⟨unread, ?_, by simp [Duo.begin, Mailbox.shut]⟩
    intro reader works
    obtain ⟨worker, at_work, rfl⟩ := Option.map_eq_some_iff.mp works
    exact reading worker at_work
  · rw [Duo.begin_of_ne_stopReader duo now stops]
    exact ⟨unread, reading, received⟩

theorem OnlyEdits.answered (edits : OnlyEdits isOver stream duo) {request : Session.Request}
    {answer : Answer} {session : Session} {begun : Option Nat} {mailbox : Mailbox}
    {reader : Option Reader} (exchanged : duo.exchange? request answer = some (mailbox, reader)) :
    OnlyEdits isOver stream ⟨session, begun, mailbox, reader⟩ := by
  intro goesOn
  obtain ⟨unread, reading, received⟩ := edits goesOn
  obtain ⟨readers, subset⟩ := Duo.exchange?_cases exchanged
  refine ⟨unread, ?_, fun message member => received message (subset message member)⟩
  intro worker works
  rcases readers with rfl | rfl | ⟨key, rfl⟩
  · exact reading worker works
  · cases works
  · cases works
    simp [Reader.ofStream]

theorem OnlyEdits.took (edits : OnlyEdits isOver stream duo) {reader worker : Reader}
    {item : StreamItem} (works : duo.reader = some reader) (first : item ∈ stream)
    (taken : reader.take? cancelled item = some worker) :
    OnlyEdits isOver stream.tail { duo with reader := some worker } := by
  intro goesOn
  obtain ⟨unread, reading, received⟩ := edits goesOn
  obtain ⟨_, rfl⟩ := Reader.take?_eq_some_iff.mp taken
  refine ⟨fun item member => unread item (List.mem_of_mem_tail member), ?_, received⟩
  rintro _ ⟨rfl⟩
  refine ⟨?_, (reading reader works).2⟩
  rintro _ ⟨rfl⟩
  exact unread item first

theorem OnlyEdits.passed (edits : OnlyEdits isOver stream duo) {reader worker : Reader}
    {mailbox : Mailbox} (works : duo.reader = some reader)
    (passing : Reader.Passing duo.mailbox reader mailbox worker) :
    OnlyEdits isOver stream { duo with mailbox := mailbox, reader := some worker } := by
  intro goesOn
  obtain ⟨unread, reading, received⟩ := edits goesOn
  obtain ⟨in_hand, undelivered⟩ := reading reader works
  cases passing with
  | @edit kind awaits holds =>
      refine ⟨unread, ?_, ?_⟩
      · rintro _ ⟨rfl⟩
        refine ⟨by simp, fun last => ?_⟩
        simp only
        split <;> simp
      · intro message member
        have cases : message ∈ duo.mailbox.messages ∨ message = .edit kind := by
          unfold Reader.passOn Mailbox.offer Mailbox.put at member
          grind
        rcases cases with old | rfl
        · exact received message old
        · exact ⟨kind, rfl⟩
  | failed awaits holds =>
      obtain ⟨kind, same⟩ := in_hand _ holds
      cases same
  | ended awaits holds =>
      obtain ⟨kind, same⟩ := in_hand _ holds
      cases same
  | delivered delivers | refused delivers => exact absurd delivers (undelivered _)

theorem OnlyEdits.quit (edits : OnlyEdits isOver stream duo) {reader worker : Reader}
    (works : duo.reader = some reader) (taken : reader.quit? cancelled = some worker) :
    OnlyEdits isOver stream { duo with reader := some worker } := by
  intro goesOn
  obtain ⟨unread, reading, received⟩ := edits goesOn
  obtain ⟨_, rfl⟩ := Reader.quit?_eq_some_iff.mp taken
  refine ⟨unread, ?_, received⟩
  rintro _ ⟨rfl⟩
  exact ⟨(reading reader works).1, by simp⟩

theorem wakeup_of_take? {reader worker : Reader} {item : StreamItem}
    (taken : reader.take? cancelled item = some worker) :
    Wakeup isOver stream.tail { duo with reader := some worker } := by
  obtain ⟨_, rfl⟩ := Reader.take?_eq_some_iff.mp taken
  exact .inr (.inr (.inl ⟨_, rfl, rfl⟩))

theorem wakeup_of_passing (edits : OnlyEdits isOver stream duo)
    {reader worker : Reader} {mailbox : Mailbox} (works : duo.reader = some reader)
    (receives : duo.mailbox.isOpen = true)
    (passing : Reader.Passing duo.mailbox reader mailbox worker) :
    Wakeup isOver stream { duo with mailbox := mailbox, reader := some worker } := by
  cases closed : isOver with
  | true => exact .inl rfl
  | false =>
      obtain ⟨in_hand, undelivered⟩ := (edits closed).2.1 reader works
      cases passing with
      | @edit kind awaits holds =>
          refine .inr (.inr (.inr ?_))
          simp only [Reader.passOn, receives, if_true, Mailbox.offer, Mailbox.put, ne_eq]
          split
          next => simp
          next full =>
            -- the edit is dropped, but a full mailbox holds others
            intro empty
            simp [Mailbox.hasRoom, empty, Mailbox.capacity] at full
      | failed awaits holds =>
          obtain ⟨kind, same⟩ := in_hand _ holds
          cases same
      | ended awaits holds =>
          obtain ⟨kind, same⟩ := in_hand _ holds
          cases same
      | delivered delivers | refused delivers => exact absurd delivers (undelivered _)

theorem Wakeup.quit (wakeup : Wakeup isOver stream duo) {reader worker : Reader}
    (works : duo.reader = some reader) (taken : reader.quit? cancelled = some worker) :
    Wakeup isOver stream { duo with reader := some worker } := by
  obtain ⟨⟨_, empty, _⟩, rfl⟩ := Reader.quit?_eq_some_iff.mp taken
  rcases wakeup with closed | unread | ⟨holder, at_work, holds⟩ | waiting
  · exact .inl closed
  · exact .inr (.inl unread)
  · cases works.symm.trans at_work
    simp [empty] at holds
  · exact .inr (.inr (.inr waiting))

end

/-! ### The layer and the text -/

section

variable (setup : Setup) (annotate : LanguageId → Utf8.Bytes → List Capture)

def spansOf (language : LanguageId) (text : Utf8.Bytes) : List Span :=
  compose (annotate language text) text setup.styles

/-- How far the layer is in step with the text: wherever a highlight that is under way, or the
layer, is behind the text, a wake-up is under way or the debouncer is armed. -/
def InStep (scene : Scene) : Phase → Prop
  | .highlighting _ _ _ .reading => scene.duo.begun.isSome = true →
      (∀ text ∈ scene.seen, text = scene.text) ∨ Wakeup scene.isOver scene.stream scene.duo
  | .highlighting _ _ _ (.annotating text) =>
      text = scene.text ∨ Wakeup scene.isOver scene.stream scene.duo
  | .highlighting attempt _ _ (.applying spans) =>
      spans = spansOf setup annotate attempt.language scene.text ∨
        Wakeup scene.isOver scene.stream scene.duo
  | .startingReader attempt _ _ =>
      scene.shown = spansOf setup annotate attempt.language scene.text ∨
        Wakeup scene.isOver scene.stream scene.duo
  | .watching attempt _ debouncer =>
      scene.shown = spansOf setup annotate attempt.language scene.text ∨
        Wakeup scene.isOver scene.stream scene.duo ∨ debouncer.isArmed = true
  | _ => True

end

section

variable {setup : Setup} {annotate : LanguageId → Utf8.Bytes → List Capture} {scene : Scene}
  {phase : Phase}

theorem inStep_of_wakeup (wakeup : Wakeup scene.isOver scene.stream scene.duo) (phase : Phase) :
    InStep setup annotate scene phase := by
  unfold InStep
  split
  · exact fun _ => .inr wakeup
  · exact .inr wakeup
  · exact .inr wakeup
  · exact .inr wakeup
  · exact .inr (.inl wakeup)
  · trivial

theorem InStep.kept (inStep : InStep setup annotate scene phase) {later : Scene}
    (text : later.text = scene.text) (seen : later.seen = scene.seen)
    (shown : later.shown = scene.shown)
    (begun : later.duo.begun.isSome = true → scene.duo.begun.isSome = true)
    (wakeup : Wakeup scene.isOver scene.stream scene.duo →
      Wakeup later.isOver later.stream later.duo) :
    InStep setup annotate later phase := by
  unfold InStep at *
  split
  · intro waits
    rw [seen, text]
    exact (inStep (begun waits)).imp id wakeup
  · rw [text]
    exact inStep.imp id wakeup
  · rw [text]
    exact inStep.imp id wakeup
  · rw [text, shown]
    exact inStep.imp id wakeup
  · rw [text, shown]
    exact inStep.imp id (Or.imp wakeup id)
  · trivial

theorem inStep_afterAttempt (attempt : Session.Attempt) (outcome : Session.Outcome) :
    InStep setup annotate scene (Session.afterAttempt attempt outcome) := by
  cases outcome <;> trivial

theorem inStep_finishAttempt (attempt : Session.Attempt) (layer : StyleLayer)
    (outcome : Session.Outcome) :
    InStep setup annotate scene (Session.finishAttempt attempt layer outcome) := by
  unfold Session.finishAttempt
  split
  next => trivial
  next => exact inStep_afterAttempt attempt outcome

theorem inStep_unwound {answer : Answer} {outcome : Session.Outcome}
    (ends : Session.outcome? phase answer = some outcome) :
    InStep setup annotate scene (Session.unwound outcome phase) := by
  cases phase with
  | opening | subscribing | acquiring => exact inStep_afterAttempt _ _
  | highlighting attempt layer round step =>
      cases round with
      | initial stream => exact inStep_finishAttempt _ _ _
      | debounced debouncer => trivial
  | watching => trivial
  | _ => cases ends

end

/-! ### Reachable scenes -/

structure Invariant (setup : Setup) (annotate : LanguageId → Utf8.Bytes → List Capture)
    (scene : Scene) : Prop where
  sound : scene.duo.IsSound
  edits : OnlyEdits scene.isOver scene.stream scene.duo
  inStep : InStep setup annotate scene scene.duo.session.phase

section

variable {setup : Setup} {annotate : LanguageId → Utf8.Bytes → List Capture} {scene next : Scene}

theorem invariant_start (setup : Setup) (annotate : LanguageId → Utf8.Bytes → List Capture)
    (window : Window) (text : Utf8.Bytes) :
    Invariant setup annotate (start setup window text) where
  sound := Duo.isSound_start setup window
  edits := fun _ => by simp [start, Duo.start, Mailbox.shut]
  inStep := by
    unfold start Duo.start Session.start
    dsimp only
    split <;> trivial

theorem Invariant.changed (invariant : Invariant setup annotate scene) (text : Utf8.Bytes)
    (kind : EditKind) :
    Invariant setup annotate { scene with
      text := text, seen := text :: scene.seen, stream := scene.stream ++ [.edit kind] } where
  sound := invariant.sound
  edits := by
    intro goesOn
    obtain ⟨unread, others⟩ := invariant.edits goesOn
    refine ⟨fun item member => ?_, others⟩
    rcases List.mem_append.mp member with old | new
    · exact unread item old
    · exact ⟨kind, List.mem_singleton.mp new⟩
  inStep := inStep_of_wakeup (.inr (.inl (by simp))) _

theorem Invariant.closed (invariant : Invariant setup annotate scene) (last : StreamItem) :
    Invariant setup annotate
      { scene with stream := scene.stream ++ [last], isOver := true } where
  sound := invariant.sound
  edits := fun goesOn => by cases goesOn
  inStep := inStep_of_wakeup (.inl rfl) _

theorem Invariant.begun (invariant : Invariant setup annotate scene) (now : Nat)
    {request : Session.Request} (asks : scene.duo.session.request? setup = some request) :
    Invariant setup annotate
      { scene with duo := scene.duo.begin now request, seen := [scene.text] } where
  sound := invariant.sound.begun asks
  edits := invariant.edits.begun now request
  inStep := by
    have inStep := invariant.inStep
    rw [Duo.session_begin]
    by_cases stops : request = .stopReader
    · subst stops
      obtain ⟨attempt, layer, outcome, phase⟩ :=
        (Session.request?_eq_stopReader_iff setup _).mp asks
      rw [phase]
      trivial
    · rw [Duo.begin_of_ne_stopReader scene.duo now stops]
      unfold InStep at *
      split
      · exact fun _ => .inl (by simp)
      all_goals simp_all [Wakeup]

theorem Invariant.worked (invariant : Invariant setup annotate scene) {now : Nat}
    {cancelled : Bool} {duo : Duo} {act : Duo.Act} {stream : List StreamItem} {readable : Nat}
    (change : Duo.Change setup now cancelled scene.duo act duo)
    (session : duo.session = scene.duo.session) (begun : duo.begun = scene.duo.begun)
    (edits : OnlyEdits scene.isOver stream duo)
    (wakeup : Wakeup scene.isOver scene.stream scene.duo → Wakeup scene.isOver stream duo) :
    Invariant setup annotate
      { scene with duo := duo, stream := stream, readable := readable } where
  sound := invariant.sound.step change
  edits := edits
  inStep := by
    rw [session]
    exact invariant.inStep.kept rfl rfl rfl (fun waits => begun ▸ waits) wakeup

end

section

variable {setup : Setup} {annotate : LanguageId → Utf8.Bytes → List Capture} {scene : Scene}
  {now : Nat} {cancelled : Bool}

theorem Invariant.passed (invariant : Invariant setup annotate scene) {reader worker : Reader}
    {mailbox : Mailbox} (works : scene.duo.reader = some reader)
    (taken : reader.pass? scene.duo.mailbox = some (mailbox, worker)) :
    Invariant setup annotate
      { scene with duo := { scene.duo with mailbox := mailbox, reader := some worker } } where
  sound := @Duo.IsSound.step setup 0 false _ _ _ invariant.sound (.passed works taken)
  edits := invariant.edits.passed works (Reader.passing_of_pass? taken)
  inStep := by
    have fits := invariant.sound.fits
    cases holds : scene.duo.session.phase.holding with
    | nothing | layer _ | cleaning _ _ =>
        rw [holds] at fits
        cases fits.2.symm.trans works
    | stopping layer outcome =>
        obtain ⟨attempt, phase⟩ := Phase.eq_stoppingReader holds
        simp only [phase]
        trivial
    | both layer =>
        rw [holds] at fits
        exact inStep_of_wakeup (wakeup_of_passing invariant.edits works fits.1
          (Reader.passing_of_pass? taken)) _

theorem subscribing_of_turn {window : WindowId} {before phase : Phase} {stream : StreamKey}
    (turn : Session.Turn setup window now before (.reply (.subscribed stream)) phase) :
    ∃ attempt, before = .subscribing attempt ∧ phase = .acquiring attempt stream := by
  cases turn with
  | subscribed => exact ⟨_, rfl, rfl⟩
  | unwound reason =>
      unfold Session.outcome? at reason
      split at reason <;> simp_all
  | cleaned settles => cases settles

theorem Invariant.subscribed (invariant : Invariant setup annotate scene) {stream : StreamKey}
    {phase : Phase} {request : Session.Request} {mailbox : Mailbox} {reader : Option Reader}
    (asks : scene.duo.session.request? setup = some request)
    (turn : Session.Turn setup scene.duo.session.window.id now scene.duo.session.phase
      (.reply (.subscribed stream)) phase)
    (exchanged : scene.duo.exchange? request (.reply (.subscribed stream)) =
      some (mailbox, reader)) :
    Invariant setup annotate { scene with
      duo := ⟨⟨scene.duo.session.window, phase⟩, none, mailbox, reader⟩
      stream := [], readable := 0, isOver := false } where
  sound := invariant.sound.answered asks turn exchanged
  edits := by
    obtain ⟨attempt, before, _⟩ := subscribing_of_turn turn
    obtain ⟨rfl, rfl⟩ := Duo.exchange?_plain rfl exchanged
    have fits := invariant.sound.fits
    rw [before] at fits
    intro _
    rw [fits.1, fits.2]
    simp [Mailbox.shut]
  inStep := by
    obtain ⟨attempt, _, rfl⟩ := subscribing_of_turn turn
    trivial

theorem after_answer (answer : Answer) (duo : Duo)
    (other : ∀ stream, answer ≠ .reply (.subscribed stream)) :
    (scene.after (.answer answer) duo).duo = duo ∧
      (scene.after (.answer answer) duo).text = scene.text ∧
      (scene.after (.answer answer) duo).stream = scene.stream ∧
      (scene.after (.answer answer) duo).isOver = scene.isOver := by
  unfold after
  split
  next => simp_all
  next => simp_all
  next => simp
  next => split <;> simp
  next => simp_all
  next => simp

theorem wakeup_of_plain {answer : Answer} {request : Session.Request} {session : Session}
    {mailbox : Mailbox} {reader : Option Reader} (plain : answer.isPlain = true)
    (exchanged : scene.duo.exchange? request answer = some (mailbox, reader))
    (wakeup : Wakeup scene.isOver scene.stream scene.duo) :
    Wakeup scene.isOver scene.stream ⟨session, none, mailbox, reader⟩ := by
  obtain ⟨rfl, rfl⟩ := Duo.exchange?_plain plain exchanged
  exact wakeup

theorem wakeup_of_readerStarted (sound : scene.duo.IsSound) {layer : StyleLayer}
    (holds : scene.duo.session.phase.holding = .layer layer) {duo : Duo}
    (wakeup : Wakeup scene.isOver scene.stream scene.duo) :
    Wakeup scene.isOver scene.stream duo := by
  have fits := sound.fits
  rw [holds] at fits
  rcases wakeup with closed | unread | ⟨reader, works, _⟩ | waiting
  · exact .inl closed
  · exact .inr (.inl unread)
  · cases fits.2.symm.trans works
  · rw [fits.1] at waiting
    exact absurd rfl waiting

theorem isArmed_arm (debouncer : Debouncer) (now : Nat) :
    (debouncer.arm now).2.isArmed = true := by
  obtain ⟨quiet, deadline⟩ := debouncer
  cases deadline <;> rfl

theorem inStep_answered (invariant : Invariant setup annotate scene) {answer : Answer}
    {phase : Phase} {request : Session.Request} {mailbox : Mailbox} {reader : Option Reader}
    (admitted : scene.admits annotate (.answer answer) = true)
    (waited : scene.duo.admits now cancelled request answer = true)
    (turn : Session.Turn setup scene.duo.session.window.id now scene.duo.session.phase answer phase)
    (exchanged : scene.duo.exchange? request answer = some (mailbox, reader)) :
    InStep setup annotate (scene.after (.answer answer)
      ⟨⟨scene.duo.session.window, phase⟩, none, mailbox, reader⟩) phase := by
  have inStep := invariant.inStep
  have stays : answer.isPlain = true → Wakeup scene.isOver scene.stream scene.duo →
      Wakeup scene.isOver scene.stream
        ⟨⟨scene.duo.session.window, phase⟩, none, mailbox, reader⟩ :=
    fun plain => wakeup_of_plain plain exchanged
  generalize before : scene.duo.session.phase = earlier at turn inStep
  cases turn with
  | lineRead =>
      unfold Session.identified
      split <;> trivial
  | @lineFailed step backoff error asks => cases error <;> trivial
  | unwound reason => exact inStep_unwound reason
  | readerStopped => exact inStep_finishAttempt _ _ _
  | cleaned => exact inStep_afterAttempt _ _
  | acquired | fired => exact fun waits => by cases waits
  | @textRead attempt layer round text =>
      have returned : text ∈ scene.seen := by simpa [admits] using admitted
      obtain ⟨since, begun, _⟩ := Duo.begun_of_admits (by simp) waited
      rcases inStep (by simp [begun]) with current | wakeup
      · exact .inl (current text returned)
      · exact .inr (stays rfl wakeup)
  | @annotated attempt layer round text captures =>
      have computed : captures = annotate attempt.language text := by
        simpa [admits, before] using admitted
      rcases inStep with rfl | wakeup
      · exact .inl (by rw [computed]; rfl)
      · exact .inr (stays rfl wakeup)
  | @applied attempt layer round spans =>
      simp only [after, before]
      cases round with
      | initial stream => exact inStep.imp id (stays rfl)
      | debounced debouncer =>
          exact inStep.imp id (.inl ∘ stays rfl)
  | @readerStarted attempt layer stream =>
      refine inStep.imp id fun wakeup => .inl ?_
      exact wakeup_of_readerStarted invariant.sound (by rw [before]; rfl) wakeup
  | edited => exact .inr (.inr (isArmed_arm _ _))
  | lineOpened | lineDrawn | lineSlept | lineCancelled | opened | subscribed | drawn | slept
  | sleepCancelled => trivial

theorem Invariant.answered (invariant : Invariant setup annotate scene) {answer : Answer}
    {phase : Phase} {request : Session.Request} {mailbox : Mailbox} {reader : Option Reader}
    (admitted : scene.admits annotate (.answer answer) = true)
    (asks : scene.duo.session.request? setup = some request)
    (waited : scene.duo.admits now cancelled request answer = true)
    (turn : Session.Turn setup scene.duo.session.window.id now scene.duo.session.phase answer phase)
    (exchanged : scene.duo.exchange? request answer = some (mailbox, reader)) :
    Invariant setup annotate (scene.after (.answer answer)
      ⟨⟨scene.duo.session.window, phase⟩, none, mailbox, reader⟩) := by
  by_cases subscribes : ∃ stream, answer = .reply (.subscribed stream)
  · obtain ⟨stream, rfl⟩ := subscribes
    exact invariant.subscribed asks turn exchanged
  · simp only [not_exists] at subscribes
    obtain ⟨same, text, stream, isOver⟩ :=
      @after_answer scene answer ⟨⟨scene.duo.session.window, phase⟩, none, mailbox, reader⟩
        subscribes
    constructor
    · rw [same]
      exact invariant.sound.answered asks turn exchanged
    · rw [same, stream, isOver]
      exact invariant.edits.answered exchanged
    · rw [same]
      exact inStep_answered invariant admitted waited turn exchanged

theorem Invariant.acted (invariant : Invariant setup annotate scene) {act : Duo.Act} {duo : Duo}
    (admitted : scene.admits annotate act = true)
    (change : Duo.Change setup now cancelled scene.duo act duo) :
    Invariant setup annotate (scene.after act duo) := by
  have whole := change
  cases change with
  | begun asks fresh clear => exact invariant.begun now asks
  | answered asks waited turn exchanged =>
      exact invariant.answered admitted asks waited turn exchanged
  | @took reader item worker works taken =>
      simp only [admits, Bool.and_eq_true, decide_eq_true_eq] at admitted
      exact invariant.worked whole rfl rfl
        (invariant.edits.took works (List.mem_of_mem_head? admitted.1) taken)
        fun _ => wakeup_of_take? taken
  | passed works taken => exact invariant.passed works taken
  | quit works taken =>
      exact invariant.worked whole rfl rfl (invariant.edits.quit works taken)
        fun wakeup => wakeup.quit works taken

theorem Invariant.step (invariant : Invariant setup annotate scene) {next : Scene} {event : Event}
    (taken : scene.step? setup annotate event = some next) : Invariant setup annotate next := by
  cases event with
  | change text kind =>
      cases taken
      exact invariant.changed text kind
  | arrival =>
      simp only [step?] at taken
      split at taken
      next =>
        cases taken
        exact ⟨invariant.sound, invariant.edits,
          invariant.inStep.kept rfl rfl rfl id id⟩
      next => cases taken
  | closing last =>
      cases taken
      exact invariant.closed _
  | act now cancelled act =>
      simp only [step?] at taken
      split at taken
      next admitted =>
        obtain ⟨duo, moved, rfl⟩ := Option.map_eq_some_iff.mp taken
        exact invariant.acted admitted (Duo.change_of_step? moved)
      next => cases taken

theorem Reachable.invariant {window : Window} (reachable : Reachable setup annotate window scene) :
    Invariant setup annotate scene := by
  induction reachable with
  | start text => exact invariant_start setup annotate window text
  | step earlier taken invariant => exact invariant.step taken

end

/-- No edit is lost: in a watch with nothing left to take, to pass on, to receive or to wait for,
the layer shows the spans of the text as it is. -/
theorem shown_of_quiet_watch (setup : Setup)
    (annotate : LanguageId → Utf8.Bytes → List Capture) (window : Window) (scene : Scene)
    (reachable : Reachable setup annotate window scene) (attempt : Session.Attempt)
    (layer : StyleLayer) (debouncer : Debouncer)
    (watches : scene.duo.session.phase = .watching attempt layer debouncer)
    (goesOn : scene.isOver = false) (disarmed : debouncer.isArmed = false)
    (received : ∀ kind, Message.edit kind ∉ scene.duo.mailbox.messages)
    (passed : ∀ reader kind, scene.duo.reader = some reader → reader.hand ≠ some (.edit kind))
    (unread : scene.stream = []) :
    scene.shown = compose (annotate attempt.language scene.text) scene.text setup.styles := by
  have invariant := reachable.invariant
  have inStep := invariant.inStep
  obtain ⟨_, reading, waiting⟩ := invariant.edits goesOn
  rw [watches] at inStep
  rcases inStep with current | wakeup | armed
  · exact current
  · rcases wakeup with closed | notified | ⟨reader, works, holds⟩ | messages
    · cases goesOn.symm.trans closed
    · exact absurd unread notified
    · obtain ⟨item, in_hand⟩ := Option.isSome_iff_exists.mp holds
      obtain ⟨kind, rfl⟩ := (reading reader works).1 item in_hand
      exact absurd in_hand (passed reader kind works)
    · obtain ⟨message, member⟩ := List.exists_mem_of_ne_nil _ messages
      obtain ⟨kind, rfl⟩ := waiting message member
      exact absurd member (received kind)
  · cases disarmed.symm.trans armed

def replay? (setup : Setup) (annotate : LanguageId → Utf8.Bytes → List Capture) :
    Scene → List Event → Option Scene
  | scene, [] => some scene
  | scene, event :: events =>
    (scene.step? setup annotate event).bind (replay? setup annotate · events)

theorem reachable_of_replay? {setup : Setup} {annotate : LanguageId → Utf8.Bytes → List Capture}
    {window : Window} {scene final : Scene} {events : List Event}
    (earlier : Reachable setup annotate window scene)
    (replayed : replay? setup annotate scene events = some final) :
    Reachable setup annotate window final := by
  induction events generalizing scene with
  | nil => exact Option.some.inj replayed ▸ earlier
  | cons event events ih =>
      obtain ⟨next, taken, rest⟩ := Option.bind_eq_some_iff.mp replayed
      exact ih (.step earlier taken) rest

def wholeText (_ : LanguageId) (text : Utf8.Bytes) : List Capture :=
  [⟨"keyword", 0, text.length⟩]

def highlightActs (text : Utf8.Bytes) : List Duo.Act :=
  replied (.text text) ++ replied (.captures (wholeText "rust" text)) ++ replied .done

def actsAt (now : Nat) (acts : List Duo.Act) : List Event :=
  acts.map (.act now false)

def oneEdit : List Event :=
  actsAt 0 (replied .opened ++ replied (.subscribed 1) ++ replied (.layer 2) ++
    highlightActs [] ++ [.begin, .answer .readerStarted]) ++
  [.change [102, 110] .insertion, .arrival] ++
  actsAt 0 [.take (.edit .insertion), .pass, .begin, .answer (.received (.edit .insertion)),
    .begin] ++
  actsAt (Clock.ofMillis 200) (.answer .fired :: highlightActs [102, 110])

def afterOneEdit : Scene :=
  ⟨⟨⟨⟨1, "lib.rs"⟩, .watching ⟨"rust", rustOnly.settings.backoff⟩ (.acquired 1 2)
        (.disarmed rustOnly.settings.debounce)⟩,
      none, .empty, some (.ofStream 1)⟩,
    [102, 110], [[102, 110]], [], 0, false, [⟨3, 0, 2⟩]⟩

theorem shown_of_quiet_watch_afterOneEdit :
    Reachable rustOnly wholeText ⟨1, "lib.rs"⟩ afterOneEdit ∧
      afterOneEdit.shown = compose (wholeText "rust" [102, 110]) [102, 110] .builtin :=
  have reachable : Reachable rustOnly wholeText ⟨1, "lib.rs"⟩ afterOneEdit :=
    @reachable_of_replay? rustOnly wholeText ⟨1, "lib.rs"⟩ _ _ oneEdit (.start []) rfl
  ⟨reachable, shown_of_quiet_watch rustOnly wholeText ⟨1, "lib.rs"⟩ afterOneEdit reachable _ _ _
    rfl rfl rfl (by intro kind member; cases member)
    (by intro reader kind works; cases works; simp [Reader.ofStream]) rfl⟩

end Scene
end LiveHighlight
