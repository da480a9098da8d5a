import LiveHighlight.Proofs.Mounts.Scripts

/-!
The course of a session on a script.

Whatever order the session and its reader take turns in, and however time passes, every answer is
the expected one: a reply is what the files give, no edit of the log fails, and nothing is
cancelled. `Advance` lists the answers, and `OnCourse` is what every act keeps.
-/

namespace LiveHighlight

open Session (Answer Phase Request)

/-! ### Answers -/

namespace Session

variable {setup : Setup} {session : Session} {now : Nat} {request : Request} {later : Phase}

theorem call_of_reply {reply : Reply} (asks : session.request? setup = some request)
    (turned : next? setup session.window.id now session.phase (.reply reply) = some later) :
    ∃ call, request = .call call := by
  obtain ⟨window, phase⟩ := session
  cases phase with
  | identifying step backoff =>
      cases step with
      | opening | reading => exact ⟨_, (Option.some.inj asks).symm⟩
      | drawing | sleeping => cases turned
  | highlighting attempt layer round step =>
      cases step with
      | reading | annotating => exact ⟨_, (Option.some.inj asks).symm⟩
      | applying spans =>
          obtain ⟨call, _, same⟩ := Option.map_eq_some_iff.mp asks
          exact ⟨call, same.symm⟩
  | cleaning attempt layer outcome =>
      obtain ⟨call, _, same⟩ := Option.map_eq_some_iff.mp asks
      exact ⟨call, same.symm⟩
  | opening | subscribing | acquiring => exact ⟨_, (Option.some.inj asks).symm⟩
  | startingReader | watching | stoppingReader | drawing | sleeping | ended => cases turned

theorem startingReader_of_request? {setup : Setup} {session : Session} {stream : StreamKey}
    (asks : session.request? setup = some (.startReader stream)) :
    ∃ attempt layer, session.phase = .startingReader attempt layer stream := by
  unfold request? at asks
  split at asks <;> simp_all

theorem watching_of_request? {setup : Setup} {session : Session} {deadline : Option Nat}
    (asks : session.request? setup = some (.watch deadline)) :
    ∃ attempt layer debouncer, session.phase = .watching attempt layer debouncer := by
  unfold request? at asks
  split at asks <;> simp_all

theorem watching_of_fired {window : WindowId} {phase : Phase}
    (turn : Turn setup window now phase .fired later) :
    ∃ attempt layer debouncer, phase = .watching attempt layer debouncer := by
  cases turn with
  | fired => exact ⟨_, _, _, rfl⟩
  | unwound reason =>
      unfold outcome? at reason
      split at reason <;> simp_all
  | cleaned settles => cases settles

end Session

theorem Reader.Passing.goesOn {mailbox later : Mailbox} {reader next : Reader}
    (passing : Passing mailbox reader later next) : reader.isFinished = false := by
  cases passing with
  | edit awaits | failed awaits | ended awaits => simp [isFinished, awaits]
  | delivered delivers | refused delivers => simp [isFinished, delivers]

namespace Duo

theorem answer?_eq_some_iff {setup : Setup} {now : Nat} {cancelled : Bool} {duo next : Duo}
    {answer : Answer} :
    duo.answer? setup now cancelled answer = some next ↔
      ∃ request phase mailbox reader, duo.session.request? setup = some request ∧
        duo.admits now cancelled request answer = true ∧
        Session.next? setup duo.session.window.id now duo.session.phase answer = some phase ∧
        duo.exchange? request answer = some (mailbox, reader) ∧
        ⟨⟨duo.session.window, phase⟩, none, mailbox, reader⟩ = next := by
  unfold answer?
  constructor
  · intro taken
    split at taken
    next => cases taken
    next request asks =>
      split at taken
      next admitted =>
        split at taken
        next session mailbox reader stepped exchanged =>
          obtain ⟨phase, turned, rfl⟩ := Option.map_eq_some_iff.mp stepped
          exact ⟨request, phase, mailbox, reader, asks, admitted, turned, exchanged,
            Option.some.inj taken⟩
        next => cases taken
      next => cases taken
  · rintro ⟨request, phase, mailbox, reader, asks, admitted, turned, exchanged, rfl⟩
    simp [asks, admitted, Session.step?, turned, exchanged]

theorem exchange?_received {duo : Duo} {deadline : Option Nat} {message : Message}
    {mailbox : Mailbox} {reader : Option Reader}
    (exchanged : duo.exchange? (.watch deadline) (.received message) = some (mailbox, reader)) :
    reader = duo.reader ∧ (duo.mailbox.messages = message :: mailbox.messages ∨
      mailbox = duo.mailbox ∧ message = .closed) := by
  simp only [exchange?, Option.map_eq_some_iff, Prod.mk.injEq] at exchanged
  obtain ⟨_, received, rfl, rfl⟩ := exchanged
  refine ⟨rfl, ?_⟩
  rcases messages_of_receive? received with first | ⟨_, same, _, last⟩
  · exact .inl first
  · exact .inr ⟨same, last⟩

theorem mem_streams_iff {duo : Duo} {key : StreamKey} :
    key ∈ duo.streams ↔ duo.session.stream? = some key ∨
      ∃ reader, duo.reader = some reader ∧ reader.isFinished = false ∧ reader.stream = key := by
  simp [streams, and_assoc]

@[simp]
theorem streams_begin (duo : Duo) (now : Nat) (request : Request) :
    (duo.begin now request).streams = duo.streams := by
  by_cases stops : request = .stopReader
  · subst stops
    cases works : duo.reader <;> simp [begin, streams, works, Option.filter, Reader.stop,
      Reader.isFinished]
    split <;> rfl
  · rw [begin_of_ne_stopReader duo now stops]
    rfl

end Duo

/-! ### Sessions over files -/

/-- A session with its reader, over files that answer every call at once. -/
structure MountedDuo (γ : Type) [ParserLibrary γ] where
  duo : Duo
  mounts : Mounts γ

namespace MountedDuo

variable {γ : Type} [ParserLibrary γ]

def start (highlighter : Highlighter γ) (tree : FileTree) (window : Window) :
    MountedDuo γ :=
  ⟨.start highlighter.setup window, .ofHighlighter highlighter tree⟩

/-- The mounts after an act, where the files allow for it: a reply is the one that they give, and
an item is the one that they tell. -/
def mountsAfter? (setup : Setup) (system : MountedDuo γ) : Duo.Act → Option (Mounts γ)
  | .answer (.reply reply) =>
    match system.duo.session.request? setup with
    | some (.call call) =>
      let (given, mounts) := system.mounts.answer call
      if given = reply then some mounts else none
    | _ => none
  | .take item =>
    match system.duo.reader.bind fun reader => system.mounts.nextEdit reader.stream with
    | some (told, mounts) => if told = item then some mounts else none
    | none => none
  | _ => some system.mounts

def step? (setup : Setup) (now : Nat) (system : MountedDuo γ) (act : Duo.Act) :
    Option (MountedDuo γ) :=
  (system.mountsAfter? setup act).bind fun mounts =>
    (system.duo.step? setup now false act).map (⟨·, mounts⟩)

inductive Run (stage : ScriptStage γ) : Nat → MountedDuo γ → Prop
  | start : Run stage 0 (.start stage.highlighter stage.tree stage.window)
  | act {count : Nat} {system next : MountedDuo γ} {now : Nat} {act : Duo.Act}
      (earlier : Run stage count system)
      (taken : system.step? stage.highlighter.setup now act = some next) :
      Run stage (count + 1) next

section

variable {setup : Setup} {now : Nat} {system next : MountedDuo γ} {mounts : Mounts γ}

theorem step?_eq_some_iff {act : Duo.Act} :
    system.step? setup now act = some next ↔
      system.mountsAfter? setup act = some next.mounts ∧
        system.duo.step? setup now false act = some next.duo := by
  simp only [step?, Option.bind_eq_some_iff, Option.map_eq_some_iff]
  constructor
  · rintro ⟨mounts, moved, duo, taken, rfl⟩
    exact ⟨moved, taken⟩
  · rintro ⟨moved, taken⟩
    exact ⟨next.mounts, moved, next.duo, taken, rfl⟩

theorem mountsAfter?_reply {call : Call} {reply : Reply}
    (asks : system.duo.session.request? setup = some (.call call)) :
    system.mountsAfter? setup (.answer (.reply reply)) = some mounts ↔
      system.mounts.answer call = (reply, mounts) := by
  simp only [mountsAfter?, asks]
  cases system.mounts.answer call with
  | mk given after => simp [Prod.ext_iff]

theorem mountsAfter?_take {item : StreamItem} :
    system.mountsAfter? setup (.take item) = some mounts ↔
      ∃ reader, system.duo.reader = some reader ∧
        system.mounts.nextEdit reader.stream = some (item, mounts) := by
  simp only [mountsAfter?]
  cases works : system.duo.reader with
  | none => simp
  | some reader =>
      simp only [Option.bind_some, Option.some.injEq, exists_eq_left']
      cases told : system.mounts.nextEdit reader.stream with
      | none => simp
      | some answer =>
          obtain ⟨given, after⟩ := answer
          simp [Prod.ext_iff]

end

/-! ### The course -/

/-- Nothing that is under way from the stream tells of a failure. -/
structure IsCalm (duo : Duo) : Prop where
  reader : ∀ reader, duo.reader = some reader → ∀ error,
    reader.hand ≠ some (.failed error) ∧ reader.phase ≠ .delivering (.failed error)
  messages : ∀ error, .failed error ∉ duo.mailbox.messages

def Course (stage : ScriptStage γ) : Phase → Prop
  | .opening attempt | .subscribing attempt | .acquiring attempt _
  | .highlighting attempt _ _ .reading | .startingReader attempt _ _ | .watching attempt _ _ =>
      attempt.language = "bash"
  | .highlighting attempt _ _ (.annotating text) => attempt.language = "bash" ∧ text = stage.body
  | .highlighting attempt _ _ (.applying spans) => attempt.language = "bash" ∧ spans = stage.spans
  | .stoppingReader _ _ outcome | .cleaning _ _ outcome => outcome = .streamEnded
  | .ended ending => ending = .streamEnded
  | _ => False

def hasStyled : Phase → Bool
  | .highlighting _ _ (.debounced _) _ | .startingReader _ _ _ | .watching _ _ _
  | .stoppingReader _ _ _ | .cleaning _ _ _ | .ended _ => true
  | _ => false

def Holds (stage : ScriptStage γ) (mounts : Mounts γ) (phase : Phase) : Prop :=
  ∀ layer, phase.holding.layer? = some layer →
    ∃ key, layer = .acquired stage.window.id key ∧ mounts.layers[key]? = some stage.layer

structure OnCourse (stage : ScriptStage γ) (system : MountedDuo γ) : Prop where
  sound : system.duo.IsSound
  window : system.duo.session.window = stage.window
  hosts : stage.Hosts system.mounts
  course : Course stage system.duo.session.phase
  styled : hasStyled system.duo.session.phase = true → system.mounts.tree = stage.written
  held : Holds stage system.mounts system.duo.session.phase
  streams : ∀ key ∈ system.duo.streams, ∃ lines,
    system.mounts.streams[key]? = some ⟨stage.window.id, lines⟩ ∧
      lines.ReadsText stage.tree stage.log
  calm : IsCalm system.duo

/-- The answers that a session on its course gets, with where they lead. -/
inductive Advance (stage : ScriptStage γ) (now : Nat) (mounts : Mounts γ) :
    Phase → Answer → Phase → Mounts γ → Prop
  | opened {attempt} : Advance stage now mounts
      (.opening attempt) (.reply .opened) (.subscribing attempt) mounts
  | subscribed {attempt} : Advance stage now mounts
      (.subscribing attempt) (.reply (.subscribed mounts.streams.size))
      (.acquiring attempt mounts.streams.size)
      { mounts with streams := mounts.streams.push ⟨stage.window.id, .ofFile stage.log⟩ }
  | acquired {attempt stream} : Advance stage now mounts
      (.acquiring attempt stream) (.reply (.layer mounts.layers.size))
      (.highlighting attempt (.acquired stage.window.id mounts.layers.size) (.initial stream)
        .reading)
      { mounts with layers := mounts.layers.push stage.layer }
  | textRead {attempt layer round} : Advance stage now mounts
      (.highlighting attempt layer round .reading) (.reply (.text stage.body))
      (.highlighting attempt layer round (.annotating stage.body)) mounts
  | annotated {attempt layer round} : Advance stage now mounts
      (.highlighting attempt layer round (.annotating stage.body))
      (.reply (.captures stage.captures))
      (.highlighting attempt layer round (.applying stage.spans)) mounts
  | applied {attempt layer round} : Advance stage now mounts
      (.highlighting attempt layer round (.applying stage.spans)) (.reply .done)
      (Session.highlighted attempt layer round) { mounts with tree := stage.written }
  | readerStarted {attempt layer stream} : Advance stage now mounts
      (.startingReader attempt layer stream) .readerStarted
      (.watching attempt layer (.disarmed stage.highlighter.setup.settings.debounce)) mounts
  | fired {attempt layer debouncer} (armed : debouncer.isArmed = true) : Advance stage now mounts
      (.watching attempt layer debouncer) .fired
      (.highlighting attempt layer (.debounced debouncer.disarm) .reading) mounts
  | edited {attempt layer debouncer kind} : Advance stage now mounts
      (.watching attempt layer debouncer) (.received (.edit kind))
      (.watching attempt layer (debouncer.arm now).2) mounts
  | closed {attempt layer debouncer} : Advance stage now mounts
      (.watching attempt layer debouncer) (.received .closed)
      (.stoppingReader attempt layer .streamEnded) mounts
  | readerStopped {attempt layer} (present : layer.isPresent = true) : Advance stage now mounts
      (.stoppingReader attempt layer .streamEnded) .readerStopped
      (.cleaning attempt layer .streamEnded) mounts
  | cleaned {attempt layer answer} (settles : answer.settlesCleanup = true) :
      Advance stage now mounts
        (.cleaning attempt layer .streamEnded) answer (.ended .streamEnded) mounts

section

variable {stage : ScriptStage γ} {now : Nat} {system next : MountedDuo γ} {mounts after : Mounts γ}
  {phase later : Phase} {answer : Answer}

theorem Advance.next? (advance : Advance stage now mounts phase answer later after) :
    Session.next? stage.highlighter.setup stage.window.id now phase answer = some later := by
  cases advance with
  | annotated => rfl
  | readerStopped present => simp only [Session.next?, Session.finishAttempt_present _ _ present]
  | @cleaned _ _ answer settles =>
      unfold Answer.settlesCleanup at settles
      split at settles
      case h_4 => cases settles
      all_goals rfl
  | opened | subscribed | acquired | textRead | applied | readerStarted | fired | edited
  | closed => rfl

theorem OnCourse.answer_call (course : OnCourse stage system) (now : Nat) {call : Call}
    (asks : system.duo.session.request? stage.highlighter.setup = some (.call call)) :
    ∃ reply later mounts, system.mounts.answer call = (reply, mounts) ∧
      Advance stage now system.mounts system.duo.session.phase (.reply reply) later mounts := by
  have hosts := course.hosts
  have onCourse := course.course
  have held := course.held
  simp only [Session.request?, course.window] at asks
  generalize system.duo.session.phase = phase at asks onCourse held
  cases phase with
  | opening attempt =>
      cases asks
      exact ⟨_, _, _, hosts.answer_openWindow, .opened⟩
  | subscribing attempt =>
      cases asks
      exact ⟨_, _, _, hosts.answer_subscribe, .subscribed⟩
  | acquiring attempt stream =>
      cases asks
      exact ⟨_, _, _, hosts.answer_openLayer _, .acquired⟩
  | highlighting attempt layer round step =>
      cases step with
      | reading =>
          cases asks
          exact ⟨_, _, _, hosts.answer_readText, .textRead⟩
      | annotating text =>
          obtain ⟨bash, rfl⟩ := onCourse
          cases asks
          rw [bash]
          exact ⟨_, _, _, hosts.answer_annotate, .annotated⟩
      | applying spans =>
          obtain ⟨_, rfl⟩ := onCourse
          obtain ⟨key, rfl, kept⟩ := held layer (by cases round <;> rfl)
          cases asks
          exact ⟨_, _, _, hosts.answer_apply kept, .applied⟩
  | cleaning attempt layer outcome =>
      obtain rfl : outcome = .streamEnded := onCourse
      obtain ⟨key, rfl, _⟩ := held layer rfl
      cases asks
      obtain ⟨reply, answered, settles⟩ :=
        ScriptStage.Hosts.answer_clear system.mounts stage.window.id key
      exact ⟨reply, _, _, answered, .cleaned settles⟩
  | startingReader | watching | stoppingReader | ended => cases asks
  | identifying | drawing | sleeping => cases onCourse

theorem OnCourse.advance (course : OnCourse stage system) {request : Request}
    {mailbox : Mailbox} {reader : Option Reader}
    (asks : system.duo.session.request? stage.highlighter.setup = some request)
    (admitted : system.duo.admits now false request answer = true)
    (turned : Session.next? stage.highlighter.setup system.duo.session.window.id now
      system.duo.session.phase answer = some later)
    (exchanged : system.duo.exchange? request answer = some (mailbox, reader))
    (moved : system.mountsAfter? stage.highlighter.setup (.answer answer) = some mounts) :
    Advance stage now system.mounts system.duo.session.phase answer later mounts := by
  have onCourse := course.course
  cases answer with
  | reply reply =>
      obtain ⟨call, rfl⟩ := Session.call_of_reply asks turned
      -- the files give one reply only, and with it the session goes one way only
      obtain ⟨given, expected, after, answered, advance⟩ := course.answer_call now asks
      rw [mountsAfter?_reply asks, answered, Prod.mk.injEq] at moved
      obtain ⟨rfl, rfl⟩ := moved
      rw [course.window, advance.next?] at turned
      cases turned
      exact advance
  | cancelled => simp [Duo.admits] at admitted
  | delay | slept =>
      generalize system.duo.session.phase = phase at turned onCourse
      cases phase with
      | highlighting attempt layer round step => cases step <;> cases turned
      | identifying | drawing | sleeping => cases onCourse
      | _ => cases turned
  | givenUp =>
      generalize system.duo.session.phase = phase at turned onCourse ⊢
      cases phase with
      | cleaning attempt layer outcome =>
          obtain rfl : outcome = .streamEnded := onCourse
          cases turned
          cases moved
          exact .cleaned rfl
      | highlighting attempt layer round step => cases step <;> cases turned
      | identifying | drawing | sleeping => cases onCourse
      | _ => cases turned
  | readerStarted =>
      obtain ⟨attempt, layer, stream, before⟩ :=
        Session.startingReader_of_turn (Session.turn_of_next? turned)
      rw [before] at turned ⊢
      cases turned
      cases moved
      exact .readerStarted
  | fired =>
      obtain ⟨attempt, layer, debouncer, before⟩ :=
        Session.watching_of_fired (Session.turn_of_next? turned)
      simp only [Session.request?, before, Option.some.injEq] at asks
      subst asks
      obtain ⟨_, _, possible⟩ := Duo.begun_of_admits (by simp) admitted
      rw [before] at turned ⊢
      cases turned
      cases moved
      obtain ⟨_, deadline, _⟩ := Option.any_eq_true _ _ |>.mp possible
      exact .fired (by rw [Debouncer.isArmed, deadline, Option.isSome_some])
  | received message =>
      obtain ⟨attempt, layer, debouncer, before⟩ :=
        Session.watching_of_turn (Session.turn_of_next? turned)
      simp only [Session.request?, before, Option.some.injEq] at asks
      subst asks
      rw [before] at turned ⊢
      cases message with
      | edit kind =>
          cases turned
          cases moved
          exact .edited
      | closed =>
          cases turned
          cases moved
          exact .closed
      | failed error =>
          obtain ⟨_, first | ⟨_, last⟩⟩ := Duo.exchange?_received exchanged
          · exact absurd (by simp [first]) (course.calm.messages error)
          · cases last
  | readerStopped =>
      obtain ⟨attempt, layer, outcome, before⟩ :=
        Session.stoppingReader_of_turn (Session.turn_of_next? turned)
      have present := course.sound.isPresent layer (by rw [before]; rfl)
      rw [before] at turned onCourse ⊢
      obtain rfl : outcome = .streamEnded := onCourse
      simp only [Session.next?, Session.finishAttempt_present _ _ present] at turned
      cases turned
      cases moved
      exact .readerStopped present

/-! ### What every act keeps -/

theorem Advance.hosts (advance : Advance stage now mounts phase answer later after)
    (hosts : stage.Hosts mounts) : stage.Hosts after := by
  cases advance with
  | applied => exact ⟨hosts.editor, hosts.styles, hosts.annotator, .inr rfl⟩
  | _ => exact ⟨hosts.editor, hosts.styles, hosts.annotator, hosts.tree⟩

theorem Advance.course (advance : Advance stage now mounts phase answer later after)
    (course : Course stage phase) : Course stage later := by
  cases advance with
  | @textRead attempt layer round => exact ⟨course, rfl⟩
  | annotated => exact ⟨course.1, rfl⟩
  | @applied attempt layer round =>
      cases round with
      | initial stream => exact course.1
      | debounced debouncer => exact course.1
  | closed | readerStopped | cleaned => rfl
  | opened | subscribed | acquired | readerStarted | fired | edited => exact course

theorem Advance.styled (advance : Advance stage now mounts phase answer later after)
    (styled : hasStyled phase = true → mounts.tree = stage.written)
    (applied : hasStyled later = true) :
    after.tree = stage.written := by
  cases advance with
  | applied => rfl
  | opened | subscribed | acquired => cases applied
  | @textRead attempt layer round | @annotated attempt layer round =>
      cases round with
      | initial stream => cases applied
      | debounced debouncer => exact styled rfl
  | readerStarted | fired | edited | closed | readerStopped | cleaned => exact styled rfl

theorem Advance.held (advance : Advance stage now mounts phase answer later after)
    (held : Holds stage mounts phase) : Holds stage after later := by
  cases advance with
  | acquired =>
      rintro _ ⟨rfl⟩
      exact ⟨_, rfl, Array.getElem?_push_size⟩
  | @textRead attempt layer round | @annotated attempt layer round | @applied attempt layer round =>
      cases round with
      | initial stream => exact held
      | debounced debouncer => exact held
  | opened | subscribed => rintro _ ⟨⟩
  | cleaned => rintro _ ⟨⟩
  | readerStarted | fired | edited | closed | readerStopped => exact held

theorem Advance.streams
    (advance : Advance stage now system.mounts system.duo.session.phase answer later mounts)
    (sound : system.duo.IsSound) {request : Request}
    (asks : system.duo.session.request? stage.highlighter.setup = some request)
    {mailbox : Mailbox} {reader : Option Reader}
    (exchanged : system.duo.exchange? request answer = some (mailbox, reader)) :
    let duo : Duo := ⟨⟨system.duo.session.window, later⟩, none, mailbox, reader⟩
    (mounts.streams = system.mounts.streams ∧
        (duo.streams = system.duo.streams ∨ duo.streams = [])) ∨
      (∃ attempt, system.duo.session.phase = .subscribing attempt) ∧
        mounts.streams = system.mounts.streams.push ⟨stage.window.id, .ofFile stage.log⟩ ∧
        duo.streams = [system.mounts.streams.size] := by
  obtain ⟨⟨⟨ofWindow, phase⟩, since, box, worker⟩, before⟩ := system
  have fits := sound.fits
  cases advance with
  | @subscribed attempt =>
      obtain ⟨_, rfl⟩ := Duo.exchange?_plain rfl exchanged
      obtain rfl : reader = none := fits.2
      exact .inr ⟨⟨attempt, rfl⟩, rfl, rfl⟩
  | readerStarted =>
      cases asks
      cases exchanged
      -- the stream passes from the session to the reader, and no other reader was there
      obtain rfl : worker = none := fits.2
      exact .inl ⟨rfl, .inl rfl⟩
  | readerStopped =>
      cases asks
      simp only [Duo.exchange?] at exchanged
      split at exchanged
      next =>
        cases exchanged
        exact .inl ⟨rfl, .inr rfl⟩
      next => cases exchanged
  | opened | acquired | fired | edited | closed =>
      obtain ⟨rfl, _⟩ := Duo.exchange?_keeps exchanged (by simp) (by simp)
      exact .inl ⟨rfl, .inl rfl⟩
  | @textRead attempt layer round | @annotated attempt layer round | @applied attempt layer round =>
      obtain ⟨rfl, _⟩ := Duo.exchange?_keeps exchanged (by simp) (by simp)
      cases round <;> exact .inl ⟨rfl, .inl rfl⟩
  | cleaned settles =>
      obtain ⟨_, rfl⟩ := Duo.exchange?_plain (Answer.isPlain_of_settlesCleanup settles) exchanged
      exact .inl ⟨rfl, .inl rfl⟩

/-! ### Calm -/

theorem IsCalm.begun {duo : Duo} (calm : IsCalm duo) (now : Nat) (request : Request) :
    IsCalm (duo.begin now request) := by
  by_cases stops : request = .stopReader
  · subst stops
    refine ⟨fun reader works => ?_, by simp [Duo.begin, Mailbox.shut]⟩
    obtain ⟨worker, at_work, rfl⟩ := Option.map_eq_some_iff.mp works
    exact calm.reader worker at_work
  · rw [Duo.begin_of_ne_stopReader duo now stops]
    exact ⟨calm.reader, calm.messages⟩

theorem IsCalm.answered {duo : Duo} (calm : IsCalm duo) {session : Session} {begun : Option Nat}
    {request : Request} {mailbox : Mailbox} {reader : Option Reader}
    (exchanged : duo.exchange? request answer = some (mailbox, reader)) :
    IsCalm ⟨session, begun, mailbox, reader⟩ := by
  obtain ⟨readers, subset⟩ := Duo.exchange?_cases exchanged
  refine ⟨fun worker works => ?_, fun error member => calm.messages error (subset _ member)⟩
  rcases readers with rfl | rfl | ⟨key, rfl⟩
  · exact calm.reader worker works
  · cases works
  · cases works
    simp [Reader.ofStream]

theorem IsCalm.passed {duo : Duo} (calm : IsCalm duo) {reader worker : Reader} {mailbox : Mailbox}
    (works : duo.reader = some reader)
    (passing : Reader.Passing duo.mailbox reader mailbox worker) :
    IsCalm { duo with mailbox := mailbox, reader := some worker } := by
  have quiet := calm.reader reader works
  cases passing with
  | @edit kind awaits holds =>
      refine ⟨?_, fun error member => ?_⟩
      · rintro _ ⟨rfl⟩ error
        simp only
        split <;> simp
      · have old : .failed error ∈ duo.mailbox.messages := by
          unfold Reader.passOn Mailbox.offer Mailbox.put at member
          grind
        exact calm.messages error old
  | failed awaits holds => exact absurd holds (quiet _).1
  | ended awaits holds =>
      refine ⟨?_, calm.messages⟩
      rintro _ ⟨rfl⟩ error
      simp
  | @delivered last delivers empty received =>
      refine ⟨?_, fun error member => ?_⟩
      · rintro _ ⟨rfl⟩ error
        simp [empty]
      · rcases List.mem_append.mp member with old | new
        · exact calm.messages error old
        · rw [List.mem_singleton] at new
          exact absurd (new ▸ delivers) (quiet error).2
  | refused delivers empty refused =>
      refine ⟨?_, calm.messages⟩
      rintro _ ⟨rfl⟩ error
      simp [empty]

/-! ### Every act -/

theorem onCourse_start (stage : ScriptStage γ) :
    OnCourse stage (.start stage.highlighter stage.tree stage.window) := by
  have opening : Session.start stage.highlighter.setup stage.window =
      ⟨stage.window, .opening ⟨"bash", stage.highlighter.setup.settings.backoff⟩⟩ := by
    rw [Session.start, stage.resolves]
  refine ⟨Duo.isSound_start _ _, ?_, stage.hosts_start, ?_, ?_, ?_, ?_, ?_⟩
  all_goals simp only [start, Duo.start, opening]
  · rfl
  · intro styled
    cases styled
  · rintro _ ⟨⟩
  · rintro key ⟨⟩
  · exact ⟨by simp, by simp [Mailbox.shut]⟩

theorem OnCourse.begun (course : OnCourse stage system) {request : Request}
    (asks : system.duo.session.request? stage.highlighter.setup = some request) :
    OnCourse stage ⟨system.duo.begin now request, system.mounts⟩ where
  sound := course.sound.begun asks
  window := by rw [Duo.session_begin, course.window]
  hosts := course.hosts
  course := by rw [Duo.session_begin]; exact course.course
  styled := by rw [Duo.session_begin]; exact course.styled
  held := by rw [Duo.session_begin]; exact course.held
  streams := by rw [Duo.streams_begin]; exact course.streams
  calm := course.calm.begun now request

theorem OnCourse.nextEdit (course : OnCourse stage system) {reader : Reader}
    (works : system.duo.reader = some reader) (goesOn : reader.isFinished = false) :
    ∃ lines item onward, system.mounts.streams[reader.stream]? = some ⟨stage.window.id, lines⟩ ∧
      system.mounts.nextEdit reader.stream =
        some (item, system.mounts.setLines reader.stream onward) ∧
      onward.ReadsText stage.tree stage.log ∧
      onward.remaining stage.tree ≤ lines.remaining stage.tree ∧
      (item = .ended ∨ (∃ kind, item = .edit kind) ∧
        onward.remaining stage.tree < lines.remaining stage.tree) := by
  obtain ⟨lines, at_key, reads⟩ :=
    course.streams reader.stream (Duo.mem_streams_iff.mpr (.inr ⟨reader, works, goesOn, rfl⟩))
  have same := course.hosts.content_log
  obtain ⟨item, onward, next, readsOn, atMost, fate⟩ :=
    EditorFiles.nextEdit_of_text stage.window.id (reads.congr same)
  rw [LineStream.remaining_congr reads.source same,
    LineStream.remaining_congr readsOn.source same] at atMost fate
  refine ⟨lines, item, onward, at_key, ?_, readsOn.congr same.symm, atMost, fate⟩
  simp only [Mounts.nextEdit, at_key, Option.map_some, next]

theorem OnCourse.answered (course : OnCourse stage system) {request : Request}
    {mailbox : Mailbox} {reader : Option Reader}
    (asks : system.duo.session.request? stage.highlighter.setup = some request)
    (exchanged : system.duo.exchange? request answer = some (mailbox, reader))
    (turned : Session.next? stage.highlighter.setup system.duo.session.window.id now
      system.duo.session.phase answer = some later)
    (advance : Advance stage now system.mounts system.duo.session.phase answer later mounts) :
    OnCourse stage ⟨⟨⟨system.duo.session.window, later⟩, none, mailbox, reader⟩, mounts⟩ where
  sound := course.sound.answered asks (Session.turn_of_next? turned) exchanged
  window := course.window
  hosts := advance.hosts course.hosts
  course := advance.course course.course
  styled := advance.styled course.styled
  held := advance.held course.held
  streams := by
    rintro key used
    rcases advance.streams course.sound asks exchanged with ⟨same, kept | gone⟩ | ⟨_, pushed, fresh⟩
    · rw [same]
      exact course.streams key (kept ▸ used)
    · rw [gone] at used
      cases used
    · rw [fresh, List.mem_singleton] at used
      obtain ⟨text, content⟩ := stage.script.log_text
      refine ⟨.ofFile stage.log, ?_, LineStream.readsText_ofFile content⟩
      rw [pushed, used, Array.getElem?_push_size]
  calm := course.calm.answered exchanged

theorem OnCourse.took (course : OnCourse stage system) {reader worker : Reader} {item : StreamItem}
    (works : system.duo.reader = some reader) (taken : reader.take? false item = some worker)
    (told : system.mounts.nextEdit reader.stream = some (item, mounts)) :
    OnCourse stage ⟨{ system.duo with reader := some worker }, mounts⟩ := by
  obtain ⟨⟨awaits, empty, dismissed⟩, rfl⟩ := Reader.take?_eq_some_iff.mp taken
  obtain ⟨lines, given, onward, at_key, next, reads, _, fate⟩ :=
    course.nextEdit works (by simp [Reader.isFinished, awaits])
  rw [next, Option.some.injEq, Prod.mk.injEq] at told
  obtain ⟨rfl, rfl⟩ := told
  refine ⟨course.sound.worked works rfl rfl fun _ => awaits, course.window,
    ⟨course.hosts.editor, course.hosts.styles, course.hosts.annotator, course.hosts.tree⟩,
    course.course, course.styled, course.held, ?_, ?_, course.calm.messages⟩
  · intro key used
    have before : key ∈ system.duo.streams := by
      rw [Duo.mem_streams_iff] at used ⊢
      refine used.imp id ?_
      rintro ⟨_, ⟨rfl⟩, goesOn, at_stream⟩
      exact ⟨reader, works, goesOn, at_stream⟩
    simp only [Mounts.setLines, Array.getElem?_modify]
    split
    next same =>
      subst same
      exact ⟨onward, by rw [at_key]; rfl, reads⟩
    next => exact course.streams key before
  · rintro _ ⟨rfl⟩ error
    refine ⟨?_, ((course.calm.reader reader works) error).2⟩
    rcases fate with rfl | ⟨⟨kind, rfl⟩, _⟩ <;> simp

theorem OnCourse.worked (course : OnCourse stage system) {reader worker : Reader}
    {mailbox : Mailbox} (works : system.duo.reader = some reader)
    (goesOn : reader.isFinished = false) (same : worker.stream = reader.stream)
    (sound : Duo.IsSound { system.duo with mailbox := mailbox, reader := some worker })
    (calm : IsCalm { system.duo with mailbox := mailbox, reader := some worker }) :
    OnCourse stage ⟨{ system.duo with mailbox := mailbox, reader := some worker },
      system.mounts⟩ where
  sound := sound
  window := course.window
  hosts := course.hosts
  course := course.course
  styled := course.styled
  held := course.held
  streams := by
    intro key used
    refine course.streams key (Duo.mem_streams_iff.mpr ?_)
    refine (Duo.mem_streams_iff.mp used).imp id ?_
    rintro ⟨_, ⟨rfl⟩, _, at_stream⟩
    exact ⟨reader, works, goesOn, same.symm.trans at_stream⟩
  calm := calm

theorem OnCourse.step (course : OnCourse stage system) {act : Duo.Act}
    (taken : system.step? stage.highlighter.setup now act = some next) : OnCourse stage next := by
  obtain ⟨moved, stepped⟩ := step?_eq_some_iff.mp taken
  obtain ⟨duo, mounts⟩ := next
  have change := Duo.change_of_step? stepped
  have sound := course.sound.step change
  cases change with
  | begun asks =>
      cases moved
      exact course.begun asks
  | answered =>
      obtain ⟨request, phase, mailbox, reader, asks, admitted, turned, exchanged, same⟩ :=
        Duo.answer?_eq_some_iff.mp stepped
      cases same
      exact course.answered asks exchanged turned
        (course.advance asks admitted turned exchanged moved)
  | took works worked =>
      obtain ⟨reader, at_work, told⟩ := mountsAfter?_take.mp moved
      cases works.symm.trans at_work
      exact course.took works worked told
  | passed works worked =>
      cases moved
      have passing := Reader.passing_of_pass? worked
      exact course.worked works passing.goesOn passing.keeps.2.2 sound
        (course.calm.passed works passing)
  | quit works worked =>
      cases moved
      obtain ⟨⟨awaits, empty, _⟩, rfl⟩ := Reader.quit?_eq_some_iff.mp worked
      refine course.worked works (by simp [Reader.isFinished, awaits]) rfl sound
        ⟨?_, course.calm.messages⟩
      rintro _ ⟨rfl⟩ error
      simp [empty]

theorem Run.onCourse {count : Nat} (run : Run stage count system) : OnCourse stage system := by
  induction run with
  | start => exact onCourse_start stage
  | act earlier taken course => exact course.step taken

end

end MountedDuo
end LiveHighlight
