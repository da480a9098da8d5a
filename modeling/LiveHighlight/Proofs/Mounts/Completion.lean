import LiveHighlight.Proofs.Mounts.Course
import Mathlib.Algebra.Order.BigOperators.Group.List

/-!
A session on a script, run to its end.

Each act uses up weight that the session began with, and until the session has ended some act can
be taken. So every run ends, and it ends with the spans written.
-/

namespace LiveHighlight

open Session (Answer Phase Request)

/-! ### Weight

An edit loses weight on its way to the session: it weighs 12 for each byte of its line while it is
unread, 11 in the hand of the reader, 10 in the mailbox, and 8 as a deadline. A highlight takes
three answers, and with each of them two acts. -/

namespace Debouncer

def weight (debouncer : Debouncer) : Nat :=
  if debouncer.isArmed then 14 else 6

@[simp] theorem weight_disarmed (quiet : Nat) : (disarmed quiet).weight = 6 := rfl

@[simp] theorem weight_disarm (debouncer : Debouncer) : debouncer.disarm.weight = 6 := rfl

theorem weight_of_isArmed {debouncer : Debouncer} (armed : debouncer.isArmed = true) :
    debouncer.weight = 14 :=
  if_pos armed

theorem le_weight (debouncer : Debouncer) : 6 ≤ debouncer.weight := by
  unfold weight
  split <;> omega

theorem weight_arm (debouncer : Debouncer) (now : Nat) :
    (debouncer.arm now).2.weight ≤ debouncer.weight + 8 := by
  unfold arm
  split
  next => exact Nat.le_add_right _ _
  next disarmed => simp [weight, isArmed, disarmed]

end Debouncer

namespace Session

def HighlightStep.weight : HighlightStep → Nat
  | .reading => 6
  | .annotating _ => 4
  | .applying _ => 2

def Phase.weight : Phase → Nat
  | .opening _ => 33
  | .subscribing _ => 31
  | .acquiring _ _ => 29
  | .highlighting _ _ (.initial _) step => 21 + step.weight
  | .highlighting _ _ (.debounced debouncer) step => debouncer.weight + step.weight
  | .startingReader _ _ _ => 21
  | .watching _ _ debouncer => debouncer.weight
  | .stoppingReader _ _ _ => 4
  | .cleaning _ _ _ => 2
  | _ => 0

def Phase.ahead (size : Nat) : Phase → Nat
  | .opening _ | .subscribing _ => size
  | _ => 0

end Session

namespace Reader

def weight (reader : Reader) : Nat :=
  match reader.phase, reader.hand with
  | .awaiting, none => 13
  | .awaiting, some (.edit _) => 24
  | .awaiting, some _ => 12
  | .delivering _, _ => 11
  | .finished, _ => 0

theorem weight_of_ready {reader : Reader} (awaits : reader.phase = .awaiting)
    (empty : reader.hand = none) : reader.weight = 13 := by
  simp [weight, awaits, empty]

theorem Passing.weight_lt {mailbox later : Mailbox} {reader next : Reader}
    (passing : Passing mailbox reader later next) :
    next.weight + 10 * later.messages.length < reader.weight + 10 * mailbox.messages.length := by
  cases passing with
  | @edit kind awaits holds =>
      have room : (passOn mailbox (.edit kind)).messages.length ≤ mailbox.messages.length + 1 := by
        unfold passOn Mailbox.offer Mailbox.put
        grind
      have atMost : weight { reader with
          phase := if mailbox.isOpen then .awaiting else .finished, hand := none } ≤ 13 := by
        cases mailbox.isOpen <;> simp [weight]
      have before : reader.weight = 24 := by simp [weight, awaits, holds]
      omega
  | failed awaits holds | ended awaits holds => simp [weight, awaits, holds]
  | delivered delivers empty =>
      simp [weight, delivers, Mailbox.put]
      omega
  | refused delivers => simp [weight, delivers]

end Reader

namespace MountedDuo

variable {γ : Type} [ParserLibrary γ]

def unreadOf (stage : ScriptStage γ) (mounts : Mounts γ) (key : StreamKey) : Nat :=
  mounts.streams[key]?.elim 0 fun stream => stream.lines.remaining stage.tree

def unread (stage : ScriptStage γ) (system : MountedDuo γ) : Nat :=
  (system.duo.streams.map (unreadOf stage system.mounts)).sum

def size (stage : ScriptStage γ) : Nat :=
  (stage.tree.content stage.log).length

def weight (stage : ScriptStage γ) (system : MountedDuo γ) : Nat :=
  system.duo.session.phase.weight + 12 * system.duo.session.phase.ahead (size stage) +
    system.duo.reader.elim 0 Reader.weight + 10 * system.duo.mailbox.messages.length +
    12 * unread stage system + if system.duo.begun.isNone then 1 else 0

section

variable {stage : ScriptStage γ} {now : Nat} {system next : MountedDuo γ} {mounts after : Mounts γ}
  {phase later : Phase} {answer : Answer}

theorem Advance.ahead_le (advance : Advance stage now mounts phase answer later after)
    (size : Nat) : later.ahead size ≤ phase.ahead size := by
  cases advance with
  | @applied attempt layer round => cases round <;> exact Nat.le_refl 0
  | subscribed => exact Nat.zero_le size
  | _ => exact Nat.le_refl _

theorem Advance.unread_le
    (advance : Advance stage now system.mounts system.duo.session.phase answer later mounts)
    (sound : system.duo.IsSound) {request : Request}
    (asks : system.duo.session.request? stage.highlighter.setup = some request)
    {mailbox : Mailbox} {reader : Option Reader}
    (exchanged : system.duo.exchange? request answer = some (mailbox, reader)) :
    later.ahead (size stage) +
        unread stage ⟨⟨⟨system.duo.session.window, later⟩, none, mailbox, reader⟩, mounts⟩ ≤
      system.duo.session.phase.ahead (size stage) + unread stage system := by
  have ahead := advance.ahead_le (size stage)
  rcases advance.streams sound asks exchanged with
    ⟨same, kept | gone⟩ | ⟨⟨attempt, before⟩, pushed, fresh⟩
  · have equal : unreadOf stage mounts = unreadOf stage system.mounts := by
      funext key
      rw [unreadOf, same, unreadOf]
    simp only [unread, kept, equal]
    omega
  · simp only [unread, gone, List.map_nil, List.sum_nil]
    omega
  · have whole : unreadOf stage mounts system.mounts.streams.size = size stage := by
      simp [unreadOf, pushed, LineStream.remaining, LineStream.ofFile, size]
    have none_ahead : later.ahead (size stage) = 0 := by
      rw [before] at advance
      cases advance
      rfl
    have all_ahead : system.duo.session.phase.ahead (size stage) = size stage := by
      rw [before]
      rfl
    simp only [unread, fresh, List.map_cons, List.map_nil, List.sum_cons, List.sum_nil, whole]
    omega

theorem Advance.weight_le
    (advance : Advance stage now system.mounts system.duo.session.phase answer later mounts)
    (sound : system.duo.IsSound) {request : Request}
    (asks : system.duo.session.request? stage.highlighter.setup = some request)
    {mailbox : Mailbox} {reader : Option Reader}
    (exchanged : system.duo.exchange? request answer = some (mailbox, reader)) :
    later.weight + reader.elim 0 Reader.weight + 10 * mailbox.messages.length + 2 ≤
      system.duo.session.phase.weight + system.duo.reader.elim 0 Reader.weight +
        10 * system.duo.mailbox.messages.length := by
  obtain ⟨⟨⟨ofWindow, phase⟩, since, box, worker⟩, before⟩ := system
  have fits := sound.fits
  cases advance with
  | readerStarted =>
      cases asks
      cases exchanged
      obtain rfl : worker = none := fits.2
      simp [Phase.weight, Mailbox.empty, Reader.weight, Reader.ofStream]
  | readerStopped =>
      cases asks
      simp only [Duo.exchange?] at exchanged
      split at exchanged
      next =>
        cases exchanged
        simp [Phase.weight, Mailbox.shut]
        omega
      next => cases exchanged
  | @edited attempt layer debouncer kind =>
      have heavier := debouncer.weight_arm now
      cases asks
      obtain ⟨rfl, first | ⟨_, last⟩⟩ := Duo.exchange?_received exchanged
      · have shorter : box.messages.length = _ + 1 := congrArg List.length first
        simp only [Phase.weight]
        omega
      · cases last
  | @closed attempt layer debouncer =>
      have enough := debouncer.le_weight
      cases asks
      obtain ⟨rfl, first | ⟨same, _⟩⟩ := Duo.exchange?_received exchanged
      · have shorter : box.messages.length = _ + 1 := congrArg List.length first
        simp only [Phase.weight]
        omega
      · simp only [Phase.weight, same]
        omega
  | cleaned settles =>
      obtain ⟨rfl, rfl⟩ := Duo.exchange?_plain (Answer.isPlain_of_settlesCleanup settles) exchanged
      simp only [Phase.weight]
      omega
  | opened | subscribed | acquired =>
      obtain ⟨rfl, _, unmoved⟩ := Duo.exchange?_keeps exchanged (by simp) (by simp)
      obtain rfl := unmoved (by simp)
      simp only [Phase.weight, Session.HighlightStep.weight]
      omega
  | @textRead attempt layer round | @annotated attempt layer round | @applied attempt layer round =>
      obtain ⟨rfl, _, unmoved⟩ := Duo.exchange?_keeps exchanged (by simp) (by simp)
      obtain rfl := unmoved (by simp)
      cases round <;>
        simp only [Session.highlighted, Phase.weight, Session.HighlightStep.weight] <;> omega
  | fired armed =>
      obtain ⟨rfl, _, unmoved⟩ := Duo.exchange?_keeps exchanged (by simp) (by simp)
      obtain rfl := unmoved (by simp)
      simp only [Phase.weight, Session.HighlightStep.weight, Debouncer.weight_disarm,
        Debouncer.weight_of_isArmed armed]
      omega

theorem unread_took {reader worker : Reader} {item : StreamItem} (course : OnCourse stage system)
    (works : system.duo.reader = some reader) (taken : reader.take? false item = some worker)
    (told : system.mounts.nextEdit reader.stream = some (item, mounts)) :
    worker.weight + 12 * unread stage
        ⟨⟨system.duo.session, system.duo.begun, system.duo.mailbox, some worker⟩, mounts⟩ <
      reader.weight + 12 * unread stage system := by
  obtain ⟨⟨awaits, empty, dismissed⟩, rfl⟩ := Reader.take?_eq_some_iff.mp taken
  have goesOn : reader.isFinished = false := by simp [Reader.isFinished, awaits]
  obtain ⟨lines, given, onward, at_key, next, reads, atMost, fate⟩ := course.nextEdit works goesOn
  rw [next, Option.some.injEq, Prod.mk.injEq] at told
  obtain ⟨rfl, rfl⟩ := told
  have before := Reader.weight_of_ready awaits empty
  have same : Duo.streams ⟨system.duo.session, system.duo.begun, system.duo.mailbox,
      some { reader with hand := some given }⟩ = system.duo.streams := by
    simp [Duo.streams, works, Reader.isFinished, awaits, Option.filter]
  have here : unreadOf stage (system.mounts.setLines reader.stream onward) reader.stream =
      onward.remaining stage.tree := by
    simp [unreadOf, Mounts.setLines, Array.getElem?_modify, at_key]
  have was : unreadOf stage system.mounts reader.stream = lines.remaining stage.tree := by
    simp [unreadOf, at_key]
  -- the streams in use stay the same, and none but the one that is read changes
  have fewer : ∀ key ∈ system.duo.streams,
      unreadOf stage (system.mounts.setLines reader.stream onward) key ≤
        unreadOf stage system.mounts key := by
    intro key _
    by_cases other : reader.stream = key
    · rw [← other, here, was]
      exact atMost
    · simp [unreadOf, Mounts.setLines, Array.getElem?_modify, other]
  have used : reader.stream ∈ system.duo.streams :=
    Duo.mem_streams_iff.mpr (.inr ⟨reader, works, goesOn, rfl⟩)
  rcases fate with rfl | ⟨⟨kind, rfl⟩, less⟩
  · have total := List.sum_le_sum fewer
    have after : Reader.weight { reader with hand := some .ended } = 12 := by
      simp [Reader.weight, awaits]
    simp only [unread, same]
    omega
  · have total := List.sum_lt_sum _ _ fewer ⟨reader.stream, used, by rw [here, was]; exact less⟩
    have after : Reader.weight { reader with hand := some (.edit kind) } = 24 := by
      simp [Reader.weight, awaits]
    simp only [unread, same]
    omega

theorem unread_worked (stage : ScriptStage γ) {reader worker : Reader} (mailbox : Mailbox)
    (works : system.duo.reader = some reader) (goesOn : reader.isFinished = false)
    (same : worker.stream = reader.stream) :
    unread stage ⟨⟨system.duo.session, system.duo.begun, mailbox, some worker⟩, system.mounts⟩ ≤
      unread stage system := by
  simp only [unread, Duo.streams, works, Option.filter, goesOn]
  split <;> simp [same]

theorem weight_begin (now : Nat) (duo : Duo) (request : Request) :
    (duo.begin now request).reader.elim 0 Reader.weight = duo.reader.elim 0 Reader.weight ∧
      (duo.begin now request).mailbox.messages.length ≤ duo.mailbox.messages.length := by
  by_cases stops : request = .stopReader
  · subst stops
    cases works : duo.reader <;> simp [Duo.begin, works, Mailbox.shut, Reader.stop, Reader.weight]
  · rw [Duo.begin_of_ne_stopReader duo now stops]
    exact ⟨rfl, Nat.le_refl _⟩

theorem OnCourse.weight_lt (course : OnCourse stage system) {act : Duo.Act}
    (taken : system.step? stage.highlighter.setup now act = some next) :
    next.weight stage < system.weight stage := by
  obtain ⟨moved, stepped⟩ := step?_eq_some_iff.mp taken
  obtain ⟨duo, mounts⟩ := next
  dsimp only at moved stepped
  have change := Duo.change_of_step? stepped
  unfold weight
  cases change with
  | @begun request asks fresh =>
      cases moved
      obtain ⟨same, fewer⟩ := weight_begin now system.duo request
      simp only [unread, Duo.session_begin, Duo.streams_begin, Duo.begun_begin, same, fresh,
        Option.isNone_none, Option.isNone_some, if_true, Bool.false_eq_true, if_false]
      omega
  | answered =>
      obtain ⟨request, phase, mailbox, reader, asks, admitted, turned, exchanged, same⟩ :=
        Duo.answer?_eq_some_iff.mp stepped
      cases same
      have advance := course.advance asks admitted turned exchanged moved
      have lighter := advance.weight_le course.sound asks exchanged
      have lessUnread := advance.unread_le course.sound asks exchanged
      simp only [Option.isNone_none, if_true]
      omega
  | took works worked =>
      obtain ⟨reader, at_work, told⟩ := mountsAfter?_take.mp moved
      cases works.symm.trans at_work
      have lighter := unread_took course works worked told
      simp only [works, Option.elim_some]
      omega
  | @passed reader mailbox worker works worked =>
      cases moved
      have passing := Reader.passing_of_pass? worked
      have lighter := passing.weight_lt
      have lessUnread := unread_worked stage mailbox works passing.goesOn passing.keeps.2.2
      simp only [works, Option.elim_some]
      omega
  | @quit reader worker works worked =>
      cases moved
      obtain ⟨⟨awaits, empty, _⟩, rfl⟩ := Reader.quit?_eq_some_iff.mp worked
      have goesOn : reader.isFinished = false := by simp [Reader.isFinished, awaits]
      have lessUnread := unread_worked stage system.duo.mailbox works goesOn
        (show Reader.stream { reader with phase := .finished } = reader.stream from rfl)
      have before := Reader.weight_of_ready awaits empty
      have after : Reader.weight { reader with phase := .finished } = 0 := rfl
      simp only [works, Option.elim_some]
      omega

theorem Run.weight_le {count : Nat} (run : Run stage count system) :
    count + system.weight stage ≤
      (MountedDuo.start stage.highlighter stage.tree stage.window).weight stage := by
  induction run with
  | start => exact (Nat.zero_add _).le
  | act earlier taken atMost =>
      have lighter := earlier.onCourse.weight_lt taken
      omega

/-! ### Progress -/

theorem OnCourse.request?_isSome (course : OnCourse stage system)
    (goesOn : system.duo.session.hasEnded = false) :
    ∃ request, system.duo.session.request? stage.highlighter.setup = some request := by
  have onCourse := course.course
  have held := course.held
  unfold Session.hasEnded at goesOn
  unfold Session.request?
  generalize system.duo.session.phase = phase at goesOn onCourse held ⊢
  cases phase with
  | highlighting attempt layer round step =>
      cases step with
      | applying spans =>
          obtain ⟨key, rfl, _⟩ := held layer (by cases round <;> rfl)
          exact ⟨_, rfl⟩
      | reading | annotating => exact ⟨_, rfl⟩
  | cleaning attempt layer outcome =>
      obtain rfl : outcome = .streamEnded := onCourse
      obtain ⟨key, rfl, _⟩ := held layer rfl
      exact ⟨_, rfl⟩
  | ended => cases goesOn
  | identifying | drawing | sleeping => cases onCourse
  | opening | subscribing | acquiring | startingReader | watching | stoppingReader =>
      exact ⟨_, rfl⟩

theorem OnCourse.can_answer (course : OnCourse stage system) {request : Request} {since : Nat}
    {mailbox : Mailbox} {reader : Option Reader}
    (asks : system.duo.session.request? stage.highlighter.setup = some request)
    (begun : system.duo.begun = some since) (other : answer ≠ .cancelled)
    (possible : Duo.isPossible now since request answer = true)
    (before : system.duo.session.phase = phase)
    (advance : Advance stage now system.mounts phase answer later mounts)
    (exchanged : system.duo.exchange? request answer = some (mailbox, reader))
    (moved : system.mountsAfter? stage.highlighter.setup (.answer answer) = some mounts) :
    ∃ act next, system.step? stage.highlighter.setup now act = some next := by
  have admitted : system.duo.admits now false request answer = true := by
    simp [Duo.admits, other, Duo.isPreempted, begun, possible]
  have turned := advance.next?
  rw [← course.window, ← before] at turned
  exact ⟨.answer answer, ⟨_, mounts⟩, step?_eq_some_iff.mpr ⟨moved,
    Duo.answer?_eq_some_iff.mpr ⟨request, later, mailbox, reader, asks, admitted, turned,
      exchanged, rfl⟩⟩⟩

theorem can_pass {reader : Reader} (works : system.duo.reader = some reader)
    (passes : (reader.pass? system.duo.mailbox).isSome = true) :
    ∃ act next, system.step? stage.highlighter.setup now act = some next := by
  obtain ⟨⟨mailbox, worker⟩, passed⟩ := Option.isSome_iff_exists.mp passes
  refine ⟨.pass, ⟨{ system.duo with mailbox := mailbox, reader := some worker }, system.mounts⟩,
    step?_eq_some_iff.mpr ⟨rfl, ?_⟩⟩
  simp [Duo.step?, works, passed]

theorem OnCourse.can_read (course : OnCourse stage system) {reader : Reader}
    (works : system.duo.reader = some reader) (goesOn : reader.isFinished = false)
    (room : system.duo.mailbox.isOpen = true → system.duo.mailbox.hasRoom = true) :
    ∃ act next, system.step? stage.highlighter.setup now act = some next := by
  cases holds : reader.hand with
  | some item =>
      have awaits := course.sound.in_hand reader works (by simp [holds])
      refine can_pass works ?_
      cases item <;> simp [Reader.pass?, holds, awaits, Reader.step?]
  | none =>
      cases phase : reader.phase with
      | finished => simp [Reader.isFinished, phase] at goesOn
      | delivering last =>
          refine can_pass works ?_
          cases receives : system.duo.mailbox.isOpen with
          | true => simp [Reader.pass?, holds, phase, receives, room receives, Reader.step?]
          | false => simp [Reader.pass?, holds, phase, receives, Reader.step?]
      | awaiting =>
          cases stopped : reader.isStopped with
          | true =>
              refine ⟨.quit, ⟨{ system.duo with reader := some { reader with phase := .finished } },
                system.mounts⟩, step?_eq_some_iff.mpr ⟨rfl, ?_⟩⟩
              simp [Duo.step?, works, Reader.quit?, holds, phase, Reader.isDismissed, stopped,
                Reader.step?]
          | false =>
              obtain ⟨lines, item, onward, _, next, _⟩ := course.nextEdit works goesOn
              refine ⟨.take item,
                ⟨{ system.duo with reader := some { reader with hand := some item } }, _⟩,
                step?_eq_some_iff.mpr ⟨mountsAfter?_take.mpr ⟨reader, works, next⟩, ?_⟩⟩
              simp [Duo.step?, works, Reader.take?, holds, phase, Reader.isDismissed, stopped]

theorem OnCourse.can_act (course : OnCourse stage system)
    (goesOn : system.duo.session.hasEnded = false) (now : Nat) :
    ∃ act next, system.step? stage.highlighter.setup now act = some next := by
  obtain ⟨request, asks⟩ := course.request?_isSome goesOn
  cases begun : system.duo.begun with
  | none =>
      refine ⟨.begin, ⟨system.duo.begin now request, system.mounts⟩,
        step?_eq_some_iff.mpr ⟨rfl, ?_⟩⟩
      simp [Duo.step?, Duo.begin?, asks, begun, Duo.isPreempted]
  | some since =>
      have onCourse := course.course
      have fits := course.sound.fits
      cases request with
      | call call =>
          obtain ⟨reply, later, mounts, answered, advance⟩ := course.answer_call now asks
          exact course.can_answer asks begun (by simp) rfl rfl advance rfl
            ((mountsAfter?_reply asks).mpr answered)
      | draw | sleep =>
          unfold Session.request? at asks
          split at asks <;> simp_all [Course]
      | startReader stream =>
          obtain ⟨attempt, layer, before⟩ := Session.startingReader_of_request? asks
          exact course.can_answer asks begun (by simp) rfl before .readerStarted rfl rfl
      | watch deadline =>
          obtain ⟨attempt, layer, debouncer, before⟩ := Session.watching_of_request? asks
          rw [before] at fits
          obtain ⟨receives, reader, works, running⟩ := fits
          cases waiting : system.duo.mailbox.messages with
          | cons message others =>
              have received : system.duo.exchange? (.watch deadline) (.received message) =
                  some ({ system.duo.mailbox with messages := others }, system.duo.reader) := by
                simp [Duo.exchange?, Duo.receive?, Mailbox.take?, waiting]
              cases message with
              | edit kind =>
                  exact course.can_answer asks begun (by simp) rfl before .edited received rfl
              | closed =>
                  exact course.can_answer asks begun (by simp) rfl before .closed received rfl
              | failed error => exact absurd (by simp [waiting]) (course.calm.messages error)
          | nil =>
              -- an empty mailbox has room for whatever the reader has, and counts as closed
              -- after it
              cases finished : reader.isFinished with
              | false =>
                  refine course.can_read works finished fun _ => ?_
                  simp [Mailbox.hasRoom, waiting, Mailbox.capacity]
              | true =>
                  have received : system.duo.exchange? (.watch deadline) (.received .closed) =
                      some (system.duo.mailbox, system.duo.reader) := by
                    simp [Duo.exchange?, Duo.receive?, Mailbox.take?, waiting, Duo.readerFinished,
                      works, finished]
                  exact course.can_answer asks begun (by simp) rfl before .closed received rfl
      | stopReader =>
          obtain ⟨attempt, layer, outcome, before⟩ :=
            (Session.request?_eq_stopReader_iff _ _).mp asks
          rw [before] at onCourse fits
          obtain rfl : outcome = .streamEnded := onCourse
          obtain ⟨reader, works, stopped⟩ := fits
          obtain ⟨deaf, stopped⟩ := stopped (by simp [begun])
          cases finished : reader.isFinished with
          | false => exact course.can_read works finished (by simp [deaf])
          | true =>
              have present := course.sound.isPresent layer (by rw [before]; rfl)
              have ended : system.duo.exchange? .stopReader .readerStopped =
                  some (.shut, none) := by
                simp [Duo.exchange?, Duo.readerFinished, works, finished]
              exact course.can_answer asks begun (by simp) rfl before (.readerStopped present)
                ended rfl

/-! ### The end -/

theorem Run.exists_ended {count : Nat} (run : Run stage count system) :
    ∃ later final, Run stage later final ∧ final.duo.session.hasEnded = true := by
  generalize left : system.weight stage = weight
  induction weight using Nat.strongRecOn generalizing count system with
  | ind weight ih =>
      cases ended : system.duo.session.hasEnded with
      | true => exact ⟨count, system, run, ended⟩
      | false =>
          obtain ⟨act, next, taken⟩ := run.onCourse.can_act ended 0
          have lighter := run.onCourse.weight_lt taken
          exact ih (next.weight stage) (left ▸ lighter) (run.act taken) rfl

end

end MountedDuo

namespace ScriptStage

variable {γ : Type} [ParserLibrary γ] (stage : ScriptStage γ)

theorem writesOnly_written :
    stage.highlighter.styles.WritesOnly stage.layer "style" stage.tree stage.written := by
  have mounted := stage.script.mounted
  have known : (stage.tree.way? stage.highlighter.styles.root).isSome = true := by
    unfold FileTree.exists? at mounted
    split at mounted
    next node found =>
      obtain ⟨place, leads, _⟩ := FileTree.find_eq_ok_iff.mp found
      exact FileTree.isSome_way?_of_place leads
    all_goals cases mounted
  exact StyleFiles.writesOnly_setContent stage.script.sound known (by decide) _
    (FileTree.find_of_openFile stage.script.style_opens)

theorem Hosts.writesOnly {stage : ScriptStage γ} {mounts : Mounts γ} (hosts : stage.Hosts mounts) :
    stage.highlighter.styles.WritesOnly stage.layer "style" stage.tree mounts.tree := by
  have written := stage.writesOnly_written
  rcases hosts.tree with same | same
  · obtain ⟨home, at_root, _⟩ := written
    rw [same]
    exact ⟨home, at_root, fun _ => rfl, fun _ _ => rfl⟩
  · rw [same]
    exact written

theorem holds_written :
    stage.written.Holds (stage.highlighter.styles.layerPath stage.layer "style")
      (StyleFiles.styleBytes stage.spans) :=
  stage.script.sound.holds_setContent _ (FileTree.find_of_openFile stage.script.style_opens)

/-- A session on a script runs to its end: no run is longer than a bound, and while it has not
ended it can go on at any time. Through all of it nothing changes but the style file of the layer,
and at the end that file tells the comments of the script, whatever library it is that captures
them. -/
theorem run_ends_with_comments_styled (law : CapturesComments stage.grammar stage.query) :
    ∃ bound, ∀ count system, MountedDuo.Run stage count system →
      count ≤ bound ∧
        stage.highlighter.styles.WritesOnly stage.layer "style" stage.tree system.mounts.tree ∧
        (system.duo.session.hasEnded = false → ∀ now, ∃ act next,
          system.step? stage.highlighter.setup now act = some next) ∧
        (system.duo.session.hasEnded = true →
          system.duo.session.phase = .ended .streamEnded ∧
            system.mounts.tree.Holds (stage.highlighter.styles.layerPath stage.layer "style")
              (StyleFiles.styleBytes
                (ScriptLine.styled stage.highlighter.setup.styles stage.lines))) := by
  refine ⟨(MountedDuo.start stage.highlighter stage.tree stage.window).weight stage,
    fun count system run => ?_⟩
  have course := run.onCourse
  refine ⟨(Nat.le_add_right _ _).trans run.weight_le, course.hosts.writesOnly, course.can_act,
    fun ended => ?_⟩
  cases phase : system.duo.session.phase with
  | ended ending =>
      have onCourse := course.course
      rw [phase] at onCourse
      obtain rfl : ending = .streamEnded := onCourse
      have tree : system.mounts.tree = stage.written := course.styled (by rw [phase]; rfl)
      rw [← stage.spans_eq law, tree]
      exact ⟨rfl, stage.holds_written⟩
  | _ => simp [Session.hasEnded, phase] at ended

def bashOnly : Highlighter Grammar :=
  ⟨⟨⟨["bash"], [⟨fun _ => true, "bash"⟩], []⟩, .builtin, .default⟩, .builtin, ⟨"/t/acme"⟩,
    ⟨"/t/styles"⟩⟩

def twoComments : List ScriptLine :=
  [⟨[], some [' ', 'é'], by simp, by rintro _ ⟨rfl⟩; decide⟩,
    ⟨[' '], none, by simp [isIndent], by simp⟩,
    ⟨['\t', ' '], some ['b'], by simp [isIndent], by rintro _ ⟨rfl⟩; decide⟩]

def twoCommentsTree : FileTree :=
  .ofEntries "/t" [("acme/3/body", some (Utf8.encode (ScriptLine.script twoComments))),
    ("acme/3/log", some (Utf8.encode "I0 3\nD0 1\n".toList)),
    ("styles/3/layers/new", some (Utf8.encode "7\n".toList)), ("styles/3/layers/7/style", some [])]

def twoCommentsStage : ScriptStage Grammar where
  highlighter := bashOnly
  grammar := .bash
  query := "(comment) @comment"
  window := ⟨3, "setup.sh"⟩
  lines := twoComments
  number := 7
  log := 1
  style := 3
  tree := twoCommentsTree
  resolves := by decide +kernel
  registered := rfl
  script := {
    sound := FileTree.isSound_ofEntries (by decide) _
    body := by decide +kernel
    log_opens := by decide +kernel
    log_text := ⟨"I0 3\nD0 1\n".toList, by decide +kernel⟩
    mounted := by decide +kernel
    allocation := ⟨"7\n", by decide +kernel⟩
    style_opens := by decide +kernel }

theorem run_ends_with_comments_styled_twoComments :
    ∃ count system, MountedDuo.Run twoCommentsStage count system ∧
      system.mounts.tree.Holds "/t/styles/3/layers/7/style"
        (Utf8.encode "1 0 3\n1 8 10\n".toList) := by
  have begins : MountedDuo.Run twoCommentsStage 0 _ := .start
  obtain ⟨count, system, run, ended⟩ := begins.exists_ended
  obtain ⟨bound, holds⟩ :=
    run_ends_with_comments_styled twoCommentsStage Grammar.capturesComments_bash
  have written := ((holds count system run).2.2.2 ended).2
  have path : bashOnly.styles.layerPath twoCommentsStage.layer "style" =
      "/t/styles/3/layers/7/style" := by decide +kernel
  have bytes : StyleFiles.styleBytes (ScriptLine.styled StyleTable.builtin twoComments) =
      Utf8.encode "1 0 3\n1 8 10\n".toList := by decide +kernel
  rw [← bytes, ← path]
  exact ⟨count, system, run, written⟩

end ScriptStage
end LiveHighlight
