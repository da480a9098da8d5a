import LiveHighlight.Proofs.Burst.Greedy
import LiveHighlight.Proofs.Session.Endings

/-!
Stages of a watch.

Between two recomputes a session waits for an edit or for its deadline, and in a recompute it calls
its collaborators one after the other. Each stage tells which recomputes are still to come for the
edits that are ahead: those that the reader and the mailbox hold, and those not yet arrived. An act
keeps what it tells, or it is the recompute that was to come first.
-/

namespace LiveHighlight

open Debouncer (greedy)
open Session (Answer Phase Request Turn)

namespace Session.Phase

def watches : Phase → Bool
  | .watching _ _ _ | .highlighting _ _ (.debounced _) _ => true
  | _ => false

def applied? (now : Nat) : Phase → Answer → Option Nat
  | .highlighting _ _ _ (.applying _), .reply .done => some now
  | _, _ => none

end Session.Phase

namespace Duo

/-! ### Recomputes -/

namespace Moment

def recompute? (setup : Setup) (moment : Moment) : Option Nat :=
  match moment.call? setup with
  | some (.readText _) => some moment.now
  | _ => none

def applied? (moment : Moment) : Option Nat :=
  match moment.act with
  | .answer answer => moment.duo.session.phase.applied? moment.now answer
  | _ => none

end Moment

/-! ### Edits under way -/

def editsInHand (reader : Reader) : Nat :=
  match reader.hand with
  | some (.edit _) => 1
  | _ => 0

def edits (duo : Duo) : Nat :=
  duo.mailbox.messages.countP (!·.isLast) + duo.reader.elim 0 editsInHand

/-- While the reader awaits items, all messages are edits; what it delivers in the end is none. -/
structure IsOrderly (duo : Duo) : Prop where
  awaiting : ∀ reader, duo.reader = some reader → reader.phase = .awaiting →
    ∀ message ∈ duo.mailbox.messages, message.isLast = false
  delivering : ∀ reader last, duo.reader = some reader → reader.phase = .delivering last →
    last.isLast = true

section

variable {duo : Duo} {reader worker : Reader} {mailbox : Mailbox}

theorem IsSound.watches (sound : duo.IsSound) (watches : duo.session.phase.watches = true) :
    duo.mailbox.isOpen = true ∧ ∃ reader, duo.reader = some reader ∧ reader.isStopped = false := by
  have fits := sound.fits
  obtain ⟨⟨window, phase⟩, begun, mailbox, reader⟩ := duo
  cases phase with
  | watching => exact fits
  | highlighting attempt layer round step =>
      cases round with
      | initial stream => cases watches
      | debounced debouncer => exact fits
  | _ => cases watches

theorem IsOrderly.passed (orderly : duo.IsOrderly) (works : duo.reader = some reader)
    (passing : Reader.Passing duo.mailbox reader mailbox worker) :
    IsOrderly { duo with mailbox := mailbox, reader := some worker } := by
  cases passing with
  | @edit kind awaits holds =>
      have only := orderly.awaiting reader works awaits
      refine ⟨?_, ?_⟩
      · rintro _ ⟨rfl⟩ _ message member
        have cases : message ∈ duo.mailbox.messages ∨ message = .edit kind := by
          unfold Reader.passOn Mailbox.offer Mailbox.put at member
          grind
        rcases cases with old | rfl
        · exact only message old
        · rfl
      · rintro _ last ⟨rfl⟩ delivers
        simp only at delivers
        split at delivers <;> cases delivers
  | failed | ended =>
      refine ⟨?_, ?_⟩
      · rintro _ ⟨rfl⟩ awaits
        cases awaits
      · rintro _ _ ⟨rfl⟩ ⟨rfl⟩
        rfl
  | delivered | refused =>
      refine ⟨?_, ?_⟩
      · rintro _ ⟨rfl⟩ awaits
        cases awaits
      · rintro _ _ ⟨rfl⟩ delivers
        cases delivers

/-- What the reader passes on stays under way. Only a full mailbox drops an edit, and such a mailbox
holds others. -/
theorem edits_passed (orderly : duo.IsOrderly) (receives : duo.mailbox.isOpen = true)
    (works : duo.reader = some reader)
    (passing : Reader.Passing duo.mailbox reader mailbox worker) :
    edits { duo with mailbox := mailbox, reader := some worker } = duo.edits ∨
      0 < edits { duo with mailbox := mailbox, reader := some worker } ∧
        duo.edits = edits { duo with mailbox := mailbox, reader := some worker } + 1 := by
  unfold edits
  rw [works, Option.elim_some, Option.elim_some]
  cases passing with
  | @edit kind awaits holds =>
      have held : editsInHand reader = 1 := by simp [editsInHand, holds]
      rw [Reader.passOn, if_pos receives, Mailbox.offer, held]
      split
      next => simp [Mailbox.put, editsInHand, Message.isLast]
      next full =>
        -- all messages are edits, so the full mailbox holds another one
        have only := orderly.awaiting reader works awaits
        have all : duo.mailbox.messages.countP (!·.isLast) = duo.mailbox.messages.length :=
          List.countP_eq_length.mpr fun message member => by simp [only message member]
        have many : Mailbox.capacity ≤ duo.mailbox.messages.length := by
          simpa [Mailbox.hasRoom] using full
        have some_held : 0 < duo.mailbox.messages.length := Nat.lt_of_lt_of_le (by decide) many
        rw [all]
        exact .inr ⟨some_held, rfl⟩
  | failed awaits holds | ended awaits holds => simp [editsInHand, holds]
  | @delivered last delivers empty =>
      have isLast := orderly.delivering reader last works delivers
      simp [editsInHand, empty, Mailbox.put, isLast]
  | refused delivers empty => simp [editsInHand, empty]

end

/-! ### Stages -/

/-- The stage of a watch at an instant, with edits ahead: the recompute that is under way and those
that are to come. -/
inductive Stage (quiet now : Nat) (ahead : List Nat) :
    Phase → Option Nat → List Nat → List Nat → Prop
  | resting {attempt layer begun} :
      Stage quiet now ahead (.watching attempt layer (.disarmed quiet)) begun []
        (greedy quiet none ahead)
  | armed {attempt layer begun deadline} (waits : now ≤ deadline) :
      Stage quiet now ahead (.watching attempt layer ⟨quiet, some deadline⟩) begun []
        (deadline :: greedy quiet (some deadline) ahead)
  | due {attempt layer} :
      Stage quiet now ahead (.highlighting attempt layer (.debounced (.disarmed quiet)) .reading)
        none [] (now :: greedy quiet none ahead)
  | reads {attempt layer since} :
      Stage quiet now ahead (.highlighting attempt layer (.debounced (.disarmed quiet)) .reading)
        (some since) [now] (greedy quiet none ahead)
  | annotates {attempt layer text begun} :
      Stage quiet now ahead
        (.highlighting attempt layer (.debounced (.disarmed quiet)) (.annotating text)) begun [now]
        (greedy quiet none ahead)
  | applies {attempt layer spans begun} :
      Stage quiet now ahead
        (.highlighting attempt layer (.debounced (.disarmed quiet)) (.applying spans)) begun [now]
        (greedy quiet none ahead)

variable {setup : Setup} {quiet now : Nat} {cancelled : Bool} {duo next : Duo} {act : Act}
  {unread : List Nat} {ahead underWay toCome : List Nat} {phase : Phase} {since : Option Nat}

theorem Stage.watches (stage : Stage quiet now ahead phase since underWay toCome) :
    phase.watches = true := by
  cases stage <;> rfl

theorem Stage.le_of_mem (stage : Stage quiet now ahead phase since underWay toCome)
    (later : ∀ edit ∈ ahead, now ≤ edit) {instant : Nat} (member : instant ∈ toCome) :
    now ≤ instant := by
  cases stage with
  | armed waits =>
      rcases List.mem_cons.mp member with rfl | member
      · exact waits
      · exact Debouncer.le_of_mem_greedy later member
  | due =>
      rcases List.mem_cons.mp member with rfl | member
      · exact Nat.le_refl _
      · exact Debouncer.le_of_mem_greedy later member
  | resting | reads | annotates | applies => exact Debouncer.le_of_mem_greedy later member

theorem Stage.dropped {count : Nat}
    (stage : Stage quiet now (List.replicate (count + 1) now ++ unread) phase since underWay toCome)
    (others : 0 < count) :
    Stage quiet now (List.replicate count now ++ unread) phase since underWay toCome := by
  obtain ⟨count, rfl⟩ : ∃ fewer, count = fewer + 1 := ⟨count - 1, by omega⟩
  have same : greedy quiet none (List.replicate (count + 1 + 1) now ++ unread) =
      greedy quiet none (List.replicate (count + 1) now ++ unread) := by
    simp only [List.replicate_succ, List.cons_append, Debouncer.greedy_none_cons]
    rw [Debouncer.greedy_covered (Nat.le_add_right now quiet)]
  cases stage with
  | resting => exact same ▸ .resting
  | @armed _ _ _ deadline waits =>
      have same : greedy quiet (some deadline) (List.replicate (count + 1 + 1) now ++ unread) =
          greedy quiet (some deadline) (List.replicate (count + 1) now ++ unread) := by
        rw [Debouncer.greedy_replicate waits, Debouncer.greedy_replicate waits]
      exact same ▸ .armed waits
  | due => exact same ▸ .due
  | reads => exact same ▸ .reads
  | annotates => exact same ▸ .annotates
  | applies => exact same ▸ .applies

/-! ### Acts -/

/-- A stage that follows on an act: what the act begins was to come first, and what it ends was
under way. -/
def Follows (setup : Setup) (quiet : Nat) (unread : List Nat) (moment : Moment) (next : Duo)
    (underWay toCome : List Nat) : Prop :=
  next.edits ≤ moment.duo.edits ∧ ∃ still later,
    Stage quiet moment.now (List.replicate next.edits moment.now ++ unread) next.session.phase
      next.begun still later ∧
    toCome = (moment.recompute? setup).toList ++ later ∧
    underWay ++ (moment.recompute? setup).toList = moment.applied?.toList ++ still

theorem Stage.follows_begin {request : Request}
    (stage : Stage quiet now (List.replicate duo.edits now ++ unread) duo.session.phase duo.begun
      underWay toCome)
    (asks : duo.session.request? setup = some request) (fresh : duo.begun = none) :
    Follows setup quiet unread ⟨now, cancelled, duo, .begin⟩ (duo.begin now request) underWay
      toCome := by
  obtain ⟨⟨window, phase⟩, begun, mailbox, reader⟩ := duo
  obtain rfl : begun = none := fresh
  simp only at stage
  cases stage with
  | resting =>
      cases asks
      exact ⟨Nat.le_refl _, _, _, .resting, rfl, rfl⟩
  | armed waits =>
      cases asks
      exact ⟨Nat.le_refl _, _, _, .armed waits, rfl, rfl⟩
  | due =>
      cases asks
      exact ⟨Nat.le_refl _, _, _, .reads, rfl, rfl⟩
  | annotates =>
      cases asks
      exact ⟨Nat.le_refl _, _, _, .annotates, rfl, rfl⟩
  | @applies attempt layer spans =>
      obtain ⟨owner, held⟩ := layer
      cases held <;> cases asks
      exact ⟨Nat.le_refl _, _, _, .applies, rfl, rfl⟩

theorem edits_received {deadline : Option Nat} {message : Message} {mailbox : Mailbox}
    {reader : Option Reader} (session : Session) (begun : Option Nat)
    (exchanged : duo.exchange? (.watch deadline) (.received message) = some (mailbox, reader)) :
    duo.edits = edits ⟨session, begun, mailbox, reader⟩ + if message.isLast then 0 else 1 := by
  simp only [exchange?, Option.map_eq_some_iff, Prod.mk.injEq] at exchanged
  obtain ⟨_, taken, rfl, rfl⟩ := exchanged
  rcases messages_of_receive? taken with first | ⟨_, rfl, _, rfl⟩
  · simp only [edits, first, List.countP_cons]
    cases message.isLast <;> simp only [Bool.not_true, Bool.not_false, Bool.false_eq_true, if_true,
      if_false] <;> omega
  · rfl

theorem Stage.answered {window : WindowId} {before : Phase} {answer : Answer} {held left : Nat}
    (stage : Stage quiet now (List.replicate held now ++ unread) before since underWay toCome)
    (clear : now ∈ toCome → ∀ edit ∈ List.replicate held now ++ unread, now < edit)
    (turn : Turn setup window now before answer phase)
    (waited : answer ≠ .cancelled → since.isSome = true)
    (due : answer = .fired → ∀ attempt layer debouncer,
      before = .watching attempt layer debouncer → debouncer.deadline.any (· ≤ now) = true)
    (received : ∀ kind, answer = .received (.edit kind) → held = left + 1)
    (others : (∀ message, answer ≠ .received message) → held = left)
    (on : phase.watches = true) :
    ∃ still later, Stage quiet now (List.replicate left now ++ unread) phase none still later ∧
      toCome = later ∧ underWay = (before.applied? now answer).toList ++ still := by
  cases stage with
  | resting =>
      cases turn with
      | fired => cases due rfl _ _ _ rfl
      | @edited _ _ _ kind =>
          -- the first of the edits under way sets the deadline, which covers the others
          obtain rfl := received kind rfl
          rw [List.replicate_succ, List.cons_append, Debouncer.greedy_none_cons]
          exact ⟨_, _, .armed (Nat.le_add_right now quiet), rfl, rfl⟩
      | unwound => cases on
  | @armed _ _ _ deadline waits =>
      cases turn with
      | fired =>
          obtain rfl : deadline = now := by
            have elapsed : deadline ≤ now := by simpa using due rfl _ _ _ rfl
            omega
          obtain rfl := others (by simp)
          -- whatever is ahead arrives after this recompute, and so begins a burst of its own
          rw [Debouncer.greedy_some_eq_none (clear (List.mem_cons_self ..))]
          exact ⟨_, _, .due, rfl, rfl⟩
      | @edited _ _ _ kind =>
          obtain rfl := received kind rfl
          rw [List.replicate_succ, List.cons_append, Debouncer.greedy_covered waits]
          exact ⟨_, _, .armed waits, rfl, rfl⟩
      | unwound => cases on
  | due =>
      obtain rfl : answer = .cancelled := by
        by_contra other
        cases waited other
      cases turn with
      | unwound => cases on
  | reads =>
      cases turn with
      | textRead =>
          obtain rfl := others (by simp)
          exact ⟨_, _, .annotates, rfl, rfl⟩
      | unwound => cases on
  | annotates =>
      cases turn with
      | annotated =>
          obtain rfl := others (by simp)
          exact ⟨_, _, .applies, rfl, rfl⟩
      | unwound => cases on
  | applies =>
      cases turn with
      | applied =>
          obtain rfl := others (by simp)
          exact ⟨_, _, .resting, rfl, rfl⟩
      | unwound => cases on

theorem Stage.left {window : WindowId} {before : Phase} {answer : Answer}
    (stage : Stage quiet now ahead before since underWay toCome)
    (turn : Turn setup window now before answer phase) (off : phase.watches = false) :
    before.applied? now answer = none := by
  cases stage with
  | resting | armed | due | reads | annotates => rfl
  | applies =>
      cases turn with
      | applied => cases off
      | unwound reason =>
          cases answer with
          | reply reply => cases reply <;> first | rfl | cases reason
          | _ => rfl

theorem keeps_reader {window : WindowId} {before : Phase} {answer : Answer}
    (on : before.watches = true) (turn : Turn setup window now before answer phase) :
    answer ≠ .readerStarted ∧ answer ≠ .readerStopped := by
  constructor
  · rintro rfl
    obtain ⟨_, _, _, rfl⟩ := Session.startingReader_of_turn turn
    cases on
  · rintro rfl
    obtain ⟨_, _, _, rfl⟩ := Session.stoppingReader_of_turn turn
    cases on

theorem due_of_fired {request : Request} (asks : duo.session.request? setup = some request)
    (admitted : duo.admits now cancelled request .fired = true) {attempt : Session.Attempt}
    {layer : StyleLayer} {debouncer : Debouncer}
    (watching : duo.session.phase = .watching attempt layer debouncer) :
    debouncer.deadline.any (· ≤ now) = true := by
  simp only [Session.request?, watching, Option.some.injEq] at asks
  subst asks
  obtain ⟨_, _, possible⟩ := begun_of_admits (by simp) admitted
  exact possible

theorem Stage.answered_follows {request : Request} {answer : Answer} {mailbox : Mailbox}
    {reader : Option Reader}
    (stage : Stage quiet now (List.replicate duo.edits now ++ unread) duo.session.phase duo.begun
      underWay toCome)
    (clear : now ∈ toCome → ∀ edit ∈ List.replicate duo.edits now ++ unread, now < edit)
    (asks : duo.session.request? setup = some request)
    (admitted : duo.admits now cancelled request answer = true)
    (turn : Turn setup duo.session.window.id now duo.session.phase answer phase)
    (exchanged : duo.exchange? request answer = some (mailbox, reader))
    (on : phase.watches = true) :
    Follows setup quiet unread ⟨now, cancelled, duo, .answer answer⟩
      ⟨⟨duo.session.window, phase⟩, none, mailbox, reader⟩ underWay toCome := by
  have taken : ∀ message, answer = .received message →
      duo.edits = edits ⟨⟨duo.session.window, phase⟩, none, mailbox, reader⟩ +
        if message.isLast then 0 else 1 := by
    rintro message rfl
    obtain ⟨attempt, layer, debouncer, watches, rfl, _⟩ := receive?_of_turn asks turn exchanged
    exact edits_received _ _ exchanged
  obtain ⟨started, stopped⟩ := keeps_reader stage.watches turn
  have others : (∀ message, answer ≠ .received message) →
      duo.edits = edits ⟨⟨duo.session.window, phase⟩, none, mailbox, reader⟩ := by
    intro other
    rw [exchange?_other started other stopped] at exchanged
    cases exchanged
    rfl
  have waited : answer ≠ .cancelled → duo.begun.isSome = true := by
    intro other
    obtain ⟨since, begun, _⟩ := begun_of_admits other admitted
    simp [begun]
  have due : answer = .fired → ∀ attempt layer debouncer,
      duo.session.phase = .watching attempt layer debouncer →
        debouncer.deadline.any (· ≤ now) = true := by
    rintro rfl attempt layer debouncer watching
    exact due_of_fired asks admitted watching
  obtain ⟨still, later, follows, first, ended⟩ :=
    stage.answered clear turn waited due (fun kind same => taken _ same) others on
  refine ⟨?_, still, later, follows, first, (List.append_nil underWay).trans ended⟩
  by_cases other : ∃ message, answer = .received message
  · obtain ⟨message, same⟩ := other
    exact Nat.le.intro (taken message same).symm
  · exact Nat.le_of_eq (others (by simpa using other)).symm

theorem Stage.passed {reader worker : Reader} {mailbox : Mailbox}
    (stage : Stage quiet now (List.replicate duo.edits now ++ unread) duo.session.phase duo.begun
      underWay toCome)
    (orderly : duo.IsOrderly) (receives : duo.mailbox.isOpen = true)
    (works : duo.reader = some reader)
    (passing : Reader.Passing duo.mailbox reader mailbox worker) :
    Follows setup quiet unread ⟨now, cancelled, duo, .pass⟩
      { duo with mailbox := mailbox, reader := some worker } underWay toCome := by
  rcases edits_passed orderly receives works passing with same | ⟨others, fewer⟩
  · refine ⟨Nat.le_of_eq same, _, _, ?_, rfl, List.append_nil _⟩
    rw [same]
    exact stage
  · refine ⟨Nat.le.intro fewer.symm, _, _, ?_, rfl, List.append_nil _⟩
    rw [fewer] at stage
    exact stage.dropped others

theorem Stage.acted
    (stage : Stage quiet now (List.replicate duo.edits now ++ unread) duo.session.phase duo.begun
      underWay toCome)
    (sound : duo.IsSound) (orderly : duo.IsOrderly)
    (clear : now ∈ toCome → ∀ edit ∈ List.replicate duo.edits now ++ unread, now < edit)
    (own : ∀ item, act ≠ .take item) (change : Change setup now cancelled duo act next) :
    (next.session.phase.watches = true ∧ next.IsOrderly ∧
      Follows setup quiet unread ⟨now, cancelled, duo, act⟩ next underWay toCome) ∨
    (next.session.phase.watches = false ∧
      Moment.recompute? setup ⟨now, cancelled, duo, act⟩ = none ∧
      Moment.applied? ⟨now, cancelled, duo, act⟩ = none) := by
  cases change with
  | @begun request asks fresh =>
      refine .inl ⟨?_, ?_, stage.follows_begin asks fresh⟩
      · rw [session_begin]
        exact stage.watches
      · have stays : request ≠ .stopReader := by
          rintro rfl
          obtain ⟨_, _, _, stopping⟩ := (Session.request?_eq_stopReader_iff setup _).mp asks
          exact absurd stage.watches (by simp [stopping, Phase.watches])
        rw [begin_of_ne_stopReader duo now stays]
        exact ⟨orderly.awaiting, orderly.delivering⟩
  | @answered request answer phase mailbox reader asks admitted turn exchanged =>
      cases on : phase.watches with
      | false => exact .inr ⟨rfl, rfl, stage.left turn on⟩
      | true =>
          obtain ⟨started, stopped⟩ := keeps_reader stage.watches turn
          obtain ⟨rfl, _⟩ := exchange?_keeps exchanged started stopped
          have fewer := (exchange?_cases exchanged).2
          refine .inl ⟨rfl, ⟨fun reader works awaits message member => ?_, orderly.delivering⟩,
            stage.answered_follows clear asks admitted turn exchanged on⟩
          exact orderly.awaiting reader works awaits message (fewer message member)
  | took => exact absurd rfl (own _)
  | @passed reader mailbox worker works taken =>
      have passing := Reader.passing_of_pass? taken
      have receives := (sound.watches stage.watches).1
      exact .inl ⟨stage.watches, orderly.passed works passing,
        stage.passed orderly receives works passing⟩
  | @quit reader worker works taken =>
      obtain ⟨⟨_, empty, _⟩, rfl⟩ := Reader.quit?_eq_some_iff.mp taken
      have same : edits { duo with reader := some { reader with phase := .finished } } =
          duo.edits := by
        simp [edits, works, editsInHand]
      refine .inl ⟨stage.watches, ⟨?_, ?_⟩, Nat.le_of_eq same, _, _, ?_, rfl, List.append_nil _⟩
      · rintro _ ⟨rfl⟩ awaits
        cases awaits
      · rintro _ _ ⟨rfl⟩ delivers
        cases delivers
      · rw [same]
        exact stage

end Duo
end LiveHighlight
