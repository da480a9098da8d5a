import LiveHighlight.Proofs.Session.Run

/-!
The end of an attempt.

Once an attempt has ended, nothing that the collaborators do or leave undone keeps the session from
going on: it stops its reader and cleans up its layer, and after a failure it comes to the next
attempt, or to its end if everything is cancelled. Only time has to pass.
-/

namespace LiveHighlight.Duo

open Session (Answer Outcome Phase Request)

/-- The call that cleans up after an attempt: the layer of a window that is gone is emptied and
kept, and any other is deleted. -/
def cleanupCall (window : WindowId) (layer : LayerKey) : Outcome → Call
  | .streamEnded | .windowGone => .clear window layer
  | .cancelled | .failed _ => .delete window layer

def Act.isOwn : Act → Bool
  | .begin | .pass | .quit | .answer .readerStopped | .answer .givenUp | .answer (.delay _)
  | .answer .slept | .answer .cancelled => true
  | .answer _ | .take _ => false

/-- Where a session and its reader come by acts of their own, from one instant to another. -/
inductive Alone (setup : Setup) (cancelled : Bool) (duo : Duo) (now : Nat) : Duo → Nat → Prop
  | here : Alone setup cancelled duo now duo now
  | act {between next instant later act} (earlier : Alone setup cancelled duo now between instant)
      (ordered : instant ≤ later) (own : act.isOwn = true)
      (taken : between.step? setup later cancelled act = some next) :
      Alone setup cancelled duo now next later

/-- Whatever the collaborators do, a session can come to a goal by itself. -/
def Comes (setup : Setup) (cancelled : Bool) (goal : Nat → Duo → Prop) (duo : Duo) : Prop :=
  ∀ now, ∃ ready later, Alone setup cancelled duo now ready later ∧ goal later ready

def IsReady (setup : Setup) (cancelled : Bool) (request : Request) (now : Nat) (duo : Duo) : Prop :=
  duo.session.request? setup = some request ∧ (duo.step? setup now cancelled .begin).isSome = true

/-- Whether a call is the next that a session makes, if it is left to itself. -/
def IsDue (setup : Setup) (duo : Duo) (call : Call) : Prop :=
  ∀ cancelled, Comes setup cancelled (IsReady setup cancelled (.call call)) duo

section

variable {setup : Setup} {now : Nat} {cancelled : Bool} {duo : Duo} {goal : Nat → Duo → Prop}

theorem Alone.trans {between final : Duo} {instant later : Nat}
    (first : Alone setup cancelled duo now between instant)
    (second : Alone setup cancelled between instant final later) :
    Alone setup cancelled duo now final later := by
  induction second with
  | here => exact first
  | act earlier ordered own taken ih => exact .act ih ordered own taken

theorem Comes.after (soon : ∀ now, ∃ next later, Alone setup cancelled duo now next later ∧
      Comes setup cancelled goal next) :
    Comes setup cancelled goal duo := by
  intro now
  obtain ⟨next, instant, first, comes⟩ := soon now
  obtain ⟨ready, later, second, reached⟩ := comes instant
  exact ⟨ready, later, first.trans second, reached⟩

theorem Comes.after_act (act : Act) (own : act.isOwn = true)
    (soon : ∀ now, ∃ next, duo.step? setup now cancelled act = some next ∧
      Comes setup cancelled goal next) :
    Comes setup cancelled goal duo := by
  refine .after fun now => ?_
  obtain ⟨next, taken, comes⟩ := soon now
  exact ⟨next, now, .act .here (Nat.le_refl now) own taken, comes⟩

theorem isReady_of_fresh {request : Request} (asks : duo.session.request? setup = some request)
    (fresh : duo.begun = none) (clear : isPreempted cancelled request = false) :
    IsReady setup cancelled request now duo :=
  ⟨asks, by simp [step?, begin?, asks, fresh, clear]⟩

theorem Comes.after_begin {request : Request} (asks : duo.session.request? setup = some request)
    (uncancellable : request.isCancellable = false)
    (begun : ∀ since, Comes setup cancelled goal (duo.begin since request))
    (waits : ∀ since, duo.begun = some since → Comes setup cancelled goal duo) :
    Comes setup cancelled goal duo := by
  cases fresh : duo.begun with
  | some since => exact waits since fresh
  | none =>
      refine .after_act .begin rfl fun now => ⟨duo.begin now request, ?_, begun now⟩
      simp [step?, begin?, asks, fresh, isPreempted, uncancellable]

/-! ### Stopping the reader -/

theorem alone_pass {reader worker : Reader} (works : duo.reader = some reader)
    (taken : reader.pass? duo.mailbox = some (duo.mailbox, worker)) :
    Alone setup cancelled duo now { duo with reader := some worker } now :=
  have passed : duo.step? setup now cancelled .pass = some { duo with reader := some worker } := by
    simp [step?, works, taken]
  .act .here (Nat.le_refl now) rfl passed

theorem finishes_of_delivering {reader : Reader} {last : Message}
    (works : duo.reader = some reader) (deaf : duo.mailbox.isOpen = false)
    (delivers : reader.phase = .delivering last) (empty : reader.hand = none) :
    Alone setup cancelled duo now
      { duo with reader := some { reader with phase := .finished } } now := by
  refine alone_pass works ?_
  simp [Reader.pass?, delivers, empty, deaf, Reader.step?]

theorem finishes_of_stopped (sound : duo.IsSound) {reader : Reader}
    (works : duo.reader = some reader) (deaf : duo.mailbox.isOpen = false)
    (stopped : reader.isStopped = true) :
    ∃ worker : Reader, worker.isFinished = true ∧
      Alone setup cancelled duo now { duo with reader := some worker } now := by
  cases holds : reader.hand with
  | none =>
      cases phase : reader.phase with
      | awaiting =>
          have quits : duo.step? setup now cancelled .quit =
              some { duo with reader := some { reader with phase := .finished } } := by
            simp [step?, works, Reader.quit?, holds, phase, Reader.isDismissed, stopped,
              Reader.step?]
          exact ⟨_, rfl, .act .here (Nat.le_refl now) rfl quits⟩
      | delivering last =>
          exact ⟨_, rfl, finishes_of_delivering works deaf phase holds⟩
      | finished =>
          refine ⟨reader, by simp [Reader.isFinished, phase], ?_⟩
          rw [← works]
          exact .here
  | some item =>
      have awaits := sound.in_hand reader works (by simp [holds])
      have passed (phase : Reader.Phase)
          (next : Reader.step? .awaiting (.item item true) = some phase) :
          Alone setup cancelled duo now
            { duo with reader := some { reader with phase := phase, hand := none } } now := by
        refine alone_pass works ?_
        have unchanged : Reader.passOn duo.mailbox item = duo.mailbox := by
          cases item <;> simp [Reader.passOn, deaf]
        simp [Reader.pass?, holds, awaits, deaf, next, unchanged]
      have refused (last : Message)
          (next : Reader.step? .awaiting (.item item true) = some (.delivering last)) :
          Alone setup cancelled duo now
            { duo with reader := some { reader with phase := .finished, hand := none } } now := by
        let worker : Reader := { reader with phase := .delivering last, hand := none }
        exact (passed (.delivering last) next).trans
          (@finishes_of_delivering setup now cancelled { duo with reader := some worker } worker
            last rfl deaf rfl rfl)
      cases item with
      | edit kind => exact ⟨_, rfl, passed .finished rfl⟩
      | failed error => exact ⟨_, rfl, refused (.failed error) rfl⟩
      | ended => exact ⟨_, rfl, refused .closed rfl⟩

theorem step?_readerStopped {attempt : Session.Attempt} {layer : StyleLayer} {outcome : Outcome}
    (present : layer.isPresent = true) (begun : duo.begun.isSome = true)
    (left : duo.session.phase = .stoppingReader attempt layer outcome)
    (finished : duo.readerFinished = true) :
    duo.step? setup now cancelled (.answer .readerStopped) =
      some ⟨⟨duo.session.window, .cleaning attempt layer outcome⟩, none, .shut, none⟩ := by
  have asks : duo.session.request? setup = some .stopReader :=
    (Session.request?_eq_stopReader_iff setup _).mpr ⟨_, _, _, left⟩
  obtain ⟨since, begun⟩ := Option.isSome_iff_exists.mp begun
  simp [step?, answer?, asks, admits, isPreempted, Request.isCancellable, begun,
    isPossible, Session.step?, Session.next?, left, Session.finishAttempt, present, exchange?,
    finished]

theorem Comes.after_stop_begun (sound : duo.IsSound) {attempt : Session.Attempt}
    {layer : StyleLayer} {outcome : Outcome} {since : Nat} (begun : duo.begun = some since)
    (phase : duo.session.phase = .stoppingReader attempt layer outcome)
    (cleaning : Comes setup cancelled goal
      ⟨⟨duo.session.window, .cleaning attempt layer outcome⟩, none, .shut, none⟩) :
    Comes setup cancelled goal duo := by
  have present := sound.isPresent layer (by rw [phase]; rfl)
  obtain ⟨reader, works, stopped⟩ := phase ▸ sound.fits
  obtain ⟨deaf, stopped⟩ := stopped (by simp [begun])
  refine .after fun now => ?_
  obtain ⟨worker, finished, run⟩ :=
    @finishes_of_stopped setup now cancelled duo sound reader works deaf stopped
  have answered := @step?_readerStopped setup now cancelled { duo with reader := some worker }
    attempt layer outcome present (by simp [begun]) phase (by simp [readerFinished, finished])
  exact ⟨_, now, run.act (Nat.le_refl now) rfl answered, cleaning⟩

theorem Comes.after_stop (sound : duo.IsSound) {attempt : Session.Attempt} {layer : StyleLayer}
    {outcome : Outcome} (phase : duo.session.phase = .stoppingReader attempt layer outcome)
    (cleaning : Comes setup cancelled goal
      ⟨⟨duo.session.window, .cleaning attempt layer outcome⟩, none, .shut, none⟩) :
    Comes setup cancelled goal duo := by
  have asks : duo.session.request? setup = some .stopReader :=
    (Session.request?_eq_stopReader_iff setup _).mpr ⟨_, _, _, phase⟩
  refine .after_begin asks rfl ?_ ?_
  · exact fun since => .after_stop_begun (sound.begun asks) rfl phase cleaning
  · exact fun since begun => .after_stop_begun sound begun phase cleaning

/-! ### Cleaning up -/

theorem request?_of_cleaning {attempt : Session.Attempt} {key : LayerKey} {outcome : Outcome}
    (phase : duo.session.phase =
      .cleaning attempt (.acquired duo.session.window.id key) outcome) :
    duo.session.request? setup = some (.call (cleanupCall duo.session.window.id key outcome)) := by
  simp only [Session.request?, phase]
  cases outcome <;> rfl

theorem isCancellable_cleanupCall (window : WindowId) (key : LayerKey) (outcome : Outcome) :
    (Request.call (cleanupCall window key outcome)).isCancellable = false := by
  cases outcome <;> rfl

theorem isDue_of_cleaning {attempt : Session.Attempt} {key : LayerKey} {outcome : Outcome}
    (phase : duo.session.phase =
      .cleaning attempt (.acquired duo.session.window.id key) outcome)
    (fresh : duo.begun = none) :
    IsDue setup duo (cleanupCall duo.session.window.id key outcome) := by
  intro cancelled now
  refine ⟨duo, now, .here, isReady_of_fresh (request?_of_cleaning phase) fresh ?_⟩
  simp [isPreempted, isCancellable_cleanupCall]

theorem isDue_of_stopping (sound : duo.IsSound) {attempt : Session.Attempt} {key : LayerKey}
    {outcome : Outcome} (phase : duo.session.phase =
      .stoppingReader attempt (.acquired duo.session.window.id key) outcome) :
    IsDue setup duo (cleanupCall duo.session.window.id key outcome) :=
  fun cancelled => .after_stop sound phase (isDue_of_cleaning rfl rfl cancelled)

/-! ### From a failure to the next attempt -/

def Resumes (setup : Setup) (cancelled : Bool) (now : Nat) (duo : Duo) : Prop :=
  if cancelled then duo.session.phase = .ended .cancelled
  else IsReady setup false (.call (.openWindow duo.session.window.id)) now duo

theorem step?_answer {request : Request} {answer : Answer} {phase : Phase}
    (asks : duo.session.request? setup = some request)
    (admitted : duo.admits now cancelled request answer = true) (plain : answer.isPlain = true)
    (turned : Session.next? setup duo.session.window.id now duo.session.phase answer = some phase) :
    duo.step? setup now cancelled (.answer answer) =
      some ⟨⟨duo.session.window, phase⟩, none, duo.mailbox, duo.reader⟩ := by
  have kept : duo.exchange? request answer = some (duo.mailbox, duo.reader) :=
    exchange?_other (by rintro rfl; cases plain) (by rintro _ rfl; cases plain)
      (by rintro rfl; cases plain)
  simp [step?, answer?, asks, admitted, Session.step?, turned, kept]

theorem Comes.after_time {request : Request} {since : Nat} {phase : Phase} (answer : Answer)
    (limit : Nat) (own : Act.isOwn (.answer answer) = true) (other : answer ≠ .cancelled)
    (plain : answer.isPlain = true) (asks : duo.session.request? setup = some request)
    (begun : duo.begun = some since) (clear : isPreempted cancelled request = false)
    (possible : ∀ since now, since + limit ≤ now → isPossible now since request answer = true)
    (turned : ∀ now, Session.next? setup duo.session.window.id now duo.session.phase answer =
      some phase)
    (comes : Comes setup cancelled goal
      ⟨⟨duo.session.window, phase⟩, none, duo.mailbox, duo.reader⟩) :
    Comes setup cancelled goal duo := by
  refine .after fun now => ⟨_, max now (since + limit),
    .act .here (Nat.le_max_left ..) own (step?_answer asks ?_ plain (turned _)), comes⟩
  simp [admits, other, clear, begun, possible _ _ (Nat.le_max_right ..)]

theorem Comes.after_wait {request : Request} {phase : Phase} (answer : Answer) (limit : Nat)
    (own : Act.isOwn (.answer answer) = true) (other : answer ≠ .cancelled)
    (plain : answer.isPlain = true) (asks : duo.session.request? setup = some request)
    (goesOn : request ≠ .stopReader) (clear : isPreempted cancelled request = false)
    (possible : ∀ since now, since + limit ≤ now → isPossible now since request answer = true)
    (turned : ∀ now, Session.next? setup duo.session.window.id now duo.session.phase answer =
      some phase)
    (comes : Comes setup cancelled goal
      ⟨⟨duo.session.window, phase⟩, none, duo.mailbox, duo.reader⟩) :
    Comes setup cancelled goal duo := by
  cases fresh : duo.begun with
  | some since =>
      exact .after_time answer limit own other plain asks fresh clear possible turned comes
  | none =>
      refine .after_act .begin rfl fun now => ⟨{ duo with begun := some now }, ?_, ?_⟩
      · simp [step?, begin?, asks, fresh, clear, begin_of_ne_stopReader duo now goesOn]
      · exact .after_time answer limit own other plain asks rfl clear possible turned comes

theorem comes_of_cancelled {request : Request} (asks : duo.session.request? setup = some request)
    (turned : ∀ now, Session.next? setup duo.session.window.id now duo.session.phase .cancelled =
      some (.ended .cancelled)) :
    Comes setup true (Resumes setup true) duo :=
  .after_act (.answer .cancelled) rfl fun now =>
    ⟨_, step?_answer asks (by simp [admits]) rfl (turned now), fun now => ⟨_, now, .here, rfl⟩⟩

theorem comes_of_opening {attempt : Session.Attempt} (phase : duo.session.phase = .opening attempt)
    (fresh : duo.begun = none) : Comes setup cancelled (Resumes setup cancelled) duo := by
  have asks : duo.session.request? setup = some (.call (.openWindow duo.session.window.id)) := by
    rw [Session.request?, phase]
  cases cancelled with
  | true => exact comes_of_cancelled asks fun now => by rw [phase]; rfl
  | false => exact fun now => ⟨duo, now, .here, isReady_of_fresh asks fresh rfl⟩

theorem comes_of_sleeping {attempt : Session.Attempt} {delay : Nat}
    (phase : duo.session.phase = .sleeping attempt delay) :
    Comes setup cancelled (Resumes setup cancelled) duo := by
  have asks : duo.session.request? setup = some (.sleep delay) := by rw [Session.request?, phase]
  cases cancelled with
  | true => exact comes_of_cancelled asks fun now => by rw [phase]; rfl
  | false =>
      exact .after_wait .slept delay rfl (by simp) rfl asks (by simp) rfl
        (fun since now passed => decide_eq_true passed) (fun now => by rw [phase]; rfl)
        (comes_of_opening rfl rfl)

theorem comes_of_drawing {attempt : Session.Attempt}
    (phase : duo.session.phase = .drawing attempt) :
    Comes setup cancelled (Resumes setup cancelled) duo := by
  have asks : duo.session.request? setup = some (.draw attempt.backoff.ceiling) := by
    rw [Session.request?, phase]
  exact .after_wait (.delay 0) 0 rfl (by simp) rfl asks (by simp) (Bool.and_false _)
    (fun since now _ => by simp [isPossible]) (fun now => by rw [phase]; rfl)
    (comes_of_sleeping rfl)

theorem comes_of_cleaning {attempt : Session.Attempt} {key : LayerKey} {error : SessionError}
    (phase : duo.session.phase =
      .cleaning attempt (.acquired duo.session.window.id key) (.failed error)) :
    Comes setup cancelled (Resumes setup cancelled) duo :=
  .after_wait .givenUp StyleLayer.cleanupLimit rfl (by simp) rfl (request?_of_cleaning phase)
    (by simp) (Bool.and_false _) (fun since now passed => decide_eq_true passed)
    (fun now => by rw [phase]; rfl) (comes_of_drawing rfl)

theorem comes_of_stopping (sound : duo.IsSound) {attempt : Session.Attempt} {layer : StyleLayer}
    {error : SessionError}
    (phase : duo.session.phase = .stoppingReader attempt layer (.failed error)) :
    Comes setup cancelled (Resumes setup cancelled) duo := by
  obtain ⟨key, rfl⟩ := sound.layer_held layer (by rw [phase]; rfl)
  exact .after_stop sound phase (comes_of_cleaning rfl)

end

end LiveHighlight.Duo
