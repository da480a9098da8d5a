import LiveHighlight.Proofs.Daemon.Discovery

/-!
Windows whose id is used again.

A window may close and open again while its session still winds down. The history tells whether
its claim was held whenever it was passed on, and so why no session was started for it.
-/

namespace LiveHighlight

def isBusy (window : WindowId) : List Entry → Bool
  | [] => false
  | .passed passed true :: earlier => passed.id == window || isBusy window earlier
  | .finished finished :: earlier => finished != window && isBusy window earlier
  | _ :: earlier => isBusy window earlier

def Opening.IsStarted (opening : Opening) (history : List Entry) : Prop :=
  ∃ window, window.id = opening.window.id ∧ .passed window true ∈ opening.since history

theorem since_append {opening : Opening} {history : List Entry}
    (recorded : .opened opening ∈ history) :
    ∃ earlier, history = opening.since history ++ .opened opening :: earlier := by
  induction history with
  | nil => cases recorded
  | cons entry history ih =>
      by_cases here : entry = .opened opening
      · exact ⟨history, by simp [Opening.since, here]⟩
      · rcases List.mem_cons.mp recorded with rfl | recorded
        · exact absurd rfl here
        · obtain ⟨earlier, split⟩ := ih recorded
          refine ⟨earlier, ?_⟩
          rw [Opening.since, List.takeWhile_cons_of_pos (by simpa using here), List.cons_append]
          exact congrArg _ split

theorem busy_since {window : WindowId} {between earlier : List Entry}
    (busy : isBusy window (between ++ earlier) = true) :
    (∃ passed : Window, passed.id = window ∧ .passed passed true ∈ between) ∨
      isBusy window earlier = true ∧ .finished window ∉ between := by
  induction between with
  | nil => exact .inr ⟨busy, List.not_mem_nil⟩
  | cons entry between ih =>
      have onward (busy : isBusy window (between ++ earlier) = true)
          (other : entry ≠ .finished window) :
          (∃ passed : Window, passed.id = window ∧ .passed passed true ∈ entry :: between) ∨
            isBusy window earlier = true ∧ .finished window ∉ entry :: between := by
        rcases ih busy with ⟨passed, same, member⟩ | ⟨before, goesOn⟩
        · exact .inl ⟨passed, same, List.mem_cons_of_mem entry member⟩
        · exact .inr ⟨before, by simp [other.symm, goesOn]⟩
      cases entry with
      | opened opening => exact onward busy (by simp)
      | finished finished =>
          simp only [List.cons_append, isBusy, Bool.and_eq_true, bne_iff_ne] at busy
          exact onward busy.2 (by simpa using busy.1)
      | passed passed isNew =>
          cases isNew with
          | false => exact onward busy (by simp)
          | true =>
              simp only [List.cons_append, isBusy, Bool.or_eq_true, beq_iff_eq] at busy
              rcases busy with same | busy
              · exact .inl ⟨passed, same, List.mem_cons_self⟩
              · exact onward busy (by simp)

namespace Service

def Bears (before after : Ensemble) : Option Entry → Prop
  | none => after.roster.held = before.roster.held
  | some (.passed window true) => after.roster.held = window.id :: before.roster.held
  | some (.passed window false) => after.roster.held = before.roster.held ∧
      (before.roster.cancelled = true ∨ window.id ∈ before.roster.held)
  | some (.finished window) => after.roster.held = before.roster.held.erase window
  | some (.opened _) => False

variable {setup : Setup} {service next : Service} {event : Event}

theorem bears_start {ensemble : Ensemble} (sound : ensemble.IsSound) (window : Window) :
    Bears ensemble (ensemble.start setup window).2
      (some (.passed window (ensemble.start setup window).1)) := by
  rw [Ensemble.start_eq]
  split
  next free => exact sound.held_enrol window
  next taken => exact ⟨rfl, by simpa [Classical.or_iff_not_imp_left] using taken⟩

theorem bears_act {now place : Nat} {act : Duo.Act} {later : Ensemble}
    (sound : service.ensemble.IsSound)
    (acted : service.ensemble.act? setup now place act = some later) :
    Bears service.ensemble later (service.note? setup (.act place now act)) := by
  have held := sound.held_eq
  have heldLater := (sound.act acted).held_eq
  simp only [note?, acted, Option.bind_some]
  obtain ⟨duo, next, here, _, rfl⟩ := Ensemble.act?_eq_some_iff.mp acted
  obtain ⟨within, _⟩ := List.getElem?_eq_some_iff.mp here
  have there : (service.ensemble.put place next).duos[place]? = some next :=
    List.getElem?_set_self within
  rw [there]
  cases ended : next.session.hasEnded with
  | false => simp [Option.filter, ended, Bears, Ensemble.put]
  | true =>
      simp only [Option.filter, ended, if_true, Option.map_some, Bears]
      rw [heldLater, held]
      simp [Ensemble.put, ended, Roster.finish, Duo.windowId]

theorem bears_answer {answer : Daemon.Answer} {request : Daemon.Request} {phase : Daemon.Phase}
    (sound : service.ensemble.IsSound)
    (asks : Daemon.request? service.daemon = some request)
    (admitted : Daemon.admits setup service.ensemble request answer = true)
    (turn : Daemon.Turn service.daemon answer phase) :
    Bears service.ensemble (Daemon.perform setup service.ensemble request)
      (service.note? setup (.answer answer)) := by
  obtain ⟨ensemble, daemon, isOver⟩ := service
  cases turn with
  | started =>
      cases asks
      obtain rfl := beq_iff_eq.mp admitted
      exact bears_start sound _
  | cancelled asks' waits =>
      cases asks.symm.trans asks'
      cases request with
      | start window => cases waits
      | _ => exact rfl
  | _ =>
      cases asks
      exact rfl

theorem Step.bears (step : Step setup service event next) (sound : service.IsSound) :
    Bears service.ensemble next.ensemble (service.note? setup event) := by
  cases step with
  | start => exact bears_start sound.ensemble _
  | act acted => exact bears_act sound.ensemble acted
  | answer asks admitted turn => exact bears_answer sound.ensemble asks admitted turn
  | cancel | close | returned => exact rfl

theorem cancelled_start {ensemble : Ensemble} (cancelled : ensemble.roster.cancelled = true)
    (window : Window) : (ensemble.start setup window).2.roster.cancelled = true := by
  rw [Ensemble.start_eq, if_neg (by simp [cancelled])]
  exact cancelled

theorem Step.cancelled (step : Step setup service event next)
    (cancelled : service.ensemble.roster.cancelled = true) :
    next.ensemble.roster.cancelled = true := by
  cases step with
  | start => exact cancelled_start cancelled _
  | act acted =>
      obtain ⟨_, next, _, _, rfl⟩ := Ensemble.act?_eq_some_iff.mp acted
      simp only [Ensemble.put]
      split <;> exact cancelled
  | @answer _ request =>
      cases request with
      | start window => exact cancelled_start cancelled window
      | _ => exact cancelled
  | cancel | close => exact rfl
  | returned => exact cancelled

end Service

namespace Discovery

/-- The history tells which windows are held, and why a session was not started. -/
structure IsTruthful (discovery : Discovery) : Prop where
  busy : ∀ window, isBusy window discovery.history = true ↔
    window ∈ discovery.service.ensemble.roster.held
  refused : ∀ later window earlier, discovery.history = later ++ .passed window false :: earlier →
    discovery.service.ensemble.roster.cancelled = true ∨ isBusy window.id earlier = true

section

variable {setup : Setup} {discovery next : Discovery}

theorem busy_of_bears {before after : Ensemble} {note : Option Entry} {history : List Entry}
    (bears : Service.Bears before after note) (unique : before.roster.held.Nodup)
    (busy : ∀ window, isBusy window history = true ↔ window ∈ before.roster.held)
    (window : WindowId) :
    isBusy window (note.toList ++ history) = true ↔ window ∈ after.roster.held := by
  cases note with
  | none => rw [show after.roster.held = before.roster.held from bears]; exact busy window
  | some entry =>
      simp only [Option.toList_some, List.singleton_append]
      cases entry with
      | opened opening => cases bears
      | finished finished =>
          rw [show after.roster.held = before.roster.held.erase finished from bears,
            unique.mem_erase_iff, isBusy, Bool.and_eq_true, bne_iff_ne, ne_comm, busy window]
      | passed passed isNew =>
          cases isNew with
          | true =>
              rw [show after.roster.held = passed.id :: before.roster.held from bears,
                List.mem_cons, isBusy, Bool.or_eq_true, beq_iff_eq, eq_comm, busy window]
          | false =>
              rw [show after.roster.held = before.roster.held from bears.1]
              exact busy window

theorem IsTruthful.record {event : Service.Event} {service : Service}
    (truthful : discovery.IsTruthful) (sound : discovery.service.IsSound)
    (step : Service.Step setup discovery.service event service) :
    (discovery.record setup event service).IsTruthful := by
  have bears := step.bears sound
  have unique : discovery.service.ensemble.roster.held.Nodup :=
    sound.ensemble.held_eq ▸ sound.ensemble.unique
  refine ⟨busy_of_bears bears unique truthful.busy, fun later window earlier split => ?_⟩
  refine Or.imp_left step.cancelled ?_
  simp only [Discovery.record] at split
  cases noted : discovery.service.note? setup event with
  | none =>
      rw [noted] at split
      exact truthful.refused later window earlier split
  | some entry =>
      rw [noted] at split bears
      cases later with
      | nil =>
          cases split
          exact bears.2.imp_right (truthful.busy window.id).mpr
      | cons latest later =>
          exact truthful.refused later window earlier (List.cons.inj split).2

theorem IsTruthful.of_same (truthful : discovery.IsTruthful)
    (service : next.service = discovery.service) (history : next.history = discovery.history) :
    next.IsTruthful :=
  ⟨by rw [history, service]; exact truthful.busy, by rw [history, service]; exact truthful.refused⟩

theorem IsTruthful.step {event : Event} (truthful : discovery.IsTruthful)
    (sound : discovery.service.IsSound) (taken : discovery.step? setup event = some next) :
    next.IsTruthful ∧ next.service.IsSound := by
  cases event with
  | opens window =>
      cases taken
      refine ⟨⟨truthful.busy, fun later passed earlier split => ?_⟩, sound⟩
      cases later with
      | nil => cases split
      | cons latest later => exact truthful.refused later passed earlier (List.cons.inj split).2
  | closes opening | repeats opening =>
      cases taken
      exact ⟨truthful.of_same rfl rfl, sound⟩
  | service event =>
      obtain ⟨_, service, stepped, rfl⟩ := step?_service taken
      have step := Service.step_of_step? stepped
      obtain ⟨same, _, _, history⟩ :=
        receive_keeps (discovery.record setup event service) event
      refine ⟨(truthful.record sound step).of_same same history, ?_⟩
      rw [same]
      exact sound.step step

theorem Reachable.isTruthful (reachable : Reachable setup discovery) :
    discovery.IsTruthful ∧ discovery.service.IsSound := by
  induction reachable with
  | fresh => exact ⟨⟨fun window => by simp [Discovery.fresh, isBusy, Service.fresh, Ensemble.fresh,
      Roster.fresh, Roster.held, Claims.held, Claims.heldIn, Claims.groupOf, Claims.empty],
      by simp [Discovery.fresh]⟩, Service.Reachable.fresh.isSound⟩
  | step earlier taken truthful => exact truthful.1.step truthful.2 taken

/-- A window that is open, and whose event has been delivered, has had a session started for it
since it was opened, unless it was passed on while the session that its id had before was yet to
end. It has then been refused. -/
theorem reopened_started_or_refused (setup : Setup) (discovery : Discovery)
    (reachable : Reachable setup discovery)
    (goesOn : discovery.service.ensemble.roster.cancelled = false) (backoff : Backoff)
    (stream : StreamKey) (follows : discovery.service.daemon = .following backoff stream)
    (opening : Opening) (isOpen : opening ∈ discovery.openings)
    (delivered : opening ∉ discovery.arrivals) :
    opening.IsStarted discovery.history ∨
      ∃ later between earlier, discovery.history =
          later ++ .passed opening.window false :: (between ++ .opened opening :: earlier) ∧
        isBusy opening.window.id earlier = true ∧ .finished opening.window.id ∉ between := by
  have sound := reachable.isSound
  obtain ⟨earlier, split⟩ := since_append (sound.recorded opening isOpen)
  obtain ⟨isNew, passed⟩ := (sound.noticed_of_following follows isOpen).resolve_right delivered
  cases isNew with
  | true => exact .inl ⟨opening.window, rfl, passed⟩
  | false =>
      obtain ⟨later, between, recent⟩ := List.append_of_mem passed
      have whole : discovery.history =
          later ++ .passed opening.window false :: (between ++ .opened opening :: earlier) := by
        rw [split, recent, List.append_assoc, List.cons_append]
      have busy := (reachable.isTruthful.1.refused _ _ _ whole).resolve_left (by simp [goesOn])
      rcases busy_since busy with ⟨window, same, started⟩ | ⟨busy, goesOn⟩
      · refine .inl ⟨window, same, ?_⟩
        rw [recent]
        exact List.mem_append_right _ (List.mem_cons_of_mem _ started)
      · exact .inr ⟨later, between, earlier, whole, busy, goesOn⟩

end

def acts (acts : List Duo.Act) : List Event :=
  acts.map fun act => .service (.act 0 0 act)

def connects : List Event :=
  [.opens ⟨1, "lib.rs"⟩, .service (.answer (.reply (.events 1))),
    .service (.answer (.reply (.windows [⟨1, "lib.rs"⟩]))), .service (.answer (.started true))]

def reopens (isNew : Bool) : List Event :=
  [.closes ⟨0, 1, "lib.rs"⟩, .opens ⟨1, "lib.rs"⟩,
    .service (.answer (.arrived (.window ⟨1, "lib.rs"⟩))), .service (.answer (.started isNew))]

def reopensLate : List Event :=
  connects ++ acts (Duo.replied (.editorFailed (.windowGone 1))) ++ reopens true

theorem reopened_started_or_refused_reopensLate : ∃ discovery, Reachable Duo.rustOnly discovery ∧
    discovery.openings = [⟨1, 1, "lib.rs"⟩] ∧
    (Opening.IsStarted ⟨1, 1, "lib.rs"⟩ discovery.history ∨
      ∃ later between earlier, discovery.history =
          later ++ .passed ⟨1, "lib.rs"⟩ false ::
            (between ++ .opened ⟨1, 1, "lib.rs"⟩ :: earlier) ∧
        isBusy 1 earlier = true ∧ .finished 1 ∉ between) :=
  have reachable := @reachable_of_foldlM Duo.rustOnly _ reopensLate rfl
  ⟨_, reachable, rfl, reopened_started_or_refused Duo.rustOnly _ reachable rfl _ _ rfl
    ⟨1, 1, "lib.rs"⟩ (by decide) (by decide)⟩

def reopensEarly : List Event :=
  connects ++
    acts (Duo.attemptActs 1 7 ++ Duo.replied .done ++ Duo.closingActs ++ [.begin]) ++
    reopens false ++ acts [.answer (.reply .done)]

/-- A window can be left without a session, with no event of it to come and no claim on its id. -/
theorem reopened_left_alone : ∃ discovery backoff stream, Reachable Duo.rustOnly discovery ∧
    discovery.service.ensemble.roster.cancelled = false ∧
    discovery.service.daemon = .following backoff stream ∧
    discovery.openings = [⟨1, 1, "lib.rs"⟩] ∧ discovery.arrivals = [] ∧
    discovery.service.ensemble.roster.held = [] ∧
    Duo.rustOnly.resolver.ofFilename? "lib.rs" = some "rust" ∧
    ¬ Opening.IsStarted ⟨1, 1, "lib.rs"⟩ discovery.history := by
  have reachable := @reachable_of_foldlM Duo.rustOnly _ reopensEarly rfl
  refine ⟨_, _, _, reachable, rfl, rfl, rfl, rfl, rfl, rfl, ?_⟩
  rintro ⟨window, _, started⟩
  change .passed window true ∈ [Entry.finished 1, .passed ⟨1, "lib.rs"⟩ false] at started
  simp at started

end Discovery
end LiveHighlight
