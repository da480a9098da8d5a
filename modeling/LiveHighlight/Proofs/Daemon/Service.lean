import LiveHighlight.Daemon
import LiveHighlight.Proofs.Claims.Exclusive
import LiveHighlight.Proofs.Session.Run
import Mathlib.Data.List.Basic

/-!
Sessions, the daemon and shutdowns at work together.

Sessions may be started by anyone, they act and end in any order, and everything may be cancelled
and shut down at any moment. A claim on a window is held for exactly one session, until it ends.
-/

namespace LiveHighlight

def Duo.windowId (duo : Duo) : WindowId :=
  duo.session.window.id

theorem Duo.windowId_start (setup : Setup) (window : Window) :
    (Duo.start setup window).windowId = window.id := by
  unfold Duo.windowId Duo.start Session.start
  split <;> rfl

namespace Ensemble

def unfinished (ensemble : Ensemble) : List Duo :=
  ensemble.duos.filter fun duo => !duo.session.hasEnded

def enrol (setup : Setup) (ensemble : Ensemble) (window : Window) : Ensemble where
  roster := { ensemble.roster with
    claims := { ensemble.roster.claims with
      keys := ensemble.roster.claims.keys.modify (ensemble.roster.claims.groupOf 0)
        (window.id :: ·) }
    running := window.id :: ensemble.roster.running }
  duos := ensemble.duos ++ [.start setup window]

/-- The sessions, the tasks that a shutdown waits for and the claims belong together. -/
structure IsSound (ensemble : Ensemble) : Prop where
  members : ∀ duo ∈ ensemble.duos, duo.IsSound
  claimed : ensemble.roster.claims = ⟨[0], [ensemble.roster.running]⟩
  unique : ensemble.roster.running.Nodup
  tracked : ensemble.roster.running.Perm (ensemble.unfinished.map Duo.windowId)
  cancelled : ensemble.roster.closed = true → ensemble.roster.cancelled = true

section

variable {setup : Setup} {ensemble later : Ensemble}

theorem start_eq (setup : Setup) (ensemble : Ensemble) (window : Window) :
    ensemble.start setup window =
      if ensemble.roster.cancelled = false ∧ window.id ∉ ensemble.roster.held then
        (true, ensemble.enrol setup window)
      else (false, ensemble) := by
  have free := ensemble.roster.claims.contains_iff 0 window.id
  unfold start Roster.start? Claims.claim?
  cases quiet : ensemble.roster.cancelled with
  | true => simp
  | false =>
      cases found : ensemble.roster.claims.contains 0 window.id with
      | true => simp [Roster.held, free.mp found]
      | false => simp [Roster.held, ← free, found, enrol, quiet]

theorem IsSound.held_eq (sound : ensemble.IsSound) :
    ensemble.roster.held = ensemble.roster.running := by
  rw [Roster.held, sound.claimed]
  rfl

theorem IsSound.held_enrol (sound : ensemble.IsSound) (window : Window) :
    (ensemble.enrol setup window).roster.held = window.id :: ensemble.roster.held := by
  rw [Roster.held, Roster.held, Ensemble.enrol, sound.claimed]
  rfl

theorem isSound_fresh : fresh.IsSound :=
  ⟨by simp [fresh], rfl, List.nodup_nil, .nil, fun closed => by cases closed⟩

theorem IsSound.enrol (sound : ensemble.IsSound) {window : Window}
    (free : window.id ∉ ensemble.roster.held) : (ensemble.enrol setup window).IsSound := by
  rw [sound.held_eq] at free
  refine ⟨?_, ?_, List.nodup_cons.mpr ⟨free, sound.unique⟩, ?_, sound.cancelled⟩
  · intro duo member
    rcases List.mem_append.mp member with known | new
    · exact sound.members duo known
    · exact List.mem_singleton.mp new ▸ Duo.isSound_start setup window
  · rw [Ensemble.enrol, sound.claimed]
    rfl
  · have goesOn : (Duo.start setup window).session.hasEnded = false := by
      unfold Duo.start Session.start
      split <;> rfl
    simp only [unfinished, Ensemble.enrol, List.filter_append, List.map_append]
    simp only [List.filter_cons, goesOn, Bool.not_false, if_true, List.filter_nil, List.map_cons,
      List.map_nil, Duo.windowId_start]
    exact (sound.tracked.cons _).trans (List.perm_append_singleton _ _).symm

theorem IsSound.start (sound : ensemble.IsSound) (window : Window) :
    (ensemble.start setup window).2.IsSound := by
  rw [start_eq]
  split
  next free => exact sound.enrol free.2
  next => exact sound

theorem act?_eq_some_iff {now place : Nat} {act : Duo.Act} :
    ensemble.act? setup now place act = some later ↔
      ∃ duo next, ensemble.duos[place]? = some duo ∧
        duo.step? setup now ensemble.roster.cancelled act = some next ∧
        later = ensemble.put place next := by
  simp only [act?, Option.map_eq_some_iff, Option.bind_eq_some_iff]
  constructor
  · rintro ⟨next, ⟨duo, here, taken⟩, rfl⟩
    exact ⟨duo, next, here, taken, rfl⟩
  · rintro ⟨duo, next, here, taken, rfl⟩
    exact ⟨next, ⟨duo, here, taken⟩, rfl⟩

theorem around_place {place : Nat} {duo : Duo} (here : ensemble.duos[place]? = some duo) :
    ∃ before after, ensemble.duos = before ++ duo :: after ∧
      ∀ next, (ensemble.put place next).duos = before ++ next :: after := by
  obtain ⟨within, same⟩ := List.getElem?_eq_some_iff.mp here
  refine ⟨ensemble.duos.take place, ensemble.duos.drop (place + 1), ?_, fun next => ?_⟩
  · rw [← same, List.getElem_cons_drop, List.take_append_drop]
  · rw [put, List.set_eq_take_append_cons_drop, if_pos within]

theorem IsSound.put (sound : ensemble.IsSound) {place : Nat} {duo next : Duo}
    (here : ensemble.duos[place]? = some duo) (goesOn : duo.session.hasEnded = false)
    (same : next.windowId = duo.windowId) (keeps : duo.IsSound → next.IsSound) :
    (ensemble.put place next).IsSound := by
  obtain ⟨before, after, split, splits⟩ := around_place here
  have members : ∀ member ∈ (ensemble.put place next).duos, member.IsSound := by
    intro member known
    have others := sound.members
    rw [split] at others
    rw [splits] at known
    simp only [List.mem_append, List.mem_cons] at known others
    rcases known with old | rfl | old
    · exact others member (.inl old)
    · exact keeps (others duo (.inr (.inl rfl)))
    · exact others member (.inr (.inr old))
  have tracked := sound.tracked
  rw [unfinished, split] at tracked
  simp only [List.filter_append, List.filter_cons, goesOn, Bool.not_false, if_true,
    List.map_append, List.map_cons] at tracked
  cases ended : next.session.hasEnded with
  | false =>
      have roster : (ensemble.put place next).roster = ensemble.roster := by
        simp [Ensemble.put, ended]
      refine ⟨members, roster ▸ sound.claimed, roster ▸ sound.unique, ?_, roster ▸ sound.cancelled⟩
      rw [unfinished, splits, roster]
      simpa [ended, same] using tracked
  | true =>
      have roster : (ensemble.put place next).roster = ensemble.roster.finish duo.windowId := by
        rw [← same]
        simp [Ensemble.put, ended, Duo.windowId]
      refine ⟨members, ?_, ?_, ?_, roster ▸ sound.cancelled⟩
      · rw [roster, Roster.finish, sound.claimed]
        rfl
      · rw [roster]
        exact sound.unique.erase _
      · rw [unfinished, splits, roster]
        have gone := (tracked.trans List.perm_middle).erase duo.windowId
        rw [List.erase_cons_head] at gone
        simpa [ended, Roster.finish] using gone

theorem IsSound.act (sound : ensemble.IsSound) {now place : Nat} {act : Duo.Act}
    (acted : ensemble.act? setup now place act = some later) : later.IsSound := by
  obtain ⟨duo, next, here, taken, rfl⟩ := act?_eq_some_iff.mp acted
  have change := Duo.change_of_step? taken
  have known := sound.members duo (List.mem_of_getElem? here)
  exact sound.put here (known.goesOn change) (congrArg Window.id change.session_window)
    (·.step change)

theorem IsSound.cancel (sound : ensemble.IsSound) : ensemble.cancel.IsSound :=
  ⟨sound.members, sound.claimed, sound.unique, sound.tracked, fun _ => rfl⟩

theorem IsSound.close (sound : ensemble.IsSound) : ensemble.close.IsSound :=
  ⟨sound.members, sound.claimed, sound.unique, sound.tracked, fun _ => rfl⟩

/-! ### Drained ensembles -/

theorem IsSound.of_drained (sound : ensemble.IsSound) (drained : ensemble.roster.isDrained = true) :
    ensemble.unfinished = [] ∧ ensemble.roster.held = [] := by
  simp only [Roster.isDrained, Bool.and_eq_true, List.isEmpty_iff] at drained
  have tracked := sound.tracked
  rw [drained.2] at tracked
  exact ⟨List.map_eq_nil_iff.mp tracked.nil_eq.symm, sound.held_eq.trans drained.2⟩

theorem IsSound.start_of_drained (sound : ensemble.IsSound)
    (drained : ensemble.roster.isDrained = true) (window : Window) :
    (ensemble.start setup window).2 = ensemble := by
  simp only [Roster.isDrained, Bool.and_eq_true] at drained
  rw [start_eq, if_neg (by simp [sound.cancelled drained.1])]

theorem IsSound.act_of_drained (sound : ensemble.IsSound)
    (drained : ensemble.roster.isDrained = true) (now place : Nat) (act : Duo.Act) :
    ensemble.act? setup now place act = none := by
  refine Option.eq_none_iff_forall_ne_some.mpr fun later acted => ?_
  obtain ⟨duo, next, here, taken, rfl⟩ := act?_eq_some_iff.mp acted
  have member := List.mem_of_getElem? here
  have goesOn := (sound.members duo member).goesOn (Duo.change_of_step? taken)
  have unfinished : duo ∈ ensemble.unfinished := List.mem_filter.mpr ⟨member, by simp [goesOn]⟩
  rw [(sound.of_drained drained).1] at unfinished
  cases unfinished

end
end Ensemble

namespace Daemon

inductive Turn : Phase → Answer → Phase → Prop
  | subscribed {backoff stream} :
      Turn (.subscribing backoff) (.reply (.events stream)) (.listing backoff stream)
  | unsubscribed {backoff error} :
      Turn (.subscribing backoff) (.reply (.editorFailed error)) (.drawing backoff)
  | listed {backoff stream listed} : Turn
      (.listing backoff stream) (.reply (.windows listed)) (startAll backoff.reset stream listed)
  | unlisted {backoff stream error} :
      Turn (.listing backoff stream) (.reply (.editorFailed error)) (.drawing backoff)
  | started {backoff stream window later isNew} : Turn
      (.starting backoff stream window later) (.started isNew) (startAll backoff stream later)
  | arrived {backoff stream window} : Turn
      (.following backoff stream) (.arrived (.window window)) (.starting backoff stream window [])
  | failed {backoff stream error} :
      Turn (.following backoff stream) (.arrived (.failed error)) (.drawing backoff)
  | ended {backoff stream} :
      Turn (.following backoff stream) (.arrived .ended) (.drawing backoff)
  | drawn {backoff nanos} :
      Turn (.drawing backoff) (.delay nanos) (.sleeping backoff.advance nanos)
  | slept {backoff delay} : Turn (.sleeping backoff delay) .slept (.subscribing backoff)
  | cancelled {phase request} (asks : request? phase = some request)
      (waits : request.isCancellable = true) : Turn phase .cancelled .draining
  | drained : Turn .draining .drained .done

section

variable {setup : Setup} {ensemble later : Ensemble} {phase next : Phase} {answer : Answer}

theorem answer?_eq_some_iff :
    answer? setup ensemble phase answer = some (later, next) ↔
      ∃ request, request? phase = some request ∧ admits setup ensemble request answer = true ∧
        step? phase answer = some next ∧ later = perform setup ensemble request := by
  unfold answer?
  cases request? phase with
  | none => simp
  | some request =>
      simp only [Option.some.injEq, exists_eq_left']
      split
      next admitted =>
        rw [Option.map_eq_some_iff]
        constructor
        · rintro ⟨phase, turned, same⟩
          cases same
          exact ⟨admitted, turned, rfl⟩
        · rintro ⟨_, turned, rfl⟩
          exact ⟨_, turned, rfl⟩
      next refused => simp [refused]

theorem turn_of_step? (turned : step? phase answer = some next) : Turn phase answer next := by
  unfold step? at turned
  split at turned <;> cases turned
  case h_6 goesOn runs free =>
    cases phase with
    | starting => exact absurd rfl (free _ _ _ _)
    | draining => exact absurd rfl goesOn
    | done => exact absurd rfl runs
    | _ => exact .cancelled rfl rfl
  all_goals constructor

theorem startAll_ne_done (backoff : Backoff) (stream : StreamKey) (windows : List Window) :
    startAll backoff stream windows ≠ .done := by
  cases windows <;> simp [startAll]

theorem Turn.drained_of_done (turn : Turn phase answer .done) :
    phase = .draining ∧ answer = .drained := by
  generalize final : Phase.done = later at turn
  cases turn with
  | drained => exact ⟨rfl, rfl⟩
  | started | listed => exact absurd final.symm (startAll_ne_done _ _ _)
  | _ => cases final

theorem isSound_perform (sound : ensemble.IsSound) (request : Request) :
    (perform setup ensemble request).IsSound := by
  cases request with
  | start window => exact sound.start window
  | _ => exact sound

end
end Daemon

structure Service where
  ensemble : Ensemble
  daemon : Daemon.Phase
  isOver : Bool

namespace Service

inductive Event where
  /-- Anyone starts a session. -/
  | start (window : Window)
  | act (place now : Nat) (act : Duo.Act)
  | answer (answer : Daemon.Answer)
  | cancel
  | close
  | returned

def fresh (setup : Setup) : Service :=
  ⟨.fresh, Daemon.begin setup.settings.backoffBase setup.settings.backoffCap, false⟩

def step? (setup : Setup) (service : Service) : Event → Option Service
  | .start window => some { service with ensemble := (service.ensemble.start setup window).2 }
  | .act place now act =>
    (service.ensemble.act? setup now place act).map ({ service with ensemble := · })
  | .answer answer =>
    (Daemon.answer? setup service.ensemble service.daemon answer).map fun (ensemble, daemon) =>
      { service with ensemble := ensemble, daemon := daemon }
  | .cancel => some { service with ensemble := service.ensemble.cancel }
  | .close => some { service with ensemble := service.ensemble.close }
  | .returned =>
    if service.ensemble.roster.isDrained then some { service with isOver := true } else none

inductive Step (setup : Setup) (service : Service) : Event → Service → Prop
  | start {window} : Step setup service (.start window)
      { service with ensemble := (service.ensemble.start setup window).2 }
  | act {place now act later} (acted : service.ensemble.act? setup now place act = some later) :
      Step setup service (.act place now act) { service with ensemble := later }
  | answer {answer request phase} (asks : Daemon.request? service.daemon = some request)
      (admitted : Daemon.admits setup service.ensemble request answer = true)
      (turn : Daemon.Turn service.daemon answer phase) :
      Step setup service (.answer answer)
        ⟨Daemon.perform setup service.ensemble request, phase, service.isOver⟩
  | cancel : Step setup service .cancel { service with ensemble := service.ensemble.cancel }
  | close : Step setup service .close { service with ensemble := service.ensemble.close }
  | returned (drained : service.ensemble.roster.isDrained = true) :
      Step setup service .returned { service with isOver := true }

/-- What can come about by any events in any order. -/
inductive Reachable (setup : Setup) : Service → Prop
  | fresh : Reachable setup (.fresh setup)
  | step {service next event} (earlier : Reachable setup service)
      (taken : service.step? setup event = some next) : Reachable setup next

/-- Once a shutdown or the daemon has returned, every session has ended. -/
structure IsSound (service : Service) : Prop where
  ensemble : service.ensemble.IsSound
  drained : service.isOver = true ∨ service.daemon = .done →
    service.ensemble.roster.isDrained = true

section

variable {setup : Setup} {service next : Service} {event : Event}

theorem step_of_step? (taken : service.step? setup event = some next) :
    Step setup service event next := by
  cases event with
  | start window =>
      cases taken
      exact .start
  | act place now act =>
      obtain ⟨later, acted, rfl⟩ := Option.map_eq_some_iff.mp taken
      exact .act acted
  | answer answer =>
      obtain ⟨⟨later, phase⟩, answered, rfl⟩ := Option.map_eq_some_iff.mp taken
      obtain ⟨request, asks, admitted, turned, rfl⟩ := Daemon.answer?_eq_some_iff.mp answered
      exact .answer asks admitted (Daemon.turn_of_step? turned)
  | cancel =>
      cases taken
      exact .cancel
  | close =>
      cases taken
      exact .close
  | returned =>
      simp only [step?] at taken
      split at taken
      next drained =>
        cases taken
        exact .returned drained
      next => cases taken

theorem IsSound.step (sound : service.IsSound) (step : Step setup service event next) :
    next.IsSound := by
  obtain ⟨ensemble, drained⟩ := sound
  cases step with
  | @start window =>
      refine ⟨ensemble.start window, fun finished => ?_⟩
      have drained := drained finished
      rwa [ensemble.start_of_drained drained]
  | act acted =>
      refine ⟨ensemble.act acted, fun finished => ?_⟩
      rw [ensemble.act_of_drained (drained finished)] at acted
      cases acted
  | @answer answer request phase asks admitted turn =>
      refine ⟨Daemon.isSound_perform ensemble request, ?_⟩
      rintro (finished | rfl)
      · have drained := drained (.inl finished)
        cases request with
        | start window => rwa [Daemon.perform, ensemble.start_of_drained drained]
        | _ => exact drained
      · obtain ⟨draining, rfl⟩ := turn.drained_of_done
        rw [draining] at asks
        cases asks
        exact admitted
  | cancel => exact ⟨ensemble.cancel, drained⟩
  | close =>
      refine ⟨ensemble.close, fun finished => ?_⟩
      have drained := drained finished
      simp only [Roster.isDrained, Bool.and_eq_true] at drained
      simp [Ensemble.close, Roster.close, Roster.cancel, Roster.isDrained, drained.2]
  | returned empty => exact ⟨ensemble, fun _ => empty⟩

theorem Reachable.isSound (reachable : Reachable setup service) : service.IsSound := by
  induction reachable with
  | fresh => exact ⟨Ensemble.isSound_fresh, by rintro (finished | done) <;> contradiction⟩
  | step earlier taken sound => exact sound.step (step_of_step? taken)

/-- The windows that are held are those under a session that has not ended, each under one. A start
succeeds where nothing is cancelled and the window is free, and changes nothing elsewhere. Once a
shutdown has returned, or the daemon has, no session goes on and no window is held. -/
theorem one_session_per_window (setup : Setup) (service : Service)
    (reachable : Reachable setup service) :
    (service.ensemble.roster.held.Nodup ∧
      service.ensemble.roster.held.Perm (service.ensemble.unfinished.map Duo.windowId)) ∧
    (∀ window isNew later, service.ensemble.start setup window = (isNew, later) →
      (isNew = true ↔ service.ensemble.roster.cancelled = false ∧
        window.id ∉ service.ensemble.roster.held) ∧
      (isNew = true → later.duos = service.ensemble.duos ++ [.start setup window]) ∧
      (isNew = false → later = service.ensemble)) ∧
    (service.isOver = true ∨ service.daemon = .done →
      service.ensemble.unfinished = [] ∧ service.ensemble.roster.held = []) := by
  obtain ⟨sound, drained⟩ := reachable.isSound
  refine ⟨?_, ?_, fun finished => sound.of_drained (drained finished)⟩
  · rw [sound.held_eq]
    exact ⟨sound.unique, sound.tracked⟩
  · intro window isNew later started
    rw [Ensemble.start_eq] at started
    split at started
    next free =>
      cases started
      exact ⟨by simp [free], fun _ => rfl, by simp⟩
    next taken =>
      cases started
      exact ⟨by simpa using taken, by simp, fun _ => rfl⟩

end

theorem reachable_of_foldlM {setup : Setup} {service : Service} {events : List Event}
    (replayed : events.foldlM (step? setup) (.fresh setup) = some service) :
    Reachable setup service :=
  holds_of_foldlM .step .fresh replayed

def twoSessions : List Event :=
  [.start ⟨1, "lib.rs"⟩, .answer (.reply (.events 1)),
    .answer (.reply (.windows [⟨1, "lib.rs"⟩, ⟨2, "main.rs"⟩])), .answer (.started false),
    .answer (.started true), .cancel, .act 1 0 (.answer .cancelled), .answer .cancelled, .close,
    .act 0 0 (.answer .cancelled), .answer .drained, .returned]

theorem one_session_per_window_twoSessions : ∃ service, Reachable Duo.rustOnly service ∧
    service.ensemble.duos.length = 2 ∧ service.daemon = .done ∧
    service.ensemble.unfinished = [] ∧ service.ensemble.roster.held = [] :=
  have reachable := @reachable_of_foldlM Duo.rustOnly _ twoSessions rfl
  ⟨_, reachable, rfl, rfl, (one_session_per_window Duo.rustOnly _ reachable).2.2 (.inr rfl)⟩

end Service
end LiveHighlight
