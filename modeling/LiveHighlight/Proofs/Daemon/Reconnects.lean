import LiveHighlight.Proofs.Daemon.Exchanges

/-!
How the daemon connects anew.

Anyone may start sessions, act and cancel while the daemon waits for its answers. It leaves only
when it is told of a cancellation. The sessions go on while it connects anew, and a window that is
listed again keeps its own.
-/

namespace LiveHighlight

namespace Ensemble

def sessionsOf (ensemble : Ensemble) (window : WindowId) : Nat :=
  ensemble.duos.countP (·.windowId == window)

section

variable {setup : Setup} {ensemble later : Ensemble} {window : WindowId}

theorem sessionsOf_start (active : ensemble.roster.isActive window = true) (other : Window) :
    (ensemble.start setup other).2.sessionsOf window = ensemble.sessionsOf window := by
  rw [start_eq]
  split
  next free =>
    have apart : other.id ≠ window := by
      rintro rfl
      exact free.2 ((ensemble.roster.claims.contains_iff 0 _).mp active)
    simp [sessionsOf, enrol, Duo.windowId_start, apart]
  next => rfl

theorem sessionsOf_act {now place : Nat} {act : Duo.Act}
    (acted : ensemble.act? setup now place act = some later) (window : WindowId) :
    later.sessionsOf window = ensemble.sessionsOf window := by
  obtain ⟨duo, next, here, taken, rfl⟩ := act?_eq_some_iff.mp acted
  obtain ⟨before, after, split, splits⟩ := around_place here
  have same : next.windowId = duo.windowId :=
    congrArg Window.id (Duo.change_of_step? taken).session_window
  simp only [sessionsOf, splits, split, List.countP_append, List.countP_cons, same]

theorem cancelled_start (setup : Setup) (ensemble : Ensemble) (window : Window) :
    (ensemble.start setup window).2.roster.cancelled = ensemble.roster.cancelled := by
  rw [start_eq]
  split <;> rfl

theorem cancelled_act {now place : Nat} {act : Duo.Act}
    (acted : ensemble.act? setup now place act = some later) :
    later.roster.cancelled = ensemble.roster.cancelled := by
  obtain ⟨duo, next, here, taken, rfl⟩ := act?_eq_some_iff.mp acted
  unfold put Roster.finish
  dsimp only
  split <;> rfl

end

/-- What a turn of the daemon leaves the sessions: all as they were, and one more where the window
that it starts is free and nothing is cancelled. -/
def Spares (setup : Setup) (ensemble later : Ensemble) (request : Daemon.Request) : Prop :=
  later = ensemble ∨ ∃ window, request = .start window ∧ ensemble.roster.cancelled = false ∧
    ensemble.roster.isActive window.id = false ∧ later.roster.cancelled = false ∧
    later.duos = ensemble.duos ++ [.start setup window]

theorem spares_perform (setup : Setup) (ensemble : Ensemble) (request : Daemon.Request) :
    Spares setup ensemble (Daemon.perform setup ensemble request) request := by
  cases request with
  | start window =>
      change Spares setup ensemble (ensemble.start setup window).2 _
      rw [start_eq]
      split
      next free =>
        refine .inr ⟨window, rfl, free.1, ?_, free.1, rfl⟩
        rw [Bool.eq_false_iff, ne_eq, Roster.isActive, Claims.contains_iff]
        exact free.2
      next => exact .inl rfl
  | _ => exact .inl rfl

end Ensemble

namespace Service

open Daemon (Exchange)

structure Moment where
  service : Service
  event : Event

namespace Moment

def exchange? (moment : Moment) : Option Exchange :=
  match moment.event with
  | .answer answer => (Daemon.request? moment.service.daemon).map (⟨·, answer⟩)
  | _ => none

def cancels (moment : Moment) : Bool :=
  match moment.event with
  | .cancel | .close => true
  | _ => false

end Moment

def Event.isPossible (phase : Daemon.Phase) : Event → Bool
  | .answer received => (Daemon.request? phase).all (Daemon.isPossible · received)
  | _ => true

inductive Run (setup : Setup) : List Moment → Service → Prop
  | fresh : Run setup [] (.fresh setup)
  | step {moments service next event} (earlier : Run setup moments service)
      (possible : event.isPossible service.daemon = true)
      (taken : service.step? setup event = some next) :
      Run setup (moments ++ [⟨service, event⟩]) next

def exchanges (moments : List Moment) : List Exchange :=
  moments.filterMap Moment.exchange?

section

variable {setup : Setup} {moments before after : List Moment} {service next : Service}
  {moment : Moment} {event : Event}

theorem Run.reachable (run : Run setup moments service) : Reachable setup service := by
  induction run with
  | fresh => exact .fresh
  | step _ _ taken reachable => exact .step reachable taken

theorem exchanges_concat (moments : List Moment) (moment : Moment) :
    exchanges (moments ++ [moment]) = exchanges moments ++ moment.exchange?.toList := by
  cases found : moment.exchange? <;> simp [exchanges, List.filterMap_append, found]

theorem daemon_of_step (possible : event.isPossible service.daemon = true)
    (step : Step setup service event next) :
    (∃ request answer, Moment.exchange? ⟨service, event⟩ = some ⟨request, answer⟩ ∧
      Daemon.request? service.daemon = some request ∧
      Daemon.isPossible request answer = true ∧
      Daemon.Turn service.daemon answer next.daemon) ∨
    Moment.exchange? ⟨service, event⟩ = none ∧ next.daemon = service.daemon := by
  cases step with
  | @answer answer request phase asks admitted turn =>
      refine .inl ⟨request, answer, by simp [Moment.exchange?, asks], asks, ?_, turn⟩
      simpa [Event.isPossible, asks] using possible
  | start | act | cancel | close | returned => exact .inr ⟨rfl, rfl⟩

theorem Run.tally (run : Run setup moments service) :
    Daemon.Tally setup.settings (exchanges moments) service.daemon := by
  induction run with
  | fresh => exact Backoff.counts_fresh _
  | step _ possible taken tally =>
      rw [exchanges_concat]
      rcases daemon_of_step possible (step_of_step? taken) with
        ⟨request, answer, exchanged, asks, _, turn⟩ | ⟨quiet, same⟩
      · rw [exchanged]
        exact tally.turn asks turn
      · rwa [quiet, same, Option.toList_none, List.append_nil]

theorem Run.lasts {holds : List Exchange → Option Daemon.Request → Prop}
    (lasts : Daemon.Lasts holds) (first : holds [] (some (.call .watchWindows)))
    (run : Run setup moments service) :
    holds (exchanges moments) (Daemon.request? service.daemon) := by
  induction run with
  | fresh => exact first
  | step _ possible taken known =>
      rw [exchanges_concat]
      rcases daemon_of_step possible (step_of_step? taken) with
        ⟨request, answer, exchanged, asks, possible, turn⟩ | ⟨quiet, same⟩
      · rw [exchanged]
        exact lasts known asks possible turn
      · rwa [quiet, same, Option.toList_none, List.append_nil]

theorem Run.resumes (run : Run setup moments service) {earlier later : List Exchange}
    {exchange : Exchange} (split : exchanges moments = earlier ++ exchange :: later)
    (ends : exchange.endsConnection = true) :
    Daemon.Resumes (setup.settings.ceilingAfter (Daemon.connectionEnds earlier)) later
      (Daemon.request? service.daemon) := by
  induction run generalizing later with
  | fresh => cases earlier <;> cases split
  | @step moments service next event run possible taken resumes =>
      rw [exchanges_concat] at split
      rcases daemon_of_step possible (step_of_step? taken) with
        ⟨request, answer, exchanged, asks, possible, turn⟩ | ⟨quiet, same⟩
      · rw [exchanged, Option.toList_some] at split
        -- this turn is the end of the connection, or one of those that follow it
        rcases append_cons_eq_concat split.symm with ⟨rfl, rfl, rfl⟩ | ⟨between, rfl, shorter⟩
        · exact Daemon.resumes_of_endsConnection run.tally asks turn ends
        · exact Daemon.lasts_resumes _ (resumes shorter.symm) asks possible turn
      · rw [quiet, Option.toList_none, List.append_nil] at split
        rw [same]
        exact resumes split

theorem Run.exists_cancels (run : Run setup moments service)
    (cancelled : service.ensemble.roster.cancelled = true) :
    ∃ moment ∈ moments, moment.cancels = true := by
  induction run with
  | fresh => cases cancelled
  | @step moments service next event run possible taken known =>
      have earlier : service.ensemble.roster.cancelled = true →
          ∃ moment ∈ moments ++ [⟨service, event⟩], moment.cancels = true := by
        intro cancelled
        obtain ⟨moment, member, cancels⟩ := known cancelled
        exact ⟨moment, List.mem_append_left _ member, cancels⟩
      -- starts, acts and answers leave the roster's flag as it was
      cases step_of_step? taken with
      | start => exact earlier (by rwa [Ensemble.cancelled_start] at cancelled)
      | act acted => exact earlier (by rwa [Ensemble.cancelled_act acted] at cancelled)
      | @answer answer request phase asks admitted turn =>
          refine earlier ?_
          cases request with
          | start => rwa [Daemon.perform, Ensemble.cancelled_start] at cancelled
          | _ => exact cancelled
      | returned => exact earlier cancelled
      | cancel | close => exact ⟨_, List.mem_append_right _ (List.mem_singleton.mpr rfl), rfl⟩

theorem Run.upTo (run : Run setup (before ++ moment :: after) service) :
    Run setup before moment.service ∧
      ∃ next, moment.service.step? setup moment.event = some next := by
  generalize recorded : before ++ moment :: after = moments at run
  induction run generalizing after with
  | fresh => simp at recorded
  | step earlier possible taken upTo =>
      rcases append_cons_eq_concat recorded with ⟨rfl, rfl, rfl⟩ | ⟨between, rfl, shorter⟩
      · exact ⟨earlier, _, taken⟩
      · exact upTo shorter

theorem Run.cancels_before (run : Run setup (before ++ moment :: after) service)
    (told : moment.event = .answer .cancelled) : ∃ earlier ∈ before, earlier.cancels = true := by
  obtain ⟨earlier, next, taken⟩ := run.upTo
  refine earlier.exists_cancels ?_
  have step := step_of_step? taken
  rw [told] at step
  cases step with
  | @answer _ request _ asks admitted turn =>
      have preempted : Daemon.isPreempted moment.service.ensemble.roster.cancelled request :=
        admitted
      rw [Daemon.isPreempted, Bool.and_eq_true] at preempted
      exact preempted.1

theorem Run.told_of_leaving (run : Run setup moments service)
    (leaves : service.daemon = .draining ∨ service.daemon = .done) :
    ∃ moment ∈ moments, moment.event = .answer .cancelled := by
  induction run with
  | fresh => rcases leaves with same | same <;> cases same
  | @step moments service next event run possible taken known =>
      have earlier : service.daemon = .draining ∨ service.daemon = .done →
          ∃ moment ∈ moments ++ [⟨service, event⟩], moment.event = .answer .cancelled := by
        intro leaves
        obtain ⟨moment, member, told⟩ := known leaves
        exact ⟨moment, List.mem_append_left _ member, told⟩
      cases step_of_step? taken with
      | @answer answer request phase asks admitted turn =>
          generalize known : service.daemon = phase at turn
          cases turn with
          | cancelled => exact ⟨_, List.mem_append_right _ (List.mem_singleton.mpr rfl), rfl⟩
          | drained => exact earlier (.inl known)
          -- with or without windows to start, the daemon goes on
          | @listed backoff stream windows | @started backoff stream window windows =>
              cases windows <;> rcases leaves with same | same <;> cases same
          | _ => rcases leaves with same | same <;> cases same
      | start | act | cancel | close | returned => exact earlier leaves

theorem Run.sessionsOf {window : WindowId} (run : Run setup (before ++ moment :: after) service)
    (active : ∀ known ∈ moment :: after, known.service.ensemble.roster.isActive window = true) :
    service.ensemble.sessionsOf window = moment.service.ensemble.sessionsOf window := by
  generalize recorded : before ++ moment :: after = moments at run
  induction run generalizing after with
  | fresh => simp at recorded
  | @step moments service next event run possible taken known =>
      have kept : service.ensemble.roster.isActive window = true →
          next.ensemble.sessionsOf window = service.ensemble.sessionsOf window := by
        intro active
        cases step_of_step? taken with
        | start => exact Ensemble.sessionsOf_start active _
        | act acted => exact Ensemble.sessionsOf_act acted window
        | @answer answer request phase asks admitted turn =>
            cases request with
            | start other => exact Ensemble.sessionsOf_start active other
            | _ => rfl
        | cancel | close | returned => rfl
      rcases append_cons_eq_concat recorded with ⟨rfl, rfl, rfl⟩ | ⟨between, rfl, shorter⟩
      · exact kept (active _ List.mem_cons_self)
      · rw [kept (active ⟨service, event⟩ (by simp))]
        exact known (fun other member => active other (List.mem_append_left _ member)) shorter

/-- The daemon leaves its loop only when it is told of a cancellation, which there was. After each
end of a connection it draws one delay, under the ceiling for the ends before it since the last
listing, sleeps it, and then subscribes and lists, unless it is told of a cancellation meanwhile;
there are no other delays, and it goes on from every answer of the kind it waits for. Its turns
leave all sessions as they are, and start one only for a window that has none; a window that keeps
its session has no other started, however often it is listed. -/
theorem reconnect_discipline (setup : Setup) (moments : List Moment) (service : Service)
    (run : Run setup moments service) :
    ((service.daemon = .draining ∨ service.daemon = .done →
        ∃ moment ∈ moments, moment.event = .answer .cancelled) ∧
      ∀ before moment after, moments = before ++ moment :: after →
        moment.event = .answer .cancelled → ∃ earlier ∈ before, earlier.cancels = true) ∧
    (∀ before exchange after, exchanges moments = before ++ exchange :: after →
      exchange.endsConnection = true →
      Daemon.Resumes (setup.settings.ceilingAfter (Daemon.connectionEnds before)) after
        (Daemon.request? service.daemon)) ∧
    Daemon.DelaysMatch (exchanges moments) (Daemon.request? service.daemon) ∧
    (∀ request answer, Daemon.request? service.daemon = some request →
      Daemon.admits setup service.ensemble request answer = true →
      (request.accepts answer = true ↔ ∃ next, service.step? setup (.answer answer) = some next) ∧
      ∀ next, service.step? setup (.answer answer) = some next →
        Ensemble.Spares setup service.ensemble next.ensemble request) ∧
    (service.ensemble.unfinished.map Duo.windowId).Nodup ∧
    ∀ before first between window, moments = before ++ first :: between →
      (∀ moment ∈ first :: between, moment.service.ensemble.roster.isActive window = true) →
      service.ensemble.sessionsOf window = first.service.ensemble.sessionsOf window := by
  refine ⟨⟨run.told_of_leaving, ?_⟩, ?_, run.lasts Daemon.lasts_delaysMatch ⟨rfl, rfl⟩, ?_, ?_, ?_⟩
  · rintro before moment after rfl told
    exact run.cancels_before told
  · intro before exchange after split ends
    exact run.resumes split ends
  · intro request answer asks admitted
    refine ⟨⟨fun accepted => ?_, ?_⟩, ?_⟩
    · obtain ⟨phase, turned⟩ := Daemon.exists_step? asks accepted
      have answered := Daemon.answer?_eq_some_iff.mpr ⟨request, asks, admitted, turned, rfl⟩
      exact ⟨_, Option.map_eq_some_iff.mpr ⟨_, answered, rfl⟩⟩
    · rintro ⟨next, taken⟩
      cases step_of_step? taken with
      | answer asked admitted turn => exact Daemon.accepts_of_turn asks turn
    · intro next taken
      cases step_of_step? taken with
      | answer asked admitted turn =>
          cases asked.symm.trans asks
          exact Ensemble.spares_perform setup service.ensemble request
  · have sound := run.reachable.isSound.ensemble
    exact sound.tracked.nodup_iff.mp sound.unique
  · rintro before first between window rfl active
    exact run.sessionsOf active

end

def record? (setup : Setup) (recorded : List Moment × Service) (event : Event) :
    Option (List Moment × Service) :=
  if event.isPossible recorded.2.daemon then
    (recorded.2.step? setup event).map (recorded.1 ++ [⟨recorded.2, event⟩], ·)
  else none

theorem run_of_record? {setup : Setup} {moments : List Moment} {service : Service}
    {events : List Event}
    (recorded : events.foldlM (record? setup) ([], .fresh setup) = some (moments, service)) :
    Run setup moments service := by
  refine holds_of_foldlM (motive := fun recorded => Run setup recorded.1 recorded.2) ?_ .fresh
    recorded
  intro recorded next event run taken
  unfold record? at taken
  split at taken
  next possible =>
    obtain ⟨service, stepped, rfl⟩ := Option.map_eq_some_iff.mp taken
    exact .step run possible stepped
  next => cases taken

def refused : Exchange :=
  ⟨.call .watchWindows, .reply (.editorFailed (.unavailable "restarting"))⟩

def firstOutage : List Exchange :=
  [refused, ⟨.draw (Clock.ofMillis 200), .delay 7⟩, ⟨.sleep 7, .slept⟩]

def listsAgain : List Exchange :=
  [⟨.draw (Clock.ofMillis 400), .delay 0⟩, ⟨.sleep 0, .slept⟩,
    ⟨.call .watchWindows, .reply (.events 1)⟩,
    ⟨.call .listWindows, .reply (.windows [⟨1, "lib.rs"⟩])⟩,
    ⟨.start ⟨1, "lib.rs"⟩, .started true⟩, ⟨.nextWindow 1, .arrived .ended⟩,
    ⟨.draw (Clock.ofMillis 200), .delay 0⟩, ⟨.sleep 0, .slept⟩,
    ⟨.call .watchWindows, .reply (.events 2)⟩,
    ⟨.call .listWindows, .reply (.windows [⟨1, "lib.rs"⟩])⟩,
    ⟨.start ⟨1, "lib.rs"⟩, .started false⟩, ⟨.nextWindow 2, .cancelled⟩]

def outages : List Event :=
  (firstOutage ++ refused :: listsAgain.dropLast).map (.answer ·.answer) ++
    [.cancel, .answer .cancelled]

theorem reconnect_discipline_outages : ∃ moments service, Run Duo.rustOnly moments service ∧
    service.daemon = .draining ∧ (∃ moment ∈ moments, moment.event = .answer .cancelled) ∧
    Daemon.Resumes (Clock.ofMillis 400) listsAgain (Daemon.request? service.daemon) ∧
    service.ensemble.sessionsOf 1 = 1 := by
  have played : (outages.foldlM (record? Duo.rustOnly) ([], .fresh Duo.rustOnly)).map
      (fun recorded => (exchanges recorded.1, recorded.2.daemon,
        recorded.2.ensemble.sessionsOf 1)) =
      some (firstOutage ++ refused :: listsAgain, .draining, 1) := by
    decide +kernel
  have ceiling : Duo.rustOnly.settings.ceilingAfter (Daemon.connectionEnds firstOutage) =
      Clock.ofMillis 400 := by
    decide +kernel
  obtain ⟨⟨moments, service⟩, recorded, same⟩ := Option.map_eq_some_iff.mp played
  obtain ⟨exchanged, drains, once⟩ : exchanges moments = _ ∧ service.daemon = .draining ∧
      service.ensemble.sessionsOf 1 = 1 := by
    simpa only [Prod.mk.injEq] using same
  have run := run_of_record? recorded
  obtain ⟨⟨told, _⟩, resumes, _⟩ := reconnect_discipline Duo.rustOnly moments service run
  have resumed := resumes firstOutage refused listsAgain exchanged rfl
  rw [ceiling] at resumed
  exact ⟨moments, service, run, drains, told (.inl drains), resumed, once⟩

end Service
end LiveHighlight
