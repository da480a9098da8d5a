import LiveHighlight.Proofs.Daemon.Service
import LiveHighlight.Rehearsal.SessionScript

/-!
Simulations keep their sessions sound.

However its tasks are scheduled, and whatever its collaborators answer, a simulation changes its
sessions by starts, acts, cancellation and shutdowns only.
-/

namespace LiveHighlight

namespace Simulation.World

variable {σ : Type} {collaborators : Collaborators σ} {world : World σ}

/-! ### Tasks and timers -/

@[simp]
theorem ensemble_wake (world : World σ) (task : TaskId) : (world.wake task).ensemble =
    world.ensemble := by
  unfold wake
  split <;> rfl

@[simp]
theorem ensemble_wakeAll (world : World σ) (tasks : List TaskId) :
    (world.wakeAll tasks).ensemble = world.ensemble := by
  unfold wakeAll
  induction tasks generalizing world with
  | nil => rfl
  | cons task tasks ih => rw [List.foldl_cons, ih, ensemble_wake]

@[simp]
theorem ensemble_spawn (world : World σ) (job : Job) :
    (world.spawn job).2.ensemble = world.ensemble := by
  simp [spawn]

@[simp]
theorem ensemble_moveTo (world : World σ) (id : TaskId) (job : Job) :
    (world.moveTo id job).ensemble = world.ensemble := rfl

theorem ensemble_progressCall (world : World σ) (id : TaskId) (wait : Wait) (call : Call) :
    (world.progressCall collaborators id wait call).1.ensemble = world.ensemble := by
  unfold progressCall finishCall
  repeat' split
  all_goals rfl

theorem ensemble_progressSleep (world : World σ) (id : TaskId) (wait : Wait) (delay : Nat) :
    (world.progressSleep id wait delay).1.ensemble = world.ensemble := by
  cases wait with
  | timer due => rfl
  | fresh | parked | call =>
      unfold progressSleep
      dsimp only
      by_cases late : Clock.tick (world.instant + delay) ≤ world.now
      · rw [if_pos late]
      · rw [if_neg late]
        rfl

theorem ensemble_adopt (world : World σ) (ensemble : Ensemble) :
    (world.adopt ensemble).ensemble = ensemble := by
  have spawns (places : List Nat) (world : World σ) :
      (places.foldl (fun world place => (world.spawn (.session place none)).2) world).ensemble =
        world.ensemble := by
    induction places generalizing world with
    | nil => rfl
    | cons place places ih => rw [List.foldl_cons, ih, ensemble_spawn]
  exact spawns _ { world with ensemble := ensemble }

/-! ### Moves -/

theorem isSound_cancel (sound : world.ensemble.IsSound) : world.cancel.ensemble.IsSound := by
  rw [cancel, ensemble_wakeAll]
  exact sound.cancel

theorem isSound_close (sound : world.ensemble.IsSound) : world.close.ensemble.IsSound :=
  sound.close

theorem isSound_start (sound : world.ensemble.IsSound) (window : Window) :
    (world.start window).2.ensemble.IsSound := by
  rw [start, ensemble_adopt]
  exact sound.start window

theorem isSound_actSession (sound : world.ensemble.IsSound) (id : TaskId) (place : Nat)
    (reader : Option TaskId) (act : Duo.Act) :
    (world.actSession id place reader act).1.ensemble.IsSound := by
  unfold actSession
  split
  next => exact sound
  next ensemble acted =>
    have later := sound.act acted
    dsimp only
    split
    next => rwa [ensemble_wakeAll, ensemble_moveTo]
    next => rwa [ensemble_moveTo]

theorem isSound_beginSession (sound : world.ensemble.IsSound) (id : TaskId) (place : Nat)
    (reader : Option TaskId) (request : Session.Request) :
    (world.beginSession id place reader request).1.ensemble.IsSound := by
  unfold beginSession
  have begun := isSound_actSession sound id place reader .begin
  dsimp only
  split
  next =>
    cases reader with
    | none => exact begun
    | some task => rwa [Option.elim_some, ensemble_wake]
  next => exact begun

theorem isSound_watchSession (sound : world.ensemble.IsSound) (id : TaskId) (place : Nat)
    (duo : Duo) (reader : Option TaskId) (wait : Wait) (deadline : Option Nat) :
    (world.watchSession id place duo reader wait deadline).1.ensemble.IsSound := by
  unfold watchSession answerSession
  dsimp only
  split
  next => exact isSound_actSession sound id place reader _
  next =>
    split
    next =>
      refine isSound_actSession ?_ id place reader _
      cases reader with
      | none => exact sound
      | some task => rwa [Option.elim_some, ensemble_wake]
    next =>
      split
      next => exact isSound_actSession sound id place reader _
      next => split <;> exact sound

theorem isSound_moveSession (sound : world.ensemble.IsSound) (id : TaskId) (place : Nat)
    (duo : Duo) (reader : Option TaskId) (wait : Wait) :
    (world.moveSession collaborators id place duo reader wait).1.ensemble.IsSound := by
  unfold moveSession answerSession
  split
  next => exact sound
  next request asks =>
    split
    next => exact isSound_actSession sound id place reader _
    next =>
      split
      next => exact isSound_beginSession sound id place reader request
      next =>
        cases request with
        | call call =>
            have same := @ensemble_progressCall σ collaborators world id wait call
            rw [← same] at sound
            dsimp only
            split
            all_goals
              next progressed =>
                rw [progressed] at sound
                first | exact sound | exact isSound_actSession sound id place reader _
        | draw ceiling =>
            exact @isSound_actSession σ { world with draws := (world.draws.delay ceiling).2 } sound
              id place reader (.answer (.delay (world.draws.delay ceiling).1))
        | sleep delay =>
            have same := ensemble_progressSleep world id wait delay
            rw [← same] at sound
            dsimp only
            split
            all_goals
              next progressed =>
                rw [progressed] at sound
                first | exact sound | exact isSound_actSession sound id place reader _
        | startReader stream =>
            refine isSound_actSession ?_ id place _ _
            rwa [ensemble_wake]
        | watch deadline => exact isSound_watchSession sound id place duo reader wait deadline
        | stopReader =>
            dsimp only
            split
            next => exact isSound_actSession sound id place none _
            next => exact sound

theorem isSound_actReader (sound : world.ensemble.IsSound) (owner : TaskId) (place : Nat)
    (act : Duo.Act) : (world.actReader owner place act).1.ensemble.IsSound := by
  unfold actReader
  split
  next => exact sound
  next acted =>
    rw [ensemble_wake]
    exact sound.act acted

theorem isSound_readStream (sound : world.ensemble.IsSound) (id owner : TaskId) (place : Nat)
    (stream : StreamKey) (taken : Nat) :
    (world.readStream collaborators id owner place stream taken).1.ensemble.IsSound := by
  unfold readStream
  split
  next => exact sound
  next =>
    split
    next => exact sound
    next =>
      dsimp only
      split
      next => exact sound
      next acted => exact isSound_actReader (sound.act acted) owner place .pass

theorem isSound_moveReader (sound : world.ensemble.IsSound) (id owner : TaskId) (taken : Nat) :
    (world.moveReader collaborators id owner taken).1.ensemble.IsSound := by
  unfold moveReader
  split
  next => exact sound
  next place _ =>
    split
    next => exact sound
    next reader _ =>
      split
      next =>
        split
        next => exact isSound_actReader sound owner place .quit
        next => exact isSound_readStream sound id owner place reader.stream taken
      next => exact isSound_actReader sound owner place .pass
      next => exact sound

theorem isSound_answerDaemon (sound : world.ensemble.IsSound) (id : TaskId)
    (phase : Daemon.Phase) (answer : Daemon.Answer) :
    (world.answerDaemon id phase answer).1.ensemble.IsSound := by
  unfold answerDaemon
  split
  next => exact sound
  next answered =>
    obtain ⟨request, _, _, _, rfl⟩ := Daemon.answer?_eq_some_iff.mp answered
    rw [ensemble_moveTo, ensemble_adopt]
    exact Daemon.isSound_perform sound request

theorem isSound_moveDaemon (sound : world.ensemble.IsSound) (id : TaskId) (phase : Daemon.Phase)
    (wait : Wait) : (world.moveDaemon collaborators id phase wait).1.ensemble.IsSound := by
  unfold moveDaemon
  split
  next => exact sound
  next request asks =>
    split
    next => exact isSound_answerDaemon sound id phase .cancelled
    next =>
      cases request with
      | call call =>
          have same := @ensemble_progressCall σ collaborators world id wait call
          rw [← same] at sound
          dsimp only
          split
          all_goals
            next progressed =>
              rw [progressed] at sound
              first | exact sound | exact isSound_answerDaemon sound id phase _
      | start window => exact isSound_answerDaemon sound id phase _
      | nextWindow stream =>
          dsimp only
          split
          next => exact sound
          next state _ =>
            exact @isSound_answerDaemon σ { world with state := state } sound id phase _
      | draw ceiling =>
          exact @isSound_answerDaemon σ { world with draws := (world.draws.delay ceiling).2 } sound
            id phase (.delay (world.draws.delay ceiling).1)
      | sleep delay =>
          have same := ensemble_progressSleep world id wait delay
          rw [← same] at sound
          dsimp only
          split
          all_goals
            next progressed =>
              rw [progressed] at sound
              first | exact sound | exact isSound_answerDaemon sound id phase _
      | drain =>
          refine isSound_answerDaemon ?_ id phase .drained
          split
          next => exact sound
          next => exact isSound_close sound

theorem isSound_moveShutdown (sound : world.ensemble.IsSound) (id : TaskId) (isDone : Bool) :
    (world.moveShutdown id isDone).1.ensemble.IsSound := by
  unfold moveShutdown
  split
  next => exact sound
  next =>
    split
    next =>
      dsimp only
      split <;> exact sound
    next =>
      dsimp only
      split <;> exact isSound_close sound

theorem isSound_move (sound : world.ensemble.IsSound) (id : TaskId) :
    (world.move collaborators id).1.ensemble.IsSound := by
  unfold move
  split
  next => exact sound
  next job wait taken _ =>
    cases job with
    | session place reader =>
        dsimp only
        split
        next => exact sound
        next duo _ => exact isSound_moveSession sound id place duo reader wait
    | reader owner => exact isSound_moveReader sound id owner taken
    | daemon phase => exact isSound_moveDaemon sound id phase wait
    | shutdown isDone => exact isSound_moveShutdown sound id isDone

/-! ### Runs -/

theorem isSound_settleWithin (fuel : Nat) (sound : world.ensemble.IsSound) :
    (world.settleWithin collaborators fuel).ensemble.IsSound := by
  induction fuel generalizing world with
  | zero => exact sound
  | succ fuel ih =>
      unfold settleWithin
      split
      next => exact sound
      next id _ _ =>
        have moved := @isSound_move σ collaborators world sound id
        dsimp only
        split <;> exact ih moved

theorem isSound_fire (sound : world.ensemble.IsSound) : world.fire.ensemble.IsSound := by
  rw [fire, ensemble_wakeAll]
  exact sound

theorem isSound_runUntil (target fuel : Nat) (sound : world.ensemble.IsSound) :
    (world.runUntil collaborators target fuel).ensemble.IsSound := by
  induction fuel generalizing world with
  | zero => exact sound
  | succ fuel ih =>
      unfold runUntil
      split
      next => exact sound
      next =>
        split
        next => exact ih (isSound_settleWithin _ (isSound_fire sound))
        next => exact sound

theorem isSound_settle (sound : world.ensemble.IsSound) :
    (world.settle collaborators).ensemble.IsSound :=
  isSound_settleWithin _ sound

theorem isSound_advance (sound : world.ensemble.IsSound) (millis : Nat) :
    (world.advance collaborators millis).ensemble.IsSound :=
  isSound_runUntil _ _ (isSound_settle sound)

theorem activeWindows_perm (sound : world.ensemble.IsSound) :
    world.activeWindows.Nodup ∧
      world.activeWindows.Perm (world.ensemble.unfinished.map Duo.windowId) := by
  unfold activeWindows
  rw [sound.held_eq]
  have sorted := List.mergeSort_perm world.ensemble.roster.running (· ≤ ·)
  exact ⟨sorted.nodup_iff.mpr sound.unique, sorted.trans sound.tracked⟩

end Simulation.World

namespace Rehearsal.SessionScript

variable {script : SessionScript}

theorem isSound_updateStreams (sound : script.world.ensemble.IsSound) (window : WindowId)
    (change : Stage → Stage) : (script.updateStreams window change).world.ensemble.IsSound := by
  have wakes (streams : List StreamKey) (world : Simulation.World Stage) :
      (streams.foldl Simulation.World.wakeReaders world).ensemble = world.ensemble := by
    induction streams generalizing world with
    | nil => rfl
    | cons stream streams ih =>
        rw [List.foldl_cons, ih, Simulation.World.wakeReaders, Simulation.World.ensemble_wakeAll]
  simp only [updateStreams, wakes]
  exact sound

theorem isSound_updateArrivals (sound : script.world.ensemble.IsSound) (change : Stage → Stage) :
    (script.updateArrivals change).world.ensemble.IsSound := by
  simp only [updateArrivals, Simulation.World.wakeDaemons, Simulation.World.ensemble_wakeAll]
  exact sound

theorem isSound_act (sound : script.world.ensemble.IsSound) (step : SessionStep) :
    (script.act step).2.world.ensemble.IsSound := by
  cases step with
  | add | edit | failEdits | close => exact isSound_updateStreams sound _ _
  | announce => exact isSound_updateArrivals (isSound_updateStreams sound _ _) _
  | endEvents | failEvents => exact isSound_updateArrivals sound _
  | start window => exact Simulation.World.isSound_start sound window
  | runDaemon | shutdown => simpa [act, Simulation.World.startDaemon] using sound
  | cancel => exact Simulation.World.isSound_cancel sound
  | advance millis => exact Simulation.World.isSound_advance sound millis
  | setText | setCaptures | setEditorUp | setCompositorUp | vanish | queueFault => exact sound

theorem world_perform (script : SessionScript) (step : SessionStep) :
    (script.perform step).2.world = (script.act step).2.world.settle Stage.collaborators ∧
      (script.perform step).1.active = (script.perform step).2.world.activeWindows := by
  unfold perform
  generalize script.act step = acted
  exact ⟨rfl, rfl⟩

theorem active_of_run (sound : script.world.ensemble.IsSound) (steps : List SessionStep) :
    (∀ report ∈ (script.run steps).1, report.active.Nodup) ∧
      (script.run steps).2.world.activeWindows.Perm
        ((script.run steps).2.world.ensemble.unfinished.map Duo.windowId) := by
  induction steps generalizing script with
  | nil => exact ⟨by simp [run], (Simulation.World.activeWindows_perm sound).2⟩
  | cons step steps ih =>
      obtain ⟨settles, shows⟩ := world_perform script step
      have settled := @Simulation.World.isSound_settle _ Stage.collaborators _
        (isSound_act sound step)
      rw [← settles] at settled
      unfold run
      -- kept closed, since its moves are many and must not be evaluated
      generalize script.perform step = performed at settled shows
      obtain ⟨reports, final⟩ := ih settled
      refine ⟨fun report member => ?_, final⟩
      rcases List.mem_cons.mp member with rfl | member
      · rw [shows]
        exact (Simulation.World.activeWindows_perm settled).1
      · exact reports report member

/-- In whatever a script puts on stage, every window is under one session at most at every report,
and in the end those under one are those whose session has not ended. -/
theorem active_of_script (setup : Setup) (draws : Draws) (steps : List SessionStep) :
    (∀ report ∈ ((fresh setup draws).run steps).1, report.active.Nodup) ∧
      ((fresh setup draws).run steps).2.world.activeWindows.Perm
        (((fresh setup draws).run steps).2.world.ensemble.unfinished.map Duo.windowId) :=
  active_of_run Ensemble.isSound_fresh steps

end Rehearsal.SessionScript
end LiveHighlight
