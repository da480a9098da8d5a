import LiveHighlight.Rehearsal.Stage
import LiveHighlight.Simulation.Run

/-!
Scripts for sessions and the daemon on a stage.

After every step the simulation runs until all tasks wait, and a report tells what happened.
-/

namespace LiveHighlight.Rehearsal

open Simulation (TaskId World)

inductive SessionStep where
  | add (window : Window) (text : Utf8.Bytes)
  | announce (window : Window) (text : Utf8.Bytes)
  | start (window : Window)
  | setText (window : WindowId) (text : Utf8.Bytes)
  | edit (window : WindowId) (count : Nat) (kind : EditKind)
  | failEdits (window : WindowId) (kind : FaultKind)
  | close (window : WindowId)
  | setCaptures (captures : Option (List Capture))
  | setEditorUp (isUp : Bool)
  | setCompositorUp (isUp : Bool)
  | vanish
  | endEvents
  | failEvents (kind : FaultKind)
  | queueFault (queued : QueuedFault) (count : Nat)
  | runDaemon
  | cancel
  | shutdown
  | advance (millis : Nat)

structure SessionScript where
  world : World Stage
  daemon : Option TaskId
  shutdown : Option TaskId

inductive TaskStatus where
  | running
  | done
  deriving DecidableEq, Repr

structure SessionReport where
  time : Nat
  started : Option Bool
  events : List String
  active : List WindowId
  streams : List (WindowId × Nat)
  daemon : Option TaskStatus
  shutdown : Option TaskStatus

namespace SessionScript

def fresh (setup : Setup) (draws : Draws) : SessionScript :=
  ⟨.fresh setup draws .empty, none, none⟩

def update (script : SessionScript) (change : Stage → Stage) : SessionScript :=
  { script with world := { script.world with state := change script.world.state } }

def updateStreams (script : SessionScript) (window : WindowId) (change : Stage → Stage) :
    SessionScript :=
  let streams := script.world.state.streamsOf window
  let script := script.update change
  { script with world := streams.foldl World.wakeReaders script.world }

def updateArrivals (script : SessionScript) (change : Stage → Stage) : SessionScript :=
  let script := script.update change
  { script with world := script.world.wakeDaemons }

def insertWindow (script : SessionScript) (window : Window) (text : Utf8.Bytes) : SessionScript :=
  script.updateStreams window.id fun stage => (stage.feedWindow window.id [] true).insert window text

def act (script : SessionScript) : SessionStep → Option Bool × SessionScript
  | .add window text => (none, script.insertWindow window text)
  | .announce window text =>
    (none, (script.insertWindow window text).updateArrivals (·.feedArrivals [.window window] false))
  | .start window =>
    let (isNew, world) := script.world.start window
    (some isNew, { script with world := world })
  | .setText window text =>
    (none, script.update (·.updateWindow window fun staged => { staged with text := text }))
  | .edit window count kind =>
    (none, script.updateStreams window
      (·.feedWindow window (List.replicate count (.edit kind)) false))
  | .failEdits window kind =>
    (none, script.updateStreams window
      (·.feedWindow window [.failed (kind.editorError window)] true))
  | .close window =>
    (none, script.updateStreams window fun stage => (stage.feedWindow window [] true).remove window)
  | .setCaptures captures => (none, script.update ({ · with captures := captures }))
  | .setEditorUp isUp => (none, script.update ({ · with editorUp := isUp }))
  | .setCompositorUp isUp => (none, script.update ({ · with compositorUp := isUp }))
  | .vanish => (none, script.update Stage.vanish)
  | .endEvents => (none, script.updateArrivals (·.feedArrivals [] true))
  | .failEvents kind =>
    (none, script.updateArrivals (·.feedArrivals [.failed (kind.editorError 0)] true))
  | .queueFault queued count => (none, script.update (·.queueFault queued count))
  | .runDaemon =>
    let (id, world) := script.world.startDaemon
    (none, { script with world := world, daemon := some id })
  | .cancel => (none, { script with world := script.world.cancel })
  | .shutdown =>
    let (id, world) := script.world.spawn (.shutdown false)
    (none, { script with world := world, shutdown := some id })
  | .advance millis =>
    (none, { script with world := script.world.advance Stage.collaborators millis })

def status (script : SessionScript) (task : TaskId) : TaskStatus :=
  if script.world.isDone task then .done else .running

def liveStreams (script : SessionScript) : List (WindowId × Nat) :=
  let held := script.world.heldStreams
  script.world.state.windows.filterMap fun staged =>
    match (staged.streams.filter held.contains).length with
    | 0 => none
    | count => some (staged.window.id, count)

def perform (script : SessionScript) (step : SessionStep) : SessionReport × SessionScript :=
  let seen := script.world.state.log.length
  let (started, script) := script.act step
  let script := { script with world := script.world.settle Stage.collaborators }
  ({ time := script.world.now
     started
     events := (script.world.state.eventsSince seen).map (·.render)
     active := script.world.activeWindows
     streams := script.liveStreams
     daemon := script.daemon.map script.status
     shutdown := script.shutdown.map script.status }, script)

def run (script : SessionScript) : List SessionStep → List SessionReport × SessionScript
  | [] => ([], script)
  | step :: later =>
    let (report, script) := script.perform step
    let (reports, script) := script.run later
    (report :: reports, script)

end SessionScript
end LiveHighlight.Rehearsal
