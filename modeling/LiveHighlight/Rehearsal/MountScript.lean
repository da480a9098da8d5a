import LiveHighlight.Libraries
import LiveHighlight.Mounts
import LiveHighlight.Rehearsal.SessionScript

/-!
Scripts for sessions and the daemon over file trees.

A millisecond passes after every step, before its report.
-/

namespace LiveHighlight.Rehearsal

open Simulation (TaskId World)

inductive MountStep where
  | start (window : Window)
  | runDaemon
  | cancel
  | advance (millis : Nat)
  | change (change : FileTree.Change)

structure MountScript where
  world : World (Mounts Grammar)
  daemon : Option TaskId

structure MountReport where
  started : Option Bool
  activeCount : Nat
  daemon : Option TaskStatus
  tree : FileTree

namespace MountScript

def fresh (highlighter : Highlighter Grammar) (tree : FileTree) (draws : Draws) : MountScript :=
  ⟨Mounts.world highlighter tree draws, none⟩

def act (script : MountScript) : MountStep → Option Bool × MountScript
  | .start window =>
    let (isNew, world) := script.world.start window
    (some isNew, { script with world := world })
  | .runDaemon =>
    let (id, world) := script.world.startDaemon
    (none, { world := world, daemon := some id })
  | .cancel => (none, { script with world := script.world.cancel })
  | .advance millis =>
    (none, { script with world := script.world.advance Mounts.collaborators millis })
  | .change change =>
    let mounts := script.world.state
    let mounts := { mounts with tree := mounts.tree.change change }
    (none, { script with world := { script.world with state := mounts } })

def status (script : MountScript) (task : TaskId) : TaskStatus :=
  if script.world.isDone task then .done else .running

def perform (script : MountScript) (step : MountStep) : MountReport × MountScript :=
  let (started, script) := script.act step
  let script := { script with world := script.world.advance Mounts.collaborators 1 }
  ({ started
     activeCount := script.world.ensemble.roster.activeCount
     daemon := script.daemon.map script.status
     tree := script.world.state.tree }, script)

def run (script : MountScript) : List MountStep → List MountReport × MountScript
  | [] => ([], script)
  | step :: later =>
    let (report, script) := script.perform step
    let (reports, script) := script.run later
    (report :: reports, script)

end MountScript
end LiveHighlight.Rehearsal
