import LiveHighlight.Rehearsal.Stage
import LiveHighlight.Session.LayerUse

/-!
Scripts for the hold on one layer.
-/

namespace LiveHighlight.Rehearsal

inductive LayerStep where
  | acquire (name : String)
  | apply (spans : List Span)
  | clear
  | delete
  | setCompositorUp (isUp : Bool)
  | vanish
  | queueFault (queued : QueuedFault) (count : Nat)

structure LayerScript where
  now : Nat
  stage : Stage
  layer : StyleLayer

structure LayerReport where
  time : Nat
  result : Option (Except CompositorError Unit)
  isPresent : Bool
  id : Option UInt32
  events : List String

def resultOf : Reply → Except CompositorError Unit
  | .compositorFailed error => .error error
  | _ => .ok ()

def Stage.compositor : Compositor Stage where
  begin stage now call :=
    match stage.begin now call with
    | (.replied reply, stage) => (.answered (resultOf reply), stage)
    | (.waits millis, stage) => (.waits millis, stage)
  finish stage now call :=
    let (reply, stage) := stage.finish now call
    (resultOf reply, stage)

namespace LayerScript

def fresh (window : WindowId) : LayerScript :=
  ⟨0, .empty, .absent window⟩

def acquire (script : LayerScript) (name : String) :
    Except CompositorError Unit × LayerScript :=
  let window := script.layer.window
  let call := .openLayer window name
  let (reply, now, stage) :=
    match script.stage.begin script.now call with
    | (.replied reply, stage) => (reply, script.now, stage)
    | (.waits millis, stage) =>
      let now := script.now + millis
      let (reply, stage) := stage.finish now call
      (reply, now, stage)
  let layer :=
    match reply with
    | .layer key => .acquired window key
    | _ => script.layer
  (resultOf reply, ⟨now, stage, layer⟩)

def operate (script : LayerScript) (operation : StyleLayer.Operation) :
    Option (Except CompositorError Unit) × LayerScript :=
  match StyleLayer.operate? Stage.compositor ⟨script.now, script.layer, script.stage⟩ operation with
  | some (.applied result, use) => (some result, ⟨use.now, use.state, use.layer⟩)
  | some (_, use) => (none, ⟨use.now, use.state, use.layer⟩)
  | none => (none, script)

def act (script : LayerScript) : LayerStep → Option (Except CompositorError Unit) × LayerScript
  | .acquire name =>
    let (result, script) := script.acquire name
    (some result, script)
  | .apply spans => script.operate (.apply spans none)
  | .clear => script.operate .clear
  | .delete => script.operate .delete
  | .setCompositorUp isUp =>
    (none, { script with stage := { script.stage with compositorUp := isUp } })
  | .vanish => (none, { script with stage := script.stage.vanish })
  | .queueFault queued count => (none, { script with stage := script.stage.queueFault queued count })

def perform (script : LayerScript) (step : LayerStep) : LayerReport × LayerScript :=
  let seen := script.stage.log.length
  let (result, script) := script.act step
  ({ time := script.now
     result
     isPresent := script.layer.isPresent
     id := script.layer.held.map script.stage.layerId
     events := (script.stage.eventsSince seen).map (·.render) }, script)

def run (script : LayerScript) : List LayerStep → List LayerReport × LayerScript
  | [] => ([], script)
  | step :: later =>
    let (report, script) := script.perform step
    let (reports, script) := script.run later
    (report :: reports, script)

end LayerScript
end LiveHighlight.Rehearsal
