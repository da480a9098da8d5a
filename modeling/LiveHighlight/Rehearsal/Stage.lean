import LiveHighlight.Simulation.Collaborators

/-!
A scripted editor and compositor.

Calls are logged. A call takes the next fault that is queued for it: the fault either fails it or
makes it wait. Without one a call is answered from the state of the stage.
-/

namespace LiveHighlight.Rehearsal

open Simulation (Begun Collaborators)

inductive CallKind where
  | list
  | watch
  | openWindow
  | edits
  | read
  | openLayer
  | apply
  | clear
  | delete
  | annotate
  deriving DecidableEq, Repr

def CallKind.text : CallKind → String
  | list => "list"
  | watch => "watch"
  | openWindow => "open"
  | edits => "edits"
  | read => "read"
  | openLayer => "open_layer"
  | apply => "apply"
  | clear => "clear"
  | delete => "delete"
  | annotate => "annotate"

inductive FaultKind where
  | gone
  | unavailable
  | absent
  | layerGone
  | io
  | malformed
  deriving DecidableEq, Repr

def FaultKind.text : FaultKind → String
  | gone => "gone"
  | unavailable => "unavailable"
  | absent => "absent"
  | layerGone => "layer_gone"
  | io => "io"
  | malformed => "protocol"

def scripted : String := "scripted"

def FaultKind.editorError (window : WindowId) : FaultKind → EditorError
  | gone => .windowGone window
  | unavailable => .unavailable scripted
  | malformed => .malformed .log scripted
  | _ => .io scripted

def FaultKind.compositorError (window : WindowId) (layer : UInt32) : FaultKind → CompositorError
  | absent => .absent window
  | layerGone => .layerGone layer
  | malformed => .malformed scripted
  | _ => .io scripted

inductive Fault where
  | fails (kind : FaultKind)
  | waits (millis : Nat)
  deriving DecidableEq, Repr

structure QueuedFault where
  call : CallKind
  window : WindowId
  fault : Fault

structure StagedWindow where
  window : Window
  text : Utf8.Bytes
  streams : List StreamKey

structure EditStream where
  waiting : List StreamItem
  hasEnded : Bool

structure ArrivalStream where
  waiting : List Daemon.Arrival
  hasEnded : Bool

structure StagedLayer where
  window : WindowId
  id : UInt32
  name : String
  spans : List Span
  applies : Nat
  clears : Nat
  deleted : Bool
  vanished : Bool

structure LoggedEvent where
  time : Nat
  window : WindowId
  text : String

def LoggedEvent.render (event : LoggedEvent) : String :=
  s!"{event.time} {event.window} {event.text}"

structure Stage where
  editorUp : Bool
  compositorUp : Bool
  windows : List StagedWindow
  edits : Array EditStream
  arrivals : Array ArrivalStream
  faults : List QueuedFault
  /-- What annotating gives, unless it is one keyword over the whole text. -/
  captures : Option (List Capture)
  layers : Array StagedLayer
  log : List LoggedEvent

namespace Stage

def empty : Stage :=
  { editorUp := true, compositorUp := true, windows := [], edits := #[], arrivals := #[],
    faults := [], captures := none, layers := #[], log := [] }

def record (stage : Stage) (time : Nat) (window : WindowId) (text : String) : Stage :=
  { stage with log := ⟨time, window, text⟩ :: stage.log }

def window? (stage : Stage) (id : WindowId) : Option StagedWindow :=
  stage.windows.find? (·.window.id == id)

def takeFault? (stage : Stage) (call : CallKind) (window : WindowId) : Option (Fault × Stage) :=
  let isFor (queued : QueuedFault) : Bool := queued.call == call && queued.window == window
  (stage.faults.find? isFor).map fun queued =>
    (queued.fault, { stage with faults := stage.faults.eraseP isFor })

/-! ### The editor -/

/-- What keeps a call on a window from success. -/
def obstacle? (stage : Stage) (window : WindowId) : Option FaultKind :=
  if !stage.editorUp then some .unavailable
  else if (stage.window? window).isNone then some .gone
  else none

def unreachable? (stage : Stage) : Option FaultKind :=
  if stage.editorUp then none else some .unavailable

def answerEditor (stage : Stage) (time : Nat) (call : CallKind) (window : WindowId)
    (failure : Option FaultKind) (success : Stage → Reply × Stage) : Reply × Stage :=
  match failure with
  | some kind =>
    (.editorFailed (kind.editorError window),
      stage.record time window s!"{call.text} {kind.text}")
  | none => success (stage.record time window s!"{call.text} ok")

def updateWindow (stage : Stage) (id : WindowId) (change : StagedWindow → StagedWindow) : Stage :=
  { stage with
    windows := stage.windows.map fun staged => if staged.window.id == id then change staged else staged }

def subscribe (stage : Stage) (window : WindowId) : Reply × Stage :=
  let key := stage.edits.size
  (.subscribed key,
    { stage with edits := stage.edits.push ⟨[], false⟩ }.updateWindow window fun staged =>
      { staged with streams := staged.streams ++ [key] })

def watch (stage : Stage) : Reply × Stage :=
  (.events stage.arrivals.size, { stage with arrivals := stage.arrivals.push ⟨[], false⟩ })

def textOf (stage : Stage) (window : WindowId) : Utf8.Bytes :=
  ((stage.window? window).map (·.text)).getD []

def firstLineOf (stage : Stage) (window : WindowId) : String :=
  String.ofList (Utf8.decodeLossy ((stage.textOf window).takeWhile (· != 0x0A)))

/-! ### The compositor -/

def freshLayerId (stage : Stage) (window : WindowId) : UInt32 :=
  UInt32.ofNat ((stage.layers.toList.filter (·.window == window)).length + 1)

def layerId (stage : Stage) (key : LayerKey) : UInt32 :=
  (stage.layers[key]?.map (·.id)).getD 0

def layerObstacle? (stage : Stage) (key : LayerKey) : Option FaultKind :=
  match stage.layers[key]? with
  | some layer => if layer.deleted || layer.vanished then some .layerGone else none
  | none => some .layerGone

def answerCompositor (stage : Stage) (time : Nat) (window : WindowId) (layer : UInt32)
    (text : String) (failure : Option FaultKind) (success : Stage → Reply × Stage) :
    Reply × Stage :=
  match failure with
  | some kind =>
    (.compositorFailed (kind.compositorError window layer),
      stage.record time window s!"{text} {kind.text}")
  | none => success (stage.record time window s!"{text} ok")

def updateLayer (stage : Stage) (key : LayerKey) (change : StagedLayer → StagedLayer) :
    Reply × Stage :=
  (.done, { stage with layers := stage.layers.modify key change })

def openLayer (stage : Stage) (window : WindowId) (name : String) : Reply × Stage :=
  let layer : StagedLayer :=
    { window, name, id := stage.freshLayerId window, spans := [], applies := 0, clears := 0,
      deleted := false, vanished := false }
  (.layer stage.layers.size, { stage with layers := stage.layers.push layer })

def spansText (spans : List Span) : String :=
  String.join (spans.map fun span => span.render ++ ";")

/-! ### Calls -/

def callKind : Call → CallKind × WindowId
  | .listWindows => (.list, 0)
  | .watchWindows => (.watch, 0)
  | .openWindow window => (.openWindow, window)
  | .readFirstLine window => (.read, window)
  | .subscribe window => (.edits, window)
  | .readText window => (.read, window)
  | .annotate window _ _ => (.annotate, window)
  | .openLayer window _ => (.openLayer, window)
  | .apply window _ _ => (.apply, window)
  | .clear window _ => (.clear, window)
  | .delete window _ => (.delete, window)

/-- By default a text is one keyword, unless it is empty. -/
def capturesOf (stage : Stage) (text : Utf8.Bytes) : List Capture :=
  stage.captures.getD (if text.isEmpty then [] else [⟨"keyword", 0, text.length⟩])

def answer (stage : Stage) (time : Nat) (call : Call) (fault : Option FaultKind) : Reply × Stage :=
  match call with
  | .listWindows =>
    stage.answerEditor time .list 0 (fault <|> stage.unreachable?) fun stage =>
      (.windows (stage.windows.map (·.window)), stage)
  | .watchWindows =>
    stage.answerEditor time .watch 0 (fault <|> stage.unreachable?) watch
  | .openWindow window =>
    stage.answerEditor time .openWindow window (fault <|> stage.obstacle? window) fun stage =>
      (.opened, stage)
  | .readFirstLine window =>
    stage.answerEditor time .read window (fault <|> stage.obstacle? window) fun stage =>
      (.firstLine (stage.firstLineOf window), stage)
  | .subscribe window =>
    stage.answerEditor time .edits window (fault <|> stage.obstacle? window) fun stage =>
      stage.subscribe window
  | .readText window =>
    stage.answerEditor time .read window (fault <|> stage.obstacle? window) fun stage =>
      (.text (stage.textOf window), stage)
  | .annotate window language text =>
    (.captures (stage.capturesOf text),
      stage.record time window s!"annotate {language} {text.length}")
  | .openLayer window name =>
    let absent := if stage.compositorUp then none else some .absent
    stage.answerCompositor time window 0 "open_layer" (fault <|> absent) fun stage =>
      stage.openLayer window name
  | .apply window key spans =>
    let id := stage.layerId key
    stage.answerCompositor time window id s!"apply {id} [{spansText spans}]"
      (fault <|> stage.layerObstacle? key) fun stage =>
        stage.updateLayer key fun layer =>
          { layer with spans := spans, applies := layer.applies + 1 }
  | .clear window key =>
    let id := stage.layerId key
    stage.answerCompositor time window id s!"clear {id}" (fault <|> stage.layerObstacle? key)
      fun stage => stage.updateLayer key fun layer =>
        { layer with spans := [], clears := layer.clears + 1 }
  | .delete window key =>
    let id := stage.layerId key
    stage.answerCompositor time window id s!"delete {id}" (fault <|> stage.layerObstacle? key)
      fun stage => stage.updateLayer key fun layer => { layer with deleted := true }

def begin (stage : Stage) (time : Nat) (call : Call) : Begun × Stage :=
  let (kind, window) := callKind call
  match stage.takeFault? kind window with
  | some (.waits millis, stage) =>
    (.waits millis, stage.record time window s!"{kind.text} waits {millis}")
  | some (.fails failure, stage) =>
    let (reply, stage) := stage.answer time call (some failure)
    (.replied reply, stage)
  | none =>
    let (reply, stage) := stage.answer time call none
    (.replied reply, stage)

def finish (stage : Stage) (time : Nat) (call : Call) : Reply × Stage :=
  stage.answer time call none

/-! ### Streams -/

def nextEdit (stage : Stage) (key : StreamKey) : Option (StreamItem × Stage) :=
  match stage.edits[key]? with
  | none => some (.ended, stage)
  | some ⟨[], hasEnded⟩ => if hasEnded then some (.ended, stage) else none
  | some ⟨item :: later, hasEnded⟩ =>
    some (item, { stage with edits := stage.edits.setIfInBounds key ⟨later, hasEnded⟩ })

def nextWindow (stage : Stage) (key : StreamKey) : Option (Daemon.Arrival × Stage) :=
  match stage.arrivals[key]? with
  | none => some (.ended, stage)
  | some ⟨[], hasEnded⟩ => if hasEnded then some (.ended, stage) else none
  | some ⟨arrival :: later, hasEnded⟩ =>
    some (arrival, { stage with arrivals := stage.arrivals.setIfInBounds key ⟨later, hasEnded⟩ })

/-! ### Changes by the script -/

def queueFault (stage : Stage) (queued : QueuedFault) (count : Nat) : Stage :=
  { stage with faults := stage.faults ++ List.replicate count queued }

/-- All layers so far vanish, as they do when the compositor starts anew. -/
def vanish (stage : Stage) : Stage :=
  { stage with layers := stage.layers.map fun layer => { layer with vanished := true } }

def feed (stage : Stage) (items : List StreamItem) (isLast : Bool) (key : StreamKey) : Stage :=
  { stage with
    edits := stage.edits.modify key fun stream =>
      ⟨stream.waiting ++ items, stream.hasEnded || isLast⟩ }

def streamsOf (stage : Stage) (window : WindowId) : List StreamKey :=
  ((stage.window? window).map (·.streams)).getD []

def feedWindow (stage : Stage) (window : WindowId) (items : List StreamItem) (isLast : Bool) :
    Stage :=
  let fed := (stage.streamsOf window).foldl (fun stage => stage.feed items isLast) stage
  if isLast then fed.updateWindow window fun staged => { staged with streams := [] } else fed

def feedArrivals (stage : Stage) (items : List Daemon.Arrival) (isLast : Bool) : Stage :=
  { stage with
    arrivals := stage.arrivals.map fun stream =>
      if stream.hasEnded then stream else ⟨stream.waiting ++ items, isLast⟩ }

def remove (stage : Stage) (window : WindowId) : Stage :=
  { stage with windows := stage.windows.filter (·.window.id != window) }

def insert (stage : Stage) (window : Window) (text : Utf8.Bytes) : Stage :=
  let others := (stage.remove window.id).windows
  { stage with
    windows := others.filter (·.window.id < window.id) ++ [⟨window, text, []⟩]
      ++ others.filter (window.id < ·.window.id) }

def eventsSince (stage : Stage) (seen : Nat) : List LoggedEvent :=
  (stage.log.take (stage.log.length - seen)).reverse.mergeSort fun first second =>
    first.time < second.time || (first.time == second.time && first.window ≤ second.window)

def layersByWindow (stage : Stage) : List StagedLayer :=
  stage.layers.toList.mergeSort fun first second => first.window ≤ second.window

def collaborators : Collaborators Stage :=
  { begin, finish, nextEdit, nextWindow }

end Stage
end LiveHighlight.Rehearsal
