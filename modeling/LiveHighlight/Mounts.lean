import LiveHighlight.EditorFiles.Basic
import LiveHighlight.Simulation.Run
import LiveHighlight.Startup

/-!
Sessions over file trees.

The editor and the compositor are reached through their files, and every call is answered at once.
A file that was opened takes what is written to it.
-/

namespace LiveHighlight

open Simulation (Begun Collaborators World)

structure OpenStream where
  window : WindowId
  lines : LineStream

structure Mounts (γ : Type) [ParserLibrary γ] where
  tree : FileTree
  annotator : Annotator γ
  editor : EditorFiles
  styles : StyleFiles
  streams : Array OpenStream
  layers : Array FileLayer

namespace Mounts

variable {γ : Type} [ParserLibrary γ]

def ofHighlighter (highlighter : Highlighter γ) (tree : FileTree) : Mounts γ :=
  { tree, annotator := highlighter.annotator, editor := highlighter.editor,
    styles := highlighter.styles, streams := #[], layers := #[] }

def addStream (mounts : Mounts γ) (window : WindowId) (lines : LineStream) :
    StreamKey × Mounts γ :=
  (mounts.streams.size, { mounts with streams := mounts.streams.push ⟨window, lines⟩ })

def layer (mounts : Mounts γ) (key : LayerKey) : FileLayer :=
  mounts.layers[key]?.getD ⟨0, 0⟩

def ofEditor {α : Type} (mounts : Mounts γ) (answer : Except EditorError α)
    (reply : α → Reply × Mounts γ) : Reply × Mounts γ :=
  match answer with
  | .ok value => reply value
  | .error error => (.editorFailed error, mounts)

def ofCompositor {α : Type} (mounts : Mounts γ) (answer : Except CompositorError α)
    (reply : α → Reply × Mounts γ) : Reply × Mounts γ :=
  match answer with
  | .ok value => reply value
  | .error error => (.compositorFailed error, mounts)

def subscribed (mounts : Mounts γ) (window : WindowId) (lines : LineStream) : Reply × Mounts γ :=
  let (key, mounts) := mounts.addStream window lines
  (.subscribed key, mounts)

def watched (mounts : Mounts γ) (lines : LineStream) : Reply × Mounts γ :=
  let (key, mounts) := mounts.addStream 0 lines
  (.events key, mounts)

def answer (mounts : Mounts γ) : Call → Reply × Mounts γ
  | .listWindows =>
    mounts.ofEditor (mounts.editor.list mounts.tree) fun windows => (.windows windows, mounts)
  | .watchWindows => mounts.ofEditor (mounts.editor.watch mounts.tree) mounts.watched
  | .openWindow window =>
    mounts.ofEditor (mounts.editor.openWindow mounts.tree window) fun _ => (.opened, mounts)
  | .readFirstLine window =>
    mounts.ofEditor (mounts.editor.readFirstLine mounts.tree window) fun line =>
      (.firstLine line, mounts)
  | .subscribe window =>
    mounts.ofEditor (mounts.editor.subscribe mounts.tree window) (mounts.subscribed window)
  | .readText window =>
    mounts.ofEditor (mounts.editor.readText mounts.tree window) fun text => (.text text, mounts)
  | .annotate _ language text => (.captures (mounts.annotator.annotate language text), mounts)
  | .openLayer window _ =>
    mounts.ofCompositor (mounts.styles.openLayer mounts.tree window) fun layer =>
      (.layer mounts.layers.size, { mounts with layers := mounts.layers.push layer })
  | .apply _ key spans =>
    let applied := mounts.styles.apply mounts.tree (mounts.layer key) spans
    let mounts := { mounts with
      tree := applied.tree
      layers := mounts.layers.setIfInBounds key applied.layer }
    mounts.ofCompositor applied.result fun _ => (.done, mounts)
  | .clear _ key =>
    mounts.ofCompositor (mounts.styles.clear mounts.tree (mounts.layer key)) fun _ =>
      (.done, mounts)
  | .delete _ key =>
    mounts.ofCompositor (mounts.styles.delete mounts.tree (mounts.layer key)) fun tree =>
      (.done, { mounts with tree := tree })

def setLines (mounts : Mounts γ) (key : StreamKey) (lines : LineStream) : Mounts γ :=
  { mounts with streams := mounts.streams.modify key fun stream => { stream with lines := lines } }

def nextEdit (mounts : Mounts γ) (key : StreamKey) : Option (StreamItem × Mounts γ) :=
  mounts.streams[key]?.map fun stream =>
    let (item, lines) := EditorFiles.nextEdit mounts.tree stream.window stream.lines
    (item, mounts.setLines key lines)

def nextWindow (mounts : Mounts γ) (key : StreamKey) : Option (Daemon.Arrival × Mounts γ) :=
  mounts.streams[key]?.map fun stream =>
    let (arrival, lines) := EditorFiles.nextArrival mounts.tree stream.lines
    (arrival, mounts.setLines key lines)

def collaborators : Collaborators (Mounts γ) where
  begin mounts _ call :=
    let (reply, mounts) := mounts.answer call
    (.replied reply, mounts)
  finish mounts _ call := mounts.answer call
  nextEdit := nextEdit
  nextWindow := nextWindow

def world (highlighter : Highlighter γ) (tree : FileTree) (draws : Draws) :
    World (Mounts γ) :=
  .fresh highlighter.setup draws (ofHighlighter highlighter tree)

end Mounts
end LiveHighlight
