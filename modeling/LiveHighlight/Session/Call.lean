import LiveHighlight.Language.Resolver
import LiveHighlight.Window

/-!
What is asked of the editor, the annotator and the compositor, and what they reply.

Streams and layers are known by the keys under which they were handed out.
-/

namespace LiveHighlight

abbrev StreamKey := Nat

abbrev LayerKey := Nat

inductive Call where
  | listWindows
  | watchWindows
  | openWindow (window : WindowId)
  | readFirstLine (window : WindowId)
  | subscribe (window : WindowId)
  | readText (window : WindowId)
  | annotate (window : WindowId) (language : LanguageId) (text : Utf8.Bytes)
  | openLayer (window : WindowId) (name : String)
  | apply (window : WindowId) (layer : LayerKey) (spans : List Span)
  | clear (window : WindowId) (layer : LayerKey)
  | delete (window : WindowId) (layer : LayerKey)
  deriving DecidableEq, Repr

/-- Cleanup calls are never cancelled; they are given up when their time is over. -/
def Call.isCleanup : Call → Bool
  | clear .. | delete .. => true
  | _ => false

inductive Reply where
  | windows (listed : List Window)
  | events (stream : StreamKey)
  | opened
  | firstLine (line : String)
  | subscribed (stream : StreamKey)
  | text (bytes : Utf8.Bytes)
  | captures (captures : List Capture)
  | layer (key : LayerKey)
  | done
  | editorFailed (error : EditorError)
  | compositorFailed (error : CompositorError)
  deriving DecidableEq, Repr

end LiveHighlight
