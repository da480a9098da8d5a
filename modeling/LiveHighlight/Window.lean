import LiveHighlight.Span.Basic
import LiveHighlight.Text.Quoted
import LiveHighlight.Text.Utf8

/-!
Editor windows, and how talking to the editor and to the compositor can fail.
-/

namespace LiveHighlight

abbrev WindowId := UInt32

structure Window where
  id : WindowId
  name : String
  deriving DecidableEq, Repr

inductive EditKind where
  | insertion
  | deletion
  deriving DecidableEq, Repr

inductive EditorLine where
  | index
  | log
  deriving DecidableEq, Repr

def EditorLine.text : EditorLine → String
  | index => "index line"
  | log => "log line"

inductive EditorError where
  | windowGone (window : WindowId)
  | unavailable (cause : String)
  | io (cause : String)
  | malformed (kind : EditorLine) (line : String)
  deriving DecidableEq, Repr

def EditorError.message : EditorError → String
  | windowGone window => s!"window {window} no longer exists"
  | unavailable cause => s!"editor unavailable: {cause}"
  | io cause => cause
  | malformed kind line => s!"malformed {kind.text}: {Text.quoted line}"

inductive CompositorError where
  | absent (window : WindowId)
  | layerGone (layer : UInt32)
  | io (cause : String)
  | malformed (cause : String)
  deriving DecidableEq, Repr

def CompositorError.message : CompositorError → String
  | absent window => s!"compositor absent for window {window}"
  | layerGone layer => s!"layer {layer} no longer exists"
  | io cause => cause
  | malformed cause => s!"compositor protocol: {cause}"

inductive SessionError where
  | editor (error : EditorError)
  | compositor (error : CompositorError)
  deriving DecidableEq, Repr

namespace SessionError

def message : SessionError → String
  | editor error => "window source: " ++ error.message
  | compositor error => "compositor: " ++ error.message

def isWindowGone : SessionError → Bool
  | editor (.windowGone _) => true
  | _ => false

end SessionError
end LiveHighlight
