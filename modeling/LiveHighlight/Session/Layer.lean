import LiveHighlight.Clock
import LiveHighlight.Session.Call

/-!
A session's hold on a layer, which may be absent.

Where no layer is held, an operation makes no call. Clearing and deleting are done as well as they
can be: they are given up after `cleanupLimit`, and a failure is no concern of the session.
-/

namespace LiveHighlight

structure StyleLayer where
  window : WindowId
  held : Option LayerKey
  deriving DecidableEq, Repr

namespace StyleLayer

def cleanupLimit : Nat :=
  Clock.ofMillis 2000

def absent (window : WindowId) : StyleLayer :=
  ⟨window, none⟩

def acquired (window : WindowId) (key : LayerKey) : StyleLayer :=
  ⟨window, some key⟩

def isPresent (layer : StyleLayer) : Bool :=
  layer.held.isSome

def applyCall? (layer : StyleLayer) (spans : List Span) : Option Call :=
  layer.held.map fun key => .apply layer.window key spans

def clearCall? (layer : StyleLayer) : Option Call :=
  layer.held.map fun key => .clear layer.window key

def deleteCall? (layer : StyleLayer) : Option Call :=
  layer.held.map fun key => .delete layer.window key

/-- A layer is let go of as its deletion begins, whatever becomes of the call. -/
def released (layer : StyleLayer) : StyleLayer :=
  absent layer.window

end StyleLayer
end LiveHighlight
