import LiveHighlight.Session.Layer

/-!
What a session does with its layer.

The compositor answers a call at once, after a while or never. Applying spans takes as long as the
answer does, unless its caller goes away; clearing and deleting take `cleanupLimit` at most, and
their caller learns nothing of the answer.
-/

namespace LiveHighlight

inductive Prospect where
  | answered (result : Except CompositorError Unit)
  | waits (millis : Nat)
  | hangs
  deriving Repr

structure Compositor (σ : Type) where
  begin : σ → Nat → Call → Prospect × σ
  finish : σ → Nat → Call → Except CompositorError Unit × σ

namespace Compositor

structure Settled (σ : Type) where
  result : Option (Except CompositorError Unit)
  now : Nat
  state : σ

variable {σ : Type} (compositor : Compositor σ)

/-- Makes a call and waits for its answer, for so many milliseconds at most if there is a limit. An
answer that comes as the time is over still counts. -/
def await? (limit : Option Nat) (state : σ) (now : Nat) (call : Call) : Option (Settled σ) :=
  match compositor.begin state now call with
  | (.answered result, state) => some ⟨some result, now, state⟩
  | (.waits millis, state) =>
    match limit.filter (· < millis) with
    | some limit => some ⟨none, now + limit, state⟩
    | none =>
      let (result, state) := compositor.finish state (now + millis) call
      some ⟨some result, now + millis, state⟩
  | (.hangs, state) => limit.map fun limit => ⟨none, now + limit, state⟩

end Compositor

namespace StyleLayer

inductive Operation where
  /-- The caller goes away after so many milliseconds, or else stays for the answer. -/
  | apply (spans : List Span) (patience : Option Nat)
  | clear
  | delete
  deriving DecidableEq, Repr

inductive Outcome where
  | applied (result : Except CompositorError Unit)
  | abandoned
  /-- A layer was cleared or deleted, as well as that could be done. -/
  | tidied

namespace Operation

def isCleanup : Operation → Bool
  | apply .. => false
  | clear | delete => true

def limit? : Operation → Option Nat
  | apply _ patience => patience
  | clear | delete => some (Clock.tick cleanupLimit)

def outcome : Operation → Option (Except CompositorError Unit) → Outcome
  | apply .., some result => .applied result
  | apply .., none => .abandoned
  | clear, _ | delete, _ => .tidied

end Operation

def call? (layer : StyleLayer) : Operation → Option Call
  | .apply spans _ => layer.applyCall? spans
  | .clear => layer.clearCall?
  | .delete => layer.deleteCall?

def after (layer : StyleLayer) : Operation → StyleLayer
  | .apply .. | .clear => layer
  | .delete => layer.released

structure Use (σ : Type) where
  now : Nat
  layer : StyleLayer
  state : σ

def operate? {σ : Type} (compositor : Compositor σ) (use : Use σ) (operation : Operation) :
    Option (Outcome × Use σ) :=
  match use.layer.call? operation with
  | none => some (operation.outcome (some (.ok ())), use)
  | some call =>
    (compositor.await? operation.limit? use.state use.now call).map fun settled =>
      (operation.outcome settled.result, ⟨settled.now, use.layer.after operation, settled.state⟩)

end StyleLayer
end LiveHighlight
