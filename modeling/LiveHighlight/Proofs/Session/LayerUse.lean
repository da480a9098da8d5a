import LiveHighlight.Proofs.Session.Run
import LiveHighlight.Session.LayerUse

/-!
Any use of a layer.

A layer is applied to, cleared and deleted in any order, and its compositor does with each call
what it likes. A layer is held until it is deleted once; from then on nothing is asked of the
compositor.
-/

namespace LiveHighlight

namespace Compositor

section

variable {σ : Type} {compositor : Compositor σ} {limit : Option Nat} {state later : σ}
  {now finish : Nat} {call : Call} {result : Except CompositorError Unit}

end

end Compositor

namespace StyleLayer

structure Moment (σ : Type) where
  use : Use σ
  operation : Operation
  outcome : Outcome

/-- The operations on a layer. Between them time passes, and the compositor changes by itself. -/
inductive Run {σ : Type} (compositor : Compositor σ) (start : Use σ) :
    List (Moment σ) → Use σ → Prop
  | start : Run compositor start [] start
  | elsewhere {moments use} (earlier : Run compositor start moments use) (millis : Nat)
      (state : σ) : Run compositor start moments ⟨use.now + millis, use.layer, state⟩
  | operated {moments use operation outcome next} (earlier : Run compositor start moments use)
      (ended : operate? compositor use operation = some (outcome, next)) :
      Run compositor start (moments ++ [⟨use, operation, outcome⟩]) next

def Moment.call? {σ : Type} (moment : Moment σ) : Option Call :=
  moment.use.layer.call? moment.operation

def calls {σ : Type} (moments : List (Moment σ)) : List Call :=
  moments.filterMap Moment.call?

theorem call?_eq_none_iff {layer : StyleLayer} {operation : Operation} :
    layer.call? operation = none ↔ layer.isPresent = false := by
  obtain ⟨window, held⟩ := layer
  cases operation <;> cases held <;>
    simp [StyleLayer.call?, applyCall?, clearCall?, deleteCall?, isPresent]

theorem after_of_absent {layer : StyleLayer} (absent : layer.isPresent = false)
    (operation : Operation) : layer.after operation = layer := by
  obtain ⟨window, held⟩ := layer
  cases held with
  | none => cases operation <;> rfl
  | some key => cases absent

theorem isPresent_after_iff {layer : StyleLayer} {operation : Operation} :
    (layer.after operation).isPresent = true ↔
      layer.isPresent = true ∧ operation ≠ .delete := by
  cases operation <;> simp [after, released, absent, isPresent]

theorem after_of_ne_delete (layer : StyleLayer) {operation : Operation}
    (other : operation ≠ .delete) : layer.after operation = layer := by
  cases operation with
  | apply | clear => rfl
  | delete => exact absurd rfl other

section

variable {σ : Type} {compositor : Compositor σ} {start use next : Use σ} {operation : Operation}
  {outcome : Outcome} {moments : List (Moment σ)}

theorem operate?_of_absent (compositor : Compositor σ) (absent : use.layer.isPresent = false)
    (operation : Operation) :
    operate? compositor use operation = some (operation.outcome (some (.ok ())), use) := by
  rw [operate?, call?_eq_none_iff.mpr absent]

theorem operate?_of_call {call : Call} (calls : use.layer.call? operation = some call) :
    operate? compositor use operation =
      (compositor.await? operation.limit? use.state use.now call).map fun settled =>
        (operation.outcome settled.result,
          ⟨settled.now, use.layer.after operation, settled.state⟩) := by
  rw [operate?, calls]

theorem layer_of_operate? (ended : operate? compositor use operation = some (outcome, next)) :
    next.layer = use.layer.after operation := by
  cases calls : use.layer.call? operation with
  | none =>
      have absent := call?_eq_none_iff.mp calls
      rw [operate?_of_absent compositor absent] at ended
      cases ended
      exact (after_of_absent absent operation).symm
  | some call =>
      rw [operate?_of_call calls] at ended
      obtain ⟨settled, _, same⟩ := Option.map_eq_some_iff.mp ended
      cases same
      rfl

theorem Run.layer_eq (run : Run compositor start moments use)
    (present : use.layer.isPresent = true) : use.layer = start.layer := by
  induction run with
  | start => rfl
  | elsewhere earlier millis state known => exact known present
  | operated earlier ended known =>
      rw [layer_of_operate? ended] at present ⊢
      obtain ⟨present, other⟩ := isPresent_after_iff.mp present
      rw [after_of_ne_delete _ other]
      exact known present

theorem calls_concat (moments : List (Moment σ)) (moment : Moment σ) :
    calls (moments ++ [moment]) = calls moments ++ moment.call?.toList := by
  cases called : moment.call? <;> simp [calls, List.filterMap_append, called]

end

def scripted : Compositor (List Prospect) where
  begin prospects _ _ := (prospects.headD (.answered (.ok ())), prospects.tail)
  finish prospects _ _ := (.ok (), prospects)

end StyleLayer
end LiveHighlight
