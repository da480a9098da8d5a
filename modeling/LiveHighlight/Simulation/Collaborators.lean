import LiveHighlight.Daemon
import LiveHighlight.Session.Reader

/-!
The collaborators of a simulation: an editor, an annotator and a compositor with a state.
-/

namespace LiveHighlight.Simulation

inductive Begun where
  | replied (reply : Reply)
  | waits (millis : Nat)

structure Collaborators (σ : Type) where
  begin : σ → Nat → Call → Begun × σ
  finish : σ → Nat → Call → Reply × σ
  nextEdit : σ → StreamKey → Option (StreamItem × σ)
  nextWindow : σ → StreamKey → Option (Daemon.Arrival × σ)

end LiveHighlight.Simulation
