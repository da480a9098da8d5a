import LiveHighlight.Roster
import LiveHighlight.Session.Duo

/-!
All sessions together, with the roster of their windows.

A session gets its place as it starts, and keeps it when it has ended.
-/

namespace LiveHighlight

structure Ensemble where
  roster : Roster
  /-- Every session that was started, in the order of their starts. -/
  duos : List Duo

namespace Ensemble

def fresh : Ensemble :=
  ⟨.fresh, []⟩

def start (setup : Setup) (ensemble : Ensemble) (window : Window) : Bool × Ensemble :=
  match ensemble.roster.start? window.id with
  | none => (false, ensemble)
  | some roster => (true, ⟨roster, ensemble.duos ++ [.start setup window]⟩)

def put (ensemble : Ensemble) (place : Nat) (duo : Duo) : Ensemble where
  roster :=
    if duo.session.hasEnded then ensemble.roster.finish duo.session.window.id
    else ensemble.roster
  duos := ensemble.duos.set place duo

def act? (setup : Setup) (now : Nat) (ensemble : Ensemble) (place : Nat) (act : Duo.Act) :
    Option Ensemble :=
  (ensemble.duos[place]?.bind (·.step? setup now ensemble.roster.cancelled act)).map
    (ensemble.put place)

def hasEnded (ensemble : Ensemble) (place : Nat) : Bool :=
  ensemble.duos[place]?.any (·.session.hasEnded)

def cancel (ensemble : Ensemble) : Ensemble :=
  { ensemble with roster := ensemble.roster.cancel }

def close (ensemble : Ensemble) : Ensemble :=
  { ensemble with roster := ensemble.roster.close }

end Ensemble
end LiveHighlight
