import LiveHighlight.Claims
import LiveHighlight.Window

/-!
Which windows are under a session.

A window's claim is taken as its session starts and dropped as the session ends, so that a window
has one session at most. Nothing starts once everything is cancelled, and a shutdown is over when
the roster is closed and no session is left.
-/

namespace LiveHighlight

structure Roster where
  cancelled : Bool
  closed : Bool
  claims : Claims WindowId
  running : List WindowId

namespace Roster

def fresh : Roster :=
  ⟨false, false, .empty, []⟩

def isActive (roster : Roster) (window : WindowId) : Bool :=
  roster.claims.contains 0 window

def held (roster : Roster) : List WindowId :=
  roster.claims.held 0

def activeCount (roster : Roster) : Nat :=
  roster.claims.size 0

def start? (roster : Roster) (window : WindowId) : Option Roster :=
  if roster.cancelled then none
  else
    (roster.claims.claim? 0 window).map fun (_, claims) =>
      { roster with claims := claims, running := window :: roster.running }

def finish (roster : Roster) (window : WindowId) : Roster :=
  { roster with
    claims := roster.claims.drop ⟨window, roster.claims.groupOf 0⟩
    running := roster.running.erase window }

def cancel (roster : Roster) : Roster :=
  { roster with cancelled := true }

def close (roster : Roster) : Roster :=
  { roster.cancel with closed := true }

def isDrained (roster : Roster) : Bool :=
  roster.closed && roster.running.isEmpty

end Roster
end LiveHighlight
