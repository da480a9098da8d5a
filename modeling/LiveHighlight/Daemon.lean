import LiveHighlight.Ensemble
import LiveHighlight.Retry

/-!
The daemon follows the editor's windows.

A connection subscribes to new windows before it lists those that are open, so that no window
falls between the two. When a connection ends the daemon waits and connects anew; when everything
is cancelled it drains the sessions.
-/

namespace LiveHighlight.Daemon

inductive Phase where
  | subscribing (backoff : Backoff)
  | listing (backoff : Backoff) (stream : StreamKey)
  | starting (backoff : Backoff) (stream : StreamKey) (window : Window) (later : List Window)
  | following (backoff : Backoff) (stream : StreamKey)
  | drawing (backoff : Backoff)
  | sleeping (backoff : Backoff) (delay : Nat)
  | draining
  | done
  deriving DecidableEq, Repr

inductive Request where
  | call (asked : Call)
  | start (window : Window)
  | nextWindow (stream : StreamKey)
  | draw (ceiling : Nat)
  | sleep (delay : Nat)
  | drain
  deriving DecidableEq, Repr

def Request.isCancellable : Request → Bool
  | .start _ | .drain => false
  | _ => true

inductive Arrival where
  | window (window : Window)
  | failed (error : EditorError)
  | ended
  deriving DecidableEq, Repr

inductive Answer where
  | reply (reply : Reply)
  | started (isNew : Bool)
  | arrived (arrival : Arrival)
  | delay (nanos : Nat)
  | slept
  | drained
  | cancelled
  deriving DecidableEq, Repr

def request? : Phase → Option Request
  | .subscribing _ => some (.call .watchWindows)
  | .listing _ _ => some (.call .listWindows)
  | .starting _ _ window _ => some (.start window)
  | .following _ stream => some (.nextWindow stream)
  | .drawing backoff => some (.draw backoff.ceiling)
  | .sleeping _ delay => some (.sleep delay)
  | .draining => some .drain
  | .done => none

def startAll (backoff : Backoff) (stream : StreamKey) : List Window → Phase
  | [] => .following backoff stream
  | window :: later => .starting backoff stream window later

def step? : Phase → Answer → Option Phase
  | .draining, .drained => some .done
  | .draining, _ | .done, _ => none
  | .starting backoff stream _ later, .started _ => some (startAll backoff stream later)
  | .starting _ _ _ _, _ => none
  | _, .cancelled => some .draining
  | .subscribing backoff, .reply (.events stream) => some (.listing backoff stream)
  | .subscribing backoff, .reply (.editorFailed _) => some (.drawing backoff)
  | .listing backoff stream, .reply (.windows listed) =>
    some (startAll backoff.reset stream listed)
  | .listing backoff _, .reply (.editorFailed _) => some (.drawing backoff)
  | .following backoff stream, .arrived (.window window) =>
    some (.starting backoff stream window [])
  | .following backoff _, .arrived (.failed _) => some (.drawing backoff)
  | .following backoff _, .arrived .ended => some (.drawing backoff)
  | .drawing backoff, .delay nanos => some (.sleeping backoff.advance nanos)
  | .sleeping backoff _, .slept => some (.subscribing backoff)
  | _, _ => none

def begin (base cap : Nat) : Phase :=
  .subscribing (.fresh base cap)

/-- Whether cancellation comes before a wait: it is looked at first. -/
def isPreempted (cancelled : Bool) (request : Request) : Bool :=
  cancelled && request.isCancellable

/-- Whether a request may be answered so. The sessions answer a start, and the end of a drain. -/
def admits (setup : Setup) (ensemble : Ensemble) : Request → Answer → Bool
  | request, .cancelled => isPreempted ensemble.roster.cancelled request
  | .start window, .started isNew => isNew == (ensemble.start setup window).1
  | .drain, .drained => ensemble.roster.isDrained
  | request, _ => !isPreempted ensemble.roster.cancelled request

def perform (setup : Setup) (ensemble : Ensemble) : Request → Ensemble
  | .start window => (ensemble.start setup window).2
  | _ => ensemble

def answer? (setup : Setup) (ensemble : Ensemble) (phase : Phase) (answer : Answer) :
    Option (Ensemble × Phase) :=
  match request? phase with
  | none => none
  | some request =>
    if admits setup ensemble request answer then
      (step? phase answer).map (perform setup ensemble request, ·)
    else none

end LiveHighlight.Daemon
