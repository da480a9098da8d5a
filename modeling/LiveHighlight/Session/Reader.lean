import LiveHighlight.Session.Call
import LiveHighlight.Session.Mailbox

/-!
Readers of edits.

A reader passes the edits of one stream on to the mailbox of its session. The end of the stream,
or its failure, is the last message, which it delivers even when that takes a wait.
-/

namespace LiveHighlight

inductive StreamItem where
  | edit (kind : EditKind)
  | failed (error : EditorError)
  | ended
  deriving DecidableEq, Repr

namespace Reader

inductive Phase where
  | awaiting
  | delivering (last : Message)
  | finished
  deriving DecidableEq, Repr

inductive Event where
  /-- The stream yielded an item; `refused` tells that nobody receives any more. -/
  | item (item : StreamItem) (refused : Bool)
  | settled
  | cancelled
  deriving DecidableEq, Repr

/-- Cancellation ends a wait for the stream, and nothing else. -/
def step? : Phase → Event → Option Phase
  | .awaiting, .item (.edit _) refused => some (if refused then .finished else .awaiting)
  | .awaiting, .item (.failed error) _ => some (.delivering (.failed error))
  | .awaiting, .item .ended _ => some (.delivering .closed)
  | .awaiting, .cancelled => some .finished
  | .delivering _, .settled => some .finished
  | _, _ => none

end Reader

/-- A reader at work, with the item in its hand that it has taken and not yet passed on. -/
structure Reader where
  phase : Reader.Phase
  stream : StreamKey
  hand : Option StreamItem
  isStopped : Bool
  deriving DecidableEq, Repr

namespace Reader

def ofStream (stream : StreamKey) : Reader :=
  ⟨.awaiting, stream, none, false⟩

def isFinished (reader : Reader) : Bool :=
  reader.phase == .finished

def stop (reader : Reader) : Reader :=
  { reader with isStopped := true }

def isDismissed (cancelled : Bool) (reader : Reader) : Bool :=
  reader.isStopped || cancelled

def take? (cancelled : Bool) (reader : Reader) (item : StreamItem) : Option Reader :=
  if reader.phase = .awaiting ∧ reader.hand = none ∧ !reader.isDismissed cancelled then
    some { reader with hand := some item }
  else none

def quit? (cancelled : Bool) (reader : Reader) : Option Reader :=
  if reader.hand = none ∧ reader.isDismissed cancelled then
    (step? reader.phase .cancelled).map fun phase => { reader with phase := phase }
  else none

def passOn (mailbox : Mailbox) : StreamItem → Mailbox
  | .edit kind => if mailbox.isOpen then mailbox.offer kind else mailbox
  | _ => mailbox

/-- Passes on what is in the hand, or else delivers the last message once there is room. -/
def pass? (mailbox : Mailbox) (reader : Reader) : Option (Mailbox × Reader) :=
  match reader.hand, reader.phase with
  | some item, phase =>
    (step? phase (.item item !mailbox.isOpen)).map fun phase =>
      (passOn mailbox item, { reader with phase := phase, hand := none })
  | none, .delivering last =>
    if mailbox.isOpen && !mailbox.hasRoom then none
    else
      (step? (.delivering last) .settled).map fun phase =>
        (if mailbox.isOpen then mailbox.put last else mailbox, { reader with phase := phase })
  | none, _ => none

end Reader
end LiveHighlight
