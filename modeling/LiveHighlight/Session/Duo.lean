import LiveHighlight.Session.Reader
import LiveHighlight.Session.Step

/-!
A session and its reader, with the mailbox between them.

The two go on side by side. An act is one step of either: the session begins a wait or has it
answered; the reader takes an item from its stream, passes it on, or quits.
-/

namespace LiveHighlight

structure Duo where
  session : Session
  /-- The instant at which the session began the wait it is in. -/
  begun : Option Nat
  mailbox : Mailbox
  reader : Option Reader
  deriving DecidableEq, Repr

namespace Duo

open Session (Answer Request)

inductive Act where
  | begin
  | answer (answer : Answer)
  | take (item : StreamItem)
  | pass
  | quit
  deriving DecidableEq, Repr

def start (setup : Setup) (window : Window) : Duo :=
  ⟨.start setup window, none, .shut, none⟩

def readerFinished (duo : Duo) : Bool :=
  duo.reader.all Reader.isFinished

def streams (duo : Duo) : List StreamKey :=
  duo.session.stream?.toList ++ ((duo.reader.filter (!·.isFinished)).map (·.stream)).toList

def isPreempted (cancelled : Bool) (request : Request) : Bool :=
  cancelled && request.isCancellable

/-- Begins a wait. A session that stops its reader receives no more from here on. -/
def begin (now : Nat) (duo : Duo) : Request → Duo
  | .stopReader =>
    { duo with begun := some now, mailbox := .shut, reader := duo.reader.map Reader.stop }
  | _ => { duo with begun := some now }

def begin? (setup : Setup) (now : Nat) (cancelled : Bool) (duo : Duo) : Option Duo :=
  match duo.session.request? setup with
  | none => none
  | some request =>
    if duo.begun.isSome || isPreempted cancelled request then none
    else some (duo.begin now request)

/-- Whether a wait begun at `since` can have such an answer by `now`: times are over, and a delay
is within its draw. -/
def isPossible (now since : Nat) : Request → Answer → Bool
  | .draw ceiling, .delay nanos => nanos ≤ Backoff.drawLimit ceiling
  | .sleep delay, .slept => since + delay ≤ now
  | .watch deadline, .fired => deadline.any (· ≤ now)
  | .call _, .givenUp => since + StyleLayer.cleanupLimit ≤ now
  | _, _ => true

/-- Whether a wait may be answered so. Only cancellation needs no wait that was begun. -/
def admits (now : Nat) (cancelled : Bool) (duo : Duo) (request : Request) (answer : Answer) :
    Bool :=
  if answer = .cancelled then cancelled
  else !isPreempted cancelled request && duo.begun.any (isPossible now · request answer)

/-- The mailbox without its first message. A mailbox that stays empty counts as closed. -/
def receive? (duo : Duo) (message : Message) : Option Mailbox :=
  match duo.mailbox.take? with
  | some (first, mailbox) => if first = message then some mailbox else none
  | none => if duo.readerFinished ∧ message = .closed then some duo.mailbox else none

def exchange? (duo : Duo) : Request → Answer → Option (Mailbox × Option Reader)
  | .startReader stream, .readerStarted => some (.empty, some (.ofStream stream))
  | .watch _, .received message => (duo.receive? message).map (·, duo.reader)
  | .stopReader, .readerStopped => if duo.readerFinished then some (.shut, none) else none
  | _, _ => some (duo.mailbox, duo.reader)

def answer? (setup : Setup) (now : Nat) (cancelled : Bool) (duo : Duo) (answer : Answer) :
    Option Duo :=
  match duo.session.request? setup with
  | none => none
  | some request =>
    if duo.admits now cancelled request answer then
      match duo.session.step? setup now answer, duo.exchange? request answer with
      | some session, some (mailbox, reader) => some ⟨session, none, mailbox, reader⟩
      | _, _ => none
    else none

def step? (setup : Setup) (now : Nat) (cancelled : Bool) (duo : Duo) : Act → Option Duo
  | .begin => duo.begin? setup now cancelled
  | .answer answer => duo.answer? setup now cancelled answer
  | .take item =>
    (duo.reader.bind (·.take? cancelled item)).map fun reader => { duo with reader := some reader }
  | .pass =>
    (duo.reader.bind (·.pass? duo.mailbox)).map fun (mailbox, reader) =>
      { duo with mailbox := mailbox, reader := some reader }
  | .quit =>
    (duo.reader.bind (·.quit? cancelled)).map fun reader => { duo with reader := some reader }

end Duo
end LiveHighlight
