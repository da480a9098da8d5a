import LiveHighlight.Window

/-!
The mailbox between a reader of edits and its session.

It holds a bounded number of messages. A full mailbox already means that the session will wake, so
an edit that finds it full is dropped; the last message of a stream waits for room instead.
-/

namespace LiveHighlight

inductive Message where
  | edit (kind : EditKind)
  | failed (error : EditorError)
  | closed
  deriving DecidableEq, Repr

structure Mailbox where
  messages : List Message
  isOpen : Bool
  deriving DecidableEq, Repr

namespace Mailbox

def capacity : Nat := 32

def empty : Mailbox :=
  ⟨[], true⟩

def shut : Mailbox :=
  ⟨[], false⟩

def hasRoom (mailbox : Mailbox) : Bool :=
  mailbox.messages.length < capacity

def put (mailbox : Mailbox) (message : Message) : Mailbox :=
  { mailbox with messages := mailbox.messages ++ [message] }

def offer (mailbox : Mailbox) (kind : EditKind) : Mailbox :=
  if mailbox.hasRoom then mailbox.put (.edit kind) else mailbox

def take? (mailbox : Mailbox) : Option (Message × Mailbox) :=
  match mailbox.messages with
  | [] => none
  | message :: later => some (message, { mailbox with messages := later })

end Mailbox
end LiveHighlight
