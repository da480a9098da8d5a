import LiveHighlight.Debounce
import LiveHighlight.Retry
import LiveHighlight.Session.Layer
import LiveHighlight.Session.Mailbox

/-!
Sessions: one for each window that is highlighted.

A session identifies the language of its window, and then makes attempts. An attempt opens the
window, subscribes to its edits, acquires a layer, highlights the whole text, and then watches for
edits and highlights anew after every burst. A session is told by the phase in which it waits.
-/

namespace LiveHighlight

structure Settings where
  layerName : String
  debounce : Nat
  backoffBase : Nat
  backoffCap : Nat
  deriving DecidableEq, Repr

namespace Settings

def defaultLayerName : String := "treesitter"

def default : Settings :=
  ⟨defaultLayerName, Clock.ofMillis 200, Clock.ofMillis 200, Clock.ofMillis 30000⟩

def backoff (settings : Settings) : Backoff :=
  .fresh settings.backoffBase settings.backoffCap

end Settings

structure Setup where
  resolver : Resolver
  styles : StyleTable
  settings : Settings

namespace Session

inductive Outcome where
  | streamEnded
  | windowGone
  | cancelled
  | failed (error : SessionError)
  deriving DecidableEq, Repr

def Outcome.ofError (error : SessionError) : Outcome :=
  if error.isWindowGone then .windowGone else .failed error

inductive Ending where
  | noLanguage
  | streamEnded
  | windowGone
  | cancelled
  deriving DecidableEq, Repr

inductive LineStep where
  | opening
  | reading
  | drawing
  | sleeping (delay : Nat)
  deriving DecidableEq, Repr

inductive HighlightStep where
  | reading
  | annotating (text : Utf8.Bytes)
  | applying (spans : List Span)
  deriving DecidableEq, Repr

/-- The first highlight of an attempt, before which the stream has no reader, or one that follows
a burst of edits. -/
inductive Round where
  | initial (stream : StreamKey)
  | debounced (debouncer : Debouncer)
  deriving DecidableEq, Repr

structure Attempt where
  language : LanguageId
  backoff : Backoff
  deriving DecidableEq, Repr

inductive Phase where
  | identifying (step : LineStep) (backoff : Backoff)
  | opening (attempt : Attempt)
  | subscribing (attempt : Attempt)
  | acquiring (attempt : Attempt) (stream : StreamKey)
  | highlighting (attempt : Attempt) (layer : StyleLayer) (round : Round) (step : HighlightStep)
  | startingReader (attempt : Attempt) (layer : StyleLayer) (stream : StreamKey)
  | watching (attempt : Attempt) (layer : StyleLayer) (debouncer : Debouncer)
  | stoppingReader (attempt : Attempt) (layer : StyleLayer) (outcome : Outcome)
  | cleaning (attempt : Attempt) (layer : StyleLayer) (outcome : Outcome)
  | drawing (attempt : Attempt)
  | sleeping (attempt : Attempt) (delay : Nat)
  | ended (ending : Ending)
  deriving DecidableEq, Repr

end Session

structure Session where
  window : Window
  phase : Session.Phase
  deriving DecidableEq, Repr

namespace Session

inductive Request where
  | call (asked : Call)
  | draw (ceiling : Nat)
  | sleep (delay : Nat)
  | startReader (stream : StreamKey)
  | watch (deadline : Option Nat)
  | stopReader
  deriving DecidableEq, Repr

def Request.isCancellable : Request → Bool
  | .call asked => !asked.isCleanup
  | .sleep _ | .watch _ => true
  | .draw _ | .startReader _ | .stopReader => false

inductive Answer where
  | reply (reply : Reply)
  /-- The time for a cleanup call is over. -/
  | givenUp
  | delay (nanos : Nat)
  | slept
  | readerStarted
  | fired
  | received (message : Message)
  | readerStopped
  | cancelled
  deriving DecidableEq, Repr

end Session
end LiveHighlight
