import LiveHighlight.Session.Basic
import LiveHighlight.Span.Compose

/-!
The steps of a session: what it waits for in each phase, and where each answer leads.
-/

namespace LiveHighlight.Session

/-- The cleanup call at the end of an attempt: a window that closed keeps its layer, emptied. -/
def Outcome.cleanupCall? (layer : StyleLayer) : Outcome → Option Call
  | streamEnded | windowGone => layer.clearCall?
  | cancelled | failed _ => layer.deleteCall?

def request? (setup : Setup) (session : Session) : Option Request :=
  let window := session.window.id
  match session.phase with
  | .identifying .opening _ => some (.call (.openWindow window))
  | .identifying .reading _ => some (.call (.readFirstLine window))
  | .identifying .drawing backoff => some (.draw backoff.ceiling)
  | .identifying (.sleeping delay) _ => some (.sleep delay)
  | .opening _ => some (.call (.openWindow window))
  | .subscribing _ => some (.call (.subscribe window))
  | .acquiring _ _ => some (.call (.openLayer window setup.settings.layerName))
  | .highlighting _ _ _ .reading => some (.call (.readText window))
  | .highlighting attempt _ _ (.annotating text) =>
    some (.call (.annotate window attempt.language text))
  | .highlighting _ layer _ (.applying spans) => (layer.applyCall? spans).map .call
  | .startingReader _ _ stream => some (.startReader stream)
  | .watching _ _ debouncer => some (.watch debouncer.deadline)
  | .stoppingReader _ _ _ => some .stopReader
  | .cleaning _ layer outcome => (outcome.cleanupCall? layer).map .call
  | .drawing attempt => some (.draw attempt.backoff.ceiling)
  | .sleeping _ delay => some (.sleep delay)
  | .ended _ => none

def afterAttempt (attempt : Attempt) : Outcome → Phase
  | .streamEnded => .ended .streamEnded
  | .windowGone => .ended .windowGone
  | .cancelled => .ended .cancelled
  | .failed _ => .drawing attempt

def finishAttempt (attempt : Attempt) (layer : StyleLayer) (outcome : Outcome) : Phase :=
  if layer.isPresent then .cleaning attempt layer outcome else afterAttempt attempt outcome

def abandon (attempt : Attempt) (layer : StyleLayer) (round : Round) (outcome : Outcome) : Phase :=
  match round with
  | .initial _ => finishAttempt attempt layer outcome
  | .debounced _ => .stoppingReader attempt layer outcome

def highlighted (attempt : Attempt) (layer : StyleLayer) : Round → Phase
  | .initial stream =>
    .startingReader { attempt with backoff := attempt.backoff.reset } layer stream
  | .debounced debouncer => .watching attempt layer debouncer

def identified (setup : Setup) : Option LanguageId → Phase
  | some language => .opening ⟨language, setup.settings.backoff⟩
  | none => .ended .noLanguage

def start (setup : Setup) (window : Window) : Session :=
  match setup.resolver.ofFilename? window.name with
  | some language => ⟨window, .opening ⟨language, setup.settings.backoff⟩⟩
  | none => ⟨window, .identifying .opening setup.settings.backoff⟩

def identify? (setup : Setup) (backoff : Backoff) : LineStep → Answer → Option Phase
  | .opening, .reply .opened => some (.identifying .reading backoff)
  | .reading, .reply (.firstLine line) =>
    some (identified setup (setup.resolver.ofInterpreterLine? line))
  | .opening, .reply (.editorFailed error) => some (failure error)
  | .reading, .reply (.editorFailed error) => some (failure error)
  | .drawing, .delay nanos => some (.identifying (.sleeping nanos) backoff.advance)
  | .sleeping _, .slept => some (.identifying .opening backoff)
  | .opening, .cancelled | .reading, .cancelled | .sleeping _, .cancelled =>
    some (.ended .cancelled)
  | _, _ => none
where
  failure : EditorError → Phase
    | .windowGone _ => .ended .windowGone
    | _ => .identifying .drawing backoff

def highlight? (setup : Setup) (attempt : Attempt) (layer : StyleLayer) (round : Round) :
    HighlightStep → Answer → Option Phase
  | .reading, .reply (.text text) => some (.highlighting attempt layer round (.annotating text))
  | .reading, .reply (.editorFailed error) =>
    some (abandon attempt layer round (.ofError (.editor error)))
  | .annotating text, .reply (.captures captures) =>
    some (.highlighting attempt layer round (.applying (compose captures text setup.styles)))
  | .applying _, .reply .done => some (highlighted attempt layer round)
  | .applying _, .reply (.compositorFailed error) =>
    some (abandon attempt layer round (.ofError (.compositor error)))
  | _, .cancelled => some (abandon attempt layer round .cancelled)
  | _, _ => none

def watch? (attempt : Attempt) (layer : StyleLayer) (debouncer : Debouncer) (now : Nat) :
    Answer → Option Phase
  | .fired => some (.highlighting attempt layer (.debounced debouncer.disarm) .reading)
  | .received (.edit _) => some (.watching attempt layer (debouncer.arm now).2)
  | .received (.failed error) =>
    some (.stoppingReader attempt layer (.ofError (.editor error)))
  | .received .closed => some (.stoppingReader attempt layer .streamEnded)
  | .cancelled => some (.stoppingReader attempt layer .cancelled)
  | _ => none

def next? (setup : Setup) (window : WindowId) (now : Nat) : Phase → Answer → Option Phase
  | .identifying step backoff, answer => identify? setup backoff step answer
  | .opening attempt, .reply .opened => some (.subscribing attempt)
  | .opening attempt, .reply (.editorFailed error) =>
    some (finishAttempt attempt (.absent window) (.ofError (.editor error)))
  | .opening attempt, .cancelled => some (finishAttempt attempt (.absent window) .cancelled)
  | .subscribing attempt, .reply (.subscribed stream) => some (.acquiring attempt stream)
  | .subscribing attempt, .reply (.editorFailed error) =>
    some (finishAttempt attempt (.absent window) (.ofError (.editor error)))
  | .subscribing attempt, .cancelled => some (finishAttempt attempt (.absent window) .cancelled)
  | .acquiring attempt stream, .reply (.layer key) =>
    some (.highlighting attempt (.acquired window key) (.initial stream) .reading)
  | .acquiring attempt _, .reply (.compositorFailed error) =>
    some (finishAttempt attempt (.absent window) (.ofError (.compositor error)))
  | .acquiring attempt _, .cancelled => some (finishAttempt attempt (.absent window) .cancelled)
  | .highlighting attempt layer round step, answer =>
    highlight? setup attempt layer round step answer
  | .startingReader attempt layer _, .readerStarted =>
    some (.watching attempt layer (.disarmed setup.settings.debounce))
  | .watching attempt layer debouncer, answer => watch? attempt layer debouncer now answer
  | .stoppingReader attempt layer outcome, .readerStopped =>
    some (finishAttempt attempt layer outcome)
  | .cleaning attempt _ outcome, .reply .done => some (afterAttempt attempt outcome)
  | .cleaning attempt _ outcome, .reply (.compositorFailed _) =>
    some (afterAttempt attempt outcome)
  | .cleaning attempt _ outcome, .givenUp => some (afterAttempt attempt outcome)
  | .drawing attempt, .delay nanos =>
    some (.sleeping { attempt with backoff := attempt.backoff.advance } nanos)
  | .sleeping attempt _, .slept => some (.opening attempt)
  | .sleeping _ _, .cancelled => some (.ended .cancelled)
  | _, _ => none

def step? (setup : Setup) (now : Nat) (session : Session) (answer : Answer) : Option Session :=
  (next? setup session.window.id now session.phase answer).map fun phase =>
    { session with phase := phase }

def hasEnded (session : Session) : Bool :=
  match session.phase with
  | .ended _ => true
  | _ => false

/-- The stream that the session itself holds, before a reader takes it over. -/
def stream? (session : Session) : Option StreamKey :=
  match session.phase with
  | .acquiring _ stream => some stream
  | .highlighting _ _ (.initial stream) _ => some stream
  | .startingReader _ _ stream => some stream
  | _ => none

end LiveHighlight.Session
