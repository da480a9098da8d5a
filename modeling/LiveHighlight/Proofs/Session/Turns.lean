import LiveHighlight.Session.Step

/-!
Every turn that a session can take.

An answer either carries an attempt on, or ends it with an outcome. `Turn` lists the turns, and
`next?` takes no others.
-/

namespace LiveHighlight.Session

def editorOutcome : EditorError → Outcome
  | .windowGone _ => .windowGone
  | error => .failed (.editor error)

def outcome? : Phase → Answer → Option Outcome
  | .opening _, .reply (.editorFailed error) => some (editorOutcome error)
  | .subscribing _, .reply (.editorFailed error) => some (editorOutcome error)
  | .acquiring _ _, .reply (.compositorFailed error) => some (.failed (.compositor error))
  | .highlighting _ _ _ .reading, .reply (.editorFailed error) => some (editorOutcome error)
  | .highlighting _ _ _ (.applying _), .reply (.compositorFailed error) =>
    some (.failed (.compositor error))
  | .watching _ _ _, .received (.failed error) => some (editorOutcome error)
  | .watching _ _ _, .received .closed => some .streamEnded
  | .opening _, .cancelled => some .cancelled
  | .subscribing _, .cancelled => some .cancelled
  | .acquiring _ _, .cancelled => some .cancelled
  | .highlighting _ _ _ _, .cancelled => some .cancelled
  | .watching _ _ _, .cancelled => some .cancelled
  | _, _ => none

def unwound (outcome : Outcome) : Phase → Phase
  | .highlighting attempt layer round _ => abandon attempt layer round outcome
  | .watching attempt layer _ => .stoppingReader attempt layer outcome
  | .opening attempt | .subscribing attempt | .acquiring attempt _ => afterAttempt attempt outcome
  | phase => phase

def lineFailed (backoff : Backoff) : EditorError → Phase
  | .windowGone _ => .ended .windowGone
  | _ => .identifying .drawing backoff

def Answer.settlesCleanup : Answer → Bool
  | .reply .done | .reply (.compositorFailed _) | .givenUp => true
  | _ => false

inductive Turn (setup : Setup) (window : WindowId) (now : Nat) : Phase → Answer → Phase → Prop
  | lineOpened {backoff} : Turn setup window now
      (.identifying .opening backoff) (.reply .opened) (.identifying .reading backoff)
  | lineRead {backoff line} : Turn setup window now
      (.identifying .reading backoff) (.reply (.firstLine line))
      (identified setup (setup.resolver.ofInterpreterLine? line))
  | lineFailed {step backoff error} (asks : step = .opening ∨ step = .reading) :
      Turn setup window now (.identifying step backoff) (.reply (.editorFailed error))
        (lineFailed backoff error)
  | lineDrawn {backoff nanos} : Turn setup window now
      (.identifying .drawing backoff) (.delay nanos)
      (.identifying (.sleeping nanos) backoff.advance)
  | lineSlept {delay backoff} : Turn setup window now
      (.identifying (.sleeping delay) backoff) .slept (.identifying .opening backoff)
  | lineCancelled {step backoff} (waits : step ≠ .drawing) : Turn setup window now
      (.identifying step backoff) .cancelled (.ended .cancelled)
  | opened {attempt} : Turn setup window now
      (.opening attempt) (.reply .opened) (.subscribing attempt)
  | subscribed {attempt stream} : Turn setup window now
      (.subscribing attempt) (.reply (.subscribed stream)) (.acquiring attempt stream)
  | acquired {attempt stream key} : Turn setup window now
      (.acquiring attempt stream) (.reply (.layer key))
      (.highlighting attempt (.acquired window key) (.initial stream) .reading)
  | textRead {attempt layer round text} : Turn setup window now
      (.highlighting attempt layer round .reading) (.reply (.text text))
      (.highlighting attempt layer round (.annotating text))
  | annotated {attempt layer round text captures} : Turn setup window now
      (.highlighting attempt layer round (.annotating text)) (.reply (.captures captures))
      (.highlighting attempt layer round (.applying (compose captures text setup.styles)))
  | applied {attempt layer round spans} : Turn setup window now
      (.highlighting attempt layer round (.applying spans)) (.reply .done)
      (highlighted attempt layer round)
  | readerStarted {attempt layer stream} : Turn setup window now
      (.startingReader attempt layer stream) .readerStarted
      (.watching attempt layer (.disarmed setup.settings.debounce))
  | fired {attempt layer debouncer} : Turn setup window now
      (.watching attempt layer debouncer) .fired
      (.highlighting attempt layer (.debounced debouncer.disarm) .reading)
  | edited {attempt layer debouncer kind} : Turn setup window now
      (.watching attempt layer debouncer) (.received (.edit kind))
      (.watching attempt layer (debouncer.arm now).2)
  | unwound {phase answer outcome} (reason : outcome? phase answer = some outcome) :
      Turn setup window now phase answer (unwound outcome phase)
  | readerStopped {attempt layer outcome} : Turn setup window now
      (.stoppingReader attempt layer outcome) .readerStopped (finishAttempt attempt layer outcome)
  | cleaned {attempt layer outcome answer} (settles : answer.settlesCleanup = true) :
      Turn setup window now (.cleaning attempt layer outcome) answer (afterAttempt attempt outcome)
  | drawn {attempt nanos} : Turn setup window now
      (.drawing attempt) (.delay nanos)
      (.sleeping { attempt with backoff := attempt.backoff.advance } nanos)
  | slept {attempt delay} : Turn setup window now
      (.sleeping attempt delay) .slept (.opening attempt)
  | sleepCancelled {attempt delay} : Turn setup window now
      (.sleeping attempt delay) .cancelled (.ended .cancelled)

theorem ofError_editor (error : EditorError) :
    Outcome.ofError (.editor error) = editorOutcome error := by
  cases error <;> rfl

theorem identify?_failure (backoff : Backoff) (error : EditorError) :
    identify?.failure backoff error = lineFailed backoff error := by
  cases error <;> rfl

section

variable {setup : Setup} {window : WindowId} {now : Nat} {next : Phase} {answer : Answer}

theorem turn_of_identify? {step : LineStep} {backoff : Backoff}
    (taken : identify? setup backoff step answer = some next) :
    Turn setup window now (.identifying step backoff) answer next := by
  unfold identify? at taken
  split at taken
  all_goals simp only [Option.some.injEq, reduceCtorEq] at taken
  all_goals subst taken
  · exact .lineOpened
  · exact .lineRead
  · exact identify?_failure _ _ ▸ .lineFailed (.inl rfl)
  · exact identify?_failure _ _ ▸ .lineFailed (.inr rfl)
  · exact .lineDrawn
  · exact .lineSlept
  · exact .lineCancelled (by simp)
  · exact .lineCancelled (by simp)
  · exact .lineCancelled (by simp)

theorem turn_of_highlight? {attempt : Attempt} {layer : StyleLayer} {round : Round}
    {step : HighlightStep} (taken : highlight? setup attempt layer round step answer = some next) :
    Turn setup window now (.highlighting attempt layer round step) answer next := by
  unfold highlight? at taken
  split at taken
  all_goals simp only [Option.some.injEq, reduceCtorEq] at taken
  all_goals subst taken
  · exact .textRead
  · exact .unwound (by rw [ofError_editor]; rfl)
  · exact .annotated
  · exact .applied
  · exact .unwound (by rfl)
  · exact .unwound (by cases step <;> rfl)

theorem turn_of_watch? {attempt : Attempt} {layer : StyleLayer} {debouncer : Debouncer}
    (taken : watch? attempt layer debouncer now answer = some next) :
    Turn setup window now (.watching attempt layer debouncer) answer next := by
  unfold watch? at taken
  split at taken
  all_goals simp only [Option.some.injEq, reduceCtorEq] at taken
  all_goals subst taken
  · exact .fired
  · exact .edited
  · exact .unwound (by rw [ofError_editor]; rfl)
  · exact .unwound (by rfl)
  · exact .unwound (by rfl)

theorem turn_of_next? {phase : Phase} (taken : next? setup window now phase answer = some next) :
    Turn setup window now phase answer next := by
  unfold next? at taken
  split at taken
  all_goals try simp only [Option.some.injEq, reduceCtorEq] at taken
  case h_1 => exact turn_of_identify? taken
  case h_11 => exact turn_of_highlight? taken
  case h_13 => exact turn_of_watch? taken
  all_goals subst taken
  · exact .opened
  · exact .unwound (by rw [ofError_editor]; rfl)
  · exact @Turn.unwound setup window now _ _ .cancelled rfl
  · exact .subscribed
  · exact .unwound (by rw [ofError_editor]; rfl)
  · exact @Turn.unwound setup window now _ _ .cancelled rfl
  · exact .acquired
  · exact @Turn.unwound setup window now _ _ (.failed _) rfl
  · exact @Turn.unwound setup window now _ _ .cancelled rfl
  · exact .readerStarted
  · exact .readerStopped
  · exact .cleaned rfl
  · exact .cleaned rfl
  · exact .cleaned rfl
  · exact .drawn
  · exact .slept
  · exact .sleepCancelled

theorem eq_unwound_of_turn {phase : Phase} {outcome : Outcome}
    (turn : Turn setup window now phase answer next) (ends : outcome? phase answer = some outcome) :
    next = unwound outcome phase := by
  cases turn with
  | unwound reason =>
      cases reason.symm.trans ends
      rfl
  | _ => cases ends

end

end LiveHighlight.Session
