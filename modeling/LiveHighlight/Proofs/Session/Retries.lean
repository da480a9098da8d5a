import LiveHighlight.Proofs.Retry.Doubling
import LiveHighlight.Proofs.Session.Endings
import LiveHighlight.Proofs.Session.Unwinding
import Mathlib

/-!
Retries of attempts.

An attempt that fails is followed by one delay and another attempt. The backoff counts the failures
since the last first highlight that succeeded, and the delay is drawn under the ceiling for the
count before.
-/

namespace LiveHighlight

/-- The ceiling of the delay after a failure that `failures` others came before. -/
def Settings.ceilingAfter (settings : Settings) (failures : Nat) : Nat :=
  if failures < 32 ∧ settings.backoffBase * 2 ^ failures ≤ longestSpan then
    min (settings.backoffBase * 2 ^ failures) settings.backoffCap
  else settings.backoffCap

namespace Backoff

/-- A backoff has handed out so many delays since its last reset. The count stops at the largest
number of thirty-two bits. -/
def Counts (settings : Settings) (backoff : Backoff) (failures : Nat) : Prop :=
  backoff.base = settings.backoffBase ∧ backoff.cap = settings.backoffCap ∧
    backoff.attempt.toNat = min failures (2 ^ 32 - 1)

variable {settings : Settings} {backoff : Backoff} {failures : Nat}

theorem counts_fresh (settings : Settings) : Counts settings settings.backoff 0 :=
  ⟨rfl, rfl, rfl⟩

theorem Counts.reset (counts : Counts settings backoff failures) :
    Counts settings backoff.reset 0 :=
  ⟨counts.1, counts.2.1, rfl⟩

theorem Counts.advance (counts : Counts settings backoff failures) :
    Counts settings backoff.advance (failures + 1) := by
  obtain ⟨base, cap, count⟩ := counts
  refine ⟨base, cap, ?_⟩
  rw [toNat_attempt_advance, count]
  omega

theorem Counts.ceiling (counts : Counts settings backoff failures) :
    backoff.ceiling = settings.ceilingAfter failures := by
  obtain ⟨base, cap, count⟩ := counts
  unfold Backoff.ceiling Settings.ceilingAfter
  by_cases few : failures < 32
  · have same : backoff.attempt.toNat = failures := by omega
    rw [same, base, cap, Nat.shiftLeft_eq]
  · have many : ¬ backoff.attempt.toNat < 32 := by omega
    rw [if_neg (fun both => many both.1), if_neg (fun both => few both.1), cap]

end Backoff

namespace Session

def Answer.error? : Answer → Option SessionError
  | .reply (.editorFailed error) | .received (.failed error) => some (.editor error)
  | .reply (.compositorFailed error) => some (.compositor error)
  | _ => none

def Phase.isAttempt : Phase → Bool
  | .opening _ | .subscribing _ | .acquiring _ _ | .highlighting _ _ _ _
  | .startingReader _ _ _ | .watching _ _ _ => true
  | _ => false

def failure? (phase : Phase) (answer : Answer) : Option SessionError :=
  if phase.isAttempt then answer.error?.filter (!·.isWindowGone) else none

def Outcome.error? : Outcome → Option SessionError
  | failed error => some error
  | streamEnded | windowGone | cancelled => none

theorem error?_editorOutcome (error : EditorError) :
    (editorOutcome error).error? =
      (some (SessionError.editor error)).filter (!·.isWindowGone) := by
  cases error <;> rfl

theorem failure?_of_turn {setup : Setup} {window : WindowId} {now : Nat} {phase later : Phase}
    {answer : Answer} (turn : Turn setup window now phase answer later) :
    failure? phase answer = (outcome? phase answer).bind Outcome.error? := by
  cases turn with
  | @unwound phase answer outcome reason =>
      rw [reason, Option.bind_some]
      unfold outcome? at reason
      split at reason
      case h_1 | h_2 | h_4 | h_6 =>
        cases reason
        exact (error?_editorOutcome _).symm
      case h_13 => cases reason
      all_goals
        cases reason
        rfl
  | _ => rfl

end Session

namespace Duo

open Session (Answer Outcome Phase Request Turn)

def Moment.failure? (moment : Moment) : Option SessionError :=
  match moment.act with
  | .answer answer => Session.failure? moment.duo.session.phase answer
  | _ => none

def Moment.isFirstHighlight (moment : Moment) : Bool :=
  match moment.duo.session.phase, moment.act with
  | .highlighting _ _ (.initial _) (.applying _), .answer (.reply .done) => true
  | _, _ => false

def failures (moments : List Moment) : Nat :=
  (since Moment.isFirstHighlight moments).countP (·.failure?.isSome)

theorem failures_concat (moments : List Moment) (moment : Moment) :
    failures (moments ++ [moment]) =
      if moment.isFirstHighlight then 0
      else failures moments + if moment.failure?.isSome then 1 else 0 := by
  unfold failures
  rw [since_concat]
  split
  next => rfl
  next => rw [List.countP_append, List.countP_singleton]

theorem failures_of_no_answer (moments : List Moment) {moment : Moment}
    (other : ∀ answer, moment.act ≠ .answer answer) :
    failures (moments ++ [moment]) = failures moments := by
  have quiet : moment.failure? = none := by
    unfold Moment.failure?
    split
    next answer same => exact absurd same (other answer)
    next => rfl
  have still : moment.isFirstHighlight = false := by
    unfold Moment.isFirstHighlight
    split
    next same => exact absurd same (other _)
    next => rfl
  rw [failures_concat, still, quiet]
  rfl

def Owes (settings : Settings) (moments : List Moment) (attempt : Session.Attempt) : Prop :=
  ∃ before, failures moments = before + 1 ∧ attempt.backoff.Counts settings before

/-- The backoff of an attempt has counted the failures; that which ended the attempt is counted as
its delay is drawn. -/
def Tally (settings : Settings) (moments : List Moment) : Phase → Prop
  | .identifying _ _ => failures moments = 0
  | .opening attempt | .subscribing attempt | .acquiring attempt _ | .highlighting attempt _ _ _
  | .startingReader attempt _ _ | .watching attempt _ _ | .sleeping attempt _ =>
    attempt.backoff.Counts settings (failures moments)
  | .stoppingReader attempt _ outcome | .cleaning attempt _ outcome =>
    ∀ error, outcome = .failed error → Owes settings moments attempt
  | .drawing attempt => Owes settings moments attempt
  | .ended _ => True

section

variable {setup : Setup} {settings : Settings} {moments : List Moment} {attempt : Session.Attempt}
  {outcome : Outcome}

theorem tally_afterAttempt
    (owes : ∀ error, outcome = .failed error → Owes settings moments attempt) :
    Tally settings moments (Session.afterAttempt attempt outcome) := by
  cases outcome with
  | failed error => exact owes error rfl
  | _ => trivial

theorem tally_finishAttempt (layer : StyleLayer)
    (owes : ∀ error, outcome = .failed error → Owes settings moments attempt) :
    Tally settings moments (Session.finishAttempt attempt layer outcome) := by
  unfold Session.finishAttempt
  split
  next => exact owes
  next => exact tally_afterAttempt owes

end

section

variable {setup : Setup} {window : WindowId} {now : Nat} {moments : List Moment} {moment : Moment}
  {phase later : Phase} {answer : Answer}

theorem failures_answer (at_phase : moment.duo.session.phase = phase)
    (answered : moment.act = .answer answer) :
    failures (moments ++ [moment]) =
      if moment.isFirstHighlight then 0
      else failures moments + if (Session.failure? phase answer).isSome then 1 else 0 := by
  rw [failures_concat, Moment.failure?, answered, at_phase]

theorem isFirstHighlight_of_outcome? {outcome : Outcome}
    (at_phase : moment.duo.session.phase = phase) (answered : moment.act = .answer answer)
    (ends : Session.outcome? phase answer = some outcome) : moment.isFirstHighlight = false := by
  unfold Moment.isFirstHighlight
  rw [at_phase, answered]
  split
  next same =>
    cases same
    cases ends
  next => rfl

theorem tally_unwound {outcome : Outcome} (tally : Tally setup.settings moments phase)
    (at_phase : moment.duo.session.phase = phase) (answered : moment.act = .answer answer)
    (turn : Turn setup window now phase answer later)
    (ends : Session.outcome? phase answer = some outcome) :
    Tally setup.settings (moments ++ [moment]) (Session.unwound outcome phase) := by
  have failed := Session.failure?_of_turn turn
  rw [ends, Option.bind_some] at failed
  have owes : ∀ {attempt : Session.Attempt},
      attempt.backoff.Counts setup.settings (failures moments) → ∀ error,
      outcome = .failed error → Owes setup.settings (moments ++ [moment]) attempt := by
    rintro attempt counts error rfl
    refine ⟨failures moments, ?_, counts⟩
    rw [failures_answer at_phase answered, isFirstHighlight_of_outcome? at_phase answered ends,
      failed]
    rfl
  cases phase with
  | opening | subscribing | acquiring => exact tally_afterAttempt (owes tally)
  | highlighting attempt layer round step =>
      cases round with
      | initial stream => exact tally_finishAttempt layer (owes tally)
      | debounced debouncer => exact owes tally
  | watching => exact owes tally
  | _ => cases ends

theorem Tally.turn (tally : Tally setup.settings moments phase)
    (at_phase : moment.duo.session.phase = phase) (answered : moment.act = .answer answer)
    (turn : Turn setup window now phase answer later) :
    Tally setup.settings (moments ++ [moment]) later := by
  have counted := @failures_answer moments moment phase answer at_phase answered
  unfold Moment.isFirstHighlight at counted
  rw [at_phase, answered] at counted
  have unchanged : failures (moments ++ [moment]) = failures moments → ∀ {attempt},
      Owes setup.settings moments attempt →
      Owes setup.settings (moments ++ [moment]) attempt := by
    rintro same attempt ⟨before, owed, counts⟩
    exact ⟨before, same.trans owed, counts⟩
  have whole := turn
  cases turn with
  | unwound reason => exact tally_unwound tally at_phase answered whole reason
  | @applied attempt layer round spans =>
      cases round with
      | initial stream =>
          change Backoff.Counts _ _ _
          rw [counted]
          exact tally.reset
      | debounced debouncer =>
          change Backoff.Counts _ _ _
          rw [counted]
          exact tally
  | @lineRead backoff line =>
      unfold Session.identified
      split
      next language _ =>
        change Backoff.Counts _ _ _
        rw [counted]
        change Backoff.Counts _ _ (failures moments)
        rw [show failures moments = 0 from tally]
        exact Backoff.counts_fresh _
      next => trivial
  | @lineFailed step backoff error asks =>
      cases error with
      | windowGone window => trivial
      | unavailable | io | malformed => exact counted.trans tally
  | readerStopped =>
      exact tally_finishAttempt _ fun error same => unchanged counted (tally error same)
  | cleaned => exact tally_afterAttempt fun error same => unchanged counted (tally error same)
  | @drawn attempt nanos =>
      obtain ⟨before, owed, counts⟩ := tally
      change Backoff.Counts _ _ _
      rw [counted]
      change Backoff.Counts _ _ (failures moments)
      rw [owed]
      exact counts.advance
  | lineCancelled | sleepCancelled => trivial
  | lineOpened | lineDrawn | lineSlept => exact counted.trans tally
  | @textRead attempt layer round | @annotated attempt layer round =>
      cases round
      all_goals
        change Backoff.Counts _ _ _
        rw [counted]
        exact tally
  | _ =>
      change Backoff.Counts _ _ _
      rw [counted]
      exact tally

end

theorem Tally.congr {settings : Settings} {moments more : List Moment} {phase : Phase}
    (tally : Tally settings moments phase) (same : failures more = failures moments) :
    Tally settings more phase := by
  unfold Tally Owes at *
  rwa [same]

theorem Run.tally {setup : Setup} {window : Window} {moments : List Moment} {duo : Duo}
    (run : Run setup window moments duo) : Tally setup.settings moments duo.session.phase := by
  induction run with
  | start =>
      unfold Duo.start Session.start
      split
      next => exact Backoff.counts_fresh _
      next => rfl
  | @step moments duo next now cancelled act earlier later taken tally =>
      cases change_of_step? taken with
      | answered asks admitted turn exchanged => exact tally.turn rfl rfl turn
      | begun =>
          rw [session_begin]
          exact tally.congr (failures_of_no_answer moments (by simp))
      | took | passed | quit => exact tally.congr (failures_of_no_answer moments (by simp))

/-! ### After a failure -/

def requests (setup : Setup) (moments : List Moment) : List Request :=
  moments.filterMap (Moment.request? setup)

def windsUp : Request → Bool
  | .stopReader => true
  | .call call => call.isCleanup
  | _ => false

/-- The waits from a failure to the next attempt: the old one is wound up, a delay is drawn and
slept, and the window is opened. -/
def retry (windup : List Request) (ceiling delay : Nat) (window : WindowId) : List Request :=
  windup ++ [.draw ceiling, .sleep delay, .call (.openWindow window)]

/-- How far a retry has come while the window is not yet open again. -/
def Retrying (ceiling : Nat) (windup asked : List Request) (begun : Option Nat) : Phase → Prop
  | .stoppingReader attempt _ (.failed _) | .cleaning attempt _ (.failed _) =>
    attempt.backoff.ceiling = ceiling ∧ asked = windup
  | .drawing attempt => attempt.backoff.ceiling = ceiling ∧
      asked = windup ++ if begun.isSome then [.draw ceiling] else []
  | .sleeping _ delay => delay ≤ Backoff.drawLimit ceiling ∧
      asked = windup ++ .draw ceiling :: if begun.isSome then [.sleep delay] else []
  | .opening _ => begun = none ∧
      ∃ delay ≤ Backoff.drawLimit ceiling, asked = windup ++ [.draw ceiling, .sleep delay]
  | .ended .cancelled => asked = windup ++ [.draw ceiling] ∨
      ∃ delay ≤ Backoff.drawLimit ceiling, asked = windup ++ [.draw ceiling, .sleep delay]
  | _ => False

def Retried (window : WindowId) (ceiling : Nat) (asked : List Request) (duo : Duo) : Prop :=
  ∃ windup : List Request, (∀ request ∈ windup, windsUp request = true) ∧
    (Retrying ceiling windup asked duo.begun duo.session.phase ∨
      ∃ delay ≤ Backoff.drawLimit ceiling, retry windup ceiling delay window <+: asked)

section

variable {setup : Setup} {now : Nat} {cancelled : Bool} {duo next : Duo} {act : Act}
  {ceiling : Nat} {asked : List Request}

theorem Retried.begun {window : WindowId} {request : Request}
    (known : duo.session.window.id = window) (retried : Retried window ceiling asked duo)
    (asks : duo.session.request? setup = some request) (fresh : duo.begun = none) :
    Retried window ceiling (asked ++ [request]) (duo.begin now request) := by
  obtain ⟨windup, winds, under_way | ⟨delay, bound, reopened⟩⟩ := retried
  · unfold Retried
    rw [session_begin, begun_begin]
    rw [fresh] at under_way
    have wound : windsUp request = true → ∀ other ∈ windup ++ [request], windsUp other = true := by
      intro here other member
      rcases List.mem_append.mp member with old | new
      · exact winds other old
      · rwa [List.mem_singleton.mp new]
    obtain ⟨⟨window, phase⟩, begun, mailbox, reader⟩ := duo
    cases phase with
    | stoppingReader attempt layer outcome =>
        cases outcome with
        | failed error =>
            cases asks
            obtain ⟨same, rfl⟩ := under_way
            exact ⟨asked ++ [.stopReader], wound rfl, .inl ⟨same, rfl⟩⟩
        | _ => cases under_way
    | cleaning attempt layer outcome =>
        cases outcome with
        | failed error =>
            obtain ⟨same, rfl⟩ := under_way
            refine ⟨asked ++ [request], wound ?_, .inl ⟨same, rfl⟩⟩
            simp only [Session.request?, Outcome.cleanupCall?, StyleLayer.deleteCall?,
              Option.map_map, Option.map_eq_some_iff] at asks
            obtain ⟨key, _, rfl⟩ := asks
            rfl
        | _ => cases under_way
    | drawing attempt =>
        cases asks
        obtain ⟨same, rfl⟩ := under_way
        subst same
        exact ⟨windup, winds, .inl ⟨rfl, by simp⟩⟩
    | sleeping attempt delay =>
        cases asks
        obtain ⟨bound, rfl⟩ := under_way
        exact ⟨windup, winds, .inl ⟨bound, by simp⟩⟩
    | opening attempt =>
        cases asks
        obtain ⟨_, delay, bound, rfl⟩ := under_way
        subst known
        exact ⟨windup, winds, .inr ⟨delay, bound, by simp [retry]⟩⟩
    | ended ending => cases asks
    | _ => cases under_way
  · exact ⟨windup, winds, .inr ⟨delay, bound, reopened.trans (List.prefix_append ..)⟩⟩

theorem Retrying.answered {windup : List Request}
    (under_way : Retrying ceiling windup asked duo.begun duo.session.phase) {request : Request}
    {answer : Answer} {phase : Phase} (asks : duo.session.request? setup = some request)
    (admitted : duo.admits now cancelled request answer = true)
    (turn : Turn setup duo.session.window.id now duo.session.phase answer phase) :
    Retrying ceiling windup asked none phase := by
  have waits := @begun_of_admits now cancelled duo request answer
  obtain ⟨⟨window, before⟩, begun, mailbox, reader⟩ := duo
  change Retrying ceiling windup asked begun before at under_way
  change Turn setup window.id now before answer phase at turn
  cases before with
  | stoppingReader attempt layer outcome =>
      cases outcome with
      | failed error =>
          cases turn with
          | unwound reason => cases reason
          | readerStopped =>
              unfold Session.finishAttempt
              split
              next => exact under_way
              next => exact ⟨under_way.1, by simp [under_way.2]⟩
      | _ => cases under_way
  | cleaning attempt layer outcome =>
      cases outcome with
      | failed error =>
          cases turn with
          | unwound reason => cases reason
          | cleaned settles => exact ⟨under_way.1, by simp [under_way.2]⟩
      | _ => cases under_way
  | drawing attempt =>
      cases turn with
      | unwound reason => cases reason
      | @drawn attempt nanos =>
          cases asks
          obtain ⟨since, begun, possible⟩ := waits (by simp) admitted
          obtain ⟨rfl, rfl⟩ := under_way
          cases begun
          exact ⟨by simpa [isPossible] using possible, rfl⟩
  | sleeping attempt delay =>
      obtain ⟨bound, rfl⟩ := under_way
      cases turn with
      | unwound reason => cases reason
      | slept =>
          obtain ⟨since, begun, _⟩ := waits (by simp) admitted
          cases begun
          exact ⟨rfl, delay, bound, rfl⟩
      | sleepCancelled =>
          cases begun with
          | none => exact .inl rfl
          | some since => exact .inr ⟨delay, bound, rfl⟩
  | opening attempt =>
      obtain ⟨rfl, delay, bound, rfl⟩ := under_way
      by_cases other : answer = .cancelled
      · subst other
        cases turn with
        | unwound reason =>
            cases reason
            exact .inr ⟨delay, bound, rfl⟩
      · obtain ⟨since, begun, _⟩ := waits other admitted
        cases begun
  | ended ending => cases asks
  | _ => cases under_way

theorem Retried.answered {window : WindowId} (retried : Retried window ceiling asked duo)
    {request : Request} {answer : Answer} {phase : Phase} {mailbox : Mailbox}
    {reader : Option Reader} (asks : duo.session.request? setup = some request)
    (admitted : duo.admits now cancelled request answer = true)
    (turn : Turn setup duo.session.window.id now duo.session.phase answer phase) :
    Retried window ceiling asked ⟨⟨duo.session.window, phase⟩, none, mailbox, reader⟩ := by
  obtain ⟨windup, winds, under_way | reopened⟩ := retried
  · exact ⟨windup, winds, .inl (under_way.answered asks admitted turn)⟩
  · exact ⟨windup, winds, .inr reopened⟩

theorem requests_concat (setup : Setup) (moments : List Moment) (moment : Moment) :
    requests setup (moments ++ [moment]) =
      requests setup moments ++ (moment.request? setup).toList := by
  cases found : moment.request? setup <;> simp [requests, List.filterMap_append, found]

theorem Retried.step {window : WindowId} {moments : List Moment}
    (retried : Retried window ceiling (requests setup moments) duo)
    (known : duo.session.window.id = window) (change : Change setup now cancelled duo act next) :
    Retried window ceiling (requests setup (moments ++ [⟨now, cancelled, duo, act⟩])) next := by
  rw [requests_concat]
  cases change with
  | @begun request asks fresh clear =>
      rw [Moment.request?, asks]
      exact retried.begun known asks fresh
  | answered asks admitted turn exchanged =>
      rw [Moment.request?, Option.toList_none, List.append_nil]
      exact retried.answered asks admitted turn
  | took | passed | quit =>
      rw [Moment.request?, Option.toList_none, List.append_nil]
      exact retried

theorem retrying_finishAttempt {attempt : Session.Attempt} (layer : StyleLayer)
    (error : SessionError) (same : attempt.backoff.ceiling = ceiling) :
    Retrying ceiling [] [] none (Session.finishAttempt attempt layer (.failed error)) := by
  unfold Session.finishAttempt
  split
  next => exact ⟨same, rfl⟩
  next => exact ⟨same, rfl⟩

theorem retried_of_failure {moments : List Moment} {moment : Moment} {error : SessionError}
    (tally : Tally setup.settings moments moment.duo.session.phase)
    (fails : moment.failure? = some error)
    (change : Change setup moment.now moment.cancelled moment.duo moment.act next)
    (window : WindowId) :
    Retried window (setup.settings.ceilingAfter (failures moments)) [] next := by
  obtain ⟨now, cancelled, duo, act⟩ := moment
  cases change with
  | begun | took | passed | quit => cases fails
  | @answered request answer phase mailbox reader asks admitted turn exchanged =>
      change Session.failure? duo.session.phase answer = some error at fails
      rw [Session.failure?_of_turn turn, Option.bind_eq_some_iff] at fails
      obtain ⟨outcome, ends, failed⟩ := fails
      obtain ⟨error, rfl⟩ : ∃ error, outcome = .failed error := by
        cases outcome with
        | failed error => exact ⟨error, rfl⟩
        | _ => cases failed
      rw [Session.eq_unwound_of_turn turn ends]
      refine ⟨[], by simp, .inl ?_⟩
      cases before : duo.session.phase with
      | opening | subscribing | acquiring =>
          rw [before] at tally
          exact ⟨tally.ceiling, rfl⟩
      | highlighting attempt layer round step =>
          rw [before] at tally
          cases round with
          | initial stream => exact retrying_finishAttempt layer error tally.ceiling
          | debounced debouncer => exact ⟨tally.ceiling, rfl⟩
      | watching =>
          rw [before] at tally
          exact ⟨tally.ceiling, rfl⟩
      | _ =>
          rw [before] at ends
          cases ends

end

/-- What follows a failure, as far as the run has come: a retry that goes on by itself, one that
cancellation has ended, or one that has opened the window again. -/
def FollowsFailure (setup : Setup) (window : WindowId) (ceiling : Nat) (asked : List Request)
    (duo : Duo) : Prop :=
  ∃ windup delay, (∀ request ∈ windup, windsUp request = true) ∧
    delay ≤ Backoff.drawLimit ceiling ∧
    ((asked <+: retry windup ceiling delay window ∧
        ∀ cancelled, Comes setup cancelled (Resumes setup cancelled) duo) ∨
      (asked = windup ++ [.draw ceiling] ∨ asked = windup ++ [.draw ceiling, .sleep delay]) ∧
        duo.session.phase = .ended .cancelled ∨
      retry windup ceiling delay window <+: asked)

theorem followsFailure_of_retried {setup : Setup} {window : WindowId} {ceiling : Nat}
    {asked : List Request} {duo : Duo} (sound : duo.IsSound)
    (retried : Retried window ceiling asked duo) :
    FollowsFailure setup window ceiling asked duo := by
  obtain ⟨windup, winds, under_way | ⟨delay, bound, reopened⟩⟩ := retried
  · have early : ∀ {delay begins},
        (∀ cancelled, Comes setup cancelled (Resumes setup cancelled) duo) →
        delay ≤ Backoff.drawLimit ceiling → asked = windup ++ begins →
        begins <+: [.draw ceiling, .sleep delay, .call (.openWindow window)] →
        FollowsFailure setup window ceiling asked duo := by
      rintro delay begins comes bound rfl begins_with
      exact ⟨windup, delay, winds, bound,
        .inl ⟨(List.prefix_append_right_inj windup).mpr begins_with, comes⟩⟩
    cases phase : duo.session.phase with
    | stoppingReader attempt layer outcome =>
        rw [phase] at under_way
        cases outcome with
        | failed error =>
            exact early (fun cancelled => comes_of_stopping sound phase) (Nat.zero_le _)
              (under_way.2.trans (List.append_nil _).symm) List.nil_prefix
        | _ => cases under_way
    | cleaning attempt layer outcome =>
        obtain ⟨key, rfl⟩ := sound.layer_held layer (by rw [phase]; rfl)
        rw [phase] at under_way
        cases outcome with
        | failed error =>
            exact early (fun cancelled => comes_of_cleaning phase) (Nat.zero_le _)
              (under_way.2.trans (List.append_nil _).symm) List.nil_prefix
        | _ => cases under_way
    | drawing attempt =>
        rw [phase] at under_way
        refine early (fun cancelled => comes_of_drawing phase) (Nat.zero_le _) under_way.2 ?_
        cases duo.begun <;> simp
    | sleeping attempt delay =>
        rw [phase] at under_way
        refine early (fun cancelled => comes_of_sleeping phase) under_way.1 under_way.2 ?_
        cases duo.begun <;> simp
    | opening attempt =>
        rw [phase] at under_way
        obtain ⟨fresh, delay, bound, same⟩ := under_way
        exact early (fun cancelled => comes_of_opening phase fresh) bound same (by simp)
    | ended ending =>
        rw [phase] at under_way
        cases ending with
        | cancelled =>
            rcases under_way with same | ⟨delay, bound, same⟩
            · exact ⟨windup, 0, winds, Nat.zero_le _, .inr (.inl ⟨.inl same, phase⟩)⟩
            · exact ⟨windup, delay, winds, bound, .inr (.inl ⟨.inr same, phase⟩)⟩
        | _ => cases under_way
    | _ =>
        rw [phase] at under_way
        cases under_way
  · exact ⟨windup, delay, winds, bound, .inr (.inr reopened)⟩

theorem answered_of_cleaning {setup : Setup} {now : Nat} {cancelled : Bool} {duo next : Duo}
    {answer : Answer} {attempt : Session.Attempt} {layer : StyleLayer} {outcome : Outcome}
    (sound : duo.IsSound) (cleans : duo.session.phase = .cleaning attempt layer outcome)
    (taken : duo.step? setup now cancelled (.answer answer) = some next) :
    next = ⟨⟨duo.session.window, Session.afterAttempt attempt outcome⟩, none, .shut, none⟩ := by
  cases change_of_step? taken with
  | @answered request _ phase mailbox reader asks admitted turn exchanged =>
      rw [cleans] at turn
      cases turn with
      | unwound reason => cases reason
      | cleaned settles =>
          obtain ⟨rfl, rfl⟩ :=
            exchange?_plain (Session.Answer.isPlain_of_settlesCleanup settles) exchanged
          have fits := sound.fits
          rw [cleans] at fits
          rw [fits.1, fits.2]

/-- A session ends for want of a language, with its stream, with its window, or by cancellation.
Every other failure of an attempt is followed by one delay, drawn under the ceiling for the
failures since the last first highlight, and by an attempt anew unless cancellation comes before.
Nothing that becomes of a cleanup call changes this. -/
theorem retry_discipline (setup : Setup) (window : Window) (moments : List Moment) (duo : Duo)
    (run : Run setup window moments duo) :
    (∀ ending, duo.session.phase = .ended ending →
      Reason setup (recent setup moments) ending) ∧
    (∀ before moment error after, moments = before ++ moment :: after →
      moment.failure? = some error →
      FollowsFailure setup window.id (setup.settings.ceilingAfter (failures before))
        (requests setup after) duo) ∧
    (∀ attempt layer outcome, duo.session.phase = .cleaning attempt layer outcome →
      ∀ now cancelled answer next,
        duo.step? setup now cancelled (.answer answer) = some next →
        next = ⟨⟨window, Session.afterAttempt attempt outcome⟩, none, .shut, none⟩) := by
  refine ⟨run.traced.ended, ?_, ?_⟩
  · rintro before moment error after rfl fails
    refine followsFailure_of_retried run.isSound ?_
    refine run.from_moment
      (motive := fun after duo => Retried window.id _ (requests setup after) duo)
      (fun next change => retried_of_failure run.upTo.1.tally fails change window.id) ?_
    rintro after duo ⟨now, cancelled, duo, act⟩ next run retried rfl change
    exact retried.step (congrArg Window.id run.session_window) change
  · intro attempt layer outcome cleans now cancelled answer next taken
    rw [answered_of_cleaning run.isSound cleans taken, run.session_window]

def opensLate : List Act :=
  replied (.editorFailed (.unavailable "restarting")) ++
    [.begin, .answer (.delay 0), .begin, .answer .slept, .begin]

theorem retry_discipline_opensLate : ∃ moments duo, Run rustOnly ⟨1, "lib.rs"⟩ moments duo ∧
    FollowsFailure rustOnly 1 (Clock.ofMillis 200) (requests rustOnly (moments.drop 2)) duo :=
  have run := @run_of_replay? rustOnly ⟨1, "lib.rs"⟩ _ _ (promptly opensLate) rfl
  ⟨_, _, run, (retry_discipline rustOnly ⟨1, "lib.rs"⟩ _ _ run).2.1 [_] _
    (.editor (.unavailable "restarting")) _ rfl rfl⟩

end Duo
end LiveHighlight
