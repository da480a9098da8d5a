import LiveHighlight.Proofs.Daemon.Service
import LiveHighlight.Proofs.Session.Retries
import Mathlib.Data.List.DropRight

/-!
What the daemon asks for, one request after another.

A connection ends when its subscription, its listing or its stream fails, and when its stream
ends. The backoff counts the ends since the last listing; that which a delay follows is counted as
the delay is drawn.
-/

namespace LiveHighlight
namespace Daemon

structure Exchange where
  request : Request
  answer : Answer
  deriving DecidableEq

namespace Exchange

def lists : Exchange → Bool
  | ⟨.call .listWindows, .reply (.windows _)⟩ => true
  | _ => false

def endsConnection : Exchange → Bool
  | ⟨.call _, .reply (.editorFailed _)⟩ | ⟨.nextWindow _, .arrived (.failed _)⟩
  | ⟨.nextWindow _, .arrived .ended⟩ => true
  | _ => false

def draws : Exchange → Bool
  | ⟨.draw _, .delay _⟩ => true
  | _ => false

end Exchange

def Request.isDraw : Request → Bool
  | .draw _ => true
  | _ => false

def Request.isSleep : Request → Bool
  | .sleep _ => true
  | _ => false

def Request.accepts : Request → Answer → Bool
  | .call .watchWindows, .reply (.events _) | .call .listWindows, .reply (.windows _)
  | .call _, .reply (.editorFailed _) | .start _, .started _ | .nextWindow _, .arrived _
  | .draw _, .delay _ | .sleep _, .slept | .drain, .drained => true
  | request, .cancelled => request.isCancellable
  | _, _ => false

def isPossible : Request → Answer → Bool
  | .draw ceiling, .delay nanos => nanos ≤ Backoff.drawLimit ceiling
  | _, _ => true

def connectionEnds (exchanges : List Exchange) : Nat :=
  (exchanges.rtakeWhile (!·.lists)).countP Exchange.endsConnection

theorem connectionEnds_concat (exchanges : List Exchange) (exchange : Exchange) :
    connectionEnds (exchanges ++ [exchange]) =
      if exchange.lists then 0
      else connectionEnds exchanges + if exchange.endsConnection then 1 else 0 := by
  unfold connectionEnds
  rw [List.rtakeWhile_concat]
  cases exchange.lists with
  | true => rfl
  | false => simp [List.countP_append, List.countP_singleton]

section

variable {phase next : Phase} {request : Request} {answer : Answer} {exchanges : List Exchange}

theorem exists_step? (asks : request? phase = some request)
    (accepted : request.accepts answer = true) : ∃ next, step? phase answer = some next := by
  cases phase with
  | subscribing | listing =>
      cases asks
      cases answer with
      | reply reply => cases reply <;> first | exact ⟨_, rfl⟩ | cases accepted
      | cancelled => exact ⟨_, rfl⟩
      | _ => cases accepted
  | following =>
      cases asks
      cases answer with
      | arrived arrival => cases arrival <;> exact ⟨_, rfl⟩
      | cancelled => exact ⟨_, rfl⟩
      | _ => cases accepted
  | done => cases asks
  | _ =>
      cases asks
      cases answer <;> first | exact ⟨_, rfl⟩ | cases accepted

theorem accepts_of_turn (asks : request? phase = some request) (turn : Turn phase answer next) :
    request.accepts answer = true := by
  cases turn with
  | cancelled asked waits =>
      cases asks.symm.trans asked
      cases request with
      | call called => cases called <;> rfl
      | _ => exact waits
  | _ =>
      cases asks
      rfl

theorem request?_startAll (backoff : Backoff) (stream : StreamKey) (windows : List Window) :
    (request? (startAll backoff stream windows)).toList.countP Request.isDraw = 0 ∧
      (request? (startAll backoff stream windows)).toList.countP Request.isSleep = 0 := by
  cases windows <;> exact ⟨rfl, rfl⟩

/-! ### Which ceiling a delay has -/

/-- The backoff has counted the ends of connections; that which is yet to be followed by a delay
is counted as the delay is drawn. -/
def Tally (settings : Settings) (exchanges : List Exchange) : Phase → Prop
  | .subscribing backoff | .listing backoff _ | .starting backoff _ _ _ | .following backoff _
  | .sleeping backoff _ => backoff.Counts settings (connectionEnds exchanges)
  | .drawing backoff =>
    ∃ before, connectionEnds exchanges = before + 1 ∧ backoff.Counts settings before
  | .draining | .done => True

theorem tally_startAll {settings : Settings} {backoff : Backoff} (stream : StreamKey)
    (windows : List Window) (counts : backoff.Counts settings (connectionEnds exchanges)) :
    Tally settings exchanges (startAll backoff stream windows) := by
  cases windows with
  | nil => exact counts
  | cons => exact counts

theorem Tally.turn {settings : Settings} (tally : Tally settings exchanges phase)
    (asks : request? phase = some request) (turn : Turn phase answer next) :
    Tally settings (exchanges ++ [⟨request, answer⟩]) next := by
  have counted := connectionEnds_concat exchanges ⟨request, answer⟩
  cases turn with
  | subscribed | arrived | slept =>
      cases asks
      change Backoff.Counts _ _ _
      rw [counted]
      exact tally
  | unsubscribed | unlisted | failed | ended =>
      cases asks
      exact ⟨_, counted, tally⟩
  | listed =>
      cases asks
      exact tally_startAll _ _ (counted ▸ tally.reset)
  | started =>
      cases asks
      exact tally_startAll _ _ (counted ▸ tally)
  -- the end that was owed is counted now
  | drawn =>
      cases asks
      obtain ⟨before, owed, counts⟩ := tally
      change Backoff.Counts _ _ _
      rw [counted]
      change Backoff.Counts _ _ (connectionEnds exchanges)
      rw [owed]
      exact counts.advance
  | cancelled | drained => trivial

/-! ### What follows the end of a connection -/

def Drains (exchanges : List Exchange) (pending : Option Request) : Prop :=
  exchanges = [] ∧ pending = some .drain ∨ exchanges = [⟨.drain, .drained⟩] ∧ pending = none

/-- A request is made. It is pending, or was cancelled, or the daemon goes on from the answer. -/
def Asks (request : Request) (goesOn : Answer → List Exchange → Option Request → Prop) :
    List Exchange → Option Request → Prop
  | [], pending => pending = some request
  | exchange :: later, pending => exchange.request = request ∧
    (exchange.answer = .cancelled ∧ Drains later pending ∨ goesOn exchange.answer later pending)

def Connects : List Exchange → Option Request → Prop :=
  Asks (.call .watchWindows) fun answer later pending =>
    (∃ error, answer = .reply (.editorFailed error)) ∨
      (∃ stream, answer = .reply (.events stream)) ∧
        Asks (.call .listWindows)
          (fun answer _ _ => (∃ error, answer = .reply (.editorFailed error)) ∨
            ∃ listed, answer = .reply (.windows listed))
          later pending

/-- One delay is drawn under a ceiling and slept, and then the daemon connects anew. -/
def Resumes (ceiling : Nat) : List Exchange → Option Request → Prop :=
  Asks (.draw ceiling) fun answer later pending =>
    ∃ delay, answer = .delay delay ∧ delay ≤ Backoff.drawLimit ceiling ∧
      Asks (.sleep delay) (fun answer later pending => answer = .slept ∧ Connects later pending)
        later pending

/-- What a relation says of the exchanges so far it says after each turn. -/
def Lasts (holds : List Exchange → Option Request → Prop) : Prop :=
  ∀ ⦃exchanges phase request answer next⦄, holds exchanges (request? phase) →
    request? phase = some request → isPossible request answer = true → Turn phase answer next →
    holds (exchanges ++ [⟨request, answer⟩]) (request? next)

theorem lasts_drains : Lasts Drains := by
  rintro exchanges phase request answer next (⟨rfl, pending⟩ | ⟨_, pending⟩) asks - turn
  · rw [pending] at asks
    cases asks
    cases turn with
    | drained => exact .inr ⟨rfl, rfl⟩
    | cancelled asks waits =>
        rw [pending] at asks
        cases asks
        cases waits
    | _ => cases pending
  · rw [pending] at asks
    cases asks

theorem drains_of_cancelled (turn : Turn phase .cancelled next) : Drains [] (request? next) := by
  cases turn with
  | cancelled => exact .inl ⟨rfl, rfl⟩

theorem Asks.lasts {goesOn : Answer → List Exchange → Option Request → Prop}
    (first : ∀ {phase answer next}, request? phase = some request →
      isPossible request answer = true → Turn phase answer next → answer ≠ .cancelled →
      goesOn answer [] (request? next))
    (later : ∀ answer, Lasts (goesOn answer)) : Lasts (Asks request goesOn) := by
  intro exchanges phase request answer next holds asks possible turn
  -- this turn answers the request, or the request was answered before
  cases exchanges with
  | nil =>
      cases holds.symm.trans asks
      refine ⟨rfl, ?_⟩
      by_cases cancelled : answer = .cancelled
      · subst cancelled
        exact .inl ⟨rfl, drains_of_cancelled turn⟩
      · exact .inr (first asks possible turn cancelled)
  | cons exchange exchanges =>
      obtain ⟨same, ⟨cancelled, drains⟩ | goes⟩ := holds
      · exact ⟨same, .inl ⟨cancelled, lasts_drains drains asks possible turn⟩⟩
      · exact ⟨same, .inr (later _ goes asks possible turn)⟩

theorem lasts_const (holds : Prop) : Lasts fun _ _ => holds :=
  fun _ _ _ _ _ holds _ _ _ => holds

theorem Lasts.or {holds others : List Exchange → Option Request → Prop} (lasts : Lasts holds)
    (last : Lasts others) :
    Lasts fun exchanges pending => holds exchanges pending ∨ others exchanges pending :=
  fun _ _ _ _ _ either asks possible turn =>
    either.imp (lasts · asks possible turn) (last · asks possible turn)

theorem Lasts.and {holds others : List Exchange → Option Request → Prop} (lasts : Lasts holds)
    (last : Lasts others) :
    Lasts fun exchanges pending => holds exchanges pending ∧ others exchanges pending :=
  fun _ _ _ _ _ both asks possible turn =>
    both.imp (lasts · asks possible turn) (last · asks possible turn)

theorem lasts_exists {α : Sort _} {holds : α → List Exchange → Option Request → Prop}
    (lasts : ∀ value, Lasts (holds value)) :
    Lasts fun exchanges pending => ∃ value, holds value exchanges pending :=
  fun _ _ _ _ _ ⟨value, known⟩ asks possible turn => ⟨value, lasts value known asks possible turn⟩

theorem lasts_connects : Lasts Connects := by
  have listing : Lasts (Asks (.call .listWindows) fun answer _ _ =>
      (∃ error, answer = .reply (.editorFailed error)) ∨
        ∃ listed, answer = .reply (.windows listed)) := by
    refine Asks.lasts ?_ fun answer => lasts_const _
    intro phase answer next asks possible turn goesOn
    cases turn with
    | listed => exact .inr ⟨_, rfl⟩
    | unlisted => exact .inl ⟨_, rfl⟩
    | cancelled => exact absurd rfl goesOn
    | _ => cases asks
  refine Asks.lasts ?_ fun answer => (lasts_const _).or ((lasts_const _).and listing)
  intro phase answer next asks possible turn goesOn
  cases turn with
  | subscribed => exact .inr ⟨⟨_, rfl⟩, rfl⟩
  | unsubscribed => exact .inl ⟨_, rfl⟩
  | cancelled => exact absurd rfl goesOn
  | _ => cases asks

theorem lasts_resumes (ceiling : Nat) : Lasts (Resumes ceiling) := by
  have sleeping : ∀ delay, Lasts (Asks (.sleep delay) fun answer later pending =>
      answer = .slept ∧ Connects later pending) := by
    intro delay
    refine Asks.lasts ?_ fun answer => (lasts_const _).and lasts_connects
    intro phase answer next asks possible turn goesOn
    cases turn with
    | slept => exact ⟨rfl, rfl⟩
    | cancelled => exact absurd rfl goesOn
    | _ => cases asks
  refine Asks.lasts ?_ fun answer =>
    lasts_exists fun delay => (lasts_const _).and ((lasts_const _).and (sleeping delay))
  intro phase answer next asks possible turn goesOn
  cases turn with
  | drawn => exact ⟨_, rfl, of_decide_eq_true possible, rfl⟩
  | cancelled => exact absurd rfl goesOn
  | _ => cases asks

theorem resumes_of_endsConnection {settings : Settings} (tally : Tally settings exchanges phase)
    (asks : request? phase = some request) (turn : Turn phase answer next)
    (ends : Exchange.endsConnection ⟨request, answer⟩ = true) :
    Resumes (settings.ceilingAfter (connectionEnds exchanges)) [] (request? next) := by
  have drawing : ∀ {backoff : Backoff},
      backoff.Counts settings (connectionEnds exchanges) →
      Resumes (settings.ceilingAfter (connectionEnds exchanges)) []
        (request? (.drawing backoff)) := by
    intro backoff counts
    exact congrArg (some ∘ Request.draw) counts.ceiling
  cases turn with
  | unsubscribed | unlisted | failed | ended => exact drawing tally
  | cancelled => cases request <;> cases ends
  | _ =>
      cases asks
      cases ends

/-! ### How many delays there are -/

def asked (exchanges : List Exchange) (pending : Option Request) : List Request :=
  exchanges.map Exchange.request ++ pending.toList

/-- A delay is drawn for each end of a connection, and each delay that is drawn is slept. -/
def DelaysMatch (exchanges : List Exchange) (pending : Option Request) : Prop :=
  (asked exchanges pending).countP Request.isDraw = exchanges.countP Exchange.endsConnection ∧
    (asked exchanges pending).countP Request.isSleep = exchanges.countP Exchange.draws

theorem asked_concat (exchange : Exchange) (pending : Option Request) :
    asked (exchanges ++ [exchange]) pending =
      asked exchanges (some exchange.request) ++ pending.toList := by
  simp [asked]

theorem lasts_delaysMatch : Lasts DelaysMatch := by
  intro exchanges phase request answer next known asks possible turn
  rw [asks] at known
  have grown : ∀ holds : Request → Bool,
      (asked (exchanges ++ [⟨request, answer⟩]) (request? next)).countP holds =
        (asked exchanges (some request)).countP holds + (request? next).toList.countP holds := by
    intro holds
    rw [asked_concat, List.countP_append]
  unfold DelaysMatch
  rw [grown, grown, known.1, known.2, List.countP_append, List.countP_append]
  cases turn with
  | @listed backoff stream windows =>
      cases asks
      obtain ⟨draws, sleeps⟩ := request?_startAll backoff.reset stream windows
      exact ⟨congrArg _ draws, congrArg _ sleeps⟩
  | @started backoff stream window windows isNew =>
      cases asks
      obtain ⟨draws, sleeps⟩ := request?_startAll backoff stream windows
      exact ⟨congrArg _ draws, congrArg _ sleeps⟩
  | cancelled => cases request <;> exact ⟨rfl, rfl⟩
  | _ =>
      cases asks
      exact ⟨rfl, rfl⟩

end

end Daemon
end LiveHighlight
