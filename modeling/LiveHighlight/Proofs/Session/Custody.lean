import LiveHighlight.Proofs.Session.Unwinding
import Mathlib.Data.List.TakeWhile

/-!
Custody of layers.

A layer that a session has acquired is its own until one cleanup call: spans may be applied to it
before, and nothing is asked of it afterwards. `Accounts` tells how far this has come in each
condition of a session, and every change keeps it.
-/

namespace LiveHighlight.Duo

open Session (Answer Handover Holding Outcome Phase Request Turn)

def acquired (moments : List Moment) : List LayerKey :=
  moments.filterMap Moment.acquired?

def released (setup : Setup) (moments : List Moment) : List LayerKey :=
  moments.filterMap (Moment.released? setup)

def layerCalls (setup : Setup) (moments : List Moment) : List Call :=
  (moments.filterMap (Moment.call? setup)).filter (·.layer?.isSome)

def firstOutcome? (moments : List Moment) : Option Outcome :=
  moments.findSome? Moment.outcome?

def acquires (moment : Moment) : Bool :=
  moment.acquired?.isSome

section

variable {setup : Setup} {moments : List Moment} {moment : Moment}

theorem acquired_concat (moments : List Moment) (moment : Moment) :
    acquired (moments ++ [moment]) = acquired moments ++ moment.acquired?.toList := by
  cases found : moment.acquired? <;> simp [acquired, List.filterMap_append, found]

theorem released_concat (setup : Setup) (moments : List Moment) (moment : Moment) :
    released setup (moments ++ [moment]) =
      released setup moments ++ (moment.released? setup).toList := by
  cases found : moment.released? setup <;> simp [released, List.filterMap_append, found]

theorem layerCalls_concat (setup : Setup) (moments : List Moment) (moment : Moment) :
    layerCalls setup (moments ++ [moment]) =
      layerCalls setup moments ++ layerCalls setup [moment] := by
  simp [layerCalls, List.filterMap_append]

theorem firstOutcome?_concat (moments : List Moment) (moment : Moment) :
    firstOutcome? (moments ++ [moment]) = (firstOutcome? moments).or moment.outcome? := by
  cases found : moment.outcome? <;> simp [firstOutcome?, List.findSome?_append, found]

theorem balance_concat (setup : Setup) (moments : List Moment)
    (acquisition : moment.acquired? = none)
    (release : moment.released? setup = none) :
    acquired (moments ++ [moment]) = acquired moments ∧
      released setup (moments ++ [moment]) = released setup moments ∧
      since acquires (moments ++ [moment]) = since acquires moments ++ [moment] := by
  refine ⟨?_, ?_, ?_⟩
  · rw [acquired_concat, acquisition, Option.toList_none, List.append_nil]
  · rw [released_concat, release, Option.toList_none, List.append_nil]
  · rw [since_concat, if_neg (by simp [acquires, acquisition])]

end

/-- The calls on a layer in a stretch of a run: spans are applied, and then cleanup calls follow.
The attempt has ended with `outcome`, or goes on. -/
def Kept (setup : Setup) (window : WindowId) (life : List Moment) (layer : LayerKey)
    (outcome : Option Outcome) (cleanups : List Call) : Prop :=
  firstOutcome? life = outcome ∧
    ∃ applied : List (List Span),
      layerCalls setup life = applied.map (.apply window layer) ++ cleanups

namespace Kept

variable {setup : Setup} {window : WindowId} {life : List Moment} {layer : LayerKey}
  {outcome : Option Outcome} {cleanups : List Call}

theorem new (setup : Setup) (window : WindowId) (layer : LayerKey) :
    Kept setup window [] layer none [] :=
  ⟨rfl, [], rfl⟩

theorem concat (kept : Kept setup window life layer outcome cleanups) (moment : Moment) :
    Kept setup window (life ++ [moment]) layer (outcome.or moment.outcome?)
      (cleanups ++ layerCalls setup [moment]) := by
  obtain ⟨ended, applied, calls⟩ := kept
  refine ⟨by rw [firstOutcome?_concat, ended], applied, ?_⟩
  rw [layerCalls_concat, calls, List.append_assoc]

theorem concat_apply (kept : Kept setup window life layer outcome []) {moment : Moment}
    {spans : List Span} (quiet : moment.outcome? = none)
    (call : layerCalls setup [moment] = [.apply window layer spans]) :
    Kept setup window (life ++ [moment]) layer outcome [] := by
  obtain ⟨ended, applied, calls⟩ := kept
  refine ⟨by rw [firstOutcome?_concat, ended, quiet, Option.or_none], applied ++ [spans], ?_⟩
  rw [layerCalls_concat, calls, call, List.map_append, List.append_nil, List.append_nil]
  rfl

end Kept

/-- The account of every layer acquired so far, by what the session holds: all of them are given
back but for one that it holds, and `life` are the moments since the last was acquired. -/
def Accounts (setup : Setup) (window : WindowId) (moments : List Moment) (begun : Option Nat)
    (hasEnded : Bool) : Holding → Prop
  | .nothing => acquired moments = released setup moments ∧
      (acquired moments = [] → layerCalls setup moments = []) ∧
      ∀ key, (acquired moments).getLast? = some key →
        ∃ outcome, Kept setup window (since acquires moments) key (some outcome)
            [cleanupCall window key outcome] ∧
          (hasEnded = false → ∃ error, outcome = .failed error)
  | .layer layer | .both layer => ∃ key, layer = .acquired window key ∧
      acquired moments = released setup moments ++ [key] ∧
      Kept setup window (since acquires moments) key none []
  | .stopping layer outcome => ∃ key, layer = .acquired window key ∧
      acquired moments = released setup moments ++ [key] ∧
      Kept setup window (since acquires moments) key (some outcome) []
  | .cleaning layer outcome => ∃ key, layer = .acquired window key ∧
      acquired moments = released setup moments ++ [key] ∧
      Kept setup window (since acquires moments) key (some outcome)
        (if begun.isSome then [cleanupCall window key outcome] else [])

inductive Asked (window : WindowId) : Holding → List Call → Prop
  | nothing : Asked window .nothing []
  | layer {key} : Asked window (.layer (.acquired window key)) []
  | both {key} : Asked window (.both (.acquired window key)) []
  | first {key spans} :
      Asked window (.layer (.acquired window key)) [.apply window key spans]
  | again {key spans} :
      Asked window (.both (.acquired window key)) [.apply window key spans]
  | stopping {layer outcome} : Asked window (.stopping layer outcome) []
  | cleaning {key outcome} : Asked window (.cleaning (.acquired window key) outcome)
      [cleanupCall window key outcome]

section

variable {setup : Setup} {now : Nat} {cancelled : Bool} {duo next : Duo} {act : Act}
  {moments : List Moment}

theorem layerCalls_begin {request : Request}
    (asks : duo.session.request? setup = some request) :
    layerCalls setup [⟨now, cancelled, duo, .begin⟩] =
      match request with
      | .call call => if call.layer?.isSome then [call] else []
      | _ => [] := by
  cases request with
  | call call =>
      cases held : call.layer? <;> simp [layerCalls, Moment.call?, Moment.request?, asks, held]
  | _ => simp [layerCalls, Moment.call?, Moment.request?, asks]

theorem asked_of_request? (now : Nat) (cancelled : Bool) (sound : duo.IsSound) {request : Request}
    (asks : duo.session.request? setup = some request) :
    Asked duo.session.window.id duo.session.phase.holding
      (layerCalls setup [⟨now, cancelled, duo, .begin⟩]) := by
  rw [layerCalls_begin asks]
  obtain ⟨⟨window, phase⟩, begun, mailbox, reader⟩ := duo
  have held : ∀ layer, phase.holding.layer? = some layer →
      ∃ key, layer = .acquired window.id key := sound.layer_held
  cases phase with
  | identifying step backoff =>
      cases step <;> cases asks <;> exact .nothing
  | opening | subscribing | acquiring | drawing | sleeping => cases asks; exact .nothing
  | highlighting attempt layer round step =>
      have same : ∃ key, layer = .acquired window.id key := by
        cases round <;> exact held layer rfl
      obtain ⟨key, rfl⟩ := same
      cases step <;> cases asks <;> cases round
      · exact .layer
      · exact .both
      · exact .layer
      · exact .both
      · exact .first
      · exact .again
  | startingReader attempt layer stream =>
      obtain ⟨key, rfl⟩ : ∃ key, layer = .acquired window.id key := held layer rfl
      cases asks
      exact .layer
  | watching attempt layer debouncer =>
      obtain ⟨key, rfl⟩ : ∃ key, layer = .acquired window.id key := held layer rfl
      cases asks
      exact .both
  | stoppingReader attempt layer outcome =>
      cases asks
      exact .stopping
  | cleaning attempt layer outcome =>
      obtain ⟨key, rfl⟩ : ∃ key, layer = .acquired window.id key := held layer rfl
      cases outcome <;> cases asks <;> exact .cleaning
  | ended ending => cases asks

theorem Accounts.quiet {window : WindowId} {begun : Option Nat} {hasEnded : Bool}
    {holding : Holding} (accounts : Accounts setup window moments begun hasEnded holding)
    {moment : Moment} (acquisition : moment.acquired? = none)
    (release : moment.released? setup = none) (calls : layerCalls setup [moment] = [])
    (goesOn : holding = .nothing ∨ moment.outcome? = none) :
    Accounts setup window (moments ++ [moment]) begun hasEnded holding := by
  obtain ⟨same, given, life⟩ := balance_concat setup moments acquisition release
  have keeps : ∀ {key outcome cleanups},
      Kept setup window (since acquires moments) key outcome cleanups →
      (moment.outcome? = none ∨ outcome.isSome = true) →
      Kept setup window (since acquires (moments ++ [moment])) key outcome cleanups := by
    intro key outcome cleanups kept known
    have longer := kept.concat moment
    rw [calls, List.append_nil] at longer
    rw [life]
    rcases known with silent | ended
    · rwa [silent, Option.or_none] at longer
    · rwa [Option.or_of_isSome ended] at longer
  cases holding with
  | nothing =>
      obtain ⟨settled, before, ends⟩ := accounts
      refine ⟨by rw [same, given, settled], fun none => ?_, fun key last => ?_⟩
      · rw [layerCalls_concat, calls, before (same ▸ none)]
        rfl
      · obtain ⟨outcome, kept, failed⟩ := ends key (same ▸ last)
        exact ⟨outcome, keeps kept (.inr rfl), failed⟩
  | layer layer | both layer | stopping layer outcome | cleaning layer outcome =>
      obtain ⟨key, held, owed, kept⟩ := accounts
      have silent := goesOn.resolve_left (by simp)
      exact ⟨key, held, by rw [same, given, owed], keeps kept (.inl silent)⟩

theorem Accounts.begun (accounts : Accounts setup duo.session.window.id moments duo.begun
      duo.session.hasEnded duo.session.phase.holding) (sound : duo.IsSound) {request : Request}
    (asks : duo.session.request? setup = some request) (fresh : duo.begun = none) :
    Accounts setup duo.session.window.id (moments ++ [⟨now, cancelled, duo, .begin⟩]) (some now)
      duo.session.hasEnded duo.session.phase.holding := by
  have asked := asked_of_request? now cancelled sound asks
  obtain ⟨same, given, life⟩ :=
    @balance_concat ⟨now, cancelled, duo, .begin⟩ setup moments rfl rfl
  rw [fresh] at accounts
  generalize called : layerCalls setup [⟨now, cancelled, duo, .begin⟩] = calls at asked
  generalize duo.session.phase.holding = holding at accounts asked ⊢
  cases asked with
  | nothing | layer | both | stopping => exact Accounts.quiet accounts rfl rfl called (.inr rfl)
  | first | again =>
      obtain ⟨key, held, owed, kept⟩ := accounts
      cases held
      refine ⟨_, rfl, by rw [same, given, owed], ?_⟩
      rw [life]
      exact kept.concat_apply rfl called
  | cleaning =>
      obtain ⟨key, held, owed, kept⟩ := accounts
      cases held
      refine ⟨_, rfl, by rw [same, given, owed], ?_⟩
      rw [life]
      have longer := kept.concat ⟨now, cancelled, duo, .begin⟩
      rw [called] at longer
      exact longer

theorem acquired?_answer {answer : Answer} (other : ∀ key, answer ≠ .reply (.layer key)) :
    Moment.acquired? ⟨now, cancelled, duo, .answer answer⟩ = none := by
  unfold Moment.acquired?
  split
  next key same =>
    cases same
    exact absurd rfl (other key)
  next => rfl

theorem released?_answer (now : Nat) (cancelled : Bool) (answer : Answer) (sound : duo.IsSound)
    {request : Request}
    (asks : duo.session.request? setup = some request) :
    Moment.released? setup ⟨now, cancelled, duo, .answer answer⟩ =
      match duo.session.phase.holding with
      | .cleaning layer _ => layer.held
      | _ => none := by
  obtain ⟨⟨window, phase⟩, begun, mailbox, reader⟩ := duo
  have held : ∀ layer, phase.holding.layer? = some layer →
      ∃ key, layer = .acquired window.id key := sound.layer_held
  cases phase with
  | identifying step backoff => cases step <;> rfl
  | opening | subscribing | acquiring | drawing | sleeping => rfl
  | highlighting attempt layer round step =>
      obtain ⟨key, rfl⟩ : ∃ key, layer = .acquired window.id key := by
        cases round <;> exact held layer rfl
      cases step <;> cases round <;> rfl
  | startingReader | watching | stoppingReader => rfl
  | cleaning attempt layer outcome =>
      obtain ⟨key, rfl⟩ : ∃ key, layer = .acquired window.id key := held layer rfl
      cases outcome <;> rfl
  | ended ending => cases asks

theorem hasEnded_of_turn {window : Window} {phase later : Phase} {answer : Answer}
    (turn : Turn setup window.id now phase answer later) :
    Session.hasEnded ⟨window, phase⟩ = false := by
  cases phase with
  | ended ending =>
      cases turn with
      | unwound reason => cases reason
  | _ => rfl

theorem failed_of_cleaned {window : Window} {phase later : Phase} {answer : Answer}
    {layer : StyleLayer} {outcome : Outcome} (turn : Turn setup window.id now phase answer later)
    (holds : phase.holding = .cleaning layer outcome)
    (goesOn : Session.hasEnded ⟨window, later⟩ = false) : ∃ error, outcome = .failed error := by
  obtain ⟨attempt, rfl⟩ := Phase.eq_cleaning holds
  cases turn with
  | unwound reason => cases reason
  | cleaned settles =>
      cases outcome with
      | failed error => exact ⟨error, rfl⟩
      | _ => cases goesOn

theorem Accounts.answered (accounts : Accounts setup duo.session.window.id moments duo.begun
      duo.session.hasEnded duo.session.phase.holding) (sound : duo.IsSound) {request : Request}
    {answer : Answer} {phase : Phase} (asks : duo.session.request? setup = some request)
    (admitted : duo.admits now cancelled request answer = true)
    (turn : Turn setup duo.session.window.id now duo.session.phase answer phase) :
    Accounts setup duo.session.window.id (moments ++ [⟨now, cancelled, duo, .answer answer⟩]) none
      (Session.hasEnded ⟨duo.session.window, phase⟩) phase.holding := by
  have handover := Session.handover_of_turn turn sound.isPresent
  have release := released?_answer now cancelled answer sound asks
  have others := @acquired?_answer now cancelled duo answer
  have going : duo.session.hasEnded = false := hasEnded_of_turn turn
  generalize named : (⟨now, cancelled, duo, .answer answer⟩ : Moment) = moment
    at release others ⊢
  have silent : layerCalls setup [moment] = [] := by subst named; rfl
  have ends : moment.outcome? = Session.outcome? duo.session.phase answer := by subst named; rfl
  rw [going] at accounts
  generalize before : duo.session.phase.holding = holding at accounts handover release
  generalize Session.outcome? duo.session.phase answer = outcome at handover ends
  generalize phase.holding = after at handover ⊢
  cases handover with
  | idle plain =>
      obtain ⟨settled, calls, kept⟩ := accounts.quiet (others (by rintro _ rfl; cases plain))
        release silent (.inl rfl)
      refine ⟨settled, calls, fun key last => ?_⟩
      obtain ⟨outcome, kept, failed⟩ := kept key last
      exact ⟨outcome, kept, fun _ => failed rfl⟩
  | @acquired key =>
      obtain ⟨settled, calls, kept⟩ := accounts
      have got : moment.acquired? = some key := by subst named; rfl
      refine ⟨key, rfl, ?_, ?_⟩
      · rw [acquired_concat, released_concat, got, release, settled]
        simp
      · rw [since_concat, if_pos (by simp [acquires, got])]
        exact Kept.new setup _ key
  | works plain | attends plain =>
      exact accounts.quiet (others (by grind [Answer.isPlain])) release silent (.inr ends)
  | started => exact accounts.quiet (others (by simp)) release silent (.inr ends)
  | stopped => exact accounts.quiet (others (by simp)) release silent (.inr ends)
  | failed plain | left plain =>
      obtain ⟨key, held, owed, kept⟩ := accounts
      obtain ⟨same, given, life⟩ := balance_concat setup moments
        (others (by grind [Answer.isPlain])) release
      refine ⟨key, held, by rw [same, given, owed], ?_⟩
      have longer := kept.concat moment
      rw [silent, ends] at longer
      rw [life]
      exact longer
  | @cleaned layer outcome _ settles =>
      obtain ⟨key, rfl, owed, kept⟩ := accounts
      obtain ⟨instant, waits, _⟩ := begun_of_admits (by rintro rfl; cases settles) admitted
      rw [waits] at kept
      change Kept _ _ _ key _ [cleanupCall duo.session.window.id key outcome] at kept
      have none : moment.acquired? = none := others (by rintro _ rfl; cases settles)
      have all : acquired (moments ++ [moment]) = released setup moments ++ [key] := by
        rw [acquired_concat, none, owed, Option.toList_none, List.append_nil]
      refine ⟨?_, fun empty => by simp [all] at empty, fun last found => ?_⟩
      · rw [all, released_concat, release]
        rfl
      · simp only [all, List.getLast?_concat, Option.some.injEq] at found
        subst found
        rw [since_concat, if_neg (by simp [acquires, none])]
        have longer := kept.concat moment
        rw [silent, ends] at longer
        exact ⟨outcome, longer, failed_of_cleaned turn before⟩

theorem Accounts.step (accounts : Accounts setup duo.session.window.id moments duo.begun
      duo.session.hasEnded duo.session.phase.holding) (sound : duo.IsSound)
    (change : Change setup now cancelled duo act next) :
    Accounts setup next.session.window.id (moments ++ [⟨now, cancelled, duo, act⟩]) next.begun
      next.session.hasEnded next.session.phase.holding := by
  cases change with
  | @begun request asks fresh clear =>
      rw [session_begin, begun_begin]
      exact accounts.begun sound asks fresh
  | answered asks admitted turn exchanged => exact accounts.answered sound asks admitted turn
  | took | passed | quit => exact accounts.quiet rfl rfl rfl (.inr rfl)

theorem Run.accounts {window : Window} (run : Run setup window moments duo) :
    Accounts setup window.id moments duo.begun duo.session.hasEnded duo.session.phase.holding := by
  induction run with
  | start =>
      unfold Duo.start Session.start
      split <;> exact ⟨rfl, fun _ => rfl, by simp [acquired]⟩
  | step earlier later taken accounts =>
      have known := earlier.session_window
      subst known
      have change := change_of_step? taken
      have kept := accounts.step earlier.isSound change
      rwa [(Run.step earlier later taken).session_window] at kept

end

/-! ### Whole runs -/

def life (moments : List Moment) : List Moment :=
  moments.takeWhile fun moment => !acquires moment

/-- While an attempt goes on there is no cleanup call. Once it has ended there is one, or it is
due as the next thing that the session asks for. -/
def Settled (setup : Setup) (window : WindowId) (layer : LayerKey) (duo : Duo) :
    Option Outcome → List Call → Prop
  | none, cleanups => cleanups = []
  | some outcome, cleanups => cleanups = [cleanupCall window layer outcome] ∨
      cleanups = [] ∧ IsDue setup duo (cleanupCall window layer outcome)

section

variable {setup : Setup} {window : Window} {duo : Duo} {before after : List Moment}
  {moment : Moment} {layer : LayerKey}

theorem acquires_of_mem_life (moments : List Moment) :
    ∀ moment ∈ life moments, acquires moment = false := by
  intro moment member
  simpa using List.mem_takeWhile_imp member

theorem life_cases (moments : List Moment) : life moments = moments ∨
    ∃ next rest, moments = life moments ++ next :: rest ∧ acquires next = true := by
  induction moments with
  | nil => exact .inl rfl
  | cons first moments ih =>
      cases here : acquires first with
      | true => exact .inr ⟨first, moments, by simp [life, here], here⟩
      | false =>
          have longer : life (first :: moments) = first :: life moments := by simp [life, here]
          rw [longer]
          rcases ih with all | ⟨next, rest, split, acquires⟩
          · exact .inl (by rw [all])
          · exact .inr ⟨next, rest, congrArg (first :: ·) split, acquires⟩

theorem acquired_eq_nil {moments : List Moment}
    (never : ∀ moment ∈ moments, acquires moment = false) : acquired moments = [] := by
  refine List.filterMap_eq_nil_iff.mpr fun moment member => ?_
  simpa [acquires] using never moment member

theorem layerCalls_of_unacquired {moments : List Moment} (run : Run setup window moments duo)
    (none : acquired moments = []) : layerCalls setup moments = [] := by
  have accounts := run.accounts
  cases holds : duo.session.phase.holding with
  | nothing =>
      rw [holds] at accounts
      exact accounts.2.1 none
  | layer | both | stopping | cleaning =>
      rw [holds] at accounts
      obtain ⟨key, _, owed, _⟩ := accounts
      simp [none] at owed

theorem acquired_of_last (got : moment.acquired? = some layer)
    (only : ∀ later ∈ after, acquires later = false) :
    acquired (before ++ moment :: after) = acquired before ++ [layer] := by
  have nothing := acquired_eq_nil only
  unfold acquired at nothing ⊢
  rw [List.filterMap_append, List.filterMap_cons_some got, nothing]

theorem settled_of_last (run : Run setup window (before ++ moment :: after) duo)
    (got : moment.acquired? = some layer) (only : ∀ later ∈ after, acquires later = false) :
    ∃ outcome cleanups, Kept setup window.id after layer outcome cleanups ∧
      Settled setup window.id layer duo outcome cleanups := by
  have accounts := run.accounts
  have sound := run.isSound
  have known := run.session_window
  have all : acquired (before ++ moment :: after) = acquired before ++ [layer] :=
    acquired_of_last got only
  have recent : since acquires (before ++ moment :: after) = after :=
    since_of_holds acquires before (by simp [acquires, got]) after only
  have last : ∀ {key keys}, acquired (before ++ moment :: after) = keys ++ [key] → key = layer :=
    fun owed => (List.cons.inj (List.append_inj' (all.symm.trans owed) rfl).2).1.symm
  cases holds : duo.session.phase.holding with
  | nothing =>
      rw [holds] at accounts
      obtain ⟨outcome, kept, _⟩ := accounts.2.2 layer (by rw [all, List.getLast?_concat])
      exact ⟨some outcome, _, recent ▸ kept, .inl rfl⟩
  | layer held | both held =>
      rw [holds] at accounts
      obtain ⟨key, rfl, owed, kept⟩ := accounts
      obtain rfl := last owed
      exact ⟨none, [], recent ▸ kept, rfl⟩
  | stopping held outcome =>
      rw [holds] at accounts
      obtain ⟨key, rfl, owed, kept⟩ := accounts
      obtain rfl := last owed
      obtain ⟨attempt, phase⟩ := Phase.eq_stoppingReader holds
      subst known
      exact ⟨some outcome, [], recent ▸ kept, .inr ⟨rfl, isDue_of_stopping sound phase⟩⟩
  | cleaning held outcome =>
      rw [holds] at accounts
      obtain ⟨key, rfl, owed, kept⟩ := accounts
      obtain rfl := last owed
      obtain ⟨attempt, phase⟩ := Phase.eq_cleaning holds
      subst known
      cases begun : duo.begun with
      | some since =>
          rw [begun] at kept
          exact ⟨some outcome, _, recent ▸ kept, .inl rfl⟩
      | none =>
          rw [begun] at kept
          exact ⟨some outcome, [], recent ▸ kept, .inr ⟨rfl, isDue_of_cleaning phase begun⟩⟩

theorem deleted_of_idle (run : Run setup window (before ++ moment :: after) duo)
    (got : moment.acquired? = some layer) (only : ∀ later ∈ after, acquires later = false)
    (idle : duo.session.phase.holding = .nothing) (goesOn : duo.session.hasEnded = false) :
    ∃ error, Kept setup window.id after layer (some (.failed error)) [.delete window.id layer] := by
  have accounts := run.accounts
  rw [idle] at accounts
  have all : acquired (before ++ moment :: after) = acquired before ++ [layer] :=
    acquired_of_last got only
  obtain ⟨outcome, kept, failed⟩ := accounts.2.2 layer (by rw [all, List.getLast?_concat])
  obtain ⟨error, rfl⟩ := failed goesOn
  rw [since_of_holds acquires before (by simp [acquires, got]) after only] at kept
  exact ⟨error, kept⟩

theorem holding_of_acquired {now : Nat} {cancelled : Bool} {next : Duo} {act : Act}
    (sound : duo.IsSound) (change : Change setup now cancelled duo act next)
    (got : Moment.acquired? ⟨now, cancelled, duo, act⟩ = some layer) :
    duo.session.phase.holding = .nothing ∧ duo.session.hasEnded = false := by
  cases change with
  | begun | took | passed | quit => cases got
  | @answered request answer phase mailbox reader asks admitted turn exchanged =>
      refine ⟨?_, hasEnded_of_turn turn⟩
      have handover := Session.handover_of_turn turn sound.isPresent
      generalize duo.session.phase.holding = holding at handover ⊢
      generalize Session.outcome? duo.session.phase answer = outcome at handover
      generalize phase.holding = later at handover
      cases handover with
      | idle | acquired => rfl
      | works plain | failed plain =>
          rw [acquired?_answer (by rintro _ rfl; cases plain)] at got
          cases got
      | attends plain | left plain =>
          rw [acquired?_answer (by grind [Answer.isPlain])] at got
          cases got
      | started | stopped => cases got
      | cleaned settles =>
          rw [acquired?_answer (by rintro _ rfl; cases settles)] at got
          cases got

theorem holding_of_hasEnded {session : Session} (ended : session.hasEnded = true) :
    session.phase.holding = .nothing := by
  unfold Session.hasEnded at ended
  split at ended
  next phase => rw [phase]; rfl
  next => cases ended

theorem IsSound.length_streams_le (sound : duo.IsSound) : duo.streams.length ≤ 1 := by
  obtain ⟨⟨window, phase⟩, begun, mailbox, reader⟩ := duo
  have alone : ∀ stream, Session.stream? ⟨window, phase⟩ = some stream → reader = none := by
    intro stream held
    have fits := sound.fits
    unfold Session.stream? at held
    split at held
    next same => cases same; exact fits.2
    next same => cases same; exact fits.2
    next same => cases same; exact fits.2
    next => cases held
  unfold streams
  cases held : Session.stream? ⟨window, phase⟩ with
  | some stream =>
      rw [alone stream held]
      simp
  | none => cases reader.filter (!·.isFinished) <;> simp

/-- Every layer of a run is cleaned up once, and with the last call that is made on it. At most one
layer and one stream are held at a time; before a window is opened, subscribed to or given a layer,
every layer that was held before has been given back. -/
theorem layer_custody (setup : Setup) (window : Window) (moments : List Moment) (duo : Duo)
    (run : Run setup window moments duo) :
    layerCalls setup (life moments) = [] ∧
    (∀ before moment layer after, moments = before ++ moment :: after →
      moment.acquired? = some layer →
      ∃ outcome cleanups, Kept setup window.id (life after) layer outcome cleanups ∧
        (life after = after → Settled setup window.id layer duo outcome cleanups) ∧
        (life after ≠ after → cleanups = [.delete window.id layer] ∧
          ∃ error, outcome = some (.failed error))) ∧
    (∀ before moment after, moments = before ++ moment :: after → moment.opens setup = true →
      acquired before = released setup before) ∧
    (∃ held : Option LayerKey, acquired moments = released setup moments ++ held.toList) ∧
    (duo.session.hasEnded = true → acquired moments = released setup moments) ∧
    duo.streams.length ≤ 1 := by
  refine ⟨?_, ?_, ?_, ?_, ?_, run.isSound.length_streams_le⟩
  · have unacquired := acquired_eq_nil (acquires_of_mem_life moments)
    rcases life_cases moments with all | ⟨next, rest, split, _⟩
    · exact layerCalls_of_unacquired (all.symm ▸ run) unacquired
    · rw [split] at run
      exact layerCalls_of_unacquired run.upTo.1 unacquired
  · rintro before moment layer after rfl got
    have only := acquires_of_mem_life after
    rcases life_cases after with all | ⟨next, rest, split, again⟩
    · rw [all] at only ⊢
      obtain ⟨outcome, cleanups, kept, settled⟩ := settled_of_last run got only
      exact ⟨outcome, cleanups, kept, fun _ => settled, fun more => absurd rfl more⟩
    · rw [split, ← List.cons_append, ← List.append_assoc] at run
      obtain ⟨earlier, _, later, taken, _⟩ := run.upTo
      obtain ⟨key, given⟩ := Option.isSome_iff_exists.mp again
      obtain ⟨idle, goesOn⟩ :=
        holding_of_acquired earlier.isSound (change_of_step? taken) given
      obtain ⟨error, kept⟩ := deleted_of_idle earlier got only idle goesOn
      -- the attempt of the next layer had to begin, so the one before has failed
      refine ⟨_, _, kept, fun whole => ?_, fun _ => ⟨rfl, error, rfl⟩⟩
      exact absurd (congrArg List.length (whole.trans split)) (by simp)
  · rintro before moment after rfl opens
    have accounts := run.upTo.1.accounts
    rw [holding_of_opens opens] at accounts
    exact accounts.1
  · have accounts := run.accounts
    cases holds : duo.session.phase.holding with
    | nothing =>
        rw [holds] at accounts
        exact ⟨none, by rw [accounts.1]; simp⟩
    | layer | both | stopping | cleaning =>
        rw [holds] at accounts
        obtain ⟨key, _, owed, _⟩ := accounts
        exact ⟨some key, owed⟩
  · intro ended
    have accounts := run.accounts
    rw [holding_of_hasEnded ended] at accounts
    exact accounts.1

end

def failsOnce : List Act :=
  attemptActs 1 7 ++ replied (.compositorFailed (.layerGone 7)) ++ replied .done ++
    [.begin, .answer (.delay 0), .begin, .answer .slept] ++
    attemptActs 2 8 ++ replied .done ++ closingActs ++ replied .done

theorem layer_custody_failsOnce : ∃ moments duo,
    Run rustOnly ⟨1, "lib.rs"⟩ moments duo ∧ duo.session.hasEnded = true ∧
      acquired moments = [7, 8] ∧ acquired moments = released rustOnly moments :=
  have run := @run_of_replay? rustOnly ⟨1, "lib.rs"⟩ _ _ (promptly failsOnce) rfl
  ⟨_, _, run, rfl, rfl, (layer_custody rustOnly ⟨1, "lib.rs"⟩ _ _ run).2.2.2.2.1 rfl⟩

end LiveHighlight.Duo
