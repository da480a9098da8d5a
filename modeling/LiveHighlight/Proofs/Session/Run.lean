import LiveHighlight.Proofs.Session.Holding

/-!
Runs of a session and its reader.

A run records every act with the state in which it happened. Time does not go back, and once
everything is cancelled it stays so; otherwise the collaborators may reply with anything, at any
time or never, and cancellation may come at any moment.
-/

namespace LiveHighlight

theorem append_cons_eq_concat {α : Type} {before after all : List α} {item last : α}
    (split : before ++ item :: after = all ++ [last]) :
    (after = [] ∧ before = all ∧ item = last) ∨
      ∃ between, after = between ++ [last] ∧ before ++ item :: between = all := by
  rcases List.eq_nil_or_concat after with rfl | ⟨between, final, rfl⟩
  · obtain ⟨same, single⟩ := List.append_inj' split rfl
    exact .inl ⟨rfl, same, List.singleton_inj.mp single⟩
  · rw [List.concat_eq_append, ← List.cons_append, ← List.append_assoc] at split
    obtain ⟨shorter, single⟩ := List.append_inj' split rfl
    exact .inr ⟨between, by rw [List.concat_eq_append, List.singleton_inj.mp single], shorter⟩

def Call.layer? : Call → Option LayerKey
  | apply _ layer _ | clear _ layer | delete _ layer => some layer
  | _ => none

namespace Duo

open Session (Answer Outcome Request)

/-- An act as it happened: when, whether everything was cancelled by then, and in which state. -/
structure Moment where
  now : Nat
  cancelled : Bool
  duo : Duo
  act : Act
  deriving DecidableEq

inductive Run (setup : Setup) (window : Window) : List Moment → Duo → Prop
  | start : Run setup window [] (.start setup window)
  | step {moments duo next now cancelled act} (earlier : Run setup window moments duo)
      (later : ∀ moment ∈ moments, moment.now ≤ now ∧ (moment.cancelled = true → cancelled = true))
      (taken : duo.step? setup now cancelled act = some next) :
      Run setup window (moments ++ [⟨now, cancelled, duo, act⟩]) next

namespace Moment

def request? (setup : Setup) (moment : Moment) : Option Request :=
  match moment.act with
  | .begin => moment.duo.session.request? setup
  | _ => none

def call? (setup : Setup) (moment : Moment) : Option Call :=
  match moment.request? setup with
  | some (.call call) => some call
  | _ => none

def acquired? (moment : Moment) : Option LayerKey :=
  match moment.act with
  | .answer (.reply (.layer key)) => some key
  | _ => none

def released? (setup : Setup) (moment : Moment) : Option LayerKey :=
  match moment.act, moment.duo.session.request? setup with
  | .answer _, some (.call call) => if call.isCleanup then call.layer? else none
  | _, _ => none

def outcome? (moment : Moment) : Option Outcome :=
  match moment.act with
  | .answer answer => Session.outcome? moment.duo.session.phase answer
  | _ => none

def opens (setup : Setup) (moment : Moment) : Bool :=
  match moment.call? setup with
  | some (.openWindow _) | some (.subscribe _) | some (.openLayer _ _) => true
  | _ => false

end Moment

def since (holds : Moment → Bool) (moments : List Moment) : List Moment :=
  (moments.reverse.takeWhile fun moment => !holds moment).reverse

theorem since_concat (holds : Moment → Bool) (moments : List Moment) (moment : Moment) :
    since holds (moments ++ [moment]) =
      if holds moment then [] else since holds moments ++ [moment] := by
  unfold since
  rw [List.reverse_append, List.reverse_singleton, List.singleton_append, List.takeWhile_cons]
  cases holds moment <;> simp

theorem since_of_holds (holds : Moment → Bool) (before : List Moment) {moment : Moment}
    (here : holds moment = true) (after : List Moment)
    (never : ∀ later ∈ after, holds later = false) :
    since holds (before ++ moment :: after) = after := by
  unfold since
  rw [List.reverse_append, List.reverse_cons, List.append_assoc, List.takeWhile_append_of_pos]
  · simp [here]
  · simpa using never

theorem since_subset (holds : Moment → Bool) (moments : List Moment) :
    since holds moments ⊆ moments := by
  intro moment member
  have kept := List.mem_reverse.mp member
  exact List.mem_reverse.mp ((List.takeWhile_sublist _).subset kept)

section

variable {setup : Setup} {window : Window} {moments before after : List Moment} {duo : Duo}
  {moment : Moment}

theorem Run.session_window (run : Run setup window moments duo) : duo.session.window = window := by
  induction run with
  | start =>
      unfold Duo.start Session.start
      split <;> rfl
  | step earlier later taken known =>
      cases change_of_step? taken with
      | begun => rwa [session_begin]
      | answered | took | passed | quit => exact known

theorem Run.isSound (run : Run setup window moments duo) : duo.IsSound := by
  induction run with
  | start => exact isSound_start setup window
  | step earlier later taken sound => exact sound.step (change_of_step? taken)

theorem Run.upTo (run : Run setup window (before ++ moment :: after) duo) :
    Run setup window before moment.duo ∧
      (∀ earlier ∈ before, earlier.now ≤ moment.now ∧
        (earlier.cancelled = true → moment.cancelled = true)) ∧
      ∃ next, moment.duo.step? setup moment.now moment.cancelled moment.act = some next ∧
        Run setup window (before ++ [moment]) next := by
  generalize recorded : before ++ moment :: after = moments at run
  induction run generalizing after with
  | start => simp at recorded
  | @step moments duo next now cancelled act earlier later taken upTo =>
      rcases append_cons_eq_concat recorded with ⟨rfl, rfl, rfl⟩ | ⟨between, rfl, shorter⟩
      · exact ⟨earlier, later, next, taken, .step earlier later taken⟩
      · exact upTo shorter

theorem Run.from_moment {motive : List Moment → Duo → Prop}
    (run : Run setup window (before ++ moment :: after) duo)
    (first : ∀ next, Change setup moment.now moment.cancelled moment.duo moment.act next →
      motive [] next)
    (keeps : ∀ after duo later next, Run setup window (before ++ moment :: after) duo →
      motive after duo → later.duo = duo →
      Change setup later.now later.cancelled duo later.act next → motive (after ++ [later]) next) :
    motive after duo := by
  generalize recorded : before ++ moment :: after = moments at run
  induction run generalizing after with
  | start => simp at recorded
  | @step moments duo next now cancelled act earlier later taken holds =>
      rcases append_cons_eq_concat recorded with ⟨rfl, rfl, rfl⟩ | ⟨between, rfl, shorter⟩
      · exact first next (change_of_step? taken)
      · exact keeps between duo ⟨now, cancelled, duo, act⟩ next (shorter ▸ earlier)
          (holds shorter) rfl (change_of_step? taken)

end

theorem holding_of_opens {setup : Setup} {moment : Moment} (opens : moment.opens setup = true) :
    moment.duo.session.phase.holding = .nothing := by
  obtain ⟨now, cancelled, ⟨⟨window, phase⟩, begun, mailbox, reader⟩, act⟩ := moment
  cases act with
  | answer | take | pass | quit => cases opens
  | begin =>
      cases phase with
      | identifying | opening | subscribing | acquiring | drawing | sleeping | ended => rfl
      | highlighting attempt layer round step =>
          obtain ⟨owner, held⟩ := layer
          cases step <;> cases held <;> cases opens
      | cleaning attempt layer outcome =>
          obtain ⟨owner, held⟩ := layer
          cases outcome <;> cases held <;> cases opens
      | startingReader | watching | stoppingReader => cases opens

/-! ### Replays -/

structure Cue where
  now : Nat
  cancelled : Bool
  act : Act

def replayFrom? (setup : Setup) : List Moment → Duo → List Cue → Option (List Moment × Duo)
  | moments, duo, [] => some (moments, duo)
  | moments, duo, cue :: cues =>
    if moments.all fun moment => moment.now ≤ cue.now && (!moment.cancelled || cue.cancelled) then
      match duo.step? setup cue.now cue.cancelled cue.act with
      | none => none
      | some next =>
        replayFrom? setup (moments ++ [⟨cue.now, cue.cancelled, duo, cue.act⟩]) next cues
    else none

def replay? (setup : Setup) (window : Window) (cues : List Cue) : Option (List Moment × Duo) :=
  replayFrom? setup [] (.start setup window) cues

theorem run_of_replayFrom? {setup : Setup} {window : Window} {moments later : List Moment}
    {duo final : Duo} {cues : List Cue} (earlier : Run setup window moments duo)
    (replayed : replayFrom? setup moments duo cues = some (later, final)) :
    Run setup window later final := by
  induction cues generalizing moments duo with
  | nil =>
      simp only [replayFrom?, Option.some.injEq, Prod.mk.injEq] at replayed
      obtain ⟨rfl, rfl⟩ := replayed
      exact earlier
  | cons cue cues ih =>
      simp only [replayFrom?] at replayed
      split at replayed
      next ordered =>
        split at replayed
        next => cases replayed
        next next taken =>
          refine ih (.step earlier ?_ taken) replayed
          intro moment member
          have checked := List.all_eq_true.mp ordered moment member
          simp only [Bool.and_eq_true, decide_eq_true_eq, Bool.or_eq_true,
            Bool.not_eq_eq_eq_not, Bool.not_true] at checked
          refine ⟨checked.1, fun cancelled => ?_⟩
          rcases checked.2 with never | always
          · exact absurd cancelled (by simp [never])
          · exact always
      next => cases replayed

theorem run_of_replay? {setup : Setup} {window : Window} {moments : List Moment} {duo : Duo}
    {cues : List Cue} (replayed : replay? setup window cues = some (moments, duo)) :
    Run setup window moments duo :=
  run_of_replayFrom? .start replayed

def rustOnly : Setup :=
  ⟨⟨["rust"], [⟨fun _ => true, "rust"⟩], []⟩, .builtin, .default⟩

def replied (reply : Reply) : List Act :=
  [.begin, .answer (.reply reply)]

def attemptActs (stream : StreamKey) (layer : LayerKey) : List Act :=
  replied .opened ++ replied (.subscribed stream) ++ replied (.layer layer) ++
    replied (.text []) ++ replied (.captures [])

def closingActs : List Act :=
  [.begin, .answer .readerStarted, .take .ended, .pass, .pass, .begin, .answer (.received .closed),
    .begin, .answer .readerStopped]

def promptly (acts : List Act) : List Cue :=
  acts.map fun act => ⟨0, false, act⟩

end Duo
end LiveHighlight
