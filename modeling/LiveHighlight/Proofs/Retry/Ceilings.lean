import LiveHighlight.Config.Load
import LiveHighlight.Proofs.Retry.Doubling

/-!
What bounds a retry delay, from above and from below.

A delay that is drawn lies under the ceiling shown before it, the ceiling lies under the cap, and
between two resets no ceiling is less than one before it. The settings of a configuration that was
loaded bound the ceiling from below as well: it starts at the base, and never falls under it.
-/

namespace LiveHighlight

/-! ### Draws -/

def Draws.IsFair (draws : Draws) : Prop :=
  ∀ share ∈ draws.shares, share.numerator ≤ share.denominator

theorem Draws.IsFair.share_le {draws : Draws} (fair : draws.IsFair) :
    draws.share.numerator ≤ draws.share.denominator := by
  unfold share
  cases found : draws.shares[draws.taken % draws.shares.length]? with
  | none => exact Nat.le_refl 1
  | some share => exact fair share (List.mem_of_getElem? found)

theorem Draws.IsFair.delay_le {draws : Draws} (fair : draws.IsFair) (ceiling : Nat) :
    (draws.delay ceiling).1 ≤ Backoff.drawLimit ceiling := by
  simp only [delay]
  split
  next => exact Nat.zero_le _
  next =>
    have most := Nat.mul_le_mul_left (Backoff.drawLimit ceiling) fair.share_le
    exact Nat.div_le_of_le_mul (by rwa [Nat.mul_comm draws.share.denominator])

theorem Draws.exists_fair_delay_iff (ceiling nanos : Nat) :
    (∃ draws : Draws, draws.IsFair ∧ (draws.delay ceiling).1 = nanos) ↔
      nanos ≤ Backoff.drawLimit ceiling := by
  constructor
  · rintro ⟨draws, fair, rfl⟩
    exact fair.delay_le ceiling
  · intro within
    refine ⟨⟨[⟨nanos, Backoff.drawLimit ceiling⟩], 0⟩, by simpa [IsFair] using within, ?_⟩
    by_cases empty : Backoff.drawLimit ceiling = 0
    · have zero : nanos = 0 := by omega
      simp [delay, empty, zero]
    · have positive : 0 < Backoff.drawLimit ceiling := by omega
      simp [delay, empty, share, Nat.mul_div_cancel_left nanos positive]

namespace Backoff

/-! ### Ceilings rise -/

theorem ceiling_le_of_attempt_le {first second : Backoff} (base : second.base = first.base)
    (cap : second.cap = first.cap) (more : first.attempt.toNat ≤ second.attempt.toNat) :
    first.ceiling ≤ second.ceiling := by
  have doubled : first.base <<< first.attempt.toNat ≤ first.base <<< second.attempt.toNat := by
    rw [Nat.shiftLeft_eq, Nat.shiftLeft_eq]
    exact Nat.mul_le_mul_left _ (Nat.pow_le_pow_right (by decide) more)
  unfold ceiling
  rw [base, cap]
  -- a doubling that can still be told was told before; else the later ceiling is the cap
  by_cases told : second.attempt.toNat < 32 ∧ first.base <<< second.attempt.toNat ≤ longestSpan
  · rw [if_pos told, if_pos ⟨by omega, by omega⟩]
    omega
  · rw [if_neg told]
    split
    next => exact Nat.min_le_right _ _
    next => exact Nat.le_refl _

theorem handedOut_append (events : List Event) {later : List Event} (noReset : .reset ∉ later) :
    handedOut (events ++ later) = handedOut events + later.length := by
  induction later using List.reverseRecOn with
  | nil => simp
  | append_singleton later event ih =>
      simp only [List.mem_append, List.mem_singleton, not_or] at noReset
      obtain rfl : event = .draw := by cases event <;> simp_all
      rw [← List.append_assoc, handedOut_draw, ih noReset.1, List.length_append]
      rfl

theorem ceiling_afterAll_le (base cap : Nat) (events : List Event) {later : List Event}
    (noReset : .reset ∉ later) :
    (afterAll base cap events).ceiling ≤ (afterAll base cap (events ++ later)).ceiling := by
  obtain ⟨sameBase, sameCap⟩ := settings_afterAll base cap events
  obtain ⟨laterBase, laterCap⟩ := settings_afterAll base cap (events ++ later)
  refine ceiling_le_of_attempt_le (laterBase.trans sameBase.symm) (laterCap.trans sameCap.symm) ?_
  rw [toNat_attempt_afterAll, toNat_attempt_afterAll, handedOut_append events noReset]
  omega

/-! ### Ceilings start at the base -/

theorem ceiling_fresh {base cap : Nat} (ordered : base ≤ cap) (told : base ≤ longestSpan) :
    (fresh base cap).ceiling = base := by
  have small : (fresh base cap).attempt.toNat < 32 ∧
      (fresh base cap).base <<< (fresh base cap).attempt.toNat ≤ longestSpan :=
    ⟨Nat.zero_lt_succ 31, told⟩
  rw [ceiling, if_pos small]
  exact Nat.min_eq_left ordered

theorem afterAll_reset (base cap : Nat) (events : List Event) :
    afterAll base cap (events ++ [.reset]) = fresh base cap := by
  obtain ⟨sameBase, sameCap⟩ := settings_afterAll base cap events
  rw [afterAll_concat, after, reset, sameBase, sameCap]
  rfl

theorem base_le_ceiling_afterAll {base cap : Nat} (ordered : base ≤ cap)
    (told : base ≤ longestSpan) (events : List Event) :
    base ≤ (afterAll base cap events).ceiling := by
  obtain ⟨sameBase, sameCap⟩ := settings_afterAll base cap events
  have start := @ceiling_le_of_attempt_le (fresh base cap) _ sameBase sameCap (Nat.zero_le _)
  rwa [ceiling_fresh ordered told] at start

end Backoff

/-! ### Settings that were loaded -/

namespace Config

theorem lt_of_millis? {value : Toml.Value} {millis : Nat} (read : millis? value = some millis) :
    millis < UInt64.size := by
  unfold millis? at read
  split at read
  next =>
    split at read
    next small => exact Option.some.inj read ▸ small
    next => cases read
  next => cases read

theorem fieldOr?_holds {α : Type} (holds : α → Prop) {fields : Fields} {name : String}
    {read? : Toml.Value → Option α} {other found : α} (preset : holds other)
    (reads : ∀ value read, read? value = some read → holds read)
    (field : fieldOr? fields name read? other = some found) : holds found := by
  unfold fieldOr? at field
  split at field
  next value _ => exact reads value found field
  next => exact Option.some.inj field ▸ preset

theorem backoffBase_lt_of_timing? {value : Toml.Value} {timing : Timing}
    (read : timing? value = some timing) : timing.backoffBase < UInt64.size := by
  simp only [timing?, bind, Option.bind_eq_some_iff, pure, Option.some.injEq] at read
  obtain ⟨fields, _, debounce, _, base, found, cap, _, rfl⟩ := read
  have preset : Timing.default.backoffBase < UInt64.size := by decide
  exact fieldOr?_holds (· < UInt64.size) preset (fun _ _ => lt_of_millis?) found

theorem backoffBase_lt_of_read? {text : String} {config : Config}
    (read : read? text = some config) : config.timing.backoffBase < UInt64.size := by
  obtain ⟨entries, _, fields⟩ := Option.bind_eq_some_iff.mp read
  simp only [ofFields?, bind, Option.bind_eq_some_iff, pure, Option.some.injEq] at fields
  obtain ⟨_, _, _, _, _, _, _, _, _, _, timing, found, _, _, _, _, rfl⟩ := fields
  have preset : Config.default.timing.backoffBase < UInt64.size := by decide
  exact fieldOr?_holds (·.backoffBase < UInt64.size) preset
    (fun _ _ => backoffBase_lt_of_timing?) found

theorem backoffBase_of_load {tree : FileTree} {path : String} {config : Config}
    (loaded : load tree path = .ok config) :
    0 < config.settings.backoffBase ∧
      config.settings.backoffBase ≤ config.settings.backoffCap ∧
      config.settings.backoffBase ≤ longestSpan := by
  obtain ⟨_, positive, ordered⟩ := invalid?_eq_none_iff.mp (invalid?_of_load loaded)
  obtain ⟨_, _, read, _⟩ := load_eq_ok_iff.mp loaded
  have small := backoffBase_lt_of_read? read
  simp only [settings, Clock.ofMillis, Clock.nanosPerMilli, longestSpan, UInt64.size] at *
  omega

end Config

namespace Backoff

/-- Whatever delays were drawn and however often the backoff was reset: the count is that of the
delays since the last reset, as far as it goes; a delay is at most the ceiling shown before it, and
any delay up to the limit of a draw can be drawn; the ceiling is at most the cap, and no delay
lowers it. With the settings of a configuration that was loaded the ceiling is the base at first
and after a reset, and it is never less, so that it is positive. -/
theorem delays_within_rising_ceilings (base cap : Nat) (events : List Event) :
    (afterAll base cap events).attempt.toNat = min (handedOut events) (2 ^ 32 - 1) ∧
    (∀ draws : Draws, draws.IsFair →
      (draws.delay (afterAll base cap events).ceiling).1 ≤ (afterAll base cap events).ceiling) ∧
    (∀ nanos, (∃ draws : Draws, draws.IsFair ∧
        (draws.delay (afterAll base cap events).ceiling).1 = nanos) ↔
      nanos ≤ min (afterAll base cap events).ceiling (2 ^ 64 - 1)) ∧
    (afterAll base cap events).ceiling ≤ cap ∧
    (∀ later : List Event, .reset ∉ later →
      (afterAll base cap events).ceiling ≤ (afterAll base cap (events ++ later)).ceiling) ∧
    ∀ (tree : FileTree) (path : String) (config : Config), Config.load tree path = .ok config →
      base = config.settings.backoffBase → cap = config.settings.backoffCap →
        config.settings.backoff.ceiling = base ∧
        (afterAll base cap (events ++ [.reset])).ceiling = base ∧
        base ≤ (afterAll base cap events).ceiling ∧ 0 < (afterAll base cap events).ceiling := by
  refine ⟨toNat_attempt_afterAll base cap events, ?_, ?_, ?_, ?_, ?_⟩
  · intro draws fair
    exact Nat.le_trans (fair.delay_le _) (drawLimit_le _)
  · intro nanos
    exact Draws.exists_fair_delay_iff _ nanos
  · have under := ceiling_le_cap (afterAll base cap events)
    rwa [(settings_afterAll base cap events).2] at under
  · intro later noReset
    exact ceiling_afterAll_le base cap events noReset
  · rintro tree path config loaded rfl rfl
    obtain ⟨positive, ordered, told⟩ := Config.backoffBase_of_load loaded
    have lower := base_le_ceiling_afterAll ordered told events
    refine ⟨ceiling_fresh ordered told, ?_, lower, Nat.lt_of_lt_of_le positive lower⟩
    rw [afterAll_reset]
    exact ceiling_fresh ordered told

def shortTiming : FileTree :=
  .ofEntries "/t" [("config.toml", some (Utf8.encode
    "[timing]\nbackoff_base_ms = 50\nbackoff_cap_ms = 120\n".toList))]

def shortConfig : Config :=
  { Config.default with timing := ⟨200, 50, 120⟩ }

theorem load_shortTiming : Config.load shortTiming "/t/config.toml" = .ok shortConfig :=
  Config.load_eq_ok_of_toOption (by decide +kernel)

theorem delays_within_rising_ceilings_shortTiming :
    Config.load shortTiming "/t/config.toml" = .ok shortConfig ∧
      (⟨[⟨1, 2⟩], 0⟩ : Draws).IsFair ∧
      (afterAll (Clock.ofMillis 50) (Clock.ofMillis 120) [.draw, .draw]).attempt.toNat = 2 ∧
      ((⟨[⟨1, 2⟩], 0⟩ : Draws).delay
          (afterAll (Clock.ofMillis 50) (Clock.ofMillis 120) [.draw, .draw]).ceiling).1 ≤
        (afterAll (Clock.ofMillis 50) (Clock.ofMillis 120) [.draw, .draw]).ceiling ∧
      (afterAll (Clock.ofMillis 50) (Clock.ofMillis 120) [.draw, .draw]).ceiling ≤
        (afterAll (Clock.ofMillis 50) (Clock.ofMillis 120) ([.draw, .draw] ++ [.draw])).ceiling ∧
      shortConfig.settings.backoff.ceiling = Clock.ofMillis 50 ∧
      (afterAll (Clock.ofMillis 50) (Clock.ofMillis 120) ([.draw, .draw] ++ [.reset])).ceiling =
        Clock.ofMillis 50 ∧
      Clock.ofMillis 50 ≤
        (afterAll (Clock.ofMillis 50) (Clock.ofMillis 120) [.draw, .draw]).ceiling := by
  have half : (⟨[⟨1, 2⟩], 0⟩ : Draws).IsFair := by simp [Draws.IsFair]
  obtain ⟨count, within, _, _, rises, loaded⟩ :=
    delays_within_rising_ceilings (Clock.ofMillis 50) (Clock.ofMillis 120) [.draw, .draw]
  obtain ⟨first, again, lower, _⟩ := loaded _ _ _ load_shortTiming rfl rfl
  exact ⟨load_shortTiming, half, count, within _ half, rises [.draw] (by decide), first, again,
    lower⟩

end Backoff
end LiveHighlight
