import LiveHighlight.Claims
import Mathlib.Data.List.Nodup
import Mathlib.Data.List.Perm.Basic
import Mathlib.Logic.Relation

/-!
Keys and the claims on them.

Claims are taken through handles and dropped, handles are cloned and made anew, in any order. A
group of handles then holds exactly the keys of the live claims that were taken through one of its
handles, and there is one such claim for each key.
-/

namespace LiveHighlight

theorem holds_of_foldlM {σ ε : Type} {step? : σ → ε → Option σ} {motive : σ → Prop}
    (keeps : ∀ {state next event}, motive state → step? state event = some next → motive next)
    {events : List ε} {state final : σ} (first : motive state)
    (replayed : events.foldlM step? state = some final) : motive final := by
  induction events generalizing state with
  | nil =>
      cases replayed
      exact first
  | cons event events ih =>
      rw [List.foldlM_cons] at replayed
      obtain ⟨next, taken, replayed⟩ := Option.bind_eq_some_iff.mp replayed
      exact ih (keeps first taken) replayed

namespace Claims

/-! ### Groups and the keys in them -/

section

variable {κ : Type} (claims : Claims κ)

def HasHandle (handle : Nat) : Prop :=
  handle < claims.groups.length

theorem heldIn_modify {group : Nat} (known : group < claims.keys.length)
    (change : List κ → List κ) (other : Nat) :
    heldIn { claims with keys := claims.keys.modify group change } other =
      if other = group then change (claims.heldIn group) else claims.heldIn other := by
  simp only [heldIn, List.getElem?_modify]
  by_cases same : other = group
  · subst other
    simp [List.getElem?_eq_getElem known]
  · simp [same, Ne.symm same]

def withHandle (group : Nat) (keys : List (List κ)) : Claims κ :=
  ⟨claims.groups ++ [group], keys⟩

theorem groupOf_withHandle_of_known {handle : Nat} (known : claims.HasHandle handle) (group : Nat)
    (keys : List (List κ)) :
    (claims.withHandle group keys).groupOf handle = claims.groupOf handle := by
  simp [withHandle, groupOf, List.getElem?_append_left known]

theorem groupOf_withHandle_new (group : Nat) (keys : List (List κ)) :
    (claims.withHandle group keys).groupOf claims.groups.length = group := by
  simp [withHandle, groupOf]

theorem hasHandle_withHandle_iff {handle group : Nat} {keys : List (List κ)} :
    (claims.withHandle group keys).HasHandle handle ↔
      claims.HasHandle handle ∨ handle = claims.groups.length := by
  simp only [HasHandle, withHandle, List.length_append, List.length_singleton]
  omega

theorem claim?_eq_some_iff [DecidableEq κ] {claims later : Claims κ} {handle : Nat} {key : κ}
    {claim : Claim κ} : claims.claim? handle key = some (claim, later) ↔
      key ∉ claims.held handle ∧ claim = ⟨key, claims.groupOf handle⟩ ∧
        later = { claims with keys := claims.keys.modify (claims.groupOf handle) (key :: ·) } := by
  rw [← contains_iff]
  unfold claim?
  split
  next held => simp [held]
  next free => simp [free, eq_comm]

end

variable {κ : Type}

/-! ### Use -/

inductive Event (κ : Type) where
  | claim (handle : Nat) (key : κ)
  | drop (place : Nat)
  | share (handle : Nat)
  | separate

structure Holding (κ : Type) where
  handle : Nat
  key : κ
  claim : Claim κ

structure Usage (κ : Type) where
  claims : Claims κ
  live : List (Holding κ)
  clones : List (Nat × Nat)

namespace Usage

def fresh : Usage κ :=
  ⟨.empty, [], []⟩

def step? [DecidableEq κ] (usage : Usage κ) : Event κ → Option (Usage κ)
  | .claim handle key =>
    if handle < usage.claims.groups.length then
      match usage.claims.claim? handle key with
      | none => some usage
      | some (claim, claims) => some ⟨claims, ⟨handle, key, claim⟩ :: usage.live, usage.clones⟩
    else none
  | .drop place =>
    usage.live[place]?.map fun holding =>
      ⟨usage.claims.drop holding.claim, usage.live.eraseIdx place, usage.clones⟩
  | .share handle =>
    if handle < usage.claims.groups.length then
      let (clone, claims) := usage.claims.share handle
      some ⟨claims, usage.live, (handle, clone) :: usage.clones⟩
    else none
  | .separate => some { usage with claims := usage.claims.separate.2 }

def run? [DecidableEq κ] (events : List (Event κ)) : Option (Usage κ) :=
  events.foldlM step? fresh

def IsClone (usage : Usage κ) (handle clone : Nat) : Prop :=
  (handle, clone) ∈ usage.clones

/-- Handles that are clones of each other, over any number of clones between them. -/
def Shares (usage : Usage κ) : Nat → Nat → Prop :=
  Relation.EqvGen usage.IsClone

/-- The live claim at `place` is on `key` and was taken through a handle that shares with
`handle`. -/
def HoldsFor (usage : Usage κ) (place handle : Nat) (key : κ) : Prop :=
  ∃ holding, usage.live[place]? = some holding ∧ holding.key = key ∧
    usage.Shares holding.handle handle

/-- The groups are the classes of sharing handles, and the keys in a group are those of the live
claims that belong to it. -/
structure IsSound (usage : Usage κ) : Prop where
  grouped : ∀ group ∈ usage.claims.groups, group < usage.claims.keys.length
  cloned : ∀ handle clone, usage.IsClone handle clone →
    usage.claims.HasHandle handle ∧ usage.claims.HasHandle clone ∧
      usage.claims.groupOf handle = usage.claims.groupOf clone
  joined : ∀ first second, usage.claims.HasHandle first → usage.claims.HasHandle second →
    usage.claims.groupOf first = usage.claims.groupOf second → usage.Shares first second
  taken : ∀ holding ∈ usage.live, usage.claims.HasHandle holding.handle ∧
    holding.claim = ⟨holding.key, usage.claims.groupOf holding.handle⟩
  distinct : (usage.live.map (·.claim)).Nodup
  keys : ∀ group, (usage.claims.heldIn group).Perm
    ((usage.live.filter (·.claim.group = group)).map (·.claim.key))

variable {usage later : Usage κ}

theorem isSound_fresh : (fresh : Usage κ).IsSound where
  grouped := by simp [fresh, Claims.empty]
  cloned := by simp [fresh, IsClone]
  joined first second known known' _ := by
    simp only [HasHandle, fresh, Claims.empty, List.length_singleton] at known known'
    obtain rfl : first = second := by omega
    exact .refl first
  taken := by simp [fresh]
  distinct := List.nodup_nil
  keys group := by
    cases group <;> simp [fresh, Claims.empty, heldIn]

namespace IsSound

theorem group_lt (sound : usage.IsSound) {handle : Nat} (known : usage.claims.HasHandle handle) :
    usage.claims.groupOf handle < usage.claims.keys.length := by
  rw [groupOf, List.getElem?_eq_getElem known]
  exact sound.grouped _ (List.getElem_mem known)

theorem groupOf_of_shares (sound : usage.IsSound) {first second : Nat}
    (shares : usage.Shares first second) :
    usage.claims.groupOf first = usage.claims.groupOf second := by
  induction shares with
  | rel handle clone isClone => exact (sound.cloned handle clone isClone).2.2
  | refl => rfl
  | symm _ _ _ ih => exact ih.symm
  | trans _ _ _ _ _ ih ih' => exact ih.trans ih'

theorem shares_iff (sound : usage.IsSound) {first second : Nat}
    (known : usage.claims.HasHandle first) (known' : usage.claims.HasHandle second) :
    usage.Shares first second ↔ usage.claims.groupOf first = usage.claims.groupOf second :=
  ⟨sound.groupOf_of_shares, sound.joined first second known known'⟩

theorem group_eq_iff (sound : usage.IsSound) {holding : Holding κ} (live : holding ∈ usage.live)
    {handle : Nat} (known : usage.claims.HasHandle handle) :
    holding.claim.group = usage.claims.groupOf handle ↔ usage.Shares holding.handle handle := by
  obtain ⟨through, same⟩ := sound.taken holding live
  rw [sound.shares_iff through known, same]

theorem key_eq (sound : usage.IsSound) {holding : Holding κ} (live : holding ∈ usage.live) :
    holding.claim.key = holding.key := by
  rw [(sound.taken holding live).2]

theorem mem_heldIn_iff (sound : usage.IsSound) {group : Nat} {key : κ} :
    key ∈ usage.claims.heldIn group ↔
      ∃ holding ∈ usage.live, holding.claim = ⟨key, group⟩ := by
  rw [(sound.keys group).mem_iff]
  simp only [List.mem_map, List.mem_filter, decide_eq_true_eq]
  constructor
  · rintro ⟨⟨through, asked, key, group⟩, ⟨live, rfl⟩, rfl⟩
    exact ⟨_, live, rfl⟩
  · rintro ⟨holding, live, same⟩
    exact ⟨holding, ⟨live, by rw [same]⟩, by rw [same]⟩

theorem nodup_heldIn (sound : usage.IsSound) (group : Nat) :
    (usage.claims.heldIn group).Nodup := by
  rw [(sound.keys group).nodup_iff]
  have distinct := List.pairwise_map.mp sound.distinct
  refine List.pairwise_map.mpr (List.Pairwise.imp_of_mem ?_ (distinct.filter _))
  rintro ⟨_, _, key, group⟩ ⟨_, _, key', group'⟩ first second apart same
  simp only [List.mem_filter, decide_eq_true_eq] at first second same
  exact apart (by rw [same, first.2, second.2])

/-! ### Steps -/

theorem take (sound : usage.IsSound) {handle : Nat} {key : κ}
    (known : usage.claims.HasHandle handle) (free : key ∉ usage.claims.held handle) :
    IsSound ⟨{ usage.claims with
        keys := usage.claims.keys.modify (usage.claims.groupOf handle) (key :: ·) },
      ⟨handle, key, ⟨key, usage.claims.groupOf handle⟩⟩ :: usage.live, usage.clones⟩ where
  grouped := by simpa using sound.grouped
  cloned := sound.cloned
  joined := sound.joined
  taken := by
    intro holding live
    rcases List.mem_cons.mp live with rfl | live
    · exact ⟨known, rfl⟩
    · exact sound.taken holding live
  distinct := by
    rw [List.map_cons, List.nodup_cons]
    refine ⟨?_, sound.distinct⟩
    intro member
    obtain ⟨holding, live, same⟩ := List.mem_map.mp member
    exact free (sound.mem_heldIn_iff.mpr ⟨holding, live, same⟩)
  keys group := by
    rw [heldIn_modify _ (sound.group_lt known)]
    by_cases same : group = usage.claims.groupOf handle
    · subst same
      simpa using sound.keys _
    · simpa [same, Ne.symm same] using sound.keys group

theorem withHandle (sound : usage.IsSound) {group : Nat} {keys : List (List κ)}
    {clones : List (Nat × Nat)} (longer : usage.claims.keys.length ≤ keys.length)
    (within : group < keys.length)
    (same : ∀ other, (usage.claims.withHandle group keys).heldIn other = usage.claims.heldIn other)
    (kept : ∀ pair ∈ usage.clones, pair ∈ clones)
    (known : ∀ pair ∈ clones, pair ∈ usage.clones ∨ usage.claims.HasHandle pair.1 ∧
      usage.claims.groupOf pair.1 = group ∧ pair.2 = usage.claims.groups.length)
    (joins : ∀ handle, usage.claims.HasHandle handle → usage.claims.groupOf handle = group →
      ∃ pair ∈ clones, usage.Shares handle pair.1 ∧ pair.2 = usage.claims.groups.length) :
    IsSound ⟨usage.claims.withHandle group keys, usage.live, clones⟩ where
  grouped other member := by
    rcases List.mem_append.mp member with old | new
    · exact Nat.lt_of_lt_of_le (sound.grouped other old) longer
    · rwa [List.mem_singleton.mp new]
  cloned handle clone isClone := by
    have old {handle : Nat} (known : usage.claims.HasHandle handle) :
        (usage.claims.withHandle group keys).HasHandle handle :=
      (hasHandle_withHandle_iff _).mpr (.inl known)
    rcases known _ isClone with before | ⟨handleKnown, inGroup, rfl⟩
    · obtain ⟨handleKnown, cloneKnown, together⟩ := sound.cloned handle clone before
      refine ⟨old handleKnown, old cloneKnown, ?_⟩
      rwa [groupOf_withHandle_of_known _ handleKnown, groupOf_withHandle_of_known _ cloneKnown]
    · refine ⟨old handleKnown, (hasHandle_withHandle_iff _).mpr (.inr rfl), ?_⟩
      rw [groupOf_withHandle_of_known _ handleKnown, groupOf_withHandle_new]
      exact inGroup
  joined first second firstKnown secondKnown together := by
    let extended : Usage κ := ⟨usage.claims.withHandle group keys, usage.live, clones⟩
    have mono {first second : Nat} (shares : usage.Shares first second) :
        extended.Shares first second :=
      Relation.EqvGen.mono (fun _ _ => kept _) _ _ shares
    have meets {handle : Nat} (known : usage.claims.HasHandle handle)
        (inGroup : usage.claims.groupOf handle = group) :
        extended.Shares handle usage.claims.groups.length := by
      obtain ⟨⟨origin, clone⟩, isClone, shares, rfl⟩ := joins handle known inGroup
      exact .trans _ _ _ (mono shares) (.rel _ _ isClone)
    -- both handles were there before, or one of them is new and meets its whole group
    rcases (hasHandle_withHandle_iff _).mp firstKnown with firstOld | rfl <;>
      rcases (hasHandle_withHandle_iff _).mp secondKnown with secondOld | rfl
    · rw [groupOf_withHandle_of_known _ firstOld,
        groupOf_withHandle_of_known _ secondOld] at together
      exact mono (sound.joined first second firstOld secondOld together)
    · rw [groupOf_withHandle_of_known _ firstOld, groupOf_withHandle_new] at together
      exact meets firstOld together
    · rw [groupOf_withHandle_new, groupOf_withHandle_of_known _ secondOld] at together
      exact .symm _ _ (meets secondOld together.symm)
    · exact .refl _
  taken holding live := by
    obtain ⟨through, claim⟩ := sound.taken holding live
    refine ⟨(hasHandle_withHandle_iff _).mpr (.inl through), ?_⟩
    rw [groupOf_withHandle_of_known _ through]
    exact claim
  distinct := sound.distinct
  keys other := by
    rw [same]
    exact sound.keys other

theorem share (sound : usage.IsSound) {handle : Nat} (known : usage.claims.HasHandle handle) :
    IsSound ⟨(usage.claims.share handle).2, usage.live,
      (handle, usage.claims.groups.length) :: usage.clones⟩ := by
  refine sound.withHandle (Nat.le_refl _) (sound.group_lt known) (fun _ => rfl)
    (fun _ member => List.mem_cons_of_mem _ member) ?_ ?_
  · intro pair member
    rcases List.mem_cons.mp member with rfl | before
    · exact .inr ⟨known, rfl, rfl⟩
    · exact .inl before
  · intro other otherKnown together
    exact ⟨_, List.mem_cons_self, sound.joined other handle otherKnown known together, rfl⟩

theorem separate (sound : usage.IsSound) :
    IsSound ⟨usage.claims.separate.2, usage.live, usage.clones⟩ := by
  refine sound.withHandle (by simp) (by simp) ?_ (fun _ => id) (fun _ => .inl) ?_
  · intro group
    simp only [heldIn, Claims.withHandle, List.getElem?_append]
    split
    next => rfl
    next beyond =>
      rw [List.getElem?_eq_none (Nat.le_of_not_lt beyond)]
      cases group - usage.claims.keys.length <;> simp
  · intro handle known together
    exact absurd together (Nat.ne_of_lt (sound.group_lt known))

section

variable [DecidableEq κ]

theorem drop (sound : usage.IsSound) {place : Nat} {holding : Holding κ}
    (here : usage.live[place]? = some holding) :
    IsSound ⟨usage.claims.drop holding.claim, usage.live.eraseIdx place, usage.clones⟩ where
  grouped := by simpa [Claims.drop] using sound.grouped
  cloned := sound.cloned
  joined := sound.joined
  taken other live := sound.taken other (List.eraseIdx_subset live)
  distinct := sound.distinct.sublist ((List.eraseIdx_sublist _ _).map _)
  keys group := by
    obtain ⟨within, found⟩ := List.getElem?_eq_some_iff.mp here
    have known := (sound.taken holding (List.mem_of_getElem? here))
    have bound : holding.claim.group < usage.claims.keys.length := by
      rw [known.2]
      exact sound.group_lt known.1
    have split : usage.live.Perm (holding :: usage.live.eraseIdx place) := by
      rw [← found]
      exact (List.getElem_cons_eraseIdx_perm within).symm
    have keys := (sound.keys group).trans ((split.filter _).map _)
    rw [Claims.drop, heldIn_modify _ bound]
    by_cases same : group = holding.claim.group
    · subst same
      have gone := keys.erase holding.claim.key
      simpa using gone
    · simpa [same, Ne.symm same] using keys

theorem step (sound : usage.IsSound) {event : Event κ}
    (taken : usage.step? event = some later) : later.IsSound := by
  cases event with
  | claim handle key =>
      simp only [step?] at taken
      split at taken
      next known =>
        cases claimed : usage.claims.claim? handle key with
        | none =>
            rw [claimed] at taken
            cases taken
            exact sound
        | some given =>
            rw [claimed] at taken
            cases taken
            obtain ⟨free, same, after⟩ := claim?_eq_some_iff.mp claimed
            rw [same, after]
            exact sound.take known free
      next => cases taken
  | drop place =>
      obtain ⟨holding, here, rfl⟩ := Option.map_eq_some_iff.mp taken
      exact sound.drop here
  | share handle =>
      simp only [step?] at taken
      split at taken
      next known =>
        cases taken
        exact sound.share known
      next => cases taken
  | separate =>
      cases taken
      exact sound.separate

end

end IsSound

theorem isSound_of_run? [DecidableEq κ] {events : List (Event κ)}
    (ran : run? events = some usage) : usage.IsSound :=
  holds_of_foldlM (fun sound taken => sound.step taken) isSound_fresh ran

/-! ### Exclusiveness -/

theorem IsSound.contains_iff [DecidableEq κ] (sound : usage.IsSound) {handle : Nat}
    (known : usage.claims.HasHandle handle) (key : κ) :
    usage.claims.contains handle key = true ↔ ∃ place, usage.HoldsFor place handle key := by
  rw [Claims.contains_iff, held, sound.mem_heldIn_iff]
  constructor
  · rintro ⟨holding, live, same⟩
    obtain ⟨place, here⟩ := List.mem_iff_getElem?.mp live
    have group : holding.claim.group = usage.claims.groupOf handle := by rw [same]
    refine ⟨place, holding, here, ?_, (sound.group_eq_iff live known).mp group⟩
    rw [← sound.key_eq live, same]
  · rintro ⟨place, holding, here, rfl, shares⟩
    have live := List.mem_of_getElem? here
    refine ⟨holding, live, ?_⟩
    rw [(sound.taken holding live).2, sound.groupOf_of_shares shares]

theorem IsSound.unique (sound : usage.IsSound) {handle : Nat} {key : κ} {first second : Nat}
    (firstHolds : usage.HoldsFor first handle key)
    (secondHolds : usage.HoldsFor second handle key) : first = second := by
  obtain ⟨holding, here, onKey, shares⟩ := firstHolds
  obtain ⟨holding', here', onKey', shares'⟩ := secondHolds
  have same : holding.claim = holding'.claim := by
    rw [(sound.taken holding (List.mem_of_getElem? here)).2,
      (sound.taken holding' (List.mem_of_getElem? here')).2, onKey, onKey',
      sound.groupOf_of_shares shares, sound.groupOf_of_shares shares']
  have within : first < (usage.live.map (·.claim)).length := by
    rw [List.length_map]
    exact (List.getElem?_eq_some_iff.mp here).1
  refine (List.getElem?_inj within sound.distinct).mp ?_
  rw [List.getElem?_map, List.getElem?_map, here, here', Option.map_some, Option.map_some, same]

open Classical in
theorem IsSound.size_eq [DecidableEq κ] (sound : usage.IsSound) {handle : Nat}
    (known : usage.claims.HasHandle handle) :
    usage.claims.size handle =
      usage.live.countP fun holding => usage.Shares holding.handle handle := by
  rw [size, held, (sound.keys _).length_eq, List.length_map, ← List.countP_eq_length_filter]
  refine List.countP_congr fun holding live => ?_
  simpa using sound.group_eq_iff live known

theorem IsSound.contains_claim? [DecidableEq κ] (sound : usage.IsSound) {handle other : Nat}
    {key asked : κ} {claim : Claim κ} {claims : Claims κ} (known : usage.claims.HasHandle handle)
    (otherKnown : usage.claims.HasHandle other)
    (taken : usage.claims.claim? handle key = some (claim, claims)) :
    claims.contains other asked = true ↔
      usage.claims.contains other asked = true ∨ asked = key ∧ usage.Shares handle other := by
  obtain ⟨_, _, rfl⟩ := claim?_eq_some_iff.mp taken
  rw [Claims.contains_iff, Claims.contains_iff, sound.shares_iff known otherKnown]
  simp only [held]
  change asked ∈ heldIn _ (usage.claims.groupOf other) ↔ _
  rw [heldIn_modify _ (sound.group_lt known)]
  split
  next same => simp [same, or_comm]
  next apart => simp [Ne.symm apart]

theorem IsSound.contains_drop [DecidableEq κ] (sound : usage.IsSound) {place handle : Nat}
    {key : κ} {holding : Holding κ} (known : usage.claims.HasHandle handle)
    (here : usage.live[place]? = some holding) :
    (usage.claims.drop holding.claim).contains handle key = true ↔
      usage.claims.contains handle key = true ∧
        ¬(key = holding.key ∧ usage.Shares holding.handle handle) := by
  have live := List.mem_of_getElem? here
  obtain ⟨through, claim⟩ := sound.taken holding live
  rw [Claims.contains_iff, Claims.contains_iff, ← sound.group_eq_iff live known,
    ← sound.key_eq live]
  simp only [held]
  change key ∈ heldIn _ (usage.claims.groupOf handle) ↔ _
  rw [Claims.drop, heldIn_modify _ (by rw [claim]; exact sound.group_lt through)]
  split
  next same =>
    rw [(sound.nodup_heldIn _).mem_erase_iff, same]
    simp [and_comm]
  next apart => simp [Ne.symm apart]

open Classical in
/-- Whatever was done with claims and handles, a key is contained in a set iff exactly one live
claim on it was taken through a handle on that set, and there are never two such claims. The size is
the number of live claims taken through these handles. A claim succeeds iff its key is not
contained, and then adds that key to that set only; dropping a live claim takes out its own key, of
its own set only. -/
theorem keys_are_held_by_one_claim [DecidableEq κ] (events : List (Event κ)) (usage : Usage κ)
    (ran : run? events = some usage) (handle : Nat) (known : usage.claims.HasHandle handle)
    (key : κ) :
    (usage.claims.contains handle key = true ↔ ∃! place, usage.HoldsFor place handle key) ∧
    (∀ first second, usage.HoldsFor first handle key → usage.HoldsFor second handle key →
      first = second) ∧
    usage.claims.size handle =
      usage.live.countP (fun holding => usage.Shares holding.handle handle) ∧
    ((usage.claims.claim? handle key).isSome = true ↔
      usage.claims.contains handle key = false) ∧
    (∀ claim claims, usage.claims.claim? handle key = some (claim, claims) →
      ∀ other asked, usage.claims.HasHandle other →
        (claims.contains other asked = true ↔
          usage.claims.contains other asked = true ∨ asked = key ∧ usage.Shares handle other)) ∧
    ∀ (place : Nat) (holding : Holding κ), usage.live[place]? = some holding →
      ((usage.claims.drop holding.claim).contains handle key = true ↔
        usage.claims.contains handle key = true ∧
          ¬(key = holding.key ∧ usage.Shares holding.handle handle)) := by
  have sound := isSound_of_run? ran
  refine ⟨?_, fun _ _ => sound.unique, sound.size_eq known, ?_, ?_, ?_⟩
  · rw [sound.contains_iff known]
    constructor
    · rintro ⟨place, holds⟩
      exact ⟨place, holds, fun other otherHolds => sound.unique otherHolds holds⟩
    · exact ExistsUnique.exists
  · unfold claim?
    cases usage.claims.contains handle key <;> simp
  · intro claim claims taken other asked otherKnown
    exact sound.contains_claim? known otherKnown taken
  · intro place holding here
    exact sound.contains_drop known here

def takenAgain : List (Event Nat) :=
  [.claim 0 7, .separate, .claim 1 7, .share 0, .claim 2 7, .drop 1, .claim 2 7]

theorem keys_are_held_by_one_claim_takenAgain : ∃ usage, run? takenAgain = some usage ∧
    usage.claims.HasHandle 0 ∧ usage.live.length = 2 ∧ usage.claims.size 0 = 1 ∧
    (∃! place, usage.HoldsFor place 0 7) ∧ ¬usage.Shares 1 0 := by
  have known : HasHandle (κ := Nat) ⟨[0, 1, 0], [[7], [7]]⟩ 0 := Nat.zero_lt_succ 2
  obtain ⟨contained, _, _, _, _, dropped⟩ :=
    keys_are_held_by_one_claim takenAgain _ rfl 0 known 7
  -- the other set's claim on the key is dropped, and the key stays
  have stays := ((dropped 1 _ rfl).mp rfl).2
  exact ⟨_, rfl, known, rfl, rfl, contained.mp rfl, fun shares => stays ⟨rfl, shares⟩⟩

end Usage
end Claims
end LiveHighlight
