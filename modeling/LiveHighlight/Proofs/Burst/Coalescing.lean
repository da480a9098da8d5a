import LiveHighlight.Proofs.Burst.Watch

/-!
Bursts of edits.

Over a whole watch, the recomputes that have begun and those that are to come make up the greedy
sequence of the edits. So when a session recomputes depends on nothing but when edits arrive, until
it leaves its watch.
-/

namespace LiveHighlight

open Debouncer (greedy)
open Duo (Act Moment Stage)

def arrivals : List (Nat × StreamItem) → List Nat
  | (arrived, .edit _) :: later => arrived :: arrivals later
  | _ => []

theorem le_of_mem_arrivals {stream : List (Nat × StreamItem)} {bound edit : Nat}
    (sorted : (arrivals stream).Pairwise (· ≤ ·))
    (first : ∀ arrived item others, stream = (arrived, item) :: others → bound ≤ arrived)
    (member : edit ∈ arrivals stream) : bound ≤ edit := by
  cases stream with
  | nil => cases member
  | cons entry others =>
      obtain ⟨arrived, item⟩ := entry
      have notAfter := first arrived item others rfl
      cases item with
      | edit kind =>
          rcases List.mem_cons.mp member with rfl | member
          · exact notAfter
          · exact Nat.le_trans notAfter (List.rel_of_pairwise_cons sorted member)
      | failed | ended => cases member

def StreamItem.isEdit : StreamItem → Bool
  | edit _ => true
  | _ => false

namespace Watch

def recomputes (setup : Setup) (moments : List Moment) : List Nat :=
  moments.filterMap (Moment.recompute? setup)

def applications (moments : List Moment) : List Nat :=
  moments.filterMap Moment.applied?

theorem recomputes_concat (setup : Setup) (moments : List Moment) (moment : Moment) :
    recomputes setup (moments ++ [moment]) =
      recomputes setup moments ++ (moment.recompute? setup).toList := by
  cases found : moment.recompute? setup <;> simp [recomputes, List.filterMap_append, found]

theorem applications_concat (moments : List Moment) (moment : Moment) :
    applications (moments ++ [moment]) = applications moments ++ moment.applied?.toList := by
  cases found : moment.applied? <;> simp [applications, List.filterMap_append, found]

/-! ### What a watch keeps -/

def ahead (watch : Watch) : List Nat :=
  List.replicate watch.duo.edits watch.now ++ arrivals watch.unread

/-- A watch that goes on is at a stage that accounts for all recomputes. -/
structure Tracks (setup : Setup) (quiet : Nat) (edits : List Nat) (moments : List Moment)
    (watch : Watch) : Prop where
  sound : watch.duo.IsSound
  orderly : watch.duo.IsOrderly
  staged : ∃ underWay toCome, Stage quiet watch.now watch.ahead watch.duo.session.phase
      watch.duo.begun underWay toCome ∧
    greedy quiet none edits = recomputes setup moments ++ toCome ∧
    recomputes setup moments = applications moments ++ underWay
  known : ∀ edit ∈ watch.ahead, edit ∈ edits ∧ watch.now ≤ edit
  sorted : (arrivals watch.unread).Pairwise (· ≤ ·)

structure Accounts (setup : Setup) (quiet : Nat) (edits : List Nat) (moments : List Moment)
    (now : Nat) : Prop where
  begun : ∀ instant ∈ recomputes setup moments, instant ≤ now
  whole : ∃ toCome, greedy quiet none edits = recomputes setup moments ++ toCome ∧
    ∀ instant ∈ toCome, now ≤ instant
  applied : applications moments <+: recomputes setup moments

section

variable {setup : Setup} {quiet : Nat} {edits : List Nat} {moments : List Moment} {watch : Watch}
  {duo : Duo} {act : Act}

theorem Tracks.goesOn (tracks : Tracks setup quiet edits moments watch) : watch.goesOn = true := by
  obtain ⟨_, _, stage, _, _⟩ := tracks.staged
  exact stage.watches

theorem Tracks.acted (tracks : Tracks setup quiet edits moments watch)
    (apart : ∀ edit ∈ edits, edit ∉ greedy quiet none edits) (own : ∀ item, act ≠ .take item)
    (taken : watch.duo.step? setup watch.now watch.cancelled act = some duo) :
    Tracks setup quiet edits (moments ++ [watch.moment act]) { watch with duo := duo } ∨
      duo.session.phase.watches = false ∧ (watch.moment act).recompute? setup = none ∧
        (watch.moment act).applied? = none := by
  obtain ⟨underWay, toCome, stage, whole, applied⟩ := tracks.staged
  have change := Duo.change_of_step? taken
  -- an edit that arrives now would arrive just as a recompute is due
  have clear : watch.now ∈ toCome → ∀ edit ∈ watch.ahead, watch.now < edit := by
    intro due edit member
    obtain ⟨among, notBefore⟩ := tracks.known edit member
    refine Nat.lt_of_le_of_ne notBefore ?_
    rintro rfl
    refine apart _ among ?_
    rw [whole]
    exact List.mem_append_right _ due
  rcases stage.acted tracks.sound tracks.orderly clear own change with
    ⟨_, orderly, fewer, still, soon, next, first, ended⟩ | left
  · refine .inl ⟨tracks.sound.step change, orderly, ⟨still, soon, next, ?_, ?_⟩, ?_,
      tracks.sorted⟩
    · rw [whole, recomputes_concat, List.append_assoc, first]
      rfl
    · rw [recomputes_concat, applications_concat, applied, List.append_assoc, List.append_assoc]
      exact congrArg _ ended
    · have among : (ahead { watch with duo := duo }).Sublist watch.ahead :=
        ((List.replicate_sublist_replicate _).mpr fewer).append_right _
      exact fun edit member => tracks.known edit (among.subset member)
  · exact .inr left

theorem edits_took {reader : Reader} {item : StreamItem} (works : watch.duo.reader = some reader)
    (empty : reader.hand = none) :
    Duo.edits { watch.duo with reader := some { reader with hand := some item } } =
      watch.duo.edits + if item.isEdit then 1 else 0 := by
  cases item <;> simp [Duo.edits, works, Duo.editsInHand, empty, StreamItem.isEdit]

theorem ahead_read {arrived : Nat} {item : StreamItem} {later : List (Nat × StreamItem)}
    (next : watch.unread = (arrived, item) :: later)
    (known : ∀ edit ∈ watch.ahead, watch.now ≤ edit) (arrives : arrived ≤ watch.now)
    (more : duo.edits = watch.duo.edits + if item.isEdit then 1 else 0) :
    ahead { watch with duo := duo, unread := item.rest later } = watch.ahead := by
  unfold ahead at *
  simp only [more, next] at known ⊢
  cases item with
  | edit kind =>
      obtain rfl : arrived = watch.now := by
        have notBefore := known arrived (List.mem_append_right _ (List.mem_cons_self ..))
        omega
      simp [StreamItem.isEdit, StreamItem.rest, arrivals, List.replicate_succ']
  | failed | ended => rfl

theorem Tracks.read {arrived : Nat} {item : StreamItem} {later : List (Nat × StreamItem)}
    (tracks : Tracks setup quiet edits moments watch)
    (next : watch.unread = (arrived, item) :: later) (arrives : arrived ≤ watch.now)
    (taken : watch.duo.step? setup watch.now watch.cancelled (.take item) = some duo) :
    Tracks setup quiet edits
      (moments ++ [watch.moment (.take item)])
      { watch with duo := duo, unread := item.rest later } := by
  obtain ⟨underWay, toCome, stage, whole, applied⟩ := tracks.staged
  have change := Duo.change_of_step? taken
  have sound := tracks.sound.step change
  cases change with
  | @took reader item worker works moved =>
      obtain ⟨⟨awaits, empty, _⟩, rfl⟩ := Reader.take?_eq_some_iff.mp moved
      have same := ahead_read next (fun edit member => (tracks.known edit member).2) arrives
        (edits_took works empty)
      refine ⟨sound, ⟨?_, ?_⟩, ⟨underWay, toCome, ?_, ?_, ?_⟩, ?_, ?_⟩
      · rintro _ ⟨rfl⟩ _
        exact tracks.orderly.awaiting reader works awaits
      · rintro _ last ⟨rfl⟩ delivers
        exact tracks.orderly.delivering reader last works delivers
      · rw [same]
        exact stage
      · rw [recomputes_concat]
        exact whole.trans (congrArg (· ++ toCome) (List.append_nil _).symm)
      · rw [recomputes_concat, applications_concat]
        exact (List.append_nil _).trans
          (applied.trans (congrArg (· ++ underWay) (List.append_nil _).symm))
      · rw [same]
        exact tracks.known
      · have sorted := tracks.sorted
        rw [next] at sorted
        cases item with
        | edit kind => exact sorted.tail
        | failed | ended => exact .nil

theorem Tracks.step {next : Watch} (tracks : Tracks setup quiet edits moments watch)
    (apart : ∀ edit ∈ edits, edit ∉ greedy quiet none edits)
    (taken : watch.step? setup act = some next) :
    next.now = watch.now ∧
      (Tracks setup quiet edits (moments ++ [watch.moment act]) next ∨
        next.goesOn = false ∧ (watch.moment act).recompute? setup = none ∧
          (watch.moment act).applied? = none) := by
  obtain ⟨_, duo, unread, stepped, read, rfl⟩ := step?_eq_some_iff.mp taken
  refine ⟨rfl, ?_⟩
  by_cases takes : ∃ item, act = .take item
  · obtain ⟨item, rfl⟩ := takes
    obtain ⟨arrived, later, next, arrives, rfl⟩ := unreadAfter?_take.mp read
    exact .inl (tracks.read next arrives stepped)
  · have own : ∀ item, act ≠ .take item := by simpa using takes
    rw [unreadAfter?_own own, Option.some.injEq] at read
    subst read
    exact tracks.acted apart own stepped

theorem Tracks.passed {later : Nat} (tracks : Tracks setup quiet edits moments watch)
    (on : watch.goesOn = true) (ordered : watch.now ≤ later)
    (idle : ∀ moment, watch.now ≤ moment → moment < later →
      IsIdle setup { watch with now := moment }) :
    Tracks setup quiet edits moments { watch with now := later } := by
  rcases Nat.eq_or_lt_of_le ordered with rfl | moved
  · exact tracks
  · -- the watch was idle just before, so nothing was due and nothing arrived until now
    have atLast := idle (later - 1) (by omega) (by omega)
    obtain ⟨attempt, layer, debouncer, watching⟩ := atLast.watching tracks.sound on
    obtain ⟨deadlines, none_held, arrive⟩ := atLast.ahead tracks.sound watching
    simp only at watching deadlines none_held arrive
    obtain ⟨underWay, toCome, stage, whole, applied⟩ := tracks.staged
    have unread : ∀ edit ∈ arrivals watch.unread, later ≤ edit := by
      refine fun edit member => le_of_mem_arrivals tracks.sorted ?_ member
      intro arrived item others next
      have := arrive arrived item others next
      omega
    have same : ahead { watch with now := later } = watch.ahead := by simp [ahead, none_held]
    have all : watch.ahead = arrivals watch.unread := by simp [ahead, none_held]
    refine ⟨tracks.sound, tracks.orderly, ⟨underWay, toCome, ?_, whole, applied⟩, ?_,
      tracks.sorted⟩
    · rw [same]
      rw [watching] at stage ⊢
      cases stage with
      | resting => exact .resting
      | armed waits =>
          have := deadlines _ rfl
          exact .armed (by simp only; omega)
    · rw [same, all]
      exact fun edit member => ⟨(tracks.known edit (all ▸ member)).1, unread edit member⟩

theorem le_of_recompute? {moment : Moment} {instant : Nat}
    (begins : moment.recompute? setup = some instant) : instant = moment.now := by
  unfold Moment.recompute? at begins
  split at begins <;> simp_all

theorem Tracks.accounts (tracks : Tracks setup quiet edits moments watch)
    (begun : ∀ instant ∈ recomputes setup moments, instant ≤ watch.now) :
    Accounts setup quiet edits moments watch.now := by
  obtain ⟨underWay, toCome, stage, whole, applied⟩ := tracks.staged
  refine ⟨begun, ⟨toCome, whole, fun instant member => ?_⟩, ⟨underWay, applied.symm⟩⟩
  exact stage.le_of_mem (fun edit member => (tracks.known edit member).2) member

theorem Goes.tracks {start : Watch} (first : Tracks setup quiet edits [] start)
    (apart : ∀ edit ∈ edits, edit ∉ greedy quiet none edits)
    (goes : Goes setup start moments watch) :
    (watch.goesOn = true → Tracks setup quiet edits moments watch) ∧
      Accounts setup quiet edits moments watch.now := by
  induction goes with
  | here => exact ⟨fun _ => first, first.accounts (by simp [recomputes])⟩
  | @act moments watch act next earlier taken ih =>
      obtain ⟨same, stepped⟩ := (ih.1 (step?_eq_some_iff.mp taken).1).step apart taken
      rcases stepped with tracks | ⟨off, none_begun, none_applied⟩
      · refine ⟨fun _ => tracks, tracks.accounts fun instant member => ?_⟩
        rw [recomputes_concat, List.mem_append, Option.mem_toList] at member
        rw [same]
        rcases member with before | now
        · exact ih.2.begun instant before
        · exact Nat.le_of_eq (le_of_recompute? now)
      · have sameBegun : recomputes setup (moments ++ [watch.moment act]) =
            recomputes setup moments := by
          rw [recomputes_concat, none_begun]
          exact List.append_nil _
        have sameApplied : applications (moments ++ [watch.moment act]) = applications moments := by
          rw [applications_concat, none_applied]
          exact List.append_nil _
        refine ⟨fun on => by simp [off] at on, ?_⟩
        rw [same]
        exact ⟨sameBegun ▸ ih.2.begun, sameBegun ▸ ih.2.whole,
          sameBegun ▸ sameApplied ▸ ih.2.applied⟩
  | cancel earlier ih =>
      refine ⟨fun on => ?_, ih.2⟩
      have tracks := ih.1 on
      exact ⟨tracks.sound, tracks.orderly, tracks.staged, tracks.known, tracks.sorted⟩
  | pass earlier on ordered idle ih =>
      have tracks := (ih.1 on).passed on ordered idle
      exact ⟨fun _ => tracks, tracks.accounts fun instant member =>
        Nat.le_trans (ih.2.begun instant member) ordered⟩

theorem Tracks.idle (tracks : Tracks setup quiet edits moments watch) (on : watch.goesOn = true)
    (idle : watch.IsIdle setup) :
    (∃ toCome, greedy quiet none edits = recomputes setup moments ++ toCome ∧
      ∀ instant ∈ toCome, watch.now < instant) ∧
    applications moments = recomputes setup moments := by
  have passed := tracks.passed on (Nat.le_succ watch.now) fun moment from_ to_ => by
    obtain rfl : moment = watch.now := by omega
    exact idle
  obtain ⟨underWay, toCome, stage, whole, applied⟩ := passed.staged
  obtain ⟨attempt, layer, debouncer, watching⟩ := idle.watching tracks.sound on
  refine ⟨⟨toCome, whole, fun instant member => ?_⟩, ?_⟩
  · exact stage.le_of_mem (fun edit member => (passed.known edit member).2) member
  · obtain rfl : underWay = [] := by
      simp only [watching] at stage
      cases stage <;> rfl
    rw [applied, List.append_nil]

theorem eq_filter_of_append {whole before after : List Nat} (holds : Nat → Bool)
    (joined : whole = before ++ after) (inside : ∀ instant ∈ before, holds instant = true)
    (outside : ∀ instant ∈ after, holds instant = false) : before = whole.filter holds := by
  have none_left : after.filter holds = [] :=
    List.filter_eq_nil_iff.mpr fun instant member => by simp [outside instant member]
  rw [joined, List.filter_append, List.filter_eq_self.mpr inside, none_left, List.append_nil]

/-- The recomputes that have begun are those due by now, but perhaps for one that is due just
now. -/
theorem Accounts.eq_filter {now : Nat} (accounts : Accounts setup quiet edits moments now) :
    recomputes setup moments = (greedy quiet none edits).filter (· ≤ now) ∨
      recomputes setup moments = (greedy quiet none edits).filter (· < now) := by
  obtain ⟨toCome, whole, notBefore⟩ := accounts.whole
  have spaced := Debouncer.greedy_apart quiet none edits
  rw [whole, List.pairwise_append] at spaced
  by_cases due : now ∈ toCome
  · right
    refine eq_filter_of_append _ whole (fun instant member => ?_) fun instant member => ?_
    · have := spaced.2.2 instant member now due
      exact decide_eq_true (by omega)
    · exact decide_eq_false (by have := notBefore instant member; omega)
  · left
    refine eq_filter_of_append _ whole (fun instant member => ?_) fun instant member => ?_
    · exact decide_eq_true (accounts.begun instant member)
    · have := notBefore instant member
      have : instant ≠ now := by
        rintro rfl
        exact due member
      exact decide_eq_false (by omega)

end

/-! ### Bursts -/

structure IsFresh (quiet : Nat) (duo : Duo) : Prop where
  watching : ∃ attempt layer, duo.session.phase = .watching attempt layer (.disarmed quiet)
  empty : duo.mailbox.messages = []
  reads : ∃ reader, duo.reader = some reader ∧ reader.phase = .awaiting ∧ reader.hand = none

theorem isFresh_of_readerStarted {setup : Setup} {now : Nat} {cancelled : Bool} {duo next : Duo}
    (started : duo.step? setup now cancelled (.answer .readerStarted) = some next) :
    IsFresh setup.settings.debounce next := by
  cases Duo.change_of_step? started with
  | @answered request _ phase mailbox reader asks admitted turn exchanged =>
      obtain ⟨attempt, layer, stream, starting⟩ := Session.startingReader_of_turn turn
      simp only [Session.request?, starting, Option.some.injEq] at asks
      subst asks
      simp only [Duo.exchange?, Option.some.injEq, Prod.mk.injEq] at exchanged
      obtain ⟨rfl, rfl⟩ := exchanged
      rw [starting] at turn
      cases turn with
      | readerStarted => exact ⟨⟨attempt, layer, rfl⟩, rfl, _, rfl, rfl, rfl⟩
      | unwound reason => cases reason

theorem IsFresh.traced {quiet : Nat} {duo : Duo} (fresh : IsFresh quiet duo) (setup : Setup) :
    Duo.Traced setup [] duo := by
  obtain ⟨attempt, layer, watching⟩ := fresh.watching
  obtain ⟨reader, works, awaits, holds⟩ := fresh.reads
  constructor
  · rintro other item at_work held
    cases works.symm.trans at_work
    cases holds.symm.trans held
  · rintro other last at_work delivers
    cases works.symm.trans at_work
    cases awaits.symm.trans delivers
  · simp [fresh.empty]
  · rintro other held at_work finished
    cases works.symm.trans at_work
    cases awaits.symm.trans finished
  · simp [watching, Session.Phase.holding]
  · simp [watching]

theorem IsFresh.tracks {setup : Setup} {quiet start : Nat} {duo : Duo}
    {stream : List (Nat × StreamItem)} (fresh : IsFresh quiet duo) (sound : duo.IsSound)
    (sorted : (arrivals stream).Pairwise (· ≤ ·))
    (later : ∀ edit ∈ arrivals stream, start ≤ edit) :
    Tracks setup quiet (arrivals stream) [] ⟨duo, start, false, stream⟩ := by
  obtain ⟨attempt, layer, watching⟩ := fresh.watching
  obtain ⟨reader, works, awaits, holds⟩ := fresh.reads
  have none_held : duo.edits = 0 := by
    simp [Duo.edits, fresh.empty, works, Duo.editsInHand, holds]
  have all : ahead ⟨duo, start, false, stream⟩ = arrivals stream := by simp [ahead, none_held]
  refine ⟨sound, ⟨?_, ?_⟩, ⟨[], greedy quiet none (arrivals stream), ?_, rfl, rfl⟩, ?_, sorted⟩
  · simp [fresh.empty]
  · intro other last at_work delivers
    cases works.symm.trans at_work
    cases awaits.symm.trans delivers
  · rw [watching, all]
    exact .resting
  · rw [all]
    exact fun edit member => ⟨member, later edit member⟩

/-- However edits arrive, the recomputes of a watch are those of the greedy sequence, each as it is
due: the first falls a quiet period after the first edit, and every other a quiet period after the
first edit since the one before. So an edit is followed by exactly one within a quiet period,
however many others there are, and no stream of edits puts it off. Whenever the watch is idle, all
of them have come to their end. A watch goes on to any instant, unless the session leaves it
before: it does so only if it is cancelled, a collaborator fails or the stream ends. -/
theorem recomputes_are_greedy (setup : Setup) (window : Window) (before : List Moment) (duo : Duo)
    (run : Duo.Run setup window before duo) (fresh : IsFresh setup.settings.debounce duo)
    (start : Nat) (stream : List (Nat × StreamItem)) (sorted : (arrivals stream).Pairwise (· ≤ ·))
    (later : ∀ edit ∈ arrivals stream, start ≤ edit)
    (apart : ∀ edit ∈ arrivals stream,
      edit ∉ greedy setup.settings.debounce none (arrivals stream))
    (moments : List Moment) (watch : Watch)
    (goes : Goes setup ⟨duo, start, false, stream⟩ moments watch) :
    let quiet := setup.settings.debounce
    let due := greedy quiet none (arrivals stream)
    (recomputes setup moments = due.filter (· ≤ watch.now) ∨
      recomputes setup moments = due.filter (· < watch.now)) ∧
    (watch.goesOn = true → watch.IsIdle setup →
      recomputes setup moments = due.filter (· ≤ watch.now) ∧
        applications moments = recomputes setup moments) ∧
    applications moments <+: recomputes setup moments ∧
    (recomputes setup moments).Pairwise (fun earlier later => earlier + quiet < later) ∧
    (watch.goesOn = false → ∃ moment ∈ moments, moment.endsWatch = true) ∧
    (∀ edit ∈ arrivals stream, edit + quiet < watch.now →
      ∃ instant ∈ recomputes setup moments, (edit < instant ∧ instant ≤ edit + quiet) ∧
        ∀ other ∈ recomputes setup moments, edit < other → other ≤ edit + quiet →
          other = instant) ∧
    ∀ instant, watch.now ≤ instant → ∃ more final, Goes setup watch more final ∧
      final.now ≤ instant ∧ (final.goesOn = true → final.now = instant) := by
  intro quiet due
  have first : Tracks setup quiet (arrivals stream) [] ⟨duo, start, false, stream⟩ :=
    fresh.tracks run.isSound sorted later
  obtain ⟨tracked, accounts⟩ := goes.tracks first apart
  obtain ⟨toCome, whole, notBefore⟩ := accounts.whole
  refine ⟨accounts.eq_filter, fun on idle => ?_, accounts.applied, ?_,
    goes.ends run.isSound (fresh.traced setup) first.goesOn, fun edit member passed => ?_,
    fun instant ordered => watch.goes_on ordered⟩
  · obtain ⟨⟨toCome, whole, after⟩, applied⟩ := (tracked on).idle on idle
    refine ⟨eq_filter_of_append _ whole (fun instant member => ?_) fun instant member => ?_,
      applied⟩
    · exact decide_eq_true (accounts.begun instant member)
    · exact decide_eq_false (Nat.not_le_of_lt (after instant member))
  · have spaced := Debouncer.greedy_apart quiet none (arrivals stream)
    rw [whole] at spaced
    exact (List.pairwise_append.mp spaced).1
  · obtain ⟨instant, among, bounds, unique⟩ :=
      Debouncer.one_recompute sorted member (apart edit member)
    rw [whole] at among unique
    refine ⟨instant, ?_, bounds, fun other member => unique other (List.mem_append_left _ member)⟩
    rcases List.mem_append.mp among with begun | soon
    · exact begun
    · have := notBefore instant soon
      omega

def replay? (setup : Setup) : List Moment → Watch → List Act → Option (List Moment × Watch)
  | moments, watch, [] => some (moments, watch)
  | moments, watch, act :: acts =>
    match watch.step? setup act with
    | none => none
    | some next => replay? setup (moments ++ [watch.moment act]) next acts

theorem goes_of_replay? {setup : Setup} {start watch final : Watch} {moments later : List Moment}
    {acts : List Act} (earlier : Goes setup start moments watch)
    (replayed : replay? setup moments watch acts = some (later, final)) :
    Goes setup start later final := by
  induction acts generalizing moments watch with
  | nil =>
      simp only [replay?, Option.some.injEq, Prod.mk.injEq] at replayed
      obtain ⟨rfl, rfl⟩ := replayed
      exact earlier
  | cons act acts ih =>
      simp only [replay?] at replayed
      split at replayed
      next => cases replayed
      next next taken => exact ih (earlier.act taken) replayed

def burst : List (Nat × StreamItem) :=
  [(Clock.ofMillis 10, .edit .insertion), (Clock.ofMillis 60, .edit .deletion)]

def editActs (kind : EditKind) : List Act :=
  [.take (.edit kind), .pass, .answer (.received (.edit kind)), .begin]

def recomputeActs : List Act :=
  [.answer .fired, .begin, .answer (.reply (.text [])), .begin, .answer (.reply (.captures [])),
    .begin, .answer (.reply .done), .begin]

def duringBurst (deadline : Option Nat) (begun now : Nat) (unread : List (Nat × StreamItem)) :
    Watch :=
  ⟨⟨⟨⟨1, "lib.rs"⟩, .watching ⟨"rust", Duo.rustOnly.settings.backoff⟩ (.acquired 1 7)
    ⟨Clock.ofMillis 200, deadline⟩⟩, some begun, .empty, some (.ofStream 1)⟩, now, false, unread⟩

theorem isIdle_duringBurst {deadline : Option Nat} {begun now : Nat}
    {unread : List (Nat × StreamItem)} (waits : ∀ instant, deadline = some instant → now < instant)
    (arrive : ∀ arrived item later, unread = (arrived, item) :: later → now < arrived) :
    (duringBurst deadline begun now unread).IsIdle Duo.rustOnly :=
  isIdle_of_ahead rfl rfl rfl rfl rfl ⟨rfl, rfl, rfl⟩ waits arrive

theorem goes_until {start : Watch} {moments : List Moment} {deadline : Option Nat}
    {begun now later : Nat} {unread : List (Nat × StreamItem)}
    (earlier : Goes Duo.rustOnly start moments (duringBurst deadline begun now unread))
    (ordered : now ≤ later) (waits : ∀ instant, deadline = some instant → later ≤ instant)
    (arrive : ∀ arrived item others, unread = (arrived, item) :: others → later ≤ arrived) :
    Goes Duo.rustOnly start moments (duringBurst deadline begun later unread) :=
  .pass earlier rfl ordered fun _ _ before => isIdle_duringBurst
    (fun instant armed => Nat.lt_of_lt_of_le before (waits instant armed))
    fun arrived item others next => Nat.lt_of_lt_of_le before (arrive arrived item others next)

theorem recomputes_are_greedy_burst : ∃ before moments,
    Duo.Run Duo.rustOnly ⟨1, "lib.rs"⟩ before Duo.watching ∧
    Goes Duo.rustOnly ⟨Duo.watching, 0, false, burst⟩ moments
      (duringBurst none (Clock.ofMillis 210) (Clock.ofMillis 300) []) ∧
    recomputes Duo.rustOnly moments = [Clock.ofMillis 210] ∧
    applications moments = recomputes Duo.rustOnly moments := by
  have run := @Duo.run_of_replay? Duo.rustOnly ⟨1, "lib.rs"⟩ _ Duo.watching
    (Duo.promptly Duo.watchingActs) rfl
  have first : Goes Duo.rustOnly ⟨Duo.watching, 0, false, burst⟩ []
      (duringBurst none 0 (Clock.ofMillis 10) burst) :=
    goes_until .here (by decide) (by simp) (by rintro _ _ _ ⟨⟩; exact Nat.le_refl _)
  have armed : Goes Duo.rustOnly ⟨Duo.watching, 0, false, burst⟩ _
      (duringBurst (some (Clock.ofMillis 210)) (Clock.ofMillis 10) (Clock.ofMillis 10)
        burst.tail) :=
    @goes_of_replay? _ _ _ _ _ _ (editActs .insertion) first rfl
  have second : Goes Duo.rustOnly ⟨Duo.watching, 0, false, burst⟩ _
      (duringBurst (some (Clock.ofMillis 210)) (Clock.ofMillis 10) (Clock.ofMillis 60)
        burst.tail) :=
    goes_until armed (by decide) (by rintro _ ⟨⟩; decide) (by rintro _ _ _ ⟨⟩; exact Nat.le_refl _)
  have absorbed : Goes Duo.rustOnly ⟨Duo.watching, 0, false, burst⟩ _
      (duringBurst (some (Clock.ofMillis 210)) (Clock.ofMillis 60) (Clock.ofMillis 60) []) :=
    @goes_of_replay? _ _ _ _ _ _ (editActs .deletion) second rfl
  have due : Goes Duo.rustOnly ⟨Duo.watching, 0, false, burst⟩ _
      (duringBurst (some (Clock.ofMillis 210)) (Clock.ofMillis 60) (Clock.ofMillis 210) []) :=
    goes_until absorbed (by decide) (by rintro _ ⟨⟩; exact Nat.le_refl _) (by simp)
  have recomputed : Goes Duo.rustOnly ⟨Duo.watching, 0, false, burst⟩ _
      (duringBurst none (Clock.ofMillis 210) (Clock.ofMillis 210) []) :=
    @goes_of_replay? _ _ _ _ _ _ recomputeActs due rfl
  have goes : Goes Duo.rustOnly ⟨Duo.watching, 0, false, burst⟩ _
      (duringBurst none (Clock.ofMillis 210) (Clock.ofMillis 300) []) :=
    goes_until recomputed (by decide) (by simp) (by simp)
  have fresh : IsFresh Duo.rustOnly.settings.debounce Duo.watching :=
    ⟨⟨_, _, rfl⟩, rfl, _, rfl, rfl, rfl⟩
  have idle : (duringBurst none (Clock.ofMillis 210) (Clock.ofMillis 300) []).IsIdle Duo.rustOnly :=
    isIdle_duringBurst (by simp) (by simp)
  have greedy := recomputes_are_greedy Duo.rustOnly ⟨1, "lib.rs"⟩ _ Duo.watching run fresh 0 burst
    (by decide) (by decide) (by decide) _ _ goes
  obtain ⟨same, applied⟩ := greedy.2.1 rfl idle
  exact ⟨_, _, run, goes, same.trans rfl, applied⟩

end Watch
end LiveHighlight
