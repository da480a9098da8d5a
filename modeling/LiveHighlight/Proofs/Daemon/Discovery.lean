import LiveHighlight.Proofs.Daemon.Service

/-!
How the daemon discovers windows.

Windows open and close at any moment. A listing finds the windows that are open at some moment of
the call, and a stream delivers the windows that open while it is there, in their order; it may
also repeat some. Either may fail at any moment, and then the daemon connects anew.
-/

namespace LiveHighlight

open Daemon (Phase Turn)

structure Opening where
  serial : Nat
  window : Window
  deriving DecidableEq

/-- What may happen to a window, as far as its sessions are concerned. -/
inductive Entry where
  | opened (opening : Opening)
  /-- A window is passed on to be started; a session may be started or not. -/
  | passed (window : Window) (isNew : Bool)
  | finished (window : WindowId)
  deriving DecidableEq

/-- What happened after an opening, where the latest comes first. -/
def Opening.since (opening : Opening) (history : List Entry) : List Entry :=
  history.takeWhile (· ≠ .opened opening)

def Opening.IsPassed (opening : Opening) (history : List Entry) : Prop :=
  ∃ isNew, .passed opening.window isNew ∈ opening.since history

def Daemon.Phase.inHand : Phase → List Window
  | .starting _ _ window later => window :: later
  | _ => []

def Service.note? (setup : Setup) (service : Service) : Event → Option Entry
  | .start window => some (.passed window (service.ensemble.start setup window).1)
  | .act place now act =>
    (service.ensemble.act? setup now place act).bind fun ensemble =>
      (ensemble.duos[place]?.filter (·.session.hasEnded)).map (.finished ·.windowId)
  | .answer (.started isNew) => service.daemon.inHand.head?.map (.passed · isNew)
  | _ => none

structure Discovery where
  service : Service
  /-- How often any window has been opened. -/
  serial : Nat
  openings : List Opening
  arrivals : List Opening
  /-- Which windows were open, at each moment of the present call for a listing. -/
  findings : List (List Opening)
  history : List Entry

namespace Discovery

inductive Event where
  | opens (window : Window)
  | closes (opening : Opening)
  /-- The stream delivers an opening once more, or one from before. -/
  | repeats (opening : Opening)
  | service (event : Service.Event)

def fresh (setup : Setup) : Discovery :=
  ⟨.fresh setup, 0, [], [], [], []⟩

/-- Whether listing and stream do what is expected of them. -/
def permits (discovery : Discovery) : Service.Event → Bool
  | .answer (.reply (.windows listed)) =>
    discovery.findings.any fun found => listed.isPerm (found.map Opening.window)
  | .answer (.arrived (.window window)) => discovery.arrivals.head?.any (·.window == window)
  | _ => true

def receive (discovery : Discovery) : Service.Event → Discovery
  | .answer (.reply (.events _)) =>
    { discovery with arrivals := [], findings := [discovery.openings] }
  | .answer (.arrived (.window _)) => { discovery with arrivals := discovery.arrivals.tail }
  | _ => discovery

def record (setup : Setup) (discovery : Discovery) (event : Service.Event) (next : Service) :
    Discovery :=
  { discovery with
    service := next
    history := (discovery.service.note? setup event).toList ++ discovery.history }

def step? (setup : Setup) (discovery : Discovery) : Event → Option Discovery
  | .opens window =>
    let opening := ⟨discovery.serial, window⟩
    some { discovery with
      serial := discovery.serial + 1
      openings := opening :: discovery.openings
      arrivals := discovery.arrivals ++ [opening]
      findings := (opening :: discovery.openings) :: discovery.findings
      history := .opened opening :: discovery.history }
  | .closes opening =>
    let openings := discovery.openings.erase opening
    some { discovery with openings, findings := openings :: discovery.findings }
  | .repeats opening => some { discovery with arrivals := discovery.arrivals ++ [opening] }
  | .service event =>
    if discovery.permits event then
      (discovery.service.step? setup event).map fun next =>
        (discovery.record setup event next).receive event
    else none

inductive Reachable (setup : Setup) : Discovery → Prop
  | fresh : Reachable setup (.fresh setup)
  | step {discovery next event} (earlier : Reachable setup discovery)
      (taken : discovery.step? setup event = some next) : Reachable setup next

/-- Why a connection does not miss a window that is open. Its event is on its way; or it will be
found by the listing, and then it is in hand until it is passed on. -/
def IsNoticed (discovery : Discovery) (opening : Opening) : Prop :=
  opening ∈ discovery.arrivals ∨
    match discovery.service.daemon with
    | .listing _ _ => ∀ found ∈ discovery.findings, opening ∈ found
    | .starting _ _ _ _ | .following _ _ =>
      opening.IsPassed discovery.history ∨ opening.window ∈ discovery.service.daemon.inHand
    | _ => True

structure IsSound (discovery : Discovery) : Prop where
  numbered : ∀ opening ∈ discovery.openings, opening.serial < discovery.serial
  recorded : ∀ opening ∈ discovery.openings, .opened opening ∈ discovery.history
  noticed : ∀ opening ∈ discovery.openings, discovery.IsNoticed opening

section

variable {setup : Setup} {discovery next : Discovery} {opening : Opening}

theorem isPassed_cons {history : List Entry} {entry : Entry} (other : entry ≠ .opened opening)
    (passed : opening.IsPassed history) : opening.IsPassed (entry :: history) := by
  obtain ⟨isNew, member⟩ := passed
  refine ⟨isNew, ?_⟩
  rw [Opening.since, List.takeWhile_cons_of_pos (by simpa using other)]
  exact List.mem_cons_of_mem _ member

theorem note?_ne_opened (service : Service) (event : Service.Event) :
    service.note? setup event ≠ some (.opened opening) := by
  unfold Service.note?
  split <;> simp [Option.bind_eq_some_iff]

theorem isPassed_record {event : Service.Event} {service : Service}
    (passed : opening.IsPassed discovery.history) :
    opening.IsPassed (discovery.record setup event service).history := by
  unfold record
  cases noted : discovery.service.note? setup event with
  | none => exact passed
  | some entry =>
      refine isPassed_cons ?_ passed
      rintro rfl
      exact note?_ne_opened discovery.service event noted

theorem IsNoticed.mono (noticed : discovery.IsNoticed opening)
    (same : next.service.daemon = discovery.service.daemon)
    (kept : discovery.arrivals ⊆ next.arrivals)
    (found : ∀ found ∈ next.findings, opening ∈ found ∨ found ∈ discovery.findings)
    (passed : opening.IsPassed discovery.history → opening.IsPassed next.history) :
    next.IsNoticed opening := by
  unfold IsNoticed at *
  rw [same]
  refine noticed.imp (kept ·) fun noticed => ?_
  split at noticed
  · exact fun opened member => (found opened member).elim id (noticed opened)
  · exact noticed.imp passed id
  · exact noticed.imp passed id
  · trivial

theorem isNoticed_startAll {backoff : Backoff} {stream : StreamKey} {windows : List Window}
    (turned : discovery.service.daemon = Daemon.startAll backoff stream windows)
    (noticed : opening ∈ discovery.arrivals ∨ opening.IsPassed discovery.history ∨
      opening.window ∈ windows) : discovery.IsNoticed opening := by
  unfold IsNoticed
  rw [turned]
  cases windows with
  | nil => simpa [Daemon.startAll, Phase.inHand] using noticed
  | cons window later => exact noticed

theorem IsNoticed.turn {answer : Daemon.Answer} {phase : Phase} {service : Service}
    (noticed : discovery.IsNoticed opening) (isOpen : opening ∈ discovery.openings)
    (permitted : discovery.permits (.answer answer) = true)
    (turn : Turn discovery.service.daemon answer phase) (turned : service.daemon = phase) :
    ((discovery.record setup (.answer answer) service).receive (.answer answer)).IsNoticed
      opening := by
  obtain ⟨⟨ensemble, daemon, isOver⟩, serial, openings, arrivals, findings, history⟩ := discovery
  cases turn with
  | subscribed =>
      refine .inr ?_
      simp only [record, receive, turned]
      exact fun found member => List.mem_singleton.mp member ▸ isOpen
  | @listed backoff stream listed =>
      refine isNoticed_startAll turned ?_
      obtain ⟨found, member, same⟩ := List.any_eq_true.mp permitted
      have all := List.isPerm_iff.mp same
      exact noticed.imp id fun finds =>
        .inr (all.mem_iff.mpr (List.mem_map_of_mem (finds found member)))
  | @started backoff stream window later isNew =>
      refine isNoticed_startAll turned (noticed.imp id ?_)
      rintro (passed | waits)
      · exact .inl (isPassed_record passed)
      · rcases List.mem_cons.mp waits with rfl | waits
        · exact .inl ⟨isNew, by simp [record, Service.note?, Phase.inHand, Opening.since, receive]⟩
        · exact .inr waits
  | @arrived backoff stream window =>
      simp only [permits, Option.any_eq_true, beq_iff_eq] at permitted
      obtain ⟨first, head, rfl⟩ := permitted
      obtain ⟨later, rfl⟩ := List.head?_eq_some_iff.mp head
      unfold IsNoticed
      simp only [record, receive, turned]
      rcases noticed with arrives | passed | waits
      · rcases List.mem_cons.mp arrives with rfl | arrives
        · exact .inr (.inr (List.mem_singleton.mpr rfl))
        · exact .inl arrives
      · exact .inr (.inl passed)
      · cases waits
  | unsubscribed | unlisted | failed | ended | drawn | slept | cancelled | drained =>
      refine .inr ?_
      simp only [record, receive, turned]

theorem receive_keeps (discovery : Discovery) (event : Service.Event) :
    (discovery.receive event).service = discovery.service ∧
      (discovery.receive event).openings = discovery.openings ∧
      (discovery.receive event).serial = discovery.serial ∧
      (discovery.receive event).history = discovery.history := by
  unfold receive
  split <;> exact ⟨rfl, rfl, rfl, rfl⟩

theorem IsNoticed.record {event : Service.Event} {service : Service}
    (noticed : discovery.IsNoticed opening) (isOpen : opening ∈ discovery.openings)
    (permitted : discovery.permits event = true)
    (step : Service.Step setup discovery.service event service) :
    ((discovery.record setup event service).receive event).IsNoticed opening := by
  cases step with
  | answer asks admitted turn => exact noticed.turn isOpen permitted turn rfl
  | start | act | cancel | close | returned =>
      exact noticed.mono rfl (List.Subset.refl _) (fun _ => .inr) isPassed_record

theorem step?_service {event : Service.Event}
    (taken : discovery.step? setup (.service event) = some next) :
    discovery.permits event = true ∧ ∃ service,
      discovery.service.step? setup event = some service ∧
      next = (discovery.record setup event service).receive event := by
  simp only [step?] at taken
  split at taken
  next permitted =>
    obtain ⟨service, stepped, rfl⟩ := Option.map_eq_some_iff.mp taken
    exact ⟨permitted, service, stepped, rfl⟩
  next => cases taken

theorem IsSound.step {event : Event} (sound : discovery.IsSound)
    (taken : discovery.step? setup event = some next) : next.IsSound := by
  cases event with
  | opens window =>
      cases taken
      have fresh : ∀ opening ∈ discovery.openings, opening ≠ ⟨discovery.serial, window⟩ := by
        rintro _ isOpen rfl
        exact Nat.lt_irrefl _ (sound.numbered _ isOpen)
      refine ⟨?_, ?_, ?_⟩
      · intro opening isOpen
        rcases List.mem_cons.mp isOpen with rfl | isOpen
        · exact Nat.lt_succ_self _
        · exact Nat.lt_succ_of_lt (sound.numbered opening isOpen)
      · intro opening isOpen
        rcases List.mem_cons.mp isOpen with rfl | isOpen
        · exact List.mem_cons_self
        · exact List.mem_cons_of_mem _ (sound.recorded opening isOpen)
      · intro opening isOpen
        rcases List.mem_cons.mp isOpen with rfl | isOpen
        · exact .inl (by simp)
        · refine (sound.noticed opening isOpen).mono rfl (by simp) ?_
            (isPassed_cons (by simpa using (fresh opening isOpen).symm))
          intro found member
          rcases List.mem_cons.mp member with rfl | member
          · exact .inl (List.mem_cons_of_mem _ isOpen)
          · exact .inr member
  | closes closed =>
      cases taken
      refine ⟨fun opening isOpen => sound.numbered opening (List.mem_of_mem_erase isOpen),
        fun opening isOpen => sound.recorded opening (List.mem_of_mem_erase isOpen), ?_⟩
      intro opening isOpen
      refine (sound.noticed opening (List.mem_of_mem_erase isOpen)).mono rfl
        (List.Subset.refl _) ?_ id
      intro found member
      rcases List.mem_cons.mp member with rfl | member
      · exact .inl isOpen
      · exact .inr member
  | repeats opened =>
      cases taken
      exact ⟨sound.numbered, sound.recorded,
        fun opening isOpen => (sound.noticed opening isOpen).mono rfl (by simp) (fun _ => .inr) id⟩
  | service event =>
      obtain ⟨permitted, service, stepped, rfl⟩ := step?_service taken
      obtain ⟨_, openings, serial, history⟩ :=
        receive_keeps (discovery.record setup event service) event
      refine ⟨?_, ?_, ?_⟩
      · rw [openings, serial]
        exact sound.numbered
      · rw [openings, history]
        exact fun opening isOpen => List.mem_append_right _ (sound.recorded opening isOpen)
      · rw [openings]
        exact fun opening isOpen => (sound.noticed opening isOpen).record isOpen permitted
          (Service.step_of_step? stepped)

theorem Reachable.isSound (reachable : Reachable setup discovery) : discovery.IsSound := by
  induction reachable with
  | fresh => exact ⟨by simp [Discovery.fresh], by simp [Discovery.fresh], by simp [Discovery.fresh]⟩
  | step earlier taken sound => exact sound.step taken

theorem IsSound.noticed_of_following (sound : discovery.IsSound) {backoff : Backoff}
    {stream : StreamKey} (follows : discovery.service.daemon = .following backoff stream)
    (isOpen : opening ∈ discovery.openings) :
    opening.IsPassed discovery.history ∨ opening ∈ discovery.arrivals := by
  have noticed := sound.noticed opening isOpen
  unfold IsNoticed at noticed
  rw [follows] at noticed
  rcases noticed with arrives | passed | waits
  · exact .inr arrives
  · exact .inl passed
  · cases waits

/-- No open window is missed, over any number of connections: while the daemon follows a stream, it
has been passed on to be started since it was opened, or the stream has yet to deliver it. -/
theorem open_windows_discovered (setup : Setup) (discovery : Discovery)
    (reachable : Reachable setup discovery) (backoff : Backoff) (stream : StreamKey)
    (follows : discovery.service.daemon = .following backoff stream) (opening : Opening)
    (isOpen : opening ∈ discovery.openings) :
    opening.IsPassed discovery.history ∨ opening ∈ discovery.arrivals :=
  reachable.isSound.noticed_of_following follows isOpen

end

theorem reachable_of_foldlM {setup : Setup} {discovery : Discovery} {events : List Event}
    (replayed : events.foldlM (step? setup) (.fresh setup) = some discovery) :
    Reachable setup discovery :=
  holds_of_foldlM .step .fresh replayed

def opensWhileListing : List Event :=
  [.opens ⟨1, "lib.rs"⟩, .service (.answer (.reply (.events 1))), .opens ⟨2, "main.rs"⟩,
    .service (.answer (.reply (.windows [⟨1, "lib.rs"⟩]))), .service (.answer (.started true)),
    .service (.answer (.arrived (.window ⟨2, "main.rs"⟩))), .service (.answer (.started true))]

theorem open_windows_discovered_opensWhileListing : ∃ discovery, Reachable Duo.rustOnly discovery ∧
    discovery.openings = [⟨1, 2, "main.rs"⟩, ⟨0, 1, "lib.rs"⟩] ∧ discovery.arrivals = [] ∧
    (Opening.IsPassed ⟨1, 2, "main.rs"⟩ discovery.history ∨
      ⟨1, 2, "main.rs"⟩ ∈ discovery.arrivals) :=
  have reachable := @reachable_of_foldlM Duo.rustOnly _ opensWhileListing rfl
  ⟨_, reachable, rfl, rfl, open_windows_discovered Duo.rustOnly _ reachable _ _ rfl _ (by decide)⟩

end Discovery
end LiveHighlight
