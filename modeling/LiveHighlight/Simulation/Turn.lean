import LiveHighlight.Simulation.World

/-!
One move of one task.
-/

namespace LiveHighlight.Simulation

/-- Whether a task goes on at once, waits until it is woken, or lets the others go first. -/
inductive Move where
  | again
  | waits
  | yields
  deriving DecidableEq

/-- A reader lets the others go first after so many items. -/
def burstLimit : Nat := 128

inductive CallEnd where
  | replied (reply : Reply)
  | givenUp

namespace World

variable {σ : Type} (collaborators : Collaborators σ)

def finishCall (world : World σ) (call : Call) : World σ × Option CallEnd :=
  let (reply, state) := collaborators.finish world.state world.now call
  ({ world with state := state }, some (.replied reply))

/-- Makes a call, or looks whether its reply is there. A call whose time is over just as its reply
is there has been answered. -/
def progressCall (world : World σ) (id : TaskId) (wait : Wait) (call : Call) :
    World σ × Option CallEnd :=
  match wait with
  | .call due limit =>
    if due ≤ world.now then world.finishCall collaborators call
    else if limit.any (· ≤ world.now) then (world, some .givenUp)
    else (world, none)
  | _ =>
    match collaborators.begin world.state world.now call with
    | (.replied reply, state) => ({ world with state := state }, some (.replied reply))
    | (.waits 0, state) => { world with state := state }.finishCall collaborators call
    | (.waits millis, state) =>
      let due := world.now + millis
      let world := { world with state := state }.addTimer id due
      if call.isCleanup then
        let limit := Clock.tick (world.instant + StyleLayer.cleanupLimit)
        ((world.addTimer id limit).setWait id (.call due (some limit)), none)
      else (world.setWait id (.call due none), none)

def progressSleep (world : World σ) (id : TaskId) (wait : Wait) (delay : Nat) : World σ × Bool :=
  match wait with
  | .timer due => (world, due ≤ world.now)
  | _ =>
    let due := Clock.tick (world.instant + delay)
    if due ≤ world.now then (world, true)
    else ((world.addTimer id due).setWait id (.timer due), false)

/-! ### Sessions -/

def actSession (world : World σ) (id : TaskId) (place : Nat) (reader : Option TaskId)
    (act : Duo.Act) : World σ × Move :=
  match world.ensemble.act? world.setup world.instant place act with
  | none => (world, .waits)
  | some ensemble =>
    let world := { world with ensemble := ensemble }.moveTo id (.session place reader)
    if ensemble.hasEnded place then (world.wakeAll (world.tasksWhere waitsForDrain), .waits)
    else (world, .again)

def answerSession (world : World σ) (id : TaskId) (place : Nat) (reader : Option TaskId)
    (answer : Session.Answer) : World σ × Move :=
  world.actSession id place reader (.answer answer)

def beginSession (world : World σ) (id : TaskId) (place : Nat) (reader : Option TaskId)
    (request : Session.Request) : World σ × Move :=
  let (world, moved) := world.actSession id place reader .begin
  (if request = .stopReader then reader.elim world world.wake else world, moved)

/-- Looks, in this order, for the deadline and for a message. -/
def watchSession (world : World σ) (id : TaskId) (place : Nat) (duo : Duo)
    (reader : Option TaskId) (wait : Wait) (deadline : Option Nat) : World σ × Move :=
  let due := deadline.map Clock.tick
  if due.any (· ≤ world.now) then world.answerSession id place reader .fired
  else
    match duo.mailbox.take? with
    | some (message, _) =>
      let world := reader.elim world world.wake
      world.answerSession id place reader (.received message)
    | none =>
      if duo.readerFinished then world.answerSession id place reader (.received .closed)
      else
        match wait, due with
        | .fresh, some due => ((world.addTimer id due).setWait id .parked, .waits)
        | _, _ => (world.setWait id .parked, .waits)

def moveSession (world : World σ) (id : TaskId) (place : Nat) (duo : Duo)
    (reader : Option TaskId) (wait : Wait) : World σ × Move :=
  match duo.session.request? world.setup with
  | none => (world, .waits)
  | some request =>
    if Duo.isPreempted world.ensemble.roster.cancelled request then
      world.answerSession id place reader .cancelled
    else if duo.begun.isNone then world.beginSession id place reader request
    else
      match request with
      | .call call =>
        match world.progressCall collaborators id wait call with
        | (world, none) => (world, .waits)
        | (world, some (.replied reply)) => world.answerSession id place reader (.reply reply)
        | (world, some .givenUp) => world.answerSession id place reader .givenUp
      | .draw ceiling =>
        let (nanos, draws) := world.draws.delay ceiling
        { world with draws := draws }.answerSession id place reader (.delay nanos)
      | .sleep delay =>
        match world.progressSleep id wait delay with
        | (world, false) => (world, .waits)
        | (world, true) => world.answerSession id place reader .slept
      | .startReader _ =>
        let (readerId, world) := world.spawn (.reader id)
        world.answerSession id place (some readerId) .readerStarted
      | .watch deadline => world.watchSession id place duo reader wait deadline
      | .stopReader =>
        if duo.readerFinished then world.answerSession id place none .readerStopped
        else (world.setWait id .parked, .waits)

/-! ### Readers -/

def placeOf? (world : World σ) (id owner : TaskId) : Option Nat :=
  match world.tasks[owner]? with
  | some ⟨.session place reader, _, _⟩ => if reader = some id then some place else none
  | _ => none

def actReader (world : World σ) (owner : TaskId) (place : Nat) (act : Duo.Act) :
    World σ × Move :=
  match world.ensemble.act? world.setup world.instant place act with
  | none => (world, .waits)
  | some ensemble => ({ world with ensemble := ensemble }.wake owner, .again)

def readStream (world : World σ) (id owner : TaskId) (place : Nat) (stream : StreamKey)
    (taken : Nat) : World σ × Move :=
  if burstLimit ≤ taken then (world.setTaken id 0, .yields)
  else
    match collaborators.nextEdit world.state stream with
    | none => (world.setTaken id 0, .waits)
    | some (item, state) =>
      let world := { world with state := state }.setTaken id (taken + 1)
      match world.ensemble.act? world.setup world.instant place (.take item) with
      | none => (world, .waits)
      | some ensemble => { world with ensemble := ensemble }.actReader owner place .pass

def moveReader (world : World σ) (id owner : TaskId) (taken : Nat) : World σ × Move :=
  match world.placeOf? id owner with
  | none => (world, .waits)
  | some place =>
    match world.ensemble.duos[place]?.bind Duo.reader with
    | none => (world, .waits)
    | some reader =>
      match reader.phase with
      | .awaiting =>
        if reader.isDismissed world.ensemble.roster.cancelled then
          world.actReader owner place .quit
        else world.readStream collaborators id owner place reader.stream taken
      | .delivering _ => world.actReader owner place .pass
      | .finished => (world, .waits)

/-! ### The daemon and shutdowns -/

def answerDaemon (world : World σ) (id : TaskId) (phase : Daemon.Phase) (answer : Daemon.Answer) :
    World σ × Move :=
  match Daemon.answer? world.setup world.ensemble phase answer with
  | none => (world, .waits)
  | some (ensemble, phase) => ((world.adopt ensemble).moveTo id (.daemon phase), .again)

def moveDaemon (world : World σ) (id : TaskId) (phase : Daemon.Phase) (wait : Wait) :
    World σ × Move :=
  match Daemon.request? phase with
  | none => (world, .waits)
  | some request =>
    if Daemon.isPreempted world.ensemble.roster.cancelled request then
      world.answerDaemon id phase .cancelled
    else
      match request with
      | .call call =>
        match world.progressCall collaborators id wait call with
        | (world, some (.replied reply)) => world.answerDaemon id phase (.reply reply)
        | (world, _) => (world, .waits)
      | .start window =>
        let (isNew, _) := world.ensemble.start world.setup window
        world.answerDaemon id phase (.started isNew)
      | .nextWindow stream =>
        match collaborators.nextWindow world.state stream with
        | none => (world, .waits)
        | some (arrival, state) =>
          { world with state := state }.answerDaemon id phase (.arrived arrival)
      | .draw ceiling =>
        let (nanos, draws) := world.draws.delay ceiling
        { world with draws := draws }.answerDaemon id phase (.delay nanos)
      | .sleep delay =>
        match world.progressSleep id wait delay with
        | (world, false) => (world, .waits)
        | (world, true) => world.answerDaemon id phase .slept
      | .drain =>
        let world := if world.ensemble.roster.closed then world else world.close
        world.answerDaemon id phase .drained

def moveShutdown (world : World σ) (id : TaskId) (isDone : Bool) : World σ × Move :=
  if isDone then (world, .waits)
  else
    let world := if world.ensemble.roster.closed then world else world.close
    (if world.ensemble.roster.isDrained then world.setJob id (.shutdown true) else world, .waits)

def move (world : World σ) (id : TaskId) : World σ × Move :=
  match world.tasks[id]? with
  | none => (world, .waits)
  | some ⟨job, wait, taken⟩ =>
    match job with
    | .session place reader =>
      match world.ensemble.duos[place]? with
      | none => (world, .waits)
      | some duo => world.moveSession collaborators id place duo reader wait
    | .reader owner => world.moveReader collaborators id owner taken
    | .daemon phase => world.moveDaemon collaborators id phase wait
    | .shutdown isDone => world.moveShutdown id isDone

end World
end LiveHighlight.Simulation
