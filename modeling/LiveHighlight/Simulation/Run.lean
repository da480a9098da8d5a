import LiveHighlight.Simulation.Turn

/-!
Running a simulation: until every task waits, and for a stretch of time.
-/

namespace LiveHighlight.Simulation.World

variable {σ : Type} (collaborators : Collaborators σ)

def moveLimit : Nat := 10000000

def settleWithin : Nat → World σ → World σ
  | 0, world => world
  | fuel + 1, world =>
    match world.queue with
    | [] => world
    | id :: _ =>
      let (world, moved) := world.move collaborators id
      match moved with
      | .again => settleWithin fuel world
      | .waits => settleWithin fuel { world with queue := world.queue.tail }
      | .yields => settleWithin fuel { world with queue := world.queue.tail ++ [id] }

def settle (world : World σ) : World σ :=
  world.settleWithin collaborators moveLimit

def nextDue? (world : World σ) : Option Nat :=
  world.timers.foldl (fun earliest timer =>
    match earliest with
    | none => some timer.due
    | some due => some (min due timer.due)) none

def fire (world : World σ) : World σ :=
  let due := world.timers.filter (·.due ≤ world.now)
  { world with timers := world.timers.filter (world.now < ·.due) }.wakeAll (due.map Timer.task)

def runUntil (target : Nat) : Nat → World σ → World σ
  | 0, world => world
  | fuel + 1, world =>
    match world.nextDue? with
    | none => { world with now := max world.now target }
    | some due =>
      if due ≤ target then
        runUntil target fuel ({ world with now := max world.now due }.fire.settle collaborators)
      else { world with now := max world.now target }

def advance (world : World σ) (millis : Nat) : World σ :=
  (world.settle collaborators).runUntil collaborators (world.now + millis) moveLimit

def activeWindows (world : World σ) : List WindowId :=
  world.ensemble.roster.held.mergeSort (· ≤ ·)

def isDone (world : World σ) (id : TaskId) : Bool :=
  match world.tasks[id]? with
  | some ⟨.daemon .done, _, _⟩ => true
  | some ⟨.shutdown isDone, _, _⟩ => isDone
  | _ => false

def heldStreams (world : World σ) : List StreamKey :=
  world.ensemble.duos.flatMap Duo.streams

def streamReader? (world : World σ) (stream : StreamKey) : Job → Option TaskId
  | .session place task =>
    let reader := world.ensemble.duos[place]?.bind Duo.reader
    if reader.any fun reader => reader.phase == .awaiting && reader.stream == stream then task
    else none
  | _ => none

def wakeReaders (world : World σ) (stream : StreamKey) : World σ :=
  world.wakeAll (world.tasks.toList.filterMap fun task => world.streamReader? stream task.job)

def wakeDaemons (world : World σ) : World σ :=
  world.wakeAll (world.tasksWhere fun job =>
    match job with
    | .daemon (.following _ _) => true
    | _ => false)

end LiveHighlight.Simulation.World
