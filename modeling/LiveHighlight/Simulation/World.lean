import LiveHighlight.Simulation.Collaborators

/-!
The state of a simulation: tasks, the queue of those that can go on, and a clock with timers.

Tasks take turns in the order in which they were woken. Timers that are due at the same
millisecond fire in the order in which they were set.
-/

namespace LiveHighlight.Simulation

abbrev TaskId := Nat

inductive Job where
  | session (place : Nat) (reader : Option TaskId)
  | reader (owner : TaskId)
  | daemon (phase : Daemon.Phase)
  | shutdown (isDone : Bool)

inductive Wait where
  | fresh
  | parked
  | timer (due : Nat)
  | call (due : Nat) (limit : Option Nat)

structure Task where
  job : Job
  wait : Wait
  taken : Nat

structure Timer where
  due : Nat
  task : TaskId

structure World (σ : Type) where
  now : Nat
  setup : Setup
  ensemble : Ensemble
  draws : Draws
  state : σ
  tasks : Array Task
  queue : List TaskId
  timers : List Timer

namespace World

variable {σ : Type}

def fresh (setup : Setup) (draws : Draws) (state : σ) : World σ :=
  { now := 0, setup, ensemble := .fresh, draws, state, tasks := #[], queue := [], timers := [] }

def instant (world : World σ) : Nat :=
  Clock.ofMillis world.now

def wake (world : World σ) (task : TaskId) : World σ :=
  if world.queue.contains task then world
  else { world with queue := world.queue ++ [task] }

def wakeAll (world : World σ) (tasks : List TaskId) : World σ :=
  tasks.foldl wake world

def tasksWhere (world : World σ) (holds : Job → Bool) : List TaskId :=
  (List.range world.tasks.size).filter fun id =>
    match world.tasks[id]? with
    | some task => holds task.job
    | none => false

def spawn (world : World σ) (job : Job) : TaskId × World σ :=
  let id := world.tasks.size
  (id, { world with tasks := world.tasks.push ⟨job, .fresh, 0⟩ }.wake id)

def setJob (world : World σ) (id : TaskId) (job : Job) : World σ :=
  { world with tasks := world.tasks.modify id fun task => { task with job := job } }

def setWait (world : World σ) (id : TaskId) (wait : Wait) : World σ :=
  { world with tasks := world.tasks.modify id fun task => { task with wait := wait } }

def setTaken (world : World σ) (id : TaskId) (taken : Nat) : World σ :=
  { world with tasks := world.tasks.modify id fun task => { task with taken := taken } }

def addTimer (world : World σ) (id : TaskId) (due : Nat) : World σ :=
  { world with timers := world.timers ++ [⟨due, id⟩] }

def clearTimers (world : World σ) (id : TaskId) : World σ :=
  { world with timers := world.timers.filter (·.task != id) }

def moveTo (world : World σ) (id : TaskId) (job : Job) : World σ :=
  ((world.clearTimers id).setJob id job).setWait id .fresh

def isReader : Job → Bool
  | .reader .. => true
  | _ => false

def waitsForDrain : Job → Bool
  | .daemon .draining => true
  | .shutdown isDone => !isDone
  | _ => false

/-- Cancels everything. Readers learn of it before the others. -/
def cancel (world : World σ) : World σ :=
  let readers := world.tasksWhere isReader
  let others := world.tasksWhere fun job => !isReader job
  { world with ensemble := world.ensemble.cancel }.wakeAll (readers ++ others)

def close (world : World σ) : World σ :=
  { world.cancel with ensemble := world.ensemble.close }

def adopt (world : World σ) (ensemble : Ensemble) : World σ :=
  let known := world.ensemble.duos.length
  let new := List.range' known (ensemble.duos.length - known)
  new.foldl (fun world place => (world.spawn (.session place none)).2)
    { world with ensemble := ensemble }

def start (world : World σ) (window : Window) : Bool × World σ :=
  let (isNew, ensemble) := world.ensemble.start world.setup window
  (isNew, world.adopt ensemble)

def startDaemon (world : World σ) : TaskId × World σ :=
  let settings := world.setup.settings
  world.spawn (.daemon (Daemon.begin settings.backoffBase settings.backoffCap))

end World
end LiveHighlight.Simulation
