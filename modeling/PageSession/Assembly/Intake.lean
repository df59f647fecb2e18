import PageSession.Assembly.Roster

/-!
The intake of resources. Each resource that the page admits is loaded once, by a task that runs
whatever its loader prescribes and then waits until the module of that name is registered. A task
runs from one wait to the next; between turns anything may happen to the roster. What became of a
load is kept twice: in the list of tracked names, which everybody can see, and with its task, for
the startup that waits for it.

Models `ResourceInjector`: `inject`, `load_resource`, `outstanding` and `take_completions`, with
`ResourceState`.
-/
namespace PageSession.Assembly
open Page

/-- What a loader does for a resource. -/
inductive Load (M : Type) where
  | finish (result : Except Failure Unit)
  /-- Breaks off without a result. -/
  | die
  | sleep (ms : Nat) (next : Load M)
  | register (m : Module M) (next : Except Failure Unit → Load M)
  | look (next : Roster M → Load M)
  /-- Starts a task of its own for which nobody waits. -/
  | spawn (task : Load M) (next : Load M)

abbrev Loader (M : Type) := Resource → Load M

/-- What became of a resource, for everybody to see. -/
inductive Progress where
  | pending
  | registered
  | failed (reason : String)
  deriving DecidableEq, Repr

/-- Where a task stands. Tickets count moments: a task that was ready or asleep earlier has the
smaller one. -/
inductive Phase (M : Type) where
  | ready (ticket : Nat) (load : Load M)
  | asleep (due ticket : Nat) (load : Load M)
  | awaiting (waiter : Waiter)
  | ended (result : Except Failure Unit)
  | died

/-- A task; one without a resource was started by another. -/
structure Task (M : Type) where
  resource : Option Resource
  phase : Phase M

structure Intake (M : Type) where
  now : Nat := 0
  tickets : Nat := 0
  tracked : Table Progress := {}
  tasks : List (Task M) := []
  /-- The tasks of the loads that no startup has waited for. -/
  unclaimed : List Nat := []

namespace Intake
variable {M : Type}

def ticket (intake : Intake M) : Nat × Intake M :=
  (intake.tickets, { intake with tickets := intake.tickets + 1 })

/-- Adds a task that is ready to run. -/
def start (intake : Intake M) (resource : Option Resource) (load : Load M) : Intake M :=
  let (ticket, intake) := intake.ticket
  { intake with tasks := intake.tasks ++ [{ resource, phase := .ready ticket load }] }

/-- Starts to load the resources that the page admits and that are not tracked yet; counts them. -/
def inject (loader : Loader M) (page : Context) :
    List Resource → Intake M → Nat × Intake M
  | [], intake => (0, intake)
  | resource :: rest, intake =>
    if !resource.admitted page || intake.tracked.contains resource.name then
      inject loader page rest intake
    else
      let intake := { intake with
        tracked := intake.tracked.insert resource.name .pending
        unclaimed := intake.unclaimed ++ [intake.tasks.length] }
      let started := intake.start (some resource) (loader resource)
      let (count, intake) := inject loader page rest started
      (count + 1, intake)

/-- The names that have neither been registered nor failed. -/
def outstanding (intake : Intake M) : List String :=
  (intake.tracked.entries.filter fun entry => entry.2 = .pending).map Prod.fst

/-! ## Turns of tasks -/

def setPhase (intake : Intake M) (index : Nat) (phase : Phase M) : Intake M :=
  match intake.tasks[index]? with
  | some task => { intake with tasks := intake.tasks.set index { task with phase } }
  | none => intake

/-- The failure that is reported for a load: one about modules or resources as it is, any other as
the reason why the resource failed. -/
def reported (resource : Option Resource) (failure : Failure) : Failure :=
  match failure, resource with
  | .resource about reason, _ => .resource about reason
  | .alreadyRegistered about, _ => .alreadyRegistered about
  | .notFound about, _ => .notFound about
  | failure, some resource => .resource resource.name failure.message
  | failure, none => failure

def progressOf : Except Failure Unit → Progress
  | .ok () => .registered
  | .error failure => .failed failure.message

/-- A task has come to its result; for a resource everybody learns of it. -/
def conclude (intake : Intake M) (index : Nat) (resource : Option Resource)
    (result : Except Failure Unit) : Intake M :=
  match resource with
  | none => intake.setPhase index (.ended result)
  | some resource =>
    { intake.setPhase index (.ended result) with
      tracked := intake.tracked.insert resource.name (progressOf result) }

/-- A load that succeeded is not done before the module of its name is registered. -/
def await (intake : Intake M) (index : Nat) (resource : Option Resource) (roster : Roster M) :
    Intake M :=
  match resource.bind fun resource => roster.await resource.name with
  | some waiter => intake.setPhase index (.awaiting waiter)
  | none => intake.conclude index resource (.ok ())

/-- Runs a task up to its next wait. -/
def runTask (index : Nat) (resource : Option Resource) :
    Load M → Roster M → Intake M → Roster M × Intake M
  | .finish (.ok ()), roster, intake => (roster, intake.await index resource roster)
  | .finish (.error failure), roster, intake =>
    (roster, intake.conclude index resource (.error (reported resource failure)))
  | .die, roster, intake => (roster, intake.setPhase index .died)
  | .sleep ms next, roster, intake =>
    if ms = 0 then runTask index resource next roster intake
    else
      let (ticket, intake) := intake.ticket
      (roster, intake.setPhase index (.asleep (intake.now + ms) ticket next))
  | .register m next, roster, intake =>
    match roster.register m with
    | .ok roster => runTask index resource (next (.ok ())) roster intake
    | .error failure => runTask index resource (next (.error failure)) roster intake
  | .look next, roster, intake => runTask index resource (next roster) roster intake
  | .spawn task next, roster, intake =>
    runTask index resource next roster (intake.start none task)

/-- One turn of a task. A task that sleeps or that has nothing new to look at keeps waiting. -/
def turn (index : Nat) (roster : Roster M) (intake : Intake M) : Roster M × Intake M :=
  match intake.tasks[index]? with
  | none => (roster, intake)
  | some task =>
    match task.phase with
    | .ready _ load => runTask index task.resource load roster intake
    | .awaiting waiter =>
      if waiter.isWoken roster then (roster, intake.await index task.resource roster)
      else (roster, intake)
    | .asleep _ _ _ | .ended _ | .died => (roster, intake)

/-- The tasks that sleep, with the time at which they are due and their ticket. -/
def sleepers (intake : Intake M) : List (Nat × Nat × Nat × Load M) :=
  intake.tasks.zipIdx.filterMap fun (task, index) =>
    match task.phase with
    | .asleep due ticket load => some (due, ticket, index, load)
    | _ => none

/-- Wakes every task that is due, the earliest first. -/
def ring (intake : Intake M) : Intake M :=
  let due := intake.sleepers.filter fun sleeper => sleeper.1 ≤ intake.now
  let ordered := due.mergeSort fun a b => a.1 < b.1 || (a.1 = b.1 && a.2.1 ≤ b.2.1)
  ordered.foldl (fun intake sleeper =>
    let (ticket, intake) := intake.ticket
    intake.setPhase sleeper.2.2.1 (.ready ticket sleeper.2.2.2)) intake

/-- The time at which the next task is due. -/
def nextDue? (intake : Intake M) : Option Nat := (intake.sleepers.map fun sleeper => sleeper.1).min?

/-! ## A run of all tasks -/

/-- The ready task with the smallest ticket. -/
def firstReady? (intake : Intake M) : Option Nat :=
  let ready := intake.tasks.zipIdx.filterMap fun (task, index) =>
    match task.phase with
    | .ready ticket _ => some (ticket, index)
    | _ => none
  (ready.mergeSort fun a b => a.1 ≤ b.1).head?.map Prod.snd

/-- The first task that waits for a name and has something new to look at. -/
def firstWoken? (intake : Intake M) (roster : Roster M) : Option Nat :=
  intake.tasks.findIdx? fun task =>
    match task.phase with
    | .awaiting waiter => waiter.isWoken roster
    | _ => false

def isDue (intake : Intake M) : Bool :=
  intake.sleepers.any fun sleeper => sleeper.1 ≤ intake.now

/-- Turns until every task waits for a later time or a new module, but no more than so many. -/
def settle : Nat → Roster M → Intake M → Roster M × Intake M
  | 0, roster, intake => (roster, intake)
  | turns + 1, roster, intake =>
    match intake.firstReady? with
    | some index =>
      let (roster, intake) := intake.turn index roster
      settle turns roster intake
    | none =>
      if intake.isDue then settle turns roster intake.ring
      else match intake.firstWoken? roster with
        | some index =>
          let (roster, intake) := intake.turn index roster
          settle turns roster intake
        | none => (roster, intake)

/-- Time passes. -/
def advance (intake : Intake M) (ms : Nat) : Intake M := { intake with now := intake.now + ms }

end Intake
end PageSession.Assembly
