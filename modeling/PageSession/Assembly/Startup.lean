import PageSession.Assembly.Workshop
import PageSession.Assembly.Intake
import PageSession.Assembly.Settings

/-!
The startup of a page: wait until every resource has been registered, then compose the paths in
order. The first failed load ends the wait, and so does the deadline; in both cases nothing is
composed.

Models `BootstrapCoordinator` with `bootstrap`.
-/
namespace PageSession.Assembly
open Page

/-- A page under construction. -/
structure Startup (M S : Type) where
  settings : Settings := {}
  workshop : Workshop M S
  intake : Intake M := {}

/-- How many loads a startup watches all at once. -/
def watchLimit : Nat := 30

/-- The first failure; success when every load has succeeded. -/
def firstFailure : List (Option (Except Failure Unit)) → Option (Except Failure Unit)
  | [] => some (.ok ())
  | some (.error failure) :: _ => some (.error failure)
  | some (.ok ()) :: rest => firstFailure rest
  | none :: rest =>
    match firstFailure rest with
    | some (.error failure) => some (.error failure)
    | _ => none

/-- The outcome of loads that are waited for one after the other. -/
def inTurn : List (Option (Except Failure Unit)) → Option (Except Failure Unit)
  | [] => some (.ok ())
  | some (.ok ()) :: rest => inTurn rest
  | outcome :: _ => outcome

/-- The outcome of loads as far as it is known: few are watched all at once, more than the limit
one after the other. -/
def gather (outcomes : List (Option (Except Failure Unit))) : Option (Except Failure Unit) :=
  if outcomes.length ≤ watchLimit then firstFailure outcomes else inTurn outcomes

namespace Intake
variable {M : Type}

/-- What came of the load of a task. -/
def outcome? (intake : Intake M) (index : Nat) : Option (Except Failure Unit) :=
  match intake.tasks[index]? with
  | some { resource := some resource, phase := .died } =>
    some (.error (.resource resource.name "loader task dropped"))
  | some { phase := .ended result, .. } => some result
  | _ => none

end Intake

namespace Startup
variable {M S : Type}

/-- Lets all tasks run that can, in no more than so many turns. -/
def settle (turns : Nat) (startup : Startup M S) : Startup M S :=
  let (roster, intake) := startup.intake.settle turns startup.workshop.roster
  { startup with workshop := { startup.workshop with roster }, intake }

def advance (startup : Startup M S) (ms : Nat) : Startup M S :=
  { startup with intake := startup.intake.advance ms }

/-- Lets time pass until a question has an answer or the deadline has come. The question comes
before the deadline, and the deadline before the tasks that are due at the same time. -/
def waitUntil {α : Type} (ask : Startup M S → Option α) (turns deadline : Nat)
    (startup : Startup M S) : Option α × Startup M S :=
  match ask startup with
  | some answer => (some answer, startup)
  | none =>
    if deadline ≤ startup.intake.now then (none, startup)
    else
      let settled := startup.settle turns
      match ask settled with
      | some answer => (some answer, settled)
      | none =>
        let due := (settled.intake.nextDue?.getD deadline).min deadline
        let next := due.max (startup.intake.now + 1)
        waitUntil ask turns deadline
          { settled with intake := { settled.intake with now := next } }
termination_by deadline - startup.intake.now
decreasing_by
  simp only [Nat.max_def]
  split <;> omega

/-- Waits for all loads that no startup has waited for yet. -/
def waitForLoads (turns : Nat) (startup : Startup M S) :
    Except Failure Unit × Startup M S :=
  let claimed := startup.intake.unclaimed
  let startup := { startup with intake := { startup.intake with unclaimed := [] } }
  let ask (startup : Startup M S) := gather (claimed.map startup.intake.outcome?)
  match startup.waitUntil ask turns (startup.intake.now + startup.settings.timeoutMs) with
  | (some result, startup) => (result, startup)
  | (none, startup) =>
    (.error (.timedOut startup.intake.outstanding startup.settings.timeoutMs), startup)

/-- Waits for the loads and then composes paths in order, each in no more than so many steps. -/
def bootstrap (behave : Behaviour M S) (turns budget : Nat) (startup : Startup M S)
    (paths : List NodePath) : Option (Except Failure Unit) × Startup M S :=
  match startup.waitForLoads turns with
  | (.error failure, startup) => (some (.error failure), startup)
  | (.ok (), startup) =>
    let (result, workshop) := startup.workshop.composeAll behave budget paths
    (result, { startup with workshop })

/-- Whether a module is registered within a time. -/
def waitForModule (turns : Nat) (startup : Startup M S) (name : String) (ms : Nat) :
    Bool × Startup M S :=
  let ask (startup : Startup M S) := if startup.workshop.roster.contains name then some () else none
  let (found, startup) := startup.waitUntil ask turns (startup.intake.now + ms)
  (found.isSome, startup)

end Startup
end PageSession.Assembly
