import PageSession.Assembly.Roster
import PageSession.Assembly.Tree

/-!
Composition of a page. Composing a path constructs its module, attaches the object and then runs
its initializer, which may compose further paths, to any depth; the machine keeps the initializers
that wait on a stack. A path is refused while its own initializer runs, and so is an area while the
initializer of one of its keys runs. A failed initializer takes its path out of the tree again.

Models `Composer` with `compose` and `InitContext`, and the `Initializable` modules that it runs.
-/
namespace PageSession.Assembly
open Page

/-- A constructed module. Objects are numbered in the order of their construction. -/
structure Object (M : Type) where
  serial : Nat
  body : M

inductive Outcome where
  | attached | vacant
  deriving DecidableEq, Repr

/-- What an initializer sees. -/
structure View (M : Type) where
  path : NodePath
  object : Object M
  tree : Tree (Object M)
  page : Context

/-- What an initializer does; `S` holds the services that it may use. -/
inductive Initializer (M S : Type) where
  | finish
  | fail (cause : Cause)
  | compose (path : NodePath) (next : Except Failure Outcome → Initializer M S)
  | register (m : Module M) (next : Except Failure Unit → Initializer M S)
  | look (next : View M → Initializer M S)
  /-- Uses the services, and continues in view of what they were before. -/
  | use (effect : S → S) (next : S → Initializer M S)

/-- How modules behave: what their constructor does to the services, and the initializer of the
object, if it has one. -/
structure Behaviour (M S : Type) where
  construct : Object M → S → S
  initializer : Object M → Option (Initializer M S)

structure Workshop (M S : Type) where
  roster : Roster M := {}
  tree : Tree (Object M) := {}
  page : Context := {}
  /-- How many objects have been constructed. -/
  made : Nat := 0
  services : S

/-- An initializer that waits for a path it composes. -/
structure Waiting (M S : Type) where
  path : NodePath
  object : Object M
  next : Except Failure Outcome → Initializer M S

inductive Composition (M S : Type) where
  | compose (path : NodePath)
  | run (path : NodePath) (object : Object M) (program : Initializer M S)
  | answer (result : Except Failure Outcome)

/-- A composition in progress; the initializers that wait are listed from the innermost out. -/
structure Composing (M S : Type) where
  control : Composition M S
  stack : List (Waiting M S) := []
  workshop : Workshop M S

namespace Workshop
variable {M S : Type}

/-- A path that may not be composed while others are. -/
def isBusy (busy : List NodePath) (path : NodePath) : Bool :=
  busy.any fun b => b = path || (path.key.isNone && b.area = path.area)

/-- Constructs a module. -/
def construct (workshop : Workshop M S) (behave : Behaviour M S) (m : Module M) :
    Object M × Workshop M S :=
  let object : Object M := { serial := workshop.made, body := m.body }
  (object, { workshop with
    made := workshop.made + 1, services := behave.construct object workshop.services })

def attach (workshop : Workshop M S) (path : NodePath) (object : Option (Object M)) :
    Except Failure (Workshop M S) :=
  (workshop.tree.attach path object).map fun tree => { workshop with tree }

def register (workshop : Workshop M S) (m : Module M) : Except Failure Unit × Workshop M S :=
  match workshop.roster.register m with
  | .ok roster => (.ok (), { workshop with roster })
  | .error failure => (.error failure, workshop)

end Workshop

namespace Composing
variable {M S : Type}

/-- The paths whose initializer has not ended, the innermost first. -/
def composing (c : Composing M S) : List NodePath :=
  match c.control with
  | .run path _ _ => path :: c.stack.map Waiting.path
  | _ => c.stack.map Waiting.path

def give (result : Except Failure Outcome) (workshop : Workshop M S)
    (stack : List (Waiting M S)) : Composing M S :=
  { control := .answer result, stack, workshop }

/-- Attaches a module that its guard lets through, and starts its initializer. -/
def build (behave : Behaviour M S) (path : NodePath) (m : Module M) (workshop : Workshop M S)
    (stack : List (Waiting M S)) : Composing M S :=
  let (object, made) := workshop.construct behave m
  match made.attach path (some object) with
  | .error failure => give (.error failure) made stack
  | .ok workshop =>
    match behave.initializer object with
    | none => give (.ok .attached) workshop stack
    | some program => { control := .run path object program, stack, workshop }

/-- Composes a path up to its initializer. -/
def compose (behave : Behaviour M S) (path : NodePath) (workshop : Workshop M S)
    (stack : List (Waiting M S)) : Composing M S :=
  if Workshop.isBusy (stack.map Waiting.path) path then
    give (.error (.reentrant path.text)) workshop stack
  else match workshop.roster.resolve path.text with
    | .error failure => give (.error failure) workshop stack
    | .ok m =>
      if path.isNested && !workshop.tree.contains { area := path.area } then
        give (.error (.parentMissing path.area (path.key.getD ""))) workshop stack
      else if m.guard.all fun guard => guard.allows workshop.page then
        build behave path m workshop stack
      else match workshop.attach path none with
        | .ok workshop => give (.ok .vacant) workshop stack
        | .error failure => give (.error failure) workshop stack

/-- One step of an initializer. -/
def advance (path : NodePath) (object : Object M) (program : Initializer M S)
    (workshop : Workshop M S) (stack : List (Waiting M S)) : Composing M S :=
  match program with
  | .finish => give (.ok .attached) workshop stack
  | .fail cause =>
    give (.error (.initializer path.text cause))
      { workshop with tree := workshop.tree.detach path } stack
  | .compose inner next =>
    { control := .compose inner, stack := { path, object, next } :: stack, workshop }
  | .register m next =>
    let (result, workshop) := workshop.register m
    { control := .run path object (next result), stack, workshop }
  | .look next =>
    let view : View M := { path, object, tree := workshop.tree, page := workshop.page }
    { control := .run path object (next view), stack, workshop }
  | .use effect next =>
    { control := .run path object (next workshop.services), stack
      workshop := { workshop with services := effect workshop.services } }

/-- One step. A composition that has answered and that nobody waits for stays as it is. -/
def step (behave : Behaviour M S) (c : Composing M S) : Composing M S :=
  match c.control with
  | .compose path => compose behave path c.workshop c.stack
  | .run path object program => advance path object program c.workshop c.stack
  | .answer result =>
    match c.stack with
    | [] => c
    | waiting :: stack =>
      { control := .run waiting.path waiting.object (waiting.next result), stack
        workshop := c.workshop }

def result? (c : Composing M S) : Option (Except Failure Outcome) :=
  match c.control, c.stack with
  | .answer result, [] => some result
  | _, _ => none

/-- Steps until the composition has answered, but no more than so many times. -/
def run (behave : Behaviour M S) : Nat → Composing M S → Composing M S
  | 0, c => c
  | budget + 1, c => if c.result?.isSome then c else run behave budget (c.step behave)

end Composing

namespace Workshop
variable {M S : Type}

/-- Composes a path with all that its initializers compose, in no more than so many steps. -/
def compose (behave : Behaviour M S) (budget : Nat) (workshop : Workshop M S)
    (path : NodePath) : Option (Except Failure Outcome) × Workshop M S :=
  let c := Composing.run behave budget { control := .compose path, workshop }
  (c.result?, c.workshop)

/-- Composes paths in order up to the first failure. -/
def composeAll (behave : Behaviour M S) (budget : Nat) :
    List NodePath → Workshop M S → Option (Except Failure Unit) × Workshop M S
  | [], workshop => (some (.ok ()), workshop)
  | path :: rest, workshop =>
    match workshop.compose behave budget path with
    | (some (.ok _), workshop) => composeAll behave budget rest workshop
    | (some (.error failure), workshop) => (some (.error failure), workshop)
    | (none, workshop) => (none, workshop)

end Workshop
end PageSession.Assembly
