import PageSession.Page.Failure
import PageSession.Table

/-!
The roster of modules that can be composed. A name is given once and for all; every registration
moves the generation on, so that whoever waits for a name can tell that something is new.

Models `ModuleRegistry`: `register`, `resolve`, `contains`, `names` and the turns of `wait_for`.
-/
namespace PageSession.Assembly
open Page

/-- A registered module: `M` is what it is made from. -/
structure Module (M : Type) where
  name : String
  guard : Option Guard := none
  body : M

structure Roster (M : Type) where
  modules : Table (Module M) := {}
  generation : Nat := 0

namespace Roster
variable {M : Type}

def register (roster : Roster M) (m : Module M) : Except Failure (Roster M) :=
  if roster.modules.contains m.name then .error (.alreadyRegistered m.name)
  else .ok { modules := roster.modules.insert m.name m, generation := roster.generation + 1 }

def resolve (roster : Roster M) (name : String) : Except Failure (Module M) :=
  match roster.modules.find? name with
  | some m => .ok m
  | none => .error (.notFound name)

def contains (roster : Roster M) (name : String) : Bool := roster.modules.contains name

/-- The registered names in order. -/
def names (roster : Roster M) : List String :=
  roster.modules.keys.mergeSort fun a b => !(b < a)

def size (roster : Roster M) : Nat := roster.modules.size

end Roster

/-- Somebody who waits for a name; `seen` is the generation of the roster at the last look. -/
structure Waiter where
  name : String
  seen : Nat
  deriving DecidableEq, Repr

/-- Looks for a name; whoever does not find it waits for the next generation. -/
def Roster.await {M : Type} (roster : Roster M) (name : String) : Option Waiter :=
  if roster.contains name then none else some { name, seen := roster.generation }

/-- There is something new since the last look. -/
def Waiter.isWoken {M : Type} (waiter : Waiter) (roster : Roster M) : Bool :=
  waiter.seen ≠ roster.generation

/-- The form of a module in messages about it. -/
def Module.describe {M : Type} (m : Module M) : String :=
  "ModuleDescriptor \x7b name: " ++ Text.quoted m.name ++ ", guard: " ++
    (match m.guard with
      | some guard => "Some(" ++ guard.describe ++ ")"
      | none => "None") ++ ", .. \x7d"

end PageSession.Assembly
