import PageSession.Assembly.Startup
import PageSession.Builtin.Handler

/-!
The built-in modules. The landing area follows status changes and asks for a summary; the
administration area has no state; user management below it asks for the list of users. Their
resources are loaded at once, by registering the module.

Models `StaticLoader` with `find_builtin` and the installers `install_home`, `install_admin` and
`install_admin_users`.
-/
namespace PageSession.Builtin
open Page Message Exchange Assembly

inductive Kind where
  | home | admin | users
  deriving DecidableEq, Repr

def adminRole : String := "admin"

namespace Kind

def all : List Kind := [.home, .admin, .users]

/-- The name of the module. -/
def name : Kind → String
  | .home => "home"
  | .admin => "admin"
  | .users => "admin.users"

def locator (kind : Kind) : String := "builtin:" ++ kind.name

def ofLocator? (locator : String) : Option Kind :=
  all.find? fun kind => kind.locator = locator

def guard? : Kind → Option Guard
  | .home => none
  | .admin | .users => some (.forRole adminRole)

/-- The resource that brings the module. -/
def resource (kind : Kind) : Resource := { name := kind.name, locator := kind.locator }

end Kind

/-- The module of a kind; `embed` says what modules are made from. -/
def moduleOf {M : Type} (embed : Kind → M) (kind : Kind) : Module M :=
  { name := kind.name, guard := kind.guard?, body := embed kind }

/-- Loads the resources of built-in modules; no other locator leads anywhere. -/
def loader {M : Type} (embed : Kind → M) : Loader M := fun resource =>
  match Kind.ofLocator? resource.locator with
  | some kind => .register (moduleOf embed kind) .finish
  | none =>
    .finish (.error (.resource resource.name ("no built-in resource at " ++ resource.locator)))

/-! ## Initializers -/

/-- How initializers reach the exchange among the services, if there is one. -/
structure Access (S H : Type) where
  get? : S → Option (Desk H Notebook)
  put : Desk H Notebook → S → S

/-- Works on the exchange; fails where there is none. -/
def throughExchange {M S H : Type} (access : Access S H)
    (work : Desk H Notebook → Except Exchange.Failure Unit × Desk H Notebook) : Initializer M S :=
  .look fun view =>
    .use
      (fun services =>
        match access.get? services with
        | some desk => access.put (work desk).2 services
        | none => services)
      (fun before =>
        match access.get? before with
        | none => .fail (.text (view.path.text ++ ": no correlator provided"))
        | some desk =>
          match (work desk).1 with
          | .ok () => .finish
          | .error failure => .fail (.exchange failure))

variable {U : Type}

/-- Follows updates and asks for a summary, without any sign to the user. -/
def openHome (serial : Nat) (desk : Desk (Handler U) Notebook) :
    Except Exchange.Failure Unit × Desk (Handler U) Notebook :=
  let following := (desk.subscribe .loadingProgress (.page .progress)).subscribe .statusChange
    (.page (.status serial))
  match following.submit
      { handler := "dashboard.summary", target := .inline (.page (.summary serial))
        silent := true } with
  | (some result, desk) => (result.map fun _ => (), desk)
  -- The ids of a session do not run out: they count from 0, one for each submission.
  | (none, desk) => (.ok (), desk)

/-- The steps that one refresh takes: the method begins, performs its only action and ends. -/
def refreshSteps : Nat := 8

/-- Expects lists of users, offers to ask for them again, and asks for the first one. -/
def openUsers (programs : U → Invocation → Program (Handler U)) (serial : Nat)
    (desk : Desk (Handler U) Notebook) :
    Except Exchange.Failure Unit × Desk (Handler U) Notebook :=
  let (_, expecting) := desk.register usersCallback (.page (.users serial)) .durable
  let (_, offering) := expecting.registerMethod refreshMethod (.page .refresh)
  match offering.perform (behave programs) refreshSteps (.call refreshMethod []) with
  | (some (.done result), desk) => (result, desk)
  | (_, desk) => (.ok (), desk)

/-- The initializer of an object of a built-in module. -/
def initializer? {M S : Type} (access : Access S (Handler U))
    (programs : U → Invocation → Program (Handler U)) (serial : Nat) :
    Kind → Option (Initializer M S)
  | .home => some (throughExchange access (openHome serial))
  | .admin => none
  | .users => some (throughExchange access (openUsers programs serial))

end PageSession.Builtin
