import PageSession.Exchange.Dialer
import PageSession.Session.Configuration

/-!
The start of a session: read the credentials, connect, and build the page. Responses that arrive
in the meantime are handled once the session runs.

Models `Session` with `start`.
-/
namespace PageSession
open Page Message Exchange Assembly Builtin

/-- A connected page. `U` is the type of the handlers that do not belong to built-in modules. -/
structure Session (U : Type) where
  tree : Assembly.Tree (Object Kind)
  desk : Desk (Handler U) Notebook
  /-- The line whose frames are handled once the session runs. -/
  line : Option Nat

namespace Session

inductive StartFailure where
  | credentials (failure : Exchange.Failure)
  | connection (failure : Exchange.Failure)
  | startup (failure : Page.Failure)

/-- What was being done, and then the failure and its causes. -/
def StartFailure.chain : StartFailure → List String
  | .credentials failure => ["reading credentials", failure.message]
  | .connection failure => ["connecting to server", failure.message]
  | .startup failure => "bootstrapping page" :: failure.chain

/-- The exchange is the only service of a session. -/
def access {U : Type} : Access (Desk (Handler U) Notebook) (Handler U) where
  get? := some
  put desk _ := desk

/-- How built-in modules behave in a session. -/
def moduleBehaviour {U : Type} (programs : U → Invocation → Program (Handler U)) :
    Assembly.Behaviour Kind (Desk (Handler U) Notebook) where
  construct _ desk := desk
  initializer object := initializer? access programs object.serial object.body

/-- The steps that the composition of one path takes: built-in modules compose no further paths. -/
def stepsPerPath : Nat := 16

variable {U : Type}

/-- Builds the page of a connected session. -/
def build (programs : U → Invocation → Program (Handler U)) (configuration : Configuration)
    (desk : Desk (Handler U) Notebook) : Option (Except StartFailure (Session U)) :=
  let resources := configuration.resources
  let startup : Startup Kind (Desk (Handler U) Notebook) :=
    { settings := configuration.startup
      workshop := { page := configuration.page, services := { desk with stream := none } }
      intake := (Intake.inject (loader id) configuration.page resources {}).2 }
  match startup.bootstrap (moduleBehaviour programs) (2 * resources.length + 1) stepsPerPath
      configuration.interfaces with
  | (some (.ok ()), startup) => some (.ok
      { tree := startup.workshop.tree, desk := startup.workshop.services, line := desk.stream })
  | (some (.error failure), _) => some (.error (.startup failure))
  | (none, _) => none

/-- Starts a session over a dialer; the lines are those that exist from the start. Without
credentials the dialer is not used. -/
def start (programs : U → Invocation → Program (Handler U)) (configuration : Configuration)
    (dialer : Dialer) (lines : List Line) :
    Option (Except StartFailure (Session U)) × Dialer :=
  match Credentials.ofStore configuration.store with
  | .error key => (some (.error (.credentials (.missingCredential key))), dialer)
  | .ok credentials =>
    let desk : Desk (Handler U) Notebook :=
      { settings := configuration.exchange, link := { credentials, lines }, page := {} }
    match desk.connectThrough dialer with
    | (.error failure, dialer, _) => (some (.error (.connection failure)), dialer)
    | (.ok (), dialer, desk) => (build programs configuration desk, dialer)

/-- Starts to handle what the server sends; whether that had not been started before. -/
def run (session : Session U) : Bool × Session U :=
  match session.line with
  | none => (false, session)
  | some line => (true, { session with line := none, desk := session.desk.serveLine line })

/-- The notes of the object that a path holds, if it is of the given kind. -/
def notes? (session : Session U) (kind : Kind) (path : NodePath) : Option Notes :=
  (session.tree.get? path).bind fun object =>
    if object.body = kind then some (session.desk.page.notes object.serial) else none

/-- The notes of the landing area. -/
def home? (session : Session U) : Option Notes := session.notes? .home { area := "home" }

/-- The notes of the user management. -/
def users? (session : Session U) : Option Notes :=
  session.notes? .users { area := "admin", key := some "users" }

end Session
end PageSession
