import PageSession.Exchange.Machine

/-!
What the built-in modules keep, and the handlers through which they follow the server. Every
object has notes of its own, found by its serial number. A handler changes the notes of one object
at most: the latest answer that is usable replaces the one before.

Models the state of `Home` and `AdminUsers` and the handlers that they register.
-/
namespace PageSession.Builtin
open Json Message Exchange

/-- What one object has learned from the server. -/
structure Notes where
  summary : Option Value := none
  lastStatus : Option Value := none
  users : List Value := []

/-- The notes of all objects. -/
structure Notebook where
  notes : Nat → Notes := fun _ => {}

def Notebook.update (book : Notebook) (serial : Nat) (change : Notes → Notes) : Notebook :=
  { notes := fun other => if other = serial then change (book.notes serial) else book.notes other }

/-- The handlers of the built-in modules. -/
inductive PageHandler where
  /-- Watches the progress of loading. -/
  | progress
  /-- Keeps the data of the latest status change. -/
  | status (serial : Nat)
  /-- Keeps the summary. -/
  | summary (serial : Nat)
  /-- Keeps the list of users. -/
  | users (serial : Nat)
  /-- Asks for the list of users again. -/
  | refresh
  deriving DecidableEq, Repr

/-- The handlers of a session: those of the built-in modules, and others of type `U`. -/
inductive Handler (U : Type) where
  | page (h : PageHandler)
  | user (u : U)

/-- The callback id under which the list of users arrives. -/
def usersCallback : String := "admin.users.list"

/-- The method that asks for the list of users again. -/
def refreshMethod : String := "users.refresh"

/-- A reply that is a success brings a summary, or takes the summary away when it has no data. -/
def Notes.takeSummary (notes : Notes) (reply : Reply) : Notes :=
  if reply.isSuccess then { notes with summary := reply.data } else notes

/-- A reply that is a success and brings an array replaces the users. -/
def Notes.takeUsers (notes : Notes) (reply : Reply) : Notes :=
  match reply.isSuccess, reply.data with
  | true, some (.array users) => { notes with users }
  | _, _ => notes

/-- What a handler writes down. -/
def PageHandler.note (h : PageHandler) (invocation : Invocation) (book : Notebook) : Notebook :=
  match h, invocation with
  | .status serial, .update update =>
    book.update serial fun notes => { notes with lastStatus := update.data }
  | .summary serial, .reply reply => book.update serial fun notes => notes.takeSummary reply
  | .users serial, .reply reply => book.update serial fun notes => notes.takeUsers reply
  | _, _ => book

/-- The request for the list of users. -/
def usersRequest {H : Type} : Submission H :=
  { handler := "users.list", target := .named usersCallback }

def PageHandler.program {H : Type} : PageHandler → Program H
  | .refresh => .act (.submit usersRequest) fun _ => .finish
  | _ => .finish

/-- How the handlers of a session behave; the others run programs of their own. -/
def behave {U : Type} (programs : U → Invocation → Program (Handler U)) :
    Exchange.Behaviour (Handler U) Notebook :=
  fun h invocation book =>
    match h with
    | .page h => (h.note invocation book, h.program)
    | .user u => (book, programs u invocation)

end PageSession.Builtin
