import PageSession.Page.Context
import PageSession.Exchange.Failure

/-!
Failures while a page is loaded and composed, and their messages. A failed initializer carries
its cause, which may again be such a failure.

Models `LoadError` and `InitError` with their messages.
-/
namespace PageSession.Page

mutual

inductive Failure where
  | alreadyRegistered (name : String)
  | notFound (name : String)
  | invalidPath (text : String)
  | parentMissing (area key : String)
  | reentrant (path : String)
  | initializer (path : String) (cause : Cause)
  | resource (name reason : String)
  | timedOut (missing : List String) (waitedMs : Nat)

/-- Why an initializer failed. -/
inductive Cause where
  | page (failure : Failure)
  | exchange (failure : Exchange.Failure)
  | text (reason : String)

end

instance : Inhabited Failure := ⟨.notFound ""⟩

mutual

def Failure.message : Failure → String
  | .alreadyRegistered name => "module already registered: " ++ name
  | .notFound name => "module not found: " ++ name
  | .invalidPath text => "invalid module path: " ++ Text.quoted text
  | .parentMissing area key =>
    "cannot attach " ++ area ++ "." ++ key ++ ": area " ++ Text.quoted area ++
      " has not been composed"
  | .reentrant path => "re-entrant composition of " ++ path
  | .initializer path cause => "initializer for " ++ path ++ " failed: " ++ cause.message
  | .resource name reason => "resource " ++ name ++ " failed to load: " ++ reason
  | .timedOut missing waitedMs =>
    "bootstrap timed out after " ++ toString waitedMs ++ "ms; never registered: " ++
      ", ".intercalate missing

def Cause.message : Cause → String
  | .page failure => failure.message
  | .exchange failure => failure.message
  | .text reason => reason

end

mutual

/-- The messages of a failure and of its causes, the outermost first. -/
def Failure.chain : Failure → List String
  | .initializer path cause => (Failure.initializer path cause).message :: cause.chain
  | failure => [failure.message]

def Cause.chain : Cause → List String
  | .page failure => failure.chain
  | .exchange failure => [failure.message]
  | .text reason => [reason]

end

/-- The form of a failed lookup in messages; other failures are given by their message. -/
def Failure.describe : Failure → String
  | .notFound name => "ModuleNotFound(" ++ Text.quoted name ++ ")"
  | failure => failure.message

/-- Reads the dotted form of a path or says that it is no path. -/
def NodePath.parse (text : String) : Except Failure NodePath :=
  match NodePath.ofText? text with
  | some path => .ok path
  | none => .error (.invalidPath text)

end PageSession.Page
