import PageSession.Exchange.Credentials

/-!
Failures of the exchange with the server, and their messages.

Models the `Error` of the exchange.
-/
namespace PageSession.Exchange

inductive Failure where
  | callbackNotFound (id : String)
  | methodNotFound (name : String)
  | emptyCallbackId
  | callbackInFlight (id : String)
  | missingCredential (key : CredentialKey)
  | connectFailed (endpoint reason : String)
  | notConnected
  | stopped
  | io (reason : String)
  | framing (reason : String)
  deriving DecidableEq, Repr

def Failure.message : Failure → String
  | .callbackNotFound id => "callback not found: " ++ id
  | .methodNotFound name => "method not found: " ++ name
  | .emptyCallbackId => "callback id must not be empty"
  | .callbackInFlight id => "callback " ++ id ++ " already has an outstanding request"
  | .missingCredential key => "missing credential: " ++ key.name
  | .connectFailed endpoint reason => "failed to connect to " ++ endpoint ++ ": " ++ reason
  | .notConnected => "transport is not connected"
  | .stopped => "service stopped"
  | .io reason => reason
  | .framing reason => "protocol error: " ++ reason

end PageSession.Exchange
