import PageSession.Message.Content

/-!
Credentials of a session, read from a store of named texts. All five are required and none may be
empty; the first one missing in a fixed order is reported.

Models `CredentialStore` and `Credentials` with `from_store`, `room` and `auth`.
-/
namespace PageSession.Exchange
open Json Message

structure Credentials where
  endpoint : String
  identity : String
  token : String
  session : String
  group : String
  deriving DecidableEq, Repr, Inhabited

inductive CredentialKey where
  | endpoint | identity | token | session | group
  deriving DecidableEq, Repr

def CredentialKey.name : CredentialKey → String
  | .endpoint => "endpoint"
  | .identity => "identity"
  | .token => "token"
  | .session => "session"
  | .group => "group"

namespace Credentials

def lookup (store : String → Option String) (key : CredentialKey) :
    Except CredentialKey String :=
  match store key.name with
  | some value => if value.isEmpty then .error key else .ok value
  | none => .error key

def ofStore (store : String → Option String) : Except CredentialKey Credentials := do
  let endpoint ← lookup store .endpoint
  let identity ← lookup store .identity
  let token ← lookup store .token
  let session ← lookup store .session
  let group ← lookup store .group
  pure { endpoint, identity, token, session, group }

/-- The room that scopes the messages of a session. -/
def room (c : Credentials) : String := c.identity ++ ":" ++ c.session

def caller (c : Credentials) : Caller :=
  { identity := c.identity, token := c.token, group := c.group }

def read : Reader Credentials :=
  Reader.record ["endpoint", "identity", "token", "session", "group"] fun depth slots =>
    match slots with
    | [endpoint, identity, token, session, group] => do
      let endpoint ← Reader.text.required depth endpoint
      let identity ← Reader.text.required depth identity
      let token ← Reader.text.required depth token
      let session ← Reader.text.required depth session
      let group ← Reader.text.required depth group
      pure { endpoint, identity, token, session, group }
    | _ => none

end Credentials
end PageSession.Exchange
