import PageSession.Exchange.Agenda
import PageSession.Json.Describe

/-!
The parts of a desk as they appear in messages about them. Handlers are not shown.

Models the texts that describe `Correlator`, `TransportClient`, `CallbackRegistry` and
`UpdateRouter`.
-/
namespace PageSession.Exchange
open Json Message

def Status.describe : Status → String
  | .disconnected => "Disconnected"
  | .connecting => "Connecting"
  | .connected => "Connected"

def Link.describe (link : Link) : String :=
  describeRecord "TransportClient"
    [("endpoint", Text.quoted link.credentials.endpoint),
      ("room", Text.quoted link.credentials.room), ("status", link.status.describe)] true

def Settings.describe (settings : Settings) : String :=
  describeRecord "CorrelatorConfig"
    [("request_timeout_ms", toString settings.timeoutMs),
      ("success", describeRecord "StatusRange"
        [("start", toString settings.success.start), ("end", toString settings.success.stop)]
        false)] false

def UpdateKind.describe : UpdateKind → String
  | .loadingProgress => "LoadingProgress"
  | .statusChange => "StatusChange"

def Subscribers.describe {H : Type} (subscribers : Subscribers H) : String :=
  let shown := [UpdateKind.loadingProgress, .statusChange].filterMap fun kind =>
    match (subscribers.ofKind kind).length with
    | 0 => none
    | count => some (UpdateKind.describe kind ++ ": " ++ toString count)
  "\x7b" ++ ", ".intercalate shown ++ "\x7d"

def Submission.describe {H : Type} (s : Submission H) : String :=
  let target := match s.target with
    | .named id => "Named(" ++ Text.quoted id ++ ")"
    | .inline _ => "Inline(..)"
  describeRecord "Submission"
    [("handler", Text.quoted s.handler), ("target", target),
      ("data", describeOption Members.describe s.data),
      ("args", describeOption Value.describe s.args), ("silent", toString s.silent)] false

namespace Desk
variable {H W : Type}

def describeCallbacks (desk : Desk H W) : String :=
  describeRecord "CallbackRegistry"
    [("callbacks", toString desk.callbacks.size), ("methods", toString desk.methods.size)] false

def describe (desk : Desk H W) : String :=
  describeRecord "Correlator"
    [("client", desk.link.describe), ("callbacks", desk.describeCallbacks),
      ("outstanding", toString desk.calls.size), ("config", desk.settings.describe)] true

def description (desk : Desk H W) : Subject H → String
  | .desk => desk.describe
  | .link => desk.link.describe
  | .callbacks => desk.describeCallbacks
  | .subscribers => desk.subscribers.describe
  | .submission s => s.describe

def answer (desk : Desk H W) : Question H → Answer
  | .hasCallback id => .flag (desk.callbacks.contains id)
  | .hasMethod name => .flag (desk.methods.contains name)
  | .isOutstanding id => .flag (desk.calls.contains id)
  | .lifetime id => .lifetime (desk.lifetime? id)
  | .subscriberCount kind => .count (desk.subscribers.ofKind kind).length
  | .room => .text desk.link.credentials.room
  | .description subject => .text (desk.description subject)

end Desk
end PageSession.Exchange
