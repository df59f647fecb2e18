import PageSession.Message.Frame

/-!
What frames say: the response to a request, the update that the server pushes unasked, and the
request itself. Optional members are left out when absent; a member that is null in a text reads
as absent.

Models `SubmitPayload` with `into_map`, its `Auth` and `CallbackDescriptor`, `ResponseContent` with
`into_frame`, its `EchoedCallback`, `Reply`, and `UpdateContent` with `decode`.
-/
namespace PageSession.Message
open Json

/-- A member that is written only when present. -/
def optionalMember (name : String) (value : Option Value) : List (String × Value) :=
  match value with
  | some v => [(name, v)]
  | none => []

/-- A flag that is written only when set. -/
def flagMember (name : String) (flag : Bool) : List (String × Value) :=
  if flag then [(name, .bool true)] else []

/-- A text that is written only when it is not empty. -/
def textMember (name : String) (s : String) : List (String × Value) :=
  if s.isEmpty then [] else [(name, .text s)]

/-! ## Responses -/

/-- The callback block that a response echoes. -/
structure Echo where
  id : String
  silent : Bool := false
  deriving DecidableEq, Repr, Inhabited

def Echo.toValue (echo : Echo) : Value :=
  .object (("id", .text echo.id) :: flagMember "silent" echo.silent)

def Echo.read : Reader Echo :=
  Reader.record ["id", "silent"] fun depth slots =>
    match slots with
    | [id, silent] => do
      let id ← Reader.text.required depth id
      let silent ← Reader.bool.orDefault false depth silent
      pure { id, silent }
    | _ => none

/-- The content of a response frame: a message for people, data for the handler, and possibly a
class that overrides the status code or an error that took the place of a normal response. -/
structure Response where
  message : String := ""
  data : Option Value := none
  callback : Option Echo := none
  level : Option Severity := none
  error : Option String := none

def Response.toValue (r : Response) : Value :=
  .object (textMember "message" r.message ++ optionalMember "data" r.data ++
    optionalMember "callback" (r.callback.map Echo.toValue) ++
    optionalMember "level" (r.level.map fun level => .text level.name) ++
    optionalMember "error" (r.error.map .text))

def Response.read : Reader Response :=
  Reader.record ["message", "data", "callback", "level", "error"] fun depth slots =>
    match slots with
    | [message, data, callback, level, error] => do
      let message ← Reader.text.orDefault "" depth message
      let data ← Reader.value.optional depth data
      let callback ← Echo.read.optional depth callback
      let level ← Severity.read.optional depth level
      let error ← Reader.text.optional depth error
      pure { message, data, callback, level, error }
    | _ => none

/-- The response frame that carries a content. -/
def Response.frame (r : Response) (code : Nat) : Incoming :=
  { kind := .response, code, content := r.toValue.write }

/-- The response as a handler sees it. -/
structure Reply where
  code : Nat
  severity : Severity
  message : String
  data : Option Value := none
  args : Option Value := none

def Reply.isSuccess (reply : Reply) : Bool := reply.severity.isSuccess

/-! ## Updates -/

inductive UpdateKind where
  | loadingProgress | statusChange
  deriving DecidableEq, Repr, Inhabited

def UpdateKind.name : UpdateKind → String
  | .loadingProgress => "loading_progress"
  | .statusChange => "status_change"

def UpdateKind.ofName? : String → Option UpdateKind
  | "loading_progress" => some .loadingProgress
  | "status_change" => some .statusChange
  | _ => none

def UpdateKind.read : Reader UpdateKind := Reader.named UpdateKind.ofName?

/-- The content of an update frame. -/
structure Push where
  kind : UpdateKind
  message : String := ""
  data : Option Value := none

def Push.toValue (push : Push) : Value :=
  .object (("kind", .text push.kind.name) :: (textMember "message" push.message ++
    optionalMember "data" push.data))

def Push.read : Reader Push :=
  Reader.record ["kind", "message", "data"] fun depth slots =>
    match slots with
    | [kind, message, data] => do
      let kind ← UpdateKind.read.required depth kind
      let message ← Reader.text.orDefault "" depth message
      let data ← Reader.value.optional depth data
      pure { kind, message, data }
    | _ => none

def Push.frame (push : Push) (code : Nat) : Incoming :=
  { kind := .update, code, content := push.toValue.write }

/-- The update as a subscriber sees it. -/
structure Update where
  kind : UpdateKind
  code : Nat
  message : String
  data : Option Value := none

/-- The update in an update frame, if its content is readable. -/
def Update.ofFrame? (frame : Incoming) : Option Update :=
  (Push.read.ofString? frame.content).map fun push =>
    { kind := push.kind, code := frame.code, message := push.message, data := push.data }

/-! ## Requests -/

/-- Who asks. -/
structure Caller where
  identity : String
  token : String
  group : String
  deriving DecidableEq, Repr, Inhabited

def Caller.toValue (caller : Caller) : Value :=
  .object [("identity", .text caller.identity), ("token", .text caller.token),
    ("group", .text caller.group)]

def Caller.read : Reader Caller :=
  Reader.record ["identity", "token", "group"] fun depth slots =>
    match slots with
    | [identity, token, group] => do
      let identity ← Reader.text.required depth identity
      let token ← Reader.text.required depth token
      let group ← Reader.text.required depth group
      pure { identity, token, group }
    | _ => none

/-- Where the response to a request goes. -/
structure ReplyTo where
  id : String
  args : Option Value := none
  silent : Bool := false

def ReplyTo.toValue (replyTo : ReplyTo) : Value :=
  .object (("id", .text replyTo.id) :: (optionalMember "args" replyTo.args ++
    flagMember "silent" replyTo.silent))

def ReplyTo.read : Reader ReplyTo :=
  Reader.record ["id", "args", "silent"] fun depth slots =>
    match slots with
    | [id, args, silent] => do
      let id ← Reader.text.required depth id
      let args ← Reader.value.optional depth args
      let silent ← Reader.bool.orDefault false depth silent
      pure { id, args, silent }
    | _ => none

/-- The payload of a request for a handler of the server. -/
structure Request where
  auth : Caller
  handler : String
  data : Option Members := none
  callback : ReplyTo

def Request.toValue (request : Request) : Value :=
  .object ([("auth", request.auth.toValue), ("handler", .text request.handler)] ++
    optionalMember "data" (request.data.map .object) ++
    [("callback", request.callback.toValue)])

/-- The request as the payload of a frame. -/
def Request.payload (request : Request) : Members :=
  match request.toValue.sorted with
  | .object members => members
  | _ => []

def Request.read : Reader Request :=
  Reader.record ["auth", "handler", "data", "callback"] fun depth slots =>
    match slots with
    | [auth, handler, data, callback] => do
      let auth ← Caller.read.required depth auth
      let handler ← Reader.text.required depth handler
      let data ← Reader.members.optional depth data
      let callback ← ReplyTo.read.required depth callback
      pure { auth, handler, data, callback }
    | _ => none

end PageSession.Message
