import PageSession.Message.Severity

/-!
Frames on the wire. An outgoing frame carries a payload of its kind; an incoming frame carries a
status code and a content, which is itself a JSON text.

Models `OutboundFrame`, `InboundFrame` and `FrameKind`.
-/
namespace PageSession.Message
open Json

structure Outgoing where
  kind : String
  payload : Members

def Outgoing.toValue (frame : Outgoing) : Value :=
  .object [("type", .text frame.kind), ("payload", .object frame.payload)]

def Outgoing.read : Reader Outgoing :=
  Reader.record ["type", "payload"] fun depth slots =>
    match slots with
    | [kind, payload] => do
      let kind ← Reader.text.required depth kind
      let payload ← Reader.members.required depth payload
      pure { kind, payload }
    | _ => none

/-- The compact text of a frame. -/
def Outgoing.encode (frame : Outgoing) : String := frame.toValue.write

inductive IncomingKind where
  | response | update
  deriving DecidableEq, Repr, Inhabited

def IncomingKind.name : IncomingKind → String
  | .response => "response"
  | .update => "update"

def IncomingKind.ofName? : String → Option IncomingKind
  | "response" => some .response
  | "update" => some .update
  | _ => none

def IncomingKind.read : Reader IncomingKind := Reader.named IncomingKind.ofName?

structure Incoming where
  kind : IncomingKind
  code : Nat
  content : String
  deriving DecidableEq, Repr, Inhabited

def Incoming.toValue (frame : Incoming) : Value :=
  .object [("type", .text frame.kind.name), ("code", .number (.integer frame.code)),
    ("content", .text frame.content)]

def Incoming.read : Reader Incoming :=
  Reader.record ["type", "code", "content"] fun depth slots =>
    match slots with
    | [kind, code, content] => do
      let kind ← IncomingKind.read.required depth kind
      let code ← (Reader.natBelow codeLimit).required depth code
      let content ← Reader.text.required depth content
      pure { kind, code, content }
    | _ => none

end PageSession.Message
