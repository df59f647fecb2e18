import PageSession.Json.Record

/-!
How an outcome is classified, and how a status code decides the class when the server does not
name one.

Models `Severity` with `as_str` and `is_alarming`, `StatusRange` with `contains` and `classify`, and
the lines that `LogFeedback` writes.
-/
namespace PageSession.Message
open Json

inductive Severity where
  | success | info | warn | error | fatal
  deriving DecidableEq, Repr, Inhabited

namespace Severity

def name : Severity → String
  | .success => "success"
  | .info => "info"
  | .warn => "warn"
  | .error => "error"
  | .fatal => "fatal"

def ofName? : String → Option Severity
  | "success" => some .success
  | "info" => some .info
  | "warn" => some .warn
  | "error" => some .error
  | "fatal" => some .fatal
  | _ => none

/-- Outcomes that the user is told about even when the request was silent. -/
def isAlarming : Severity → Bool
  | .success | .info => false
  | .warn | .error | .fatal => true

def isSuccess (s : Severity) : Bool := !s.isAlarming

def read : Reader Severity := Reader.named ofName?

end Severity

def codeLimit : Nat := UInt16.size

/-- Status codes from `start` up to but excluding `stop` count as success. -/
structure StatusRange where
  start : Nat := 200
  stop : Nat := 300
  deriving DecidableEq, Repr, Inhabited

namespace StatusRange

def contains (range : StatusRange) (code : Nat) : Bool := range.start ≤ code && code < range.stop

/-- Success inside the range, a failure of the server from 500 on, and an error elsewhere. -/
def classify (range : StatusRange) (code : Nat) : Severity :=
  if range.contains code then .success else if 500 ≤ code then .fatal else .error

def read : Reader StatusRange :=
  Reader.record ["start", "end"] fun depth slots =>
    match slots with
    | [start, stop] => do
      let start ← (Reader.natBelow codeLimit).required depth start
      let stop ← (Reader.natBelow codeLimit).required depth stop
      pure { start, stop }
    | _ => none

end StatusRange

/-- A line of the log: its level and its fields, the message first. -/
structure LogLine where
  level : String
  fields : List (String × Value)

/-- A notification as a line of the log. -/
def Severity.logLine (severity : Severity) (message : String) : LogLine :=
  let level := match severity with
    | .success | .info => "INFO"
    | .warn => "WARN"
    | .error | .fatal => "ERROR"
  { level, fields := [("message", .text message), ("severity", .text severity.name)] }

/-- A change of the loading indicator as a line of the log. -/
def loadingLine (visible : Bool) (message : Option String) : LogLine :=
  { level := "INFO"
    fields := [("message", .text "loading"), ("show", .bool visible),
      ("message", .text (message.getD ""))] }

end PageSession.Message
