import PageSession.Message.Severity

/-!
Settings of the exchange: how long a request may wait for its response, and which status codes
count as success.

Models `CorrelatorConfig` with `request_timeout`.
-/
namespace PageSession.Exchange
open Json Message

def durationLimit : Nat := UInt64.size

structure Settings where
  timeoutMs : Nat := 30000
  success : StatusRange := {}
  deriving DecidableEq, Repr, Inhabited

/-- Requests wait forever when the timeout is zero. -/
def Settings.timeout? (settings : Settings) : Option Nat :=
  if settings.timeoutMs = 0 then none else some settings.timeoutMs

def Settings.read : Reader Settings :=
  Reader.record ["request_timeout_ms", "success"] fun depth slots =>
    match slots with
    | [timeout, success] => do
      let timeoutMs ← (Reader.natBelow durationLimit).orDefault 30000 depth timeout
      let success ← StatusRange.read.orDefault {} depth success
      pure { timeoutMs, success }
    | _ => none

end PageSession.Exchange
