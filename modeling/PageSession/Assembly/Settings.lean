import PageSession.Exchange.Settings

/-!
Settings of the assembly of a page: how long to wait for its resources.

Models `BootstrapConfig`.
-/
namespace PageSession.Assembly
open Json

structure Settings where
  timeoutMs : Nat := 10000
  deriving DecidableEq, Repr, Inhabited

def Settings.read : Reader Settings :=
  Reader.record ["timeout_ms"] fun depth slots =>
    match slots with
    | [timeout] => do
      let timeoutMs ← (Reader.natBelow Exchange.durationLimit).orDefault 10000 depth timeout
      pure { timeoutMs }
    | _ => none

end PageSession.Assembly
