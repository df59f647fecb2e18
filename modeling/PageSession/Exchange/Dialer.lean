import PageSession.Exchange.Service

/-!
Dialers decide what comes of an attempt to open a line. One connects once to a peer in this
process, one refuses always, and one follows a list of outcomes.

Models `Connector` and `MemoryConnector` with `pair`, `refusing` and `open`.
-/
namespace PageSession.Exchange

inductive Dialer where
  /-- The line to a peer in this process, until it is taken. -/
  | once (line : Option Nat)
  | refusing (reason : String)
  /-- For each attempt a new line, or the reason why there is none. -/
  | listed (outcomes : List (Option String))
  deriving DecidableEq, Repr

namespace Dialer

/-- The outcome of the next attempt, the dialer after it, and the link with the line that was
made for it. -/
def attempt (dialer : Dialer) (link : Link) : Except String Nat × Dialer × Link :=
  match dialer with
  | .once (some line) => (.ok line, .once none, link)
  | .once none => (.error "connection already opened", .once none, link)
  | .refusing reason => (.error reason, .refusing reason, link)
  | .listed (none :: rest) =>
    (.ok link.lines.length, .listed rest, { link with lines := link.lines ++ [{}] })
  | .listed (some reason :: rest) => (.error reason, .listed rest, link)
  | .listed [] => (.error "script exhausted", .listed [], link)

end Dialer

namespace Desk
variable {H W : Type}

/-- Connects through a dialer. -/
def connectThrough (desk : Desk H W) (dialer : Dialer) :
    Except Failure Unit × Dialer × Desk H W :=
  let (outcome, dialer, link) := dialer.attempt desk.link
  let (result, desk) := { desk with link }.connect outcome
  (result, dialer, desk)

end Desk
end PageSession.Exchange
