import PageSession.Exchange.Machine

/-!
The work of services, which handle the frames of a line and evict requests when their deadline
comes, and of the pumps that feed them. Each turn is a function on the desk, and any order of turns
is a run; `settle` is the one that follows the agenda.

Models `run` of `Correlator`, one turn of its loop at a time, beside the tasks of `pump_events`.
-/
namespace PageSession.Exchange
open Json Message

namespace Desk
variable {H W : Type}

/-- The frames of a line that nobody takes any more are given up. -/
def release (desk : Desk H W) (index : Nat) : Desk H W :=
  match desk.link.line? index with
  | some line =>
    { desk with link := desk.link.setLine index { line with inbox := [], held := false } }
  | none => desk

/-- One turn of a service, with all that the handlers do in it. -/
def serve (behave : Behaviour H W) (budget : Nat) (desk : Desk H W) (index : Nat) : Desk H W :=
  match desk.service? index with
  | none => desk
  | some service =>
    match desk.turn service with
    | .rest => desk
    | .leave => (desk.dismiss service).release index
    | .look => desk.park index
    | .expire =>
      let desk := (desk.unpark service).enlist
      ((Machine.run behave budget (Machine.expire desk.now desk [])).desk).park index
    | .handle frame =>
      let line := (desk.link.line? index).getD {}
      let desk := { desk with
        link := desk.link.setLine index { line with inbox := line.inbox.drop 1 } }
      let desk := (desk.unpark service).enlist
      ((Machine.run behave budget (Machine.handle behave frame desk [.serving])).desk).park index

/-- One turn of a worker. -/
def work (behave : Behaviour H W) (budget : Nat) (desk : Desk H W) : Worker → Desk H W
  | .pump line => { desk with link := desk.link.pumpLine line }.enlist
  | .service line => (desk.serve behave budget line).enlist

/-- Turns of a worker until it rests, but no more than so many. -/
def workOn (behave : Behaviour H W) (budget : Nat) (worker : Worker) : Nat → Desk H W → Desk H W
  | 0, desk => desk
  | turns + 1, desk =>
    if desk.isBusy worker then
      workOn behave budget worker turns (desk.work behave budget worker)
    else desk

/-- So many turns a worker takes before it lets others take theirs. -/
def stint : Nat := 128

/-- Workers take their turns in the order of the agenda until everybody rests, but no more than so
many times. Who has more to do than a stint allows goes to the end of the agenda. -/
def settle (behave : Behaviour H W) (budget : Nat) : Nat → Desk H W → Desk H W
  | 0, desk => desk
  | rounds + 1, desk =>
    match desk.agenda with
    | [] => desk
    | worker :: _ =>
      let desk := desk.workOn behave budget worker stint
      settle behave budget rounds { desk with agenda := desk.agenda.drop 1 }.enlist

/-- Starts to open a line. -/
def dial (desk : Desk H W) : Desk H W := { desk with link := desk.link.dial }

/-- An attempt to open a line comes to its end. The frames of the new line are kept to be read by
hand, and those of the line read so far are given up. The new pump begins when its turn comes. -/
def opened (desk : Desk H W) (outcome : Except String Nat) : Except Failure Unit × Desk H W :=
  match outcome, desk.link.conclude outcome with
  | .ok line, (.ok (), link) =>
    let desk := match desk.stream with
      | some earlier => { desk with link }.release earlier
      | none => { desk with link }
    (.ok (), { desk with stream := some line }.summon (.pump line))
  | _, (result, link) => (result, { desk with link })

/-- Opens a line with the given outcome, if nothing happens in between. -/
def connect (desk : Desk H W) (outcome : Except String Nat) : Except Failure Unit × Desk H W :=
  desk.dial.opened outcome

/-- Starts a service on a line. -/
def serveLine (desk : Desk H W) (line : Nat) : Desk H W :=
  let service : Service := { line }
  { desk with services := desk.services ++ [service], latest := some line }.enlist

/-- Starts a service on the line that was read by hand so far; whether there was one. -/
def startService (desk : Desk H W) : Bool × Desk H W :=
  match desk.stream with
  | none => (false, desk)
  | some line => (true, { desk with stream := none }.serveLine line)

/-- The far end of a line reports. -/
def report (desk : Desk H W) (line : Nat) (report : Report) : Desk H W :=
  { desk with link := (desk.link.report line report).2 }.enlist

/-- Time passes. -/
def advance (desk : Desk H W) (ms : Nat) : Desk H W := { desk with now := desk.now + ms }.enlist

end Desk
end PageSession.Exchange
