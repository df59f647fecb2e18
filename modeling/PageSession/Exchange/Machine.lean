import PageSession.Exchange.Describe

/-!
The machine that performs actions. Handlers run inside actions and perform actions themselves, to
any depth, so the machine keeps what is left to do on a stack: each step performs one action up to
the next handler, lets a handler begin, or hands an answer to whoever waits for it. Nothing else
changes a desk between two steps. What an action gives other workers to do goes on the agenda.

Models the calls of handlers in `invoke_callback`, `invoke_method`, `dispatch` and `expire`, and
what handlers call in turn.
-/
namespace PageSession.Exchange
open Json Message

/-- Work that waits for an answer. -/
inductive Frame (H : Type) where
  /-- A handler performed an action. -/
  | acting (h : H) (action : Action H) (next : Answer → Program H)
  /-- An operation succeeds whatever its last part answers. -/
  | succeed
  /-- Evicted requests whose handlers have not been told yet, and the number of all evicted. -/
  | expiring (rest : List (String × Call)) (count : Nat)
  /-- Subscribers that an update has not reached yet, and the number of all of them. -/
  | distributing (update : Update) (rest : List H) (count : Nat)
  /-- A service counts what it cannot match. -/
  | serving

inductive Control (H : Type) where
  | perform (action : Action H)
  | run (h : H) (program : Program H)
  | answer (answer : Answer)

structure Machine (H W : Type) where
  control : Control H
  stack : List (Frame H) := []
  desk : Desk H W

namespace Desk
variable {H W : Type}

/-- The next frame of the line that is read by hand. -/
def takeFrame (desk : Desk H W) : Answer × Desk H W :=
  match desk.stream.bind fun index => (desk.link.line? index).map (index, ·) with
  | none => (.absent .noStream, desk)
  | some (index, line) =>
    match line.inbox with
    | frame :: rest =>
      (.frame frame, { desk with link := desk.link.setLine index { line with inbox := rest } })
    | [] => (.absent (if line.pump = .ended then .streamEnded else .noFrame), desk)

def peerAct (desk : Desk H W) (index : Nat) (line : Line) (action : PeerAction) :
    Answer × Desk H W :=
  let reported (report : Report) : Answer × Desk H W :=
    let (handled, link) := desk.link.report index report
    (if line.inProcess then .done (if handled then .ok () else .error .stopped) else .flag handled,
      { desk with link })
  let changed (line : Line) : Answer × Desk H W :=
    (.done (.ok ()), { desk with link := desk.link.setLine index line })
  match action with
  | .report .connected =>
    if line.inProcess then (.absent .noPeer, desk) else reported .connected
  | .report (.refused reason) =>
    if line.inProcess then (.absent .noPeer, desk) else reported (.refused reason)
  | .report report => reported report
  | .respond frame => if line.inProcess then reported (.frame frame) else (.absent .noPeer, desk)
  | .stopReading =>
    if line.inProcess then (.absent .noPeer, desk) else changed { line with accepting := false }
  | .drop => changed { line with accepting := false, reporting := false }

/-- The far end of a line acts, unless it is gone. -/
def peer (desk : Desk H W) (index : Option Nat) (action : PeerAction) : Answer × Desk H W :=
  let index := index.getD (desk.link.lines.length - 1)
  match desk.link.line? index with
  | none => (.absent .noPeer, desk)
  | some line =>
    if line.reporting then desk.peerAct index line action else (.absent .noPeer, desk)

def emit (desk : Desk H W) (kind : String) (payload : Members) :
    Except Failure Unit × Desk H W :=
  match desk.link.emit kind payload with
  | .ok link => (.ok (), { desk with link })
  | .error failure => (.error failure, desk)

end Desk

namespace Machine
variable {H W : Type}

/-- A handler begins to run. -/
def enter (behave : Behaviour H W) (h : H) (invocation : Invocation) (desk : Desk H W)
    (stack : List (Frame H)) : Machine H W :=
  let (page, program) := behave h invocation desk.page
  { control := .run h program, stack
    desk := { desk with page }.record (.invoked h invocation) }

def give (answer : Answer) (desk : Desk H W) (stack : List (Frame H)) : Machine H W :=
  { control := .answer answer, stack, desk }

def done : Answer := .done (.ok ())

/-- Hands a reply to the callback of an id. -/
def deliver (behave : Behaviour H W) (id : String) (reply : Reply) (desk : Desk H W)
    (stack : List (Frame H)) : Machine H W :=
  match desk.takeCallback? id with
  | some (h, desk) => enter behave h (.reply reply) desk (.succeed :: stack)
  | none => give (.done (.error (.callbackNotFound id))) desk stack

/-- Hands an update to the subscribers that there are now. -/
def distribute (update : Update) (desk : Desk H W) (stack : List (Frame H)) : Machine H W :=
  let subscribers := desk.subscribers.ofKind update.kind
  give done desk (.distributing update subscribers subscribers.length :: stack)

def handle (behave : Behaviour H W) (frame : Incoming) (desk : Desk H W)
    (stack : List (Frame H)) : Machine H W :=
  match desk.receive frame with
  | (.settled result, desk) => give (.done result) desk stack
  | (.deliver id reply, desk) => deliver behave id reply desk stack
  | (.distribute update, desk) => distribute update desk (.succeed :: stack)

def expire (time : Int) (desk : Desk H W) (stack : List (Frame H)) : Machine H W :=
  match desk.evict time with
  | ([], desk) => give (.count 0) desk stack
  | (evicted, desk) => give done desk.settleLoading (.expiring evicted evicted.length :: stack)

/-- Performs an action up to the first handler that it concerns. A submission without a result is
never answered: the machine does not get on. -/
def perform (behave : Behaviour H W) (action : Action H) (desk : Desk H W)
    (stack : List (Frame H)) : Machine H W :=
  match action with
  | .submit submission =>
    match desk.submit submission with
    | (some result, desk) => give (.submitted result) desk.enlist stack
    | (none, desk) => { control := .perform (.submit submission), stack, desk := desk.enlist }
  | .register id h lifetime =>
    let (replaced, desk) := desk.register id h lifetime
    give (.flag replaced) desk stack
  | .registerMethod name h =>
    let (replaced, desk) := desk.registerMethod name h
    give (.flag replaced) desk stack
  | .unregister id =>
    let (removed, desk) := desk.unregister id
    give (.flag removed) desk stack
  | .subscribe kind h => give done (desk.subscribe kind h) stack
  | .invoke id reply => deliver behave id reply desk stack
  | .call method args =>
    match desk.methods.find? method with
    | some h => enter behave h (.method args) desk (.succeed :: stack)
    | none => give (.done (.error (.methodNotFound method))) desk stack
  | .dispatch update => distribute update desk stack
  | .handle frame => handle behave frame desk stack
  | .expire ahead => expire (desk.now + ahead) desk stack
  | .emit kind payload =>
    let (result, desk) := desk.emit kind payload
    give (.done result) desk stack
  | .emitThen kind payload =>
    match desk.emit kind payload with
    | (.ok (), desk) => give done (desk.record .enqueued) stack
    | (.error failure, desk) => give (.done (.error failure)) desk stack
  | .take =>
    let (answer, desk) := desk.takeFrame
    give answer desk stack
  | .pull =>
    match desk.takeFrame with
    | (.frame frame, desk) => handle behave frame desk stack
    | (answer, desk) => give answer desk stack
  | .peer line action =>
    let (answer, desk) := desk.peer line action
    give answer desk.enlist stack
  | .stop => give done desk.stopService.enlist stack
  | .ask question => give (desk.answer question) desk stack

/-- Tells the handler of an evicted request, if it has one. -/
def tell (behave : Behaviour H W) (id : String) (call : Call) (desk : Desk H W)
    (stack : List (Frame H)) : Machine H W :=
  let desk := (desk.record (.request .expired id)).notify .error (Desk.timeoutReply call).message
  deliver behave id (Desk.timeoutReply call) desk stack

/-- Hands an answer to the work that waits for it. -/
def resume (behave : Behaviour H W) (frame : Frame H) (answer : Answer) (desk : Desk H W)
    (stack : List (Frame H)) : Machine H W :=
  match frame with
  | .acting h action next =>
    { control := .run h (next answer), stack, desk := desk.record (.acted h action answer) }
  | .succeed => give done desk stack
  | .expiring [] count => give (.count count) desk stack
  | .expiring ((id, call) :: rest) count =>
    tell behave id call desk (.expiring rest count :: stack)
  | .distributing _ [] count => give (.count count) desk stack
  | .distributing update (h :: rest) count =>
    enter behave h (.update update) desk (.distributing update rest count :: stack)
  | .serving =>
    match answer with
    | .done (.error _) => give answer { desk with dropped := desk.dropped + 1 } stack
    | _ => give answer desk stack

/-- One step. A machine that has answered and has nothing left to do stays as it is. -/
def step (behave : Behaviour H W) (m : Machine H W) : Machine H W :=
  match m.control with
  | .perform action => perform behave action m.desk m.stack
  | .run _ .finish => give done m.desk m.stack
  | .run h (.act action next) =>
    { control := .perform action, stack := .acting h action next :: m.stack, desk := m.desk }
  | .answer answer =>
    match m.stack with
    | [] => m
    | frame :: stack => resume behave frame answer m.desk stack

/-- The answer of a machine that has nothing left to do. -/
def result? (m : Machine H W) : Option Answer :=
  match m.control, m.stack with
  | .answer answer, [] => some answer
  | _, _ => none

/-- Steps until there is nothing left to do, but no more than so many times. -/
def run (behave : Behaviour H W) : Nat → Machine H W → Machine H W
  | 0, m => m
  | budget + 1, m => if m.result?.isSome then m else run behave budget (m.step behave)

end Machine

namespace Desk
variable {H W : Type}

/-- Performs an action with all that its handlers do, in no more than so many steps. Handlers that
never come to an end leave the action without an answer. -/
def perform (behave : Behaviour H W) (budget : Nat) (desk : Desk H W) (action : Action H) :
    Option Answer × Desk H W :=
  let m := Machine.run behave budget { control := .perform action, desk }
  (m.result?, m.desk)

end Desk
end PageSession.Exchange
