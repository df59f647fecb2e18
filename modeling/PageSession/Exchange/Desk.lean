import PageSession.Exchange.Action
import PageSession.Exchange.CallbackIds
import PageSession.Exchange.Settings
import PageSession.Table

/-!
The desk of a session: requests that wait for a response, the handlers that responses, user
actions and updates go to, and the link they travel over. A response is matched to its request by
the callback id that the request carries. The operations here are the ones that run no handler;
an operation that ends in a handler returns what to hand to whom.

Models `Correlator` with its `CallbackRegistry` and `UpdateRouter`: `submit`, `fresh_id`,
`invoke_callback`, `handle_frame`, `expire`, `next_deadline` and `settle_loading`, each up to the
handler it ends in.
-/
namespace PageSession.Exchange
open Json Message

/-- A request that waits for its response. -/
structure Call where
  handler : String
  args : Option Value := none
  silent : Bool := false
  deadline : Option Nat := none

def Call.isOverdue (call : Call) (time : Int) : Bool :=
  call.deadline.any fun deadline => deadline ≤ time

/-- A handler for responses; one that lives once is removed before it runs. -/
structure Callback (H : Type) where
  handler : H
  lifetime : Lifetime

/-- The subscribers of each kind of update, in the order of their subscriptions. -/
structure Subscribers (H : Type) where
  loadingProgress : List H := []
  statusChange : List H := []

namespace Subscribers
variable {H : Type}

def ofKind (subscribers : Subscribers H) : UpdateKind → List H
  | .loadingProgress => subscribers.loadingProgress
  | .statusChange => subscribers.statusChange

def add (subscribers : Subscribers H) (h : H) : UpdateKind → Subscribers H
  | .loadingProgress =>
    { subscribers with loadingProgress := subscribers.loadingProgress ++ [h] }
  | .statusChange => { subscribers with statusChange := subscribers.statusChange ++ [h] }

end Subscribers

/-- What happened to a request. -/
inductive Fate where
  | submitted | resolved | abandoned | expired
  deriving DecidableEq, Repr

/-- A service handles the frames of one line. While it is parked it sleeps until its alarm, until a
submission notifies it or until its line brings something. -/
structure Service where
  line : Nat
  parked : Bool := false
  alarm : Option Nat := none
  notified : Bool := false
  /-- It was told to stop. -/
  stopping : Bool := false
  deriving DecidableEq, Repr

/-- What can take turns: the pump of a line, or the service that handles its frames. -/
inductive Worker where
  | pump (line : Nat)
  | service (line : Nat)
  deriving DecidableEq, Repr

/-- What a desk did, as entries of its log. -/
inductive Event (H : Type) where
  | notified (severity : Severity) (message : String)
  /-- The loading indicator is shown for a request, or hidden. -/
  | loading (handler : Option String)
  | invoked (h : H) (invocation : Invocation)
  /-- A handler performed an action and was answered. -/
  | acted (h : H) (action : Action H) (answer : Answer)
  | enqueued
  | request (fate : Fate) (id : String)

/-- `H` is the type of handlers and `W` the state that belongs to them. -/
structure Desk (H W : Type) where
  settings : Settings := {}
  link : Link
  now : Nat := 0
  ids : CallbackIds := {}
  calls : Table Call := {}
  callbacks : Table (Callback H) := {}
  methods : Table H := {}
  subscribers : Subscribers H := {}
  /-- Responses that a service could not match. -/
  dropped : Nat := 0
  /-- The line whose frames are read by hand. -/
  stream : Option Nat := none
  /-- The services of different lines, the one that has been parked longest first. -/
  services : List Service := []
  /-- The line of the service that was started last. -/
  latest : Option Nat := none
  /-- No service has been notified of the last submission yet. -/
  permit : Bool := false
  /-- Workers with something to do, in the order in which it came up. -/
  agenda : List Worker := []
  page : W
  /-- The log, the latest entry first. -/
  log : List (Event H) := []

namespace Desk
variable {H W : Type}

def record (desk : Desk H W) (event : Event H) : Desk H W :=
  { desk with log := event :: desk.log }

/-- The log in the order of events. -/
def events (desk : Desk H W) : List (Event H) := desk.log.reverse

/-! ## Feedback -/

def notify (desk : Desk H W) (severity : Severity) (message : String) : Desk H W :=
  desk.record (.notified severity message)

/-- Notifies of an outcome that says something, unless it is harmless and was asked to be silent. -/
def notifyOutcome (desk : Desk H W) (severity : Severity) (silent : Bool) (message : String) :
    Desk H W :=
  if !message.isEmpty && (severity.isAlarming || !silent) then desk.notify severity message
  else desk

/-- Hides the loading indicator once no visible request waits. -/
def settleLoading (desk : Desk H W) : Desk H W :=
  if desk.calls.values.any fun call => !call.silent then desk else desk.record (.loading none)

/-! ## Handlers -/

def register (desk : Desk H W) (id : String) (h : H) (lifetime : Lifetime) : Bool × Desk H W :=
  (desk.callbacks.contains id,
    { desk with callbacks := desk.callbacks.insert id { handler := h, lifetime } })

def registerMethod (desk : Desk H W) (name : String) (h : H) : Bool × Desk H W :=
  (desk.methods.contains name, { desk with methods := desk.methods.insert name h })

def unregister (desk : Desk H W) (id : String) : Bool × Desk H W :=
  (desk.callbacks.contains id, { desk with callbacks := desk.callbacks.erase id })

def lifetime? (desk : Desk H W) (id : String) : Option Lifetime :=
  (desk.callbacks.find? id).map Callback.lifetime

/-- The callback to run for an id; one that lives once leaves the table. -/
def takeCallback? (desk : Desk H W) (id : String) : Option (H × Desk H W) :=
  (desk.callbacks.find? id).map fun callback =>
    match callback.lifetime with
    | .once => (callback.handler, { desk with callbacks := desk.callbacks.erase id })
    | .durable => (callback.handler, desk)

def subscribe (desk : Desk H W) (kind : UpdateKind) (h : H) : Desk H W :=
  { desk with subscribers := desk.subscribers.add h kind }

/-! ## Services -/

def service? (desk : Desk H W) (line : Nat) : Option Service :=
  desk.services.find? fun service => service.line = line

def setService (desk : Desk H W) (service : Service) : Desk H W :=
  { desk with services := desk.services.map fun other =>
      if other.line = service.line then service else other }

def removeService (desk : Desk H W) (line : Nat) : Desk H W :=
  { desk with services := desk.services.filter fun service => service.line ≠ line }

/-- The service that was started last has not left. -/
def isServed (desk : Desk H W) : Bool :=
  desk.latest.any fun line => (desk.service? line).isSome

/-- The service that was started last is told to stop. -/
def stopService (desk : Desk H W) : Desk H W :=
  match desk.latest.bind desk.service? with
  | some service => desk.setService { service with stopping := true }
  | none => desk

/-- Notifies the service that has been parked longest of those not notified yet, else the next one
that parks. -/
def notifyService (desk : Desk H W) : Desk H W :=
  match desk.services.find? fun service => service.parked && !service.notified with
  | some service => desk.setService { service with notified := true }
  | none => { desk with permit := true }

/-! ## Requests -/

/-- An id made for a handler: the next one under which no callback is registered, as long as there
is one. -/
def freshId (desk : Desk H W) : Option String × Desk H W :=
  let (id, ids) := desk.ids.drawFree desk.callbacks.contains desk.callbacks.size
  (id, { desk with ids })

def requestOf (desk : Desk H W) (s : Submission H) (id : String) : Request :=
  { auth := desk.link.credentials.caller, handler := s.handler, data := s.data
    callback := { id, args := s.args, silent := s.silent } }

/-- The time until which a request made now may wait. -/
def deadline? (desk : Desk H W) : Option Nat := desk.settings.timeout?.map (desk.now + ·)

/-- Sends a request under an id, and registers a handler of its own if it has one. When the frame
cannot be queued, both entries are taken back. -/
def submitAs (desk : Desk H W) (s : Submission H) (id : String) (own : Option H) :
    Except Failure String × Desk H W :=
  if desk.calls.contains id then (.error (.callbackInFlight id), desk)
  else
    let call : Call :=
      { handler := s.handler, args := s.args, silent := s.silent, deadline := desk.deadline? }
    let waiting := { desk with calls := desk.calls.insert id call }
    let ready := match own with
      | some h => (waiting.register id h .once).2
      | none => waiting
    match ready.link.emit "submit" (desk.requestOf s id).payload with
    | .error failure =>
      let undone := { ready with calls := ready.calls.erase id }
      (.error failure, if own.isSome then (undone.unregister id).2 else undone)
    | .ok link =>
      let sent := { ready with link }.record (.request .submitted id)
      let shown := if s.silent then sent else sent.record (.loading (some s.handler))
      (.ok id, shown.notifyService)

/-- Submits a request. When an id has to be made and there is none left, there is no result. -/
def submit (desk : Desk H W) (s : Submission H) : Option (Except Failure String) × Desk H W :=
  match s.target with
  | .named name =>
    if name.isEmpty then (some (.error .emptyCallbackId), desk)
    else (desk.submitAs s name none).map some id
  | .inline h =>
    match desk.freshId with
    | (some made, desk) => (desk.submitAs s made (some h)).map some id
    | (none, desk) => (none, desk)

/-- Forgets a request that will get no response, and its handler if that was made for it. -/
def abandon (desk : Desk H W) (id : String) : Desk H W :=
  if desk.calls.contains id then
    let desk := { desk with calls := desk.calls.erase id }.record (.request .abandoned id)
    if desk.lifetime? id = some .once then (desk.unregister id).2 else desk
  else desk

/-! ## Frames -/

/-- Stands in messages for the reason why a text is no readable JSON. -/
def unreadableReason : String := "<json>"

/-- What is left to do for a frame. -/
inductive Receipt where
  | settled (result : Except Failure Unit)
  | deliver (id : String) (reply : Reply)
  | distribute (update : Update)

def receiveResponse (desk : Desk H W) (code : Nat) (content : String) :
    Receipt × Desk H W :=
  match Response.read.ofString? content with
  | none =>
    (.settled (.ok ()), (desk.record (.loading none)).notify .error
      ("unreadable response: " ++ unreadableReason))
  | some response =>
    match response.error with
    | some message =>
      let desk := match response.callback with
        | some echo => desk.abandon echo.id
        | none => desk
      (.settled (.ok ()), desk.settleLoading.notify .error message)
    | none =>
      let severity := response.level.getD (desk.settings.success.classify code)
      match response.callback with
      | none => (.settled (.ok ()), desk.notifyOutcome severity false response.message)
      | some echo =>
        match desk.calls.find? echo.id with
        | none => (.settled (.error (.callbackNotFound echo.id)), desk)
        | some call =>
          let desk := { desk with calls := desk.calls.erase echo.id }.record
            (.request .resolved echo.id)
          let desk := desk.settleLoading.notifyOutcome severity (echo.silent || call.silent)
            response.message
          (.deliver echo.id
            { code, severity, message := response.message, data := response.data
              args := call.args }, desk)

/-- Handles a frame up to the handlers it concerns. An unreadable update concerns nobody. -/
def receive (desk : Desk H W) (frame : Incoming) : Receipt × Desk H W :=
  match frame.kind with
  | .response => desk.receiveResponse frame.code frame.content
  | .update =>
    match Update.ofFrame? frame with
    | some update => (.distribute update, desk)
    | none => (.settled (.ok ()), desk)

/-! ## Deadlines -/

/-- Takes out every request whose deadline is at or before a time, in table order. -/
def evict (desk : Desk H W) (time : Int) : List (String × Call) × Desk H W :=
  (desk.calls.entries.filter fun entry => entry.2.isOverdue time,
    { desk with calls := desk.calls.filter fun entry => !entry.2.isOverdue time })

def timeoutCode : Nat := 408

/-- The reply that takes the place of a response that did not come in time. -/
def timeoutReply (call : Call) : Reply :=
  { code := timeoutCode, severity := .error, message := call.handler ++ " timed out"
    args := call.args }

def nextDeadline? (desk : Desk H W) : Option Nat :=
  (desk.calls.values.filterMap Call.deadline).min?

/-- A service that is not parked any more: it takes part in a turn. A notification that it does not
use goes on to another one. -/
def unpark (desk : Desk H W) (service : Service) : Desk H W :=
  let awake := desk.setService { service with parked := false, alarm := none, notified := false }
  if service.notified then awake.notifyService else awake

/-- A service parks behind all others, with its alarm set to the next deadline. It has seen every
submission made so far. -/
def park (desk : Desk H W) (line : Nat) : Desk H W :=
  match desk.service? line with
  | none => desk
  | some service =>
    let parked : Service :=
      { service with parked := true, alarm := desk.nextDeadline?, notified := false }
    { desk with permit := false, services := (desk.removeService line).services ++ [parked] }

/-- A service leaves. -/
def dismiss (desk : Desk H W) (service : Service) : Desk H W :=
  (desk.unpark service).removeService service.line

end Desk
end PageSession.Exchange
