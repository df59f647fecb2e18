import PageSession.Exchange.Failure

/-!
Lines to the server and the link that uses them. A line queues outgoing frames for the peer and
brings its reports; a pump turns the reports into frames for the reader and into the status of the
link. The link sends on one line at a time, but every pump that is still running sets the status.

Models `Connection` with its `ConnectionEvent`, and `TransportClient` with `connect`, `emit` and
`pump_events`. To connect is two steps, `dial` and `conclude`, since others go on while the
connection is being opened.
-/
namespace PageSession.Exchange
open Json Message

/-- What the far end of a line reports. -/
inductive Report where
  | connected
  | closed (reason : String)
  | trouble (message : String)
  | refused (reason : String)
  | frame (frame : Incoming)
  deriving DecidableEq, Repr

/-- Reports behind which a pump reads no further. -/
def Report.isFinal : Report → Bool
  | .closed _ | .refused _ => true
  | _ => false

inductive Pump where
  | waiting | running | ended
  deriving DecidableEq, Repr

structure Line where
  /-- Frames queued for the peer since the line exists. -/
  outbox : List Outgoing := []
  /-- The peer still takes frames. -/
  accepting : Bool := true
  /-- Reports that no pump has handled yet. -/
  reports : List Report := []
  /-- The peer may still report. -/
  reporting : Bool := true
  pump : Pump := .waiting
  /-- Frames that no reader has taken yet. -/
  inbox : List Incoming := []
  /-- Somebody may still take frames. -/
  held : Bool := true
  /-- The peer runs in this process: it is connected from the start. -/
  inProcess : Bool := false

/-- A line to a peer in this process. -/
def Line.toProcess : Line := { reports := [.connected], inProcess := true }

/-- The pump of a line has something to do. -/
def Line.isBusy (line : Line) : Bool :=
  line.pump = .running && (!line.reports.isEmpty || !line.reporting)

inductive Status where
  | disconnected | connecting | connected
  deriving DecidableEq, Repr, Inhabited

/-- The only connection of a session: its credentials, its status and the line it sends on. -/
structure Link where
  credentials : Credentials
  status : Status := .disconnected
  current : Option Nat := none
  lines : List Line := []

namespace Link

def line? (link : Link) (index : Nat) : Option Line := link.lines[index]?

def setLine (link : Link) (index : Nat) (line : Line) : Link :=
  { link with lines := link.lines.set index line }

/-- A payload names the room it belongs to unless it names one already. -/
def tagged (link : Link) (payload : Members) : Members :=
  payload.setDefault "room" (.text link.credentials.room)

/-- Queues a frame for the peer. -/
def emit (link : Link) (kind : String) (payload : Members) : Except Failure Link :=
  match link.status with
  | .disconnected => .error .notConnected
  | _ =>
    match link.current.bind fun index => (link.line? index).map (index, ·) with
    | none => .error .notConnected
    | some (index, line) =>
      if line.accepting then
        let frame : Outgoing := { kind, payload := link.tagged payload }
        .ok (link.setLine index { line with outbox := line.outbox ++ [frame] })
      else .error .stopped

/-- Starts to open a line. -/
def dial (link : Link) : Link := { link with status := .connecting }

/-- Uses the line that was opened, and joins the room over it before anything else is sent. When
the join cannot be queued the line is given up, but the status is left as it is. -/
def opened (link : Link) (index : Nat) : Except Failure Unit × Link :=
  let link := { link with current := some index }
  let withPump (link : Link) (pump : Pump) : Link :=
    match link.line? index with
    | some line => link.setLine index { line with pump }
    | none => link
  match link.emit "join" [] with
  | .ok link => (.ok (), withPump link .running)
  | .error failure => (.error failure, withPump link .ended)

/-- A line could not be opened. -/
def openFailed (link : Link) (reason : String) : Except Failure Unit × Link :=
  (.error (.connectFailed link.credentials.endpoint reason), { link with status := .disconnected })

/-- An attempt to open a line comes to its end: a line, or the reason why there is none. -/
def conclude (link : Link) : Except String Nat → Except Failure Unit × Link
  | .ok index => link.opened index
  | .error reason => link.openFailed reason

/-- Opens a line with the given outcome, if nothing happens in between. -/
def connect (link : Link) (outcome : Except String Nat) : Except Failure Unit × Link :=
  link.dial.conclude outcome

/-- The pump of a line handles one report, or the end of its reports. -/
def pumpLine (link : Link) (index : Nat) : Link :=
  match link.line? index with
  | none => link
  | some line =>
    if line.pump ≠ .running then link
    else match line.reports with
      | [] =>
        if line.reporting then link
        else { link.setLine index { line with pump := .ended } with status := .disconnected }
      | report :: rest =>
        let line := { line with reports := rest }
        match report with
        | .connected => { link.setLine index line with status := .connected }
        | .frame frame =>
          let inbox := if line.held then line.inbox ++ [frame] else line.inbox
          link.setLine index { line with inbox }
        | .trouble _ => link.setLine index line
        | .closed _ | .refused _ =>
          { link.setLine index { line with pump := .ended, reports := [] } with
            status := .disconnected }

/-- The far end of a line reports; whether the report can still be handled. -/
def report (link : Link) (index : Nat) (report : Report) : Bool × Link :=
  match link.line? index with
  | none => (false, link)
  | some line =>
    if line.reporting && line.pump ≠ .ended then
      (true, link.setLine index { line with reports := line.reports ++ [report] })
    else (false, link)

end Link
end PageSession.Exchange
