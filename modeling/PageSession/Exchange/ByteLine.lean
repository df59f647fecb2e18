import PageSession.Exchange.Framing
import PageSession.Exchange.Line

/-!
A line over a stream of bytes. A reader turns the bytes that arrive into reports, and a writer turns
queued frames into bytes; whichever ends first makes the other one stop. Each turn of either is a
function on the stream, and so is everything that the two ends may do; any order of them is a run.

Models `run_io` with its `read_loop` and `write_loop`.
-/
namespace PageSession.Exchange
open Json Message

/-- Where the reader or the writer stands; it may end without a reason of its own. -/
inductive Side where
  | running
  | ended (reason : Option String)
  deriving DecidableEq, Repr

structure ByteLine where
  /-- Bytes that the reader has not turned into frames. -/
  arrived : ByteArray := .empty
  supply : Supply := .flowing
  reading : Side := .running
  /-- Frames that the writer has not written. -/
  queue : List Outgoing := []
  /-- Frames may still be queued. -/
  queueOpen : Bool := true
  /-- The bytes written so far. -/
  written : ByteArray := .empty
  /-- The far end takes what is written. -/
  drained : Bool := true
  writing : Side := .running
  /-- The reader and the writer are to stop. -/
  stopping : Bool := false
  /-- Somebody takes the reports. -/
  heard : Bool := true
  reports : List Report := [.connected]
  /-- The end has been reported. -/
  closed : Bool := false

namespace ByteLine

def report (stream : ByteLine) (report : Report) : ByteLine :=
  if stream.heard then { stream with reports := stream.reports ++ [report] } else stream

/-! ## The reader -/

/-- The reader ends for a reason, and the writer is to stop. -/
def endReading (stream : ByteLine) (reason : String) : ByteLine :=
  { stream with reading := .ended (some reason), stopping := true }

/-- What a body stands for: a frame, or trouble that concerns no other body. -/
def reportOf (body : ByteArray) : Report :=
  match Incoming.read.ofBytes? body with
  | some frame => .frame frame
  | none => .trouble "malformed frame: <json>"

/-- A turn of the reader: one body, or the end. A frame that nobody takes ends the reader. -/
def read (stream : ByteLine) : ByteLine :=
  match stream.reading with
  | .ended _ => stream
  | .running =>
    match readBody stream.arrived stream.supply with
    | .waiting => stream
    | .finished => stream.endReading "peer closed connection"
    | .failed failure => stream.endReading failure.message
    | .body bytes rest =>
      let stream := { stream with arrived := rest }
      match reportOf bytes with
      | .frame frame =>
        if stream.heard then stream.report (.frame frame) else stream.endReading "client closed"
      | trouble => stream.report trouble

/-- The reader stops when it is told to. -/
def stopReading (stream : ByteLine) : ByteLine :=
  if stream.stopping && stream.reading = .running then { stream with reading := .ended none }
  else stream

/-! ## The writer -/

def endWriting (stream : ByteLine) (reason : String) : ByteLine :=
  { stream with writing := .ended (some reason), stopping := true }

/-- A turn of the writer: one frame, or the end of the queue. -/
def write (stream : ByteLine) : ByteLine :=
  match stream.writing with
  | .ended _ => stream
  | .running =>
    match stream.queue with
    | [] => if stream.queueOpen then stream else stream.endWriting "client closed"
    | frame :: rest =>
      let stream := { stream with queue := rest }
      match frameBytes frame with
      | .error failure => stream.endWriting failure.message
      | .ok bytes =>
        if stream.drained then { stream with written := stream.written ++ bytes }
        else stream.endWriting "broken pipe"

/-- The writer stops when it is told to. -/
def stopWriting (stream : ByteLine) : ByteLine :=
  if stream.stopping && stream.writing = .running then
    { stream with writing := .ended (some "shutdown") }
  else stream

/-- Reports the end once both have ended: the reason of the reader if it has one, else the reason
of the writer. -/
def close (stream : ByteLine) : ByteLine :=
  match stream.reading, stream.writing with
  | .ended fromReader, .ended fromWriter =>
    if stream.closed then stream
    else { stream.report (.closed ((fromReader.or fromWriter).getD "")) with closed := true }
  | _, _ => stream

/-! ## The two ends -/

/-- Queues a frame; whether the writer may still come to it. -/
def send (stream : ByteLine) (frame : Outgoing) : Bool × ByteLine :=
  if stream.writing = .running then
    (true, { stream with queue := stream.queue ++ [frame] })
  else (false, stream)

/-- Bytes arrive; whether the reader takes them. -/
def receive (stream : ByteLine) (bytes : ByteArray) : Bool × ByteLine :=
  if stream.reading = .running then
    (true, { stream with arrived := stream.arrived ++ bytes })
  else (bytes.isEmpty, stream)

/-! ## A run of both -/

/-- Turns of the reader until it waits or ends; every turn takes at least four bytes. -/
def readAll (stream : ByteLine) : Nat → ByteLine
  | 0 => stream
  | turns + 1 => stream.read.readAll turns

/-- Turns of the writer until the queue is empty. -/
def writeAll (stream : ByteLine) : Nat → ByteLine
  | 0 => stream
  | turns + 1 => stream.write.writeAll turns

/-- Lets the reader and the writer do all they can, and then stop if they are to. -/
def settle (stream : ByteLine) : ByteLine :=
  let worked := (stream.readAll (stream.arrived.size / 4 + 1)).writeAll (stream.queue.length + 1)
  worked.stopReading.stopWriting.close

end ByteLine
end PageSession.Exchange
