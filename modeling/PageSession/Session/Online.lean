import PageSession.Exchange.ByteLine
import PageSession.Session.Start

/-!
A running session whose line is a stream of bytes. What the desk queues on the line goes to the
stream, and what the stream reports goes back to the line; a turn moves both and lets each side do
all it can. Every frame is queued once and every report made once. The session is over when nobody
serves the line any more.

Models `run` of `Session` over a connection.
-/
namespace PageSession.Session
open Exchange Builtin

structure Online (U : Type) where
  session : Session U
  line : Nat
  stream : ByteLine := {}
  /-- Frames of the line that the stream has been given. -/
  queued : Nat := 0
  /-- Reports of the stream that the line has been given. -/
  reported : Nat := 0

namespace Online
variable {U : Type}

/-- The session begins to serve its line, unless it has done so before. -/
def ofSession? (session : Session U) : Option (Online U) :=
  session.line.map fun line => { session := session.run.2, line }

/-- Frames of the line that the stream has not been given. -/
def outgoing (online : Online U) : List Message.Outgoing :=
  match online.session.desk.link.line? online.line with
  | some line => line.outbox.drop online.queued
  | none => []

/-- Reports of the stream that the line has not been given. -/
def incoming (online : Online U) : List Report := online.stream.reports.drop online.reported

def isBusy (online : Online U) : Bool := !online.outgoing.isEmpty || !online.incoming.isEmpty

/-- The stream takes the frames of the line. -/
def queueFrames (online : Online U) : Online U :=
  let frames := online.outgoing
  let stream := frames.foldl (fun stream frame => (stream.send frame).2) online.stream
  { online with stream := stream.settle, queued := online.queued + frames.length }

/-- The line takes the reports of the stream, and the desk settles. -/
def takeReports (programs : U → Invocation → Program (Handler U)) (budget : Nat)
    (online : Online U) : Online U :=
  let reports := online.incoming
  let session := online.session
  let desk := reports.foldl (fun desk report => desk.report online.line report) session.desk
  let desk := desk.settle (behave programs) budget budget
  { online with session := { session with desk }, reported := online.reported + reports.length }

/-- Turns until nothing is left to move, but no more than so many. -/
def settle (programs : U → Invocation → Program (Handler U)) (budget : Nat) :
    Nat → Online U → Online U
  | 0, online => online
  | turns + 1, online =>
    let online := online.queueFrames.takeReports programs budget
    if online.isBusy then settle programs budget turns online else online

/-- Bytes arrive. -/
def receive (online : Online U) (bytes : ByteArray) : Online U :=
  { online with stream := (online.stream.receive bytes).2 }

/-- Nothing more arrives. -/
def endSupply (online : Online U) (supply : Supply) : Online U :=
  { online with stream := { online.stream with supply } }

/-- What was written could not be sent. -/
def endWriting (online : Online U) (reason : String) : Online U :=
  { online with stream := (online.stream.endWriting reason).settle }

/-- Time passes. -/
def advance (online : Online U) (ms : Nat) : Online U :=
  { online with session := { online.session with desk := online.session.desk.advance ms } }

/-- Nobody serves the line any more. -/
def isOver (online : Online U) : Bool := online.session.desk.services.isEmpty

/-- How long nothing happens unless bytes arrive. -/
def patience? (online : Online U) : Option Nat :=
  online.session.desk.nextDeadline?.map (· - online.session.desk.now)

end Online
end PageSession.Session
