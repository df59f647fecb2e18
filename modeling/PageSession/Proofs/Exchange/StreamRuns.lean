import Mathlib.Logic.Function.Iterate
import PageSession.Exchange.ByteLine

/-!
Runs of a line over a stream of bytes. The reader, the writer and everybody around them take their
turns in any order; bytes come in whatever chunks the stream cuts itself into, and frames are queued
at any time. Of a run is kept what was done to the line, and to which line it was done.
-/
namespace PageSession.Exchange
open Message

/-- What can happen to a line over a stream of bytes. -/
inductive StreamMove where
  | arrive (bytes : ByteArray)
  /-- The far end sends nothing more. -/
  | finish
  /-- The bytes break off: attempts to read any more of them fail. -/
  | breakOff (reason : String)
  | send (frame : Outgoing)
  /-- Nobody queues frames any more. -/
  | hangUp
  /-- The far end takes no more bytes. -/
  | jam
  /-- Nobody takes the reports any more. -/
  | deafen
  /-- The reader and the writer are told from outside to stop. -/
  | cancel
  | read | stopReading | write | stopWriting | close

def StreamMove.bytes : StreamMove → ByteArray
  | .arrive bytes => bytes
  | _ => .empty

def StreamMove.frames : StreamMove → List Outgoing
  | .send frame => [frame]
  | _ => []

namespace ByteLine

/-- The line after a move. No bytes arrive behind their end, and no frames are queued behind the
end of the queue. -/
def after? (stream : ByteLine) : StreamMove → Option ByteLine
  | .arrive bytes => if stream.supply = .flowing then some (stream.receive bytes).2 else none
  | .finish => if stream.supply = .flowing then some { stream with supply := .ended } else none
  | .breakOff reason =>
    if stream.supply = .flowing then some { stream with supply := .failing reason } else none
  | .send frame => if stream.queueOpen then some (stream.send frame).2 else none
  | .hangUp => some { stream with queueOpen := false }
  | .jam => some { stream with drained := false }
  | .deafen => some { stream with heard := false }
  | .cancel => some { stream with stopping := true }
  | .read => some stream.read
  | .stopReading => some stream.stopReading
  | .write => some stream.write
  | .stopWriting => some stream.stopWriting
  | .close => some stream.close

/-- The moves so far, latest first, each with the line that it was done to. -/
abbrev StreamPast := List (ByteLine × StreamMove)

/-- A line to which these moves have been done since it was opened. -/
inductive StreamRun : StreamPast → ByteLine → Prop where
  | opening : StreamRun [] {}
  | next {past : StreamPast} {stream later : ByteLine} {move : StreamMove}
      (run : StreamRun past stream) (done : stream.after? move = some later) : StreamRun ((stream, move) :: past) later

/-- All bytes that came in, whether the reader took them or not. -/
def cameIn : StreamPast → ByteArray
  | [] => .empty
  | (_, move) :: past => cameIn past ++ move.bytes

def sentIn : StreamPast → List Outgoing
  | [] => []
  | (_, move) :: past => sentIn past ++ move.frames

/-! ## Turns until there is nothing to do -/

theorem readAll_eq_iterate (stream : ByteLine) (turns : Nat) :
    stream.readAll turns = read^[turns] stream := by
  induction turns generalizing stream with
  | zero => rfl
  | succ turns ih => exact ih stream.read

theorem writeAll_eq_iterate (stream : ByteLine) (turns : Nat) :
    stream.writeAll turns = write^[turns] stream := by
  induction turns generalizing stream with
  | zero => rfl
  | succ turns ih => exact ih stream.write

/-- Who rests after a turn or has so much less left to do comes to rest. -/
theorem iterate_rests {turn : ByteLine → ByteLine} (left : ByteLine → Nat) {takes : Nat}
    (each : ∀ stream, turn (turn stream) = turn stream ∨
      left (turn stream) + takes ≤ left stream) {turns : Nat} {stream : ByteLine}
    (enough : left stream < takes * turns) :
    turn (turn^[turns] stream) = turn^[turns] stream := by
  induction turns generalizing stream with
  | zero => omega
  | succ turns ih =>
    rw [Function.iterate_succ_apply]
    rcases each stream with rests | less
    · rw [Function.iterate_fixed rests, rests]
    · rw [Nat.mul_succ] at enough
      exact ih (by omega)

end ByteLine
end PageSession.Exchange
