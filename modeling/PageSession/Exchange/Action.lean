import PageSession.Exchange.Line

/-!
What can be asked of a desk, by its owner or by a handler while it runs, and what is answered.
`H` is the type of handlers.

Models `Submission`, `CallbackTarget` and `Lifetime`, and the operations that `Correlator` offers.
-/
namespace PageSession.Exchange
open Json Message

inductive Lifetime where
  | once | durable
  deriving DecidableEq, Repr

/-- Where the response to a submission goes: to the callback of a given id, or to a handler of
its own under an id made for it. -/
inductive Target (H : Type) where
  | named (id : String)
  | inline (h : H)

structure Submission (H : Type) where
  handler : String
  target : Target H
  data : Option Members := none
  args : Option Value := none
  silent : Bool := false

/-- What a handler is given when it runs. -/
inductive Invocation where
  | reply (reply : Reply)
  | method (args : List Value)
  | update (update : Update)

/-- What can be described in a message. -/
inductive Subject (H : Type) where
  | desk | link | callbacks | subscribers
  | submission (submission : Submission H)

inductive Question (H : Type) where
  | hasCallback (id : String)
  | hasMethod (name : String)
  | isOutstanding (id : String)
  | lifetime (id : String)
  | subscriberCount (kind : UpdateKind)
  | room
  | description (subject : Subject H)

/-- What the far end of a line does. Only a peer in this process responds with a content. -/
inductive PeerAction where
  | report (report : Report)
  | respond (frame : Incoming)
  | stopReading
  | drop

inductive Action (H : Type) where
  | submit (submission : Submission H)
  | register (id : String) (h : H) (lifetime : Lifetime)
  | registerMethod (name : String) (h : H)
  | unregister (id : String)
  | subscribe (kind : UpdateKind) (h : H)
  | invoke (id : String) (reply : Reply)
  | call (method : String) (args : List Value)
  | dispatch (update : Update)
  | handle (frame : Incoming)
  /-- Evicts what is overdue at a time ahead of now. -/
  | expire (ahead : Int)
  | emit (kind : String) (payload : Members)
  /-- Emits, and then continues with an entry in the log. -/
  | emitThen (kind : String) (payload : Members)
  /-- Takes the next frame that arrived. -/
  | take
  /-- Takes the next frame that arrived and handles it. -/
  | pull
  /-- The far end of a line acts; without an index it is the latest line. -/
  | peer (line : Option Nat) (action : PeerAction)
  | stop
  | ask (question : Question H)

/-- Why there is nothing to take or nobody to act. -/
inductive Absence where
  | noStream | noFrame | streamEnded | noPeer
  deriving DecidableEq, Repr

inductive Answer where
  | done (result : Except Failure Unit)
  | submitted (result : Except Failure String)
  | flag (b : Bool)
  | count (n : Nat)
  | lifetime (lifetime : Option Lifetime)
  | text (s : String)
  | frame (frame : Incoming)
  | absent (absence : Absence)

/-- What a handler does: actions, each chosen in view of the answers so far. -/
inductive Program (H : Type) where
  | finish
  | act (action : Action H) (next : Answer → Program H)

/-- How handlers behave: what they do with the state that belongs to them, and the program that
they then run. -/
abbrev Behaviour (H W : Type) := H → Invocation → W → W × Program H

end PageSession.Exchange
