import PageSession.Exchange.Dialer
import PageSession.Proofs.Table

/-!
Serial runs of a desk. One operation runs at a time, with all that its handlers do in it; between
operations anybody may begin the next one: somebody outside, a service whose line or alarm has
something for it, a pump, the connector or the clock. A service wakes and parks in small moves, so
that others may act after it has looked at the deadlines and before it sleeps, and they may act
between the beginning and the end of an attempt to connect. Which branch a service takes is left
open when several are ready. Nobody can rely on the order of the table of requests: neighbours in it
may change places at any moment, which leads to every order. Handlers are arbitrary: `behave` may
follow any script that the state `W` holds, so each sequence of choices that handlers make is
covered.
-/
namespace PageSession.Exchange
open Message

/-- A desk with the operation in progress, if there is one, and the alarms of the services that
have looked at the deadlines but do not sleep yet. -/
structure Stage (H W : Type) where
  machine : Machine H W
  aims : Nat → Option (Option Nat) := fun _ => none

/-- What can happen next. The branches of a service are named by its line. -/
inductive Move (H : Type) where
  /-- Somebody outside begins an operation. -/
  | act (action : Action H)
  /-- The operation in progress takes a step. -/
  | work
  /-- A service starts on the line that was read by hand. -/
  | start
  /-- A service takes the next frame of its line and handles it. -/
  | handle (line : Nat)
  /-- The alarm of a service is due. -/
  | expire (line : Nat)
  /-- A service takes notice of a submission. -/
  | wake (line : Nat)
  /-- A service looks at the deadlines. -/
  | aim (line : Nat)
  /-- A service that has looked at the deadlines goes to sleep. -/
  | sleep (line : Nat)
  /-- A service leaves: it was told to stop, or its line has ended. -/
  | leave (line : Nat)
  | pump (line : Nat)
  | report (line : Nat) (report : Report)
  /-- The connector makes a line, to a peer in this process or elsewhere. -/
  | lay (inProcess : Bool)
  /-- Somebody begins to connect. -/
  | dial
  /-- What comes of it: a line on which nobody has connected yet, or why there is none. -/
  | opened (outcome : Except String Nat)
  | advance (ms : Nat)
  /-- The agenda is put in another order. -/
  | schedule (agenda : List Worker)
  /-- Two neighbours in the table of requests change places. -/
  | exchange (place : Nat)

def Move.isStep {H : Type} : Move H → Bool
  | .work => true
  | _ => false

def Move.time {H : Type} : Move H → Nat
  | .advance ms => ms
  | _ => 0

namespace Desk
variable {H W : Type}

def rouse (desk : Desk H W) (service : Service) : Desk H W :=
  desk.setService { service with parked := false, alarm := none, notified := false }

/-- A service sleeps behind all others with the given alarm. A permit wakes it at once. -/
def lull (desk : Desk H W) (service : Service) (alarm : Option Nat) : Desk H W :=
  { desk with
    permit := false
    services := (desk.removeService service.line).services ++
      [{ service with parked := true, alarm, notified := desk.permit }] }

def takeNext? (desk : Desk H W) (line : Nat) : Option (Incoming × Desk H W) :=
  match desk.link.line? line with
  | some l =>
    match l.inbox with
    | frame :: rest =>
      some (frame, { desk with link := desk.link.setLine line { l with inbox := rest } })
    | [] => none
  | none => none

def isDrained (desk : Desk H W) (line : Nat) : Bool :=
  match desk.link.line? line with
  | some l => l.inbox.isEmpty && l.pump = .ended
  | none => true

def isUnused (desk : Desk H W) (line : Nat) : Bool :=
  (desk.link.line? line).any fun l => l.pump = .waiting

theorem line_of_service? {desk : Desk H W} {line : Nat} {service : Service}
    (found : desk.service? line = some service) : service.line = line := by
  simpa using List.find?_some found

theorem mem_of_service? {desk : Desk H W} {line : Nat} {service : Service}
    (found : desk.service? line = some service) : service ∈ desk.services :=
  List.mem_of_find?_eq_some found

/-- What a service finds at the desk when it takes this turn. -/
def Finds (desk : Desk H W) (service : Service) : Turn → Prop
  | .leave => (service.stopping || desk.isDrained service.line) = true
  | .handle frame => ∃ line rest,
      desk.link.line? service.line = some line ∧ line.inbox = frame :: rest
  | .expire => service.alarm.any (fun alarm => alarm ≤ desk.now) = true
  | .look => service.parked = true → service.notified = true
  | .rest => service.parked = true ∧ service.notified = false ∧
      ∀ time, service.alarm = some time → desk.now < time

theorem turn_finds (desk : Desk H W) (service : Service) :
    desk.Finds service (desk.turn service) := by
  unfold turn
  split
  · rename_i stopping
    simp [Finds, stopping]
  · split
    · rename_i missing
      simp [Finds, isDrained, missing]
    · rename_i line there
      split
      · rename_i frame rest queued
        exact ⟨line, rest, there, queued⟩
      · rename_i empty
        split
        · rename_i ended
          simp [Finds, isDrained, there, empty, ended]
        · split
          · rename_i due
            exact due
          · rename_i early
            split
            · rename_i stirred
              intro parked
              simpa [parked] using stirred
            · rename_i still
              rw [Bool.or_eq_true, not_or] at still
              refine ⟨by simpa using still.2, by simpa using still.1, ?_⟩
              intro time alarm
              rw [alarm, Option.any_some, decide_eq_true_eq] at early
              omega

end Desk

namespace Stage
variable {H W : Type}

def desk (stage : Stage H W) : Desk H W := stage.machine.desk

def isIdle (stage : Stage H W) : Bool := stage.machine.result?.isSome

def resting (desk : Desk H W) (aims : Nat → Option (Option Nat)) : Stage H W :=
  { machine := Machine.give Machine.done desk [], aims }

def opening (settings : Settings) (credentials : Credentials) (page : W) : Stage H W :=
  resting { settings, link := { credentials }, page } fun _ => none

def forget (aims : Nat → Option (Option Nat)) (line : Nat) : Nat → Option (Option Nat) :=
  fun other => if other = line then none else aims other

/-- The moves that can be made only while no operation is in progress. -/
def begin (desk : Desk H W) (aims : Nat → Option (Option Nat)) :
    Move H → Option (Stage H W)
  | .act action => some { machine := { control := .perform action, desk }, aims }
  | .work | .exchange _ => none
  | .start => match desk.startService with
    | (true, desk) => some (resting desk aims)
    | (false, _) => none
  | .handle line => do
    let service ← desk.service? line
    let (frame, taken) ← desk.takeNext? line
    some { machine := { control := .perform (.handle frame), stack := [.serving],
                        desk := (taken.unpark service).enlist }
           aims := forget aims line }
  | .expire line => do
    let service ← desk.service? line
    if service.alarm.any fun alarm => alarm ≤ desk.now then
      some { machine := { control := .perform (.expire 0), desk := (desk.unpark service).enlist }
             aims := forget aims line }
    else none
  | .wake line => do
    let service ← desk.service? line
    if service.notified then some (resting (desk.rouse service) (forget aims line)) else none
  | .aim line => do
    let service ← desk.service? line
    if service.parked then none
    else some (resting desk fun other =>
      if other = line then some desk.nextDeadline? else aims other)
  | .sleep line => do
    let service ← desk.service? line
    let alarm ← aims line
    if service.parked then none
    else some (resting (desk.lull service alarm) (forget aims line))
  | .leave line => do
    let service ← desk.service? line
    if service.stopping || desk.isDrained line then
      some (resting ((desk.dismiss service).release line) (forget aims line))
    else none
  | .pump line => some (resting { desk with link := desk.link.pumpLine line } aims)
  | .report line report => some (resting (desk.report line report) aims)
  | .lay inProcess =>
    let line : Line := if inProcess then .toProcess else {}
    some (resting { desk with link.lines := desk.link.lines ++ [line] } aims)
  | .dial => some (resting desk.dial aims)
  | .opened (.ok line) =>
    if desk.isUnused line then some (resting (desk.opened (.ok line)).2 aims) else none
  | .opened (.error reason) => some (resting (desk.opened (.error reason)).2 aims)
  | .advance ms => some (resting (desk.advance ms) aims)
  | .schedule agenda => some (resting { desk with agenda } aims)

/-- What a move needs that is made while no operation is in progress, and what comes of it. -/
inductive Begins (desk : Desk H W) (aims : Nat → Option (Option Nat)) : Move H → Stage H W → Prop
  | act (action : Action H) :
      Begins desk aims (.act action) { machine := { control := .perform action, desk }, aims }
  | start (line : Nat) (byHand : desk.stream = some line) :
      Begins desk aims .start (resting ({ desk with stream := none }.serveLine line) aims)
  | handle (line : Nat) (service : Service) (frame : Incoming) (taken : Desk H W)
      (found : desk.service? line = some service)
      (received : desk.takeNext? line = some (frame, taken)) :
      Begins desk aims (.handle line)
        { machine := { control := .perform (.handle frame), stack := [.serving],
                       desk := (taken.unpark service).enlist }
          aims := forget aims line }
  | expire (line : Nat) (service : Service) (found : desk.service? line = some service)
      (due : (service.alarm.any fun alarm => alarm ≤ desk.now) = true) :
      Begins desk aims (.expire line)
        { machine := { control := .perform (.expire 0), desk := (desk.unpark service).enlist }
          aims := forget aims line }
  | wake (line : Nat) (service : Service) (found : desk.service? line = some service)
      (notified : service.notified = true) :
      Begins desk aims (.wake line) (resting (desk.rouse service) (forget aims line))
  | aim (line : Nat) (service : Service) (found : desk.service? line = some service)
      (awake : service.parked = false) :
      Begins desk aims (.aim line) (resting desk fun other =>
        if other = line then some desk.nextDeadline? else aims other)
  | sleep (line : Nat) (service : Service) (alarm : Option Nat)
      (found : desk.service? line = some service) (aim : aims line = some alarm)
      (awake : service.parked = false) :
      Begins desk aims (.sleep line) (resting (desk.lull service alarm) (forget aims line))
  | leave (line : Nat) (service : Service) (found : desk.service? line = some service)
      (ready : (service.stopping || desk.isDrained line) = true) :
      Begins desk aims (.leave line)
        (resting ((desk.dismiss service).release line) (forget aims line))
  | pump (line : Nat) :
      Begins desk aims (.pump line) (resting { desk with link := desk.link.pumpLine line } aims)
  | report (line : Nat) (report : Report) :
      Begins desk aims (.report line report) (resting (desk.report line report) aims)
  | lay (inProcess : Bool) :
      Begins desk aims (.lay inProcess) (resting
        { desk with
          link.lines := desk.link.lines ++ [if inProcess then .toProcess else {}] } aims)
  | dial : Begins desk aims .dial (resting desk.dial aims)
  | opened (outcome : Except String Nat)
      (unused : ∀ line, outcome = .ok line → desk.isUnused line = true) :
      Begins desk aims (.opened outcome) (resting (desk.opened outcome).2 aims)
  | advance (ms : Nat) : Begins desk aims (.advance ms) (resting (desk.advance ms) aims)
  | schedule (agenda : List Worker) :
      Begins desk aims (.schedule agenda) (resting { desk with agenda } aims)

theorem begins_of_begin {desk : Desk H W} {aims : Nat → Option (Option Nat)} {move : Move H}
    {after : Stage H W} (made : begin desk aims move = some after) :
    Begins desk aims move after := by
  cases move with
  | work | exchange => cases made
  | dial =>
    cases made
    exact .dial
  | act action =>
    cases made
    exact .act action
  | pump line =>
    cases made
    exact .pump line
  | report line report =>
    cases made
    exact .report line report
  | lay inProcess =>
    cases made
    exact .lay inProcess
  | advance ms =>
    cases made
    exact .advance ms
  | schedule agenda =>
    cases made
    exact .schedule agenda
  | start =>
    simp only [begin, Desk.startService] at made
    cases byHand : desk.stream with
    | none =>
      rw [byHand] at made
      cases made
    | some line =>
      rw [byHand] at made
      cases made
      exact .start line byHand
  | opened outcome =>
    cases outcome with
    | error reason =>
      cases made
      exact .opened _ fun line impossible => by cases impossible
    | ok line =>
      simp only [begin] at made
      split at made
      · rename_i unused
        cases made
        exact .opened _ fun other same => by
          cases same
          exact unused
      · cases made
  | handle line =>
    simp only [begin, Option.bind_eq_bind, Option.bind_eq_some_iff] at made
    obtain ⟨service, found, ⟨frame, taken⟩, received, made⟩ := made
    cases made
    exact .handle line service frame taken found received
  | expire line =>
    simp only [begin, Option.bind_eq_bind, Option.bind_eq_some_iff] at made
    obtain ⟨service, found, made⟩ := made
    split at made
    · rename_i due
      cases made
      exact .expire line service found due
    · cases made
  | wake line =>
    simp only [begin, Option.bind_eq_bind, Option.bind_eq_some_iff] at made
    obtain ⟨service, found, made⟩ := made
    split at made
    · rename_i notified
      cases made
      exact .wake line service found notified
    · cases made
  | aim line =>
    simp only [begin, Option.bind_eq_bind, Option.bind_eq_some_iff] at made
    obtain ⟨service, found, made⟩ := made
    split at made
    · cases made
    · rename_i awake
      cases made
      exact .aim line service found (Bool.eq_false_iff.mpr awake)
  | sleep line =>
    simp only [begin, Option.bind_eq_bind, Option.bind_eq_some_iff] at made
    obtain ⟨service, found, alarm, aim, made⟩ := made
    split at made
    · cases made
    · rename_i awake
      cases made
      exact .sleep line service alarm found aim (Bool.eq_false_iff.mpr awake)
  | leave line =>
    simp only [begin, Option.bind_eq_bind, Option.bind_eq_some_iff] at made
    obtain ⟨service, found, made⟩ := made
    split at made
    · rename_i ready
      cases made
      exact .leave line service found ready
    · cases made

/-- The stage with neighbours exchanged in its table of requests. -/
def exchange (stage : Stage H W) (place : Nat) : Stage H W :=
  { stage with machine.desk.calls := stage.machine.desk.calls.exchange place }

theorem find?_exchange (stage : Stage H W) (place : Nat) (id : String) :
    (stage.exchange place).desk.calls.find? id = stage.desk.calls.find? id :=
  Table.find?_exchange ..

def next (behave : Behaviour H W) (stage : Stage H W) : Move H → Option (Stage H W)
  | .exchange place => some (stage.exchange place)
  | .work =>
    if stage.isIdle then none else some { stage with machine := stage.machine.step behave }
  | move => if stage.isIdle then begin stage.desk stage.aims move else none

/-- What a move needs, and what comes of it. -/
inductive Moved (behave : Behaviour H W) (stage : Stage H W) : Move H → Stage H W → Prop
  | worked (busy : stage.isIdle = false) :
      Moved behave stage .work { stage with machine := stage.machine.step behave }
  | begun (move : Move H) (after : Stage H W) (unworked : move.isStep = false)
      (idle : stage.isIdle = true) (begins : begin stage.desk stage.aims move = some after) :
      Moved behave stage move after
  | exchanged (place : Nat) : Moved behave stage (.exchange place) (stage.exchange place)

theorem moved_of_next {behave : Behaviour H W} {stage after : Stage H W} {move : Move H}
    (made : stage.next behave move = some after) : Moved behave stage move after := by
  cases move with
  | exchange place =>
    cases made
    exact .exchanged place
  | work =>
    simp only [next] at made
    split at made
    · cases made
    · rename_i busy
      cases made
      exact .worked (Bool.eq_false_iff.mpr busy)
  | _ =>
    simp only [next] at made
    split at made
    · rename_i idle
      exact .begun _ after rfl idle made
    · cases made

/-- What can be begun at a stage at which no operation is in progress can be the next move. -/
theorem next_of_begin {behave : Behaviour H W} {stage after : Stage H W} {move : Move H}
    (idle : stage.isIdle = true) (made : begin stage.desk stage.aims move = some after) :
    stage.next behave move = some after := by
  cases move with
  | work | exchange => cases made
  | _ => exact (if_pos idle).trans made

end Stage

/-- The moves made so far, each with the stage at which it was made, the latest first. -/
abbrev Past (H W : Type) := List (Stage H W × Move H)

/-- A run from one stage to another. -/
inductive SerialRun {H W : Type} (behave : Behaviour H W) (start : Stage H W) :
    Past H W → Stage H W → Prop
  | start : SerialRun behave start [] start
  | next {past : Past H W} {stage after : Stage H W} {move : Move H}
      (before : SerialRun behave start past stage) (made : stage.next behave move = some after) :
      SerialRun behave start ((stage, move) :: past) after

/-- The moves of a list one after the other, if each of them can be made. -/
def Stage.follow {H W : Type} (behave : Behaviour H W) :
    List (Move H) → Past H W × Stage H W → Option (Past H W × Stage H W)
  | [], reached => some reached
  | move :: rest, (past, stage) =>
    match stage.next behave move with
    | some after => follow behave rest ((stage, move) :: past, after)
    | none => none

section
variable {H W : Type} {behave : Behaviour H W} {start stage : Stage H W}

/-- Moves that can be made one after the other carry a run on. -/
theorem SerialRun.follow {after : Stage H W} {past later : Past H W} {moves : List (Move H)}
    (before : SerialRun behave start past stage)
    (made : Stage.follow behave moves (past, stage) = some (later, after)) :
    SerialRun behave start later after := by
  induction moves generalizing past stage with
  | nil =>
    cases made
    exact before
  | cons move rest ih =>
    rw [Stage.follow] at made
    split at made
    · rename_i next moved
      exact ih (before.next moved) made
    · cases made

/-- Moves that are made are remembered in their order, the latest first. -/
theorem Stage.follow_made {after : Stage H W} {past later : Past H W} {moves : List (Move H)}
    (made : Stage.follow behave moves (past, stage) = some (later, after)) :
    later.map Prod.snd = moves.reverse ++ past.map Prod.snd := by
  induction moves generalizing past stage with
  | nil =>
    cases made
    rfl
  | cons move rest ih =>
    rw [Stage.follow] at made
    split at made
    · rw [ih made, List.reverse_cons, List.append_assoc]
      rfl
    · cases made

/-- A run comes to each of its moves by a run, and goes on from there by another one. -/
theorem SerialRun.divide {first : Stage H W} {later earlier : Past H W} {move : Move H}
    (run : SerialRun behave start (later ++ (first, move) :: earlier) stage) :
    ∃ after, SerialRun behave start earlier first ∧ first.next behave move = some after ∧
      SerialRun behave after later stage := by
  induction later generalizing stage with
  | nil =>
    cases run with
    | next before made => exact ⟨stage, before, made, .start⟩
  | cons moved later ih =>
    cases run with
    | next before made =>
      obtain ⟨after, earlier, moved, run⟩ := ih before
      exact ⟨after, earlier, moved, run.next made⟩

/-- The requests may come to stand in any order. -/
theorem SerialRun.reorder {past : Past H W} (run : SerialRun behave start past stage)
    (table : Table Call) (perm : stage.desk.calls.entries.Perm table.entries) :
    ∃ later, SerialRun behave start (later ++ past)
      { stage with machine.desk.calls := table } := by
  obtain ⟨places, reached⟩ := Table.exists_swaps perm
  induction places generalizing past stage with
  | nil =>
    have same : stage.machine.desk.calls = table := Table.eq_of_entries reached
    subst same
    exact ⟨[], run⟩
  | cons place places ih =>
    have exchanged : SerialRun behave start ((stage, .exchange place) :: past)
        (stage.exchange place) := run.next rfl
    have onward := (Table.swapAt_perm place stage.desk.calls.entries).trans perm
    obtain ⟨later, run⟩ := ih exchanged onward reached
    refine ⟨later ++ [(stage, .exchange place)], ?_⟩
    rw [List.append_assoc]
    exact run

def Stepped (test : Machine H W → Bool) (past : Past H W) : Prop :=
  ∃ moved ∈ past, (moved.2.isStep && test moved.1.machine) = true

instance (test : Machine H W → Bool) (past : Past H W) : Decidable (Stepped test past) :=
  inferInstanceAs (Decidable (∃ moved ∈ past, (moved.2.isStep && test moved.1.machine) = true))

theorem not_stepped_nil {test : Machine H W → Bool} : ¬Stepped test ([] : Past H W) :=
  fun ⟨_, member, _⟩ => List.not_mem_nil member

theorem stepped_cons {test : Machine H W → Bool} {past : Past H W} {move : Move H} :
    Stepped test ((stage, move) :: past) ↔
      (move.isStep && test stage.machine) = true ∨ Stepped test past := by
  simp only [Stepped, List.mem_cons, or_and_right, exists_or, exists_eq_left]

end

def asking : Behaviour Unit Unit := fun _ _ _ =>
  ((), .act (.submit { handler := "users.list", target := .named "users" }) fun _ => .finish)

def quiet : Behaviour Unit Unit := fun _ _ page => (page, .finish)

end PageSession.Exchange
