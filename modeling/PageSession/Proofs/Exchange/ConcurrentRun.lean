import PageSession.Proofs.Exchange.Executions
import PageSession.Proofs.Exchange.Traffic

/-!
Concurrent runs of a desk: others go on while an operation runs. Peers report, pumps take their
turns, time passes and requests are sent at any moment, between two steps of a handler too. All that
happens to the link is traffic, so each run has a history of its link. Whatever else happens leaves
the link, what is read by hand and the count of unmatched responses alone.
-/
namespace PageSession.Exchange
open Json Message

def Traffic.isForeign : Traffic → Bool
  | .lay _ | .emit .. | .report .. | .pump _ | .deafen _ | .drop _ => true
  | .dial | .opened _ | .take _ | .release _ => false

/-- A move of a serial run, or what others do meanwhile. -/
inductive ConcurrentMove (H : Type) where
  | move (move : Move H)
  | submit (submission : Submission H)
  | traffic (traffic : Traffic)
  | advance (ms : Nat)

namespace Stage
variable {H W : Type}

def atDesk (stage : Stage H W) (desk : Desk H W) : Stage H W :=
  { stage with machine := { stage.machine with desk } }

def interleave (behave : Behaviour H W) (stage : Stage H W) : ConcurrentMove H → Option (Stage H W)
  | .move move => stage.next behave move
  | .submit s => some (stage.atDesk (stage.desk.submit s).2.enlist)
  | .traffic traffic =>
    if traffic.isForeign then
      some (stage.atDesk { stage.desk with link := stage.desk.link.after traffic }.enlist)
    else none
  | .advance ms => some (stage.atDesk (stage.desk.advance ms))

end Stage

abbrev ConcurrentPast (H W : Type) := List (Stage H W × ConcurrentMove H)

inductive ConcurrentRun {H W : Type} (behave : Behaviour H W) (start : Stage H W) :
    ConcurrentPast H W → Stage H W → Prop
  | start : ConcurrentRun behave start [] start
  | next {past : ConcurrentPast H W} {stage after : Stage H W} {move : ConcurrentMove H}
      (before : ConcurrentRun behave start past stage)
      (made : stage.interleave behave move = some after) :
      ConcurrentRun behave start ((stage, move) :: past) after

def Stage.interleaveAll {H W : Type} (behave : Behaviour H W) : List (ConcurrentMove H) →
    ConcurrentPast H W × Stage H W → Option (ConcurrentPast H W × Stage H W)
  | [], reached => some reached
  | move :: rest, (past, stage) =>
    match stage.interleave behave move with
    | some after => interleaveAll behave rest ((stage, move) :: past, after)
    | none => none

theorem ConcurrentRun.interleaveAll {H W : Type} {behave : Behaviour H W}
    {start stage after : Stage H W} {past later : ConcurrentPast H W}
    {moves : List (ConcurrentMove H)} (before : ConcurrentRun behave start past stage)
    (made : Stage.interleaveAll behave moves (past, stage) = some (later, after)) :
    ConcurrentRun behave start later after := by
  induction moves generalizing past stage with
  | nil =>
    cases made
    exact before
  | cons move rest ih =>
    rw [Stage.interleaveAll] at made
    split at made
    · rename_i next moved
      exact ih (before.next moved) made
    · cases made

/-- A serial run is a concurrent one in which nobody interferes. -/
theorem SerialRun.concurrent {H W : Type} {behave : Behaviour H W} {start stage : Stage H W}
    {past : Past H W} (run : SerialRun behave start past stage) :
    ConcurrentRun behave start (past.map fun moved => (moved.1, .move moved.2)) stage := by
  induction run with
  | start => exact .start
  | next before made ih => exact ih.next made

/-! ## Traffic of what happens -/

namespace Desk
variable {H W : Type}

def submitTraffic (desk : Desk H W) (s : Submission H) : List Traffic :=
  match (desk.submit s).1 with
  | some (.ok id) => [.emit "submit" (desk.requestOf s id).payload]
  | _ => []

def actTraffic (index : Nat) (line : Line) : PeerAction → List Traffic
  | .report .connected => if line.inProcess then [] else [.report index .connected]
  | .report (.refused reason) => if line.inProcess then [] else [.report index (.refused reason)]
  | .report report => [.report index report]
  | .respond frame => if line.inProcess then [.report index (.frame frame)] else []
  | .stopReading => if line.inProcess then [] else [.deafen index]
  | .drop => [.drop index]

def peerTraffic (desk : Desk H W) (index : Option Nat) (action : PeerAction) : List Traffic :=
  let index := index.getD (desk.link.lines.length - 1)
  match desk.link.line? index with
  | none => []
  | some line => if line.reporting then actTraffic index line action else []

/-- To connect on a line gives up the frames of the line that was read by hand so far. -/
def openedTraffic (desk : Desk H W) (outcome : Except String Nat) : List Traffic :=
  let released := match (desk.opened outcome).1, desk.stream with
    | .ok (), some earlier => [.release earlier]
    | _, _ => []
  released ++ [.opened outcome]

def takeTraffic (desk : Desk H W) : List Traffic := (desk.stream.map Traffic.take).toList

end Desk

def Machine.traffic {H W : Type} (m : Machine H W) : List Traffic :=
  match m.control with
  | .perform (.submit s) => m.desk.submitTraffic s
  | .perform (.emit kind payload) | .perform (.emitThen kind payload) => [.emit kind payload]
  | .perform .take | .perform .pull => m.desk.takeTraffic
  | .perform (.peer line action) => m.desk.peerTraffic line action
  | _ => []

def Stage.traffic {H W : Type} (stage : Stage H W) : ConcurrentMove H → List Traffic
  | .move move =>
    match move with
    | .work => stage.machine.traffic
    | .handle line => [.take line]
    | .leave line => [.release line]
    | .pump line => [.pump line]
    | .report line report => [.report line report]
    | .lay inProcess => [.lay inProcess]
    | .dial => [.dial]
    | .opened outcome => stage.desk.openedTraffic outcome
    | .act _ | .start | .expire _ | .wake _ | .aim _ | .sleep _ | .advance _ | .schedule _
    | .exchange _ => []
  | .submit s => stage.desk.submitTraffic s
  | .traffic traffic => [traffic]
  | .advance _ => []

/-- The history of the link, the latest first. -/
def trafficOf {H W : Type} (past : ConcurrentPast H W) : List Traffic :=
  past.flatMap fun moved => moved.1.traffic moved.2

namespace Desk
variable {H W : Type}

/-! ## The link -/

/-- So much traffic has passed, and what is read by hand and the count of unmatched responses are
the same. -/
structure Passes (desk : Desk H W) (traffic : List Traffic) (after : Desk H W) : Prop where
  link : after.link = desk.link.run traffic
  stream : after.stream = desk.stream
  dropped : after.dropped = desk.dropped

theorem SameOutside.passes {desk after : Desk H W} (same : SameOutside desk after) :
    Passes desk [] after :=
  ⟨same.link, same.stream, same.dropped⟩

theorem Passes.of_same {desk after last : Desk H W} {traffic : List Traffic}
    (passes : Passes desk traffic after) (link : last.link = after.link)
    (stream : last.stream = after.stream) (dropped : last.dropped = after.dropped) :
    Passes desk traffic last :=
  ⟨link.trans passes.link, stream.trans passes.stream, dropped.trans passes.dropped⟩

theorem passes_notifyService (desk : Desk H W) : Passes desk [] desk.notifyService := by
  unfold notifyService
  split <;> constructor <;> rfl

theorem passes_stopService (desk : Desk H W) : Passes desk [] desk.stopService := by
  unfold stopService
  split <;> constructor <;> rfl

theorem passes_unpark (desk : Desk H W) (service : Service) :
    Passes desk [] (desk.unpark service) := by
  unfold unpark
  dsimp only
  split
  · have notified := passes_notifyService
      (desk.setService { service with parked := false, alarm := none, notified := false })
    exact ⟨notified.link, notified.stream, notified.dropped⟩
  · constructor <;> rfl

theorem passes_emit (desk : Desk H W) (kind : String) (payload : Members) :
    Passes desk [.emit kind payload] (desk.emit kind payload).2 := by
  simp only [emit]
  constructor
  · simp only [Link.run, Link.after]
    cases desk.link.emit kind payload <;> rfl
  · split <;> rfl
  · split <;> rfl

theorem passes_submitAs (desk : Desk H W) (s : Submission H) (id : String) (own : Option H) :
    Passes desk
      (match (desk.submitAs s id own).1 with
        | .ok id => [.emit "submit" (desk.requestOf s id).payload]
        | .error _ => [])
      (desk.submitAs s id own).2 := by
  rw [submitAs_eq]
  by_cases waiting : desk.calls.contains id
  · rw [if_pos waiting]
    constructor <;> rfl
  · rw [if_neg waiting]
    cases sent : desk.link.emit "submit" (desk.requestOf s id).payload with
    | error failure =>
      dsimp only
      cases own <;> constructor <;> rfl
    | ok link =>
      dsimp only
      have sending : Passes desk [.emit "submit" (desk.requestOf s id).payload]
          { desk.filed s id own with link } := by
        refine ⟨?_, ?_, ?_⟩
        · simp only [Link.run, Link.after, sent]
        · cases own <;> rfl
        · cases own <;> rfl
      unfold announced
      dsimp only
      split
      · have told := passes_notifyService
          (Desk.record { desk.filed s id own with link } (.request .submitted id))
        exact sending.of_same told.link told.stream told.dropped
      · have told := passes_notifyService
          ((Desk.record { desk.filed s id own with link } (.request .submitted id)).record
            (.loading (some s.handler)))
        exact sending.of_same told.link told.stream told.dropped

theorem passes_submit (desk : Desk H W) (s : Submission H) :
    Passes desk (desk.submitTraffic s) (desk.submit s).2 := by
  unfold submitTraffic
  rcases submit_cases desk s with ⟨-, empty⟩ | ⟨ids, -, exhausted⟩ | ⟨id, ids, -, sent⟩
  · rw [empty]
    constructor <;> rfl
  · rw [exhausted]
    constructor <;> rfl
  · rw [sent]
    have passes := passes_submitAs { desk with ids } s id s.own?
    cases result : (submitAs { desk with ids } s id s.own?).1 <;> rw [result] at passes <;>
      exact ⟨passes.link, passes.stream, passes.dropped⟩

/-- The frame that is read by hand leaves the line, if there is one. -/
theorem passes_takeFrame (desk : Desk H W) : Passes desk desk.takeTraffic desk.takeFrame.2 := by
  unfold takeFrame takeTraffic
  cases reads : desk.stream with
  | none => constructor <;> rfl
  | some index =>
    cases there : desk.link.line? index with
    | none => constructor <;> simp [Link.run, Link.after, Link.change, there]
    | some line =>
      simp only [Option.bind_some, there, Option.map_some, Option.toList_some]
      have taking : desk.link.run [.take index] =
          desk.link.setLine index { line with inbox := line.inbox.tail } :=
        Link.change_eq there _
      cases queue : line.inbox with
      | nil =>
        rw [queue, List.tail_nil, ← queue, Link.setLine_self there] at taking
        exact ⟨taking.symm, rfl, rfl⟩
      | cons frame rest =>
        rw [queue] at taking
        exact ⟨taking.symm, reads.symm, rfl⟩

theorem passes_peerAct {desk : Desk H W} {index : Nat} {line : Line}
    (there : desk.link.line? index = some line) (action : PeerAction) :
    Passes desk (actTraffic index line action) (desk.peerAct index line action).2 := by
  have changing : ∀ f : Line → Line, desk.link.setLine index (f line) = desk.link.change index f :=
    fun f => (Link.change_eq there f).symm
  cases action with
  | report report =>
    have reporting : ∀ report, Passes desk [.report index report]
        { desk with link := (desk.link.report index report).2 } := fun _ => ⟨rfl, rfl, rfl⟩
    cases report with
    | connected | refused =>
      simp only [actTraffic, peerAct]
      split
      · constructor <;> rfl
      · exact reporting _
    | closed | trouble | frame => exact reporting _
  | respond frame =>
    simp only [actTraffic, peerAct]
    split <;> constructor <;> rfl
  | stopReading =>
    simp only [actTraffic, peerAct]
    split
    · constructor <;> rfl
    · exact ⟨changing fun line => { line with accepting := false }, rfl, rfl⟩
  | drop =>
    exact ⟨changing fun line => { line with accepting := false, reporting := false }, rfl, rfl⟩

theorem passes_peer (desk : Desk H W) (index : Option Nat) (action : PeerAction) :
    Passes desk (desk.peerTraffic index action) (desk.peer index action).2 := by
  unfold peerTraffic peer
  dsimp only
  cases there : desk.link.line? (index.getD (desk.link.lines.length - 1)) with
  | none => constructor <;> rfl
  | some line =>
    dsimp only
    split
    · exact passes_peerAct there action
    · constructor <;> rfl

end Desk

def Answer.isFailure : Answer → Bool
  | .done (.error _) => true
  | _ => false

namespace Machine
variable {H W : Type}

/-- The answer to the frame that a service has handled, if the next step hands it to the service. -/
def verdict? (m : Machine H W) : Option Answer :=
  match m.control, m.stack with
  | .answer answer, .serving :: _ => some answer
  | _, _ => none

theorem passes_perform (behave : Behaviour H W) (action : Action H) (desk : Desk H W)
    (stack : List (Frame H)) :
    Desk.Passes desk (traffic { control := .perform action, stack, desk })
      (perform behave action desk stack).desk := by
  cases action with
  | submit s =>
    have sent := desk.passes_submit s
    change Desk.Passes desk (desk.submitTraffic s)
      (step behave { control := .perform (.submit s), stack, desk }).desk
    rw [step_submit behave rfl]
    exact ⟨sent.link, sent.stream, sent.dropped⟩
  | register | registerMethod | unregister | subscribe | dispatch | ask => exact ⟨rfl, rfl, rfl⟩
  | invoke id reply => exact (sameOutside_deliver behave id reply desk stack).passes
  | call method args =>
    simp only [perform]
    split <;> exact ⟨rfl, rfl, rfl⟩
  | handle frame => exact (sameOutside_handle behave frame desk stack).passes
  | expire ahead => exact (sameOutside_expire _ desk stack).passes
  | emit kind payload => exact desk.passes_emit kind payload
  | emitThen kind payload =>
    have sent := desk.passes_emit kind payload
    simp only [perform]
    split <;> rename_i result <;> rw [result] at sent
    · exact ⟨sent.link, sent.stream, sent.dropped⟩
    · exact sent
  | take => exact desk.passes_takeFrame
  | pull =>
    have taken := desk.passes_takeFrame
    simp only [perform]
    cases result : desk.takeFrame with
    | mk answer after =>
      rw [result] at taken
      cases answer with
      | frame frame =>
        have handled := sameOutside_handle behave frame after stack
        exact taken.of_same handled.link handled.stream handled.dropped
      | _ => exact taken
  | peer line action =>
    have acted := desk.passes_peer line action
    exact ⟨acted.link, acted.stream, acted.dropped⟩
  | stop =>
    have stopped := desk.passes_stopService
    exact ⟨stopped.link, stopped.stream, stopped.dropped⟩

/-- A step causes its traffic, and counts a failure that it hands to a service. -/
theorem passes_step (behave : Behaviour H W) (m : Machine H W) :
    (m.step behave).desk.link = m.desk.link.run m.traffic ∧
      (m.step behave).desk.stream = m.desk.stream ∧
      (m.step behave).desk.dropped =
        m.desk.dropped + (m.verdict?.toList).countP Answer.isFailure := by
  obtain ⟨control, stack, desk⟩ := m
  cases control with
  | perform action =>
    have passes := passes_perform behave action desk stack
    exact ⟨passes.link, passes.stream, passes.dropped⟩
  | run h program => cases program <;> exact ⟨rfl, rfl, rfl⟩
  | answer answer =>
    cases stack with
    | nil => exact ⟨rfl, rfl, rfl⟩
    | cons frame stack =>
      by_cases serving : frame = .serving
      · subst serving
        simp only [step, resume, verdict?, traffic]
        split
        · exact ⟨rfl, rfl, rfl⟩
        · rename_i success
          refine ⟨rfl, rfl, ?_⟩
          have harmless : answer.isFailure = false := by
            unfold Answer.isFailure
            split
            · exact absurd rfl (success _)
            · rfl
          simp [harmless, give]
      · have same := sameOutside_resume behave answer desk stack serving
        have silent :
            verdict? { control := .answer answer, stack := frame :: stack, desk } = none := by
          cases frame <;> first | rfl | exact absurd rfl serving
        rw [silent]
        exact ⟨same.link, same.stream, same.dropped⟩

end Machine

namespace Desk
variable {H W : Type}

theorem release_link (desk : Desk H W) (line : Nat) :
    (desk.release line).link = desk.link.after (.release line) := by
  unfold release
  cases there : desk.link.line? line with
  | none => simp [Link.after, Link.change, there]
  | some l =>
    exact (Link.change_eq there fun line => { line with inbox := [], held := false }).symm

theorem takeNext?_link {desk taken : Desk H W} {line : Nat} {frame : Incoming}
    (success : desk.takeNext? line = some (frame, taken)) :
    taken.link = desk.link.after (.take line) := by
  unfold takeNext? at success
  split at success
  · rename_i l there
    split at success
    · rename_i queue
      cases success
      rw [Link.after, Link.change_eq there, queue]
      rfl
    · cases success
  · cases success

theorem summon_link (desk : Desk H W) (worker : Worker) :
    (desk.summon worker).link = desk.link := by
  obtain ⟨agenda, same⟩ := desk.summon_desk worker
  rw [same]

theorem summon_stream (desk : Desk H W) (worker : Worker) :
    (desk.summon worker).stream = desk.stream := by
  obtain ⟨agenda, same⟩ := desk.summon_desk worker
  rw [same]

/-- A desk connects as its link does. -/
theorem opened_link (desk : Desk H W) (outcome : Except String Nat) :
    (desk.opened outcome).1 = (desk.link.conclude outcome).1 ∧
      (desk.opened outcome).2.link.status = (desk.link.conclude outcome).2.status := by
  unfold opened
  cases tried : desk.link.conclude outcome with
  | mk result link =>
    cases result with
    | error failure => cases outcome <;> exact ⟨rfl, rfl⟩
    | ok done =>
      cases outcome with
      | error reason => cases tried
      | ok line =>
        have released : ∀ earlier, (release { desk with link } earlier).link.status =
            link.status := by
          intro earlier
          unfold release
          split <;> rfl
        refine ⟨rfl, ?_⟩
        dsimp only
        unfold summon
        split <;> split <;> first | rfl | exact released _

theorem opened_traffic {desk : Desk H W} {outcome : Except String Nat}
    (unused : ∀ line, outcome = .ok line → desk.isUnused line = true) :
    (desk.opened outcome).2.link = desk.link.run (desk.openedTraffic outcome) := by
  have tried : desk.link.run [.opened outcome] = (desk.link.conclude outcome).2 := by
    cases outcome with
    | error reason => rfl
    | ok line =>
      have free : desk.link.isUnused line = true := unused line rfl
      simp only [Link.run, Link.after, free, if_true]
  unfold openedTraffic opened
  cases attempt : desk.link.conclude outcome with
  | mk result link =>
    rw [attempt] at tried
    cases result with
    | error failure => cases outcome <;> exact tried.symm
    | ok done =>
      cases outcome with
      | error reason => cases attempt
      | ok line =>
        dsimp only
        cases reads : desk.stream with
        | none =>
          dsimp only
          rw [summon_link]
          exact tried.symm
        | some earlier =>
          dsimp only
          rw [summon_link]
          exact (release_link _ earlier).trans
            (congrArg (Link.after · (.release earlier)) tried.symm)

/-- An attempt that succeeds opens its line. -/
theorem isOpened_of_opened {desk : Desk H W} {line : Nat} (unused : desk.isUnused line = true)
    (success : (desk.opened (.ok line)).1 = .ok ()) :
    desk.link.isOpened line (desk.openedTraffic (.ok line)) = true := by
  have free : desk.link.isUnused line = true := unused
  have joined : (desk.link.conclude (.ok line)).1.isOk = true := by
    rw [← (desk.opened_link (.ok line)).1, success]
    rfl
  have opens : desk.link.isOpened line [.opened (.ok line)] = true := by
    simp only [Link.isOpened, Link.starts, Link.run, free, joined]
    simp
  rw [openedTraffic, Link.isOpened_append, opens, Bool.true_or]

end Desk

namespace Stage
variable {H W : Type}

/-- What a move does to the link is its traffic. -/
theorem link_interleave {behave : Behaviour H W} {stage after : Stage H W} {move : ConcurrentMove H}
    (made : stage.interleave behave move = some after) :
    after.desk.link = stage.desk.link.run (stage.traffic move) := by
  cases move with
  | submit s =>
    cases made
    exact (stage.desk.passes_submit s).link
  | traffic traffic =>
    simp only [Stage.interleave] at made
    split at made
    · cases made
      rfl
    · cases made
  | advance ms =>
    cases made
    rfl
  | move move =>
    cases moved_of_next made with
    | worked => exact (Machine.passes_step behave stage.machine).1
    | exchanged => rfl
    | begun _ _ _ _ begun =>
      cases begins_of_begin begun with
      | act | start | aim | sleep | wake | pump | report | lay | dial | advance | schedule => rfl
      | handle line service frame taken found received =>
        exact ((taken.passes_unpark service).link).trans (Desk.takeNext?_link received)
      | expire line service found due => exact (stage.desk.passes_unpark service).link
      | leave line service found ready =>
        have awake := stage.desk.passes_unpark service
        exact ((stage.desk.dismiss service).release_link line).trans
          (congrArg (Link.after · (.release line)) awake.link)
      | opened outcome unused => exact Desk.opened_traffic unused

end Stage

/-- A run is a history of its link. -/
theorem ConcurrentRun.link {H W : Type} {behave : Behaviour H W} {start stage : Stage H W}
    {past : ConcurrentPast H W} (run : ConcurrentRun behave start past stage) :
    stage.desk.link = start.desk.link.run (trafficOf past) := by
  induction run with
  | start => rfl
  | @next past stage after move before made ih =>
    have divided : trafficOf ((stage, move) :: past) = stage.traffic move ++ trafficOf past :=
      List.flatMap_cons ..
    rw [Stage.link_interleave made, ih, divided, Link.run_append]

end PageSession.Exchange
