import Mathlib
import PageSession.Proofs.Exchange.LikeDesks

/-!
Silence. Two runs with the same handlers that are alike in everything that happens stay alike: the
silent flags of requests, and those that responses echo, decide about nothing but the feedback that
alarms nobody. Each step of alike machines leaves alike machines, and so does each move of a run.
-/
namespace PageSession.Exchange
open Json Message List

namespace Machine
variable {H W : Type} {behave other : Behaviour H W} {desk twin : Desk H W}
  {stack twins : List (Frame H)}

theorem alike_give {answer answerTwin : Answer} (answers : answer.Alike answerTwin)
    (desks : desk.Alike twin) (behind : Forall₂ Frame.Alike stack twins) :
    (give answer desk stack).Alike (give answerTwin twin twins) :=
  ⟨.answer answers, behind, desks⟩

/-- Alike desks give the same answer. -/
theorem alike_answered {answer answerTwin : Answer} (same : answerTwin = answer)
    (desks : desk.Alike twin) (behind : Forall₂ Frame.Alike stack twins) :
    (give answer desk stack).Alike (give answerTwin twin twins) :=
  alike_give (same ▸ .same answer) desks behind

theorem alike_enter (behaves : behave.Alike other) (h : H) (invocation : Invocation)
    (desks : desk.Alike twin) (behind : Forall₂ Frame.Alike stack twins) :
    (enter behave h invocation desk stack).Alike (enter other h invocation twin twins) := by
  obtain ⟨links, waiting, logs⟩ := desks
  obtain ⟨pages, programs⟩ := behaves h invocation desk.page
  have entered : Desk.Alike { desk with page := (behave h invocation desk.page).1 } _ :=
    .intro links waiting logs
  refine ⟨.run h programs, behind, ?_⟩
  unfold enter
  dsimp only
  rw [← pages]
  exact entered.record _

theorem alike_deliver (behaves : behave.Alike other) (id : String) (reply : Reply)
    (desks : desk.Alike twin) (behind : Forall₂ Frame.Alike stack twins) :
    (deliver behave id reply desk stack).Alike (deliver other id reply twin twins) := by
  have without := desks.setCallbacks (desk.callbacks.erase id)
  unfold deliver Desk.takeCallback?
  rw [desks.callbacks]
  cases desk.callbacks.find? id with
  | none => exact alike_answered rfl desks behind
  | some callback =>
    obtain ⟨h, lifetime⟩ := callback
    cases lifetime with
    | once =>
      exact alike_enter behaves h _ without (.cons .succeed behind)
    | durable => exact alike_enter behaves h _ desks (.cons .succeed behind)

theorem alike_distribute (update : Update) (desks : desk.Alike twin)
    (behind : Forall₂ Frame.Alike stack twins) :
    (distribute update desk stack).Alike (distribute update twin twins) := by
  have subscribers : twin.subscribers = desk.subscribers := by rw [desks.same]
  unfold distribute
  rw [subscribers]
  exact alike_answered rfl desks (.cons (.distributing update _ _) behind)

theorem alike_handle (behaves : behave.Alike other) {frame frameTwin : Incoming}
    (frames : frame.Alike frameTwin) (desks : desk.Alike twin)
    (behind : Forall₂ Frame.Alike stack twins) :
    (handle behave frame desk stack).Alike (handle other frameTwin twin twins) := by
  obtain ⟨receipt, after, afterTwin, received, receivedTwin, desks⟩ :=
    exists_result (desks.receive frames)
  unfold handle
  rw [received, receivedTwin]
  cases receipt with
  | settled result => exact alike_answered rfl desks behind
  | deliver id reply => exact alike_deliver behaves id reply desks behind
  | distribute update => exact alike_distribute update desks (.cons .succeed behind)

theorem alike_expire (time : Int) (desks : desk.Alike twin)
    (behind : Forall₂ Frame.Alike stack twins) :
    (expire time desk stack).Alike (expire time twin twins) := by
  obtain ⟨evicted, desks⟩ := desks.evict time
  unfold expire
  cases evictedEq : desk.evict time with
  | mk requests after =>
    cases evictedTwin : twin.evict time with
    | mk requestsTwin afterTwin =>
      rw [evictedEq, evictedTwin] at evicted desks
      dsimp only at evicted
      cases evicted with
      | nil => exact alike_answered rfl desks behind
      | @cons first firstTwin rest restTwin heads tails =>
        have frames : Frame.Alike (.expiring (first :: rest) (first :: rest).length : Frame H)
            (.expiring (firstTwin :: restTwin) (firstTwin :: restTwin).length) := by
          rw [List.length_cons, List.length_cons, tails.length_eq]
          exact .expiring _ (.cons heads tails)
        exact alike_answered rfl desks.settleLoading (.cons frames behind)

theorem alike_emitThen (kind : String) (payload : Members) (desks : desk.Alike twin)
    (behind : Forall₂ Frame.Alike stack twins) :
    (perform behave (.emitThen kind payload) desk stack).Alike
      (perform other (.emitThen kind payload) twin twins) := by
  obtain ⟨result, after, afterTwin, made, madeTwin, desks⟩ :=
    exists_result (desks.emit kind payload)
  simp only [perform, made, madeTwin]
  cases result with
  | ok sent => exact alike_answered rfl (desks.record .enqueued) behind
  | error failure => exact alike_answered rfl desks behind

theorem alike_pull (behaves : behave.Alike other) (desks : desk.Alike twin)
    (behind : Forall₂ Frame.Alike stack twins) :
    (perform behave .pull desk stack).Alike (perform other .pull twin twins) := by
  obtain ⟨answers, desks⟩ := desks.takeFrame
  cases taken : desk.takeFrame with
  | mk answer after =>
    cases takenTwin : twin.takeFrame with
    | mk answerTwin afterTwin =>
      rw [taken, takenTwin] at answers desks
      simp only [perform, taken, takenTwin]
      cases answers with
      | frame frames => exact alike_handle behaves frames desks behind
      | same =>
        cases answer with
        | frame frame => exact alike_handle behaves (.same frame) desks behind
        | done | submitted | flag | count | lifetime | text | absent =>
          exact alike_answered rfl desks behind

theorem alike_submit {s sTwin : Submission H} (submissions : s.Alike sTwin)
    (desks : desk.Alike twin) (behind : Forall₂ Frame.Alike stack twins) :
    (perform behave (.submit s) desk stack).Alike (perform other (.submit sTwin) twin twins) := by
  obtain ⟨result, after, afterTwin, made, madeTwin, desks⟩ :=
    exists_result (desks.submit submissions)
  simp only [perform, made, madeTwin]
  cases result with
  | some result => exact alike_answered rfl desks.enlist behind
  | none => exact ⟨.perform (.submit submissions), behind, desks.enlist⟩

theorem alike_perform (behaves : behave.Alike other) {action actionTwin : Action H}
    (actions : action.Alike actionTwin) (desks : desk.Alike twin)
    (behind : Forall₂ Frame.Alike stack twins) :
    (perform behave action desk stack).Alike (perform other actionTwin twin twins) := by
  cases actions with
  | submit submissions => exact alike_submit submissions desks behind
  | handle frames => exact alike_handle behaves frames desks behind
  | peer line acts =>
    obtain ⟨results, desks⟩ := desks.peer line acts
    exact alike_answered results desks.enlist behind
  | same =>
    cases action with
    | submit s => exact alike_submit (.intro s.silent) desks behind
    | handle frame => exact alike_handle behaves (.same frame) desks behind
    | peer line act =>
      obtain ⟨results, desks⟩ := desks.peer line (.same act)
      exact alike_answered results desks.enlist behind
    | register id h lifetime =>
      obtain ⟨results, desks⟩ := desks.register id h lifetime
      exact alike_answered (congrArg Answer.flag results) desks behind
    | registerMethod name h =>
      obtain ⟨results, desks⟩ := desks.registerMethod name h
      exact alike_answered (congrArg Answer.flag results) desks behind
    | unregister id =>
      obtain ⟨results, desks⟩ := desks.unregister id
      exact alike_answered (congrArg Answer.flag results) desks behind
    | subscribe kind h => exact alike_answered rfl (desks.subscribe kind h) behind
    | invoke id reply => exact alike_deliver behaves id reply desks behind
    | call method args =>
      have methods : twin.methods = desk.methods := by rw [desks.same]
      simp only [perform, methods]
      cases desk.methods.find? method with
      | none => exact alike_answered rfl desks behind
      | some h => exact alike_enter behaves h _ desks (.cons .succeed behind)
    | dispatch update => exact alike_distribute update desks behind
    | expire ahead =>
      simp only [perform, desks.now]
      exact alike_expire _ desks behind
    | emit kind payload =>
      obtain ⟨results, desks⟩ := desks.emit kind payload
      exact alike_answered (congrArg Answer.done results) desks behind
    | emitThen kind payload => exact alike_emitThen kind payload desks behind
    | take =>
      obtain ⟨results, desks⟩ := desks.takeFrame
      exact alike_give results desks behind
    | pull => exact alike_pull behaves desks behind
    | stop => exact alike_answered rfl desks.stopService.enlist behind
    | ask question => exact alike_answered (desks.answer question) desks behind

theorem alike_tell (behaves : behave.Alike other) (id : String) (call : Call) (silent : Bool)
    (desks : desk.Alike twin) (behind : Forall₂ Frame.Alike stack twins) :
    (tell behave id call desk stack).Alike (tell other id { call with silent } twin twins) :=
  alike_deliver behaves id _ ((desks.record _).record _) behind

theorem alike_resume (behaves : behave.Alike other) {frame frameTwin : Frame H}
    (frames : frame.Alike frameTwin) {answer answerTwin : Answer}
    (answers : answer.Alike answerTwin) (desks : desk.Alike twin)
    (behind : Forall₂ Frame.Alike stack twins) :
    (resume behave frame answer desk stack).Alike
      (resume other frameTwin answerTwin twin twins) := by
  cases frames with
  | acting h actions onward =>
    exact ⟨.run h (onward _ _ answers), behind, desks.recordActed h actions answers⟩
  | succeed => exact alike_answered rfl desks behind
  | expiring count requests =>
    cases requests with
    | nil => exact alike_answered rfl desks behind
    | cons request rest =>
      obtain ⟨id, call, silent⟩ := request
      exact alike_tell behaves id call silent desks (.cons (.expiring count rest) behind)
  | distributing update rest count =>
    cases rest with
    | nil => exact alike_answered rfl desks behind
    | cons h rest =>
      exact alike_enter behaves h _ desks (.cons (.distributing update rest count) behind)
  | serving =>
    cases answers with
    | frame frames => exact alike_give (.frame frames) desks behind
    | same =>
      unfold resume
      dsimp only
      split
      · exact alike_answered rfl desks.countDropped behind
      · exact alike_answered rfl desks behind

/-- Alike machines take alike steps. -/
theorem Alike.step (behaves : behave.Alike other) {m twin : Machine H W} (alike : m.Alike twin) :
    (m.step behave).Alike (twin.step other) := by
  obtain ⟨control, stack, desk⟩ := m
  obtain ⟨controlTwin, stackTwin, deskTwin⟩ := twin
  obtain ⟨controls, behind, desks⟩ := alike
  dsimp only at controls behind desks
  cases controls with
  | perform actions => exact alike_perform behaves actions desks behind
  | run h programs =>
    cases programs with
    | finish => exact alike_answered rfl desks behind
    | act actions onward => exact ⟨.perform actions, .cons (.acting h actions onward) behind, desks⟩
  | answer answers =>
    cases behind with
    | nil => exact alike_give answers desks .nil
    | cons frames behind => exact alike_resume behaves frames answers desks behind

end Machine

namespace Stage
variable {H W : Type} {behave other : Behaviour H W} {desk twin : Desk H W}

theorem alike_resting (desks : desk.Alike twin) (aims : Nat → Option (Option Nat)) :
    (resting desk aims).Alike (resting twin aims) :=
  ⟨Machine.alike_answered rfl desks .nil, rfl⟩

theorem alike_act {action actionTwin : Action H} (actions : action.Alike actionTwin)
    (desks : desk.Alike twin) {stack : List (Frame H)} (behind : Forall₂ Frame.Alike stack stack)
    (aims : Nat → Option (Option Nat)) :
    Stage.Alike { machine := { control := .perform action, stack, desk }, aims }
      { machine := { control := .perform actionTwin, stack, desk := twin }, aims } :=
  ⟨⟨.perform actions, behind, desks⟩, rfl⟩

/-- What can begin at one of two alike desks can begin at the other one. -/
theorem alike_begin {aims : Nat → Option (Option Nat)} (desks : desk.Alike twin) {move : Move H}
    {after : Stage H W} (begins : Begins desk aims move after) :
    ∃ afterTwin, begin twin aims move = some afterTwin ∧ after.Alike afterTwin := by
  cases begins with
  | act action => exact ⟨_, rfl, alike_act (.same action) desks .nil aims⟩
  | pump line => exact ⟨_, rfl, alike_resting (desks.setLink (desks.link.pumpLine line)) aims⟩
  | report line report => exact ⟨_, rfl, alike_resting (desks.report line (.same report)) aims⟩
  | lay inProcess => exact ⟨_, rfl, alike_resting (desks.lay _) aims⟩
  | advance ms => exact ⟨_, rfl, alike_resting (desks.advance ms) aims⟩
  | schedule agenda => exact ⟨_, rfl, alike_resting (desks.schedule agenda) aims⟩
  | start line byHand =>
    have byHandTwin : twin.stream = some line := desks.stream.trans byHand
    refine ⟨_, ?_, alike_resting (desks.serveLine line) aims⟩
    simp only [begin, Desk.startService, byHandTwin]
  | dial => exact ⟨_, rfl, alike_resting desks.dial aims⟩
  | opened outcome unused =>
    refine ⟨_, ?_, alike_resting (desks.opened outcome) aims⟩
    cases outcome with
    | error reason => rfl
    | ok line => simp only [begin, desks.isUnused, unused line rfl, if_true]
  | handle line service frame taken found received =>
    obtain ⟨frameTwin, takenTwin, receivedTwin, frames, desksTaken⟩ := desks.takeNext? received
    refine ⟨_, ?_, alike_act (.handle frames) (desksTaken.unpark service).enlist
      (.cons .serving .nil) (forget aims line)⟩
    simp only [begin, desks.service?, found, receivedTwin, Option.bind_eq_bind, Option.bind_some]
  | expire line service found due =>
    refine ⟨_, ?_, alike_act (.same (.expire 0)) (desks.unpark service).enlist .nil
      (forget aims line)⟩
    simp only [begin, desks.service?, found, desks.now, due, Option.bind_eq_bind, Option.bind_some,
      if_true]
  | wake line service found notified =>
    refine ⟨_, ?_, alike_resting (desks.setService _) (forget aims line)⟩
    simp only [begin, desks.service?, found, notified, Option.bind_eq_bind, Option.bind_some,
      if_true]
    rfl
  | aim line service found awake =>
    refine ⟨_, ?_, alike_resting desks _⟩
    simp only [begin, desks.service?, found, awake, desks.nextDeadline?, Option.bind_eq_bind,
      Option.bind_some, Bool.false_eq_true, if_false]
  | sleep line service alarm found aim awake =>
    refine ⟨_, ?_, alike_resting (desks.lull service alarm) (forget aims line)⟩
    simp only [begin, desks.service?, found, aim, awake, Option.bind_eq_bind, Option.bind_some,
      Bool.false_eq_true, if_false]
  | leave line service found ready =>
    refine ⟨_, ?_, alike_resting ((desks.dismiss service).release line) (forget aims line)⟩
    simp only [begin, desks.service?, found, desks.isDrained, ready, Option.bind_eq_bind,
      Option.bind_some, if_true]

theorem Alike.begin {stage twin : Stage H W} (alike : stage.Alike twin) {move moveTwin : Move H}
    (moves : move.Alike moveTwin) {after : Stage H W}
    (made : begin stage.desk stage.aims move = some after) :
    ∃ afterTwin, begin twin.desk twin.aims moveTwin = some afterTwin ∧ after.Alike afterTwin := by
  rw [← alike.aims]
  cases moves with
  | same => exact alike_begin alike.machine.desk (begins_of_begin made)
  | act actions =>
    cases made
    exact ⟨_, rfl, alike_act actions alike.machine.desk .nil stage.aims⟩
  | report line reports =>
    cases made
    exact ⟨_, rfl, alike_resting (alike.machine.desk.report line reports) stage.aims⟩

theorem Alike.isIdle {stage twin : Stage H W} (alike : stage.Alike twin) :
    twin.isIdle = stage.isIdle := by
  obtain ⟨⟨control, stack, desk⟩, aims⟩ := stage
  obtain ⟨⟨controlTwin, stackTwin, deskTwin⟩, aimsTwin⟩ := twin
  obtain ⟨⟨controls, behind, desks⟩, -⟩ := alike
  dsimp only at controls behind
  cases controls <;> cases behind <;> rfl

/-- What can happen at one of two alike stages can happen at the other one and leaves them alike. -/
theorem Alike.next (behaves : behave.Alike other) {stage twin : Stage H W}
    (alike : stage.Alike twin) {move moveTwin : Move H} (moves : move.Alike moveTwin)
    {after : Stage H W} (made : stage.next behave move = some after) :
    ∃ afterTwin, twin.next other moveTwin = some afterTwin ∧ after.Alike afterTwin := by
  cases moved_of_next made with
  | worked busy =>
    cases moves
    refine ⟨{ twin with machine := twin.machine.step other }, ?_,
      alike.machine.step behaves, alike.aims⟩
    simp only [Stage.next, alike.isIdle, busy, Bool.false_eq_true, if_false]
  | begun _ _ _ idle begins =>
    obtain ⟨afterTwin, begun, alikeAfter⟩ := alike.begin moves begins
    exact ⟨afterTwin, next_of_begin (alike.isIdle.trans idle) begun, alikeAfter⟩
  | exchanged place =>
    cases moves
    refine ⟨_, rfl, ⟨alike.machine.control, alike.machine.stack, ?_⟩, alike.aims⟩
    exact alike.machine.desk.setCalls (alike.machine.desk.calls.exchange place)

end Stage

/-! ## What alike runs have in common -/

def Event.alarm? {H : Type} : Event H → Option (Severity × String)
  | .notified severity message => if severity.isAlarming then some (severity, message) else none
  | _ => none

theorem filterMap_of_logsAlike {H γ : Type} {log twin : List (Event H)} {f : Event H → Option γ}
    (alike : LogsAlike log twin) (soft : ∀ event, event.isFirm = false → f event = none)
    (same : ∀ event other, Event.Alike event other → f event = f other) :
    twin.filterMap f = log.filterMap f := by
  have firm (events : List (Event H)) :
      events.filterMap f = (events.filter Event.isFirm).filterMap f := by
    rw [List.filterMap_filter]
    refine List.filterMap_congr fun event _ => ?_
    cases kept : event.isFirm with
    | true => rfl
    | false => exact soft event kept
  rw [firm log, firm twin]
  exact (filterMap_congr_of_forall₂ alike same).symm

/-- What two desks have in common at which everything was the same but for silent flags. -/
structure Desk.Agrees {H W : Type} (desk twin : Desk H W) : Prop where
  /-- The same requests wait under the same ids, with the same args until the same time. -/
  outstanding :
    (twin.calls.entries.map fun (id, call) => (id, call.handler, call.args, call.deadline)) =
      desk.calls.entries.map fun (id, call) => (id, call.handler, call.args, call.deadline)
  callbacks : twin.callbacks = desk.callbacks
  methods : twin.methods = desk.methods
  subscribers : twin.subscribers = desk.subscribers
  dropped : twin.dropped = desk.dropped
  /-- The same frames have been queued, but for the silent flags of the requests in them. -/
  queued : Forall₂ (fun line other => Forall₂ Outgoing.Alike line.outbox other.outbox)
    desk.link.lines twin.link.lines
  /-- The same handlers have been given the same replies, calls and updates, in the same order. -/
  heard : twin.log.filterMap Event.invocation? = desk.log.filterMap Event.invocation?
  /-- The user has been alarmed by the same messages, in the same order. -/
  alarms : twin.log.filterMap Event.alarm? = desk.log.filterMap Event.alarm?
  /-- Whatever else happened is the same, up to feedback that alarms nobody. -/
  logs : LogsAlike desk.log twin.log

/-- The same step is next, with the same action or answer, at desks that agree. -/
structure Stage.Agrees {H W : Type} (stage twin : Stage H W) : Prop where
  control : stage.machine.control.Alike twin.machine.control
  desk : stage.desk.Agrees twin.desk

theorem Desk.Alike.agrees {H W : Type} {desk twin : Desk H W} (alike : desk.Alike twin) :
    desk.Agrees twin := by
  obtain ⟨⟨lines⟩, waiting, logs⟩ := alike
  refine ⟨?_, rfl, rfl, rfl, rfl, ?_, ?_, ?_, logs⟩
  · exact (map_congr_of_forall₂ waiting fun _ _ ⟨_, _, _⟩ => rfl).symm
  · exact lines.imp fun line other ⟨sent, _, _⟩ => sent
  · refine filterMap_of_logsAlike logs (fun event soft => ?_) fun event other same => ?_
    · cases event <;> first | rfl | cases soft
    · cases same <;> rfl
  · refine filterMap_of_logsAlike logs (fun event soft => ?_) fun event other same => ?_
    · cases event with
      | notified severity message =>
        have harmless : severity.isAlarming = false := soft
        simp [Event.alarm?, harmless]
      | _ => rfl
    · cases same <;> rfl

theorem Stage.Alike.agrees {H W : Type} {stage twin : Stage H W} (alike : stage.Alike twin) :
    stage.Agrees twin :=
  ⟨alike.machine.control, alike.machine.desk.agrees⟩

section
variable {H W : Type} {behave other : Behaviour H W} {start startTwin stage : Stage H W}
  {past : Past H W}

/-- A run can be followed from an alike stage, with alike moves. -/
theorem SerialRun.alike (behaves : behave.Alike other) (starts : start.Alike startTwin)
    (run : SerialRun behave start past stage) {moves : List (Move H)}
    (alike : Forall₂ Move.Alike (past.map Prod.snd) moves) :
    ∃ pastTwin stageTwin, SerialRun other startTwin pastTwin stageTwin ∧
      pastTwin.map Prod.snd = moves ∧ stage.Alike stageTwin ∧
      Forall₂ (fun moved movedTwin => moved.1.Alike movedTwin.1) past pastTwin := by
  induction run generalizing moves with
  | start =>
    cases alike
    exact ⟨[], startTwin, .start, rfl, starts, .nil⟩
  | @next past stage after move before made ih =>
    cases alike with
    | @cons _ moveTwin _ rest first earlier =>
      obtain ⟨pastTwin, stageTwin, run, same, stages, pasts⟩ := ih earlier
      obtain ⟨afterTwin, madeTwin, afters⟩ := stages.next behaves first made
      exact ⟨(stageTwin, moveTwin) :: pastTwin, afterTwin, run.next madeTwin, by simp [same],
        afters, .cons stages pasts⟩

/-- Two runs from the same stage with alike moves are alike at every stage. -/
theorem SerialRun.alike_of_alike (behaves : behave.Alike other) (starts : start.Alike startTwin)
    (run : SerialRun behave start past stage) {pastTwin : Past H W} {stageTwin : Stage H W}
    (runTwin : SerialRun other startTwin pastTwin stageTwin)
    (alike : Forall₂ Move.Alike (past.map Prod.snd) (pastTwin.map Prod.snd)) :
    stage.Alike stageTwin ∧
      Forall₂ (fun moved movedTwin => moved.1.Alike movedTwin.1) past pastTwin := by
  induction run generalizing pastTwin stageTwin with
  | start =>
    cases runTwin with
    | start => exact ⟨starts, .nil⟩
    | next => cases alike
  | @next past stage after move before made ih =>
    cases runTwin with
    | start => cases alike
    | next beforeTwin madeTwin =>
      cases alike with
      | cons first earlier =>
        obtain ⟨stages, pasts⟩ := ih beforeTwin earlier
        obtain ⟨afterTwin, made, afters⟩ := stages.next behaves first made
        cases madeTwin.symm.trans made
        exact ⟨afters, .cons stages pasts⟩

/-- Silence decides about nothing but the feedback that alarms nobody. From the same desk, with the
same handlers and the same moves, but for the silent flags of what is submitted and of what
responses echo, a run can happen whenever another one can; and then they agree at every stage: in
the step that comes next, with its action, its handler or its answer, in what waits, in who is
registered, in what was sent, in who has heard what, and in what has alarmed the user. -/
theorem silence_affects_only_feedback (behaves : behave.Alike other) {desk : Desk H W}
    {aims : Nat → Option (Option Nat)} (run : SerialRun behave (Stage.resting desk aims) past stage)
    {moves : List (Move H)} (alike : Forall₂ Move.Alike (past.map Prod.snd) moves) :
    (∃ pastTwin stageTwin, SerialRun other (Stage.resting desk aims) pastTwin stageTwin ∧
      pastTwin.map Prod.snd = moves) ∧
    ∀ pastTwin stageTwin, SerialRun other (Stage.resting desk aims) pastTwin stageTwin →
      pastTwin.map Prod.snd = moves →
        stage.Agrees stageTwin ∧
          Forall₂ (fun moved movedTwin => moved.1.Agrees movedTwin.1) past pastTwin := by
  have starts := Stage.alike_resting (.refl desk) aims
  refine ⟨?_, fun pastTwin stageTwin runTwin same => ?_⟩
  · obtain ⟨pastTwin, stageTwin, runTwin, same, -⟩ := run.alike behaves starts alike
    exact ⟨pastTwin, stageTwin, runTwin, same⟩
  · subst same
    obtain ⟨stages, pasts⟩ := run.alike_of_alike behaves starts runTwin alike
    exact ⟨stages.agrees, pasts.imp fun _ _ alike => alike.agrees⟩

end

def askingSilently : Behaviour Unit Unit := fun _ _ _ =>
  ((), .act (.submit { handler := "users.list", target := .named "users", silent := true })
    fun _ => .finish)

/-- A request, its response with a message, and the next request by the callback. -/
def chatter (silent : Bool) (content : String) : List (Move Unit) :=
  [.lay true, .dial, .opened (.ok 0), .act (.register "users" () .durable), .work,
    .act (.submit { handler := "users.list", target := .named "users", silent }),
    .work, .act (.handle { kind := .response, code := 200, content }),
    .work, .work, .work]

def spokenResponse : String := "[\"done\",null,[\"users\"],null,null]"

def silentResponse : String := "[\"done\",null,[\"users\",true],null,null]"

theorem alike_chatter : Forall₂ Move.Alike (chatter false spokenResponse)
    (chatter true silentResponse) := by
  have same (move : Move Unit) : Move.Alike move move := .same move
  have frames : Incoming.Alike { kind := .response, code := 200, content := spokenResponse }
      { kind := .response, code := 200, content := silentResponse } :=
    .response 200 (r := { message := "done", callback := some { id := "users" } }) (by cbv) (by cbv)
      (.echo _ true rfl)
  exact .cons (same _) <| .cons (same _) <| .cons (same _) <| .cons (same _) <|
    .cons (same _) <| .cons (.act (.submit (.intro true))) <| .cons (same _) <|
    .cons (.act (.handle frames)) <| .cons (same _) <| .cons (same _) <|
    .cons (same _) .nil

theorem silence_affects_only_feedback_asking : ∃ past stage pastTwin stageTwin,
    SerialRun asking (Stage.opening {} default ()) past stage ∧
      SerialRun askingSilently (Stage.opening {} default ()) pastTwin stageTwin ∧
      Forall₂ Move.Alike (past.map Prod.snd) (pastTwin.map Prod.snd) ∧
      stage.Agrees stageTwin ∧
      (stage.desk.log.countP fun event => !event.isFirm) = 4 ∧
      (stageTwin.desk.log.countP fun event => !event.isFirm) = 1 := by
  have spoken : ((Stage.follow asking (chatter false spokenResponse)
      ([], .opening {} default ())).map
        fun reached => reached.2.desk.log.countP fun event => !event.isFirm) = some 4 := by
    decide +kernel
  have silent : ((Stage.follow askingSilently (chatter true silentResponse)
      ([], .opening {} default ())).map
        fun reached => reached.2.desk.log.countP fun event => !event.isFirm) = some 1 := by
    decide +kernel
  obtain ⟨⟨past, stage⟩, reached, shown⟩ := Option.map_eq_some_iff.mp spoken
  obtain ⟨⟨pastTwin, stageTwin⟩, reachedTwin, hidden⟩ := Option.map_eq_some_iff.mp silent
  have run : SerialRun asking (Stage.opening {} default ()) past stage :=
    SerialRun.start.follow reached
  have runTwin : SerialRun askingSilently (Stage.opening {} default ()) pastTwin stageTwin :=
    SerialRun.start.follow reachedTwin
  have behaves : asking.Alike askingSilently := fun _ _ _ =>
    ⟨rfl, .act (.submit (.intro true)) fun _ _ _ => .finish⟩
  have moves : Forall₂ Move.Alike (past.map Prod.snd) (pastTwin.map Prod.snd) := by
    rw [Stage.follow_made reached, Stage.follow_made reachedTwin]
    exact rel_append (rel_reverse alike_chatter) .nil
  have agree := ((silence_affects_only_feedback behaves run moves).2 pastTwin stageTwin runTwin
    rfl).1
  exact ⟨past, stage, pastTwin, stageTwin, run, runTwin, moves, agree, shown, hidden⟩

end PageSession.Exchange
