import Mathlib.Data.List.TakeWhile
import PageSession.Exchange.Line

/-!
The way of reports along a line. They queue in the order in which they come, the pump passes them
up to the first final one, and the frames among them wait for a reader. The flow of a line relates
all that was reported, passed and taken so far to what is still on the line, and everything that can
happen to a line keeps it: nothing is lost, doubled or overtaken.
-/
namespace PageSession.Exchange
open Message

def Report.frame? : Report → Option Incoming
  | .frame content => some content
  | _ => none

def framesOf (reports : List Report) : List Incoming := reports.filterMap Report.frame?

/-- The reports before the first final one. -/
def beforeFinal (reports : List Report) : List Report :=
  reports.takeWhile fun report => !report.isFinal

theorem beforeFinal_of_forall {reports : List Report}
    (harmless : ∀ report ∈ reports, report.isFinal = false) : beforeFinal reports = reports :=
  List.takeWhile_eq_self_iff.mpr fun report member => by simp [harmless report member]

theorem beforeFinal_append {passed : List Report} (rest : List Report)
    (harmless : ∀ report ∈ passed, report.isFinal = false) :
    beforeFinal (passed ++ rest) = passed ++ beforeFinal rest :=
  List.takeWhile_append_of_pos fun report member => by simp [harmless report member]

theorem framesOf_beforeFinal_cons (report : Report) (rest : List Report) :
    framesOf (beforeFinal (report :: rest)) =
      if report.isFinal then [] else report.frame?.toList ++ framesOf (beforeFinal rest) := by
  cases report <;> rfl

theorem any_isFinal_eq_false {reports : List Report}
    (harmless : ∀ report ∈ reports, report.isFinal = false) : reports.any Report.isFinal = false :=
  List.any_eq_false.mpr fun report member => by simp [harmless report member]

namespace Line

/-! ## What can happen to a line -/

def reported (line : Line) (report : Report) : Line :=
  if line.reporting && line.pump ≠ .ended then { line with reports := line.reports ++ [report] }
  else line

def pumped (line : Line) : Line :=
  if line.pump ≠ .running then line
  else match line.reports with
    | [] => if line.reporting then line else { line with pump := .ended }
    | report :: rest =>
      if report.isFinal then { line with pump := .ended, reports := [] }
      else
        { line with
          reports := rest
          inbox := if line.held then line.inbox ++ (report.frame?).toList else line.inbox }

def signal? (line : Line) : Option Status :=
  if line.pump ≠ .running then none
  else match line.reports with
    | [] => if line.reporting then none else some .disconnected
    | report :: _ =>
      if report.isFinal then some .disconnected
      else if report = .connected then some .connected else none

def passing? (line : Line) : Option Report :=
  if line.pump ≠ .running then none
  else line.reports.head?.filter fun report => !report.isFinal

/-! ## Flow -/

/-- What is on a line after so many reports have come in, been passed and been taken as frames. The
last argument says whether the pump was ever started. -/
structure Flow (line : Line) (reports passed : List Report) (taken : List Incoming)
    (started : Bool) : Prop where
  harmless : ∀ report ∈ passed, report.isFinal = false
  unstarted : started = false → line.pump ≠ .running ∧ passed = []
  begun : started = true → line.pump ≠ .waiting
  /-- Until it ends, the pump has the rest of the reports before it. -/
  queued : started = false ∨ line.pump ≠ .ended → reports = passed ++ line.reports
  /-- It ends behind the first final report, or when there will be no further one. -/
  halted : started = true → line.pump = .ended →
    passed = beforeFinal reports ∧ (reports.any Report.isFinal || !line.reporting) = true
  held : line.held = true → taken ++ line.inbox = framesOf passed
  released : line.held = false → line.inbox = []
  taken : taken <+: framesOf passed

namespace Flow
variable {line : Line} {reports passed : List Report} {taken : List Incoming} {started : Bool}

/-- Nothing has happened to a new line, but that a peer in this process is connected. -/
theorem fresh (inProcess : Bool) :
    Flow (if inProcess then .toProcess else {}) (if inProcess then [.connected] else []) [] []
      false := by
  cases inProcess <;> constructor <;> simp [toProcess, framesOf]

/-- What leaves the queues and the pump alone keeps the flow. -/
theorem of_same {after : Line} (flow : Flow line reports passed taken started)
    (sameReports : after.reports = line.reports) (samePump : after.pump = line.pump)
    (fewer : after.reporting = true → line.reporting = true)
    (sameInbox : after.inbox = line.inbox) (sameHeld : after.held = line.held) :
    Flow after reports passed taken started where
  harmless := flow.harmless
  unstarted := by rw [samePump]; exact flow.unstarted
  begun := by rw [samePump]; exact flow.begun
  queued := by rw [samePump, sameReports]; exact flow.queued
  halted := by
    intro begun ended
    obtain ⟨complete, closed⟩ := flow.halted begun (samePump ▸ ended)
    refine ⟨complete, ?_⟩
    cases still : after.reporting with
    | false => simp
    | true => simpa [fewer still] using closed
  held := by rw [sameInbox, sameHeld]; exact flow.held
  released := by rw [sameInbox, sameHeld]; exact flow.released
  taken := flow.taken

/-- The pump is started on a line on which it waits. -/
theorem start (flow : Flow line reports passed taken started) (waiting : line.pump = .waiting) :
    Flow { line with pump := .running } reports passed taken true where
  harmless := flow.harmless
  unstarted impossible := by cases impossible
  begun _ := by simp
  queued _ := by
    refine flow.queued (.inr ?_)
    rw [waiting]
    decide
  halted _ impossible := by cases impossible
  held := flow.held
  released := flow.released
  taken := flow.taken

/-- A line is given up before its pump has begun. -/
theorem giveUp (flow : Flow line reports passed taken started) (waiting : line.pump = .waiting) :
    Flow { line with pump := .ended } reports passed taken started := by
  have never : started = false := by
    cases already : started with
    | false => rfl
    | true => exact absurd waiting (flow.begun already)
  subst never
  have fresh := flow.queued (.inl rfl)
  exact
    { flow with
      unstarted := fun _ => ⟨by simp, (flow.unstarted rfl).2⟩
      begun := fun impossible => by cases impossible
      queued := fun _ => fresh
      halted := fun impossible => by cases impossible }

theorem report (flow : Flow line reports passed taken started) (report : Report) :
    Flow (line.reported report)
      (reports ++ if line.reporting && line.pump ≠ .ended then [report] else []) passed taken
      started := by
  unfold reported
  split
  · rename_i open_
    simp only [Bool.and_eq_true, decide_eq_true_eq] at open_
    exact
      { flow with
        queued := fun still => by rw [flow.queued still, List.append_assoc]
        halted := fun _ ended => absurd ended open_.2 }
  · rw [List.append_nil]
    exact flow

theorem take (flow : Flow line reports passed taken started) :
    Flow { line with inbox := line.inbox.tail } reports passed
      (taken ++ line.inbox.head?.toList) started := by
  have moved : (taken ++ line.inbox.head?.toList) ++ line.inbox.tail = taken ++ line.inbox := by
    cases line.inbox <;> simp
  exact
    { flow with
      held := fun held => by
        rw [moved]
        exact flow.held held
      released := fun released => by simp [flow.released released]
      taken := by
        cases held : line.held with
        | false =>
          rw [flow.released held]
          simpa using flow.taken
        | true =>
          rw [← flow.held held, ← moved]
          exact List.prefix_append _ _ }

theorem release (flow : Flow line reports passed taken started) :
    Flow { line with inbox := [], held := false } reports passed taken started :=
  { flow with
    held := fun impossible => by cases impossible
    released := fun _ => rfl }

/-- Only a pump that was started runs. -/
theorem started_of_running (flow : Flow line reports passed taken started)
    (running : line.pump = .running) : started = true := by
  cases never : started with
  | true => rfl
  | false => exact absurd running (flow.unstarted never).1

/-- A running pump has the rest of the reports before it. -/
theorem queued_of_running (flow : Flow line reports passed taken started)
    (running : line.pump = .running) : reports = passed ++ line.reports :=
  flow.queued (.inr (by rw [running]; decide))

/-- The pump ends when it has passed everything and there will be no further report. -/
theorem finish (flow : Flow line reports passed taken true) (running : line.pump = .running)
    (empty : line.reports = []) (silent : line.reporting = false) :
    Flow { line with pump := .ended } reports passed taken true := by
  have rest := flow.queued_of_running running
  rw [empty, List.append_nil] at rest
  exact
    { flow with
      unstarted := fun impossible => by cases impossible
      begun := fun _ => by simp
      queued := fun _ => by simp [rest, empty]
      halted := fun _ _ => ⟨by rw [rest, beforeFinal_of_forall flow.harmless], by simp [silent]⟩ }

/-- The pump ends at a final report and gives up what is behind it. -/
theorem halt (flow : Flow line reports passed taken true) (running : line.pump = .running)
    {report : Report} {later : List Report} (queue : line.reports = report :: later)
    (final : report.isFinal = true) :
    Flow { line with pump := .ended, reports := [] } reports passed taken true := by
  have rest := flow.queued_of_running running
  rw [queue] at rest
  exact
    { flow with
      unstarted := fun impossible => by cases impossible
      begun := fun _ => by simp
      queued := fun still => by simp at still
      halted := fun _ _ => by
        refine ⟨?_, by simp [rest, final]⟩
        rw [rest, beforeFinal_append _ flow.harmless]
        simp [beforeFinal, final] }

/-- The pump passes a report that is not final, and its frame goes to whoever reads. -/
theorem pass (flow : Flow line reports passed taken true) (running : line.pump = .running)
    {report : Report} {later : List Report} (queue : line.reports = report :: later)
    (harmless : report.isFinal = false) :
    Flow { line with
        reports := later
        inbox := if line.held then line.inbox ++ report.frame?.toList else line.inbox }
      reports (passed ++ [report]) taken true := by
  have rest := flow.queued_of_running running
  rw [queue] at rest
  have more : framesOf (passed ++ [report]) = framesOf passed ++ report.frame?.toList := by
    cases report <;> simp [framesOf, Report.frame?]
  refine
    { harmless := ?_
      unstarted := fun impossible => by cases impossible
      begun := flow.begun
      queued := fun _ => by simp [rest]
      halted := fun _ ended => absurd (running.symm.trans ended) (by decide)
      held := fun held => ?_
      released := fun (released : line.held = false) => ?_
      taken := ?_ }
  · intro other member
    rcases List.mem_append.mp member with earlier | this
    · exact flow.harmless other earlier
    · rw [List.mem_singleton.mp this]
      exact harmless
  · rw [more, ← flow.held held, List.append_assoc]
    exact congrArg (taken ++ ·) (if_pos held)
  · simp [released, flow.released released]
  · rw [more]
    exact flow.taken.trans (List.prefix_append _ _)

/-- A turn of the pump carries the flow on. -/
theorem pump (flow : Flow line reports passed taken started) :
    Flow line.pumped reports (passed ++ line.passing?.toList) taken started := by
  unfold pumped passing?
  by_cases running : line.pump = .running
  · have begun := flow.started_of_running running
    subst begun
    rw [if_neg (not_not.mpr running), if_neg (not_not.mpr running)]
    cases queue : line.reports with
    | nil =>
      rw [List.head?_nil, Option.filter_none, Option.toList_none, List.append_nil]
      cases silent : line.reporting with
      | true => exact flow
      | false => simpa [queue, silent] using flow.finish running queue silent
    | cons report later =>
      rw [List.head?_cons]
      cases final : report.isFinal with
      | true => simpa [Option.filter, final] using flow.halt running queue final
      | false => simpa [Option.filter, final] using flow.pass running queue final
  · rw [if_pos running, if_pos running, Option.toList_none, List.append_nil]
    exact flow

/-- What was passed is a beginning of what came before the first final report. -/
theorem passed_leads (flow : Flow line reports passed taken started) :
    passed <+: beforeFinal reports := by
  by_cases open_ : started = false ∨ line.pump ≠ .ended
  · rw [flow.queued open_, beforeFinal_append _ flow.harmless]
    exact List.prefix_append _ _
  · rw [not_or] at open_
    have whole := (flow.halted (by simpa using open_.1) (not_not.mp open_.2)).1
    exact whole ▸ List.prefix_refl _

/-- Whatever was taken came before the first final report, in this order and once. -/
theorem taken_leads (flow : Flow line reports passed taken started) :
    taken <+: framesOf (beforeFinal reports) :=
  flow.taken.trans (flow.passed_leads.filterMap _)

/-- Once a started pump rests, it has passed everything before the first final report; it has ended
if there was one, or if there will be no further reports. -/
theorem settled (flow : Flow line reports passed taken true) (rests : line.isBusy = false) :
    passed = beforeFinal reports ∧
      (line.pump = .ended ↔ (reports.any Report.isFinal || !line.reporting) = true) := by
  cases pump : line.pump with
  | waiting => exact absurd pump (flow.begun rfl)
  | ended =>
    obtain ⟨complete, closed⟩ := flow.halted rfl pump
    exact ⟨complete, fun _ => closed, fun _ => rfl⟩
  | running =>
    simp only [isBusy, pump, decide_true, Bool.true_and, Bool.or_eq_false_iff, Bool.not_eq_false',
      List.isEmpty_iff] at rests
    have rest := flow.queued (.inr (by rw [pump]; decide))
    rw [rests.1, List.append_nil] at rest
    rw [rest, beforeFinal_of_forall flow.harmless, any_isFinal_eq_false flow.harmless, rests.2]
    simp

end Flow
end Line
end PageSession.Exchange
