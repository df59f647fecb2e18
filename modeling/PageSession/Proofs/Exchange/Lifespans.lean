import PageSession.Proofs.Exchange.Connections
import PageSession.Proofs.Exchange.Tagging

/-!
The lifespan of a link on which somebody connects once. Before that it is disconnected; then it
stands as the strokes of its only pump have left it, and once one of them was the last it stays
disconnected. While it is disconnected nothing can be sent. What the peer gets is the join and then
the frames that could be sent, in the order in which they were.
-/
namespace PageSession.Exchange
open Json Message

/-! ## Strokes of a pump -/

/-- What a pump comes to at its turn: a report comes up, or there will be no further one. -/
inductive Stroke where
  | up (report : Report)
  | dry
  deriving DecidableEq

def Stroke.isLast : Stroke → Bool
  | .up report => report.isFinal
  | .dry => true

def Stroke.passed? : Stroke → Option Report
  | .up report => if report.isFinal then none else some report
  | .dry => none

/-- The status that strokes lead to. -/
def statusBy (strokes : List Stroke) : Status :=
  if strokes.any Stroke.isLast then .disconnected
  else if .up .connected ∈ strokes then .connected
  else .connecting

theorem statusBy_eq_disconnected_iff (strokes : List Stroke) :
    statusBy strokes = .disconnected ↔ strokes.any Stroke.isLast = true := by
  unfold statusBy
  split
  · simp [*]
  · split <;> simp [*]

def Line.stroke? (line : Line) : Option Stroke :=
  if line.pump ≠ .running then none
  else match line.reports with
    | [] => if line.reporting then none else some .dry
    | report :: _ => some (.up report)

theorem Line.passing?_eq (line : Line) : line.passing? = line.stroke?.bind Stroke.passed? := by
  unfold passing? stroke?
  by_cases running : line.pump = .running
  · rw [if_neg (not_not.mpr running), if_neg (not_not.mpr running)]
    cases line.reports with
    | nil => cases line.reporting <;> rfl
    | cons report rest =>
      show Option.filter _ (some report) = Stroke.passed? (.up report)
      rw [Stroke.passed?, Option.filter_some]
      cases report.isFinal <;> rfl
  · rw [if_pos running, if_pos running]
    rfl

/-- A pump ends with its last stroke. -/
theorem Line.pumped_ended_iff (line : Line) :
    line.pumped.pump = .ended ↔ line.pump = .ended ∨ line.stroke?.any Stroke.isLast = true := by
  unfold pumped stroke?
  by_cases running : line.pump = .running
  · rw [if_neg (not_not.mpr running), if_neg (not_not.mpr running)]
    cases line.reports with
    | nil => cases line.reporting <;> simp [running, Stroke.isLast]
    | cons report rest => cases final : report.isFinal <;> simp [running, Stroke.isLast, final]
  · rw [if_pos running, if_pos running]
    simp

namespace Link

def strokes (index : Nat) (link : Link) : Traffic → List Stroke
  | .pump line => if line = index then ((link.line? line).bind Line.stroke?).toList else []
  | _ => []

theorem passed_eq (index : Nat) (link : Link) (piece : Traffic) :
    passed index link piece = (strokes index link piece).filterMap Stroke.passed? := by
  cases piece with
  | pump line =>
    rw [passed, strokes]
    split
    · cases link.line? line with
      | none => rfl
      | some line =>
        rw [Option.bind_some, Option.bind_some, Line.passing?_eq]
        cases line.stroke? with
        | none => rfl
        | some stroke => cases passed : stroke.passed? <;> simp [passed]
    · rfl
  | _ => rfl

theorem history_passed (index : Nat) (link : Link) (traffic : List Traffic) :
    link.history (passed index) traffic =
      (link.history (strokes index) traffic).filterMap Stroke.passed? := by
  induction traffic with
  | nil => rfl
  | cons piece earlier ih => rw [history, history, ih, passed_eq, List.filterMap_append]

/-- A stroke is one of a pump that runs. -/
theorem running_of_stroke {index : Nat} {link : Link} {piece : Traffic} {stroke : Stroke}
    (brought : stroke ∈ strokes index link piece) :
    ∃ line, link.line? index = some line ∧ line.pump = .running := by
  unfold strokes at brought
  split at brought
  · split at brought
    · rename_i same
      rw [Option.mem_toList, same] at brought
      obtain ⟨line, there, drawn⟩ := Option.bind_eq_some_iff.mp brought
      refine ⟨line, there, ?_⟩
      by_contra resting
      simp [Line.stroke?, resting] at drawn
    · cases brought
  · cases brought

/-- The pump of a line has its strokes only after somebody has connected on the line. -/
theorem strokes_of_unopened {start : Link} (empty : start.lines = []) {index : Nat}
    {traffic : List Traffic} (unopened : start.isOpened index traffic = false) :
    start.history (strokes index) traffic = [] := by
  induction traffic with
  | nil => rfl
  | cons piece earlier ih =>
    rw [isOpened, Bool.or_eq_false_iff] at unopened
    rw [history, ih unopened.1, List.nil_append, List.eq_nil_iff_forall_not_mem]
    intro stroke brought
    obtain ⟨line, there, running⟩ := running_of_stroke brought
    have started := ((Carries.run empty index earlier).there line there).started_of_running running
    exact absurd (unopened.1.symm.trans started) (by decide)

/-- The link heeds one line, and its pump has had these strokes. -/
structure Follows (link : Link) (index : Nat) (strokes : List Stroke) : Prop where
  heeds : link.Heeds index (strokes.filterMap Stroke.passed?)
  ended : ∀ line, link.line? index = some line →
    (line.pump = .ended ↔ strokes.any Stroke.isLast = true)

namespace Follows
variable {link : Link} {index : Nat} {strokes : List Stroke}

theorem status (follows : link.Follows index strokes) : link.status = statusBy strokes := by
  obtain ⟨line, there, -, status⟩ := follows.heeds.status
  have passes : Report.connected ∈ strokes.filterMap Stroke.passed? ↔
      .up .connected ∈ strokes := by
    rw [List.mem_filterMap]
    constructor
    · rintro ⟨stroke, member, passed⟩
      cases stroke with
      | dry => cases passed
      | up report =>
        rw [Stroke.passed?] at passed
        split at passed
        · cases passed
        · cases passed
          exact member
    · exact fun member => ⟨_, member, rfl⟩
  rw [status, statusBy]
  by_cases last : strokes.any Stroke.isLast = true
  · rw [if_pos ((follows.ended line there).mpr last), if_pos last]
  · rw [if_neg fun ended => last ((follows.ended line there).mp ended), if_neg last]
    exact if_congr passes rfl rfl

theorem after (follows : link.Follows index strokes) {piece : Traffic}
    (others : piece.isConnecting = false)
    (alone : ∀ signal ∈ link.signalled piece, signal.1 = index) :
    (link.after piece).Follows index (strokes ++ Link.strokes index link piece) where
  heeds := by
    rw [List.filterMap_append, ← passed_eq]
    exact follows.heeds.after others alone
  ended := by
    intro next found
    obtain ⟨line, there, -⟩ := follows.heeds.status
    rw [List.any_append, Bool.or_eq_true, ← follows.ended line there]
    by_cases own : piece = .pump index
    · subst own
      have moved : next = line.pumped := by
        rw [Link.after, pumpLine_eq] at found
        have changed := line?_change link index index Line.pumped
        rw [if_pos rfl, there] at changed
        exact Option.some.inj (found.symm.trans changed)
      rw [moved, Line.pumped_ended_iff, Link.strokes, if_pos rfl, there, Option.bind_some]
      cases line.stroke? <;> simp
    · obtain ⟨other, same, keeps⟩ := keeps_after there piece
      cases found.symm.trans same
      have silent : Link.strokes index link piece = [] := by
        cases piece with
        | pump line =>
          have different : line ≠ index := fun same => own (congrArg Traffic.pump same)
          rw [Link.strokes, if_neg different]
        | _ => rfl
      rw [keeps.pump others own, silent]
      simp

theorem run (follows : link.Follows index strokes) {traffic : List Traffic}
    (others : ∀ piece ∈ traffic, piece.isConnecting = false)
    (alone : ∀ signal ∈ link.history signalled traffic, signal.1 = index) :
    (link.run traffic).Follows index (strokes ++ link.history (Link.strokes index) traffic) := by
  induction traffic with
  | nil => simpa [Link.run, history] using follows
  | cons piece earlier ih =>
    rw [List.forall_mem_cons] at others
    rw [history, List.forall_mem_append] at alone
    have step := (ih others.2 alone.1).after others.1 alone.2
    rwa [List.append_assoc] at step

end Follows

/-! ## Frames that are sent -/

def emitted (link : Link) : Traffic → List Outgoing
  | .emit kind payload =>
    if (link.emit kind payload).isOk then [{ kind, payload := link.tagged payload }] else []
  | _ => []

theorem emit_of_disconnected {link : Link} (down : link.status = .disconnected) (kind : String)
    (payload : Members) : link.emit kind payload = .error .notConnected := by
  rw [emit, down]

theorem emit_of_unused {link : Link} (unused : link.current = none) (kind : String)
    (payload : Members) : link.emit kind payload = .error .notConnected := by
  rw [emit, unused]
  cases link.status <;> rfl

theorem emitted_eq_nil {link : Link}
    (refused : ∀ kind payload, link.emit kind payload = .error .notConnected) (piece : Traffic) :
    emitted link piece = [] := by
  cases piece with
  | emit kind payload =>
    rw [emitted, refused]
    rfl
  | _ => rfl

/-- What is sent while nobody connects is queued on the line in use. -/
theorem queued_eq (index : Nat) (link : Link) {piece : Traffic}
    (others : piece.isConnecting = false) :
    queued index link piece = if link.current = some index then emitted link piece else [] := by
  cases piece with
  | dial | opened => cases others
  | emit kind payload =>
    rw [queued, emitted]
    by_cases current : link.current = some index <;> simp [current]
  | _ => simp [queued, emitted]

theorem run_current (link : Link) {traffic : List Traffic}
    (others : ∀ piece ∈ traffic, piece.isConnecting = false) :
    (link.run traffic).current = link.current := by
  induction traffic with
  | nil => rfl
  | cons piece earlier ih =>
    rw [List.forall_mem_cons] at others
    rw [run, after_current _ others.1, ih others.2]

theorem history_queued (index : Nat) (link : Link) {traffic : List Traffic}
    (others : ∀ piece ∈ traffic, piece.isConnecting = false) :
    link.history (queued index) traffic =
      if link.current = some index then link.history emitted traffic else [] := by
  induction traffic with
  | nil => simp [history]
  | cons piece earlier ih =>
    rw [List.forall_mem_cons] at others
    rw [history, history, ih others.2, queued_eq index _ others.1, run_current link others.2]
    split <;> rfl

/-- On a link that uses no line nothing is sent. -/
theorem history_emitted_of_unused {link : Link} (unused : link.current = none)
    {traffic : List Traffic} (others : ∀ piece ∈ traffic, piece.isConnecting = false) :
    link.history emitted traffic = [] := by
  induction traffic with
  | nil => rfl
  | cons piece earlier ih =>
    rw [List.forall_mem_cons] at others
    have still := (run_current link others.2).trans unused
    rw [history, ih others.2, emitted_eq_nil (emit_of_unused still)]
    rfl

theorem outbox_run (link : Link) (index : Nat) (traffic : List Traffic) :
    (link.run traffic).outbox index = link.outbox index ++ link.history (queued index) traffic := by
  induction traffic with
  | nil => exact (List.append_nil _).symm
  | cons piece earlier ih => rw [run, outbox_after, ih, history, List.append_assoc]

/-! ## One connection -/

theorem mem_of_isOpened {start : Link} {index : Nat} {traffic : List Traffic}
    (opened : start.isOpened index traffic = true) : .opened (.ok index) ∈ traffic := by
  induction traffic with
  | nil => cases opened
  | cons piece earlier ih =>
    rw [isOpened, Bool.or_eq_true] at opened
    rcases opened with before | now
    · exact List.mem_cons_of_mem _ (ih before)
    · cases piece with
      | opened outcome =>
        cases outcome with
        | error reason => cases now
        | ok line =>
          simp only [starts, Bool.and_eq_true, decide_eq_true_eq] at now
          rw [now.1.1]
          exact List.mem_cons_self
      | _ => cases now

/-- Before an attempt to connect has come to a line no pump sets a status. -/
theorem signalled_of_unopened {start : Link} (empty : start.lines = []) {traffic : List Traffic}
    (unopened : ∀ index, .opened (.ok index) ∉ traffic) : start.history signalled traffic = [] := by
  rw [List.eq_nil_iff_forall_not_mem]
  rintro ⟨index, status⟩ set
  exact unopened index (mem_of_isOpened (isOpened_of_signalled empty set))

theorem not_mem_of_unconnecting {traffic : List Traffic} (index : Nat)
    (others : ∀ piece ∈ traffic, piece.isConnecting = false) : .opened (.ok index) ∉ traffic :=
  fun member => by cases others _ member

/-- Before anybody connects a link is disconnected. -/
theorem status_before (credentials : Credentials) {earlier : List Traffic}
    (others : ∀ piece ∈ earlier, piece.isConnecting = false) :
    (({ credentials } : Link).run earlier).status = .disconnected := by
  have silent : ({ credentials } : Link).history signalled earlier = [] :=
    signalled_of_unopened rfl fun index => not_mem_of_unconnecting index others
  rw [run_status others, silent]
  rfl

/-- It is connecting from then on, until the attempt comes to a line. -/
theorem status_meanwhile (credentials : Credentials) {during earlier : List Traffic}
    (first : ∀ piece ∈ earlier, piece.isConnecting = false)
    (others : ∀ piece ∈ during, piece.isConnecting = false) :
    (({ credentials } : Link).run (during ++ .dial :: earlier)).status = .connecting := by
  have unopened : ∀ index, .opened (.ok index) ∉ during ++ .dial :: earlier := by
    intro index member
    simp only [List.mem_append, List.mem_cons, reduceCtorEq, false_or] at member
    exact member.elim (not_mem_of_unconnecting index others) (not_mem_of_unconnecting index first)
  have silent : ({ credentials } : Link).history signalled (during ++ .dial :: earlier) = [] :=
    signalled_of_unopened rfl unopened
  rw [history_append, List.append_eq_nil_iff] at silent
  rw [run_append, run_status others, silent.2]
  rfl

/-- Somebody connects once, and the attempt succeeds. -/
structure SoleConnection (credentials : Credentials) (index : Nat)
    (later during earlier : List Traffic) : Prop where
  connection : Connection { credentials } index later during earlier
  first : ∀ piece ∈ earlier, piece.isConnecting = false

namespace SoleConnection
variable {credentials : Credentials} {index : Nat} {later during earlier : List Traffic}

theorem extend (sole : SoleConnection credentials index later during earlier)
    {further : List Traffic} (others : ∀ piece ∈ further, piece.isConnecting = false) :
    SoleConnection credentials index (further ++ later) during earlier where
  connection := by
    refine ⟨sole.connection.empty, sole.connection.succeeds, ?_⟩
    rw [List.append_assoc, List.forall_mem_append]
    exact ⟨others, sole.connection.unconnecting⟩
  first := sole.first

/-- No other pump sets a status. -/
theorem alone (sole : SoleConnection credentials index later during earlier) :
    ∀ signal ∈ Connection.signals { credentials } index later during earlier,
      signal.1 = index := by
  rintro ⟨other, status⟩ member
  have whole : (other, status) ∈ ({ credentials } : Link).history signalled
      ((later ++ .opened (.ok index) :: during) ++ .dial :: earlier) := by
    rw [history_append]
    exact List.mem_append_right _ member
  have opened := mem_of_isOpened (isOpened_of_signalled sole.connection.empty whole)
  obtain ⟨after, meanwhile⟩ := List.forall_mem_append.mp sole.connection.unconnecting
  simp only [List.mem_append, List.mem_cons, Traffic.opened.injEq, Except.ok.injEq,
    reduceCtorEq, false_or] at opened
  rcases opened with (late | same | within) | early
  · exact absurd late (not_mem_of_unconnecting other after)
  · exact same
  · exact absurd within (not_mem_of_unconnecting other meanwhile)
  · exact absurd early (not_mem_of_unconnecting other sole.first)

/-- The link stands as the strokes of its pump have left it. -/
theorem follows (sole : SoleConnection credentials index later during earlier) :
    (({ credentials } : Link).run (Connection.traffic index later during earlier)).Follows index
      (({ credentials } : Link).history (Link.strokes index)
        (Connection.traffic index later during earlier)) := by
  have connection := sole.connection
  obtain ⟨after, meanwhile⟩ := List.forall_mem_append.mp connection.unconnecting
  have opening : SoleConnection credentials index [] during earlier :=
    ⟨⟨connection.empty, connection.succeeds, meanwhile⟩, sole.first⟩
  have heeds := opening.connection.heeds opening.alone
  have alone := sole.alone
  rw [Connection.signals_eq, List.forall_mem_append] at alone
  have unopened := isOpened_of_isUnused connection.empty connection.unused
  have fresh : ({ credentials } : Link).history (Link.strokes index)
      (Connection.traffic index [] during earlier) = [] := by
    show _ ++ [] = []
    rw [List.append_nil]
    exact strokes_of_unopened connection.empty unopened
  have begun : (({ credentials } : Link).run (Connection.traffic index [] during earlier)).Follows
      index (({ credentials } : Link).history (Link.strokes index)
        (Connection.traffic index [] during earlier)) := by
    refine ⟨history_passed index _ _ ▸ heeds, fun line there => ?_⟩
    obtain ⟨own, found, -, status⟩ := heeds.status
    cases there.symm.trans found
    have connecting := (after_opened connection.unused).1.trans
      (status_meanwhile credentials sole.first meanwhile)
    rw [fresh]
    refine ⟨fun ended => ?_, fun impossible => by cases impossible⟩
    rw [if_pos ended] at status
    cases connecting.symm.trans status
  have onward := begun.run after alone.2
  rwa [← history_append, ← run_append] at onward

theorem current (sole : SoleConnection credentials index later during earlier) :
    (({ credentials } : Link).run (Connection.traffic index later during earlier)).current =
      some index :=
  sole.follows.heeds.current

/-- The peer gets the join and then what could be sent. -/
theorem outbox (sole : SoleConnection credentials index later during earlier) :
    (({ credentials } : Link).run (Connection.traffic index later during earlier)).outbox index =
      joinFrame credentials :: ({ credentials } : Link).history emitted
        (Connection.traffic index later during earlier) := by
  have connection := sole.connection
  obtain ⟨after, meanwhile⟩ := List.forall_mem_append.mp connection.unconnecting
  have unused : (({ credentials } : Link).run earlier).current = none := run_current _ sole.first
  have dialed : (({ credentials } : Link).run (.dial :: earlier)).current = none := unused
  have idle : (none : Option Nat) ≠ some index := (Option.some_ne_none index).symm
  have nothing : ({ credentials } : Link).history emitted (during ++ .dial :: earlier) = [] := by
    rw [history_append, history, history_emitted_of_unused rfl sole.first,
      history_emitted_of_unused dialed meanwhile]
    rfl
  have unqueued : ({ credentials } : Link).history (queued index) (during ++ .dial :: earlier) =
      [] := by
    rw [history_append, history, history_queued index _ sole.first,
      history_queued index _ meanwhile, dialed, if_neg idle, if_neg idle]
    rfl
  have joined : queued index (({ credentials } : Link).run (during ++ .dial :: earlier))
      (.opened (.ok index)) = [joinFrame credentials] := by
    rw [queued, if_pos connection.succeeds, credentials_run]
  have used : (({ credentials } : Link).run
      (.opened (.ok index) :: (during ++ .dial :: earlier))).current = some index :=
    (after_opened connection.unused).2
  have empty : ({ credentials } : Link).outbox index = [] := rfl
  rw [outbox_run, empty, Connection.traffic, history_append, history_append, history, history,
    nothing, unqueued, joined, history_queued index _ after, if_pos used]
  rfl

/-- Once the link is disconnected it stays so. -/
theorem stays_disconnected (sole : SoleConnection credentials index later during earlier)
    (down : (({ credentials } : Link).run
      (Connection.traffic index later during earlier)).status = .disconnected)
    {further : List Traffic} (others : ∀ piece ∈ further, piece.isConnecting = false) :
    (({ credentials } : Link).run
      (further ++ Connection.traffic index later during earlier)).status = .disconnected := by
  have extended := (sole.extend others).follows.status
  rw [Connection.traffic, List.append_assoc, history_append] at extended
  rw [sole.follows.status, statusBy_eq_disconnected_iff] at down
  rw [extended, statusBy_eq_disconnected_iff, List.any_append, down, Bool.true_or]

/-- Then nothing more is queued. -/
theorem outbox_disconnected (sole : SoleConnection credentials index later during earlier)
    (down : (({ credentials } : Link).run
      (Connection.traffic index later during earlier)).status = .disconnected)
    {further : List Traffic} (others : ∀ piece ∈ further, piece.isConnecting = false) :
    (({ credentials } : Link).run
        (further ++ Connection.traffic index later during earlier)).outbox index =
      (({ credentials } : Link).run
        (Connection.traffic index later during earlier)).outbox index := by
  induction further with
  | nil => rfl
  | cons piece further ih =>
    rw [List.forall_mem_cons] at others
    have still := sole.stays_disconnected down others.2
    rw [List.cons_append, run, outbox_after, queued_eq index _ others.1, ih others.2,
      emitted_eq_nil (emit_of_disconnected still), ite_self, List.append_nil]

end SoleConnection

end Link

namespace Desk
variable {H W : Type}

theorem emit_unsent {desk : Desk H W} (down : desk.link.status = .disconnected) (kind : String)
    (payload : Members) : desk.emit kind payload = (.error .notConnected, desk) := by
  rw [emit, Link.emit_of_disconnected down]

/-- On a link that is disconnected nothing can be sent under an id, and nothing is left of it. -/
theorem submitAs_unsent {desk : Desk H W} (down : desk.link.status = .disconnected)
    (s : Submission H) (id : String) (own : Option H) :
    (desk.submitAs s id own).1 = .error
        (if desk.calls.contains id then .callbackInFlight id else .notConnected) ∧
      (desk.submitAs s id own).2.link = desk.link ∧
      (desk.submitAs s id own).2.calls = desk.calls := by
  rw [submitAs_eq]
  by_cases waiting : desk.calls.contains id = true
  · rw [if_pos waiting, if_pos waiting]
    exact ⟨rfl, rfl, rfl⟩
  · rw [if_neg waiting, if_neg waiting, Link.emit_of_disconnected down]
    have free := (Table.contains_eq_false_iff _ _).mp (Bool.eq_false_iff.mpr waiting)
    refine ⟨rfl, ?_, ?_⟩
    · cases own <;> rfl
    · dsimp only
      rw [withdrawn_calls, filed_calls, Table.erase_insert _ _ _ free]

theorem submit_empty {desk : Desk H W} {s : Submission H} (target : s.target = .named "") :
    desk.submit s = (some (.error .emptyCallbackId), desk) := by
  rw [submit, target]
  rfl

/-- Whatever is submitted on a link that is disconnected is refused, for its id or for want of a
connection, or has no result where no id is left; nothing is queued and nothing waits for it. -/
theorem submit_unsent {desk : Desk H W} (down : desk.link.status = .disconnected)
    (s : Submission H) :
    (s.target = .named "" → (desk.submit s).1 = some (.error .emptyCallbackId)) ∧
      (s.target ≠ .named "" → (desk.submit s).1 = (desk.addressed s).1.map fun id =>
        .error (if desk.calls.contains id then .callbackInFlight id else .notConnected)) ∧
      (desk.submit s).2.link = desk.link ∧ (desk.submit s).2.calls = desk.calls := by
  by_cases target : s.target = .named ""
  · rw [submit_empty target]
    exact ⟨fun _ => rfl, fun other => absurd target other, rfl, rfl⟩
  · rcases submit_cases desk s with ⟨empty, -⟩ | ⟨ids, made, exhausted⟩ | ⟨id, ids, made, sent⟩
    · exact absurd empty target
    · rw [exhausted, made]
      exact ⟨fun empty => absurd empty target, fun _ => rfl, rfl, rfl⟩
    · have still : ({ desk with ids } : Desk H W).link.status = .disconnected := down
      have refused := submitAs_unsent still s id s.own?
      rw [sent, made]
      exact ⟨fun empty => absurd empty target, fun _ => congrArg some refused.1, refused.2⟩

end Desk

namespace Link

/-- A frame that is queued on a line stands behind all others, and other lines get none. -/
theorem outbox_setLine {link : Link} {index : Nat} {line : Line}
    (there : link.line? index = some line) (frame : Outgoing) (other : Nat) :
    (link.setLine index { line with outbox := line.outbox ++ [frame] }).outbox other =
      link.outbox other ++ if index = other then [frame] else [] := by
  rw [outbox, line?_setLine, outbox]
  by_cases same : index = other
  · rw [if_pos same, if_pos same, ← same, there]
    rfl
  · rw [if_neg same, if_neg same, List.append_nil]

end Link

namespace Desk
variable {H W : Type} {desk : Desk H W} {index : Nat} (current : desk.link.current = some index)
include current

theorem emit_outbox {kind : String} {payload : Members} (sent : (desk.emit kind payload).1 = .ok ())
    (other : Nat) :
    (desk.emit kind payload).2.link.outbox other = desk.link.outbox other ++
      if index = other then [{ kind, payload := desk.link.tagged payload }] else [] := by
  unfold emit at sent ⊢
  cases success : desk.link.emit kind payload with
  | error failure =>
    rw [success] at sent
    cases sent
  | ok link =>
    obtain ⟨used, line, same, there, rfl⟩ := Link.emit_queued success
    cases current.symm.trans same
    exact Link.outbox_setLine there _ other

theorem submit_outbox {s : Submission H} {id : String} (sent : (desk.submit s).1 = some (.ok id))
    (other : Nat) :
    (desk.submit s).2.link.outbox other = desk.link.outbox other ++
      if index = other
      then [{ kind := "submit", payload := desk.link.tagged (desk.requestOf s id).payload }]
      else [] := by
  obtain ⟨used, line, same, there, queued⟩ := submit_frame (Prod.ext sent rfl)
  cases current.symm.trans same
  rw [queued]
  exact Link.outbox_setLine there _ other

end Desk

/-- The lifespan of a link on which somebody connects once, whatever else happens to it and whatever
is sent and submitted meanwhile. Before the attempt it is disconnected. From then on it is
connecting, until the pump of its line brings up that the peer is connected, and it is disconnected
for good from the last stroke of that pump on, that is when a final report comes up or the reports
run dry. While a link is disconnected nothing can be sent, for want of a connection, and nothing
submitted, for the same reason unless its id is empty or waits already, or no id is left to make
one; nothing is queued and no request is added. All else that succeeds adds one frame to the line of
the connection, so that the peer gets the join and then the frames that could be sent, in their
order. This is the link at every stage of a run with this history of its link. -/
theorem lifespan_of_connection {credentials : Credentials} {index : Nat}
    {later during earlier : List Traffic}
    (sole : Link.SoleConnection credentials index later during earlier) :
    let start : Link := { credentials }
    let traffic := Link.Connection.traffic index later during earlier
    let link := start.run traffic
    (∀ {H W : Type} {behave : Behaviour H W} {opening stage : Stage H W}
        {past : ConcurrentPast H W},
      ConcurrentRun behave opening past stage → opening.desk.link = start →
        stage.desk.link = start.run (trafficOf past)) ∧
    (∀ prior, prior <:+ earlier → (start.run prior).status = .disconnected) ∧
    (∀ meanwhile, meanwhile <:+ during →
      (start.run (meanwhile ++ .dial :: earlier)).status = .connecting) ∧
    link.status = statusBy (start.history (Link.strokes index) traffic) ∧
    (link.status = .disconnected → ∀ further, (∀ piece ∈ further, piece.isConnecting = false) →
      (start.run (further ++ traffic)).status = .disconnected ∧
        (start.run (further ++ traffic)).outbox index = link.outbox index) ∧
    link.outbox index = joinFrame credentials :: start.history Link.emitted traffic ∧
    ∀ {H W : Type} (desk : Desk H W),
      (desk.link.status = .disconnected →
        (∀ kind payload, desk.emit kind payload = (.error .notConnected, desk)) ∧
        ∀ s, (s.target = .named "" → (desk.submit s).1 = some (.error .emptyCallbackId)) ∧
          (s.target ≠ .named "" → (desk.submit s).1 = (desk.addressed s).1.map fun id =>
            .error (if desk.calls.contains id then .callbackInFlight id else .notConnected)) ∧
          (desk.submit s).2.link = desk.link ∧ (desk.submit s).2.calls = desk.calls) ∧
      (desk.link = link →
        (∀ kind payload, (desk.emit kind payload).1 = .ok () → ∀ other,
          (desk.emit kind payload).2.link.outbox other = link.outbox other ++
            if index = other then [{ kind, payload := link.tagged payload }] else []) ∧
        ∀ s id, (desk.submit s).1 = some (.ok id) → ∀ other,
          (desk.submit s).2.link.outbox other = link.outbox other ++
            if index = other
            then [{ kind := "submit", payload := link.tagged (desk.requestOf s id).payload }]
            else []) := by
  intro start traffic link
  obtain ⟨-, meanwhile⟩ := List.forall_mem_append.mp sole.connection.unconnecting
  refine ⟨?run, ?before, ?connecting, sole.follows.status, ?stays, sole.outbox,
    fun desk => ⟨fun down => ⟨fun kind payload => desk.emit_unsent down kind payload,
      fun s => desk.submit_unsent down s⟩, ?sends⟩⟩
  case run =>
    intro H W behave opening stage past run begins
    exact begins ▸ run.link
  case before =>
    intro prior suffix
    exact Link.status_before credentials fun piece member =>
      sole.first piece (suffix.subset member)
  case connecting =>
    intro part suffix
    exact Link.status_meanwhile credentials sole.first fun piece member =>
      meanwhile piece (suffix.subset member)
  case stays =>
    intro down further others
    exact ⟨sole.stays_disconnected down others, sole.outbox_disconnected down others⟩
  case sends =>
    intro same
    have current : desk.link.current = some index := same ▸ sole.current
    refine ⟨fun kind payload sent other => ?_, fun s id sent other => ?_⟩
    · rw [Desk.emit_outbox current sent, same]
    · rw [Desk.submit_outbox current sent, same]

def goneBetween : List Traffic :=
  [.emit "late" [], .pump 0, .report 0 (.closed "gone"), .emit "ping" [], .pump 0,
    .report 0 .connected, .emit "early" []]

theorem lifespan_of_connection_gone :
    Link.SoleConnection default 0 goneBetween [.lay false] [.emit "soon" []] ∧
      let link := ({ credentials := default } : Link).run
        (Link.Connection.traffic 0 goneBetween [.lay false] [.emit "soon" []])
      link.status = .disconnected ∧
        (link.outbox 0).map Outgoing.kind = ["join", "early", "ping"] := by
  have sole : Link.SoleConnection default 0 goneBetween [.lay false] [.emit "soon" []] :=
    ⟨⟨rfl, by decide +kernel, by decide⟩, by decide⟩
  obtain ⟨-, -, -, status, -, outbox, -⟩ := lifespan_of_connection sole
  refine ⟨sole, ?_, ?_⟩
  · rw [status]
    decide +kernel
  · rw [outbox]
    decide +kernel

end PageSession.Exchange
