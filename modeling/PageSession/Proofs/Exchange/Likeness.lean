import Mathlib.Data.List.Forall2
import PageSession.Proofs.Exchange.SerialRun
import PageSession.Proofs.Exchange.Correlation
import PageSession.Proofs.Exchange.Traffic

/-!
Likeness: two things are alike that differ in silent flags at most. The relation starts from the
flags of submissions, of the callbacks that responses echo and of the records and frames that come
of them, and goes through programs, lines and logs up to whole stages. In a log the loading
indicator and the notifications that alarm nobody are left out; everything else has to be there in
both, in the same order.
-/
namespace PageSession.Message

/-- Responses that echo the same callback, silent or not. -/
inductive Response.Alike (r : Response) : Response → Prop
  | same : Alike r r
  | echo (echo : Echo) (silent : Bool) (echoed : r.callback = some echo) :
      Alike r { r with callback := some { echo with silent } }

/-- Frames with alike responses, and otherwise the same ones. -/
inductive Incoming.Alike : Incoming → Incoming → Prop
  | same (frame : Incoming) : Alike frame frame
  | response (code : Nat) {content other : String} {r twin : Response}
      (read : Response.read.ofString? content = some r)
      (readOther : Response.read.ofString? other = some twin) (alike : r.Alike twin) :
      Alike { kind := .response, code, content } { kind := .response, code, content := other }

/-- Requests that are sent to the same room, silent or not, and otherwise the same frames. -/
inductive Outgoing.Alike : Outgoing → Outgoing → Prop
  | same (frame : Outgoing) : Alike frame frame
  | request (request : Request) (room : String) (silent : Bool) :
      Alike { kind := "submit", payload := request.payload.setDefault "room" (.text room) }
        { kind := "submit"
          payload := { request with callback.silent := silent }.payload.setDefault "room"
            (.text room) }

end PageSession.Message

namespace PageSession.Exchange
open Json Message List

/-! ## Relations -/

/-- Requests that wait under the same id. -/
inductive Call.Alike : String × Call → String × Call → Prop
  | intro (id : String) (call : Call) (silent : Bool) : Alike (id, call) (id, { call with silent })

inductive Submission.Alike {H : Type} (s : Submission H) : Submission H → Prop
  | intro (silent : Bool) : Alike s { s with silent }

inductive Report.Alike : Report → Report → Prop
  | same (report : Report) : Alike report report
  | frame {frame twin : Incoming} (alike : frame.Alike twin) : Alike (.frame frame) (.frame twin)

inductive PeerAction.Alike : PeerAction → PeerAction → Prop
  | same (action : PeerAction) : Alike action action
  | report {report twin : Report} (alike : report.Alike twin) :
      Alike (.report report) (.report twin)
  | respond {frame twin : Incoming} (alike : frame.Alike twin) :
      Alike (.respond frame) (.respond twin)

/-- Answers, which are the same but for the frames that are taken. -/
inductive Answer.Alike : Answer → Answer → Prop
  | same (answer : Answer) : Alike answer answer
  | frame {frame twin : Incoming} (alike : frame.Alike twin) : Alike (.frame frame) (.frame twin)

inductive Action.Alike {H : Type} : Action H → Action H → Prop
  | same (action : Action H) : Alike action action
  | submit {s twin : Submission H} (alike : s.Alike twin) : Alike (.submit s) (.submit twin)
  | handle {frame twin : Incoming} (alike : frame.Alike twin) : Alike (.handle frame) (.handle twin)
  | peer (line : Option Nat) {action twin : PeerAction} (alike : action.Alike twin) :
      Alike (.peer line action) (.peer line twin)

/-- Programs that perform alike actions as long as they get alike answers. -/
inductive Program.Alike {H : Type} : Program H → Program H → Prop
  | finish : Alike .finish .finish
  | act {action other : Action H} {next otherNext : Answer → Program H}
      (actions : action.Alike other)
      (onward : ∀ answer twin, Answer.Alike answer twin → Alike (next answer) (otherNext twin)) :
      Alike (.act action next) (.act other otherNext)

/-- The same handlers, but for the silent flags of what they submit. What they do must not depend on
the flag that a frame echoes which they take by hand; nothing else shows them any. -/
def Behaviour.Alike {H W : Type} (behave twin : Behaviour H W) : Prop :=
  ∀ h invocation page, (behave h invocation page).1 = (twin h invocation page).1 ∧
    (behave h invocation page).2.Alike (twin h invocation page).2

/-- An event that is no feedback to the user, or alarms the user. -/
def Event.isFirm {H : Type} : Event H → Bool
  | .loading _ => false
  | .notified severity _ => severity.isAlarming
  | _ => true

inductive Event.Alike {H : Type} : Event H → Event H → Prop
  | same (event : Event H) : Alike event event
  | acted (h : H) {action other : Action H} {answer twin : Answer} (actions : action.Alike other)
      (answers : answer.Alike twin) : Alike (.acted h action answer) (.acted h other twin)

/-- Logs that say the same, but for the feedback that alarms nobody. -/
def LogsAlike {H : Type} (log twin : List (Event H)) : Prop :=
  Forall₂ Event.Alike (log.filter Event.isFirm) (twin.filter Event.isFirm)

inductive Line.Alike (line : Line) : Line → Prop
  | intro {outbox : List Outgoing} {reports : List Report} {inbox : List Incoming}
      (sent : Forall₂ Outgoing.Alike line.outbox outbox)
      (reported : Forall₂ Report.Alike line.reports reports)
      (arrived : Forall₂ Incoming.Alike line.inbox inbox) :
      Alike line { line with outbox, reports, inbox }

inductive Link.Alike (link : Link) : Link → Prop
  | intro {lines : List Line} (alike : Forall₂ Line.Alike link.lines lines) :
      Alike link { link with lines }

/-- Desks that agree in everything but the silent flags of requests and frames, and the feedback
that alarms nobody. -/
inductive Desk.Alike {H W : Type} (desk : Desk H W) : Desk H W → Prop
  | intro {link : Link} {calls : Table Call} {log : List (Event H)}
      (links : desk.link.Alike link) (waiting : Forall₂ Call.Alike desk.calls.entries calls.entries)
      (logs : LogsAlike desk.log log) : Alike desk { desk with link, calls, log }

inductive Frame.Alike {H : Type} : Frame H → Frame H → Prop
  | acting (h : H) {action other : Action H} {next otherNext : Answer → Program H}
      (actions : action.Alike other)
      (onward : ∀ answer twin, Answer.Alike answer twin → (next answer).Alike (otherNext twin)) :
      Alike (.acting h action next) (.acting h other otherNext)
  | succeed : Alike .succeed .succeed
  | expiring {rest twins : List (String × Call)} (count : Nat)
      (alike : Forall₂ Call.Alike rest twins) :
      Alike (.expiring rest count) (.expiring twins count)
  | distributing (update : Update) (rest : List H) (count : Nat) :
      Alike (.distributing update rest count) (.distributing update rest count)
  | serving : Alike .serving .serving

inductive Control.Alike {H : Type} : Control H → Control H → Prop
  | perform {action twin : Action H} (alike : action.Alike twin) :
      Alike (.perform action) (.perform twin)
  | run (h : H) {program twin : Program H} (alike : program.Alike twin) :
      Alike (.run h program) (.run h twin)
  | answer {answer twin : Answer} (alike : answer.Alike twin) :
      Alike (.answer answer) (.answer twin)

structure Machine.Alike {H W : Type} (m twin : Machine H W) : Prop where
  control : m.control.Alike twin.control
  stack : Forall₂ Frame.Alike m.stack twin.stack
  desk : m.desk.Alike twin.desk

structure Stage.Alike {H W : Type} (stage twin : Stage H W) : Prop where
  machine : stage.machine.Alike twin.machine
  aims : stage.aims = twin.aims

inductive Move.Alike {H : Type} : Move H → Move H → Prop
  | same (move : Move H) : Alike move move
  | act {action twin : Action H} (alike : action.Alike twin) : Alike (.act action) (.act twin)
  | report (line : Nat) {report twin : Report} (alike : report.Alike twin) :
      Alike (.report line report) (.report line twin)

/-! ## Lists in step -/

section
variable {α β γ : Type} {R : α → β → Prop} {items : List α} {others : List β}

theorem getElem?_of_forall₂ (alike : Forall₂ R items others) (index : Nat) :
    (items[index]? = none ∧ others[index]? = none) ∨
      ∃ item other, items[index]? = some item ∧ others[index]? = some other ∧ R item other := by
  induction alike generalizing index with
  | nil => exact .inl ⟨rfl, rfl⟩
  | cons head tail ih =>
    cases index with
    | zero => exact .inr ⟨_, _, rfl, rfl, head⟩
    | succ index => exact ih index

theorem isEmpty_of_forall₂ (alike : Forall₂ R items others) : others.isEmpty = items.isEmpty := by
  cases alike <;> rfl

theorem forall₂_set (alike : Forall₂ R items others) (index : Nat) {item : α} {other : β}
    (new : R item other) : Forall₂ R (items.set index item) (others.set index other) := by
  induction alike generalizing index with
  | nil => exact .nil
  | cons head tail ih =>
    cases index with
    | zero => exact .cons new tail
    | succ index => exact .cons head (ih index)

theorem forall₂_filter {keep : α → Bool} {keepOther : β → Bool} (alike : Forall₂ R items others)
    (same : ∀ item other, R item other → keep item = keepOther other) :
    Forall₂ R (items.filter keep) (others.filter keepOther) :=
  rel_filter (fun {item other} related => Bool.eq_iff_iff.mp (same item other related)) alike

theorem forall₂_swapAt (alike : Forall₂ R items others) (place : Nat) :
    Forall₂ R (Table.swapAt place items) (Table.swapAt place others) := by
  induction alike generalizing place with
  | nil => cases place <;> exact .nil
  | cons head tail ih =>
    cases place with
    | succ place => exact .cons head (ih place)
    | zero =>
      cases tail with
      | nil => exact .cons head .nil
      | cons second rest => exact .cons second (.cons head rest)

theorem map_congr_of_forall₂ {f : α → γ} {g : β → γ} (alike : Forall₂ R items others)
    (same : ∀ item other, R item other → f item = g other) : items.map f = others.map g := by
  induction alike with
  | nil => rfl
  | cons head tail ih => rw [List.map_cons, List.map_cons, same _ _ head, ih]

theorem filterMap_congr_of_forall₂ {f : α → Option γ} {g : β → Option γ}
    (alike : Forall₂ R items others) (same : ∀ item other, R item other → f item = g other) :
    items.filterMap f = others.filterMap g := by
  induction alike with
  | nil => rfl
  | cons head tail ih => rw [List.filterMap_cons, List.filterMap_cons, same _ _ head, ih]

theorem forall₂_of_refl {S : α → α → Prop} (refl : ∀ item, S item item) (items : List α) :
    Forall₂ S items items :=
  forall₂_same.mpr fun item _ => refl item

/-- Operations that give the same result, and leave related states. -/
theorem exists_result {σ : Type} {S : σ → σ → Prop} {made madeTwin : α × σ}
    (alike : madeTwin.1 = made.1 ∧ S made.2 madeTwin.2) :
    ∃ result after afterTwin, made = (result, after) ∧ madeTwin = (result, afterTwin) ∧
      S after afterTwin :=
  ⟨made.1, made.2, madeTwin.2, rfl, Prod.ext alike.1 rfl, alike.2⟩

end

/-! ## Lines and links -/

namespace Line.Alike
variable {line other : Line}

theorem refl (line : Line) : line.Alike line :=
  .intro (forall₂_of_refl .same _) (forall₂_of_refl .same _) (forall₂_of_refl .same _)

/-- Alike frames are queued. -/
theorem queue (alike : line.Alike other) {frame twin : Outgoing} (frames : frame.Alike twin) :
    Line.Alike { line with outbox := line.outbox ++ [frame] }
      { other with outbox := other.outbox ++ [twin] } := by
  obtain ⟨sent, reported, arrived⟩ := alike
  exact .intro (rel_append sent (.cons frames .nil)) reported arrived

/-- Alike lines are busy together. -/
theorem isBusy (alike : line.Alike other) : other.isBusy = line.isBusy := by
  obtain ⟨sent, reported, arrived⟩ := alike
  simp only [Line.isBusy, isEmpty_of_forall₂ reported]

/-- Alike lines are in the same state, up to what travels on them. -/
theorem fields (alike : line.Alike other) : other.accepting = line.accepting ∧
    other.reporting = line.reporting ∧ other.pump = line.pump ∧ other.held = line.held ∧
    other.inProcess = line.inProcess := by
  obtain ⟨sent, reported, arrived⟩ := alike
  exact ⟨rfl, rfl, rfl, rfl, rfl⟩

/-- Alike reports come in on alike lines. -/
theorem reported (alike : line.Alike other) {report twin : Report} (reports : report.Alike twin) :
    (line.reported report).Alike (other.reported twin) := by
  obtain ⟨sent, reported, arrived⟩ := alike
  unfold Line.reported
  dsimp only
  split
  · exact .intro sent (rel_append reported (.cons reports .nil)) arrived
  · exact .intro sent reported arrived

/-- The pumps of alike lines pass alike reports on. -/
theorem pumped (alike : line.Alike other) : line.pumped.Alike other.pumped := by
  obtain ⟨outbox, accepting, queue, reporting, pump, inbox, held, inProcess⟩ := line
  obtain ⟨sent, reported, arrived⟩ := alike
  unfold Line.pumped
  dsimp only at reported ⊢
  split
  · exact .intro sent reported arrived
  · cases reported with
    | nil =>
      dsimp only
      split <;> exact .intro sent .nil arrived
    | @cons report twin rest twins reports queued =>
      have ends : twin.isFinal = report.isFinal := by cases reports <;> rfl
      have frames : Forall₂ Incoming.Alike report.frame?.toList twin.frame?.toList := by
        cases reports with
        | same => exact forall₂_of_refl .same _
        | frame alike => exact .cons alike .nil
      dsimp only
      rw [ends]
      split
      · exact .intro sent .nil arrived
      · refine .intro sent queued ?_
        dsimp only
        split
        · exact rel_append arrived frames
        · exact arrived

/-- The next frames of alike lines are alike, and so are the lines without them. -/
theorem inbox (alike : line.Alike other) :
    (line.inbox = [] ∧ other.inbox = []) ∨ ∃ frame twin rest others,
      line.inbox = frame :: rest ∧ other.inbox = twin :: others ∧ frame.Alike twin ∧
        Line.Alike { line with inbox := rest } { other with inbox := others } := by
  obtain ⟨outbox, accepting, queue, reporting, pump, inbox, held, inProcess⟩ := line
  obtain ⟨sent, reported, arrived⟩ := alike
  cases arrived with
  | nil => exact .inl ⟨rfl, rfl⟩
  | cons frames arrived => exact .inr ⟨_, _, _, _, rfl, rfl, frames, .intro sent reported arrived⟩

theorem signal? (alike : line.Alike other) : other.signal? = line.signal? := by
  obtain ⟨outbox, accepting, queue, reporting, pump, inbox, held, inProcess⟩ := line
  obtain ⟨sent, reported, arrived⟩ := alike
  cases reported with
  | nil => rfl
  | cons reports queued => cases reports <;> rfl

end Line.Alike

namespace Link.Alike
variable {link twin : Link}

theorem refl (link : Link) : link.Alike link := .intro (forall₂_of_refl Line.Alike.refl _)

theorem length (alike : link.Alike twin) : twin.lines.length = link.lines.length := by
  obtain ⟨lines⟩ := alike
  exact lines.length_eq.symm

theorem line? (alike : link.Alike twin) (index : Nat) :
    (link.line? index = none ∧ twin.line? index = none) ∨
      ∃ line other, link.line? index = some line ∧ twin.line? index = some other ∧
        line.Alike other := by
  obtain ⟨lines⟩ := alike
  exact getElem?_of_forall₂ lines index

theorem setLine (alike : link.Alike twin) (index : Nat) {line other : Line}
    (lines : line.Alike other) : (link.setLine index line).Alike (twin.setLine index other) := by
  obtain ⟨all⟩ := alike
  exact .intro (forall₂_set all index lines)

/-- Alike links have the same credentials, the same status and the same line in use. -/
theorem fields (alike : link.Alike twin) : twin.credentials = link.credentials ∧
    twin.status = link.status ∧ twin.current = link.current := by
  obtain ⟨lines⟩ := alike
  exact ⟨rfl, rfl, rfl⟩

/-- Alike frames are queued on both links, or on neither for the same reason. -/
theorem emit (alike : link.Alike twin) {kind : String} {payload other : Members}
    (frames : Outgoing.Alike { kind, payload := link.tagged payload }
      { kind, payload := twin.tagged other }) :
    (∃ failure, link.emit kind payload = .error failure ∧ twin.emit kind other = .error failure) ∨
      ∃ sent sentTwin, link.emit kind payload = .ok sent ∧ twin.emit kind other = .ok sentTwin ∧
        sent.Alike sentTwin := by
  obtain ⟨-, status, current⟩ := alike.fields
  unfold Link.emit
  rw [status, current]
  cases link.status with
  | disconnected => exact .inl ⟨_, rfl, rfl⟩
  | connecting | connected =>
    cases link.current with
    | none => exact .inl ⟨_, rfl, rfl⟩
    | some index =>
      rcases alike.line? index with ⟨missing, missingTwin⟩ | ⟨line, other, there, thereTwin, lines⟩
      · simp only [Option.bind_some, missing, missingTwin]
        exact .inl ⟨_, rfl, rfl⟩
      · simp only [Option.bind_some, there, thereTwin, Option.map_some]
        by_cases accepting : line.accepting = true
        · rw [if_pos accepting, if_pos (lines.fields.1.trans accepting)]
          exact .inr ⟨_, _, rfl, rfl, alike.setLine index (lines.queue frames)⟩
        · rw [if_neg accepting, if_neg (lines.fields.1 ▸ accepting)]
          exact .inl ⟨_, rfl, rfl⟩

theorem withStatus (alike : link.Alike twin) (status : Status) :
    Link.Alike { link with status } { twin with status } := by
  obtain ⟨lines⟩ := alike
  exact .intro lines

theorem change (alike : link.Alike twin) (index : Nat) {f g : Line → Line}
    (lines : ∀ line other, line.Alike other → (f line).Alike (g other)) :
    (link.change index f).Alike (twin.change index g) := by
  unfold Link.change
  rcases alike.line? index with ⟨missing, missingTwin⟩ | ⟨line, other, there, thereTwin, pair⟩
  · rw [missing, missingTwin]
    exact alike
  · rw [there, thereTwin]
    exact alike.setLine index (lines _ _ pair)

theorem setPump (alike : link.Alike twin) (index : Nat) (pump : Pump) :
    (link.change index fun line => { line with pump }).Alike
      (twin.change index fun line => { line with pump }) :=
  alike.change index fun _ _ ⟨sent, reported, arrived⟩ => .intro sent reported arrived

/-- Alike links join alike. -/
theorem opened (alike : link.Alike twin) (index : Nat) :
    (twin.opened index).1 = (link.opened index).1 ∧
      (link.opened index).2.Alike (twin.opened index).2 := by
  have used : Link.Alike { link with current := some index }
      { twin with current := some index } := by
    obtain ⟨lines⟩ := alike
    exact .intro lines
  have frames : Outgoing.Alike
      { kind := "join", payload := Link.tagged { link with current := some index } [] }
      { kind := "join", payload := Link.tagged { twin with current := some index } [] } := by
    obtain ⟨lines⟩ := alike
    exact .same _
  unfold Link.opened
  rcases used.emit frames with ⟨failure, failed, failedTwin⟩ | ⟨sent, other, done, doneTwin, after⟩
  · dsimp only
    rw [failed, failedTwin]
    exact ⟨rfl, used.setPump index .ended⟩
  · dsimp only
    rw [done, doneTwin]
    exact ⟨rfl, after.setPump index .running⟩

/-- Attempts to open a line end alike at alike links. -/
theorem conclude (alike : link.Alike twin) (outcome : Except String Nat) :
    (twin.conclude outcome).1 = (link.conclude outcome).1 ∧
      (link.conclude outcome).2.Alike (twin.conclude outcome).2 := by
  cases outcome with
  | ok index => exact alike.opened index
  | error reason =>
    obtain ⟨lines⟩ := alike
    exact ⟨rfl, .intro lines⟩

theorem report (alike : link.Alike twin) (index : Nat) {report other : Report}
    (reports : report.Alike other) :
    (twin.report index other).1 = (link.report index report).1 ∧
      (link.report index report).2.Alike (twin.report index other).2 := by
  simp only [Link.report_eq, Link.report_fst]
  refine ⟨?_, alike.change index fun _ _ pair => pair.reported reports⟩
  rcases alike.line? index with ⟨missing, missingTwin⟩ | ⟨line, twinLine, there, thereTwin, pair⟩
  · rw [missing, missingTwin]
  · rw [there, thereTwin, Option.any_some, Option.any_some, pair.fields.2.1, pair.fields.2.2.1]

/-- The pumps of alike links handle alike reports. -/
theorem pumpLine (alike : link.Alike twin) (index : Nat) :
    (link.pumpLine index).Alike (twin.pumpLine index) := by
  have signal : (twin.line? index).bind Line.signal? = (link.line? index).bind Line.signal? := by
    rcases alike.line? index with ⟨missing, missingTwin⟩ | ⟨line, other, there, thereTwin, pair⟩
    · rw [missing, missingTwin]
    · rw [there, thereTwin]
      exact pair.signal?
  rw [Link.pumpLine_eq, Link.pumpLine_eq, signal, alike.fields.2.1]
  exact (alike.change index fun _ _ pair => pair.pumped).withStatus _

end Link.Alike

end PageSession.Exchange
