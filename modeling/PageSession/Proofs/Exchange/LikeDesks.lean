import PageSession.Proofs.Exchange.Likeness

/-!
Operations on alike desks. Each of them, made on two alike desks with alike arguments, gives alike
results and leaves alike desks.
-/
namespace PageSession.Exchange
open Json Message List

/-! ## Tables of requests -/

namespace Call
variable {table twin : Table Call}

abbrev TablesAlike (table twin : Table Call) : Prop :=
  Forall₂ Call.Alike table.entries twin.entries

namespace TablesAlike

theorem find? (alike : TablesAlike table twin) (id : String) :
    (table.find? id = none ∧ twin.find? id = none) ∨
      ∃ call silent, table.find? id = some call ∧ twin.find? id = some { call with silent } := by
  unfold Table.find?
  unfold TablesAlike at alike
  generalize table.entries = entries at alike ⊢
  generalize twin.entries = others at alike ⊢
  induction alike with
  | nil => exact .inl ⟨rfl, rfl⟩
  | cons head tail ih =>
    obtain ⟨name, call, silent⟩ := head
    by_cases same : name = id
    · exact .inr ⟨call, silent, by simp [same], by simp [same]⟩
    · simpa [same] using ih

theorem contains (alike : TablesAlike table twin) (id : String) :
    twin.contains id = table.contains id := by
  rw [Table.contains_eq_isSome, Table.contains_eq_isSome]
  rcases alike.find? id with ⟨none, noneTwin⟩ | ⟨call, silent, found, foundTwin⟩
  · rw [none, noneTwin]
  · rw [found, foundTwin]
    rfl

theorem insert (alike : TablesAlike table twin) (id : String) (call : Call) (silent : Bool) :
    TablesAlike (table.insert id call) (twin.insert id { call with silent }) := by
  show Forall₂ Call.Alike (Table.put id call table.entries)
    (Table.put id { call with silent } twin.entries)
  unfold TablesAlike at alike
  generalize table.entries = entries at alike ⊢
  generalize twin.entries = others at alike ⊢
  induction alike with
  | nil => exact .cons (.intro id call silent) .nil
  | cons head tail ih =>
    obtain ⟨name, other, flag⟩ := head
    by_cases same : name = id
    · simpa [Table.put, same] using And.intro (Call.Alike.intro id call silent) tail
    · simpa [Table.put, same] using And.intro (Call.Alike.intro name other flag) ih

theorem filter (alike : TablesAlike table twin) {keep : String × Call → Bool}
    (same : ∀ id call silent, keep (id, call) = keep (id, { call with silent })) :
    TablesAlike (table.filter keep) (twin.filter keep) :=
  forall₂_filter alike fun _ _ ⟨id, call, silent⟩ => same id call silent

theorem erase (alike : TablesAlike table twin) (id : String) :
    TablesAlike (table.erase id) (twin.erase id) :=
  alike.filter fun _ _ _ => rfl

theorem exchange (alike : TablesAlike table twin) (place : Nat) :
    TablesAlike (table.exchange place) (twin.exchange place) :=
  forall₂_swapAt alike place

end TablesAlike
end Call

namespace Desk.Alike
variable {H W : Type} {desk twin : Desk H W}

theorem refl (desk : Desk H W) : desk.Alike desk :=
  .intro (.refl _) (forall₂_of_refl (fun ⟨id, call⟩ => .intro id call call.silent) _)
    (forall₂_of_refl .same _)

/-- Alike desks are the same but for the links, the requests that wait and the logs. -/
theorem same (alike : desk.Alike twin) :
    twin = { desk with link := twin.link, calls := twin.calls, log := twin.log } := by
  obtain ⟨links, waiting, logs⟩ := alike
  rfl

theorem now (alike : desk.Alike twin) : twin.now = desk.now := by rw [alike.same]

theorem stream (alike : desk.Alike twin) : twin.stream = desk.stream := by rw [alike.same]

theorem callbacks (alike : desk.Alike twin) : twin.callbacks = desk.callbacks := by
  rw [alike.same]

theorem service? (alike : desk.Alike twin) (line : Nat) :
    twin.service? line = desk.service? line :=
  congrArg (fun desk => desk.service? line) alike.same

/-! ## Feedback -/

theorem record (alike : desk.Alike twin) (event : Event H) :
    (desk.record event).Alike (twin.record event) := by
  obtain ⟨links, waiting, logs⟩ := alike
  refine .intro links waiting ?_
  unfold LogsAlike
  dsimp only [Desk.record]
  by_cases firm : event.isFirm = true
  · rw [List.filter_cons_of_pos firm, List.filter_cons_of_pos firm]
    exact .cons (.same event) logs
  · rw [List.filter_cons_of_neg firm, List.filter_cons_of_neg firm]
    exact logs

theorem recordActed (alike : desk.Alike twin) (h : H) {action other : Action H}
    {answer answerTwin : Answer} (actions : action.Alike other)
    (answers : answer.Alike answerTwin) :
    (desk.record (.acted h action answer)).Alike (twin.record (.acted h other answerTwin)) := by
  obtain ⟨links, waiting, logs⟩ := alike
  exact .intro links waiting (.cons (.acted h actions answers) logs)

/-- Feedback that alarms nobody makes no difference, on either desk. -/
theorem soften (alike : desk.Alike twin) {event : Event H} (soft : event.isFirm = false) :
    (desk.record event).Alike twin ∧ desk.Alike (twin.record event) := by
  obtain ⟨links, waiting, logs⟩ := alike
  refine ⟨.intro links waiting ?_, .intro links waiting ?_⟩
  · rwa [LogsAlike, Desk.record, List.filter_cons_of_neg (by simp [soft])]
  · rwa [LogsAlike, List.filter_cons_of_neg (by simp [soft])]

theorem settleLoading (alike : desk.Alike twin) : desk.settleLoading.Alike twin.settleLoading := by
  unfold Desk.settleLoading
  split <;> split
  · exact alike
  · exact (alike.soften rfl).2
  · exact (alike.soften rfl).1
  · exact alike.record _

/-- Whether an outcome is silent makes a difference only if it alarms nobody. -/
theorem notifyOutcome (alike : desk.Alike twin) (severity : Severity) (silent silentTwin : Bool)
    (message : String) : (desk.notifyOutcome severity silent message).Alike
      (twin.notifyOutcome severity silentTwin message) := by
  unfold Desk.notifyOutcome
  cases alarming : severity.isAlarming with
  | true =>
    simp only [Bool.true_or, Bool.and_true]
    split
    · exact alike.record _
    · exact alike
  | false =>
    have soft : Event.isFirm (.notified severity message : Event H) = false := alarming
    split <;> split
    · exact alike.record _
    · exact (alike.soften soft).1
    · exact (alike.soften soft).2
    · exact alike

/-! ## Handlers -/

theorem setCallbacks (alike : desk.Alike twin) (callbacks : Table (Callback H)) :
    Desk.Alike { desk with callbacks } { twin with callbacks } := by
  obtain ⟨links, waiting, logs⟩ := alike
  exact .intro links waiting logs

theorem register (alike : desk.Alike twin) (id : String) (h : H) (lifetime : Lifetime) :
    (twin.register id h lifetime).1 = (desk.register id h lifetime).1 ∧
      (desk.register id h lifetime).2.Alike (twin.register id h lifetime).2 := by
  obtain ⟨links, waiting, logs⟩ := alike
  exact ⟨rfl, .intro links waiting logs⟩

theorem registerMethod (alike : desk.Alike twin) (name : String) (h : H) :
    (twin.registerMethod name h).1 = (desk.registerMethod name h).1 ∧
      (desk.registerMethod name h).2.Alike (twin.registerMethod name h).2 := by
  obtain ⟨links, waiting, logs⟩ := alike
  exact ⟨rfl, .intro links waiting logs⟩

theorem unregister (alike : desk.Alike twin) (id : String) :
    (twin.unregister id).1 = (desk.unregister id).1 ∧
      (desk.unregister id).2.Alike (twin.unregister id).2 := by
  obtain ⟨links, waiting, logs⟩ := alike
  exact ⟨rfl, .intro links waiting logs⟩

theorem countDropped (alike : desk.Alike twin) :
    Desk.Alike { desk with dropped := desk.dropped + 1 }
      { twin with dropped := twin.dropped + 1 } := by
  obtain ⟨links, waiting, logs⟩ := alike
  exact .intro links waiting logs

theorem subscribe (alike : desk.Alike twin) (kind : UpdateKind) (h : H) :
    (desk.subscribe kind h).Alike (twin.subscribe kind h) := by
  obtain ⟨links, waiting, logs⟩ := alike
  exact .intro links waiting logs

/-! ## Services -/

theorem setService (alike : desk.Alike twin) (service : Service) :
    (desk.setService service).Alike (twin.setService service) := by
  obtain ⟨links, waiting, logs⟩ := alike
  exact .intro links waiting logs

theorem stopService (alike : desk.Alike twin) : desk.stopService.Alike twin.stopService := by
  obtain ⟨links, waiting, logs⟩ := alike
  unfold Desk.stopService Desk.service?
  dsimp only
  split <;> exact .intro links waiting logs

theorem notifyService (alike : desk.Alike twin) : desk.notifyService.Alike twin.notifyService := by
  obtain ⟨links, waiting, logs⟩ := alike
  unfold Desk.notifyService
  dsimp only
  split <;> exact .intro links waiting logs

theorem unpark (alike : desk.Alike twin) (service : Service) :
    (desk.unpark service).Alike (twin.unpark service) := by
  unfold Desk.unpark
  dsimp only
  split
  · exact (alike.setService _).notifyService
  · exact alike.setService _

theorem removeService (alike : desk.Alike twin) (line : Nat) :
    (desk.removeService line).Alike (twin.removeService line) := by
  obtain ⟨links, waiting, logs⟩ := alike
  exact .intro links waiting logs

theorem dismiss (alike : desk.Alike twin) (service : Service) :
    (desk.dismiss service).Alike (twin.dismiss service) :=
  (alike.unpark service).removeService service.line

theorem lull (alike : desk.Alike twin) (service : Service) (alarm : Option Nat) :
    (desk.lull service alarm).Alike (twin.lull service alarm) := by
  obtain ⟨links, waiting, logs⟩ := alike
  exact .intro links waiting logs

/-! ## Requests -/

theorem setCalls (alike : desk.Alike twin) {calls others : Table Call}
    (waiting : Call.TablesAlike calls others) :
    Desk.Alike { desk with calls } { twin with calls := others } := by
  obtain ⟨links, -, logs⟩ := alike
  exact .intro links waiting logs

theorem setLink (alike : desk.Alike twin) {link other : Link} (links : link.Alike other) :
    Desk.Alike { desk with link } { twin with link := other } := by
  obtain ⟨-, waiting, logs⟩ := alike
  exact .intro links waiting logs

theorem setStream (alike : desk.Alike twin) (stream : Option Nat) :
    Desk.Alike { desk with stream } { twin with stream } := by
  obtain ⟨links, waiting, logs⟩ := alike
  exact .intro links waiting logs

theorem link (alike : desk.Alike twin) : desk.link.Alike twin.link := by
  obtain ⟨links, waiting, logs⟩ := alike
  exact links

theorem calls (alike : desk.Alike twin) : Call.TablesAlike desk.calls twin.calls := by
  obtain ⟨links, waiting, logs⟩ := alike
  exact waiting

theorem filed (alike : desk.Alike twin) (s : Submission H) (silent : Bool) (id : String)
    (own : Option H) : (desk.filed s id own).Alike (twin.filed { s with silent } id own) := by
  have waiting := alike.calls.insert id (desk.callOf s) silent
  obtain ⟨links, -, logs⟩ := alike
  cases own <;> exact .intro links waiting logs

theorem withdrawn (alike : desk.Alike twin) (id : String) (own : Option H) :
    (desk.withdrawn id own).Alike (twin.withdrawn id own) := by
  have waiting := alike.calls.erase id
  obtain ⟨links, -, logs⟩ := alike
  cases own <;> exact .intro links waiting logs

theorem announced (alike : desk.Alike twin) (s : Submission H) (silent : Bool) (id : String) :
    (desk.announced s id).Alike (twin.announced { s with silent } id) := by
  have noted := alike.record (.request .submitted id)
  unfold Desk.announced
  refine Desk.Alike.notifyService ?_
  dsimp only
  split <;> split
  · exact noted
  · exact (noted.soften rfl).2
  · exact (noted.soften rfl).1
  · exact noted.record _

theorem submitAs (alike : desk.Alike twin) {s other : Submission H} (submissions : s.Alike other)
    (id : String) (own : Option H) :
    (twin.submitAs other id own).1 = (desk.submitAs s id own).1 ∧
      (desk.submitAs s id own).2.Alike (twin.submitAs other id own).2 := by
  obtain ⟨silent⟩ := submissions
  rw [submitAs_eq, submitAs_eq, alike.calls.contains]
  split
  · exact ⟨rfl, alike⟩
  · have frames : Outgoing.Alike
        { kind := "submit", payload := desk.link.tagged (desk.requestOf s id).payload }
        { kind := "submit"
          payload := twin.link.tagged (twin.requestOf { s with silent } id).payload } := by
      rw [Link.tagged, Link.tagged, Desk.requestOf, Desk.requestOf, alike.link.fields.1]
      exact .request _ _ silent
    rcases alike.link.emit frames with ⟨failure, failed, failedTwin⟩ |
      ⟨sent, sentTwin, done, doneTwin, links⟩
    · rw [failed, failedTwin]
      exact ⟨rfl, (alike.filed s silent id own).withdrawn id own⟩
    · rw [done, doneTwin]
      exact ⟨rfl, ((alike.filed s silent id own).setLink links).announced s silent id⟩

theorem submit (alike : desk.Alike twin) {s other : Submission H} (submissions : s.Alike other) :
    (twin.submit other).1 = (desk.submit s).1 ∧
      (desk.submit s).2.Alike (twin.submit other).2 := by
  have targets : other.target = s.target := by
    obtain ⟨silent⟩ := submissions
    rfl
  unfold Desk.submit
  rw [targets]
  cases s.target with
  | named name =>
    dsimp only
    split
    · exact ⟨rfl, alike⟩
    · have sent := alike.submitAs submissions name none
      exact ⟨congrArg some sent.1, sent.2⟩
  | inline h =>
    have fresh : twin.freshId.1 = desk.freshId.1 ∧ desk.freshId.2.Alike twin.freshId.2 := by
      obtain ⟨links, waiting, logs⟩ := alike
      exact ⟨rfl, .intro links waiting logs⟩
    dsimp only
    cases made : desk.freshId with
    | mk id drawn =>
      cases twinMade : twin.freshId with
      | mk twinId twinDrawn =>
        rw [made, twinMade] at fresh
        obtain ⟨rfl, drawns⟩ : twinId = id ∧ drawn.Alike twinDrawn := fresh
        cases twinId with
        | none => exact ⟨rfl, drawns⟩
        | some id =>
          have sent := drawns.submitAs submissions id (some h)
          exact ⟨congrArg some sent.1, sent.2⟩

theorem lifetime? (alike : desk.Alike twin) (id : String) :
    twin.lifetime? id = desk.lifetime? id := by
  rw [Desk.lifetime?, Desk.lifetime?, alike.callbacks]

theorem abandon (alike : desk.Alike twin) (id : String) :
    (desk.abandon id).Alike (twin.abandon id) := by
  have closed := (alike.setCalls (alike.calls.erase id)).record (.request .abandoned id)
  have lives := closed.lifetime? id
  unfold Desk.abandon
  rw [alike.calls.contains]
  split
  · dsimp only
    rw [lives]
    by_cases once : Desk.lifetime? ({ desk with calls := desk.calls.erase id }.record
        (.request .abandoned id)) id = some .once
    · rw [if_pos once, if_pos once]
      exact (closed.unregister id).2
    · rw [if_neg once, if_neg once]
      exact closed
  · exact alike

/-! ## Frames and deadlines -/

/-- Alike responses are unreadable, errors or outcomes together, and close the same request. -/
theorem receiveResponse (alike : desk.Alike twin) (code : Nat) {content other : String}
    {r twinR : Response} (read : Response.read.ofString? content = some r)
    (readOther : Response.read.ofString? other = some twinR) (responses : r.Alike twinR) :
    (twin.receiveResponse code other).1 = (desk.receiveResponse code content).1 ∧
      (desk.receiveResponse code content).2.Alike (twin.receiveResponse code other).2 := by
  have ids : twinR.callback.map Echo.id = r.callback.map Echo.id := by
    cases responses with
    | same => rfl
    | echo echo silent echoed =>
      rw [echoed]
      rfl
  have rest : twinR.message = r.message ∧ twinR.data = r.data ∧ twinR.level = r.level ∧
      twinR.error = r.error := by
    cases responses <;> exact ⟨rfl, rfl, rfl, rfl⟩
  obtain ⟨message, data, level, error⟩ := rest
  have classified :
      twin.settings.success.classify code = desk.settings.success.classify code :=
    congrArg (fun desk => desk.settings.success.classify code) alike.same
  unfold Desk.receiveResponse
  rw [read, readOther]
  dsimp only
  rw [error, message, data, level, classified]
  cases r.error with
  | some reason =>
    refine ⟨rfl, (Desk.Alike.settleLoading ?_).record _⟩
    cases echoed : r.callback with
    | none =>
      rw [echoed] at ids
      rw [Option.map_eq_none_iff.mp ids]
      exact alike
    | some echo =>
      rw [echoed] at ids
      obtain ⟨echoTwin, echoedTwin, same⟩ := Option.map_eq_some_iff.mp ids
      rw [echoedTwin]
      dsimp only
      rw [same]
      exact alike.abandon echo.id
  | none =>
    cases echoed : r.callback with
    | none =>
      rw [echoed] at ids
      rw [Option.map_eq_none_iff.mp ids]
      exact ⟨rfl, alike.notifyOutcome _ _ _ _⟩
    | some echo =>
      rw [echoed] at ids
      obtain ⟨echoTwin, echoedTwin, same⟩ := Option.map_eq_some_iff.mp ids
      rw [echoedTwin]
      dsimp only
      rw [same]
      have closed := (alike.setCalls (alike.calls.erase echo.id)).record
        (.request .resolved echo.id)
      rcases alike.calls.find? echo.id with ⟨none, noneTwin⟩ | ⟨call, silent, found, foundTwin⟩
      · rw [none, noneTwin]
        exact ⟨rfl, alike⟩
      · rw [found, foundTwin]
        exact ⟨rfl, closed.settleLoading.notifyOutcome _ _ _ _⟩

theorem receive (alike : desk.Alike twin) {frame other : Incoming} (frames : frame.Alike other) :
    (twin.receive other).1 = (desk.receive frame).1 ∧
      (desk.receive frame).2.Alike (twin.receive other).2 := by
  cases frames with
  | response code read readOther responses =>
    exact alike.receiveResponse code read readOther responses
  | same =>
    unfold Desk.receive
    split
    · cases read : Response.read.ofString? frame.content with
      | some r => exact alike.receiveResponse frame.code read read .same
      | none =>
        unfold Desk.receiveResponse
        rw [read]
        exact ⟨rfl, (alike.record _).record _⟩
    · split
      · exact ⟨rfl, alike⟩
      · exact ⟨rfl, alike⟩

theorem evict (alike : desk.Alike twin) (time : Int) :
    Forall₂ Call.Alike (desk.evict time).1 (twin.evict time).1 ∧
      (desk.evict time).2.Alike (twin.evict time).2 :=
  ⟨forall₂_filter alike.calls fun _ _ ⟨_, _, _⟩ => rfl,
    alike.setCalls (alike.calls.filter fun _ _ _ => rfl)⟩

theorem nextDeadline? (alike : desk.Alike twin) : twin.nextDeadline? = desk.nextDeadline? := by
  have deadlines := filterMap_congr_of_forall₂ (f := fun entry => entry.2.deadline)
    (g := fun entry => entry.2.deadline) alike.calls fun _ _ ⟨_, _, _⟩ => rfl
  simp only [Desk.nextDeadline?, Table.values, List.filterMap_map, Function.comp_def, deadlines]

/-! ## Lines -/

theorem emit (alike : desk.Alike twin) (kind : String) (payload : Members) :
    (twin.emit kind payload).1 = (desk.emit kind payload).1 ∧
      (desk.emit kind payload).2.Alike (twin.emit kind payload).2 := by
  have frames : Outgoing.Alike { kind, payload := desk.link.tagged payload }
      { kind, payload := twin.link.tagged payload } := by
    rw [Link.tagged, Link.tagged, alike.link.fields.1]
    exact .same _
  unfold Desk.emit
  rcases alike.link.emit frames with ⟨failure, failed, failedTwin⟩ |
    ⟨sent, sentTwin, done, doneTwin, links⟩
  · rw [failed, failedTwin]
    exact ⟨rfl, alike⟩
  · rw [done, doneTwin]
    exact ⟨rfl, alike.setLink links⟩

theorem takeNext? (alike : desk.Alike twin) {line : Nat} {frame : Incoming} {taken : Desk H W}
    (next : desk.takeNext? line = some (frame, taken)) :
    ∃ other takenTwin, twin.takeNext? line = some (other, takenTwin) ∧ frame.Alike other ∧
      taken.Alike takenTwin := by
  unfold Desk.takeNext? at next ⊢
  rcases alike.link.line? line with ⟨missing, missingTwin⟩ | ⟨l, other, there, thereTwin, lines⟩
  · rw [missing] at next
    cases next
  · rw [there] at next
    rw [thereTwin]
    dsimp only at next ⊢
    rcases lines.inbox with
      ⟨empty, -⟩ | ⟨first, twinFirst, rest, others, queue, queueTwin, frames, onward⟩
    · rw [empty] at next
      cases next
    · rw [queue] at next
      rw [queueTwin]
      cases next
      exact ⟨_, _, rfl, frames, alike.setLink (alike.link.setLine line onward)⟩

theorem takeFrame (alike : desk.Alike twin) :
    desk.takeFrame.1.Alike twin.takeFrame.1 ∧ desk.takeFrame.2.Alike twin.takeFrame.2 := by
  unfold Desk.takeFrame
  cases reading : desk.stream.bind fun index => (desk.link.line? index).map (index, ·) with
  | none =>
    have readingTwin :
        (twin.stream.bind fun index => (twin.link.line? index).map (index, ·)) = none := by
      rw [alike.stream]
      refine Option.bind_eq_none_iff.mpr fun index byHand => ?_
      have missing := Option.bind_eq_none_iff.mp reading index byHand
      rcases alike.link.line? index with ⟨-, missingTwin⟩ | ⟨line, other, there, -, -⟩
      · rw [missingTwin]
        rfl
      · rw [there] at missing
        cases missing
    rw [readingTwin]
    exact ⟨.same _, alike⟩
  | some pair =>
    obtain ⟨index, byHand, found⟩ := Option.bind_eq_some_iff.mp reading
    rcases alike.link.line? index with ⟨missing, -⟩ | ⟨line, other, there, thereTwin, lines⟩
    · rw [missing] at found
      cases found
    · rw [there] at found
      cases found
      have readingTwin : (twin.stream.bind fun index =>
          (twin.link.line? index).map (index, ·)) = some (index, other) := by
        rw [alike.stream, byHand, Option.bind_some, thereTwin]
        rfl
      rw [readingTwin]
      dsimp only
      rcases lines.inbox with
        ⟨empty, emptyTwin⟩ | ⟨first, twinFirst, rest, others, queue, queueTwin, frames, onward⟩
      · rw [empty, emptyTwin, lines.fields.2.2.1]
        exact ⟨.same _, alike⟩
      · rw [queue, queueTwin]
        exact ⟨.frame frames, alike.setLink (alike.link.setLine index onward)⟩

section
variable {line other : Line}

/-- The answer to a report of the far end is whether it can still be handled. -/
theorem peerAct_report (alike : desk.Alike twin) (index : Nat) (lines : line.Alike other)
    {report twinReport : Report} (reports : report.Alike twinReport) :
    (twin.peerAct index other (.report twinReport)).1 =
        (desk.peerAct index line (.report report)).1 ∧
      (desk.peerAct index line (.report report)).2.Alike
        (twin.peerAct index other (.report twinReport)).2 := by
  obtain ⟨-, -, -, -, inProcess⟩ := lines.fields
  obtain ⟨handled, links⟩ := alike.link.report index reports
  have sent := alike.setLink links
  cases reports with
  | frame frames =>
    simp only [Desk.peerAct, inProcess, handled, true_and]
    exact sent
  | same =>
    cases report with
    | closed | trouble | frame =>
      simp only [Desk.peerAct, inProcess, handled, true_and]
      exact sent
    | connected | refused =>
      simp only [Desk.peerAct, inProcess, handled]
      split
      · exact ⟨rfl, alike⟩
      · exact ⟨rfl, sent⟩

theorem peerAct_respond (alike : desk.Alike twin) (index : Nat) (lines : line.Alike other)
    {frame twinFrame : Incoming} (frames : frame.Alike twinFrame) :
    (twin.peerAct index other (.respond twinFrame)).1 =
        (desk.peerAct index line (.respond frame)).1 ∧
      (desk.peerAct index line (.respond frame)).2.Alike
        (twin.peerAct index other (.respond twinFrame)).2 := by
  obtain ⟨-, -, -, -, inProcess⟩ := lines.fields
  obtain ⟨handled, links⟩ := alike.link.report index (.frame frames)
  simp only [Desk.peerAct, inProcess, handled]
  split
  · exact ⟨rfl, alike.setLink links⟩
  · exact ⟨rfl, alike⟩

theorem peerAct (alike : desk.Alike twin) (index : Nat) (lines : line.Alike other)
    {action twinAction : PeerAction} (actions : action.Alike twinAction) :
    (twin.peerAct index other twinAction).1 = (desk.peerAct index line action).1 ∧
      (desk.peerAct index line action).2.Alike (twin.peerAct index other twinAction).2 := by
  cases actions with
  | report reports => exact alike.peerAct_report index lines reports
  | respond frames => exact alike.peerAct_respond index lines frames
  | same =>
    obtain ⟨-, -, -, -, inProcess⟩ := lines.fields
    cases action with
    | report report => exact alike.peerAct_report index lines (.same report)
    | respond frame => exact alike.peerAct_respond index lines (.same frame)
    | stopReading =>
      simp only [Desk.peerAct, inProcess]
      split
      · exact ⟨rfl, alike⟩
      · obtain ⟨sent, reported, arrived⟩ := lines
        exact ⟨rfl, alike.setLink (alike.link.setLine index (.intro sent reported arrived))⟩
    | drop =>
      obtain ⟨sent, reported, arrived⟩ := lines
      exact ⟨rfl, alike.setLink (alike.link.setLine index (.intro sent reported arrived))⟩

end

/-- The far ends of alike lines act alike. -/
theorem peer (alike : desk.Alike twin) (index : Option Nat) {action twinAction : PeerAction}
    (actions : action.Alike twinAction) :
    (twin.peer index twinAction).1 = (desk.peer index action).1 ∧
      (desk.peer index action).2.Alike (twin.peer index twinAction).2 := by
  unfold Desk.peer
  dsimp only
  rw [alike.link.length]
  rcases alike.link.line? (index.getD (desk.link.lines.length - 1)) with
    ⟨missing, missingTwin⟩ | ⟨line, other, there, thereTwin, lines⟩
  · rw [missing, missingTwin]
    exact ⟨rfl, alike⟩
  · rw [there, thereTwin]
    dsimp only
    by_cases reporting : line.reporting = true
    · rw [if_pos reporting, if_pos (lines.fields.2.1.trans reporting)]
      exact alike.peerAct _ lines actions
    · rw [if_neg reporting, if_neg (lines.fields.2.1 ▸ reporting)]
      exact ⟨rfl, alike⟩

theorem release (alike : desk.Alike twin) (index : Nat) :
    (desk.release index).Alike (twin.release index) := by
  unfold Desk.release
  rcases alike.link.line? index with ⟨missing, missingTwin⟩ | ⟨line, other, there, thereTwin, lines⟩
  · rw [missing, missingTwin]
    exact alike
  · rw [there, thereTwin]
    obtain ⟨sent, reported, arrived⟩ := lines
    exact alike.setLink (alike.link.setLine index (.intro sent reported .nil))

theorem summon (alike : desk.Alike twin) (worker : Worker) :
    (desk.summon worker).Alike (twin.summon worker) := by
  obtain ⟨links, waiting, logs⟩ := alike
  unfold Desk.summon
  dsimp only
  split <;> exact .intro links waiting logs

/-- The line that is read by hand is released. -/
theorem releaseStream (alike : desk.Alike twin) :
    Desk.Alike
      (match desk.stream with
        | some earlier => desk.release earlier
        | none => desk)
      (match twin.stream with
        | some earlier => twin.release earlier
        | none => twin) := by
  rw [alike.stream]
  cases desk.stream with
  | none => exact alike
  | some earlier => exact alike.release earlier

theorem dial (alike : desk.Alike twin) : desk.dial.Alike twin.dial :=
  alike.setLink (alike.link.withStatus .connecting)

theorem opened (alike : desk.Alike twin) (outcome : Except String Nat) :
    (desk.opened outcome).2.Alike (twin.opened outcome).2 := by
  obtain ⟨result, link, linkTwin, made, madeTwin, links⟩ :=
    exists_result (alike.link.conclude outcome)
  have linked := alike.setLink links
  unfold Desk.opened
  rw [made, madeTwin]
  cases outcome with
  | error reason => exact linked
  | ok line =>
    cases result with
    | error failure => exact linked
    | ok done => exact (linked.releaseStream.setStream (some line)).summon (.pump line)

/-- Services of alike desks rest together. -/
theorem turn_eq_rest_iff (alike : desk.Alike twin) (service : Service) :
    twin.turn service = .rest ↔ desk.turn service = .rest := by
  unfold Desk.turn
  rcases alike.link.line? service.line with
    ⟨missing, missingTwin⟩ | ⟨line, other, there, thereTwin, lines⟩
  · rw [missing, missingTwin]
  · rw [there, thereTwin]
    dsimp only
    rcases lines.inbox with
      ⟨empty, emptyTwin⟩ | ⟨first, twinFirst, rest, others, queue, queueTwin, -, -⟩
    · rw [empty, emptyTwin, lines.fields.2.2.1, alike.now]
    · rw [queue, queueTwin]
      split <;> simp

/-- Alike desks have the same work to do. -/
theorem isBusy (alike : desk.Alike twin) (worker : Worker) :
    twin.isBusy worker = desk.isBusy worker := by
  cases worker with
  | pump line =>
    show (twin.link.line? line).any Line.isBusy = (desk.link.line? line).any Line.isBusy
    rcases alike.link.line? line with ⟨missing, missingTwin⟩ | ⟨l, other, there, thereTwin, lines⟩
    · rw [missing, missingTwin]
    · rw [there, thereTwin, Option.any_some, Option.any_some, lines.isBusy]
  | service line => simp only [Desk.isBusy, alike.service?, ne_eq, alike.turn_eq_rest_iff]

theorem enlist (alike : desk.Alike twin) : desk.enlist.Alike twin.enlist := by
  have busy : twin.isBusy = desk.isBusy := funext alike.isBusy
  have workers : twin.workers = desk.workers := by
    have length := alike.link.length
    obtain ⟨links, waiting, logs⟩ := alike
    unfold Desk.workers
    rw [length]
  unfold Desk.enlist
  rw [busy, workers]
  obtain ⟨links, waiting, logs⟩ := alike
  exact .intro links waiting logs

/-- Questions are answered alike. -/
theorem answer (alike : desk.Alike twin) (question : Question H) :
    twin.answer question = desk.answer question := by
  have size : twin.calls.size = desk.calls.size := alike.calls.length_eq.symm
  have waiting := alike.calls.contains
  have links : twin.link.credentials = desk.link.credentials ∧
      twin.link.describe = desk.link.describe := by
    obtain ⟨credentials, status, -⟩ := alike.link.fields
    refine ⟨credentials, ?_⟩
    unfold Link.describe
    rw [credentials, status]
  obtain ⟨-, -, -⟩ := alike
  cases question with
  | isOutstanding id => exact congrArg Answer.flag (waiting id)
  | room => exact congrArg (fun credentials => Answer.text credentials.room) links.1
  | hasCallback | hasMethod | lifetime | subscriberCount => rfl
  | description subject =>
    cases subject with
    | callbacks | subscribers | submission => rfl
    | link => exact congrArg Answer.text links.2
    | desk =>
      simp only [Desk.answer, Desk.description, Desk.describe, links.2, size]
      rfl

theorem isDrained (alike : desk.Alike twin) (line : Nat) :
    twin.isDrained line = desk.isDrained line := by
  unfold Desk.isDrained
  rcases alike.link.line? line with ⟨missing, missingTwin⟩ | ⟨l, other, there, thereTwin, lines⟩
  · rw [missing, missingTwin]
  · rw [there, thereTwin]
    dsimp only
    rw [lines.fields.2.2.1]
    rcases lines.inbox with ⟨empty, emptyTwin⟩ | ⟨_, _, _, _, queue, queueTwin, -, -⟩
    · rw [empty, emptyTwin]
    · rw [queue, queueTwin]
      rfl

theorem isUnused (alike : desk.Alike twin) (line : Nat) :
    twin.isUnused line = desk.isUnused line := by
  unfold Desk.isUnused
  rcases alike.link.line? line with ⟨missing, missingTwin⟩ | ⟨l, other, there, thereTwin, lines⟩
  · rw [missing, missingTwin]
  · rw [there, thereTwin, Option.any_some, Option.any_some, lines.fields.2.2.1]

theorem serveLine (alike : desk.Alike twin) (line : Nat) :
    Desk.Alike ({ desk with stream := none }.serveLine line)
      ({ twin with stream := none }.serveLine line) := by
  refine Desk.Alike.enlist ?_
  obtain ⟨links, waiting, logs⟩ := alike
  exact .intro links waiting logs

theorem advance (alike : desk.Alike twin) (ms : Nat) :
    (desk.advance ms).Alike (twin.advance ms) := by
  refine Desk.Alike.enlist ?_
  obtain ⟨links, waiting, logs⟩ := alike
  exact .intro links waiting logs

theorem schedule (alike : desk.Alike twin) (agenda : List Worker) :
    Desk.Alike { desk with agenda } { twin with agenda } := by
  obtain ⟨links, waiting, logs⟩ := alike
  exact .intro links waiting logs

theorem report (alike : desk.Alike twin) (line : Nat) {report other : Report}
    (reports : report.Alike other) :
    (desk.report line report).Alike (twin.report line other) :=
  (alike.setLink (alike.link.report line reports).2).enlist

theorem lay (alike : desk.Alike twin) (line : Line) :
    Desk.Alike { desk with link.lines := desk.link.lines ++ [line] }
      { twin with link.lines := twin.link.lines ++ [line] } := by
  obtain ⟨⟨lines⟩, waiting, logs⟩ := alike
  exact .intro (.intro (rel_append lines (.cons (.refl line) .nil))) waiting logs

end Desk.Alike
end PageSession.Exchange
