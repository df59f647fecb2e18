import PageSession.Proofs.Exchange.ConcurrentRun

/-!
The status of a link and the connections that set it. All pumps share the status: it is the latest
that the pump of any line has set since somebody began to connect. Where the lines of other
connections are silent, that comes to what the line in use has reported. An attempt to connect that
fails leaves the link disconnected unless the line was opened and its peer takes no frames.
-/
namespace PageSession.Exchange
open Json Message

/-- The status that the reports of a line lead to, once its pump has nothing more to do. -/
def Line.standing (line : Line) (reports : List Report) : Status :=
  if reports.any Report.isFinal || !line.reporting then .disconnected
  else if .connected ∈ reports then .connected
  else .connecting

namespace Link

/-! ## Signals -/

/-- The status that a pump sets, with the line of the pump. -/
def signalled (link : Link) : Traffic → List (Nat × Status)
  | .pump index => (((link.line? index).bind Line.signal?).map (index, ·)).toList
  | _ => []

def latest (status : Status) (signals : List (Nat × Status)) : Status :=
  (signals.getLast?.map Prod.snd).getD status

theorem latest_append (status : Status) (earlier later : List (Nat × Status)) :
    latest status (earlier ++ later) = latest (latest status earlier) later := by
  unfold latest
  cases last : later.getLast? with
  | none => simp [List.getLast?_eq_none_iff.mp last]
  | some signal => simp [List.getLast?_append, last]

/-- Apart from attempts to connect only a pump sets the status. -/
theorem after_status (link : Link) {traffic : Traffic} (others : traffic.isConnecting = false) :
    (link.after traffic).status = latest link.status (link.signalled traffic) := by
  cases traffic with
  | dial | opened outcome => cases others
  | emit kind payload =>
    simp only [after]
    split
    · rename_i sent success
      obtain ⟨-, index, line, -, -, -, rfl⟩ := emit_ok success
      rw [change_status]
      rfl
    · rfl
  | report index report => rw [after, report_eq, change_status]; rfl
  | pump index =>
    rw [after, pumpLine_eq]
    cases signal : (link.line? index).bind Line.signal? <;> simp [signalled, signal, latest]
  | lay inProcess => rfl
  | take index | release index | deafen index | drop index => exact change_status link _ _

theorem run_status {link : Link} {traffic : List Traffic}
    (others : ∀ piece ∈ traffic, piece.isConnecting = false) :
    (link.run traffic).status = latest link.status (link.history signalled traffic) := by
  induction traffic with
  | nil => rfl
  | cons piece earlier ih =>
    rw [List.forall_mem_cons] at others
    rw [run, after_status _ others.1, ih others.2, history, latest_append]

/-- An attempt to connect uses its line from now on, and sets no status. -/
theorem after_opened {link : Link} {index : Nat} (unused : link.isUnused index = true) :
    (link.after (.opened (.ok index))).status = link.status ∧
      (link.after (.opened (.ok index))).current = some index := by
  simp only [after, unused, if_true]
  exact ⟨conclude_status link index, conclude_current link index⟩

theorem after_current (link : Link) {traffic : Traffic} (others : traffic.isConnecting = false) :
    (link.after traffic).current = link.current := by
  cases traffic with
  | dial | opened outcome => cases others
  | emit kind payload =>
    simp only [after]
    split
    · rename_i sent success
      obtain ⟨-, index, line, -, -, -, rfl⟩ := emit_ok success
      rw [change_current]
    · rfl
  | report index report => rw [after, report_eq, change_current]
  | pump index => rw [after, pumpLine_eq]; exact change_current link _ _
  | lay inProcess => rfl
  | take index | release index | deafen index | drop index => exact change_current link _ _

/-! ## One connection alone -/

/-- The link is used by one line, and its status is the one to which the pump of this line has come
by the reports that it has passed. -/
structure Heeds (link : Link) (index : Nat) (passed : List Report) : Prop where
  current : link.current = some index
  status : ∃ line, link.line? index = some line ∧ line.pump ≠ .waiting ∧
    link.status = if line.pump = .ended then .disconnected
      else if .connected ∈ passed then .connected
      else .connecting

namespace Heeds
variable {link : Link} {index : Nat} {passed : List Report}

/-- A turn of the pump in use. -/
theorem pump (heeds : link.Heeds index passed) :
    (link.after (.pump index)).Heeds index (passed ++ Link.passed index link (.pump index)) := by
  obtain ⟨current, line, there, begun, status⟩ := heeds
  refine ⟨(after_current link rfl).trans current, line.pumped, ?_, ?_, ?_⟩
  · rw [after, pumpLine_eq]
    exact (line?_change link index index Line.pumped).trans (by rw [if_pos rfl, there]; rfl)
  · unfold Line.pumped
    repeat' split
    all_goals simp [begun]
  · simp only [after, pumpLine_eq, there, Option.bind_some, Link.passed, if_true]
    by_cases running : line.pump = .running
    · simp only [Line.signal?, Line.pumped, Line.passing?, running, ne_eq, not_true_eq_false,
        if_false, status]
      cases queue : line.reports with
      | nil => cases silent : line.reporting <;> simp [running]
      | cons report rest => cases report <;> simp [Report.isFinal, Option.filter]
    · simp [Line.signal?, Line.pumped, Line.passing?, running, status]

/-- As long as nobody connects again and other lines set no status, the link heeds the line in
use. -/
theorem after (heeds : link.Heeds index passed) {traffic : Traffic}
    (others : traffic.isConnecting = false)
    (alone : ∀ signal ∈ link.signalled traffic, signal.1 = index) :
    (link.after traffic).Heeds index (passed ++ Link.passed index link traffic) := by
  by_cases own : traffic = .pump index
  · subst own
    exact heeds.pump
  have silent : link.signalled traffic = [] := by
    cases traffic with
    | pump other =>
      cases signal : (link.line? other).bind Line.signal? with
      | none => simp [signalled, signal]
      | some status =>
        have same : other = index := alone (other, status) (by simp [signalled, signal])
        exact absurd (congrArg Traffic.pump same) own
    | _ => rfl
  have status := after_status link others
  rw [silent] at status
  have passing : Link.passed index link traffic = [] := by
    cases traffic with
    | pump other =>
      have different : other ≠ index := fun same => own (congrArg Traffic.pump same)
      simp [Link.passed, different]
    | _ => rfl
  rw [passing, List.append_nil]
  obtain ⟨current, line, there, begun, before⟩ := heeds
  obtain ⟨next, found, keeps⟩ := keeps_after there traffic
  have same := keeps.pump others own
  refine ⟨(after_current link others).trans current, next, found, ?_, ?_⟩
  · rwa [same]
  · rw [status, same]
    exact before

theorem run (heeds : link.Heeds index passed) {traffic : List Traffic}
    (others : ∀ piece ∈ traffic, piece.isConnecting = false)
    (alone : ∀ signal ∈ link.history signalled traffic, signal.1 = index) :
    (link.run traffic).Heeds index (passed ++ link.history (Link.passed index) traffic) := by
  induction traffic with
  | nil => simpa [Link.run, history] using heeds
  | cons piece earlier ih =>
    rw [List.forall_mem_cons] at others
    rw [history, List.forall_mem_append] at alone
    have step := (ih others.2 alone.1).after others.1 alone.2
    rwa [List.append_assoc] at step

end Heeds

/-! ## Connections -/

/-- The pump of a line sets a status only after somebody has connected on the line. -/
theorem isOpened_of_signalled {start : Link} (empty : start.lines = []) {index : Nat}
    {status : Status} {traffic : List Traffic}
    (set : (index, status) ∈ start.history signalled traffic) :
    start.isOpened index traffic = true := by
  induction traffic with
  | nil => cases set
  | cons piece earlier ih =>
    rw [history, List.mem_append] at set
    rw [isOpened, Bool.or_eq_true]
    rcases set with before | now
    · exact .inl (ih before)
    · left
      cases piece with
      | pump other =>
        simp only [signalled, Option.mem_toList, Option.map_eq_some_iff, Prod.mk.injEq] at now
        obtain ⟨_, signal, rfl, rfl⟩ := now
        obtain ⟨line, there, signal⟩ := Option.bind_eq_some_iff.mp signal
        have running : line.pump = .running := by
          by_contra resting
          simp [Line.signal?, resting] at signal
        exact ((Carries.run empty other earlier).there line there).started_of_running running
      | _ => cases now

/-- Nobody has connected on an unused line. -/
theorem isOpened_of_isUnused {start : Link} (empty : start.lines = []) {index : Nat}
    {traffic : List Traffic} (unused : (start.run traffic).isUnused index = true) :
    start.isOpened index traffic = false := by
  obtain ⟨line, there, waiting⟩ := isUnused_iff.mp unused
  refine Bool.eq_false_iff.mpr fun already => ?_
  exact ((Carries.run empty index traffic).there line there).begun already waiting

/-- A connection on a link that began without lines: somebody began to connect, an attempt has
succeeded on a line, and nobody has begun to connect again. The three parts of its history are what
came after it succeeded, what came meanwhile, and what came before. -/
structure Connection (start : Link) (index : Nat) (later during earlier : List Traffic) : Prop where
  empty : start.lines = []
  succeeds : starts index (start.run (during ++ .dial :: earlier)) (.opened (.ok index)) = true
  unconnecting : ∀ piece ∈ later ++ during, piece.isConnecting = false

namespace Connection
variable {start : Link} {index : Nat} {later during earlier : List Traffic}

/-- The whole history of a connection. -/
abbrev traffic (index : Nat) (later during earlier : List Traffic) : List Traffic :=
  later ++ .opened (.ok index) :: (during ++ .dial :: earlier)

/-- What pumps have set since somebody began to connect. -/
def signals (start : Link) (index : Nat) (later during earlier : List Traffic) :
    List (Nat × Status) :=
  (start.run (.dial :: earlier)).history signalled (later ++ .opened (.ok index) :: during)

theorem signals_eq (start : Link) (index : Nat) (later during earlier : List Traffic) :
    signals start index later during earlier =
      (start.run (.dial :: earlier)).history signalled during ++
        (start.run (.opened (.ok index) :: (during ++ .dial :: earlier))).history signalled
          later := by
  rw [signals, history_append, history]
  simp only [signalled, List.append_nil]
  rw [show start.run (.opened (.ok index) :: (during ++ .dial :: earlier)) =
    ((start.run (.dial :: earlier)).run during).after (.opened (.ok index)) from
      congrArg (Link.after · (.opened (.ok index))) (run_append start during (.dial :: earlier))]
  rfl

theorem unused (connection : Connection start index later during earlier) :
    (start.run (during ++ .dial :: earlier)).isUnused index = true := by
  have succeeds := connection.succeeds
  simp only [starts, decide_true, Bool.true_and, Bool.and_eq_true] at succeeds
  exact succeeds.1

/-- The status is the latest that any pump has set since somebody began to connect. -/
theorem status (connection : Connection start index later during earlier) :
    (start.run (traffic index later during earlier)).status =
      latest .connecting (signals start index later during earlier) := by
  obtain ⟨after, meanwhile⟩ := List.forall_mem_append.mp connection.unconnecting
  have before : (start.run (during ++ .dial :: earlier)).status =
      latest .connecting ((start.run (.dial :: earlier)).history signalled during) := by
    rw [run_append, run_status meanwhile]
    rfl
  rw [signals_eq, latest_append, ← before, run_append, run_status after, run,
    (after_opened connection.unused).1]

/-- Where only its own line sets the status, a connection begins as connecting. -/
theorem heeds (connection : Connection start index later during earlier)
    (alone : ∀ signal ∈ signals start index later during earlier, signal.1 = index) :
    (start.run (traffic index later during earlier)).Heeds index
      (start.history (passed index) (traffic index later during earlier)) := by
  have unopened := isOpened_of_isUnused connection.empty connection.unused
  rw [signals_eq, List.forall_mem_append] at alone
  obtain ⟨after, meanwhile⟩ := List.forall_mem_append.mp connection.unconnecting
  have silent : (start.run (.dial :: earlier)).history signalled during = [] := by
    refine List.eq_nil_iff_forall_not_mem.mpr ?_
    rintro ⟨other, status⟩ member
    have same : other = index := alone.1 _ member
    rw [same] at member
    have whole : (index, status) ∈ start.history signalled (during ++ .dial :: earlier) := by
      rw [history_append]
      exact List.mem_append_right _ member
    exact absurd (unopened.symm.trans (isOpened_of_signalled connection.empty whole)) (by decide)
  have connecting : (start.run (during ++ .dial :: earlier)).status = .connecting := by
    rw [run_append, run_status meanwhile, silent]
    rfl
  have opening : (start.run (.opened (.ok index) :: (during ++ .dial :: earlier))).Heeds index
      (start.history (passed index) (.opened (.ok index) :: (during ++ .dial :: earlier))) := by
    obtain ⟨status, current⟩ := after_opened connection.unused
    obtain ⟨line, there, waiting⟩ := isUnused_iff.mp connection.unused
    have flow := (Carries.run connection.empty index (during ++ .dial :: earlier)).there line there
    have joined :
        ((start.run (during ++ .dial :: earlier)).conclude (.ok index)).1.isOk = true := by
      have succeeds := connection.succeeds
      simp only [starts, Bool.and_eq_true] at succeeds
      exact succeeds.2
    obtain ⟨next, found, running⟩ : ∃ next,
        (start.run (.opened (.ok index) :: (during ++ .dial :: earlier))).line? index = some next ∧
          next.pump = .running := by
      rw [run, Link.after, if_pos connection.unused, line?_conclude, if_pos rfl, there,
        Option.map_some, if_pos joined]
      exact ⟨_, rfl, rfl⟩
    refine ⟨current, next, found, by simp [running], ?_⟩
    rw [run, status, connecting, history, (flow.unstarted unopened).2, running]
    simp [passed]
  have onward := opening.run after alone.2
  rwa [traffic, run_append, history_append]

/-- Where only its own line sets the status, a connection stands as its reports say once its pump
has nothing more to do. -/
theorem standing (connection : Connection start index later during earlier)
    (alone : ∀ signal ∈ signals start index later during earlier, signal.1 = index) {line : Line}
    (there : (start.run (traffic index later during earlier)).line? index = some line)
    (rests : line.isBusy = false) :
    (start.run (traffic index later during earlier)).status =
      line.standing (start.history (reported index) (traffic index later during earlier)) := by
  obtain ⟨-, own, found, begun, status⟩ := connection.heeds alone
  cases there.symm.trans found
  have flow := (Carries.run connection.empty index
    (traffic index later during earlier)).there line there
  have opened : start.isOpened index (traffic index later during earlier) = true := by
    rw [isOpened_append, isOpened, connection.succeeds]
    simp
  rw [opened] at flow
  obtain ⟨complete, ended⟩ := flow.settled rests
  rw [status, Line.standing]
  by_cases final : line.pump = .ended
  · rw [if_pos final, if_pos (ended.mp final)]
  · have open_ := mt ended.mpr final
    have harmless : beforeFinal (start.history (reported index)
        (traffic index later during earlier)) =
          start.history (reported index) (traffic index later during earlier) := by
      refine beforeFinal_of_forall fun report member => ?_
      rw [Bool.or_eq_true, not_or, Bool.not_eq_true, List.any_eq_false] at open_
      simpa using open_.1 report member
    rw [if_neg final, if_neg open_, complete, harmless]

end Connection

/-- A frame is queued unless the link is disconnected or the peer of the line in use takes no more
frames. -/
theorem emit_cases {link : Link} {index : Nat} {line : Line} (current : link.current = some index)
    (there : link.line? index = some line) (kind : String) (payload : Members) :
    (link.emit kind payload = .error .notConnected ↔ link.status = .disconnected) ∧
      (link.status ≠ .disconnected → line.accepting = true →
        ∃ sent, link.emit kind payload = .ok sent) := by
  rw [emit_eq current there]
  by_cases down : link.status = .disconnected
  · simp [down]
  · cases line.accepting <;> simp [down]

end Link

/-- Where frames can be queued, a submission fails only for its id. -/
theorem Desk.submit_failure {H W : Type} {desk : Desk H W} {s : Submission H} {failure : Failure}
    (sends : ∀ kind payload, ∃ sent, desk.link.emit kind payload = .ok sent)
    (failed : (desk.submit s).1 = some (.error failure)) :
    failure = .emptyCallbackId ∨ ∃ id, failure = .callbackInFlight id := by
  rcases submit_cases desk s with ⟨-, empty⟩ | ⟨ids, -, exhausted⟩ | ⟨id, ids, -, sent⟩
  · rw [empty] at failed
    cases failed
    exact .inl rfl
  · rw [exhausted] at failed
    cases failed
  · rw [sent, submitAs_eq] at failed
    split at failed
    · cases failed
      exact .inr ⟨_, rfl⟩
    · obtain ⟨link, success⟩ := sends "submit" (requestOf { desk with ids } s id).payload
      rw [success] at failed
      cases failed

namespace Link

/-- The status of a connection is the latest that any pump has set since somebody began to connect.
If no other line has set one, it is what the reports of the own line say once its pump has nothing
more to do; then sending fails for want of a connection exactly when the connection has ended. This
is the link at every stage that a run with this history of its link has come to. -/
theorem status_of_connection {start : Link} {index : Nat} {later during earlier : List Traffic}
    (connection : Connection start index later during earlier) :
    let traffic := Connection.traffic index later during earlier
    let signals := Connection.signals start index later during earlier
    let link := start.run traffic
    (∀ {H W : Type} {behave : Behaviour H W} {opening stage : Stage H W}
        {past : ConcurrentPast H W},
        ConcurrentRun behave opening past stage → opening.desk.link = start →
          trafficOf past = traffic → stage.desk.link = link) ∧
      link.status = latest .connecting signals ∧
      ((∀ signal ∈ signals, signal.1 = index) → ∃ line, link.line? index = some line ∧
        (line.isBusy = false →
          let standing := line.standing (start.history (reported index) traffic)
          link.status = standing ∧
            (∀ kind payload, link.emit kind payload = .error .notConnected ↔
              standing = .disconnected) ∧
            (standing ≠ .disconnected → line.accepting = true →
              (∀ kind payload, ∃ sent, link.emit kind payload = .ok sent) ∧
                ∀ {H W : Type} (desk : Desk H W) (s : Submission H) (failure : Failure),
                  desk.link = link → (desk.submit s).1 = some (.error failure) →
                    failure = .emptyCallbackId ∨ ∃ id, failure = .callbackInFlight id))) := by
  refine ⟨?_, connection.status, fun alone => ?_⟩
  · rintro H W behave opening stage past run rfl history
    exact history ▸ run.link
  have heeds := connection.heeds alone
  obtain ⟨line, there, -, -⟩ := heeds.status
  refine ⟨line, there, fun rests => ?_⟩
  have standing := connection.standing alone there rests
  refine ⟨standing, ?_, ?_⟩
  · intro kind payload
    rw [← standing]
    exact (emit_cases heeds.current there kind payload).1
  · intro up accepting
    rw [← standing] at up
    have sends := fun kind payload => (emit_cases heeds.current there kind payload).2 up accepting
    refine ⟨sends, ?_⟩
    intro H W desk s failure same failed
    exact Desk.submit_failure (same ▸ sends) failed

def firstConnected : List Traffic :=
  [.pump 0, .report 0 .connected, .opened (.ok 0), .lay false, .dial]

def firstGone : List Traffic := [.pump 0, .report 0 (.closed "gone")]

/-- The peer of the second connection is there, and its pump says so. -/
def secondConnected : List Traffic := [.pump 1, .report 1 .connected]

theorem status_of_connection_stale_pump : ∃ start later during earlier line,
    Connection start 1 later during earlier ∧
      let traffic := Connection.traffic 1 later during earlier
      let link := start.run traffic
      (∀ line ∈ link.lines, line.isBusy = false) ∧ link.line? 1 = some line ∧
        line.standing (start.history (reported 1) traffic) = .connected ∧
        link.status = .disconnected ∧ link.emit "ping" [] = .error .notConnected := by
  refine ⟨{ credentials := default }, firstGone ++ secondConnected, [.lay false], firstConnected,
    _, ?_, ?_, rfl, ?_, ?_, rfl⟩
  · exact ⟨rfl, by decide +kernel, by decide⟩
  all_goals decide +kernel

theorem status_of_connection_first_gone : ∃ start later during earlier,
    Connection start 1 later during earlier ∧
      let link := start.run (Connection.traffic 1 later during earlier)
      link.status = .connected ∧ ∃ sent, link.emit "ping" [] = .ok sent := by
  have connection : Connection { credentials := default } 1 secondConnected [.lay false]
      (firstGone ++ firstConnected) := ⟨rfl, by decide +kernel, by decide⟩
  refine ⟨_, _, _, _, connection, ?_⟩
  obtain ⟨-, -, alone⟩ := status_of_connection connection
  obtain ⟨line, there, own⟩ := alone (by decide +kernel)
  have facts : (Link.line? (({ credentials := default } : Link).run (Connection.traffic 1
      secondConnected [.lay false] (firstGone ++ firstConnected))) 1).all (fun line =>
        !line.isBusy && line.accepting && line.standing (history (reported 1)
          { credentials := default } (Connection.traffic 1 secondConnected [.lay false]
            (firstGone ++ firstConnected))) = .connected) = true := by
    decide +kernel
  rw [there, Option.all_some, Bool.and_eq_true, Bool.and_eq_true, decide_eq_true_eq] at facts
  obtain ⟨⟨rests, accepting⟩, connected⟩ := facts
  obtain ⟨status, -, sends⟩ := own (by simpa using rests)
  rw [connected] at status sends
  exact ⟨status, (sends (by decide) accepting).1 "ping" []⟩

/-! ## Attempts that fail -/

theorem conclude_of_isUnused {link : Link} {index : Nat} (unused : link.isUnused index = true) :
    ∃ line, link.line? index = some line ∧
      (link.conclude (.ok index)).1 =
        if link.status = .disconnected then .error .notConnected
        else if line.accepting then .ok ()
        else .error .stopped := by
  obtain ⟨line, there, -⟩ := isUnused_iff.mp unused
  exact ⟨line, there, conclude_fst there⟩

/-- An attempt that fails leaves the link disconnected unless the peer of the line that was opened
takes no frames. -/
theorem conclude_failed {link : Link} {outcome : Except String Nat} {failure : Failure}
    (unused : ∀ index, outcome = .ok index → link.isUnused index = true)
    (failed : (link.conclude outcome).1 = .error failure) :
    ((link.conclude outcome).2.status = .disconnected ↔ failure ≠ .stopped) ∧
      (failure = .stopped ↔ link.status ≠ .disconnected ∧
        ∃ index line, outcome = .ok index ∧ link.line? index = some line ∧
          line.accepting = false) := by
  cases outcome with
  | error reason =>
    cases failed
    simp [conclude, openFailed]
  | ok index =>
    obtain ⟨line, there, result⟩ := conclude_of_isUnused (unused index rfl)
    rw [failed] at result
    rw [conclude_status]
    by_cases down : link.status = .disconnected
    · rw [if_pos down] at result
      cases result
      simp [down]
    · rw [if_neg down] at result
      cases accepting : line.accepting with
      | true => simp [accepting] at result
      | false =>
        simp only [accepting, Bool.false_eq_true, if_false, Except.error.injEq] at result
        subst result
        simp [down, there, accepting]

end Link

/-- A desk connects through a dialer as its link does with the line or the reason that the dialer
has for it. -/
theorem Desk.connectThrough_eq {H W : Type} {desk : Desk H W} {dialer rest : Dialer} {link : Link}
    {outcome : Except String Nat} (tried : dialer.attempt desk.link = (outcome, rest, link)) :
    (desk.connectThrough dialer).1 = (link.dial.conclude outcome).1 ∧
      (desk.connectThrough dialer).2.2.link.status = (link.dial.conclude outcome).2.status := by
  have connected := opened_link ({ desk with link }.dial) outcome
  unfold connectThrough
  rw [tried]
  exact connected

/-- An attempt to connect that fails leaves the link disconnected, whatever has happened to the link
since it began, unless it fails because a line was opened whose peer takes no frames. When a desk
connects through a dialer nothing happens to the link meanwhile. -/
theorem connect_failed (link : Link) (during : List Traffic) {outcome : Except String Nat}
    {failure : Failure}
    (unused : ∀ index, outcome = .ok index → (link.dial.run during).isUnused index = true)
    (failed : ((link.dial.run during).conclude outcome).1 = .error failure) :
    (((link.dial.run during).conclude outcome).2.status = .disconnected ↔ failure ≠ .stopped) ∧
      (failure = .stopped ↔ (link.dial.run during).status ≠ .disconnected ∧
        ∃ index line, outcome = .ok index ∧ (link.dial.run during).line? index = some line ∧
          line.accepting = false) ∧
      (during = [] → ∀ {H W : Type} (desk : Desk H W) (dialer rest : Dialer),
        dialer.attempt desk.link = (outcome, rest, link) →
          (desk.connectThrough dialer).1 = .error failure ∧
            ((desk.connectThrough dialer).2.2.link.status = .disconnected ↔
              failure ≠ .stopped)) := by
  obtain ⟨status, stopped⟩ := Link.conclude_failed unused failed
  refine ⟨status, stopped, ?_⟩
  rintro rfl H W desk dialer rest tried
  obtain ⟨result, reached⟩ := Desk.connectThrough_eq tried
  rw [result, reached]
  exact ⟨failed, status⟩

def goneEarly : List (Move Unit) := [.lay true, .act (.peer none .drop), .work]

theorem connect_failed_still_connecting : ∃ past stage,
    SerialRun quiet (Stage.opening {} default ()) past stage ∧
      (stage.desk.connectThrough (.once (some 0))).1 = .error .stopped ∧
      (stage.desk.connectThrough (.once (some 0))).2.2.link.status = .connecting := by
  have reaches : ((Stage.follow quiet goneEarly ([], .opening {} default ())).map fun reached =>
      ((reached.2.desk.connectThrough (.once (some 0))).1,
        (reached.2.desk.connectThrough (.once (some 0))).2.2.link.status)) =
        some (.error .stopped, .connecting) := by
    decide +kernel
  obtain ⟨⟨past, stage⟩, reached, facts⟩ := Option.map_eq_some_iff.mp reaches
  simp only [Prod.mk.injEq] at facts
  exact ⟨past, stage, SerialRun.start.follow reached, facts⟩

/-- The pump of the first connection says that its peer has gone while somebody connects again. -/
theorem connect_failed_gone_meanwhile :
    let link := ({ credentials := default } : Link).run
      (.report 0 (.closed "gone") :: Link.firstConnected)
    ((link.dial.run [.pump 0, .lay false]).conclude (.ok 1)).1 = .error .notConnected ∧
      ((link.dial.run [.pump 0, .lay false]).conclude (.ok 1)).2.status = .disconnected := by
  intro link
  have failed : ((link.dial.run [.pump 0, .lay false]).conclude (.ok 1)).1 =
      .error .notConnected := by
    decide +kernel
  have unused : ∀ index, (Except.ok 1 : Except String Nat) = .ok index →
      (link.dial.run [.pump 0, .lay false]).isUnused index = true := by
    intro index same
    cases same
    decide +kernel
  exact ⟨failed, (connect_failed link _ unused failed).1.mpr (by decide)⟩

end PageSession.Exchange
