import PageSession.Proofs.Exchange.Flow

/-!
Traffic: everything that can happen to a link, whoever does it and in whatever order. Connecting
takes two steps, since a connector may take its time and others go on meanwhile. A history of
traffic is a list, the latest first. On each line the flow of reports is kept by all traffic.
-/
namespace PageSession.Exchange
open Json Message

/-- What can happen to a link. The lines are named by their numbers. -/
inductive Traffic where
  /-- The connector makes a line, to a peer in this process or elsewhere. -/
  | lay (inProcess : Bool)
  /-- Somebody begins to connect. -/
  | dial
  /-- What comes of it: a line on which nobody has connected yet, or why there is none. -/
  | opened (outcome : Except String Nat)
  | emit (kind : String) (payload : Members)
  | report (line : Nat) (report : Report)
  | pump (line : Nat)
  /-- The reader of a line takes its next frame. -/
  | take (line : Nat)
  /-- Nobody will read a line any more. -/
  | release (line : Nat)
  /-- The peer takes no more frames. -/
  | deafen (line : Nat)
  /-- The peer is gone. -/
  | drop (line : Nat)

def Traffic.isConnecting : Traffic → Bool
  | .dial | .opened _ => true
  | _ => false

namespace Link

/-! ## Changes of one line -/

def change (link : Link) (index : Nat) (f : Line → Line) : Link :=
  match link.line? index with
  | some line => link.setLine index (f line)
  | none => link

theorem change_eq {link : Link} {index : Nat} {line : Line} (there : link.line? index = some line)
    (f : Line → Line) : link.change index f = link.setLine index (f line) := by
  rw [change, there]

theorem line?_setLine (link : Link) (index other : Nat) (line : Line) :
    (link.setLine index line).line? other =
      if index = other then (link.line? other).map fun _ => line else link.line? other := by
  unfold line? setLine
  rw [List.getElem?_set]
  by_cases same : index = other
  · subst same
    by_cases there : index < link.lines.length
    · simp [there]
    · simp [there]
  · simp [same]

theorem line?_change (link : Link) (index other : Nat) (f : Line → Line) :
    (link.change index f).line? other =
      if index = other then (link.line? other).map f else link.line? other := by
  unfold change
  cases there : link.line? index with
  | none =>
    by_cases same : index = other
    · subst same
      simp [there]
    · simp [same]
  | some line =>
    simp only [line?_setLine]
    by_cases same : index = other
    · subst same
      simp [there]
    · simp [same]

theorem setLine_self {link : Link} {index : Nat} {line : Line}
    (there : link.line? index = some line) : link.setLine index line = link := by
  obtain ⟨bound, same⟩ := List.getElem?_eq_some_iff.mp there
  unfold setLine
  rw [← same, List.set_getElem_self]

@[simp] theorem change_status (link : Link) (index : Nat) (f : Line → Line) :
    (link.change index f).status = link.status := by
  unfold change
  split <;> rfl

@[simp] theorem change_current (link : Link) (index : Nat) (f : Line → Line) :
    (link.change index f).current = link.current := by
  unfold change
  split <;> rfl

/-! ## Traffic -/

def isUnused (link : Link) (index : Nat) : Bool :=
  (link.line? index).any fun line => line.pump = .waiting

theorem isUnused_iff {link : Link} {index : Nat} :
    link.isUnused index = true ↔ ∃ line, link.line? index = some line ∧ line.pump = .waiting := by
  unfold isUnused
  cases link.line? index <;> simp

def after (link : Link) : Traffic → Link
  | .lay inProcess =>
    { link with lines := link.lines ++ [if inProcess then .toProcess else {}] }
  | .dial => link.dial
  | .opened (.ok index) => if link.isUnused index then (link.conclude (.ok index)).2 else link
  | .opened (.error reason) => (link.conclude (.error reason)).2
  | .emit kind payload =>
    match link.emit kind payload with
    | .ok sent => sent
    | .error _ => link
  | .report index report => (link.report index report).2
  | .pump index => link.pumpLine index
  | .take index => link.change index fun line => { line with inbox := line.inbox.tail }
  | .release index => link.change index fun line => { line with inbox := [], held := false }
  | .deafen index => link.change index fun line => { line with accepting := false }
  | .drop index =>
    link.change index fun line => { line with accepting := false, reporting := false }

/-- The link after a history of traffic, the latest first. -/
def run (link : Link) : List Traffic → Link
  | [] => link
  | traffic :: earlier => (link.run earlier).after traffic

theorem run_append (link : Link) (later earlier : List Traffic) :
    link.run (later ++ earlier) = (link.run earlier).run later := by
  induction later with
  | nil => rfl
  | cons traffic later ih => exact congrArg (Link.after · traffic) ih

/-- What a history has brought about, in the order of events, where `brought` says what one piece of
traffic brings about. -/
def history {α : Type} (brought : Link → Traffic → List α) (link : Link) : List Traffic → List α
  | [] => []
  | traffic :: earlier => link.history brought earlier ++ brought (link.run earlier) traffic

theorem history_append {α : Type} (brought : Link → Traffic → List α) (link : Link)
    (later earlier : List Traffic) :
    link.history brought (later ++ earlier) =
      link.history brought earlier ++ (link.run earlier).history brought later := by
  induction later with
  | nil => simp [history]
  | cons traffic later ih =>
    simp only [List.cons_append, history, ih, run_append, List.append_assoc]

/-- The reports that a piece of traffic adds to a line. A peer in this process is connected from the
start. -/
def reported (index : Nat) (link : Link) : Traffic → List Report
  | .lay inProcess => if link.lines.length = index && inProcess then [.connected] else []
  | .report line report =>
    if line = index && (link.report line report).1 then [report] else []
  | _ => []

def passed (index : Nat) (link : Link) : Traffic → List Report
  | .pump line => if line = index then ((link.line? line).bind Line.passing?).toList else []
  | _ => []

def taken (index : Nat) (link : Link) : Traffic → List Incoming
  | .take line =>
    if line = index then ((link.line? line).bind fun line => line.inbox.head?).toList else []
  | _ => []

/-- The pump of a line starts, because an attempt to connect has succeeded. -/
def starts (index : Nat) (link : Link) : Traffic → Bool
  | .opened (.ok line) => line = index && link.isUnused line && (link.conclude (.ok line)).1.isOk
  | _ => false

/-- Where no piece of a history brings about anything, the history does not. -/
theorem history_eq_nil {α : Type} {brought : Link → Traffic → List α} {traffic : List Traffic}
    (nothing : ∀ piece ∈ traffic, ∀ link, brought link piece = []) (link : Link) :
    link.history brought traffic = [] := by
  induction traffic with
  | nil => rfl
  | cons piece earlier ih =>
    rw [List.forall_mem_cons] at nothing
    rw [history, ih nothing.2, nothing.1, List.append_nil]

def isOpened (index : Nat) (link : Link) : List Traffic → Bool
  | [] => false
  | traffic :: earlier =>
    link.isOpened index earlier || starts index (link.run earlier) traffic

theorem isOpened_append (index : Nat) (link : Link) (later earlier : List Traffic) :
    link.isOpened index (later ++ earlier) =
      (link.isOpened index earlier || (link.run earlier).isOpened index later) := by
  induction later with
  | nil => simp [isOpened]
  | cons piece later ih =>
    simp only [List.cons_append, isOpened, ih, run_append, Bool.or_assoc]

/-! ## What each piece of traffic does -/

theorem report_eq (link : Link) (index : Nat) (report : Report) :
    (link.report index report).2 = link.change index fun line => line.reported report := by
  unfold Link.report change
  cases there : link.line? index with
  | none => rfl
  | some line =>
    dsimp only [Line.reported]
    split
    · rfl
    · exact (setLine_self there).symm

theorem report_fst (link : Link) (index : Nat) (report : Report) :
    (link.report index report).1 =
      (link.line? index).any fun line => line.reporting && line.pump ≠ .ended := by
  unfold Link.report
  cases link.line? index with
  | none => rfl
  | some line =>
    simp only [Option.any_some]
    split <;> simp_all

/-- A turn of a pump moves its own line on, and may set the status. -/
theorem pumpLine_eq (link : Link) (index : Nat) :
    link.pumpLine index =
      { link.change index Line.pumped with
        status := ((link.line? index).bind Line.signal?).getD link.status } := by
  unfold pumpLine change
  cases there : link.line? index with
  | none => rfl
  | some line =>
    simp only [Option.bind_some, Line.pumped, Line.signal?]
    by_cases running : line.pump = .running
    · simp only [running, ne_eq, not_true_eq_false, if_false]
      cases queue : line.reports with
      | nil =>
        cases line.reporting with
        | true => exact (setLine_self there).symm ▸ rfl
        | false => rfl
      | cons report rest =>
        cases report <;> cases line.held <;> simp [Report.isFinal, Report.frame?, setLine]
    · simp only [ne_eq, running, not_false_eq_true, if_true, Option.getD_none]
      rw [setLine_self there]

/-- A frame that can be queued goes out on the line in use. -/
theorem emit_ok {link sent : Link} {kind : String} {payload : Members}
    (success : link.emit kind payload = .ok sent) :
    link.status ≠ .disconnected ∧ ∃ index line, link.current = some index ∧
      link.line? index = some line ∧ line.accepting = true ∧
      sent = link.change index fun line =>
        { line with outbox := line.outbox ++ [{ kind, payload := link.tagged payload }] } := by
  unfold Link.emit at success
  split at success
  · cases success
  · rename_i up
    split at success
    · cases success
    · rename_i index line used
      obtain ⟨other, current, found⟩ := Option.bind_eq_some_iff.mp used
      obtain ⟨there, present, same⟩ := Option.map_eq_some_iff.mp found
      cases same
      split at success
      · rename_i accepting
        cases success
        refine ⟨up, index, line, current, present, accepting, ?_⟩
        unfold change
        rw [present]
      · cases success

/-- A frame can be queued unless the link is disconnected or the peer takes no more frames. -/
theorem emit_eq {link : Link} {index : Nat} {line : Line} (current : link.current = some index)
    (there : link.line? index = some line) (kind : String) (payload : Members) :
    link.emit kind payload =
      if link.status = .disconnected then .error .notConnected
      else if line.accepting then
        .ok (link.change index fun line =>
          { line with outbox := line.outbox ++ [{ kind, payload := link.tagged payload }] })
      else .error .stopped := by
  unfold Link.emit change
  rw [current, Option.bind_some, there, Option.map_some]
  cases link.status <;> rfl

/-- An attempt that has come to a line begins with the join, and its pump starts if that can be
queued. -/
theorem conclude_eq (link : Link) (index : Nat) :
    link.conclude (.ok index) =
      match ({ link with current := some index } : Link).emit "join" [] with
      | .ok sent => (.ok (), sent.change index ({ · with pump := .running }))
      | .error failure =>
        (.error failure,
          ({ link with current := some index } : Link).change index
            ({ · with pump := .ended })) := by
  simp only [conclude, opened]
  cases ({ link with current := some index } : Link).emit "join" [] <;> rfl

/-- The attempt succeeds unless the link is disconnected or the peer takes no more frames. -/
theorem conclude_fst {link : Link} {index : Nat} {line : Line}
    (there : link.line? index = some line) :
    (link.conclude (.ok index)).1 =
      if link.status = .disconnected then .error .notConnected
      else if line.accepting then .ok ()
      else .error .stopped := by
  have present : ({ link with current := some index } : Link).line? index = some line := there
  rw [conclude_eq, emit_eq rfl present]
  by_cases down : link.status = .disconnected
  · simp only [down, if_true]
  · cases line.accepting <;> simp only [down, Bool.false_eq_true, if_false, if_true]

theorem conclude_status (link : Link) (index : Nat) :
    (link.conclude (.ok index)).2.status = link.status := by
  rw [conclude_eq]
  split
  · rename_i sent success
    obtain ⟨-, other, line, -, -, -, rfl⟩ := emit_ok success
    rw [change_status, change_status]
  · rw [change_status]

theorem conclude_current (link : Link) (index : Nat) :
    (link.conclude (.ok index)).2.current = some index := by
  rw [conclude_eq]
  split
  · rename_i sent success
    obtain ⟨-, other, line, -, -, -, rfl⟩ := emit_ok success
    rw [change_current, change_current]
  · rw [change_current]

/-- Only its own line is touched. -/
theorem line?_conclude (link : Link) (index other : Nat) :
    (link.conclude (.ok index)).2.line? other =
      if index = other then (link.line? other).map fun line =>
        if (link.conclude (.ok index)).1.isOk then
          { line with
            outbox := line.outbox ++ [{ kind := "join", payload := link.tagged [] }]
            pump := .running }
        else { line with pump := .ended }
      else link.line? other := by
  rw [conclude_eq]
  split
  · rename_i sent success
    obtain ⟨-, used, line, current, -, -, rfl⟩ := emit_ok success
    cases current
    rw [line?_change, line?_change]
    by_cases same : index = other
    · simp only [same, if_true, Option.map_map]
      rfl
    · simp only [same, if_false]
      rfl
  · rw [line?_change]
    rfl

/-- What a piece of traffic leaves of a line. -/
structure Keeps (piece : Traffic) (index : Nat) (line next : Line) : Prop where
  held : piece ≠ .release index → next.held = line.held
  ended : line.pump = .ended → next.pump = .ended
  pump : piece.isConnecting = false → piece ≠ .pump index → next.pump = line.pump
  waiting : next.pump = .waiting → line.pump = .waiting
  deaf : line.accepting = false → next.accepting = false

theorem Keeps.refl (piece : Traffic) (index : Nat) (line : Line) : Keeps piece index line line :=
  ⟨fun _ => rfl, id, fun _ _ => rfl, id, id⟩

theorem keeps_change {link : Link} {piece : Traffic} {index : Nat} {line : Line}
    (there : link.line? index = some line) (other : Nat) {f : Line → Line}
    (kept : other = index → Keeps piece index line (f line)) :
    ∃ next, (link.change other f).line? index = some next ∧ Keeps piece index line next := by
  rw [line?_change, there]
  by_cases same : other = index
  · exact ⟨f line, by rw [if_pos same]; rfl, kept same⟩
  · exact ⟨line, by rw [if_neg same], .refl piece index line⟩

theorem reported_pump (line : Line) (report : Report) :
    (line.reported report).pump = line.pump ∧ (line.reported report).held = line.held ∧
      (line.reported report).accepting = line.accepting := by
  unfold Line.reported
  split <;> exact ⟨rfl, rfl, rfl⟩

theorem pumped_held (line : Line) :
    line.pumped.held = line.held ∧ line.pumped.accepting = line.accepting ∧
      (line.pump = .ended → line.pumped.pump = .ended) ∧
      (line.pumped.pump = .waiting → line.pump = .waiting) := by
  unfold Line.pumped
  repeat' split
  all_goals simp_all

/-- A line stays, whatever happens. -/
theorem keeps_after {link : Link} {index : Nat} {line : Line} (there : link.line? index = some line)
    (piece : Traffic) :
    ∃ next, (link.after piece).line? index = some next ∧ Keeps piece index line next := by
  cases piece with
  | lay inProcess =>
    obtain ⟨bound, -⟩ := List.getElem?_eq_some_iff.mp there
    refine ⟨line, ?_, .refl _ index line⟩
    show (link.lines ++ _)[index]? = _
    rw [List.getElem?_append_left bound]
    exact there
  | dial => exact ⟨line, there, .refl _ index line⟩
  | opened outcome =>
    cases outcome with
    | error reason => exact ⟨line, there, .refl _ index line⟩
    | ok other =>
      simp only [after]
      cases unused : link.isUnused other with
      | false => exact ⟨line, there, .refl _ index line⟩
      | true =>
        rw [if_pos rfl, line?_conclude, there]
        by_cases same : other = index
        · rw [if_pos same, Option.map_some]
          obtain ⟨own, found, waiting⟩ := isUnused_iff.mp unused
          rw [same] at found
          cases there.symm.trans found
          refine ⟨_, rfl, ?_, fun ended => ?_, nofun, fun _ => waiting, ?_⟩
          · intro _
            split <;> rfl
          · cases waiting.symm.trans ended
          · intro deaf
            split <;> exact deaf
        · exact ⟨line, by rw [if_neg same], .refl _ index line⟩
  | emit kind payload =>
    simp only [after]
    split
    · rename_i sent success
      obtain ⟨-, other, -, -, -, -, rfl⟩ := emit_ok success
      exact keeps_change there other fun _ => ⟨fun _ => rfl, id, fun _ _ => rfl, id, id⟩
    · exact ⟨line, there, .refl _ index line⟩
  | report other report =>
    rw [after, report_eq]
    have same := reported_pump line report
    exact keeps_change there other fun _ =>
      ⟨fun _ => same.2.1, fun ended => same.1.trans ended, fun _ _ => same.1,
        fun waiting => same.1.symm.trans waiting, fun deaf => same.2.2.trans deaf⟩
  | pump other =>
    rw [after, pumpLine_eq]
    have same := pumped_held line
    exact keeps_change there other fun own =>
      ⟨fun _ => same.1, same.2.2.1, fun _ others => absurd (own ▸ rfl) others, same.2.2.2,
        fun deaf => same.2.1.trans deaf⟩
  | release other =>
    exact keeps_change there other fun own =>
      ⟨fun others => absurd (own ▸ rfl) others, id, fun _ _ => rfl, id, id⟩
  | take other =>
    exact keeps_change there other fun _ => ⟨fun _ => rfl, id, fun _ _ => rfl, id, id⟩
  | deafen other | drop other =>
    exact keeps_change there other fun _ => ⟨fun _ => rfl, id, fun _ _ => rfl, id, fun _ => rfl⟩

/-- A line is laid behind all others. -/
theorem line?_lay (link : Link) (inProcess : Bool) (index : Nat) :
    (link.after (.lay inProcess)).line? index =
      if link.lines.length = index then some (if inProcess then .toProcess else {})
      else link.line? index := by
  simp only [after, line?, List.getElem?_append, List.getElem?_singleton]
  by_cases last : link.lines.length = index
  · simp [last]
  · by_cases earlier : index < link.lines.length
    · simp [last, earlier]
    · have beyond : index - link.lines.length ≠ 0 := by omega
      simp [last, earlier, beyond]

/-- A line that was not there has just been laid. -/
theorem line_of_after {link : Link} {index : Nat} {piece : Traffic} {line : Line}
    (missing : link.line? index = none) (there : (link.after piece).line? index = some line) :
    ∃ inProcess : Bool, line = if inProcess then .toProcess else {} := by
  have unchanged : ∀ other f, (link.change other f).line? index ≠ some line := by
    intro other f
    rw [line?_change, missing]
    split <;> simp
  cases piece with
  | lay inProcess =>
    rw [line?_lay] at there
    split at there
    · exact ⟨inProcess, (Option.some.inj there).symm⟩
    · cases missing.symm.trans there
  | dial => cases missing.symm.trans there
  | opened outcome =>
    cases outcome with
    | error reason => cases missing.symm.trans there
    | ok other =>
      simp only [after] at there
      split at there
      · rw [line?_conclude, missing] at there
        split at there <;> cases there
      · cases missing.symm.trans there
  | emit kind payload =>
    simp only [after] at there
    split at there
    · rename_i sent success
      obtain ⟨-, other, -, -, -, -, rfl⟩ := emit_ok success
      exact absurd there (unchanged _ _)
    · cases missing.symm.trans there
  | report other report =>
    rw [after, report_eq] at there
    exact absurd there (unchanged _ _)
  | pump other =>
    rw [after, pumpLine_eq] at there
    exact absurd there (unchanged other Line.pumped)
  | take other | release other | deafen other | drop other => exact absurd there (unchanged _ _)

/-- Frames are kept for a reader until the line is released. -/
theorem held_run {link : Link} {index : Nat} {traffic : List Traffic}
    (kept : .release index ∉ traffic)
    (held : ∀ line, link.line? index = some line → line.held = true) (line : Line)
    (there : (link.run traffic).line? index = some line) : line.held = true := by
  induction traffic generalizing line with
  | nil => exact held line there
  | cons piece earlier ih =>
    rw [List.mem_cons, not_or] at kept
    cases before : (link.run earlier).line? index with
    | none =>
      obtain ⟨inProcess, rfl⟩ := line_of_after before there
      cases inProcess <;> rfl
    | some old =>
      obtain ⟨next, found, keeps⟩ := keeps_after before piece
      cases found.symm.trans there
      rw [keeps.held (Ne.symm kept.1)]
      exact ih kept.2 old before

/-- A pump that has ended does not start again. -/
theorem ended_run {link : Link} {index : Nat} {line : Line} (there : link.line? index = some line)
    (ended : line.pump = .ended) (traffic : List Traffic) :
    ∃ next, (link.run traffic).line? index = some next ∧ next.pump = .ended := by
  induction traffic with
  | nil => exact ⟨line, there, ended⟩
  | cons piece earlier ih =>
    obtain ⟨old, before, finished⟩ := ih
    obtain ⟨next, found, keeps⟩ := keeps_after before piece
    exact ⟨next, found, keeps.ended finished⟩

/-- It passes nothing more. -/
theorem passed_of_ended {link : Link} {index : Nat} {line : Line}
    (there : link.line? index = some line) (ended : line.pump = .ended) (traffic : List Traffic) :
    link.history (passed index) traffic = [] := by
  induction traffic with
  | nil => rfl
  | cons piece earlier ih =>
    obtain ⟨old, before, finished⟩ := ended_run there ended earlier
    rw [history, ih, List.nil_append]
    cases piece with
    | pump other =>
      by_cases same : other = index
      · subst same
        simp [passed, before, Line.passing?, finished]
      · simp [passed, same]
    | _ => rfl

/-! ## Flow on a link -/

/-- The flow of reports on a line of a link. Where there is no line nothing has happened. -/
structure Carries (link : Link) (index : Nat) (reports passed : List Report)
    (taken : List Incoming) (started : Bool) : Prop where
  there : ∀ line, link.line? index = some line → line.Flow reports passed taken started
  absent : link.line? index = none →
    reports = [] ∧ passed = [] ∧ taken = [] ∧ started = false

namespace Carries
variable {link next : Link} {index : Nat} {reports passed reports' passed' : List Report}
  {taken taken' : List Incoming} {started started' : Bool}

/-- A line that is carried on. -/
theorem map (carries : link.Carries index reports passed taken started) {f : Line → Line}
    (moved : next.line? index = (link.line? index).map f)
    (there : ∀ line, link.line? index = some line → line.Flow reports passed taken started →
      (f line).Flow reports' passed' taken' started')
    (absent : link.line? index = none →
      reports' = reports ∧ passed' = passed ∧ taken' = taken ∧ started' = started) :
    next.Carries index reports' passed' taken' started' := by
  constructor
  · intro line found
    rw [moved] at found
    obtain ⟨earlier, before, rfl⟩ := Option.map_eq_some_iff.mp found
    exact there earlier before (carries.there earlier before)
  · intro missing
    rw [moved, Option.map_eq_none_iff] at missing
    obtain ⟨rfl, rfl, rfl, rfl⟩ := absent missing
    exact carries.absent missing

/-- A line that is left alone. -/
theorem same (carries : link.Carries index reports passed taken started)
    (kept : next.line? index = link.line? index) :
    next.Carries index reports passed taken started := by
  constructor <;> rw [kept]
  · exact carries.there
  · exact carries.absent

/-- A change of a line that is no matter of its reports. -/
theorem change_aside (carries : link.Carries index reports passed taken started) (line : Nat)
    {f : Line → Line} (aside : ∀ line : Line, (f line).reports = line.reports ∧
      (f line).pump = line.pump ∧ ((f line).reporting = true → line.reporting = true) ∧
      (f line).inbox = line.inbox ∧ (f line).held = line.held) :
    (link.change line f).Carries index reports passed taken started := by
  by_cases this : line = index
  · refine carries.map (f := f) (by rw [line?_change, if_pos this]) ?_ fun _ => ⟨rfl, rfl, rfl, rfl⟩
    intro line _ flow
    obtain ⟨sameReports, samePump, fewer, sameInbox, sameHeld⟩ := aside line
    exact flow.of_same sameReports samePump fewer sameInbox sameHeld
  · exact carries.same (by rw [line?_change, if_neg this])

theorem lay (carries : link.Carries index reports passed taken started) (inProcess : Bool) :
    (link.after (.lay inProcess)).Carries index (reports ++ reported index link (.lay inProcess))
      passed taken started := by
  have found := line?_lay link inProcess index
  by_cases last : link.lines.length = index
  · rw [if_pos last] at found
    obtain ⟨rfl, rfl, rfl, rfl⟩ := carries.absent (by simp [line?, ← last])
    constructor
    · intro line there
      cases found.symm.trans there
      simpa [reported, last] using Line.Flow.fresh inProcess
    · intro missing
      cases found.symm.trans missing
  · rw [if_neg last] at found
    simpa [reported, last] using carries.same found

/-- An attempt to connect starts the pump of its line, or gives the line up. -/
theorem opened (carries : link.Carries index reports passed taken started) (line : Nat) :
    (link.after (.opened (.ok line))).Carries index reports passed taken
      (started || starts index link (.opened (.ok line))) := by
  simp only [Link.after, starts]
  cases unused : link.isUnused line with
  | false => simpa using carries
  | true =>
    have moved := line?_conclude link line index
    by_cases this : line = index
    · subst this
      rw [if_pos rfl] at moved
      refine carries.map moved ?_ ?_
      · intro l there flow
        have waiting : l.pump = .waiting := by simpa [isUnused, there] using unused
        cases joined : (link.conclude (.ok line)).1.isOk with
        | true =>
          simp only [decide_true, Bool.and_true, Bool.or_true, if_true]
          exact (flow.start waiting).of_same rfl rfl id rfl rfl
        | false =>
          simp only [Bool.and_false, Bool.or_false, Bool.false_eq_true, if_false]
          exact flow.giveUp waiting
      · intro missing
        simp [isUnused, missing] at unused
    · rw [if_neg this] at moved
      simpa [this] using carries.same moved

/-- All traffic keeps the flow on every line. -/
theorem after (carries : link.Carries index reports passed taken started) (traffic : Traffic) :
    (link.after traffic).Carries index (reports ++ reported index link traffic)
      (passed ++ Link.passed index link traffic) (taken ++ Link.taken index link traffic)
      (started || starts index link traffic) := by
  cases traffic with
  | lay inProcess =>
    simp only [Link.passed, Link.taken, starts, List.append_nil, Bool.or_false]
    exact carries.lay inProcess
  | dial =>
    simp only [reported, Link.passed, Link.taken, starts, List.append_nil, Bool.or_false]
    exact carries.same rfl
  | opened outcome =>
    cases outcome with
    | error reason =>
      simp only [reported, Link.passed, Link.taken, starts, List.append_nil, Bool.or_false]
      exact carries.same rfl
    | ok line =>
      simp only [reported, Link.passed, Link.taken, List.append_nil]
      exact carries.opened line
  | emit kind payload =>
    simp only [reported, Link.passed, Link.taken, starts, List.append_nil, Bool.or_false,
      Link.after]
    split
    · rename_i sent success
      obtain ⟨-, line, there, -, -, -, rfl⟩ := emit_ok success
      exact carries.change_aside line fun _ => ⟨rfl, rfl, id, rfl, rfl⟩
    · exact carries
  | report line report =>
    simp only [reported, Link.passed, Link.taken, starts, List.append_nil, Bool.or_false,
      Link.after, report_eq, report_fst]
    by_cases this : line = index
    · subst this
      refine carries.map (f := (·.reported report)) (by rw [line?_change, if_pos rfl]) ?_ ?_
      · intro l there flow
        simpa [there] using flow.report report
      · intro missing
        simp [missing]
    · simp only [this, decide_false, Bool.false_and, Bool.false_eq_true, if_false, List.append_nil]
      exact carries.same (by rw [line?_change, if_neg this])
  | pump line =>
    simp only [reported, Link.passed, Link.taken, starts, List.append_nil, Bool.or_false,
      Link.after, pumpLine_eq]
    by_cases this : line = index
    · subst this
      refine carries.map (f := Line.pumped)
        ((line?_change link line line Line.pumped).trans (if_pos rfl)) ?_ ?_
      · intro l there flow
        simpa [there] using flow.pump
      · intro missing
        simp [missing]
    · simp only [this, if_false, List.append_nil]
      exact carries.same ((line?_change link line index Line.pumped).trans (if_neg this))
  | take line =>
    simp only [reported, Link.passed, Link.taken, starts, List.append_nil, Bool.or_false,
      Link.after]
    by_cases this : line = index
    · subst this
      refine carries.map (by rw [line?_change, if_pos rfl]) ?_ ?_
      · intro l there flow
        simpa [there] using flow.take
      · intro missing
        simp [missing]
    · simp only [this, if_false, List.append_nil]
      exact carries.same (by rw [line?_change, if_neg this])
  | release line =>
    simp only [reported, Link.passed, Link.taken, starts, List.append_nil, Bool.or_false,
      Link.after]
    by_cases this : line = index
    · refine carries.map (by rw [line?_change, if_pos this]) ?_ fun _ => ⟨rfl, rfl, rfl, rfl⟩
      exact fun l _ flow => flow.release
    · exact carries.same (by rw [line?_change, if_neg this])
  | deafen line =>
    simp only [reported, Link.passed, Link.taken, starts, List.append_nil, Bool.or_false,
      Link.after]
    exact carries.change_aside line fun _ => ⟨rfl, rfl, id, rfl, rfl⟩
  | drop line =>
    simp only [reported, Link.passed, Link.taken, starts, List.append_nil, Bool.or_false,
      Link.after]
    exact carries.change_aside line fun _ => ⟨rfl, rfl, by simp, rfl, rfl⟩

/-- A history of traffic carries the flow on. -/
theorem onward (carries : link.Carries index reports passed taken started)
    (traffic : List Traffic) :
    (link.run traffic).Carries index (reports ++ link.history (reported index) traffic)
      (passed ++ link.history (Link.passed index) traffic)
      (taken ++ link.history (Link.taken index) traffic)
      (started || link.isOpened index traffic) := by
  induction traffic with
  | nil => simpa [history, isOpened, Link.run] using carries
  | cons piece earlier ih =>
    have step := ih.after piece
    simpa only [history, isOpened, Link.run, List.append_assoc, Bool.or_assoc] using step

/-- On a link without lines nothing has happened yet. -/
theorem empty {start : Link} (empty : start.lines = []) (index : Nat) :
    start.Carries index [] [] [] false := by
  have missing : start.line? index = none := by simp [line?, empty]
  constructor
  · intro line there
    cases missing.symm.trans there
  · exact fun _ => ⟨rfl, rfl, rfl, rfl⟩

/-- The flow on a line of a link that began without lines. -/
theorem run {start : Link} (empty : start.lines = []) (index : Nat) (traffic : List Traffic) :
    (start.run traffic).Carries index (start.history (reported index) traffic)
      (start.history (Link.passed index) traffic) (start.history (Link.taken index) traffic)
      (start.isOpened index traffic) := by
  simpa using (Carries.empty empty index).onward traffic

end Carries
end Link
end PageSession.Exchange
