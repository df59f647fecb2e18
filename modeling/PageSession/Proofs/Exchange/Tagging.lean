import PageSession.Proofs.Exchange.ConcurrentRun
import PageSession.Proofs.Exchange.Submissions
import PageSession.Proofs.Message.Payloads

/-!
Tags of what is sent. Every frame on a line names a room, and where an attempt to connect succeeds
the first one joins the room of the session. A request carries the credentials of the session beside
its data, one level above it, so that no name that the data uses can take the place of a room, of
the caller or of the callback.
-/
namespace PageSession.Exchange
open Json Message

def joinFrame (credentials : Credentials) : Outgoing :=
  { kind := "join", payload := [("room", .text credentials.room)] }

namespace Link

/-! ## What is queued -/

/-- The frames on a line, in the order in which they were queued. -/
def outbox (link : Link) (index : Nat) : List Outgoing :=
  ((link.line? index).map Line.outbox).getD []

def queued (index : Nat) (link : Link) : Traffic → List Outgoing
  | .emit kind payload =>
    if link.current = some index ∧ (link.emit kind payload).isOk then
      [{ kind, payload := link.tagged payload }]
    else []
  | .opened (.ok line) =>
    if starts index link (.opened (.ok line)) then [joinFrame link.credentials] else []
  | _ => []

theorem outbox_change {link : Link} {f : Line → Line} (kept : ∀ line, (f line).outbox = line.outbox)
    (other index : Nat) : (link.change other f).outbox index = link.outbox index := by
  rw [outbox, line?_change, outbox]
  cases link.line? index with
  | none => split <;> rfl
  | some line =>
    split
    · exact kept line
    · rfl

theorem pumped_outbox (line : Line) : line.pumped.outbox = line.outbox := by
  unfold Line.pumped
  repeat' split
  all_goals rfl

theorem reported_outbox (line : Line) (report : Report) :
    (line.reported report).outbox = line.outbox := by
  unfold Line.reported
  split <;> rfl

/-- Frames are only ever added behind the others. -/
theorem outbox_after (link : Link) (piece : Traffic) (index : Nat) :
    (link.after piece).outbox index = link.outbox index ++ queued index link piece := by
  have nothing : ∀ {f : Line → Line}, (∀ line, (f line).outbox = line.outbox) → ∀ other,
      (link.change other f).outbox index = link.outbox index ++ [] := by
    intro f kept other
    rw [outbox_change kept, List.append_nil]
  cases piece with
  | lay inProcess =>
    refine Eq.trans ?_ (List.append_nil _).symm
    rw [outbox, line?_lay, outbox]
    split
    · rename_i last
      have missing : link.line? index = none := List.getElem?_eq_none (Nat.le_of_eq last)
      rw [missing]
      cases inProcess <;> rfl
    · rfl
  | dial => exact (List.append_nil _).symm
  | emit kind payload =>
    rw [after, queued]
    cases emitted : link.emit kind payload with
    | error failure => simp [Except.isOk, Except.toBool]
    | ok sent =>
      obtain ⟨-, other, line, current, there, -, rfl⟩ := emit_ok emitted
      rw [outbox, line?_change, outbox]
      by_cases same : other = index
      · subst same
        simp [current, there, Except.isOk, Except.toBool]
      · simp [current, same]
  | opened outcome =>
    cases outcome with
    | error reason => exact (List.append_nil _).symm
    | ok other =>
      rw [after, queued, starts]
      cases unused : link.isUnused other with
      | false => simp
      | true =>
        rw [if_pos rfl, outbox, line?_conclude, outbox]
        by_cases same : other = index
        · subst same
          obtain ⟨line, there, -⟩ := isUnused_iff.mp unused
          cases success : (link.conclude (.ok other)).1.isOk with
          | false => simp [there]
          | true => simp [there, tagged, Members.setDefault, Members.get?, Members.set, joinFrame]
        · simp [same]
  | report other report =>
    rw [after, report_eq]
    exact nothing (reported_outbox · report) other
  | pump other =>
    rw [after, pumpLine_eq]
    exact nothing pumped_outbox other
  | take other =>
    exact nothing (f := fun line => { line with inbox := line.inbox.tail }) (fun _ => rfl) other
  | release other =>
    exact nothing (f := fun line => { line with inbox := [], held := false }) (fun _ => rfl) other
  | deafen other =>
    exact nothing (f := fun line => { line with accepting := false }) (fun _ => rfl) other
  | drop other =>
    exact nothing (f := fun line => { line with accepting := false, reporting := false })
      (fun _ => rfl) other

theorem credentials_change (link : Link) (index : Nat) (f : Line → Line) :
    (link.change index f).credentials = link.credentials := by
  unfold change
  split <;> rfl

theorem credentials_after (link : Link) (piece : Traffic) :
    (link.after piece).credentials = link.credentials := by
  cases piece with
  | lay | dial => rfl
  | emit kind payload =>
    rw [after]
    split
    · rename_i sent success
      obtain ⟨-, other, line, -, -, -, rfl⟩ := emit_ok success
      exact credentials_change ..
    · rfl
  | opened outcome =>
    cases outcome with
    | error reason => rfl
    | ok other =>
      rw [after]
      split
      · rw [conclude_eq]
        split
        · rename_i sent success
          obtain ⟨-, index, line, -, -, -, rfl⟩ := emit_ok success
          rw [credentials_change, credentials_change]
        · exact credentials_change ..
      · rfl
  | report other report =>
    rw [after, report_eq]
    exact credentials_change ..
  | pump other =>
    rw [after, pumpLine_eq]
    exact credentials_change ..
  | take | release | deafen | drop => exact credentials_change ..

theorem credentials_run (link : Link) (traffic : List Traffic) :
    (link.run traffic).credentials = link.credentials := by
  induction traffic with
  | nil => rfl
  | cons piece earlier ih => exact (credentials_after _ piece).trans ih

/-! ## Rooms -/

/-- A member that has been set is found under its name. -/
theorem get?_set (members : Members) (name : String) (value : Value) :
    Members.get? (members.set name value) name = some value := by
  induction members with
  | nil => simp [Members.set, Members.get?]
  | cons member members ih =>
    obtain ⟨other, old⟩ := member
    rw [Members.set]
    split
    · simp [Members.get?]
    · split
      · rename_i same
        simp [Members.get?, same]
      · rename_i other
        have different : ¬ (_ == name) = true := fun same => other (eq_of_beq same).symm
        simpa [Members.get?, different] using ih

/-- Whatever is sent names a room. -/
theorem tagged_room (link : Link) (payload : Members) :
    (Members.get? (link.tagged payload) "room").isSome = true := by
  unfold tagged Members.setDefault
  split
  · assumption
  · rw [get?_set]
    rfl

theorem queued_room {index : Nat} {link : Link} {piece : Traffic} {frame : Outgoing}
    (inside : frame ∈ queued index link piece) : (frame.payload.get? "room").isSome = true := by
  unfold queued at inside
  split at inside
  · split at inside
    · rw [List.mem_singleton.mp inside]
      exact tagged_room ..
    · simp at inside
  · split at inside
    · rw [List.mem_singleton.mp inside]
      rfl
    · simp at inside
  · simp at inside

/-! ## The first frame -/

/-- What holds of a link whatever has happened to it: nothing has been queued on a line on which
nobody has connected, and such a line is not in use. -/
structure IsFresh (link : Link) : Prop where
  empty : ∀ index, link.isUnused index = true → link.outbox index = []
  current : ∀ index, link.current = some index →
    ∃ line, link.line? index = some line ∧ line.pump ≠ .waiting

/-- A line that nobody has connected on was so before, or was not there. -/
theorem unused_of_after {link : Link} {piece : Traffic} {index : Nat}
    (unused : (link.after piece).isUnused index = true) :
    link.isUnused index = true ∨ link.line? index = none := by
  cases before : link.line? index with
  | none => exact .inr rfl
  | some line =>
    obtain ⟨next, found, keeps⟩ := keeps_after before piece
    obtain ⟨own, there, waiting⟩ := isUnused_iff.mp unused
    cases found.symm.trans there
    exact .inl (isUnused_iff.mpr ⟨line, before, keeps.waiting waiting⟩)

/-- What is in use changes only by an attempt to connect. -/
theorem current_of_after {link : Link} {piece : Traffic} {index : Nat}
    (current : (link.after piece).current = some index) :
    link.current = some index ∨ piece = .opened (.ok index) ∧ link.isUnused index = true := by
  cases piece with
  | lay | dial => exact .inl current
  | emit kind payload =>
    rw [after] at current
    split at current
    · rename_i sent success
      obtain ⟨-, other, line, -, -, -, rfl⟩ := emit_ok success
      exact .inl ((change_current ..).symm.trans current)
    · exact .inl current
  | opened outcome =>
    cases outcome with
    | error reason => exact .inl current
    | ok other =>
      rw [after] at current
      split at current
      · rename_i unused
        rw [conclude_current] at current
        cases current
        exact .inr ⟨rfl, unused⟩
      · exact .inl current
  | report other report =>
    rw [after, report_eq, change_current] at current
    exact .inl current
  | pump other =>
    rw [after, pumpLine_eq] at current
    exact .inl ((change_current ..).symm.trans current)
  | take | release | deafen | drop => exact .inl ((change_current ..).symm.trans current)

/-- The line of an attempt to connect is not unused any more. -/
theorem conclude_pump {link : Link} {index : Nat} {line : Line}
    (there : link.line? index = some line) :
    ∃ next, (link.conclude (.ok index)).2.line? index = some next ∧ next.pump ≠ .waiting := by
  rw [line?_conclude, if_pos rfl, there]
  refine ⟨_, rfl, ?_⟩
  split <;> simp

theorem IsFresh.after {link : Link} (fresh : link.IsFresh) (piece : Traffic) :
    (link.after piece).IsFresh where
  empty := by
    intro index unused
    have missing : link.line? index = none → link.outbox index = [] := fun none => by
      rw [outbox, none]
      rfl
    have before : link.outbox index = [] :=
      (unused_of_after unused).elim (fresh.empty index) missing
    have nobody : queued index link piece = [] := by
      unfold queued
      split
      · rename_i kind payload
        rw [if_neg]
        rintro ⟨current, -⟩
        obtain ⟨line, there, busy⟩ := fresh.current index current
        obtain ⟨next, found, keeps⟩ := keeps_after there (.emit kind payload)
        obtain ⟨own, same, waiting⟩ := isUnused_iff.mp unused
        cases found.symm.trans same
        exact busy (keeps.waiting waiting)
      · rename_i other
        rw [if_neg]
        intro started
        simp only [starts, Bool.and_eq_true, decide_eq_true_eq] at started
        obtain ⟨⟨rfl, free⟩, -⟩ := started
        obtain ⟨line, there, -⟩ := isUnused_iff.mp free
        obtain ⟨next, found, busy⟩ := conclude_pump there
        rw [Link.after, if_pos free] at unused
        obtain ⟨own, same, waiting⟩ := isUnused_iff.mp unused
        cases found.symm.trans same
        exact busy waiting
      · rfl
    rw [outbox_after, before, nobody]
    rfl
  current := by
    intro index current
    rcases current_of_after current with earlier | ⟨rfl, free⟩
    · obtain ⟨line, there, busy⟩ := fresh.current index earlier
      obtain ⟨next, found, keeps⟩ := keeps_after there piece
      exact ⟨next, found, fun waiting => busy (keeps.waiting waiting)⟩
    · obtain ⟨line, there, -⟩ := isUnused_iff.mp free
      rw [Link.after, if_pos free]
      exact conclude_pump there

theorem isFresh_run (credentials : Credentials) (traffic : List Traffic) :
    (({ credentials } : Link).run traffic).IsFresh := by
  induction traffic with
  | nil =>
    refine ⟨fun index unused => ?_, fun index current => ?_⟩
    · rfl
    · cases current
  | cons piece earlier ih => exact ih.after piece

section
variable {credentials : Credentials} {traffic : List Traffic} {index : Nat}

/-- Every frame on a line names a room. -/
theorem rooms_of_run {frame : Outgoing}
    (inside : frame ∈ (({ credentials } : Link).run traffic).outbox index) :
    (frame.payload.get? "room").isSome = true := by
  induction traffic with
  | nil => simp [run, outbox, line?] at inside
  | cons piece earlier ih =>
    rw [run, outbox_after, List.mem_append] at inside
    exact inside.elim ih queued_room

/-- Where an attempt to connect has succeeded, the first frame is the join. -/
theorem join_first (opened : ({ credentials } : Link).isOpened index traffic = true) :
    ((({ credentials } : Link).run traffic).outbox index).head? =
      some (joinFrame credentials) := by
  induction traffic with
  | nil => cases opened
  | cons piece earlier ih =>
    rw [isOpened, Bool.or_eq_true] at opened
    rw [run, outbox_after, List.head?_append]
    cases before : ({ credentials } : Link).isOpened index earlier with
    | true => rw [ih before, Option.some_or]
    | false =>
      have started := opened.resolve_left (by simp [before])
      have fresh := isFresh_run credentials earlier
      cases piece with
      | opened outcome =>
        cases outcome with
        | error reason => cases started
        | ok line =>
          have own := started
          simp only [starts, Bool.and_eq_true, decide_eq_true_eq] at own
          obtain ⟨⟨rfl, free⟩, -⟩ := own
          rw [fresh.empty line free, queued, if_pos started, credentials_run]
          rfl
      | _ => cases started

end

end Link

/-! ## Runs -/

/-- Where an attempt to connect has succeeded, the line is open. -/
theorem ConcurrentRun.isOpened {H W : Type} {behave : Behaviour H W}
    {start stage before : Stage H W} {past : ConcurrentPast H W} {index : Nat}
    (run : ConcurrentRun behave start past stage)
    (inside : (before, .move (.opened (.ok index))) ∈ past)
    (success : (before.desk.opened (.ok index)).1 = .ok ()) :
    start.desk.link.isOpened index (trafficOf past) = true := by
  induction run with
  | start => cases inside
  | @next past stage after move earlier made ih =>
    have divided : trafficOf ((stage, move) :: past) = stage.traffic move ++ trafficOf past :=
      List.flatMap_cons ..
    rw [divided, Link.isOpened_append, ← earlier.link, Bool.or_eq_true]
    rcases List.mem_cons.mp inside with latest | inside
    · cases latest
      have moved : before.next behave (.opened (.ok index)) = some after := made
      cases Stage.moved_of_next moved with
      | begun _ _ _ _ begun =>
        cases Stage.begins_of_begin begun with
        | opened _ unused => exact .inr (Desk.isOpened_of_opened (unused index rfl) success)
    · exact .inl (ih inside)

/-- The data and the arguments list the members of every object by increasing name. -/
def Submission.isOrdered {H : Type} (s : Submission H) : Bool :=
  (s.data.map Value.object).all Value.isOrdered && s.args.all Value.isOrdered

/-- The same, and all numbers are exact. -/
def Submission.isPlain {H : Type} (s : Submission H) : Bool :=
  (s.data.map Value.object).all Value.isPlain && s.args.all Value.isPlain

/-- The request as a server reads it: arguments that are null are as good as none. -/
def Submission.arriving {H : Type} (s : Submission H) (credentials : Credentials) (id : String) :
    Request :=
  { auth := { identity := credentials.identity, token := credentials.token
              group := credentials.group }
    handler := s.handler, data := s.data
    callback := { id, args := present s.args, silent := s.silent } }

namespace Desk
variable {H W : Type} {desk : Desk H W} {s : Submission H} {id : String}

/-- A submission that succeeds queues its request on the line in use. -/
theorem submit_frame {after : Desk H W} (accepted : desk.submit s = (some (.ok id), after)) :
    ∃ index line, desk.link.current = some index ∧ desk.link.line? index = some line ∧
      after.link = desk.link.setLine index { line with outbox := line.outbox ++
        [{ kind := "submit", payload := desk.link.tagged (desk.requestOf s id).payload }] } := by
  obtain ⟨index, line, current, there, queued⟩ :=
    (submit_sent (congrArg Prod.fst accepted)).queued
  rw [accepted] at queued
  exact ⟨index, line, current, there, queued⟩

theorem isOrdered_requestOf (desk : Desk H W) (s : Submission H) (id : String) :
    (desk.requestOf s id).isOrdered = s.isOrdered := rfl

theorem isPlain_requestOf (desk : Desk H W) (s : Submission H) (id : String) :
    (desk.requestOf s id).isPlain = s.isPlain := rfl

theorem tagged_request (ordered : s.isOrdered = true) :
    desk.link.tagged (desk.requestOf s id).payload =
      (desk.requestOf s id).orderedMembers ++ [("room", .text desk.link.credentials.room)] := by
  rw [← desk.isOrdered_requestOf s id] at ordered
  exact Request.setDefault_payload ordered _

theorem tagged_request_value (ordered : s.isOrdered = true) :
    Request.ofValue? (.object (desk.link.tagged (desk.requestOf s id).payload)) =
      some (s.arriving desk.link.credentials id) := by
  rw [← desk.isOrdered_requestOf s id] at ordered
  exact Request.ofValue?_payload ordered _

theorem tagged_request_text (ordered : s.isOrdered = true) (plain : s.isPlain = true) :
    Request.read.ofString?
        (Value.object (desk.link.tagged (desk.requestOf s id).payload)).write =
      if (Value.object (desk.link.tagged (desk.requestOf s id).payload)).nesting < 128 then
        some (s.arriving desk.link.credentials id)
      else none := by
  rw [← desk.isOrdered_requestOf s id] at ordered
  rw [← desk.isPlain_requestOf s id] at plain
  exact Request.read_payload ordered plain _

theorem tagged_request_names (ordered : s.isOrdered = true) :
    (desk.link.tagged (desk.requestOf s id).payload).map Prod.fst =
      ["auth", "callback"] ++ (if s.data.isSome then ["data"] else []) ++ ["handler", "room"] := by
  rw [tagged_request ordered]
  cases data : s.data <;> simp [Request.orderedMembers, requestOf, data, optionalMember]

theorem tagged_request_room (ordered : s.isOrdered = true) :
    Members.get? (desk.link.tagged (desk.requestOf s id).payload) "room" =
      some (.text desk.link.credentials.room) := by
  rw [tagged_request ordered]
  cases data : s.data <;>
    simp [Request.orderedMembers, requestOf, data, optionalMember, Members.get?]

end Desk

/-- On every run, each frame that is queued names a room, and where an attempt to connect has
succeeded, the first frame on its line joins the room of the session. A request that is accepted is
queued as a frame of exactly its own members, its room among them, and is read back from them with
the credentials of the session, whatever its data and its arguments are: an argument that is null
comes back as absent. From the text of these members it is read back exactly if they are nested less
than 128 deep. A payload can be made of every request. -/
theorem requests_are_tagged {H W : Type} {behave : Behaviour H W} {settings : Settings}
    {credentials : Credentials} {page : W} {past : ConcurrentPast H W} {stage : Stage H W}
    (run : ConcurrentRun behave (Stage.opening settings credentials page) past stage) :
    (∀ index line, stage.desk.link.line? index = some line →
      ∀ frame ∈ line.outbox, (frame.payload.get? "room").isSome = true) ∧
    (∀ index before, (before, .move (.opened (.ok index))) ∈ past →
      (before.desk.opened (.ok index)).1 = .ok () →
      ∃ line, stage.desk.link.line? index = some line ∧
        line.outbox.head? = some { kind := "join", payload :=
          [("room", .text (credentials.identity ++ ":" ++ credentials.session))] }) ∧
    (∀ s : Submission H, s.isOrdered = true → ∀ id, (stage.desk.submit s).1 = some (.ok id) →
      ∃ index line frame, stage.desk.link.current = some index ∧
        stage.desk.link.line? index = some line ∧
        (stage.desk.submit s).2.link =
          stage.desk.link.setLine index { line with outbox := line.outbox ++ [frame] } ∧
        frame.kind = "submit" ∧
        frame.payload.map Prod.fst =
          ["auth", "callback"] ++ (if s.data.isSome then ["data"] else []) ++
            ["handler", "room"] ∧
        frame.payload.get? "room" =
          some (.text (credentials.identity ++ ":" ++ credentials.session)) ∧
        Request.ofValue? (.object frame.payload) = some (s.arriving credentials id) ∧
        (s.isPlain = true → Request.read.ofString? (Value.object frame.payload).write =
          if (Value.object frame.payload).nesting < 128 then some (s.arriving credentials id)
          else none)) ∧
    ∀ request : Request, request.toValue.sorted = .object request.payload := by
  have linked : stage.desk.link = ({ credentials } : Link).run (trafficOf past) := run.link
  have same : stage.desk.link.credentials = credentials := by
    rw [linked, Link.credentials_run]
  refine ⟨?rooms, ?joins, ?requests, fun request => request.sorted_eq_payload⟩
  case rooms =>
    intro index line there frame inside
    have here : (({ credentials } : Link).run (trafficOf past)).outbox index = line.outbox := by
      rw [← linked, Link.outbox, there]
      rfl
    exact Link.rooms_of_run (here ▸ inside)
  case joins =>
    intro index before inside success
    have first := Link.join_first (run.isOpened inside success)
    rw [← linked, Link.outbox] at first
    cases there : stage.desk.link.line? index with
    | none =>
      rw [there] at first
      cases first
    | some line =>
      rw [there] at first
      exact ⟨line, rfl, first⟩
  case requests =>
    intro s ordered id accepted
    obtain ⟨index, line, current, there, queued⟩ := Desk.submit_frame (Prod.ext accepted rfl)
    refine ⟨index, line, _, current, there, queued, rfl, Desk.tagged_request_names ordered, ?_⟩
    rw [← same]
    exact ⟨Desk.tagged_request_room ordered, Desk.tagged_request_value ordered,
      Desk.tagged_request_text ordered⟩

def someone : Credentials :=
  { endpoint := "memory", identity := "alice", token := "t0k", session := "s1", group := "ops" }

def forgedRequest : Submission Unit :=
  { handler := "users.create", target := .inline ()
    data := some [("auth", .object [("identity", .text "root")]), ("callback", .null),
      ("handler", .text "users.delete"), ("room", .text "root:s0")]
    args := some .null, silent := true }

theorem requests_are_tagged_forged :
    ∃ past stage, ConcurrentRun quiet (Stage.opening {} someone ()) past stage ∧
      (∃ before, (before, .move (.opened (.ok 0))) ∈ past ∧
        (before.desk.opened (.ok 0)).1 = .ok ()) ∧
      forgedRequest.isOrdered = true ∧ forgedRequest.isPlain = true ∧
      (stage.desk.submit forgedRequest).1 = some (.ok "cb-0") ∧
      (∃ line, stage.desk.link.line? 0 = some line ∧ line.outbox.head? =
        some { kind := "join", payload := [("room", .text "alice:s1")] }) ∧
      ∃ index line frame, stage.desk.link.line? index = some line ∧
        (stage.desk.submit forgedRequest).2.link =
          stage.desk.link.setLine index { line with outbox := line.outbox ++ [frame] } ∧
        frame.payload.map Prod.fst = ["auth", "callback", "data", "handler", "room"] ∧
        frame.payload.get? "room" = some (.text "alice:s1") ∧
        Request.ofValue? (.object frame.payload) = some
          { auth := { identity := "alice", token := "t0k", group := "ops" }
            handler := "users.create", data := forgedRequest.data
            callback := { id := "cb-0", silent := true } } ∧
        Request.read.ofString? (Value.object frame.payload).write =
          if (Value.object frame.payload).nesting < 128 then some
            { auth := { identity := "alice", token := "t0k", group := "ops" }
              handler := "users.create", data := forgedRequest.data
              callback := { id := "cb-0", silent := true } }
          else none := by
  have accepts : ((Stage.interleaveAll quiet [.move (.lay false), .move .dial]
      ([], .opening {} someone ())).bind fun dialed =>
        (dialed.2.interleave quiet (.move (.opened (.ok 0)))).map fun stage =>
          decide ((dialed.2.desk.opened (.ok 0)).1 = .ok () ∧ forgedRequest.isOrdered = true ∧
            forgedRequest.isPlain = true ∧
            (stage.desk.submit forgedRequest).1 = some (.ok "cb-0"))) = some true := by
    decide +kernel
  obtain ⟨⟨past, dialed⟩, reached, opens⟩ := Option.bind_eq_some_iff.mp accepts
  obtain ⟨stage, opened, facts⟩ := Option.map_eq_some_iff.mp opens
  obtain ⟨success, ordered, plain, accepted⟩ := of_decide_eq_true facts
  have run : ConcurrentRun quiet (Stage.opening {} someone ()) _ stage :=
    (ConcurrentRun.start.interleaveAll reached).next opened
  obtain ⟨-, joins, requests, -⟩ := requests_are_tagged run
  have inside : (dialed, .move (.opened (.ok 0))) ∈
      ((dialed, .move (.opened (.ok 0))) :: past : ConcurrentPast Unit Unit) := List.mem_cons_self
  obtain ⟨index, line, frame, -, there, queued, -, names, room, value, text⟩ :=
    requests forgedRequest ordered "cb-0" accepted
  exact ⟨_, stage, run, ⟨dialed, inside, success⟩, ordered, plain, accepted,
    joins 0 dialed inside success, index, line, frame, there, queued, names, room, value,
    text plain⟩

def nested : Nat → Value
  | 0 => .null
  | depth + 1 => .array [nested depth]

theorem nesting_nested (depth : Nat) : (nested depth).nesting = depth := by
  induction depth with
  | zero => rfl
  | succ depth ih => simp [nested, Value.nesting, Value.itemNesting, ih]

theorem isOrdered_nested (depth : Nat) : (nested depth).isOrdered = true := by
  induction depth with
  | zero => rfl
  | succ depth ih => simp [nested, Value.isOrdered, Value.itemsAreOrdered, ih]

theorem isPlain_nested (depth : Nat) : (nested depth).isPlain = true := by
  induction depth with
  | zero => rfl
  | succ depth ih => simp [nested, Value.isPlain, Value.itemsArePlain, ih]

def deepRequest (depth : Nat) : Submission Unit :=
  { handler := "users.list", target := .inline (), data := some [("deep", nested depth)] }

theorem isOrdered_deepRequest (depth : Nat) : (deepRequest depth).isOrdered = true := by
  simp [deepRequest, Submission.isOrdered, Value.isOrdered, Value.membersAreOrdered,
    Members.Increase, isOrdered_nested]

/-- Around its data a request has the payload and the data themselves. -/
theorem deepRequest_unread {W : Type} (desk : Desk Unit W) (id : String) {depth : Nat}
    (deep : 126 ≤ depth) :
    Request.read.ofString?
      (Value.object (desk.link.tagged (desk.requestOf (deepRequest depth) id).payload)).write =
        none := by
  have ordered := isOrdered_deepRequest depth
  have plain : (deepRequest depth).isPlain = true := by
    simp [deepRequest, Submission.isPlain, Value.isPlain, Value.membersArePlain,
      Members.Increase, isPlain_nested]
  have inside : ("data", some (.object [("deep", nested depth)])) ∈
      (desk.requestOf (deepRequest depth) id).sortedFields desk.link.credentials.room := by
    simp [Request.sortedFields, Desk.requestOf, deepRequest]
  have data : (Value.object [("deep", nested depth)]).nesting = depth + 1 := by
    simp [Value.nesting, Value.memberNesting, nesting_nested]
  have bound := nesting_le_of_mem inside
  rw [Desk.tagged_request_text ordered plain, if_neg]
  rw [← desk.isOrdered_requestOf _ id] at ordered
  rw [Link.tagged, Request.membersOf_sortedFields ordered, Value.nesting]
  omega

/-- A line whose join was refused takes frames once somebody connects again, and its first frame is
no join then. A payload that is nested 128 deep is sent, but is not read back from its text. -/
theorem requests_are_tagged_refused :
    (∃ past stage, ConcurrentRun quiet (Stage.opening {} someone ()) past stage ∧
      (stage.desk.link.outbox 1).map Outgoing.kind = ["ping"]) ∧
    ∃ past stage, ConcurrentRun quiet (Stage.opening {} someone ()) past stage ∧
      (deepRequest 126).isOrdered = true ∧
      (stage.desk.submit (deepRequest 126)).1 = some (.ok "cb-0") ∧
      ∃ index line frame, stage.desk.link.line? index = some line ∧
        (stage.desk.submit (deepRequest 126)).2.link =
          stage.desk.link.setLine index { line with outbox := line.outbox ++ [frame] } ∧
        Request.read.ofString? (Value.object frame.payload).write = none := by
  have refused : ((Stage.interleaveAll quiet
      [.move (.lay false), .move .dial, .move (.opened (.ok 0)), .move (.lay false), .move .dial,
        .move (.report 0 (.closed "gone")), .move (.pump 0), .move (.opened (.ok 1)),
        .move .dial, .move (.act (.emit "ping" [])), .move .work]
      ([], .opening {} someone ())).map fun reached =>
        decide ((reached.2.desk.link.outbox 1).map Outgoing.kind = ["ping"])) = some true := by
    decide +kernel
  have accepts : ((Stage.interleaveAll quiet
      [.move (.lay false), .move .dial, .move (.opened (.ok 0))]
      ([], .opening {} someone ())).map fun reached =>
        decide ((reached.2.desk.submit (deepRequest 126)).1 = some (.ok "cb-0"))) = some true := by
    decide +kernel
  refine ⟨?bare, ?deep⟩
  case bare =>
    obtain ⟨⟨past, stage⟩, reached, facts⟩ := Option.map_eq_some_iff.mp refused
    exact ⟨past, stage, ConcurrentRun.start.interleaveAll reached, of_decide_eq_true facts⟩
  case deep =>
    obtain ⟨⟨past, stage⟩, reached, facts⟩ := Option.map_eq_some_iff.mp accepts
    have accepted := of_decide_eq_true facts
    obtain ⟨index, line, -, there, queued⟩ := Desk.submit_frame (Prod.ext accepted rfl)
    exact ⟨past, stage, ConcurrentRun.start.interleaveAll reached, isOrdered_deepRequest 126,
      accepted, index, line, _, there, queued,
      deepRequest_unread stage.desk "cb-0" (Nat.le_refl 126)⟩

end PageSession.Exchange
