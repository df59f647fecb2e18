import PageSession.Proofs.Exchange.Books

/-!
Requests from step to step. A step of a machine makes entries: a request is submitted, resolved by
a response, abandoned on an error, or expired. It expires when it is taken out of the table, which
is before its handler is told. The entries of a step say all that the step does to the table of
requests; what it still has to tell handlers stands on the stack.
-/
namespace PageSession.Exchange
open Json Message

/-- What became of a request, and the record of it. -/
structure Entry where
  fate : Fate
  id : String
  call : Call

namespace Desk
variable {H W : Type}

theorem Aside.calls {desk after : Desk H W} (aside : desk.Aside after) :
    after.calls = desk.calls := by
  cases aside <;> rfl

/-! ## Submitting -/

def callOf (desk : Desk H W) (s : Submission H) : Call :=
  { handler := s.handler, args := s.args, silent := s.silent, deadline := desk.deadline? }

/-- Both entries of a submission are filed: its record, and its own handler if it has one. -/
def filed (desk : Desk H W) (s : Submission H) (id : String) (own : Option H) : Desk H W :=
  let waiting := { desk with calls := desk.calls.insert id (desk.callOf s) }
  match own with
  | some h => (waiting.register id h .once).2
  | none => waiting

def withdrawn (desk : Desk H W) (id : String) (own : Option H) : Desk H W :=
  let undone := { desk with calls := desk.calls.erase id }
  if own.isSome then (undone.unregister id).2 else undone

/-- The sending of a submission is noted, shown and made known to the services. -/
def announced (desk : Desk H W) (s : Submission H) (id : String) : Desk H W :=
  let sent := desk.record (.request .submitted id)
  (if s.silent then sent else sent.record (.loading (some s.handler))).notifyService

/-- A submission is refused while its id waits; else it is filed, and withdrawn or announced. -/
theorem submitAs_eq (desk : Desk H W) (s : Submission H) (id : String) (own : Option H) :
    desk.submitAs s id own =
      if desk.calls.contains id then (.error (.callbackInFlight id), desk)
      else match desk.link.emit "submit" (desk.requestOf s id).payload with
        | .error failure => (.error failure, (desk.filed s id own).withdrawn id own)
        | .ok link => (.ok id, { desk.filed s id own with link }.announced s id) := by
  cases own <;> rfl

theorem filed_calls (desk : Desk H W) (s : Submission H) (id : String) (own : Option H) :
    (desk.filed s id own).calls = desk.calls.insert id (desk.callOf s) := by
  cases own <;> rfl

theorem withdrawn_calls (desk : Desk H W) (id : String) (own : Option H) :
    (desk.withdrawn id own).calls = desk.calls.erase id := by
  cases own <;> rfl

theorem announced_calls (desk : Desk H W) (s : Submission H) (id : String) :
    (desk.announced s id).calls = desk.calls := by
  unfold announced
  dsimp only
  rw [(sameBooks_notifyService _).calls]
  split <;> rfl

/-- The id of a submission, on the desk that has made it unless it is given. -/
def addressed (desk : Desk H W) (s : Submission H) : Option String × Desk H W :=
  match s.target with
  | .named id => (some id, desk)
  | .inline _ => desk.freshId

/-- Making an id changes the generator only. -/
theorem addressed_desk (desk : Desk H W) (s : Submission H) :
    ∃ id ids, desk.addressed s = (id, { desk with ids }) := by
  unfold addressed
  split
  · exact ⟨_, desk.ids, rfl⟩
  · exact ⟨_, _, rfl⟩

end Desk

def Submission.own? {H : Type} (s : Submission H) : Option H :=
  match s.target with
  | .named _ => none
  | .inline h => some h

namespace Desk
variable {H W : Type}

/-- The empty name is refused before anything else, and without an id there is no result. -/
theorem submit_cases (desk : Desk H W) (s : Submission H) :
    (s.target = .named "" ∧ desk.submit s = (some (.error .emptyCallbackId), desk)) ∨
      (∃ ids, desk.addressed s = (none, { desk with ids }) ∧
        desk.submit s = (none, { desk with ids })) ∨
      ∃ id ids, desk.addressed s = (some id, { desk with ids }) ∧
        desk.submit s = (some (submitAs { desk with ids } s id s.own?).1,
          (submitAs { desk with ids } s id s.own?).2) := by
  cases target : s.target with
  | named name =>
    by_cases empty : name.isEmpty
    · refine .inl ⟨by rw [String.isEmpty_iff.mp empty], ?_⟩
      simp [submit, target, empty]
    · refine .inr (.inr ⟨name, desk.ids, by rw [addressed, target], ?_⟩)
      simp [submit, target, empty, Submission.own?, Prod.map]
  | inline h =>
    obtain ⟨id, ids, made⟩ := desk.addressed_desk s
    have fresh : desk.freshId = (id, { desk with ids }) := by
      rwa [addressed, target] at made
    cases id with
    | none => exact .inr (.inl ⟨ids, made, by rw [submit, target, fresh]⟩)
    | some id =>
      refine .inr (.inr ⟨id, ids, made, ?_⟩)
      rw [submit, target, fresh, Submission.own?, target]
      rfl

/-- A submission that succeeds files its record under an id under which nothing waited. -/
theorem submit_accepted {desk after : Desk H W} {s : Submission H} {id : String}
    (success : desk.submit s = (some (.ok id), after)) :
    desk.calls.find? id = none ∧ after.calls = desk.calls.insert id (desk.callOf s) := by
  rcases submit_cases desk s with ⟨-, empty⟩ | ⟨ids, -, exhausted⟩ | ⟨name, ids, -, sent⟩
  · rw [empty] at success
    cases success
  · rw [exhausted] at success
    cases success
  · rw [sent, submitAs_eq] at success
    split at success
    · cases success
    · rename_i absent
      split at success
      · cases success
      · cases success
        refine ⟨?_, ?_⟩
        · exact (Table.contains_eq_false_iff _ _).mp (Bool.eq_false_iff.mpr absent)
        · rw [announced_calls]
          exact filed_calls _ _ _ _

/-- A submission that does not succeed leaves what waits under every id. -/
theorem submit_refused {desk : Desk H W} {s : Submission H}
    (refused : ∀ id, (desk.submit s).1 ≠ some (.ok id)) (other : String) :
    (desk.submit s).2.calls.find? other = desk.calls.find? other := by
  rcases submit_cases desk s with ⟨-, empty⟩ | ⟨ids, -, exhausted⟩ | ⟨name, ids, -, sent⟩
  · rw [empty]
  · rw [exhausted]
  · rw [sent, submitAs_eq] at refused ⊢
    split
    · rfl
    · rename_i absent
      rw [if_neg absent] at refused
      split
      · rw [withdrawn_calls, filed_calls, Table.erase_insert]
        exact (Table.contains_eq_false_iff _ _).mp (Bool.eq_false_iff.mpr absent)
      · rename_i link success
        rw [success] at refused
        exact absurd rfl (refused name)

/-! ## Frames and deadlines -/

/-- The entry that a frame makes: a response resolves the request that it echoes, and an error
abandons it, if there is one. -/
def closes? (desk : Desk H W) (frame : Incoming) : Option Entry :=
  match frame.kind, Response.read.ofString? frame.content with
  | .response, some response =>
    response.callback.bind fun echo =>
      (desk.calls.find? echo.id).map fun call =>
        { fate := if response.error.isSome then .abandoned else .resolved, id := echo.id, call }
  | _, _ => none

theorem closes?_found {desk : Desk H W} {frame : Incoming} {entry : Entry}
    (closed : desk.closes? frame = some entry) :
    desk.calls.find? entry.id = some entry.call ∧
      (entry.fate = .resolved ∨ entry.fate = .abandoned) := by
  unfold closes? at closed
  split at closed
  · obtain ⟨echo, -, closed⟩ := Option.bind_eq_some_iff.mp closed
    obtain ⟨call, waiting, rfl⟩ := Option.map_eq_some_iff.mp closed
    refine ⟨waiting, ?_⟩
    dsimp only
    split
    · exact .inr rfl
    · exact .inl rfl
  · cases closed

@[simp] theorem notify_calls (desk : Desk H W) (severity : Severity) (message : String) :
    (desk.notify severity message).calls = desk.calls := rfl

@[simp] theorem notifyOutcome_calls (desk : Desk H W) (severity : Severity) (silent : Bool)
    (message : String) : (desk.notifyOutcome severity silent message).calls = desk.calls := by
  unfold notifyOutcome
  split <;> rfl

@[simp] theorem settleLoading_calls (desk : Desk H W) :
    desk.settleLoading.calls = desk.calls := by
  unfold settleLoading
  split <;> rfl

/-- Abandoning a request removes its record, whoever its handler is. -/
theorem abandon_find? (desk : Desk H W) (id other : String) :
    (desk.abandon id).calls.find? other = if other = id then none else desk.calls.find? other := by
  unfold abandon
  split
  · dsimp only
    have erased := Table.find?_erase desk.calls id other
    split <;> exact erased
  · rename_i absent
    by_cases same : other = id
    · rw [if_pos same, same]
      exact (Table.contains_eq_false_iff _ _).mp (Bool.eq_false_iff.mpr absent)
    · rw [if_neg same]

/-- A frame removes the record of the request that it closes and no other. -/
theorem receive_find? (desk : Desk H W) (frame : Incoming) (other : String) :
    (desk.receive frame).2.calls.find? other =
      match desk.closes? frame with
      | some entry => if other = entry.id then none else desk.calls.find? other
      | none => desk.calls.find? other := by
  cases kind : frame.kind with
  | update =>
    simp only [receive, closes?, kind]
    split <;> rfl
  | response =>
    simp only [receive, closes?, kind, receiveResponse]
    cases Response.read.ofString? frame.content with
    | none => rfl
    | some response =>
      dsimp only
      cases response.error with
      | some message =>
        cases response.callback with
        | none => simp
        | some echo =>
          simp only [notify_calls, settleLoading_calls, abandon_find?, Option.bind_some]
          cases waiting : desk.calls.find? echo.id with
          | none =>
            by_cases same : other = echo.id
            · simp [same, waiting]
            · simp [same]
          | some call => rfl
      | none =>
        cases response.callback with
        | none => simp
        | some echo =>
          cases waiting : desk.calls.find? echo.id with
          | none => simp [waiting]
          | some call =>
            simp only [notifyOutcome_calls, settleLoading_calls, Option.bind_some, waiting,
              Option.map_some]
            exact Table.find?_erase desk.calls echo.id other

theorem evict_fst (desk : Desk H W) (time : Int) :
    (desk.evict time).1 = desk.calls.entries.filter fun entry => entry.2.isOverdue time := rfl

/-- What is evicted has waited under its id. -/
theorem find?_of_mem_evict {desk : Desk H W} {time : Int} {id : String} {call : Call}
    (evicted : (id, call) ∈ (desk.evict time).1) :
    desk.calls.find? id = some call ∧ call.isOverdue time = true := by
  rw [evict_fst, List.mem_filter] at evicted
  exact ⟨(Table.find?_eq_some_iff _ _ _).mpr evicted.1, evicted.2⟩

/-- Nothing is evicted twice. -/
theorem evict_nodup (desk : Desk H W) (time : Int) :
    ((desk.evict time).1.map Prod.fst).Nodup :=
  (desk.calls.filter fun entry => entry.2.isOverdue time).distinct

/-- What still waits after an eviction is what was not overdue. -/
theorem evict_find? (desk : Desk H W) (time : Int) (id : String) :
    (desk.evict time).2.calls.find? id =
      (desk.calls.find? id).filter fun call => !call.isOverdue time :=
  Table.find?_filter desk.calls _ id

end Desk

namespace Machine
variable {H W : Type}

/-! ## Entries of a step -/

/-- The frame that the next step handles, and the desk once the frame has been taken. -/
def received? (m : Machine H W) : Option (Incoming × Desk H W) :=
  match m.control with
  | .perform (.handle frame) => some (frame, m.desk)
  | .perform .pull =>
    match m.desk.takeFrame with
    | (.frame frame, desk) => some (frame, desk)
    | _ => none
  | _ => none

def entries (m : Machine H W) : List Entry :=
  match m.control with
  | .perform (.submit s) =>
    match (m.desk.submit s).1 with
    | some (.ok id) => [{ fate := .submitted, id, call := m.desk.callOf s }]
    | _ => []
  | .perform (.expire ahead) =>
    (m.desk.evict (m.desk.now + ahead)).1.map fun evicted =>
      { fate := .expired, id := evicted.1, call := evicted.2 }
  | _ =>
    match m.received? with
    | some (frame, desk) => (desk.closes? frame).toList
    | none => []

end Machine

/-- Evicted requests that a frame of the stack has not told their handlers yet. -/
def Frame.untold {H : Type} : Frame H → List (String × Call)
  | .expiring rest _ => rest
  | _ => []

/-- What waits under the id of an entry before the entry is made. -/
def Entry.before (entry : Entry) : Option Call :=
  if entry.fate = .submitted then none else some entry.call

/-- What waits under the id of an entry once it has been made. -/
def Entry.after (entry : Entry) : Option Call :=
  if entry.fate = .submitted then some entry.call else none

namespace Machine
variable {H W : Type}

theorem deliver_calls (behave : Behaviour H W) (id : String) (reply : Reply) (desk : Desk H W)
    (stack : List (Frame H)) :
    (deliver behave id reply desk stack).desk.calls = desk.calls := by
  unfold deliver Desk.takeCallback?
  cases desk.callbacks.find? id with
  | none => rfl
  | some callback => cases lives : callback.lifetime <;> simp only [lives, Option.map_some] <;> rfl

theorem handle_calls (behave : Behaviour H W) (frame : Incoming) (desk : Desk H W)
    (stack : List (Frame H)) :
    (handle behave frame desk stack).desk.calls = (desk.receive frame).2.calls := by
  unfold handle
  split
  · rename_i received
    rw [received]
    rfl
  · rename_i received
    rw [received]
    exact deliver_calls behave _ _ _ _
  · rename_i received
    rw [received]
    rfl

theorem expire_calls (time : Int) (desk : Desk H W) (stack : List (Frame H)) :
    (expire time desk stack).desk.calls = (desk.evict time).2.calls := by
  unfold expire
  split
  · rename_i evicted
    rw [evicted]
    rfl
  · rename_i evicted
    rw [evicted]
    exact Desk.settleLoading_calls _

/-- Whatever a step hands an answer to keeps the table of requests. -/
theorem resume_calls (behave : Behaviour H W) (frame : Frame H) (answer : Answer)
    (desk : Desk H W) (stack : List (Frame H)) :
    (resume behave frame answer desk stack).desk.calls = desk.calls := by
  cases frame with
  | acting h action next => rfl
  | succeed => rfl
  | expiring rest count =>
    cases rest with
    | nil => rfl
    | cons evicted rest => exact deliver_calls behave _ _ _ _
  | distributing update rest count =>
    cases rest with
    | nil => rfl
    | cons h rest => rfl
  | serving =>
    unfold resume
    dsimp only
    split <;> rfl

/-- Taking the frame that a step handles changes the link only. -/
theorem received?_desk {m : Machine H W} {frame : Incoming} {desk : Desk H W}
    (received : m.received? = some (frame, desk)) : ∃ link, desk = { m.desk with link } := by
  unfold received? at received
  split at received
  · cases received
    exact ⟨m.desk.link, rfl⟩
  · obtain ⟨link, after⟩ := m.desk.takeFrame_desk
    split at received
    · rename_i taken
      cases received
      rw [taken] at after
      exact ⟨link, after⟩
    · cases received
  · cases received

theorem received?_books {m : Machine H W} {frame : Incoming} {desk : Desk H W}
    (received : m.received? = some (frame, desk)) : Desk.SameBooks m.desk desk := by
  obtain ⟨link, rfl⟩ := received?_desk received
  constructor <;> rfl

/-- A step that receives a frame handles it. -/
theorem step_of_received {m : Machine H W} {frame : Incoming} {desk : Desk H W}
    (behave : Behaviour H W) (received : m.received? = some (frame, desk)) :
    m.step behave = handle behave frame desk m.stack := by
  obtain ⟨control, stack, start⟩ := m
  unfold received? at received
  split at received
  · rename_i performed
    dsimp only at performed
    subst performed
    cases received
    rfl
  · rename_i performed
    dsimp only at performed
    subst performed
    split at received
    · rename_i taken
      cases received
      simp only [step, perform, taken]
    · cases received
  · cases received

theorem entries_of_received {m : Machine H W} {frame : Incoming} {desk : Desk H W}
    (received : m.received? = some (frame, desk)) :
    m.entries = (desk.closes? frame).toList := by
  obtain ⟨control, stack, start⟩ := m
  have source := received
  unfold received? at source
  split at source
  · rename_i performed
    dsimp only at performed
    subst performed
    simp only [entries, received]
  · rename_i performed
    dsimp only at performed
    subst performed
    simp only [entries, received]
  · cases source

/-- Evicted requests whose handlers have not been told yet. -/
def pending (m : Machine H W) : List (String × Call) := m.stack.flatMap Frame.untold

theorem deliver_pending (behave : Behaviour H W) (id : String) (reply : Reply) (desk : Desk H W)
    (stack : List (Frame H)) :
    (deliver behave id reply desk stack).pending = stack.flatMap Frame.untold := by
  unfold deliver
  split <;> rfl

theorem handle_pending (behave : Behaviour H W) (frame : Incoming) (desk : Desk H W)
    (stack : List (Frame H)) :
    (handle behave frame desk stack).pending = stack.flatMap Frame.untold := by
  unfold handle
  split
  · rfl
  · exact deliver_pending behave _ _ _ _
  · rfl

/-- What an action comes to: only some actions submit, look for what is overdue, handle a frame,
start a handler or stop a service, and all others are answered at once. -/
inductive Performed (action : Action H) (desk : Desk H W) (stack : List (Frame H)) : Prop
  | submitted (s : Submission H) (same : action = .submit s)
  | evicted (ahead : Int) (same : action = .expire ahead)
  | received (frame : Incoming) (taken : Desk H W)
    (receiving : received? { control := .perform action, stack, desk } = some (frame, taken))
  | invoked (id : String) (reply : Reply) (same : action = .invoke id reply)
  | called (method : String) (args : List Value) (h : H) (same : action = .call method args)
    (found : desk.methods.find? method = some h)
  | stopped (same : action = .stop)
  | answered (answer : Answer) (after : Desk H W) (waiting : List (Frame H))
    (aside : desk.Aside after) (untold : waiting.flatMap Frame.untold = stack.flatMap Frame.untold)
    (silent : entries { control := .perform action, stack, desk } = [])
    (result : ∀ behave : Behaviour H W,
      perform behave action desk stack = give answer after waiting)

theorem performed (action : Action H) (desk : Desk H W) (stack : List (Frame H)) :
    Performed action desk stack := by
  have idle : desk.Aside desk := .linked desk.link desk.agenda
  cases action with
  | submit s => exact .submitted s rfl
  | expire ahead => exact .evicted ahead rfl
  | handle frame => exact .received frame desk rfl
  | invoke id reply => exact .invoked id reply rfl
  | stop => exact .stopped rfl
  | register | registerMethod | unregister | subscribe =>
    exact .answered _ _ stack (.filed _ _ _) rfl rfl fun _ => rfl
  | dispatch update => exact .answered _ desk (_ :: stack) idle rfl rfl fun _ => rfl
  | ask question => exact .answered _ desk stack idle rfl rfl fun _ => rfl
  | emit kind payload =>
    exact .answered _ _ stack (.of_link (desk.emit_desk kind payload)) rfl rfl fun _ => rfl
  | take => exact .answered _ _ stack (.of_link desk.takeFrame_desk) rfl rfl fun _ => rfl
  | peer line action =>
    obtain ⟨link, acted⟩ := desk.peer_desk line action
    refine .answered (desk.peer line action).1 (desk.peer line action).2.enlist stack ?_ rfl rfl
      fun _ => rfl
    rw [acted]
    exact .linked link _
  | call method args =>
    cases found : desk.methods.find? method with
    | some h => exact .called method args h rfl found
    | none =>
      refine .answered (.done (.error (.methodNotFound method))) desk stack idle rfl rfl
        fun behave => ?_
      simp only [perform, found]
  | emitThen kind payload =>
    obtain ⟨link, emitted⟩ := desk.emit_desk kind payload
    cases result : desk.emit kind payload with
    | mk outcome after =>
      rw [result] at emitted
      dsimp only at emitted
      subst emitted
      cases outcome with
      | ok =>
        refine .answered done _ stack (.enqueued link) rfl rfl fun behave => ?_
        simp only [perform, result]
      | error failure =>
        refine .answered (.done (.error failure)) _ stack (.linked link desk.agenda) rfl rfl
          fun behave => ?_
        simp only [perform, result]
  | pull =>
    obtain ⟨link, taken⟩ := desk.takeFrame_desk
    cases result : desk.takeFrame with
    | mk answer after =>
      rw [result] at taken
      dsimp only at taken
      subst taken
      cases answer with
      | frame frame => exact .received frame { desk with link } (by simp only [received?, result])
      | _ =>
        refine .answered desk.takeFrame.1 _ stack (.linked link desk.agenda) rfl ?_ fun behave => ?_
        · simp only [entries, received?, result]
        · simp only [perform, result]

/-- A step that makes no entry and tells no handler of a request. -/
structure Plain (m : Machine H W) : Prop where
  acting : ∀ answer, m.control ≠ .answer answer
  entries : m.entries = []
  calls : ∀ behave : Behaviour H W, (m.step behave).desk.calls = m.desk.calls
  pending : ∀ behave : Behaviour H W, (m.step behave).pending = m.pending

theorem plain_of_program (h : H) (program : Program H) (desk : Desk H W)
    (stack : List (Frame H)) : Plain { control := .run h program, stack, desk } where
  acting answer control := by cases control
  entries := rfl
  calls behave := by cases program <;> rfl
  pending behave := by cases program <;> rfl

/-- A step submits, looks for what is overdue, handles a frame, hands on an answer, or is plain. -/
theorem step_kinds (m : Machine H W) :
    (∃ s, m.control = .perform (.submit s)) ∨ (∃ ahead, m.control = .perform (.expire ahead)) ∨
      (∃ frame desk, m.received? = some (frame, desk)) ∨ (∃ answer, m.control = .answer answer) ∨
      m.Plain := by
  obtain ⟨control, stack, desk⟩ := m
  cases control with
  | answer answer => exact .inr (.inr (.inr (.inl ⟨answer, rfl⟩)))
  | run h program => exact .inr (.inr (.inr (.inr (plain_of_program h program desk stack))))
  | perform action =>
    have acting : ∀ answer, Control.perform action ≠ .answer answer := by
      intro answer control
      cases control
    cases performed action desk stack with
    | submitted s same => exact .inl ⟨s, by rw [same]⟩
    | evicted ahead same => exact .inr (.inl ⟨ahead, by rw [same]⟩)
    | received frame taken receiving => exact .inr (.inr (.inl ⟨frame, taken, receiving⟩))
    | invoked id reply same =>
      subst same
      exact .inr (.inr (.inr (.inr ⟨acting, rfl, fun behave => deliver_calls behave _ _ _ _,
        fun behave => deliver_pending behave _ _ _ _⟩)))
    | called method args h same found =>
      subst same
      refine .inr (.inr (.inr (.inr ⟨acting, rfl, fun behave => ?_, fun behave => ?_⟩)))
      · simp only [step, perform, found]
        rfl
      · simp only [step, perform, found]
        rfl
    | stopped same =>
      subst same
      exact .inr (.inr (.inr (.inr ⟨acting, rfl,
        fun behave => (Desk.sameBooks_stopService desk).calls, fun behave => rfl⟩)))
    | answered answer after waiting aside untold silent result =>
      refine .inr (.inr (.inr (.inr ⟨acting, silent, fun behave => ?_, fun behave => ?_⟩)))
      · simp only [step, result]
        exact aside.calls
      · simp only [step, result]
        exact untold

theorem entries_of_answer {m : Machine H W} {answer : Answer}
    (control : m.control = .answer answer) : m.entries = [] := by
  simp only [entries, received?, control]

theorem step_calls_of_answer {m : Machine H W} {answer : Answer}
    (control : m.control = .answer answer) (behave : Behaviour H W) :
    (m.step behave).desk.calls = m.desk.calls := by
  obtain ⟨held, stack, desk⟩ := m
  dsimp only at control
  subst control
  cases stack with
  | nil => rfl
  | cons frame stack => exact resume_calls behave frame answer desk stack

/-- A step that submits is answered if the submission has a result. -/
theorem step_of_submit (behave : Behaviour H W) {m : Machine H W} {s : Submission H}
    (control : m.control = .perform (.submit s)) :
    m.step behave =
      { control := match (m.desk.submit s).1 with
          | some result => .answer (.submitted result)
          | none => .perform (.submit s)
        stack := m.stack
        desk := (m.desk.submit s).2.enlist } := by
  simp only [step, control, perform]
  split <;> rename_i result <;> simp only [result, give]

theorem step_submit (behave : Behaviour H W) {m : Machine H W} {s : Submission H}
    (control : m.control = .perform (.submit s)) :
    (m.step behave).desk = (m.desk.submit s).2.enlist := by
  rw [step_of_submit behave control]

/-- An entry is made of a request that waits, but for a submission, which needs a free id. -/
theorem find?_of_mem_entries {m : Machine H W} {entry : Entry} (made : entry ∈ m.entries) :
    m.desk.calls.find? entry.id = entry.before := by
  rcases step_kinds m with ⟨s, control⟩ | ⟨ahead, control⟩ | ⟨frame, desk, received⟩ |
    ⟨answer, control⟩ | plain
  · simp only [entries, control] at made
    split at made
    · rename_i accepted
      obtain rfl := List.mem_singleton.mp made
      exact (Desk.submit_accepted (Prod.ext accepted rfl)).1
    · cases made
  · simp only [entries, control, List.mem_map] at made
    obtain ⟨⟨id, call⟩, evicted, rfl⟩ := made
    exact (Desk.find?_of_mem_evict evicted).1
  · rw [entries_of_received received, Option.mem_toList] at made
    have found := Desk.closes?_found made
    rw [← (received?_books received).calls, found.1, Entry.before, if_neg]
    rcases found.2 with fate | fate <;> rw [fate] <;> decide
  · rw [entries_of_answer control] at made
    cases made
  · rw [plain.entries] at made
    cases made

/-- Only a submission that succeeds makes an entry of that fate. -/
theorem submit_of_mem_entries {m : Machine H W} {entry : Entry} (made : entry ∈ m.entries)
    (fate : entry.fate = .submitted) :
    ∃ s, m.control = .perform (.submit s) ∧ (m.desk.submit s).1 = some (.ok entry.id) ∧
      entry.call = m.desk.callOf s := by
  rcases step_kinds m with ⟨s, control⟩ | ⟨ahead, control⟩ | ⟨frame, desk, received⟩ |
    ⟨answer, control⟩ | plain
  · simp only [entries, control] at made
    split at made
    · rename_i accepted
      obtain rfl := List.mem_singleton.mp made
      exact ⟨s, control, accepted, rfl⟩
    · cases made
  · simp only [entries, control, List.mem_map] at made
    obtain ⟨evicted, -, rfl⟩ := made
    cases fate
  · rw [entries_of_received received, Option.mem_toList] at made
    rcases (Desk.closes?_found made).2 with other | other <;> rw [other] at fate <;> cases fate
  · rw [entries_of_answer control] at made
    cases made
  · rw [plain.entries] at made
    cases made

/-- A step makes at most one entry of each request. -/
theorem entries_nodup (m : Machine H W) : (m.entries.map Entry.id).Nodup := by
  rcases step_kinds m with ⟨s, control⟩ | ⟨ahead, control⟩ | ⟨frame, desk, received⟩ |
    ⟨answer, control⟩ | plain
  · simp only [entries, control]
    split <;> simp
  · simp only [entries, control, List.map_map]
    exact Desk.evict_nodup m.desk _
  · rw [entries_of_received received]
    cases desk.closes? frame <;> simp
  · rw [entries_of_answer control]
    exact List.nodup_nil
  · rw [plain.entries]
    exact List.nodup_nil

/-- A step changes the table of requests as its entries say. -/
theorem step_find? (behave : Behaviour H W) (m : Machine H W) (id : String) :
    (m.step behave).desk.calls.find? id =
      match m.entries.find? fun entry => entry.id = id with
      | some entry => entry.after
      | none => m.desk.calls.find? id := by
  rcases step_kinds m with ⟨s, control⟩ | ⟨ahead, control⟩ | ⟨frame, desk, received⟩ |
    ⟨answer, control⟩ | plain
  · rw [step_submit behave control, (Desk.sameBooks_enlist _).calls]
    by_cases success : ∃ name, (m.desk.submit s).1 = some (.ok name)
    · obtain ⟨name, accepted⟩ := success
      rw [(Desk.submit_accepted (Prod.ext accepted rfl)).2, Table.find?_insert]
      simp only [entries, control, accepted]
      by_cases same : id = name
      · simp [same, Entry.after]
      · have different : name ≠ id := fun equal => same equal.symm
        simp [same, different]
    · have refused := not_exists.mp success
      rw [Desk.submit_refused refused]
      simp only [entries, control]
      split <;> simp_all
  · rw [show (m.step behave).desk.calls = (m.desk.evict (m.desk.now + ahead)).2.calls by
      simp only [step, control, perform, expire_calls], Desk.evict_find?]
    simp only [entries, control]
    split
    · rename_i entry found
      obtain ⟨⟨name, call⟩, evicted, rfl⟩ := List.mem_map.mp (List.mem_of_find?_eq_some found)
      have same : name = id := by simpa using List.find?_some found
      have waited := Desk.find?_of_mem_evict evicted
      rw [← same, waited.1]
      simp [waited.2, Entry.after]
    · rename_i missing
      cases waiting : m.desk.calls.find? id with
      | none => rfl
      | some call =>
        cases overdue : call.isOverdue (m.desk.now + ahead) with
        | false => simp [overdue]
        | true =>
          have listed : (id, call) ∈ (m.desk.evict (m.desk.now + ahead)).1 :=
            List.mem_filter.mpr ⟨(Table.find?_eq_some_iff _ _ _).mp waiting, overdue⟩
          have passed := List.find?_eq_none.mp missing _ (List.mem_map_of_mem listed)
          simp at passed
  · rw [step_of_received behave received, entries_of_received received, handle_calls,
      Desk.receive_find?, (received?_books received).calls]
    cases closed : desk.closes? frame with
    | none => rfl
    | some entry =>
      have fate : entry.fate ≠ .submitted := by
        rcases (Desk.closes?_found closed).2 with fate | fate <;> rw [fate] <;> decide
      by_cases same : id = entry.id
      · simp [same, Entry.after, fate]
      · have different : entry.id ≠ id := fun equal => same equal.symm
        simp [same, different]
  · rw [entries_of_answer control, step_calls_of_answer control]
    rfl
  · rw [plain.entries, plain.calls behave]
    rfl

/-- What waits after a step has waited before, or the step has just submitted it. -/
theorem find?_of_step {behave : Behaviour H W} {m : Machine H W} {id : String} {call : Call}
    (waiting : (m.step behave).desk.calls.find? id = some call) :
    m.desk.calls.find? id = some call ∨
      ∃ s, m.control = .perform (.submit s) ∧ (m.desk.submit s).1 = some (.ok id) ∧
        call = m.desk.callOf s := by
  rw [step_find?] at waiting
  cases made : m.entries.find? fun entry => entry.id = id with
  | none =>
    rw [made] at waiting
    exact .inl waiting
  | some entry =>
    rw [made] at waiting
    dsimp only at waiting
    unfold Entry.after at waiting
    split at waiting
    · rename_i fate
      cases waiting
      have same : entry.id = id := by simpa using List.find?_some made
      obtain ⟨s, control, accepted, record⟩ :=
        submit_of_mem_entries (List.mem_of_find?_eq_some made) fate
      exact .inr ⟨s, control, same ▸ accepted, record⟩
    · cases waiting

end Machine
end PageSession.Exchange
