import PageSession.Proofs.Exchange.Requests

/-!
Requests and their outcomes over whole runs. The ledger of a run lists every entry, the latest
first. Under each id submissions and outcomes alternate, and the table of requests holds what the
latest entry leaves. Whoever has to hear of an outcome is told once: at once for a response, and
when its turn comes for an expired request, which waits for it on the stack.
-/
namespace PageSession.Exchange
open Message

/-! ## The ledger -/

/-- Under one id, the latest entry first: a request is submitted when none waits, and gets its
outcome, with the record of its submission, before the next one. The last argument waits now. -/
inductive Alternates : List Entry → Option Call → Prop
  | nil : Alternates [] none
  | submitted {rest : List Entry} (id : String) (call : Call) (free : Alternates rest none) :
      Alternates ({ fate := .submitted, id, call } :: rest) (some call)
  | closed {rest : List Entry} (fate : Fate) (id : String) (call : Call)
      (outcome : fate ≠ .submitted) (waiting : Alternates rest (some call)) :
      Alternates ({ fate, id, call } :: rest) none

theorem Alternates.cons {rest : List Entry} {entry : Entry}
    (earlier : Alternates rest entry.before) : Alternates (entry :: rest) entry.after := by
  obtain ⟨fate, id, call⟩ := entry
  by_cases submitted : fate = .submitted
  · subst submitted
    exact .submitted id call earlier
  · simp only [Entry.before, Entry.after, submitted, if_false] at earlier ⊢
    exact .closed fate id call submitted earlier

def entriesOf (id : String) (ledger : List Entry) : List Entry :=
  ledger.filter fun entry => entry.id = id

/-- How many requests of an id had a fate. -/
def tally (fate : Fate) (id : String) (ledger : List Entry) : Nat :=
  ledger.countP fun entry => entry.fate = fate && entry.id = id

private theorem tally_eq_countP (fate : Fate) (id : String) (ledger : List Entry) :
    tally fate id ledger = (entriesOf id ledger).countP fun entry => entry.fate = fate := by
  rw [tally, entriesOf, List.countP_filter]

/-- Every submission has had its outcome but the one that waits. -/
theorem Alternates.balance {entries : List Entry} {waiting : Option Call}
    (alternating : Alternates entries waiting) :
    entries.countP (fun entry => entry.fate = .submitted) =
      entries.countP (fun entry => entry.fate = .resolved) +
        entries.countP (fun entry => entry.fate = .abandoned) +
        entries.countP (fun entry => entry.fate = .expired) +
        (if waiting.isSome then 1 else 0) := by
  induction alternating with
  | nil => rfl
  | submitted id call free ih =>
    simp only [List.countP_cons, Option.isSome_none, Option.isSome_some] at ih ⊢
    simp only [decide_true, reduceCtorEq, decide_false, if_true, Bool.false_eq_true,
      if_false] at ih ⊢
    omega
  | closed fate id call outcome waiting ih =>
    simp only [List.countP_cons, Option.isSome_none, Option.isSome_some] at ih ⊢
    cases fate with
    | submitted => exact absurd rfl outcome
    | resolved | abandoned | expired =>
      simp only [decide_true, reduceCtorEq, decide_false, if_true, Bool.false_eq_true,
        if_false] at ih ⊢
      omega

def Entry.news? (entry : Entry) : Option (String × Call) :=
  match entry.fate with
  | .resolved | .expired => some (entry.id, entry.call)
  | .submitted | .abandoned => none

def Stage.entries {H W : Type} (stage : Stage H W) : Move H → List Entry
  | .work => stage.machine.entries
  | _ => []

def ledger {H W : Type} (past : Past H W) : List Entry :=
  past.flatMap fun moved => moved.1.entries moved.2

/-! ## Telling handlers -/

/-- The handler and what it is given, where an event is the start of a handler. -/
def Event.invocation? {H : Type} : Event H → Option (H × Invocation)
  | .invoked h invocation => some (h, invocation)
  | _ => none

namespace Machine
variable {H W : Type}

/-- The requests whose outcome the next step brings to the callback of their id, if there is one:
the one that a response resolves, or the next one that has expired. -/
def told (m : Machine H W) : List (String × Call) :=
  match m.control, m.stack with
  | .answer _, .expiring (request :: _) _ :: _ => [request]
  | _, _ => (m.entries.filter fun entry => entry.fate = .resolved).map fun entry =>
      (entry.id, entry.call)

/-- What the next step adds to the log, the latest first. -/
def news (behave : Behaviour H W) (m : Machine H W) : List (Event H) :=
  (m.step behave).desk.log.take ((m.step behave).desk.log.length - m.desk.log.length)

/-- The handlers that begin to run in the next step, with what they are given. -/
def invocations (behave : Behaviour H W) (m : Machine H W) : List (H × Invocation) :=
  (m.news behave).filterMap Event.invocation?

/-- The next step tells an outcome as it should. -/
structure TellsOnce (behave : Behaviour H W) (m : Machine H W) : Prop where
  /-- The callback that is registered now runs once, with the args of the request; without a
  callback nobody runs. -/
  told : ∀ id call, (id, call) ∈ m.told → ∃ reply : Reply, reply.args = call.args ∧
    m.invocations behave = ((m.desk.callbacks.find? id).map fun callback =>
      (callback.handler, Invocation.reply reply)).toList
  /-- Nobody hears of an abandoned request. -/
  abandoned : ∀ entry ∈ m.entries, entry.fate = .abandoned → m.invocations behave = []
  /-- No other step brings a reply to a handler, but for the direct invocation of a callback. -/
  only : m.told = [] → (∀ id reply, m.control ≠ .perform (.invoke id reply)) →
    ∀ h reply, (h, Invocation.reply reply) ∉ m.invocations behave
  /-- A response that is no error and echoes an id under which nothing waits is answered with a
  failure. The desk stays as it is, but for the frame that has been taken. -/
  unmatched : ∀ frame desk response echo, m.received? = some (frame, desk) →
    frame.kind = .response → Response.read.ofString? frame.content = some response →
    response.error = none → response.callback = some echo →
    desk.calls.contains echo.id = false →
    m.step behave = give (.done (.error (.callbackNotFound echo.id))) desk m.stack

end Machine

def toldIn {H W : Type} (past : Past H W) : List (String × Call) :=
  past.flatMap fun moved => match moved.2 with
    | .work => moved.1.machine.told
    | _ => []

/-! ## Logs -/

namespace Desk
variable {H W : Type}

/-- The log has grown, and no handler has begun to run. -/
structure CallsNobody (desk after : Desk H W) : Prop where
  grown : ∃ fresh, after.log = fresh ++ desk.log ∧ fresh.filterMap Event.invocation? = []

theorem CallsNobody.of_log {desk after : Desk H W} (same : after.log = desk.log) :
    CallsNobody desk after :=
  ⟨[], same, rfl⟩

theorem CallsNobody.trans {first second third : Desk H W} (left : CallsNobody first second)
    (right : CallsNobody second third) : CallsNobody first third := by
  obtain ⟨older, grown, silent⟩ := left
  obtain ⟨newer, further, quiet⟩ := right
  refine ⟨newer ++ older, ?_, ?_⟩
  · rw [further, grown, List.append_assoc]
  · rw [List.filterMap_append, quiet, silent]
    rfl

theorem callsNobody_record (desk : Desk H W) {event : Event H} (silent : event.invocation? = none) :
    CallsNobody desk (desk.record event) :=
  ⟨[event], rfl, by simp [silent]⟩

theorem Aside.callsNobody {desk after : Desk H W} (aside : desk.Aside after) :
    CallsNobody desk after := by
  cases aside with
  | linked | filed => exact .of_log rfl
  | enqueued => exact ⟨[.enqueued], rfl, rfl⟩

/-- Removing the record of a request is noted. -/
theorem callsNobody_close (desk : Desk H W) (fate : Fate) (id : String) :
    CallsNobody desk
      ({ desk with calls := desk.calls.erase id }.record (.request fate id)) :=
  ⟨[.request fate id], rfl, rfl⟩

theorem callsNobody_notifyOutcome (desk : Desk H W) (severity : Severity) (silent : Bool)
    (message : String) : CallsNobody desk (desk.notifyOutcome severity silent message) := by
  unfold notifyOutcome
  split
  · exact callsNobody_record desk rfl
  · exact .of_log rfl

theorem callsNobody_settleLoading (desk : Desk H W) : CallsNobody desk desk.settleLoading := by
  unfold settleLoading
  split
  · exact .of_log rfl
  · exact callsNobody_record desk rfl

theorem callsNobody_abandon (desk : Desk H W) (id : String) :
    CallsNobody desk (desk.abandon id) := by
  unfold abandon
  split
  · have noted := callsNobody_close desk .abandoned id
    dsimp only
    split
    · exact noted.trans (.of_log rfl)
    · exact noted
  · exact .of_log rfl

@[simp] theorem notifyOutcome_callbacks (desk : Desk H W) (severity : Severity) (silent : Bool)
    (message : String) :
    (desk.notifyOutcome severity silent message).callbacks = desk.callbacks := by
  unfold notifyOutcome
  split <;> rfl

@[simp] theorem settleLoading_callbacks (desk : Desk H W) :
    desk.settleLoading.callbacks = desk.callbacks := by
  unfold settleLoading
  split <;> rfl

theorem callsNobody_announced (desk : Desk H W) (s : Submission H) (id : String) :
    CallsNobody desk (desk.announced s id) := by
  have noted : CallsNobody desk (desk.record (.request .submitted id)) :=
    callsNobody_record desk rfl
  unfold announced
  dsimp only
  split
  · exact noted.trans (.of_log (sameBooks_notifyService _).log)
  · have shown : CallsNobody (desk.record (.request .submitted id))
        ((desk.record (.request .submitted id)).record (.loading (some s.handler))) :=
      callsNobody_record _ rfl
    exact (noted.trans shown).trans (.of_log (sameBooks_notifyService _).log)

theorem callsNobody_submit (desk : Desk H W) (s : Submission H) :
    CallsNobody desk (desk.submit s).2 := by
  rcases submit_cases desk s with ⟨-, empty⟩ | ⟨ids, -, exhausted⟩ | ⟨id, ids, -, sent⟩
  · rw [empty]
    exact .of_log rfl
  · rw [exhausted]
    exact .of_log rfl
  · rw [sent, submitAs_eq]
    split
    · exact .of_log rfl
    · split
      · refine .of_log ?_
        cases s.own? <;> rfl
      · refine CallsNobody.trans (.of_log ?_) (callsNobody_announced _ s _)
        cases s.own? <;> rfl

/-- Up to the handlers that it concerns, a frame makes nobody run. -/
theorem callsNobody_receive (desk : Desk H W) (frame : Incoming) :
    CallsNobody desk (desk.receive frame).2 := by
  unfold receive
  split
  · unfold receiveResponse
    split
    · exact (callsNobody_record desk rfl).trans (callsNobody_record _ rfl)
    · rename_i response _
      split
      · rename_i message _
        refine CallsNobody.trans ?_ (callsNobody_record _ rfl)
        refine CallsNobody.trans ?_ (callsNobody_settleLoading _)
        split
        · exact callsNobody_abandon desk _
        · exact .of_log rfl
      · dsimp only
        split
        · exact callsNobody_notifyOutcome desk _ _ _
        · rename_i echo _
          split
          · exact .of_log rfl
          · have noted := callsNobody_close desk .resolved echo.id
            exact (noted.trans (callsNobody_settleLoading _)).trans
              (callsNobody_notifyOutcome _ _ _ _)
  · split <;> exact .of_log rfl

/-- A frame that resolves a request is handed on to the callback of its id. -/
theorem receive_resolved {desk : Desk H W} {frame : Incoming} {entry : Entry}
    (closed : desk.closes? frame = some entry) (fate : entry.fate = .resolved) :
    ∃ reply after, desk.receive frame = (.deliver entry.id reply, after) ∧
      reply.args = entry.call.args ∧ after.callbacks = desk.callbacks := by
  unfold closes? at closed
  split at closed
  · rename_i response kind read
    obtain ⟨echo, echoed, closed⟩ := Option.bind_eq_some_iff.mp closed
    obtain ⟨call, waiting, rfl⟩ := Option.map_eq_some_iff.mp closed
    have noError : response.error = none := by
      cases error : response.error with
      | none => rfl
      | some message => simp [error] at fate
    simp only [receive, kind, receiveResponse, read, noError, echoed, waiting]
    refine ⟨_, _, rfl, rfl, ?_⟩
    simp only [notifyOutcome_callbacks, settleLoading_callbacks]
    rfl
  · cases closed

/-- Only a frame that resolves a request is handed on to a callback. -/
theorem resolved_of_deliver {desk after : Desk H W} {frame : Incoming} {id : String}
    {reply : Reply} (received : desk.receive frame = (.deliver id reply, after)) :
    ∃ entry, desk.closes? frame = some entry ∧ entry.fate = .resolved := by
  cases kind : frame.kind with
  | update =>
    simp only [receive, kind] at received
    split at received <;> cases received
  | response =>
    simp only [receive, kind, receiveResponse] at received
    cases read : Response.read.ofString? frame.content with
    | none =>
      rw [read] at received
      cases received
    | some response =>
      simp only [read] at received
      cases error : response.error with
      | some message =>
        rw [error] at received
        cases received
      | none =>
        rw [error] at received
        cases echoed : response.callback with
        | none =>
          rw [echoed] at received
          cases received
        | some echo =>
          rw [echoed] at received
          dsimp only at received
          cases waiting : desk.calls.find? echo.id with
          | none =>
            rw [waiting] at received
            cases received
          | some call =>
            refine ⟨{ fate := .resolved, id := echo.id, call }, ?_, rfl⟩
            simp only [closes?, kind, read, echoed, Option.bind_some, waiting, Option.map_some,
              error, Option.isSome_none, Bool.false_eq_true, if_false]

end Desk

namespace Machine
variable {H W : Type}

/-! ## Steps -/

theorem news_of_log {behave : Behaviour H W} {m : Machine H W} {fresh : List (Event H)}
    (grown : (m.step behave).desk.log = fresh ++ m.desk.log) : m.news behave = fresh := by
  rw [news, grown, List.length_append, Nat.add_sub_cancel, List.take_left]

/-- A reply goes to the callback that is registered, and to nobody else. -/
theorem deliver_log (behave : Behaviour H W) (id : String) (reply : Reply) (desk : Desk H W)
    (stack : List (Frame H)) :
    (deliver behave id reply desk stack).desk.log =
      ((desk.callbacks.find? id).map fun callback =>
        Event.invoked callback.handler (.reply reply)).toList ++ desk.log := by
  unfold deliver Desk.takeCallback?
  cases desk.callbacks.find? id with
  | none => rfl
  | some callback => cases lives : callback.lifetime <;> simp only [lives, Option.map_some] <;> rfl

/-- A step that ends by handing a reply to the callback of an id tells it once. -/
theorem invocations_of_deliver {behave : Behaviour H W} {m : Machine H W} {id : String}
    {reply : Reply} {desk : Desk H W} {stack : List (Frame H)}
    (delivering : m.step behave = deliver behave id reply desk stack)
    (callbacks : desk.callbacks = m.desk.callbacks) (silent : Desk.CallsNobody m.desk desk) :
    m.invocations behave = ((m.desk.callbacks.find? id).map fun callback =>
      (callback.handler, Invocation.reply reply)).toList := by
  obtain ⟨fresh, grown, quiet⟩ := silent
  have log : (m.step behave).desk.log =
      (((m.desk.callbacks.find? id).map fun callback =>
        Event.invoked callback.handler (.reply reply)).toList ++ fresh) ++ m.desk.log := by
    rw [delivering, deliver_log, callbacks, grown, List.append_assoc]
  rw [invocations, news_of_log log, List.filterMap_append, quiet, List.append_nil]
  cases m.desk.callbacks.find? id <;> rfl

theorem invocations_of_callsNobody {behave : Behaviour H W} {m : Machine H W}
    (silent : Desk.CallsNobody m.desk (m.step behave).desk) : m.invocations behave = [] := by
  obtain ⟨fresh, grown, quiet⟩ := silent
  rw [invocations, news_of_log grown, quiet]

/-- The entry that a frame makes, for the machine that handles it. -/
theorem mem_entries_of_received {m : Machine H W} {frame : Incoming} {desk : Desk H W}
    {entry : Entry} (received : m.received? = some (frame, desk)) :
    entry ∈ m.entries ↔ desk.closes? frame = some entry := by
  rw [entries_of_received received, Option.mem_toList]

/-- Entries other than submissions and expiries come from frames. -/
theorem received_of_mem_entries {m : Machine H W} {entry : Entry} (made : entry ∈ m.entries)
    (fate : entry.fate = .resolved ∨ entry.fate = .abandoned) :
    ∃ frame desk, m.received? = some (frame, desk) ∧ desk.closes? frame = some entry := by
  rcases step_kinds m with ⟨s, control⟩ | ⟨ahead, control⟩ | ⟨frame, desk, received⟩ |
    ⟨answer, control⟩ | plain
  · simp only [entries, control] at made
    split at made
    · obtain rfl := List.mem_singleton.mp made
      rcases fate with fate | fate <;> cases fate
    · cases made
  · simp only [entries, control, List.mem_map] at made
    obtain ⟨evicted, -, rfl⟩ := made
    rcases fate with fate | fate <;> cases fate
  · exact ⟨frame, desk, received, (mem_entries_of_received received).mp made⟩
  · rw [entries_of_answer control] at made
    cases made
  · rw [plain.entries] at made
    cases made

/-- A request of whose outcome a step tells is the next expired one, or a response resolves it. -/
theorem told_cases {m : Machine H W} {id : String} {call : Call} (telling : (id, call) ∈ m.told) :
    (∃ answer rest count stack, m.control = .answer answer ∧
        m.stack = .expiring ((id, call) :: rest) count :: stack) ∨
      ({ fate := .resolved, id, call } : Entry) ∈ m.entries := by
  unfold told at telling
  split at telling
  · rename_i answer request rest count stack control waiting
    obtain rfl := List.mem_singleton.mp telling
    exact .inl ⟨answer, rest, count, stack, control, waiting⟩
  · obtain ⟨⟨fate, id, call⟩, resolved, same⟩ := List.mem_map.mp telling
    obtain ⟨made, fate⟩ := List.mem_filter.mp resolved
    simp only [decide_eq_true_eq] at fate
    cases same
    subst fate
    exact .inr made

/-- Outside an answer a step tells of what a response resolves. -/
theorem told_of_not_answer {m : Machine H W} (acting : ∀ answer, m.control ≠ .answer answer) :
    m.told = (m.entries.filter fun entry => entry.fate = .resolved).map fun entry =>
      (entry.id, entry.call) := by
  unfold told
  split
  · rename_i control _
    exact absurd control (acting _)
  · rfl

theorem received?_not_answer {m : Machine H W} {received : Incoming × Desk H W}
    (receiving : m.received? = some received) (answer : Answer) : m.control ≠ .answer answer := by
  intro control
  simp only [received?, control] at receiving
  cases receiving

/-- A frame that resolves nothing makes nobody run at once. -/
theorem invocations_of_unresolved {behave : Behaviour H W} {m : Machine H W} {frame : Incoming}
    {desk : Desk H W} (received : m.received? = some (frame, desk))
    (unresolved : ∀ entry, desk.closes? frame = some entry → entry.fate ≠ .resolved) :
    m.invocations behave = [] := by
  apply invocations_of_callsNobody
  refine (Desk.CallsNobody.of_log (received?_books received).log).trans ?_
  have silent := Desk.callsNobody_receive desk frame
  rw [step_of_received behave received]
  unfold handle
  split
  · rename_i receipt
    rwa [receipt] at silent
  · rename_i receipt
    obtain ⟨entry, closed, fate⟩ := Desk.resolved_of_deliver receipt
    exact absurd fate (unresolved entry closed)
  · rename_i receipt
    rwa [receipt] at silent

theorem noReply_of_callsNobody {behave : Behaviour H W} {m : Machine H W}
    (silent : Desk.CallsNobody m.desk (m.step behave).desk) (h : H) (reply : Reply) :
    (h, Invocation.reply reply) ∉ m.invocations behave := by
  rw [invocations_of_callsNobody silent]
  exact List.not_mem_nil

/-- A step that starts one handler with something else than a reply. -/
theorem noReply_of_log {behave : Behaviour H W} {m : Machine H W} (other : H)
    (invocation : Invocation) (started : (m.step behave).desk.log =
      [Event.invoked other invocation] ++ m.desk.log)
    (different : ∀ reply, invocation ≠ .reply reply) (h : H) (reply : Reply) :
    (h, Invocation.reply reply) ∉ m.invocations behave := by
  rw [invocations, news_of_log started]
  intro member
  simp only [List.filterMap_cons, Event.invocation?, List.filterMap_nil, List.mem_singleton,
    Prod.mk.injEq] at member
  exact different reply member.2.symm

theorem noReply_of_answer {behave : Behaviour H W} {m : Machine H W} {answer : Answer}
    (control : m.control = .answer answer) (nothing : m.told = []) (h : H) (reply : Reply) :
    (h, Invocation.reply reply) ∉ m.invocations behave := by
  obtain ⟨held, stack, desk⟩ := m
  dsimp only at control
  subst control
  cases stack with
  | nil => exact noReply_of_callsNobody (.of_log rfl) h reply
  | cons frame stack =>
    cases frame with
    | acting other action next =>
      exact noReply_of_callsNobody (Desk.callsNobody_record desk rfl) h reply
    | succeed => exact noReply_of_callsNobody (.of_log rfl) h reply
    | expiring rest count =>
      cases rest with
      | nil => exact noReply_of_callsNobody (.of_log rfl) h reply
      | cons request rest => cases nothing
    | distributing update rest count =>
      cases rest with
      | nil => exact noReply_of_callsNobody (.of_log rfl) h reply
      | cons other rest =>
        exact noReply_of_log other (.update update) rfl
          (fun reply same => by cases same) h reply
    | serving =>
      refine noReply_of_callsNobody (.of_log ?_) h reply
      simp only [step, resume]
      split <;> rfl

/-- Up to the first handler that it tells, an eviction makes nobody run. -/
theorem callsNobody_expire (time : Int) (desk : Desk H W) (stack : List (Frame H)) :
    Desk.CallsNobody desk (expire time desk stack).desk := by
  have kept : (desk.evict time).2.log = desk.log := rfl
  unfold expire
  split
  · rename_i evicted
    rw [evicted] at kept
    exact .of_log kept
  · rename_i evicted
    rw [evicted] at kept
    exact (Desk.CallsNobody.of_log kept).trans (Desk.callsNobody_settleLoading _)

/-- Among the other actions only the direct invocation of a callback starts it with a reply. -/
theorem noReply_of_action {behave : Behaviour H W} (action : Action H) (desk : Desk H W)
    (stack : List (Frame H)) (undirected : ∀ id reply, action ≠ .invoke id reply)
    (unreceived : received? { control := .perform action, stack, desk } = none) (h : H)
    (reply : Reply) :
    (h, Invocation.reply reply) ∉
      invocations behave { control := .perform action, stack, desk } := by
  cases performed action desk stack with
  | submitted s same =>
    subst same
    refine noReply_of_callsNobody ?_ h reply
    rw [step_submit behave rfl]
    exact (Desk.callsNobody_submit desk s).trans (.of_log rfl)
  | evicted ahead same =>
    subst same
    exact noReply_of_callsNobody (callsNobody_expire _ desk stack) h reply
  | received frame taken receiving =>
    rw [unreceived] at receiving
    cases receiving
  | invoked id other same => exact absurd same (undirected id other)
  | called method args other same found =>
    subst same
    refine noReply_of_log other (.method args) ?_ (fun reply same => by cases same) h reply
    simp only [step, perform, found]
    rfl
  | stopped same =>
    subst same
    refine noReply_of_callsNobody (.of_log ?_) h reply
    exact (Desk.sameBooks_stopService desk).log
  | answered answer after waiting aside untold silent result =>
    refine noReply_of_callsNobody ?_ h reply
    simp only [step, result]
    exact aside.callsNobody

/-- A step that tells of no request brings no reply, unless it invokes a callback directly. -/
theorem noReply_of_untold (behave : Behaviour H W) (m : Machine H W) (nothing : m.told = [])
    (undirected : ∀ id reply, m.control ≠ .perform (.invoke id reply)) (h : H) (reply : Reply) :
    (h, Invocation.reply reply) ∉ m.invocations behave := by
  cases receiving : m.received? with
  | some received =>
    obtain ⟨frame, desk⟩ := received
    rw [told_of_not_answer (received?_not_answer receiving),
      entries_of_received receiving] at nothing
    have unresolved : ∀ entry, desk.closes? frame = some entry → entry.fate ≠ .resolved := by
      intro entry closed fate
      simp [closed, fate] at nothing
    rw [invocations_of_unresolved receiving unresolved]
    exact List.not_mem_nil
  | none =>
    obtain ⟨control, stack, desk⟩ := m
    cases control with
    | answer answer => exact noReply_of_answer rfl nothing h reply
    | run other program =>
      refine noReply_of_callsNobody (.of_log ?_) h reply
      cases program <;> rfl
    | perform action =>
      exact noReply_of_action action desk stack
        (fun id reply same => undirected id reply (by rw [same])) receiving h reply

/-- A step that tells of a request hands a reply with its args to the callback of its id. -/
theorem delivers_of_told (behave : Behaviour H W) {m : Machine H W} {id : String} {call : Call}
    (telling : (id, call) ∈ m.told) :
    ∃ (reply : Reply) (desk : Desk H W) (stack : List (Frame H)), reply.args = call.args ∧
      m.step behave = deliver behave id reply desk stack ∧
      desk.callbacks = m.desk.callbacks ∧ Desk.CallsNobody m.desk desk := by
  rcases told_cases telling with ⟨answer, rest, count, stack, control, waiting⟩ | resolved
  · have delivering :
        m.step behave = tell behave id call m.desk (.expiring rest count :: stack) := by
      simp only [step, control, waiting, resume]
    refine ⟨Desk.timeoutReply call, _, _, rfl, delivering, rfl, ?_⟩
    exact (Desk.callsNobody_record m.desk rfl).trans (Desk.callsNobody_record _ rfl)
  · obtain ⟨frame, desk, received, closed⟩ := received_of_mem_entries resolved (.inl rfl)
    obtain ⟨reply, after, receipt, args, callbacks⟩ := Desk.receive_resolved closed rfl
    have silent := Desk.callsNobody_receive desk frame
    rw [receipt] at silent
    have books := received?_books received
    have delivering : m.step behave = deliver behave id reply after m.stack := by
      rw [step_of_received behave received]
      simp only [handle, receipt]
    exact ⟨reply, after, m.stack, args, delivering, callbacks.trans books.callbacks,
      (Desk.CallsNobody.of_log books.log).trans silent⟩

/-- Every step tells the outcome of requests as it should. -/
theorem tellsOnce (behave : Behaviour H W) (m : Machine H W) : m.TellsOnce behave where
  told id call telling := by
    obtain ⟨reply, desk, stack, args, delivering, callbacks, silent⟩ :=
      delivers_of_told behave telling
    exact ⟨reply, args, invocations_of_deliver delivering callbacks silent⟩
  abandoned entry made fate := by
    obtain ⟨frame, desk, received, closed⟩ := received_of_mem_entries made (.inr fate)
    refine invocations_of_unresolved received fun other same => ?_
    rw [closed] at same
    cases same
    rw [fate]
    decide
  only := noReply_of_untold behave m
  unmatched frame desk response echo received kind read noError echoed absent := by
    have missing := (Table.contains_eq_false_iff _ _).mp absent
    rw [step_of_received behave received]
    simp only [handle, Desk.receive, kind, Desk.receiveResponse, read, noError, echoed, missing]

/-- Everything that is evicted waits to be told. -/
theorem expire_pending (time : Int) (desk : Desk H W) (stack : List (Frame H)) :
    (expire time desk stack).pending = (desk.evict time).1 ++ stack.flatMap Frame.untold := by
  unfold expire
  split
  · rename_i evicted
    rw [evicted]
    rfl
  · rename_i evicted
    rw [evicted]
    rfl

/-- An answer is handed to the next request that has expired, or brings no news. -/
theorem news_of_answer {m : Machine H W} {answer : Answer} (behave : Behaviour H W)
    (control : m.control = .answer answer) : m.pending = m.told ++ (m.step behave).pending := by
  obtain ⟨held, stack, desk⟩ := m
  dsimp only at control
  subst control
  cases stack with
  | nil => rfl
  | cons frame stack =>
    cases frame with
    | acting h action next => rfl
    | succeed => rfl
    | expiring rest count =>
      cases rest with
      | nil => rfl
      | cons request rest =>
        have delivered := deliver_pending behave request.1 (Desk.timeoutReply request.2)
          ((desk.record (.request .expired request.1)).notify .error
            (Desk.timeoutReply request.2).message) (.expiring rest count :: stack)
        exact congrArg (request :: ·) delivered.symm
    | distributing update rest count => cases rest <;> rfl
    | serving =>
      simp only [step, resume]
      split <;> rfl

/-- News of requests is either told in the step that makes it or waits on the stack. -/
theorem step_news (behave : Behaviour H W) (m : Machine H W) :
    (m.entries.filterMap Entry.news? ++ m.pending).Perm (m.told ++ (m.step behave).pending) := by
  rcases step_kinds m with ⟨s, control⟩ | ⟨ahead, control⟩ | ⟨frame, desk, received⟩ |
    ⟨answer, control⟩ | plain
  · have acting : ∀ answer, m.control ≠ .answer answer := by simp [control]
    have kept : (m.step behave).pending = m.pending := by
      rw [step_of_submit behave control]
      rfl
    rw [told_of_not_answer acting, kept]
    simp only [entries, control]
    split <;> exact .refl _
  · have acting : ∀ answer, m.control ≠ .answer answer := by simp [control]
    have evicting : (m.step behave).pending =
        (m.desk.evict (m.desk.now + ahead)).1 ++ m.pending := by
      simp only [step, control, perform]
      exact expire_pending _ _ _
    have unresolved : (m.entries.filter fun entry => entry.fate = .resolved) = [] := by
      rw [List.filter_eq_nil_iff]
      intro entry made
      simp only [entries, control, List.mem_map] at made
      obtain ⟨evicted, -, rfl⟩ := made
      simp
    rw [told_of_not_answer acting, unresolved, evicting]
    simp [entries, control, Entry.news?, List.filterMap_map, Function.comp_def]
  · have kept : (m.step behave).pending = m.pending := by
      rw [step_of_received behave received]
      exact handle_pending behave frame desk m.stack
    rw [told_of_not_answer (received?_not_answer received), kept, entries_of_received received]
    cases closed : desk.closes? frame with
    | none => exact .refl _
    | some entry =>
      rcases (Desk.closes?_found closed).2 with fate | fate <;> simp [Entry.news?, fate]
  · rw [entries_of_answer control, news_of_answer behave control]
    exact .refl _
  · rw [told_of_not_answer plain.acting, plain.entries, plain.pending behave]
    exact .refl _

/-- A step makes at most one entry of an id. -/
theorem entriesOf_entries (m : Machine H W) (id : String) :
    entriesOf id m.entries = (m.entries.find? fun entry => entry.id = id).toList := by
  have distinct := m.entries_nodup
  unfold entriesOf
  generalize m.entries = made at distinct
  induction made with
  | nil => rfl
  | cons entry rest ih =>
    rw [List.map_cons, List.nodup_cons] at distinct
    by_cases same : entry.id = id
    · have others : rest.filter (fun other => other.id = id) = [] := by
        rw [List.filter_eq_nil_iff]
        intro other member equal
        have twin : other.id = entry.id := by simpa [same] using equal
        exact distinct.1 (twin ▸ List.mem_map_of_mem member)
      simp [same, others]
    · simp [same, ih distinct.2]

/-- A step carries the alternation of an id on. -/
theorem step_alternates (behave : Behaviour H W) (m : Machine H W) (id : String)
    {earlier : List Entry}
    (alternating : Alternates (entriesOf id earlier) (m.desk.calls.find? id)) :
    Alternates (entriesOf id (m.entries ++ earlier)) ((m.step behave).desk.calls.find? id) := by
  have divided : entriesOf id (m.entries ++ earlier) =
      (m.entries.find? fun entry => entry.id = id).toList ++ entriesOf id earlier := by
    rw [← entriesOf_entries]
    exact List.filter_append ..
  rw [divided, step_find?]
  cases made : m.entries.find? fun entry => entry.id = id with
  | none => exact alternating
  | some entry =>
    have same : entry.id = id := by simpa using List.find?_some made
    have before := find?_of_mem_entries (List.mem_of_find?_eq_some made)
    rw [same] at before
    rw [before] at alternating
    exact .cons alternating

end Machine

/-! ## Runs -/

namespace Stage
variable {H W : Type}

theorem pending_of_isIdle {stage : Stage H W} (idle : stage.isIdle = true) :
    stage.machine.pending = [] := by
  unfold isIdle Machine.result? at idle
  split at idle
  · rename_i stack
    rw [Machine.pending, stack]
    rfl
  · cases idle

theorem Begun.pending {desk : Desk H W} {time : Nat} {after : Stage H W}
    (begun : Begun desk time after) :
    after.machine.pending = [] := by
  rcases begun.stack with stack | stack <;> rw [Machine.pending, stack] <;> rfl

theorem entries_of_not_isStep (stage : Stage H W) {move : Move H}
    (unworked : move.isStep = false) : stage.entries move = [] := by
  cases move with
  | work => cases unworked
  | _ => rfl

end Stage

section
variable {H W : Type} {behave : Behaviour H W} {settings : Settings} {credentials : Credentials}
  {page : W} {past : Past H W} {stage : Stage H W}

/-- Under each id submissions and outcomes alternate, and what waits is the latest submission if
it has had no outcome. -/
theorem run_alternates
    (run : SerialRun behave (Stage.opening settings credentials page) past stage) (id : String) :
    Alternates (entriesOf id (ledger past)) (stage.desk.calls.find? id) := by
  induction run with
  | start => exact .nil
  | @next past stage after move before made ih =>
    cases Stage.moved_of_next made with
    | worked => exact Machine.step_alternates behave stage.machine id ih
    | begun _ _ unworked _ begun =>
      have calls : after.desk.calls = stage.desk.calls := (Stage.begun_of_begin begun).books.calls
      rw [calls]
      simpa only [ledger, List.flatMap_cons, stage.entries_of_not_isStep unworked, List.nil_append]
        using ih
    | exchanged place =>
      rw [stage.find?_exchange]
      exact ih

/-- All news is told or waits on the stack. -/
theorem run_news
    (run : SerialRun behave (Stage.opening settings credentials page) past stage) :
    ((ledger past).filterMap Entry.news?).Perm (toldIn past ++ stage.machine.pending) := by
  induction run with
  | start => exact .refl _
  | @next past stage after move before made ih =>
    cases Stage.moved_of_next made with
    | worked =>
      have step := Machine.step_news behave stage.machine
      have divided : (ledger ((stage, .work) :: past)).filterMap Entry.news? =
          stage.machine.entries.filterMap Entry.news? ++ (ledger past).filterMap Entry.news? :=
        List.filterMap_append ..
      have told : toldIn ((stage, .work) :: past) = stage.machine.told ++ toldIn past := rfl
      rw [divided, told, List.append_assoc]
      have earlier := ih.append_left (stage.machine.entries.filterMap Entry.news?)
      have sorted := earlier.trans (List.perm_append_comm_assoc ..)
      exact (sorted.trans (step.append_left (toldIn past))).trans (List.perm_append_comm_assoc ..)
    | begun _ _ unworked idle begun =>
      rw [Stage.pending_of_isIdle idle] at ih
      rw [(Stage.begun_of_begin begun).pending]
      have entries : ledger ((stage, move) :: past) = ledger past := by
        simp only [ledger, List.flatMap_cons, stage.entries_of_not_isStep unworked, List.nil_append]
      have told : toldIn ((stage, move) :: past) = toldIn past := by
        cases move with
        | work => cases unworked
        | _ => rfl
      rw [entries, told]
      exact ih
    | exchanged place => exact ih

/-- Every request gets exactly one outcome, whatever happens in whatever order. The submissions of
an id are its responses, errors and expiries, and the one that waits; they alternate with them, and
an outcome has the record of the submission before it. Of each response and each expiry the callback
of the id is told once, an expired request when its turn has come; and each step that tells of an
outcome runs the callback that is registered then, once, with the args of the request. -/
theorem correlation_exactly_once
    (run : SerialRun behave (Stage.opening settings credentials page) past stage) (id : String) :
    tally .submitted id (ledger past) =
        tally .resolved id (ledger past) + tally .abandoned id (ledger past) +
          tally .expired id (ledger past) + (if stage.desk.calls.contains id then 1 else 0) ∧
      Alternates (entriesOf id (ledger past)) (stage.desk.calls.find? id) ∧
      ((ledger past).filterMap Entry.news?).Perm (toldIn past ++ stage.machine.pending) ∧
      ∀ moved ∈ past, moved.2 = .work → moved.1.machine.TellsOnce behave := by
  have alternating := run_alternates run id
  refine ⟨?_, alternating, run_news run, ?_⟩
  · have balance := alternating.balance
    simp only [tally_eq_countP, Table.contains_eq_isSome]
    exact balance
  · intro moved _ _
    exact moved.1.machine.tellsOnce behave

end

def usersResponse : Incoming :=
  { kind := .response, code := 200, content := "[\"\",null,[\"users\"],null,null]" }

/-- A request expires and the next one gets a response; the callback asks again both times. -/
def askingAgain : List (Move Unit) :=
  [.lay true, .dial, .opened (.ok 0), .act (.register "users" () .durable), .work,
    .act (.submit { handler := "users.list", target := .named "users" }), .work,
    .advance 30000, .act (.expire 0)] ++ List.replicate 8 .work ++
    [.act (.handle usersResponse)] ++ List.replicate 6 .work

theorem correlation_exactly_once_asking_again : ∃ past stage,
    SerialRun asking (Stage.opening {} default ()) past stage ∧
      tally .submitted "users" (ledger past) = 3 ∧ tally .expired "users" (ledger past) = 1 ∧
      tally .resolved "users" (ledger past) = 1 ∧
      (toldIn past).map Prod.fst = ["users", "users"] ∧ stage.isIdle = true ∧
      tally .submitted "users" (ledger past) =
        tally .resolved "users" (ledger past) + tally .abandoned "users" (ledger past) +
          tally .expired "users" (ledger past) +
          (if stage.desk.calls.contains "users" then 1 else 0) := by
  have counted : ((Stage.follow asking askingAgain ([], .opening {} default ())).map fun reached =>
      (tally .submitted "users" (ledger reached.1), tally .expired "users" (ledger reached.1),
        tally .resolved "users" (ledger reached.1), (toldIn reached.1).map Prod.fst,
        reached.2.isIdle)) = some (3, 1, 1, ["users", "users"], true) := by
    decide +kernel
  obtain ⟨⟨past, stage⟩, reached, numbers⟩ := Option.map_eq_some_iff.mp counted
  simp only [Prod.mk.injEq] at numbers
  obtain ⟨submitted, expired, resolved, told, idle⟩ := numbers
  have run : SerialRun asking (Stage.opening {} default ()) past stage :=
    SerialRun.start.follow reached
  exact ⟨past, stage, run, submitted, expired, resolved, told, idle,
    (correlation_exactly_once run "users").1⟩

end PageSession.Exchange
