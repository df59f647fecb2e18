import PageSession.Proofs.Exchange.SerialRun
import PageSession.Proofs.Exchange.InlineReplies

/-!
Callbacks that live once, as long as only submissions make them. Such a callback stands for a
request that waits under its id or was evicted and still has to be told, so none is left behind
between operations. It is handed one reply at most, since it leaves the table before its handler
runs.
-/
namespace PageSession.Exchange
open Message

namespace Machine
variable {H W : Type}

def registersOnce (m : Machine H W) : Bool :=
  match m.control with
  | .perform (.register _ _ lifetime) => lifetime = .once
  | _ => false

def registers (own : H → Bool) (m : Machine H W) : Bool :=
  match m.control with
  | .perform (.register _ h _) => own h
  | _ => false

/-- The next step hands a reply to the callback of the id, if there is one. -/
def hears (id : String) (m : Machine H W) : Bool :=
  (m.told.any fun request => request.1 = id) ||
    match m.control with
    | .perform (.invoke other _) => other = id
    | _ => false

/-- Where the callback of an id comes from that is there after a step. -/
inductive FiledBy (m : Machine H W) (id : String) (callback : Callback H) : Prop
  | kept (unfiled : m.files id = false) (before : m.desk.callbacks.find? id = some callback)
  | byHand
    (control : m.control = .perform (.register id callback.handler callback.lifetime))
  | submitted (s : Submission H) (inline : m.inline? = some (s, callback.handler, id))
    (once : callback.lifetime = .once)

theorem filedBy_of_step {behave : Behaviour H W} {m : Machine H W} {id : String}
    {callback : Callback H} (found : (m.step behave).desk.callbacks.find? id = some callback) :
    m.FiledBy id callback := by
  by_cases unfiled : m.files id = false
  · refine .kept unfiled ?_
    rcases loses_step behave unfiled with same | gone
    · rwa [← same]
    · rw [gone] at found
      cases found
  · rw [Bool.not_eq_false] at unfiled
    unfold files at unfiled
    split at unfiled
    · rename_i other h lifetime control
      obtain rfl : other = id := of_decide_eq_true unfiled
      have filed : (m.step behave).desk.callbacks =
          m.desk.callbacks.insert other { handler := h, lifetime } := by
        simp only [step, control, perform]
        rfl
      rw [filed, Table.find?_insert, if_pos rfl] at found
      cases found
      exact .byHand control
    · rename_i s control
      split at unfiled
      · rename_i h name own accepted
        obtain rfl : name = id := of_decide_eq_true unfiled
        rw [step_submit behave control, (Desk.sameBooks_enlist _).callbacks,
          Desk.submit_files own accepted] at found
        cases found
        exact .submitted s (by simp only [inline?, control, own, accepted]) rfl
      · cases unfiled
    · cases unfiled

/-- A callback that lives once and is handed a reply is gone after the step. -/
theorem once_of_hears (behave : Behaviour H W) {m : Machine H W} {id : String} {h : H}
    (once : m.desk.callbacks.find? id = some { handler := h, lifetime := .once })
    (hears : m.hears id = true) : (m.step behave).desk.callbacks.find? id = none := by
  rcases Bool.or_eq_true .. ▸ hears with told | direct
  · obtain ⟨⟨name, call⟩, telling, same⟩ := List.any_eq_true.mp told
    obtain rfl : name = id := of_decide_eq_true same
    exact once_of_told behave once telling
  · split at direct
    · rename_i other reply control
      obtain rfl : other = id := of_decide_eq_true direct
      simp only [step, control, perform]
      exact deliver_once once
    · cases direct

/-! ## What a callback that lives once stands for -/

/-- A request waits under the id, or one was evicted under it that has not been told yet. -/
def Backs (m : Machine H W) (id : String) : Prop :=
  m.desk.calls.contains id = true ∨ ∃ call, (id, call) ∈ m.pending

/-- Every callback that lives once stands for a request. -/
def IsBacked (m : Machine H W) : Prop :=
  ∀ id h, m.desk.callbacks.find? id = some { handler := h, lifetime := .once } → m.Backs id

/-- A request goes on to back its id until the callback is told of it or it is abandoned. -/
theorem Backs.step {behave : Behaviour H W} {m : Machine H W} {id : String} (backs : m.Backs id)
    (untold : ∀ call, (id, call) ∉ m.told)
    (unabandoned : ∀ entry ∈ m.entries, entry.id = id → entry.fate ≠ .abandoned) :
    (m.step behave).Backs id := by
  rcases backs with waiting | ⟨call, pending⟩
  · cases made : m.entries.find? fun entry => entry.id = id with
    | none =>
      left
      rw [Table.contains_eq_isSome, step_find?, made]
      rwa [Table.contains_eq_isSome] at waiting
    | some entry =>
      have listed := List.mem_of_find?_eq_some made
      have same : entry.id = id := by simpa using List.find?_some made
      have before := find?_of_mem_entries listed
      have living := unabandoned entry listed same
      obtain ⟨fate, name, record⟩ := entry
      dsimp only at same living
      subst same
      cases fate with
      | submitted =>
        rw [Table.contains_eq_isSome, before] at waiting
        cases waiting
      | resolved => exact absurd (told_of_resolved listed) (untold record)
      | abandoned => exact absurd rfl living
      | expired => exact .inr ⟨record, (mem_step_of_expired behave listed).resolve_left (untold _)⟩
  · exact .inr ⟨call, (mem_step_of_pending behave pending).resolve_left (untold call)⟩

theorem IsBacked.step {behave : Behaviour H W} {m : Machine H W} (backed : m.IsBacked)
    (lawful : m.registersOnce = false) : (m.step behave).IsBacked := by
  intro id h once
  have gone : ¬(m.step behave).desk.callbacks.find? id = none := by
    rw [once]
    exact Option.some_ne_none _
  cases filedBy_of_step once with
  | kept unfiled before =>
    refine (backed id h before).step (fun call telling => ?_) fun entry made same fate => ?_
    · exact gone (once_of_told behave before telling)
    · subst same
      exact gone (once_of_abandoned behave before made fate)
  | byHand control =>
    simp only [registersOnce, control] at lawful
    cases lawful
  | submitted s inline lives =>
    obtain ⟨control, -, accepted⟩ := inline?_eq_some inline
    left
    rw [step_submit behave control, (Desk.sameBooks_enlist _).calls,
      (Desk.submit_accepted (Prod.ext accepted rfl)).2, Table.contains_eq_isSome,
      Table.find?_insert, if_pos rfl]
    rfl

/-! ## How often handlers run -/

end Machine

def isReplyTo {H : Type} (own : H → Bool) : H × Invocation → Bool
  | (h, .reply _) => own h
  | _ => false

namespace Machine
variable {H W : Type}

/-- The next step accepts a submission with one of these handlers as its own. -/
def submitsOwn (own : H → Bool) (m : Machine H W) : Bool :=
  m.inline?.any fun inline => own inline.2.1

/-- How many callbacks have one of these handlers. -/
def held (own : H → Bool) (m : Machine H W) : Nat :=
  m.desk.callbacks.entries.countP fun entry => own entry.2.handler

/-- A step brings no reply to a handler, or hands one to the callback of an id. -/
theorem replies_cases (behave : Behaviour H W) (m : Machine H W) :
    (∀ h reply, (h, Invocation.reply reply) ∉ m.invocations behave) ∨
      ∃ id reply, m.hears id = true ∧
        m.invocations behave = ((m.desk.callbacks.find? id).map fun callback =>
          (callback.handler, Invocation.reply reply)).toList := by
  cases told : m.told with
  | cons request rest =>
    have telling : (request.1, request.2) ∈ m.told := told ▸ List.mem_cons_self ..
    obtain ⟨reply, -, heard⟩ := (m.tellsOnce behave).told _ _ telling
    refine .inr ⟨request.1, reply, ?_, heard⟩
    simp [hears, told]
  | nil =>
    by_cases direct : ∃ id reply, m.control = .perform (.invoke id reply)
    · obtain ⟨id, reply, control⟩ := direct
      have delivering : m.step behave = deliver behave id reply m.desk m.stack := by
        simp only [step, control, perform]
      exact .inr ⟨id, reply, by simp [hears, control],
        invocations_of_deliver delivering rfl (.of_log rfl)⟩
    · exact .inl ((m.tellsOnce behave).only told
        fun id reply control => direct ⟨id, reply, control⟩)

/-- The callback that the next step files for a submission with one of these handlers. -/
def filing (own : H → Bool) (m : Machine H W) : List (String × Callback H) :=
  (m.inline?.filter fun inline => own inline.2.1).toList.map fun inline =>
    (inline.2.2, { handler := inline.2.1, lifetime := .once })

theorem length_filing (own : H → Bool) (m : Machine H W) :
    (m.filing own).length = if m.submitsOwn own then 1 else 0 := by
  unfold filing submitsOwn
  cases m.inline? with
  | none => rfl
  | some inline => cases mine : own inline.2.1 <;> simp [mine]

/-- Whatever a step takes away of these callbacks, only a submission adds one. -/
theorem held_add_le (behave : Behaviour H W) {m : Machine H W} {own : H → Bool}
    (unregistered : m.registers own = false) {lost : List (String × Callback H)}
    (distinct : lost.Nodup)
    (gone : ∀ entry ∈ lost, own entry.2.handler = true ∧
      m.desk.callbacks.find? entry.1 = some entry.2 ∧
      (m.step behave).desk.callbacks.find? entry.1 ≠ some entry.2) :
    lost.length + (m.step behave).held own ≤ (if m.submitsOwn own then 1 else 0) + m.held own := by
  rw [← length_filing]
  refine Table.countP_add_le distinct gone fun id callback found mine => ?_
  cases filedBy_of_step found with
  | kept unfiled before => exact .inl before
  | byHand control =>
    simp only [registers, control, mine] at unregistered
    cases unregistered
  | submitted s inline once =>
    obtain ⟨h, lifetime⟩ := callback
    cases once
    refine .inr (List.mem_map.mpr ⟨(s, h, id), ?_, rfl⟩)
    rw [Option.mem_toList, Option.filter_eq_some_iff]
    exact ⟨inline, mine⟩

/-- A handler that runs gives its place up. -/
theorem held_step (behave : Behaviour H W) {m : Machine H W} {own : H → Bool}
    (unregistered : m.registers own = false)
    (once : ∀ id callback, m.desk.callbacks.find? id = some callback →
      own callback.handler = true → callback.lifetime = .once) :
    (m.invocations behave).countP (isReplyTo own) + (m.step behave).held own ≤
      (if m.submitsOwn own then 1 else 0) + m.held own := by
  by_cases unheard : (m.invocations behave).countP (isReplyTo own) = 0
  · rw [unheard]
    exact held_add_le behave unregistered List.nodup_nil (by simp)
  · obtain ⟨⟨h, invocation⟩, started, mine⟩ := List.countP_pos_iff.mp (Nat.pos_of_ne_zero unheard)
    cases invocation with
    | method | update => cases mine
    | reply reply =>
      rcases replies_cases behave m with silent | ⟨id, other, hears, heard⟩
      · exact absurd started (silent h reply)
      · rw [heard, Option.mem_toList] at started
        obtain ⟨⟨holder, lifetime⟩, found, same⟩ := Option.map_eq_some_iff.mp started
        cases same
        cases once id _ found mine
        have gone := once_of_hears behave found hears
        have once : (m.invocations behave).countP (isReplyTo own) = 1 := by
          rw [heard, found]
          exact List.countP_singleton.trans (if_pos mine)
        rw [once]
        refine held_add_le behave unregistered
          (List.nodup_singleton (id, { handler := holder, lifetime := .once }))
          fun entry member => ?_
        rw [List.mem_singleton.mp member]
        exact ⟨mine, found, by simp [gone]⟩

end Machine

/-- The handlers that have begun to run, with what they were given, the latest first. -/
def startsIn {H W : Type} (behave : Behaviour H W) (past : Past H W) : List (H × Invocation) :=
  past.flatMap fun moved => if moved.2.isStep then moved.1.machine.invocations behave else []

/-- How many submissions were accepted with one of these handlers as their own. -/
def submittedIn {H W : Type} (own : H → Bool) (past : Past H W) : Nat :=
  past.countP fun moved => moved.2.isStep && moved.1.machine.submitsOwn own

theorem startsIn_cons {H W : Type} (behave : Behaviour H W) (stage : Stage H W) (move : Move H)
    (past : Past H W) : startsIn behave ((stage, move) :: past) =
      (if move.isStep then stage.machine.invocations behave else []) ++ startsIn behave past :=
  List.flatMap_cons ..

theorem submittedIn_cons {H W : Type} (own : H → Bool) (stage : Stage H W) (move : Move H)
    (past : Past H W) : submittedIn own ((stage, move) :: past) =
      submittedIn own past + if move.isStep && stage.machine.submitsOwn own then 1 else 0 :=
  List.countP_cons ..

/-- How often the callback of an id has begun to run since it was filed, which is until another one
is filed in its place. -/
def runsSince {H W : Type} (id : String) : Past H W → Nat
  | [] => 0
  | (stage, move) :: since =>
    runsSince id since +
      if (move.isStep && stage.machine.hears id && stage.desk.callbacks.contains id) = true ∧
        ¬Stepped (Machine.files id) since then 1 else 0

section
variable {H W : Type} {behave : Behaviour H W} {settings : Settings} {credentials : Credentials}
  {page : W} {start stage : Stage H W} {past since : Past H W}

/-- On every run without further callbacks by hand that live once, each of them stands for a
request. -/
theorem run_backed (run : SerialRun behave (Stage.opening settings credentials page) past stage)
    (lawful : ¬Stepped Machine.registersOnce past) : stage.machine.IsBacked := by
  induction run with
  | start => exact fun id h found => by cases found
  | @next past stage after move before made ih =>
    rw [stepped_cons, not_or, Bool.not_eq_true] at lawful
    have backed := ih lawful.2
    cases Stage.moved_of_next made with
    | worked => exact backed.step lawful.1
    | begun _ _ _ idle begins =>
      have books := (Stage.begun_of_begin begins).books
      intro id h once
      have earlier : stage.machine.desk.callbacks.find? id = _ :=
        (congrArg (Table.find? · id) books.callbacks).symm.trans once
      rcases backed id h earlier with waiting | ⟨call, pending⟩
      · exact .inl ((congrArg (Table.contains · id) books.calls).trans waiting)
      · rw [Stage.pending_of_isIdle idle] at pending
        cases pending
    | exchanged place =>
      intro id h once
      refine (backed id h once).imp_left fun waiting => ?_
      rw [Table.contains_eq_isSome] at waiting ⊢
      exact (congrArg Option.isSome (Table.find?_exchange ..)).trans waiting

/-- Every callback that lives once belongs to a submission: it is the own handler of one that was
accepted under its id, and no other one has been filed under the id since. -/
theorem run_owned (run : SerialRun behave (Stage.opening settings credentials page) past stage)
    (lawful : ¬Stepped Machine.registersOnce past) {id : String} {h : H}
    (once : stage.desk.callbacks.find? id = some { handler := h, lifetime := .once }) :
    ∃ since first earlier s, past = since ++ (first, .work) :: earlier ∧
      first.machine.inline? = some (s, h, id) ∧ ¬Stepped (Machine.files id) since := by
  induction run with
  | start => cases once
  | @next past stage after move before made ih =>
    rw [stepped_cons, not_or, Bool.not_eq_true] at lawful
    have onward (kept : stage.desk.callbacks.find? id = some { handler := h, lifetime := .once })
        (unfiled : (move.isStep && stage.machine.files id) = false) :
        ∃ since first earlier s, (stage, move) :: past = since ++ (first, .work) :: earlier ∧
          first.machine.inline? = some (s, h, id) ∧ ¬Stepped (Machine.files id) since := by
      obtain ⟨since, first, earlier, s, rfl, inline, quiet⟩ := ih lawful.2 kept
      refine ⟨(stage, move) :: since, first, earlier, s, rfl, inline, ?_⟩
      rw [stepped_cons, unfiled]
      simpa using quiet
    cases Stage.moved_of_next made with
    | worked =>
      cases Machine.filedBy_of_step once with
      | kept unfiled before => exact onward before (by simp [unfiled])
      | byHand control => simp [Machine.registersOnce, control, Move.isStep] at lawful
      | submitted s inline lives => exact ⟨[], stage, past, s, rfl, inline, not_stepped_nil⟩
    | begun _ _ unworked _ begins =>
      have books := (Stage.begun_of_begin begins).books
      refine onward ((congrArg (Table.find? · id) books.callbacks).symm.trans once) ?_
      rw [unworked, Bool.false_and]
    | exchanged place => exact onward once rfl

/-- A move that files nothing under an id leaves its callback there or takes it away. -/
theorem loses_next {id : String} {move : Move H} {after : Stage H W}
    (made : stage.next behave move = some after)
    (unfiled : ¬(move.isStep && stage.machine.files id) = true) :
    Desk.Loses id stage.desk after.desk := by
  cases Stage.moved_of_next made with
  | worked => exact Machine.loses_step behave (Bool.not_eq_true _ ▸ unfiled)
  | begun _ _ _ _ begins =>
    exact .of_callbacks (Stage.begun_of_begin begins).books.callbacks id
  | exchanged place => exact .of_callbacks rfl id

/-- A callback that lives once runs once at most, and as long as no other one is filed under its id,
it is there until it runs. -/
theorem runsSince_le_one {id : String} {h : H}
    (filed : start.desk.callbacks.find? id = some { handler := h, lifetime := .once })
    (run : SerialRun behave start since stage) :
    runsSince id since ≤ 1 ∧ (¬Stepped (Machine.files id) since →
      (stage.desk.callbacks.find? id = some { handler := h, lifetime := .once } ∧
        runsSince id since = 0) ∨ stage.desk.callbacks.find? id = none) := by
  induction run with
  | start => exact ⟨Nat.zero_le _, fun _ => .inl ⟨filed, rfl⟩⟩
  | @next since stage after move before made ih =>
    obtain ⟨few, kept⟩ := ih
    rw [runsSince, stepped_cons, not_or]
    split
    · rename_i ran
      simp only [Bool.and_eq_true] at ran
      obtain ⟨⟨⟨step, hears⟩, there⟩, unfiled⟩ := ran
      rcases kept unfiled with ⟨once, unheard⟩ | gone
      · have gone : after.desk.callbacks.find? id = none := by
          cases Stage.moved_of_next made with
          | worked => exact Machine.once_of_hears behave once hears
          | begun _ _ unworked => cases unworked.symm.trans step
          | exchanged place => cases step
        exact ⟨by omega, fun _ => .inr gone⟩
      · rw [Table.contains_eq_isSome, gone] at there
        cases there
    · refine ⟨few, fun ⟨unfiled, quiet⟩ => ?_⟩
      rcases loses_next made unfiled with same | gone
      · rw [same]
        exact kept quiet
      · exact .inr gone

/-- Handlers that nobody registers by hand run with a reply no more often than they are submitted:
each callback that holds one of them stands for a submission whose handler has not run. -/
theorem replies_le_submitted {own : H → Bool}
    (run : SerialRun behave (Stage.opening settings credentials page) past stage)
    (unregistered : ¬Stepped (Machine.registers own) past) :
    (∀ id callback, stage.desk.callbacks.find? id = some callback →
        own callback.handler = true → callback.lifetime = .once) ∧
      (startsIn behave past).countP (isReplyTo own) + stage.machine.held own ≤
        submittedIn own past := by
  induction run with
  | start => exact ⟨fun id callback found => (by cases found), Nat.le_refl _⟩
  | @next past stage after move before made ih =>
    rw [stepped_cons, not_or, Bool.not_eq_true] at unregistered
    obtain ⟨once, few⟩ := ih unregistered.2
    rw [startsIn_cons, submittedIn_cons, List.countP_append]
    cases Stage.moved_of_next made with
    | worked =>
      refine ⟨fun id callback found mine => ?_, ?_⟩
      · cases Machine.filedBy_of_step found with
        | kept unfiled before => exact once id callback before mine
        | byHand control =>
          simp [Move.isStep, Machine.registers, control, mine] at unregistered
        | submitted s inline lives => exact lives
      · have balance := Machine.held_step behave unregistered.1 once
        rw [show (Move.work : Move H).isStep = true from rfl, if_pos rfl, Bool.true_and]
        dsimp only
        omega
    | begun _ _ unworked _ begins =>
      have same : after.machine.desk.callbacks = stage.machine.desk.callbacks :=
        (Stage.begun_of_begin begins).books.callbacks
      rw [unworked, Stage.desk, Machine.held, same]
      simpa using ⟨once, few⟩
    | exchanged place => simpa [Move.isStep] using ⟨once, few⟩

/-- Callbacks that live once neither stay nor repeat, if only submissions make them, whatever else
happens in whatever order. Between operations each of them has a request that waits under its id. At
every stage each of them belongs to a submission that was accepted under its id. The handler of each
submission runs once at most; and handlers that only submissions bring run with a reply no more
often than they were submitted, over the whole run. -/
theorem once_callbacks_neither_stay_nor_repeat
    (run : SerialRun behave (Stage.opening settings credentials page) past stage)
    (lawful : ¬Stepped Machine.registersOnce past) :
    (stage.isIdle = true → ∀ id h,
      stage.desk.callbacks.find? id = some { handler := h, lifetime := .once } →
        stage.desk.calls.contains id = true) ∧
    (∀ id h, stage.desk.callbacks.find? id = some { handler := h, lifetime := .once } →
      ∃ since first earlier s, past = since ++ (first, .work) :: earlier ∧
        first.machine.inline? = some (s, h, id) ∧ ¬Stepped (Machine.files id) since) ∧
    (∀ since first earlier s h id, past = since ++ (first, .work) :: earlier →
      first.machine.inline? = some (s, h, id) → runsSince id since ≤ 1) ∧
    ∀ own, ¬Stepped (Machine.registers own) past →
      (startsIn behave past).countP (isReplyTo own) ≤ submittedIn own past := by
  refine ⟨fun idle id h once => ?_, fun id h once => run_owned run lawful once,
    fun since first earlier s h id divided inline => ?_, fun own unregistered => ?_⟩
  · rcases run_backed run lawful id h once with waiting | ⟨call, pending⟩
    · exact waiting
    · rw [Stage.pending_of_isIdle idle] at pending
      cases pending
  · subst divided
    obtain ⟨after, -, made, onward⟩ := run.divide
    obtain ⟨control, target, accepted⟩ := Machine.inline?_eq_some inline
    have filed : after.desk.callbacks.find? id = some { handler := h, lifetime := .once } := by
      cases Stage.moved_of_next made with
      | worked => exact filed_of_submit control target accepted
      | begun _ _ unworked => cases unworked
    exact (runsSince_le_one filed onward).1
  · exact Nat.le_trans (Nat.le_add_right ..) (replies_le_submitted run unregistered).2

end

/-- A request with a handler of its own expires, and the handler sends another one. -/
def relayAfterExpiry : List (Move Bool) :=
  [.lay true, .dial, .opened (.ok 0),
    .act (.submit { handler := "users.list", target := .inline false }), .work,
    .exchange 0, .advance 30000, .act (.expire 0), .work, .work, .work, .work, .work, .work, .work,
    .work]

theorem once_callbacks_neither_stay_nor_repeat_relaying : ∃ past stage,
    SerialRun relaying (Stage.opening {} default ()) past stage ∧
      ¬Stepped Machine.registersOnce past ∧ stage.isIdle = true ∧
      stage.desk.callbacks.find? "cb-1" = some { handler := true, lifetime := .once } ∧
      stage.desk.calls.contains "cb-1" = true ∧
      (startsIn relaying past).countP (isReplyTo fun h => !h) = 1 ∧
      submittedIn (fun h => !h) past = 1 := by
  have reaches : ((Stage.follow relaying relayAfterExpiry ([], .opening {} default ())).map
      fun reached => decide (¬Stepped Machine.registersOnce reached.1 ∧
        ¬Stepped (Machine.registers fun h => !h) reached.1 ∧ reached.2.isIdle = true ∧
        ((reached.2.desk.callbacks.find? "cb-1").map fun callback =>
          (callback.handler, callback.lifetime)) = some (true, .once) ∧
        (startsIn relaying reached.1).countP (isReplyTo fun h => !h) ≠ 0 ∧
        submittedIn (fun h => !h) reached.1 = 1)) = some true := by
    decide +kernel
  obtain ⟨⟨past, stage⟩, reached, facts⟩ := Option.map_eq_some_iff.mp reaches
  obtain ⟨lawful, unregistered, idle, callback, heard, submitted⟩ := of_decide_eq_true facts
  obtain ⟨⟨h, lifetime⟩, once, same⟩ := Option.map_eq_some_iff.mp callback
  cases same
  have run : SerialRun relaying (Stage.opening {} default ()) past stage :=
    SerialRun.start.follow reached
  obtain ⟨backed, -, -, few⟩ := once_callbacks_neither_stay_nor_repeat run lawful
  have bound := few _ unregistered
  rw [submitted] at bound
  exact ⟨past, stage, run, lawful, idle, once, backed idle "cb-1" true once,
    Nat.le_antisymm bound (Nat.pos_of_ne_zero heard), submitted⟩

end PageSession.Exchange
