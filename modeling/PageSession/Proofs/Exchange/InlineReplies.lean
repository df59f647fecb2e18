import PageSession.Proofs.Exchange.Callbacks
import PageSession.Proofs.Exchange.InlineIds
import PageSession.Proofs.Exchange.Executions

/-!
Handlers of their own and the replies that they get. A submission files its record and its handler
under one id; the handler then hears of this record and of no other one, unless an id is reused:
somebody submits under it while a request that was evicted under it still waits for its turn to be
told. The callback under the id then hears of whichever request is told first.
-/
namespace PageSession.Exchange
open Json Message

namespace Machine
variable {H W : Type}

/-- The next step submits under the id, and an evicted request of the id still has to be told. -/
def reuses (id : String) (m : Machine H W) : Bool :=
  match m.control with
  | .perform (.submit s) =>
    (m.desk.submit s).1 = some (.ok id) && m.pending.any fun request => request.1 = id
  | _ => false

theorem reuses_iff {id : String} {m : Machine H W} :
    m.reuses id = true ↔ ∃ s call, m.control = .perform (.submit s) ∧
      (m.desk.submit s).1 = some (.ok id) ∧ (id, call) ∈ m.pending := by
  unfold reuses
  split
  · rename_i s control
    constructor
    · intro again
      simp only [Bool.and_eq_true, decide_eq_true_eq, List.any_eq_true] at again
      obtain ⟨accepted, ⟨name, call⟩, waiting, same⟩ := again
      exact ⟨s, call, control, accepted, same ▸ waiting⟩
    · rintro ⟨other, call, same, accepted, waiting⟩
      cases control.symm.trans same
      rw [Bool.and_eq_true, decide_eq_true_eq, List.any_eq_true]
      exact ⟨accepted, (id, call), waiting, by simp⟩
  · rename_i others
    constructor
    · intro impossible
      cases impossible
    · rintro ⟨s, call, control, -, -⟩
      exact absurd control (others s)

/-- What waits to be told after a step has waited before, or has got its outcome in the step. -/
theorem mem_pending_of_step {behave : Behaviour H W} {m : Machine H W} {id : String} {call : Call}
    (waiting : (id, call) ∈ (m.step behave).pending) :
    (id, call) ∈ m.pending ∨ ∃ entry ∈ m.entries, entry.id = id ∧ entry.call = call ∧
      entry.fate ≠ .submitted := by
  have news := (m.step_news behave).mem_iff.mpr (List.mem_append_right m.told waiting)
  rcases List.mem_append.mp news with fresh | before
  · obtain ⟨⟨fate, name, record⟩, made, same⟩ := List.mem_filterMap.mp fresh
    cases fate <;> cases same
    · exact .inr ⟨_, made, rfl, rfl, by simp⟩
    · exact .inr ⟨_, made, rfl, rfl, by simp⟩
  · exact .inl before

/-- What waits to be told is told or goes on waiting. -/
theorem mem_step_of_pending (behave : Behaviour H W) {m : Machine H W} {request : String × Call}
    (waiting : request ∈ m.pending) : request ∈ m.told ∨ request ∈ (m.step behave).pending :=
  List.mem_append.mp
    ((m.step_news behave).mem_iff.mp (List.mem_append_right _ waiting))

/-- A request that expires is told or waits to be told. -/
theorem mem_step_of_expired (behave : Behaviour H W) {m : Machine H W} {id : String} {call : Call}
    (made : ({ fate := .expired, id, call } : Entry) ∈ m.entries) :
    (id, call) ∈ m.told ∨ (id, call) ∈ (m.step behave).pending :=
  List.mem_append.mp ((m.step_news behave).mem_iff.mp
    (List.mem_append_left _ (List.mem_filterMap.mpr ⟨_, made, rfl⟩)))

/-- A request that a response resolves is told in the same step. -/
theorem told_of_resolved {m : Machine H W} {id : String} {call : Call}
    (made : ({ fate := .resolved, id, call } : Entry) ∈ m.entries) : (id, call) ∈ m.told := by
  have acting : ∀ answer, m.control ≠ .answer answer := by
    intro answer control
    rw [entries_of_answer control] at made
    cases made
  rw [told_of_not_answer acting]
  exact List.mem_map.mpr ⟨_, List.mem_filter.mpr ⟨made, by simp⟩, rfl⟩

/-- The only entry of an id in a step. -/
theorem entriesOf_of_mem {m : Machine H W} {entry : Entry} (made : entry ∈ m.entries) :
    entriesOf entry.id m.entries = [entry] := by
  have listed : entry ∈ entriesOf entry.id m.entries := List.mem_filter.mpr ⟨made, by simp⟩
  rw [entriesOf_entries] at listed ⊢
  rw [Option.mem_toList] at listed
  rw [listed]
  rfl

end Machine

section
variable {H W : Type}

def Stage.files (id : String) (stage : Stage H W) : Move H → Bool
  | .work => stage.machine.files id
  | _ => false

def Stage.reuses (id : String) (stage : Stage H W) : Move H → Bool
  | .work => stage.machine.reuses id
  | _ => false

def FiledIn (past : Past H W) (id : String) : Prop :=
  ∃ moved ∈ past, moved.1.files id moved.2 = true

/-- A request was sent under the id while one that was evicted under it had not been told yet. -/
def ReusedIn (past : Past H W) (id : String) : Prop :=
  ∃ moved ∈ past, moved.1.reuses id moved.2 = true

instance (past : Past H W) (id : String) : Decidable (FiledIn past id) :=
  inferInstanceAs (Decidable (∃ moved ∈ past, moved.1.files id moved.2 = true))

instance (past : Past H W) (id : String) : Decidable (ReusedIn past id) :=
  inferInstanceAs (Decidable (∃ moved ∈ past, moved.1.reuses id moved.2 = true))

/-- A handler of its own and the record of its submission, so much later: the record waits, or it
has expired and waits to be told, or the handler is gone. -/
inductive Owned (h : H) (id : String) (call : Call) (later : Past H W) (m : Machine H W) : Prop
  | gone (none : m.desk.callbacks.find? id = none)
  | waiting (mine : m.desk.callbacks.find? id = some { handler := h, lifetime := .once })
      (found : m.desk.calls.find? id = some call) (silent : entriesOf id (ledger later) = [])
      (unevicted : ∀ other, (id, other) ∉ m.pending)
  | expired (mine : m.desk.callbacks.find? id = some { handler := h, lifetime := .once })
      (free : m.desk.calls.find? id = none)
      (entry : entriesOf id (ledger later) = [{ fate := .expired, id, call }])
      (evicted : (id, call) ∈ m.pending) (own : ∀ other, (id, other) ∈ m.pending → other = call)

theorem entriesOf_ledger_work (id : String) (stage : Stage H W) (later : Past H W) :
    entriesOf id (ledger ((stage, .work) :: later)) =
      entriesOf id stage.machine.entries ++ entriesOf id (ledger later) :=
  List.filter_append ..

namespace Owned
variable {behave : Behaviour H W} {h : H} {id : String} {call : Call} {later : Past H W}
  {stage : Stage H W}

/-- The record waits, nobody is told of the id, and the callback stays: the record goes on waiting
or expires. -/
theorem waiting_step
    (mine : stage.desk.callbacks.find? id = some { handler := h, lifetime := .once })
    (found : stage.desk.calls.find? id = some call) (silent : entriesOf id (ledger later) = [])
    (unevicted : ∀ other, (id, other) ∉ stage.machine.pending)
    (untold : ∀ other, (id, other) ∉ stage.machine.told)
    (kept : (stage.machine.step behave).desk.callbacks.find? id =
      stage.desk.callbacks.find? id) :
    Owned h id call ((stage, .work) :: later) (stage.machine.step behave) := by
  cases made : stage.machine.entries.find? fun entry => entry.id = id with
  | none =>
    have nothing : entriesOf id stage.machine.entries = [] := by
      rw [Machine.entriesOf_entries, made]
      rfl
    refine .waiting (kept.trans mine) ?_ ?_ fun other pending => ?_
    · rw [Machine.step_find?, made]
      exact found
    · rw [entriesOf_ledger_work, nothing, silent]
      rfl
    · rcases Machine.mem_pending_of_step pending with before | ⟨entry, listed, same, -, -⟩
      · exact unevicted other before
      · exact absurd same (by simpa using List.find?_eq_none.mp made entry listed)
  | some entry =>
    have listed := List.mem_of_find?_eq_some made
    have same : entry.id = id := by simpa using List.find?_some made
    have before := Machine.find?_of_mem_entries listed
    have only := Machine.entriesOf_of_mem listed
    have next := Machine.step_find? behave stage.machine id
    rw [made] at next
    obtain ⟨fate, name, record⟩ := entry
    dsimp only at same
    subst same
    have waited := found.symm.trans before
    cases fate with
    | submitted => cases waited
    | resolved => exact absurd (Machine.told_of_resolved listed) (untold record)
    | abandoned => exact .gone (Machine.once_of_abandoned behave mine listed rfl)
    | expired =>
      cases waited
      refine .expired (kept.trans mine) next ?_ ?_ fun other pending => ?_
      · rw [entriesOf_ledger_work, only, silent]
        rfl
      · exact (Machine.mem_step_of_expired behave listed).resolve_left (untold _)
      · rcases Machine.mem_pending_of_step pending with before | ⟨entry, twin, same, record, -⟩
        · exact absurd before (unevicted other)
        · have twins : entry ∈ entriesOf name stage.machine.entries :=
            List.mem_filter.mpr ⟨twin, by simp [same]⟩
          rw [only] at twins
          rw [← record, List.mem_singleton.mp twins]

/-- The record has expired, nobody is told of the id, and the callback stays: the record goes on
waiting to be told, since nobody submits under the id. -/
theorem expired_step
    (mine : stage.desk.callbacks.find? id = some { handler := h, lifetime := .once })
    (free : stage.desk.calls.find? id = none)
    (entry : entriesOf id (ledger later) = [{ fate := .expired, id, call }])
    (evicted : (id, call) ∈ stage.machine.pending)
    (own : ∀ other, (id, other) ∈ stage.machine.pending → other = call)
    (unused : stage.machine.reuses id = false)
    (untold : ∀ other, (id, other) ∉ stage.machine.told)
    (kept : (stage.machine.step behave).desk.callbacks.find? id =
      stage.desk.callbacks.find? id) :
    Owned h id call ((stage, .work) :: later) (stage.machine.step behave) := by
  have nothing : (stage.machine.entries.find? fun entry => entry.id = id) = none := by
    refine List.find?_eq_none.mpr fun other listed same => ?_
    rw [decide_eq_true_eq] at same
    have before := Machine.find?_of_mem_entries listed
    rw [same] at before
    have fate : other.fate = .submitted := by
      by_contra outcome
      have waited := free.symm.trans before
      simp [Entry.before, outcome] at waited
    obtain ⟨s, control, accepted, -⟩ := Machine.submit_of_mem_entries listed fate
    rw [same] at accepted
    have again := Machine.reuses_iff.mpr ⟨s, call, control, accepted, evicted⟩
    cases unused.symm.trans again
  refine .expired (kept.trans mine) ?_ ?_ ?_ fun other pending => ?_
  · rw [Machine.step_find?, nothing]
    exact free
  · rw [entriesOf_ledger_work, Machine.entriesOf_entries, nothing, entry]
    rfl
  · exact (Machine.mem_step_of_pending behave evicted).resolve_left (untold call)
  · rcases Machine.mem_pending_of_step pending with before | ⟨twin, listed, same, -, -⟩
    · exact own other before
    · exact absurd same (by simpa using List.find?_eq_none.mp nothing twin listed)

theorem step (owned : Owned h id call later stage.machine)
    (unfiled : stage.machine.files id = false) (unused : stage.machine.reuses id = false) :
    Owned h id call ((stage, .work) :: later) (stage.machine.step behave) := by
  rcases Machine.loses_step behave unfiled with kept | gone
  · by_cases telling : ∃ other, (id, other) ∈ stage.machine.told
    · obtain ⟨other, telling⟩ := telling
      cases owned with
      | gone none => exact .gone (kept.trans none)
      | waiting mine | expired mine => exact .gone (Machine.once_of_told behave mine telling)
    · rw [not_exists] at telling
      cases owned with
      | gone none => exact .gone (kept.trans none)
      | waiting mine found silent unevicted =>
        exact waiting_step mine found silent unevicted telling kept
      | expired mine free entry evicted own =>
        exact expired_step mine free entry evicted own unused telling kept
  · exact .gone gone

/-- What begins between operations is no matter of records and callbacks. -/
theorem begin {move : Move H} {after : Stage H W} (owned : Owned h id call later stage.machine)
    (idle : stage.isIdle = true) (unworked : move.isStep = false)
    (begun : Stage.begin stage.desk stage.aims move = some after) :
    Owned h id call ((stage, move) :: later) after.machine := by
  have keeps := Stage.begun_of_begin begun
  have calls : after.machine.desk.calls = stage.machine.desk.calls := keeps.books.calls
  have callbacks : after.machine.desk.callbacks = stage.machine.desk.callbacks :=
    keeps.books.callbacks
  have same : ledger ((stage, move) :: later) = ledger later := by
    simp only [ledger, List.flatMap_cons, stage.entries_of_not_isStep unworked, List.nil_append]
  cases owned with
  | gone none => exact .gone (callbacks ▸ none)
  | waiting mine found silent =>
    refine .waiting (callbacks ▸ mine) (calls ▸ found) (same ▸ silent) fun other pending => ?_
    rw [keeps.pending] at pending
    cases pending
  | expired _ _ _ evicted =>
    rw [Stage.pending_of_isIdle idle] at evicted
    cases evicted

/-- Nor is the order of the requests. -/
theorem exchange (owned : Owned h id call later stage.machine) (place : Nat) :
    Owned h id call ((stage, .exchange place) :: later) (stage.exchange place).machine := by
  cases owned with
  | gone none => exact .gone none
  | waiting mine found silent unevicted =>
    exact .waiting mine ((stage.find?_exchange place id).trans found) silent unevicted
  | expired mine free entry evicted own =>
    exact .expired mine ((stage.find?_exchange place id).trans free) entry evicted own

/-- A run during which no other callback is filed under the id and the id is not reused. -/
theorem run {start : Stage H W} (owned : Owned h id call [] start.machine)
    (run : SerialRun behave start later stage) (unfiled : ¬FiledIn later id)
    (unused : ¬ReusedIn later id) : Owned h id call later stage.machine := by
  induction run with
  | start => exact owned
  | @next past stage after move before made ih =>
    rw [FiledIn, List.exists_mem_cons_iff, not_or, Bool.not_eq_true] at unfiled
    rw [ReusedIn, List.exists_mem_cons_iff, not_or, Bool.not_eq_true] at unused
    have owned := ih unfiled.2 unused.2
    cases Stage.moved_of_next made with
    | worked => exact owned.step unfiled.1 unused.1
    | begun _ _ unworked idle begun => exact owned.begin idle unworked begun
    | exchanged place => exact owned.exchange place

/-- Whoever is told of the id is told of the record. -/
theorem told {other : Call} (owned : Owned h id call later stage.machine)
    (registered : stage.desk.callbacks.contains id = true)
    (telling : (id, other) ∈ stage.machine.told) :
    other = call ∧ ∃ fate, (fate = .resolved ∨ fate = .expired) ∧
      entriesOf id (ledger ((stage, .work) :: later)) = [{ fate, id, call }] := by
  rw [entriesOf_ledger_work]
  cases owned with
  | gone none =>
    rw [Stage.desk, Table.contains_eq_isSome, none] at registered
    cases registered
  | waiting mine found silent unevicted =>
    rw [silent, List.append_nil]
    rcases Machine.told_cases telling with ⟨answer, rest, count, stack, control, waiting⟩ | resolved
    · refine absurd ?_ (unevicted other)
      rw [Machine.pending, waiting]
      exact List.mem_append_left _ (List.mem_cons_self ..)
    · have before := Machine.find?_of_mem_entries resolved
      cases found.symm.trans before
      exact ⟨rfl, .resolved, .inl rfl, Machine.entriesOf_of_mem resolved⟩
  | expired mine free entry evicted own =>
    rcases Machine.told_cases telling with ⟨answer, rest, count, stack, control, waiting⟩ | resolved
    · refine ⟨own other ?_, .expired, .inr rfl, ?_⟩
      · rw [Machine.pending, waiting]
        exact List.mem_append_left _ (List.mem_cons_self ..)
      · rw [Machine.entries_of_answer control]
        exact entry
    · have before := Machine.find?_of_mem_entries resolved
      cases free.symm.trans before

end Owned

variable {behave : Behaviour H W} {settings : Settings} {credentials : Credentials} {page : W}
  {past later earlier : Past H W} {first stage : Stage H W} {s : Submission H} {h : H} {id : String}

theorem filed_of_submit (control : first.machine.control = .perform (.submit s))
    (own : s.target = .inline h) (accepted : (first.desk.submit s).1 = some (.ok id)) :
    (first.machine.step behave).desk.callbacks.find? id =
      some { handler := h, lifetime := .once } := by
  rw [Machine.step_submit behave control, (Desk.sameBooks_enlist _).callbacks]
  exact Desk.submit_files own accepted

/-- A submission with a handler of its own owns its record, unless it reuses the id. -/
theorem owned_of_submit (control : first.machine.control = .perform (.submit s))
    (own : s.target = .inline h) (accepted : (first.desk.submit s).1 = some (.ok id))
    (unused : first.machine.reuses id = false) :
    Owned h id (first.desk.callOf s) [] (first.machine.step behave) := by
  have recorded := (Desk.submit_accepted (Prod.ext accepted rfl)).2
  refine .waiting (filed_of_submit control own accepted) ?_ rfl fun other pending => ?_
  · rw [Machine.step_submit behave control, (Desk.sameBooks_enlist _).calls]
    exact (congrArg (Table.find? · id) recorded).trans
      ((Table.find?_insert _ id id _).trans (if_pos rfl))
  · rcases Machine.mem_pending_of_step pending with before | ⟨entry, made, -, -, outcome⟩
    · have again := Machine.reuses_iff.mpr ⟨s, other, control, accepted, before⟩
      cases unused.symm.trans again
    · simp only [Machine.entries, control] at made
      split at made
      · rw [List.mem_singleton.mp made] at outcome
        exact outcome rfl
      · cases made

/-- A run during which no callback is filed under the id leaves the one there is or takes it
away. -/
theorem run_loses (run : SerialRun behave first later stage) (unfiled : ¬FiledIn later id) :
    Desk.Loses id first.desk stage.desk := by
  induction run with
  | start => exact .of_callbacks rfl id
  | @next past stage after move before made ih =>
    rw [FiledIn, List.exists_mem_cons_iff, not_or, Bool.not_eq_true] at unfiled
    refine (ih unfiled.2).trans ?_
    cases Stage.moved_of_next made with
    | worked => exact Machine.loses_step behave unfiled.1
    | begun _ _ _ _ begun => exact .of_callbacks (Stage.begun_of_begin begun).books.callbacks id
    | exchanged => exact .of_callbacks rfl id

/-- Whatever waits to be told was submitted by name or under an id from below the counter. -/
theorem run_pending
    (run : SerialRun behave (Stage.opening settings credentials page) past stage) {call : Call}
    (pending : (id, call) ∈ stage.machine.pending) :
    NamedIn past id ∨ ∃ n, n < stage.desk.ids.next ∧ id = CallbackIds.name n := by
  induction run with
  | start => cases pending
  | @next past stage after move before made ih =>
    have earlier (moved : Stage H W × Move H) (waits : (id, call) ∈ stage.machine.pending) :
        NamedIn (moved :: past) id ∨ ∃ n, n < stage.desk.ids.next ∧ id = CallbackIds.name n := by
      rcases ih waits with ⟨naming, member, named⟩ | counted
      · exact .inl ⟨naming, List.mem_cons_of_mem _ member, named⟩
      · exact .inr counted
    cases Stage.moved_of_next made with
    | worked =>
      have counted := Machine.next_le_step behave stage.machine
      have waited : NamedIn past id ∨ ∃ n, n < stage.desk.ids.next ∧ id = CallbackIds.name n := by
        rcases Machine.mem_pending_of_step pending with waits | ⟨entry, listed, same, -, outcome⟩
        · exact ih waits
        · have found := Machine.find?_of_mem_entries listed
          rw [same, Entry.before, if_neg outcome] at found
          exact run_waiting before id (by
            rw [Stage.desk, Table.contains_eq_isSome, found]
            rfl)
      rcases waited with ⟨moved, member, named⟩ | ⟨n, below, made⟩
      · exact .inl ⟨moved, List.mem_cons_of_mem _ member, named⟩
      · exact .inr ⟨n, Nat.lt_of_lt_of_le below counted, made⟩
    | begun _ _ _ _ begun =>
      rw [(Stage.begun_of_begin begun).pending] at pending
      cases pending
    | exchanged place => exact earlier _ pending

/-- Only an id that was named by a submission is reused. -/
theorem named_of_reused
    (run : SerialRun behave (Stage.opening settings credentials page) past stage)
    (reused : ReusedIn past id) : NamedIn past id := by
  obtain ⟨⟨reusing, move⟩, member, again⟩ := reused
  obtain ⟨later, earlier, rfl⟩ := List.append_of_mem member
  cases move with
  | work =>
    obtain ⟨-, before, -, -⟩ := run.divide
    obtain ⟨s, call, control, accepted, pending⟩ := Machine.reuses_iff.mp again
    rcases (reusing.machine.desk.addressed_spec s).2 id (Desk.submit_id accepted) with
      named | ⟨n, low, -, made⟩
    · exact ⟨(reusing, .work), member, s, rfl, control, named⟩
    · rcases run_pending before pending with ⟨moved, listed, named⟩ | ⟨k, below, counted⟩
      · exact ⟨moved, List.mem_append_right _ (List.mem_cons_of_mem _ listed), named⟩
      · -- the id that is made now lies above all that were made before
        have equal := CallbackIds.name_injective (counted.symm.trans made)
        exact absurd below (by rw [equal]; exact Nat.not_lt.mpr low)
  | _ => cases again

/-- A handler of its own that is told of its id hears the reply to the record of its submission,
which gets its only outcome by that; it hears of no other record unless the id was reused, when its
submission was sent or since then, and somebody has to name the id in a submission for that. -/
theorem inline_reply_is_own
    (run : SerialRun behave (Stage.opening settings credentials page)
      (later ++ (first, .work) :: earlier) stage)
    (control : first.machine.control = .perform (.submit s)) (own : s.target = .inline h)
    (accepted : (first.desk.submit s).1 = some (.ok id)) (unfiled : ¬FiledIn later id)
    (registered : stage.desk.callbacks.contains id = true) {call : Call}
    (telling : (id, call) ∈ stage.machine.told) :
    (∃ reply : Reply, reply.args = call.args ∧
        stage.machine.invocations behave = [(h, .reply reply)]) ∧
      ((call = first.desk.callOf s ∧ ∃ fate, (fate = .resolved ∨ fate = .expired) ∧
          entriesOf id (ledger ((stage, .work) :: later)) = [{ fate, id, call }]) ∨
        ReusedIn (later ++ [(first, .work)]) id) ∧
      (ReusedIn (later ++ [(first, .work)]) id →
        NamedIn (later ++ (first, .work) :: earlier) id) := by
  obtain ⟨after, before, made, onward⟩ := run.divide
  obtain rfl : after = { first with machine := first.machine.step behave } := by
    cases Stage.moved_of_next made with
    | worked => rfl
    | begun _ _ unworked => cases unworked
  have mine : stage.desk.callbacks.find? id = some { handler := h, lifetime := .once } := by
    rcases run_loses onward unfiled with same | gone
    · exact same.trans (filed_of_submit control own accepted)
    · rw [Table.contains_eq_isSome, gone] at registered
      cases registered
  refine ⟨?_, ?_, ?_⟩
  · obtain ⟨reply, args, told⟩ := (stage.machine.tellsOnce behave).told id call telling
    refine ⟨reply, args, told.trans ?_⟩
    have found : stage.machine.desk.callbacks.find? id = _ := mine
    rw [found]
    rfl
  · by_cases reused : ReusedIn (later ++ [(first, .work)]) id
    · exact .inr reused
    · left
      have unused : first.machine.reuses id = false := Bool.eq_false_iff.mpr fun again =>
        reused ⟨(first, .work), List.mem_append_right _ (List.mem_singleton_self _), again⟩
      have filed : Owned h id _ [] (first.machine.step behave) :=
        owned_of_submit control own accepted unused
      have owned := filed.run onward unfiled fun ⟨moved, member, again⟩ =>
        reused ⟨moved, List.mem_append_left _ member, again⟩
      obtain ⟨same, fate, outcome, only⟩ := owned.told registered telling
      exact ⟨same, fate, outcome, same ▸ only⟩
  · rintro ⟨moved, member, again⟩
    refine named_of_reused run ⟨moved, ?_, again⟩
    rcases List.mem_append.mp member with since | now
    · exact List.mem_append_left _ since
    · rw [List.mem_singleton.mp now]
      exact List.mem_append_right _ (List.mem_cons_self ..)

end

/-- The submission with a handler of its own that the next step accepts, and the id that it gets. -/
def Machine.inline? {H W : Type} (m : Machine H W) : Option (Submission H × H × String) :=
  match m.control with
  | .perform (.submit s) =>
    match s.target, (m.desk.submit s).1 with
    | .inline h, some (.ok id) => some (s, h, id)
    | _, _ => none
  | _ => none

theorem Machine.inline?_eq_some {H W : Type} {m : Machine H W} {s : Submission H} {h : H}
    {id : String} (found : m.inline? = some (s, h, id)) :
    m.control = .perform (.submit s) ∧ s.target = .inline h ∧
      (m.desk.submit s).1 = some (.ok id) := by
  unfold inline? at found
  split at found
  · rename_i s control
    split at found
    · rename_i h id own accepted
      cases found
      exact ⟨control, own, accepted⟩
    · cases found
  · cases found

/-- The run over moves up to a submission with a handler of its own, and on from it, if its ends
pass the check. -/
theorem SerialRun.of_inline {H W : Type} {behave : Behaviour H W} {start : Stage H W}
    {moves onward : List (Move H)}
    {check : Past H W × Stage H W → Submission H × H × String → Past H W × Stage H W → Bool}
    (reaches : ((Stage.follow behave moves ([], start)).bind fun before =>
      before.2.machine.inline?.bind fun inline => (before.2.next behave .work).bind fun after =>
        (Stage.follow behave onward ([], after)).map fun reached =>
          check before inline reached) = some true) :
    ∃ later earlier first stage s h id,
      SerialRun behave start (later ++ (first, .work) :: earlier) stage ∧
        first.machine.control = .perform (.submit s) ∧ s.target = .inline h ∧
        (first.desk.submit s).1 = some (.ok id) ∧
        check (earlier, first) (s, h, id) (later, stage) = true := by
  obtain ⟨⟨earlier, first⟩, before, reaches⟩ := Option.bind_eq_some_iff.mp reaches
  obtain ⟨⟨s, h, id⟩, inline, reaches⟩ := Option.bind_eq_some_iff.mp reaches
  obtain ⟨after, made, reaches⟩ := Option.bind_eq_some_iff.mp reaches
  obtain ⟨⟨later, stage⟩, since, checked⟩ := Option.map_eq_some_iff.mp reaches
  obtain ⟨control, own, accepted⟩ := Machine.inline?_eq_some inline
  have run := ((SerialRun.start.follow before).next made).trans (SerialRun.start.follow since)
  exact ⟨later, earlier, first, stage, s, h, id, run, control, own, accepted, checked⟩

def loneRequest : List (Move Unit) :=
  [.lay true, .dial, .opened (.ok 0),
    .act (.submit { handler := "rooms.list", target := .inline (), args := some (.text "own") })]

theorem inline_reply_is_own_after_expiry : ∃ later earlier first stage call s,
    SerialRun quiet (Stage.opening {} default default) (later ++ (first, .work) :: earlier) stage ∧
      first.machine.control = .perform (.submit s) ∧ s.target = .inline () ∧
      (first.desk.submit s).1 = some (.ok "cb-0") ∧ ¬FiledIn later "cb-0" ∧
      stage.desk.callbacks.contains "cb-0" = true ∧ ("cb-0", call) ∈ stage.machine.told ∧
      call = first.desk.callOf s ∧ ∃ reply : Reply, reply.args = call.args ∧
        stage.machine.invocations quiet = [((), .reply reply)] := by
  have reaches : ((Stage.follow quiet loneRequest ([], .opening {} default default)).bind
      fun before => before.2.machine.inline?.bind fun inline =>
        (before.2.next quiet .work).bind fun after =>
          (Stage.follow quiet [.advance 30000, .act (.expire 0), .work] ([], after)).map
            fun reached =>
              decide (inline.2 = ((), "cb-0") ∧ ¬FiledIn reached.1 "cb-0" ∧
                ¬ReusedIn (reached.1 ++ [(before.2, .work)]) "cb-0" ∧
                reached.2.desk.callbacks.contains "cb-0" = true ∧
                reached.2.machine.told.map Prod.fst = ["cb-0"])) =
        some true := by
    decide +kernel
  obtain ⟨later, earlier, first, stage, s, h, id, run, control, own, accepted, facts⟩ :=
    SerialRun.of_inline reaches
  obtain ⟨same, unfiled, unused, registered, told⟩ := of_decide_eq_true facts
  obtain ⟨rfl, rfl⟩ := Prod.mk.injEq .. ▸ same
  obtain ⟨⟨id, call⟩, telling, rfl⟩ := List.mem_map.mp (told ▸ List.mem_singleton_self _)
  obtain ⟨heard, ⟨mine, -⟩ | reused, -⟩ :=
    inline_reply_is_own run control own accepted unfiled registered telling
  · exact ⟨later, earlier, first, stage, call, s, run, control, own, accepted, unfiled,
      registered, telling, mine, heard⟩
  · exact absurd reused unused

def relayed : Submission Bool := { handler := "rooms.list", target := .inline true }

def relaying : Behaviour Bool Unit := fun h _ _ =>
  ((), if h then .finish else .act (.submit relayed) fun _ => .finish)

/-- Two requests expire, and the callback of the first one sends another request. The second one was
sent under the id that this request gets. -/
def relayAfterEviction : List (Move Bool) :=
  [.lay true, .dial, .opened (.ok 0), .act (.register "users" false .durable), .work,
    .act (.submit { handler := "users.list", target := .named "users" }), .work,
    .act (.submit { handler := "groups.list", target := .named "cb-0" }), .work,
    .advance 30000, .act (.expire 0), .work, .work, .work]

theorem inline_reply_is_own_reused : ∃ later earlier first stage call s,
    SerialRun relaying (Stage.opening {} default ()) (later ++ (first, .work) :: earlier) stage ∧
      first.machine.control = .perform (.submit s) ∧ s.target = .inline true ∧
      (first.desk.submit s).1 = some (.ok "cb-0") ∧ ¬FiledIn later "cb-0" ∧
      stage.desk.callbacks.contains "cb-0" = true ∧ ("cb-0", call) ∈ stage.machine.told ∧
      (stage.machine.invocations relaying).map Prod.fst = [true] ∧
      call.handler = "groups.list" ∧ s.handler = "rooms.list" ∧
      stage.desk.calls.contains "cb-0" = true := by
  have reaches : ((Stage.follow relaying relayAfterEviction ([], .opening {} default ())).bind
      fun before => before.2.machine.inline?.bind fun inline =>
        (before.2.next relaying .work).bind fun after =>
          (Stage.follow relaying [.work, .work, .work] ([], after)).map fun reached =>
            decide (inline.2 = (true, "cb-0") ∧ inline.1.handler = "rooms.list" ∧
              ¬FiledIn reached.1 "cb-0" ∧ reached.2.desk.callbacks.contains "cb-0" = true ∧
              reached.2.desk.calls.contains "cb-0" = true ∧
              (reached.2.machine.invocations relaying).map Prod.fst = [true] ∧
              (reached.2.machine.told.map fun request => (request.1, request.2.handler)) =
                [("cb-0", "groups.list")])) =
        some true := by
    decide +kernel
  obtain ⟨later, earlier, first, stage, s, h, id, run, control, own, accepted, facts⟩ :=
    SerialRun.of_inline reaches
  obtain ⟨same, handler, unfiled, registered, waiting, heard, told⟩ := of_decide_eq_true facts
  obtain ⟨rfl, rfl⟩ := Prod.mk.injEq .. ▸ same
  obtain ⟨⟨id, call⟩, telling, same⟩ := List.mem_map.mp (told ▸ List.mem_singleton_self _)
  simp only [Prod.mk.injEq] at same
  obtain ⟨rfl, other⟩ := same
  exact ⟨later, earlier, first, stage, call, s, run, control, own, accepted, unfiled, registered,
    telling, heard, other, handler, waiting⟩

end PageSession.Exchange
