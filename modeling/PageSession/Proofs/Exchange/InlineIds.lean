import Mathlib.Data.List.Nodup
import Mathlib.Data.List.Perm.Basic
import Mathlib.Data.Nat.Find
import Std.Data.String.ToNat
import PageSession.Proofs.Exchange.Steady

/-!
Ids made for handlers. The generator passes over registered callbacks and so makes the first id that
is free of them; it never looks at the requests that wait. A request with a handler of its own is
therefore refused exactly when a request waits under that id, and only a submission by name can have
left it there.
-/
namespace PageSession.Exchange

namespace CallbackIds

def after (ids : CallbackIds) (others : Nat) : String := name (ids.next + others)

/-- The counter can move on behind so many others and one more. -/
def Lasts (ids : CallbackIds) (others : Nat) : Prop := ids.next + others + 1 < UInt64.size

instance (ids : CallbackIds) (others : Nat) : Decidable (ids.Lasts others) :=
  inferInstanceAs (Decidable (_ < _))

theorem name_injective {m n : Nat} (same : name m = name n) : m = n :=
  Nat.repr_injective ((String.append_right_inj _).mp same)

theorem after_injective {ids : CallbackIds} {j k : Nat} (same : ids.after j = ids.after k) :
    j = k :=
  Nat.add_left_cancel (name_injective same)

theorem draw_of_lasts {ids : CallbackIds} (lasts : ids.Lasts 0) :
    ids.draw = (some (ids.after 0), { next := ids.next + 1 }) :=
  if_pos lasts

theorem draw_of_not_lasts {ids : CallbackIds} (ends : ¬ids.Lasts 0) : ids.draw = (none, ids) :=
  if_neg ends

theorem lasts_of_draw {ids later : CallbackIds} {id : String}
    (drawn : ids.draw = (some id, later)) :
    ids.Lasts 0 ∧ (id, later) = (ids.after 0, { next := ids.next + 1 }) := by
  by_cases lasts : ids.Lasts 0
  · rw [draw_of_lasts lasts] at drawn
    cases drawn
    exact ⟨lasts, rfl⟩
  · rw [draw_of_not_lasts lasts] at drawn
    cases drawn

theorem after_succ (ids : CallbackIds) (others : Nat) :
    ({ next := ids.next + 1 } : CallbackIds).after others = ids.after (others + 1) :=
  congrArg name (Nat.add_right_comm ids.next 1 others)

/-- Ids are drawn in order, and those that are passed over are taken. A free one is made, unless the
counter comes to its end before that. -/
theorem drawFree_spec (taken : String → Bool) (ids : CallbackIds) (further : Nat) :
    ∃ k, k ≤ further ∧ (∀ j, j < k → taken (ids.after j) = true) ∧
      (ids.Lasts k ∧ (k < further → taken (ids.after k) = false) ∧
          drawFree taken ids further = (some (ids.after k), { next := ids.next + (k + 1) }) ∨
        ¬ids.Lasts k ∧ drawFree taken ids further = (none, { next := ids.next + k })) := by
  induction further generalizing ids with
  | zero =>
    refine ⟨0, Nat.le_refl 0, fun j impossible => absurd impossible (Nat.not_lt_zero j), ?_⟩
    by_cases lasts : ids.Lasts 0
    · exact .inl ⟨lasts, fun impossible => absurd impossible (Nat.lt_irrefl 0), draw_of_lasts lasts⟩
    · exact .inr ⟨lasts, draw_of_not_lasts lasts⟩
  | succ further ih =>
    by_cases lasts : ids.Lasts 0
    · have step : drawFree taken ids (further + 1) =
          if taken (ids.after 0) then drawFree taken { next := ids.next + 1 } further
          else (some (ids.after 0), { next := ids.next + 1 }) := by
        rw [drawFree, draw_of_lasts lasts]
      by_cases passed : taken (ids.after 0) = true
      · obtain ⟨k, few, skipped, last⟩ := ih { next := ids.next + 1 }
        have number (j : Nat) : ids.next + 1 + j = ids.next + (j + 1) :=
          Nat.add_right_comm ids.next 1 j
        simp only [after_succ, Lasts, number] at skipped last
        rw [step, if_pos passed]
        refine ⟨k + 1, Nat.succ_le_succ few, fun j earlier => ?_, ?_⟩
        · cases j with
          | zero => exact passed
          | succ j => exact skipped j (Nat.lt_of_succ_lt_succ earlier)
        · refine last.imp (fun ⟨more, free, drawn⟩ => ⟨more, ?_, drawn⟩) fun ended => ended
          exact fun early => free (Nat.lt_of_succ_lt_succ early)
      · rw [step, if_neg passed]
        refine ⟨0, Nat.zero_le _, fun j impossible => absurd impossible (Nat.not_lt_zero j), ?_⟩
        exact .inl ⟨lasts, fun _ => Bool.eq_false_iff.mpr passed, rfl⟩
    · refine ⟨0, Nat.zero_le _, fun j impossible => absurd impossible (Nat.not_lt_zero j), ?_⟩
      refine .inr ⟨lasts, ?_⟩
      rw [drawFree, draw_of_not_lasts lasts]
      rfl

/-- A table has no room for one more id than it has entries. -/
theorem exists_free {α : Type} (table : Table α) (ids : CallbackIds)
    (taken : ∀ k, k ≤ table.size → table.contains (ids.after k) = true) : False := by
  have distinct : ((List.range (table.size + 1)).map ids.after).Nodup :=
    List.Nodup.map_on (fun j _ k _ same => after_injective same) List.nodup_range
  have listed : (List.range (table.size + 1)).map ids.after ⊆ table.keys := by
    intro id member
    obtain ⟨k, bound, rfl⟩ := List.mem_map.mp member
    rw [List.mem_range] at bound
    exact (Table.contains_iff_mem_keys _ _).mp (taken k (by omega))
  have length := (List.subperm_of_subset distinct listed).length_le
  simp only [List.length_map, List.length_range, Table.keys, Table.size] at length
  omega

end CallbackIds

namespace Desk
variable {H W : Type}
open CallbackIds

/-- The id after so many others is the first one from the counter on under which no callback is
registered. -/
structure IsNextId (desk : Desk H W) (others : Nat) : Prop where
  passed : ∀ j, j < others → desk.callbacks.contains (desk.ids.after j) = true
  free : desk.callbacks.contains (desk.ids.after others) = false

/-- There is only one such id. -/
theorem IsNextId.unique {desk : Desk H W} {j k : Nat} (left : IsNextId desk j)
    (right : IsNextId desk k) : j = k := by
  rcases Nat.lt_trichotomy j k with less | equal | more
  · have taken := right.passed j less
    rw [left.free] at taken
    cases taken
  · exact equal
  · have taken := left.passed k more
    rw [right.free] at taken
    cases taken

theorem exists_nextId (desk : Desk H W) :
    ∃ k, k ≤ desk.callbacks.size ∧ desk.IsNextId k := by
  have free : ∃ k, k ≤ desk.callbacks.size ∧
      desk.callbacks.contains (desk.ids.after k) = false := by
    refine Classical.byContradiction fun none =>
      exists_free desk.callbacks desk.ids fun k bound => ?_
    rw [← Bool.not_eq_false]
    exact fun free => none ⟨k, bound, free⟩
  have least := Nat.find_spec free
  refine ⟨Nat.find free, least.1, fun j earlier => ?_, least.2⟩
  have others := Nat.find_min free earlier
  rw [← Bool.not_eq_false]
  exact fun unregistered => others ⟨Nat.le_trans (Nat.le_of_lt earlier) least.1, unregistered⟩

/-- The generator makes that id and stands behind it, unless its counter comes to its end before
that. -/
theorem freshId_spec {desk : Desk H W} {k : Nat} (next : desk.IsNextId k) :
    (desk.ids.Lasts k ∧
        desk.freshId =
          (some (desk.ids.after k), { desk with ids := { next := desk.ids.next + (k + 1) } })) ∨
      (¬desk.ids.Lasts k ∧
        ∃ j, j ≤ k ∧
          desk.freshId = (none, { desk with ids := { next := desk.ids.next + j } })) := by
  obtain ⟨j, bound, passed, drawn⟩ :=
    drawFree_spec desk.callbacks.contains desk.ids desk.callbacks.size
  have below : j ≤ k := by
    refine Nat.le_of_not_lt fun beyond => ?_
    have taken := passed k beyond
    rw [next.free] at taken
    cases taken
  rcases drawn with ⟨lasts, free, made⟩ | ⟨ends, made⟩
  · have unregistered : desk.callbacks.contains (desk.ids.after j) = false := by
      by_cases last : j < desk.callbacks.size
      · exact free last
      · obtain ⟨m, few, first⟩ := desk.exists_nextId
        have same := next.unique first
        obtain rfl : j = k := by omega
        exact next.free
    obtain rfl : j = k := IsNextId.unique ⟨passed, unregistered⟩ next
    exact .inl ⟨lasts, by rw [freshId, made]⟩
  · refine .inr ⟨fun lasts => ends ?_, j, below, by rw [freshId, made]⟩
    unfold Lasts at lasts ⊢
    omega

/-- A frame that cannot be queued is no matter of ids. -/
theorem emit_ne_inFlight (link : Link) (kind : String) (payload : Json.Members) (id : String) :
    link.emit kind payload ≠ .error (.callbackInFlight id) := by
  intro refused
  unfold Link.emit at refused
  repeat' split at refused
  all_goals cases refused

/-- A submission is refused as a duplicate exactly when its id waits. -/
theorem submitAs_inFlight_iff (desk : Desk H W) (s : Submission H) (id other : String)
    (own : Option H) :
    (desk.submitAs s id own).1 = .error (.callbackInFlight other) ↔
      other = id ∧ desk.calls.contains other = true := by
  rw [submitAs_eq]
  constructor
  · intro refused
    split at refused
    · rename_i waiting
      cases refused
      exact ⟨rfl, waiting⟩
    · split at refused
      · rename_i emitted
        cases refused
        exact absurd emitted (emit_ne_inFlight _ _ _ _)
      · cases refused
  · rintro ⟨rfl, waiting⟩
    rw [if_pos waiting]

/-- A submission leaves the generator where the making of its id does. -/
theorem submit_ids (desk : Desk H W) (s : Submission H) :
    (desk.submit s).2.ids = (desk.addressed s).2.ids := by
  rcases desk.submit_steady s with ⟨-, steady⟩ | ⟨id, -, -, steady⟩
  · exact steady.ids
  · exact steady.ids.trans (sameBooks_notifyService _).ids

/-- A submission that succeeds answers with its id. -/
theorem submit_id {desk : Desk H W} {s : Submission H} {id : String}
    (accepted : (desk.submit s).1 = some (.ok id)) : (desk.addressed s).1 = some id := by
  rcases desk.submit_steady s with ⟨refused, -⟩ | ⟨made, answered, addressed, -⟩
  · exact absurd accepted (refused id)
  · rw [answered] at accepted
    cases accepted
    exact addressed

/-- The generator counts on. -/
theorem next_le_freshId (desk : Desk H W) : desk.ids.next ≤ desk.freshId.2.ids.next := by
  obtain ⟨k, -, next⟩ := desk.exists_nextId
  rcases freshId_spec next with ⟨-, made⟩ | ⟨-, j, -, made⟩ <;> rw [made] <;>
    exact Nat.le_add_right _ _

/-- What it makes lies behind the counter before and below the counter after. -/
theorem freshId_number {desk : Desk H W} {id : String} (made : desk.freshId.1 = some id) :
    ∃ n, desk.ids.next ≤ n ∧ n < desk.freshId.2.ids.next ∧ id = name n := by
  obtain ⟨k, -, next⟩ := desk.exists_nextId
  rcases freshId_spec next with ⟨-, drawn⟩ | ⟨-, j, -, drawn⟩
  · rw [drawn] at made ⊢
    cases made
    exact ⟨desk.ids.next + k, Nat.le_add_right _ _, Nat.lt_succ_self _, rfl⟩
  · rw [drawn] at made
    cases made

/-- The id of a submission is its name, or is made by the generator, which counts on. -/
theorem addressed_spec (desk : Desk H W) (s : Submission H) :
    desk.ids.next ≤ (desk.addressed s).2.ids.next ∧
      ∀ id, (desk.addressed s).1 = some id → s.target = .named id ∨
        ∃ n, desk.ids.next ≤ n ∧ n < (desk.addressed s).2.ids.next ∧ id = name n := by
  unfold addressed
  cases s.target with
  | named name =>
    refine ⟨Nat.le_refl _, fun id same => ?_⟩
    cases same
    exact .inl rfl
  | inline h => exact ⟨desk.next_le_freshId, fun id made => .inr (freshId_number made)⟩

end Desk

/-- A request was submitted under this name. -/
def NamedIn {H W : Type} (past : Past H W) (id : String) : Prop :=
  ∃ moved ∈ past, ∃ s : Submission H, moved.2 = .work ∧
    moved.1.machine.control = .perform (.submit s) ∧ s.target = .named id

namespace Machine
variable {H W : Type}

theorem step_submit_ids (behave : Behaviour H W) {m : Machine H W} {s : Submission H}
    (control : m.control = .perform (.submit s)) :
    (m.step behave).desk.ids = (m.desk.addressed s).2.ids := by
  rw [step_submit behave control, (Desk.sameBooks_enlist _).ids, Desk.submit_ids]

/-- Only a submission touches the generator. -/
theorem step_ids (behave : Behaviour H W) {m : Machine H W}
    (unsubmitted : ∀ s, m.control ≠ .perform (.submit s)) :
    (m.step behave).desk.ids = m.desk.ids := by
  rcases step_cases behave m with ⟨s, control⟩ | control | ⟨-, steady⟩
  · exact absurd control (unsubmitted s)
  · rw [step_stop behave control]
    exact (Desk.sameBooks_stopService m.desk).ids
  · exact steady.ids

/-- The counter never goes back. -/
theorem next_le_step (behave : Behaviour H W) (m : Machine H W) :
    m.desk.ids.next ≤ (m.step behave).desk.ids.next := by
  by_cases submitting : ∃ s, m.control = .perform (.submit s)
  · obtain ⟨s, control⟩ := submitting
    rw [step_submit_ids behave control]
    exact (m.desk.addressed_spec s).1
  · exact Nat.le_of_eq (congrArg CallbackIds.next
      (step_ids behave fun s control => submitting ⟨s, control⟩).symm)

end Machine

section
variable {H W : Type} {behave : Behaviour H W} {settings : Settings} {credentials : Credentials}
  {page : W} {past : Past H W} {stage : Stage H W}

/-- Whatever waits was submitted by name or under an id from below the counter. -/
theorem run_waiting
    (run : SerialRun behave (Stage.opening settings credentials page) past stage) (id : String)
    (waiting : stage.desk.calls.contains id = true) :
    NamedIn past id ∨ ∃ n, n < stage.desk.ids.next ∧ id = CallbackIds.name n := by
  induction run with
  | start => cases waiting
  | @next past stage after move before made ih =>
    have earlier : stage.desk.calls.contains id = true →
        NamedIn ((stage, move) :: past) id ∨
          ∃ n, n < stage.desk.ids.next ∧ id = CallbackIds.name n := by
      intro waited
      rcases ih waited with ⟨moved, member, named⟩ | counted
      · exact .inl ⟨moved, List.mem_cons_of_mem _ member, named⟩
      · exact .inr counted
    cases Stage.moved_of_next made with
    | worked =>
      rw [Table.contains_eq_isSome, Option.isSome_iff_exists] at waiting
      obtain ⟨call, found⟩ := waiting
      rcases Machine.find?_of_step found with waited | ⟨s, control, accepted, -⟩
      · have counted := Machine.next_le_step behave stage.machine
        rcases earlier (by rw [Table.contains_eq_isSome, Stage.desk, waited]; rfl) with
          named | ⟨n, below, made⟩
        · exact .inl named
        · exact .inr ⟨n, Nat.lt_of_lt_of_le below counted, made⟩
      · rcases (stage.machine.desk.addressed_spec s).2 id (Desk.submit_id accepted) with
          named | ⟨n, -, below, made⟩
        · exact .inl ⟨(stage, .work), List.mem_cons_self .., s, rfl, control, named⟩
        · refine .inr ⟨n, ?_, made⟩
          rw [Stage.desk, Machine.step_submit_ids behave control]
          exact below
    | begun _ _ _ _ begun =>
      have books := (Stage.begun_of_begin begun).books
      rw [books.calls] at waiting
      rw [books.ids]
      exact earlier waiting
    | exchanged place =>
      rw [Table.contains_eq_isSome, stage.find?_exchange, ← Table.contains_eq_isSome] at waiting
      exact earlier waiting

/-- A request with a handler of its own gets the first id from the counter on that is free of
callbacks, if the counter lasts for it. It is refused as a duplicate exactly when a request waits
under that id, and such a request was submitted by name. -/
theorem inline_refused_iff
    (run : SerialRun behave (Stage.opening settings credentials page) past stage)
    {s : Submission H} {h : H} (own : s.target = .inline h) :
    ∃ others, stage.desk.IsNextId others ∧
      (∀ id, (stage.desk.submit s).1 = some (.error (.callbackInFlight id)) ↔
        stage.desk.ids.Lasts others ∧ id = stage.desk.ids.after others ∧
          stage.desk.calls.contains id = true) ∧
      ∀ id, (stage.desk.submit s).1 = some (.error (.callbackInFlight id)) → NamedIn past id := by
  obtain ⟨others, -, next⟩ := stage.desk.exists_nextId
  have refused : ∀ id, (stage.desk.submit s).1 = some (.error (.callbackInFlight id)) ↔
      stage.desk.ids.Lasts others ∧ id = stage.desk.ids.after others ∧
        stage.desk.calls.contains id = true := by
    intro id
    rcases Desk.freshId_spec next with ⟨lasts, made⟩ | ⟨ends, j, -, made⟩
    · simp only [Desk.submit, own, made, lasts, true_and, Prod.map, Option.some.injEq]
      exact Desk.submitAs_inFlight_iff _ s _ id (some h)
    · simp only [Desk.submit, own, made, ends, false_and, reduceCtorEq]
  refine ⟨others, next, refused, fun id duplicate => ?_⟩
  obtain ⟨-, same, waiting⟩ := (refused id).mp duplicate
  rcases run_waiting run id waiting with named | ⟨n, below, counted⟩
  · exact named
  · -- the id that is made now lies above all that were made before
    have equal := CallbackIds.name_injective (same.symm.trans counted)
    omega

end

/-- A request is submitted under the id that the generator makes first. -/
def claimingFirst : List (Move Unit) :=
  [.lay true, .dial, .opened (.ok 0),
    .act (.submit { handler := "users.list", target := .named "cb-0" }), .work]

theorem inline_refused_after_name : ∃ past stage,
    SerialRun quiet (Stage.opening {} default ()) past stage ∧
      (stage.desk.submit { handler := "users.list", target := .inline () }).1 =
        some (.error (.callbackInFlight "cb-0")) := by
  have refused : ((Stage.follow quiet claimingFirst ([], .opening {} default ())).map fun reached =>
      (reached.2.desk.submit { handler := "users.list", target := .inline () }).1) =
        some (some (.error (.callbackInFlight "cb-0"))) := by
    decide +kernel
  obtain ⟨⟨past, stage⟩, reached, answer⟩ := Option.map_eq_some_iff.mp refused
  exact ⟨past, stage, SerialRun.start.follow reached, answer⟩

/-- A callback is registered under the first id, and a request waits under the second one. -/
def claimingBoth : List (Move Unit) :=
  [.lay true, .dial, .opened (.ok 0), .act (.register "cb-0" () .durable), .work,
    .act (.submit { handler := "users.list", target := .named "cb-1" }), .work]

theorem inline_refused_iff_both_claimed : ∃ past stage,
    SerialRun quiet (Stage.opening {} default ()) past stage ∧ NamedIn past "cb-1" ∧
      ∃ others, stage.desk.IsNextId others ∧ stage.desk.ids.Lasts others ∧
        stage.desk.ids.after others = "cb-1" ∧ stage.desk.calls.contains "cb-1" = true := by
  have claimed : ((Stage.follow quiet claimingBoth ([], .opening {} default ())).map fun reached =>
      (reached.2.desk.submit { handler := "users.list", target := .inline () }).1) =
        some (some (.error (.callbackInFlight "cb-1"))) := by
    decide +kernel
  obtain ⟨⟨past, stage⟩, reached, answer⟩ := Option.map_eq_some_iff.mp claimed
  have run : SerialRun quiet (Stage.opening {} default ()) past stage :=
    SerialRun.start.follow reached
  have own : ({ handler := "users.list", target := .inline () } : Submission Unit).target =
      .inline () := rfl
  obtain ⟨others, next, refused, named⟩ := inline_refused_iff run own
  obtain ⟨lasts, same, waiting⟩ := (refused "cb-1").mp answer
  exact ⟨past, stage, run, named "cb-1" answer, others, next, lasts, same.symm, waiting⟩

end PageSession.Exchange
