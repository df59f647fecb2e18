import PageSession.Proofs.Exchange.Steady

/-!
Deadlines of the requests that wait. Only a submission adds one, and it lies in the future; an
eviction up to the current time leaves none that is due, until time passes.
-/
namespace PageSession.Exchange

namespace Desk
variable {H W : Type}

/-- A request waits until this time. -/
def Awaits (desk : Desk H W) (deadline : Nat) : Prop :=
  ∃ id call, desk.calls.find? id = some call ∧ call.deadline = some deadline

/-- No request has waited long enough. -/
def NothingDue (desk : Desk H W) : Prop := ∀ deadline, desk.Awaits deadline → desk.now < deadline

private theorem mem_deadlines_iff (desk : Desk H W) (deadline : Nat) :
    deadline ∈ desk.calls.values.filterMap Call.deadline ↔ desk.Awaits deadline := by
  rw [List.mem_filterMap]
  constructor
  · rintro ⟨call, listed, limited⟩
    obtain ⟨⟨id, call⟩, entry, rfl⟩ := List.mem_map.mp listed
    exact ⟨id, call, (Table.find?_eq_some_iff _ _ _).mpr entry, limited⟩
  · rintro ⟨id, call, waiting, limited⟩
    have entry := (Table.find?_eq_some_iff _ _ _).mp waiting
    exact ⟨call, List.mem_map_of_mem entry, limited⟩

/-- The next deadline is the first one that a request waits for. -/
theorem nextDeadline?_eq_some_iff (desk : Desk H W) (deadline : Nat) :
    desk.nextDeadline? = some deadline ↔
      desk.Awaits deadline ∧ ∀ other, desk.Awaits other → deadline ≤ other := by
  rw [nextDeadline?, List.min?_eq_some_iff]
  simp only [mem_deadlines_iff]

/-- There is a next deadline if a request waits for one. -/
theorem nextDeadline?_le {desk : Desk H W} {deadline : Nat} (waiting : desk.Awaits deadline) :
    ∃ first, desk.nextDeadline? = some first ∧ first ≤ deadline := by
  cases next : desk.nextDeadline? with
  | none =>
    rw [nextDeadline?, List.min?_eq_none_iff] at next
    have listed := (mem_deadlines_iff desk deadline).mpr waiting
    rw [next] at listed
    cases listed
  | some first =>
    exact ⟨first, rfl, ((nextDeadline?_eq_some_iff desk first).mp next).2 deadline waiting⟩

/-- A submission made now waits for a later time. -/
theorem lt_of_deadline? {desk : Desk H W} {deadline : Nat}
    (limited : desk.deadline? = some deadline) : desk.now < deadline := by
  obtain ⟨timeout, positive, rfl⟩ := Option.map_eq_some_iff.mp limited
  unfold Settings.timeout? at positive
  split at positive
  · cases positive
  · cases positive
    omega

theorem Awaits.of_calls {desk after : Desk H W} (same : after.calls = desk.calls) {deadline : Nat}
    (waiting : after.Awaits deadline) : desk.Awaits deadline := by
  rwa [Awaits, same] at waiting

end Desk

namespace Machine
variable {H W : Type}

/-- A step that is not a successful submission adds no deadline. -/
theorem awaits_of_step {behave : Behaviour H W} {m : Machine H W} {deadline : Nat}
    (waiting : (m.step behave).desk.Awaits deadline) :
    m.desk.Awaits deadline ∨
      ∃ s id, m.control = .perform (.submit s) ∧ (m.desk.submit s).1 = some (.ok id) ∧
        m.desk.deadline? = some deadline := by
  obtain ⟨id, call, found, limited⟩ := waiting
  rcases find?_of_step found with waited | ⟨s, control, accepted, rfl⟩
  · exact .inl ⟨id, call, waited, limited⟩
  · exact .inr ⟨s, id, control, accepted, limited⟩

/-- While nothing is due, no step changes that. -/
theorem nothingDue_step {behave : Behaviour H W} {m : Machine H W}
    (clear : m.desk.NothingDue) : (m.step behave).desk.NothingDue := by
  intro deadline waiting
  rw [step_now]
  rcases awaits_of_step waiting with waited | ⟨s, id, -, -, limited⟩
  · exact clear deadline waited
  · exact Desk.lt_of_deadline? limited

/-- After an eviction up to the current time, or a later one, nothing is due. -/
theorem nothingDue_of_expire {behave : Behaviour H W} {m : Machine H W} {ahead : Int}
    (control : m.control = .perform (.expire ahead)) (ahead_nonneg : 0 ≤ ahead) :
    (m.step behave).desk.NothingDue := by
  intro deadline waiting
  obtain ⟨id, call, found, limited⟩ := waiting
  have evicted : (m.step behave).desk.calls = (m.desk.evict (m.desk.now + ahead)).2.calls := by
    simp only [step, control, perform, expire_calls]
  rw [evicted, Desk.evict_find?, Option.filter_eq_some_iff] at found
  obtain ⟨-, kept⟩ := found
  rw [step_now]
  have later : m.desk.now + ahead < deadline := by simpa [Call.isOverdue, limited] using kept
  omega

end Machine

namespace Stage
variable {H W : Type}

/-- The order of the table is no matter of deadlines. -/
theorem awaits_exchange {stage : Stage H W} {place deadline : Nat}
    (waiting : (stage.exchange place).desk.Awaits deadline) : stage.desk.Awaits deadline := by
  obtain ⟨id, call, found, limited⟩ := waiting
  exact ⟨id, call, stage.find?_exchange place id ▸ found, limited⟩

/-- Unless time passes, a move between operations changes nothing about it. -/
theorem Begun.nothingDue {desk : Desk H W} {after : Stage H W} (begun : Begun desk 0 after)
    (clear : desk.NothingDue) : after.desk.NothingDue := by
  intro deadline waiting
  rw [begun.books.now]
  exact clear deadline (waiting.of_calls begun.books.calls)

end Stage
end PageSession.Exchange
