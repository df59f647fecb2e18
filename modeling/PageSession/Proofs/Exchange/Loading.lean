import PageSession.Proofs.Exchange.Correlation
import PageSession.Proofs.Exchange.SerialRun

/-!
The loading indicator. Nobody stores it: it is what the latest loading event of the log says, and
hidden before any. Requests come to wait and cease to in many places, and each of them has to leave
the indicator right before a handler runs. It is then shown only while a visible request waits; and
it is shown whenever one does, unless a response could not be read, which hides it at once.
-/
namespace PageSession.Exchange
open Json Message

def Event.loading? {H : Type} : Event H → Option Bool
  | .loading handler => some handler.isSome
  | _ => none

def isUnreadable (frame : Incoming) : Bool :=
  frame.kind = .response && (Response.read.ofString? frame.content).isNone

namespace Desk
variable {H W : Type}

def isLoading (desk : Desk H W) : Bool := (desk.log.findSome? Event.loading?).getD false

def HasVisible (desk : Desk H W) : Prop :=
  ∃ id call, desk.calls.find? id = some call ∧ call.silent = false

/-- The indicator is shown only while a visible request waits, and always then if it is accurate. -/
structure Indicates (accurate : Prop) (desk : Desk H W) : Prop where
  waiting : desk.isLoading = true → desk.HasVisible
  shown : accurate → desk.HasVisible → desk.isLoading = true

/-! ## What operations do to the indicator -/

/-- A log that has grown by events without a word on the indicator. -/
theorem isLoading_of_log {desk after : Desk H W} {fresh : List (Event H)}
    (grown : after.log = fresh ++ desk.log) (silent : fresh.findSome? Event.loading? = none) :
    after.isLoading = desk.isLoading := by
  rw [isLoading, grown, List.findSome?_append, silent]
  rfl

theorem isLoading_notifyOutcome (desk : Desk H W) (severity : Severity) (silent : Bool)
    (message : String) :
    (desk.notifyOutcome severity silent message).isLoading = desk.isLoading := by
  unfold notifyOutcome
  split <;> rfl

theorem isLoading_abandon (desk : Desk H W) (id : String) :
    (desk.abandon id).isLoading = desk.isLoading := by
  unfold abandon
  split
  · dsimp only
    split <;> rfl
  · rfl

theorem isLoading_announced (desk : Desk H W) (s : Submission H) (id : String) :
    (desk.announced s id).isLoading = if s.silent then desk.isLoading else true := by
  unfold announced
  dsimp only
  rw [isLoading, (sameBooks_notifyService _).log]
  split <;> rfl

theorem Aside.isLoading {desk after : Desk H W} (aside : desk.Aside after) :
    after.isLoading = desk.isLoading := by
  cases aside <;> rfl

/-- The test for visible requests asks for one that waits. -/
theorem hasVisible_iff (desk : Desk H W) :
    (desk.calls.values.any fun call => !call.silent) = true ↔ desk.HasVisible := by
  simp only [List.any_eq_true, Table.values, List.mem_map, Prod.exists, HasVisible,
    Table.find?_eq_some_iff, Bool.not_eq_true']
  constructor
  · rintro ⟨_, ⟨id, call, listed, rfl⟩, visible⟩
    exact ⟨id, call, listed, visible⟩
  · rintro ⟨id, call, listed, visible⟩
    exact ⟨call, ⟨id, call, listed, rfl⟩, visible⟩

theorem HasVisible.mono {desk after : Desk H W} (visible : desk.HasVisible)
    (kept : ∀ id call, desk.calls.find? id = some call → after.calls.find? id = some call) :
    after.HasVisible := by
  obtain ⟨id, call, found, shown⟩ := visible
  exact ⟨id, call, kept id call found, shown⟩

/-! ## The indicator stays right -/

variable {accurate : Prop}

theorem Indicates.of_same {desk after : Desk H W} (indicates : desk.Indicates accurate)
    (loading : after.isLoading = desk.isLoading)
    (calls : ∀ id, after.calls.find? id = desk.calls.find? id) : after.Indicates accurate where
  waiting shows :=
    (indicates.waiting (loading ▸ shows)).mono fun id _ found => (calls id).trans found
  shown precise visible :=
    loading.trans (indicates.shown precise (visible.mono fun id _ found => (calls id) ▸ found))

/-- Whatever requests have ceased to wait, settling leaves the indicator right. -/
theorem Indicates.settle {desk after : Desk H W} (indicates : desk.Indicates accurate)
    (loading : after.isLoading = desk.isLoading)
    (fewer : ∀ id call, after.calls.find? id = some call → desk.calls.find? id = some call) :
    after.settleLoading.Indicates accurate := by
  unfold settleLoading
  by_cases visible : after.HasVisible
  · rw [if_pos (after.hasVisible_iff.mpr visible)]
    exact ⟨fun _ => visible,
      fun precise _ => loading.trans (indicates.shown precise (visible.mono fewer))⟩
  · rw [if_neg (mt after.hasVisible_iff.mp visible)]
    exact ⟨fun shows => (by cases shows), fun _ seen => absurd seen visible⟩

/-- A submission that does not succeed says nothing. -/
theorem submit_refused_log {desk : Desk H W} {s : Submission H}
    (refused : ∀ id, (desk.submit s).1 ≠ some (.ok id)) : (desk.submit s).2.log = desk.log := by
  rcases submit_cases desk s with ⟨-, empty⟩ | ⟨ids, -, exhausted⟩ | ⟨name, ids, -, sent⟩
  · rw [empty]
  · rw [exhausted]
  · rw [sent, submitAs_eq] at refused ⊢
    split
    · rfl
    · rename_i free
      rw [if_neg free] at refused
      split
      · cases s.own? <;> rfl
      · rename_i link success
        rw [success] at refused
        exact absurd rfl (refused name)

/-- A submission that is accepted shows the indicator, unless it is silent. -/
theorem submit_accepted_isLoading {desk after : Desk H W} {s : Submission H} {id : String}
    (accepted : desk.submit s = (some (.ok id), after)) :
    after.isLoading = if s.silent then desk.isLoading else true := by
  rcases submit_cases desk s with ⟨-, empty⟩ | ⟨ids, -, exhausted⟩ | ⟨name, ids, -, sent⟩
  · rw [empty] at accepted
    cases accepted
  · rw [exhausted] at accepted
    cases accepted
  · rw [sent, submitAs_eq] at accepted
    split at accepted
    · cases accepted
    · split at accepted
      · cases accepted
      · cases accepted
        rw [isLoading_announced]
        cases s.own? <;> rfl

theorem Indicates.submit {desk : Desk H W} (indicates : desk.Indicates accurate)
    (s : Submission H) : (desk.submit s).2.Indicates accurate := by
  by_cases success : ∃ id, (desk.submit s).1 = some (.ok id)
  case neg =>
    have refused := not_exists.mp success
    refine indicates.of_same ?_ (submit_refused refused)
    rw [isLoading, submit_refused_log refused]
    rfl
  case pos =>
    obtain ⟨id, accepted⟩ := success
    cases result : desk.submit s with
    | mk outcome after =>
      rw [result] at accepted
      dsimp only at accepted
      subst accepted
      obtain ⟨free, calls⟩ := submit_accepted result
      have loading := submit_accepted_isLoading result
      have added : after.calls.find? id = some (desk.callOf s) := by
        rw [calls, Table.find?_insert, if_pos rfl]
      have others : ∀ other, other ≠ id → after.calls.find? other = desk.calls.find? other := by
        intro other different
        rw [calls, Table.find?_insert, if_neg different]
      cases silent : s.silent with
      | false =>
        rw [silent] at loading
        exact ⟨fun _ => ⟨id, _, added, silent⟩, fun _ _ => loading⟩
      | true =>
        rw [silent, if_pos rfl] at loading
        constructor
        · intro shows
          refine (indicates.waiting (loading ▸ shows)).mono fun other call found => ?_
          have different : other ≠ id := by
            rintro rfl
            cases free.symm.trans found
          rw [others other different]
          exact found
        · rintro precise ⟨other, call, found, visible⟩
          have different : other ≠ id := by
            rintro rfl
            cases added.symm.trans found
            cases silent.symm.trans visible
          refine loading.trans (indicates.shown precise ⟨other, call, ?_, visible⟩)
          rw [← others other different]
          exact found

/-- A frame leaves the indicator right, and accurate if its content can be read. -/
theorem Indicates.receive {desk : Desk H W} (indicates : desk.Indicates accurate) (frame : Incoming)
    (readable : accurate → isUnreadable frame = false) :
    (desk.receive frame).2.Indicates accurate := by
  cases kind : frame.kind with
  | update =>
    simp only [Desk.receive, kind]
    split <;> exact indicates
  | response =>
    simp only [Desk.receive, kind, receiveResponse]
    cases read : Response.read.ofString? frame.content with
    | none =>
      have inexact : ¬accurate := fun precise => by
        simpa [isUnreadable, kind, read] using readable precise
      exact ⟨fun shows => (by cases shows), fun precise => absurd precise inexact⟩
    | some response =>
      dsimp only
      cases response.error with
      | some message =>
        cases response.callback with
        | none =>
          have settled := indicates.settle rfl fun _ _ found => found
          exact settled.of_same rfl fun _ => rfl
        | some echo =>
          have settled := indicates.settle (isLoading_abandon desk echo.id) fun id call found => by
            rw [abandon_find?] at found
            split at found
            · cases found
            · exact found
          exact settled.of_same rfl fun _ => rfl
      | none =>
        cases response.callback with
        | none => exact indicates.of_same (isLoading_notifyOutcome ..) (by simp)
        | some echo =>
          dsimp only
          cases desk.calls.find? echo.id with
          | none => exact indicates
          | some call =>
            have settled : ({ desk with calls := desk.calls.erase echo.id }.record
                (.request .resolved echo.id)).settleLoading.Indicates accurate :=
              indicates.settle rfl fun _ _ found => Table.find?_of_erase found
            exact settled.of_same (isLoading_notifyOutcome ..) (by simp)

end Desk

namespace Machine
variable {H W : Type} {accurate : Prop}
open Desk

def misreads (m : Machine H W) : Bool := m.received?.any fun received => isUnreadable received.1

theorem isLoading_deliver (behave : Behaviour H W) (id : String) (reply : Reply)
    (desk : Desk H W) (stack : List (Frame H)) :
    (deliver behave id reply desk stack).desk.isLoading = desk.isLoading := by
  refine isLoading_of_log (deliver_log behave id reply desk stack) ?_
  cases desk.callbacks.find? id <;> rfl

theorem indicates_deliver (behave : Behaviour H W) (id : String) (reply : Reply)
    {desk : Desk H W} (stack : List (Frame H)) (indicates : desk.Indicates accurate) :
    (deliver behave id reply desk stack).desk.Indicates accurate := by
  refine indicates.of_same (isLoading_deliver behave id reply desk stack) fun other => ?_
  rw [deliver_calls]

theorem indicates_handle (behave : Behaviour H W) (frame : Incoming) {desk : Desk H W}
    (stack : List (Frame H)) (indicates : desk.Indicates accurate)
    (readable : accurate → isUnreadable frame = false) :
    (handle behave frame desk stack).desk.Indicates accurate := by
  have received := indicates.receive frame readable
  unfold handle
  split
  · rename_i receipt
    rwa [receipt] at received
  · rename_i receipt
    rw [receipt] at received
    exact indicates_deliver behave _ _ stack received
  · rename_i receipt
    rwa [receipt] at received

theorem indicates_expire (time : Int) {desk : Desk H W} (stack : List (Frame H))
    (indicates : desk.Indicates accurate) : (expire time desk stack).desk.Indicates accurate := by
  unfold expire
  split
  · rename_i after evicted
    -- nothing is overdue, so everything goes on waiting
    have nothing : (desk.evict time).1 = [] := by rw [evicted]
    have same : (desk.evict time).2 = after := by rw [evicted]
    refine indicates.of_same ?_ fun id => ?_
    · rw [← same]
      rfl
    · show after.calls.find? id = _
      rw [← same, evict_find?]
      cases waits : desk.calls.find? id with
      | none => rfl
      | some call =>
        cases overdue : call.isOverdue time with
        | false => simp [overdue]
        | true =>
          have listed : (id, call) ∈ (desk.evict time).1 :=
            List.mem_filter.mpr ⟨(Table.find?_eq_some_iff _ _ _).mp waits, overdue⟩
          rw [nothing] at listed
          cases listed
  · rename_i after _ result
    have same : (desk.evict time).2 = after := by rw [result]
    refine indicates.settle ?_ fun id call found => ?_
    · rw [← same]
      rfl
    · rw [← same, evict_find?, Option.filter_eq_some_iff] at found
      exact found.1

theorem indicates_resume (behave : Behaviour H W) (frame : Frame H) (answer : Answer)
    {desk : Desk H W} (stack : List (Frame H)) (indicates : desk.Indicates accurate) :
    (resume behave frame answer desk stack).desk.Indicates accurate := by
  refine indicates.of_same ?_ fun id => by rw [resume_calls]
  cases frame with
  | acting | succeed => rfl
  | expiring rest count =>
    cases rest with
    | nil => rfl
    | cons evicted rest => exact isLoading_deliver behave _ _ _ _
  | distributing update rest count => cases rest <;> rfl
  | serving =>
    unfold resume
    dsimp only
    split <;> rfl

/-- Every step leaves the indicator right, and accurate if it reads what it handles. -/
theorem indicates_step (behave : Behaviour H W) {m : Machine H W}
    (indicates : m.desk.Indicates accurate) (readable : accurate → m.misreads = false) :
    (m.step behave).desk.Indicates accurate := by
  obtain ⟨control, stack, desk⟩ := m
  cases control with
  | answer answer =>
    cases stack with
    | nil => exact indicates
    | cons frame stack => exact indicates_resume behave frame answer stack indicates
  | run h program => cases program <;> exact indicates
  | perform action =>
    cases performed action desk stack with
    | submitted s same =>
      subst same
      refine (indicates.submit s).of_same ?_ fun id => ?_ <;> rw [step_submit behave rfl] <;> rfl
    | evicted ahead same =>
      subst same
      exact indicates_expire _ stack indicates
    | received frame taken receiving =>
      obtain ⟨link, same⟩ := received?_desk receiving
      have before : taken.Indicates accurate := by
        rw [same]
        exact indicates.of_same rfl fun _ => rfl
      rw [step_of_received behave receiving]
      refine indicates_handle behave frame stack before fun precise => ?_
      have read := readable precise
      rwa [misreads, receiving] at read
    | invoked id reply same =>
      subst same
      exact indicates_deliver behave id reply stack indicates
    | called method args h same found =>
      subst same
      simp only [step, perform, found]
      exact indicates.of_same rfl fun _ => rfl
    | stopped same =>
      subst same
      have books := sameBooks_stopService desk
      refine indicates.of_same ?_ fun id => ?_
      · show isLoading desk.stopService = _
        rw [isLoading, books.log]
        rfl
      · show desk.stopService.calls.find? id = _
        rw [books.calls]
    | answered answer after waiting aside untold silent result =>
      simp only [step, result]
      exact indicates.of_same aside.isLoading fun id => by rw [give, aside.calls]

end Machine

section
variable {H W : Type} {behave : Behaviour H W} {settings : Settings} {credentials : Credentials}
  {page : W} {past : Past H W} {stage : Stage H W}

/-- On every run the indicator is right, and accurate as long as every response could be read. -/
theorem run_indicates
    (run : SerialRun behave (Stage.opening settings credentials page) past stage) :
    stage.desk.Indicates (¬Stepped Machine.misreads past) := by
  induction run with
  | start => exact ⟨fun shows => (by cases shows), fun _ ⟨_, _, found, _⟩ => (by cases found)⟩
  | @next past stage after move before made ih =>
    have earlier : stage.desk.Indicates (¬Stepped Machine.misreads ((stage, move) :: past)) :=
      ⟨ih.waiting, fun precise => ih.shown fun misread => precise (stepped_cons.mpr (.inr misread))⟩
    cases Stage.moved_of_next made with
    | worked =>
      refine Machine.indicates_step behave earlier fun precise => ?_
      exact Bool.eq_false_iff.mpr fun misreads => precise (stepped_cons.mpr (.inl misreads))
    | begun _ _ _ _ begins =>
      have books := (Stage.begun_of_begin begins).books
      refine earlier.of_same ?_ fun id => by rw [books.calls]
      rw [Desk.isLoading, books.log]
      rfl
    | exchanged place => exact earlier.of_same rfl (stage.find?_exchange place)

/-- Whatever happens in whatever order, the loading indicator is shown only while a visible request
waits; and as long as the content of every response could be read, it is shown exactly then. So it
is at every stage: between operations, and whenever a handler begins to run. -/
theorem loading_iff_visible
    (run : SerialRun behave (Stage.opening settings credentials page) past stage) :
    (stage.desk.isLoading = true → stage.desk.HasVisible) ∧
      (¬Stepped Machine.misreads past →
        (stage.desk.isLoading = true ↔ stage.desk.HasVisible)) := by
  have indicates := run_indicates run
  exact ⟨indicates.waiting, fun readable => ⟨indicates.waiting, indicates.shown readable⟩⟩

end

/-- A visible request expires, another one is resolved, and the callback asks again both times. -/
theorem loading_iff_visible_asking_again : ∃ past stage,
    SerialRun asking (Stage.opening {} default ()) past stage ∧ ¬Stepped Machine.misreads past ∧
      stage.isIdle = true ∧ stage.desk.isLoading = true ∧ stage.desk.HasVisible := by
  have reaches : ((Stage.follow asking (.exchange 0 :: askingAgain)
      ([], .opening {} default ())).map fun reached =>
        decide (¬Stepped Machine.misreads reached.1 ∧ reached.2.isIdle = true ∧
          reached.2.desk.isLoading = true)) = some true := by
    decide +kernel
  obtain ⟨⟨past, stage⟩, reached, facts⟩ := Option.map_eq_some_iff.mp reaches
  obtain ⟨readable, idle, loading⟩ := of_decide_eq_true facts
  have run : SerialRun asking (Stage.opening {} default ()) past stage :=
    SerialRun.start.follow reached
  have visible := ((loading_iff_visible run).2 readable).mp loading
  exact ⟨past, stage, run, readable, idle, loading, visible⟩

end PageSession.Exchange
