import PageSession.Proofs.Exchange.Commuting
import PageSession.Proofs.Exchange.Submissions

/-!
Handlers that abstain: they may submit, register, emit and call one another, but neither handle
frames nor look for what is overdue. A machine that runs only such handlers takes no request out of
the table, and shows nothing but what it still has to tell of requests that have expired.
-/
namespace PageSession.Exchange
open Json Message

/-- An action that neither handles a frame nor looks for what is overdue. -/
def Action.abstains {H : Type} : Action H → Bool
  | .handle _ | .pull | .expire _ => false
  | _ => true

def Program.Abstains {H : Type} : Program H → Prop
  | .finish => True
  | .act action next => action.abstains = true ∧ ∀ answer, (next answer).Abstains

def Behaviour.Abstains {H W : Type} (behave : Behaviour H W) : Prop :=
  ∀ h invocation page, (behave h invocation page).2.Abstains

def Control.Abstains {H : Type} : Control H → Prop
  | .perform action => action.abstains = true
  | .run _ program => program.Abstains
  | .answer _ => True

def Frame.Abstains {H : Type} : Frame H → Prop
  | .acting _ _ next => ∀ answer, (next answer).Abstains
  | _ => True

def overdueNotice (evicted : String × Call) : Severity × String :=
  (.error, evicted.2.handler ++ " timed out")

namespace Desk
variable {H W : Type}

/-- The log has grown by these notices, and by whatever else is no notice. -/
def Adds (notices : List (Severity × String)) (desk after : Desk H W) : Prop :=
  ∃ added : List (Event H), after.log = added.reverse ++ desk.log ∧
    added.filterMap Event.notice? = notices

theorem Adds.of_log {desk after : Desk H W} (same : after.log = desk.log) : Adds [] desk after :=
  ⟨[], same, rfl⟩

theorem Adds.trans {earlier later : List (Severity × String)} {first second third : Desk H W}
    (left : Adds earlier first second) (right : Adds later second third) :
    Adds (earlier ++ later) first third := by
  obtain ⟨before, grown, shown⟩ := left
  obtain ⟨behind, further, seen⟩ := right
  refine ⟨before ++ behind, ?_, ?_⟩
  · rw [further, grown, List.reverse_append, List.append_assoc]
  · rw [List.filterMap_append, shown, seen]

theorem Shows.adds {notices : List (Severity × String)} {desk after : Desk H W}
    (shows : Shows notices desk after) : Adds notices desk after := by
  obtain ⟨added, grown, shown, -⟩ := shows
  exact ⟨added, grown, shown⟩

theorem adds_announced (desk : Desk H W) (s : Submission H) (id : String) :
    Adds [] desk (desk.announced s id) := by
  obtain ⟨services, permit, same⟩ := desk.announced_desk s id
  rw [same]
  cases s.silent with
  | true => exact ⟨[.request .submitted id], rfl, rfl⟩
  | false => exact ⟨[.request .submitted id, .loading (some s.handler)], rfl, rfl⟩

theorem adds_submit (desk : Desk H W) (s : Submission H) : Adds [] desk (desk.submit s).2 := by
  rcases submit_cases desk s with ⟨-, empty⟩ | ⟨ids, -, exhausted⟩ | ⟨id, ids, -, sent⟩
  · rw [empty]
    exact .of_log rfl
  · rw [exhausted]
    exact .of_log rfl
  · rw [sent, submitAs_eq]
    split
    · exact .of_log rfl
    · split
      · refine .of_log ?_
        cases s.own? <;> rfl
      · refine Adds.trans (.of_log ?_) (adds_announced _ s _)
        cases s.own? <;> rfl

theorem Aside.adds {desk after : Desk H W} (aside : desk.Aside after) : Adds [] desk after := by
  cases aside with
  | linked | filed => exact .of_log rfl
  | enqueued => exact ⟨[.enqueued], rfl, rfl⟩

end Desk

namespace Machine
variable {H W : Type} {behave : Behaviour H W}

/-! ## Abstaining goes on -/

/-- A machine that has only abstaining handlers left to run. -/
structure Abstains (m : Machine H W) : Prop where
  control : m.control.Abstains
  stack : ∀ frame ∈ m.stack, frame.Abstains

section
variable {desk : Desk H W} {stack : List (Frame H)} (waiting : ∀ frame ∈ stack, frame.Abstains)
include waiting

theorem abstains_give (answer : Answer) : (give answer desk stack).Abstains := ⟨trivial, waiting⟩

theorem abstains_cons {frame : Frame H} (abstains : frame.Abstains) :
    ∀ other ∈ frame :: stack, other.Abstains := by
  intro other listed
  rcases List.mem_cons.mp listed with rfl | listed
  · exact abstains
  · exact waiting other listed

theorem abstains_enter (abstains : behave.Abstains) (h : H) (invocation : Invocation) :
    (enter behave h invocation desk stack).Abstains :=
  ⟨abstains h invocation desk.page, waiting⟩

theorem abstains_deliver (abstains : behave.Abstains) (id : String) (reply : Reply) :
    (deliver behave id reply desk stack).Abstains := by
  unfold deliver
  split
  · exact abstains_enter (abstains_cons waiting (by trivial)) abstains _ _
  · exact abstains_give waiting _

theorem abstains_perform (abstains : behave.Abstains) {action : Action H}
    (abstaining : action.abstains = true) : (perform behave action desk stack).Abstains := by
  cases action with
  | handle | pull | expire => cases abstaining
  | invoke id reply => exact abstains_deliver waiting abstains _ _
  | dispatch update => exact abstains_give (abstains_cons waiting (by trivial)) _
  | call method args =>
    simp only [perform]
    split
    · exact abstains_enter (abstains_cons waiting (by trivial)) abstains _ _
    · exact abstains_give waiting _
  | emitThen kind payload =>
    simp only [perform]
    split <;> exact abstains_give waiting _
  | submit s =>
    simp only [perform]
    split
    · exact abstains_give waiting _
    · exact ⟨rfl, waiting⟩
  | register | registerMethod | unregister | subscribe | emit | take | peer | stop | ask =>
    exact abstains_give waiting _

theorem abstains_resume (abstains : behave.Abstains) {frame : Frame H}
    (abstaining : frame.Abstains) (answer : Answer) :
    (resume behave frame answer desk stack).Abstains := by
  cases frame with
  | acting h action next => exact ⟨abstaining answer, waiting⟩
  | succeed => exact abstains_give waiting _
  | expiring rest count =>
    cases rest with
    | nil => exact abstains_give waiting _
    | cons evicted rest => exact abstains_deliver (abstains_cons waiting (by trivial)) abstains _ _
  | distributing update rest count =>
    cases rest with
    | nil => exact abstains_give waiting _
    | cons h rest => exact abstains_enter (abstains_cons waiting (by trivial)) abstains _ _
  | serving =>
    simp only [resume]
    split <;> exact abstains_give waiting _

end

theorem Abstains.step {m : Machine H W} (abstaining : m.Abstains) (abstains : behave.Abstains) :
    (m.step behave).Abstains := by
  obtain ⟨control, stack, desk⟩ := m
  obtain ⟨acting, waiting⟩ := abstaining
  cases control with
  | perform action => exact abstains_perform waiting abstains acting
  | run h program =>
    cases program with
    | finish => exact abstains_give waiting _
    | act action next => exact ⟨acting.1, abstains_cons waiting acting.2⟩
  | answer answer =>
    cases stack with
    | nil => exact ⟨trivial, waiting⟩
    | cons frame stack =>
      exact abstains_resume (fun other listed => waiting other (List.mem_cons_of_mem _ listed))
        abstains (waiting frame List.mem_cons_self) answer

/-! ## What it does -/

/-- Whoever abstains receives no frame. -/
theorem received?_of_abstains {action : Action H} {desk : Desk H W} {stack : List (Frame H)}
    (abstaining : action.abstains = true) :
    received? { control := .perform action, stack, desk } = none := by
  cases action with
  | handle | pull => cases abstaining
  | _ => rfl

/-- Whoever abstains makes no entries but of submissions. -/
theorem Abstains.entries {m : Machine H W} (abstaining : m.Abstains) :
    ∀ entry ∈ m.entries, entry.fate = .submitted := by
  obtain ⟨control, stack, desk⟩ := m
  intro entry made
  cases control with
  | run h program => cases made
  | answer answer => cases made
  | perform action =>
    have unreceived : received? { control := .perform action, stack, desk } = none :=
      received?_of_abstains abstaining.control
    unfold Machine.entries at made
    split at made
    · split at made
      · rw [List.mem_singleton.mp made]
      · cases made
    · rename_i performed
      cases performed
      cases abstaining.control
    · rw [unreceived] at made
      cases made

/-- What waits goes on waiting as long as handlers abstain. -/
theorem Abstains.keeps {m : Machine H W} (abstaining : m.Abstains) (behave : Behaviour H W)
    {id : String} {call : Call} (waiting : m.desk.calls.find? id = some call) :
    (m.step behave).desk.calls.find? id = some call := by
  rw [step_find?]
  cases made : m.entries.find? fun entry => entry.id = id with
  | none => exact waiting
  | some entry =>
    have listed := List.mem_of_find?_eq_some made
    have same : entry.id = id := by simpa using List.find?_some made
    have free := find?_of_mem_entries listed
    rw [same, waiting, Entry.before, if_pos (abstaining.entries entry listed)] at free
    cases free

theorem adds_deliver (id : String) (reply : Reply) (desk : Desk H W) (stack : List (Frame H)) :
    Desk.Adds [] desk (deliver behave id reply desk stack).desk := by
  have grown := deliver_log behave id reply desk stack
  cases found : desk.callbacks.find? id with
  | none =>
    rw [found] at grown
    exact .of_log grown
  | some callback =>
    rw [found] at grown
    exact ⟨[.invoked callback.handler (.reply reply)], grown, rfl⟩

theorem adds_tell (id : String) (call : Call) (desk : Desk H W) (stack : List (Frame H)) :
    Desk.Adds [overdueNotice (id, call)] desk (tell behave id call desk stack).desk := by
  have noted : Desk.Adds [overdueNotice (id, call)] desk
      ((desk.record (.request .expired id)).notify .error (Desk.timeoutReply call).message) :=
    ⟨[.request .expired id, .notified .error (Desk.timeoutReply call).message], rfl, rfl⟩
  exact noted.trans (adds_deliver ..)

/-- Of all that answers are handed to, only expired requests are shown. -/
theorem adds_resume (frame : Frame H) (answer : Answer) (desk : Desk H W)
    (stack : List (Frame H)) :
    Desk.Adds
      ((told { control := .answer answer, stack := frame :: stack, desk }).map overdueNotice) desk
      (resume behave frame answer desk stack).desk := by
  cases frame with
  | acting h action next => exact ⟨[.acted h action answer], rfl, rfl⟩
  | succeed => exact .of_log rfl
  | expiring rest count =>
    cases rest with
    | nil => exact .of_log rfl
    | cons evicted rest => exact adds_tell ..
  | distributing update rest count =>
    cases rest with
    | nil => exact .of_log rfl
    | cons h rest => exact ⟨[.invoked h (.update update)], rfl, rfl⟩
  | serving =>
    simp only [resume]
    split <;> exact .of_log rfl

theorem adds_perform (behave : Behaviour H W) {action : Action H}
    (abstaining : action.abstains = true) (desk : Desk H W) (stack : List (Frame H)) :
    Desk.Adds [] desk (perform behave action desk stack).desk ∧
      (perform behave action desk stack).pending = stack.flatMap Frame.untold := by
  cases performed action desk stack with
  | submitted s same =>
    subst same
    have submitted : perform behave (.submit s) desk stack = _ :=
      step_of_submit (m := { control := .perform (.submit s), stack, desk }) behave rfl
    rw [submitted]
    refine ⟨(desk.adds_submit s).trans (.of_log (Desk.sameBooks_enlist _).log), ?_⟩
    dsimp only
    split <;> rfl
  | evicted ahead same =>
    subst same
    cases abstaining
  | received frame taken receiving => cases (received?_of_abstains abstaining).symm.trans receiving
  | invoked id reply same =>
    subst same
    exact ⟨adds_deliver .., deliver_pending ..⟩
  | called method args h same found =>
    subst same
    simp only [perform, found]
    exact ⟨⟨[.invoked h (.method args)], rfl, rfl⟩, rfl⟩
  | stopped same =>
    subst same
    exact ⟨.of_log (Desk.sameBooks_stopService desk).log, rfl⟩
  | answered answer after waiting aside untold silent result =>
    rw [result]
    exact ⟨aside.adds, untold⟩

/-- A step of a machine that abstains shows what it tells of the requests that have expired, and
nothing else. -/
theorem Abstains.tells {m : Machine H W} (abstaining : m.Abstains) (behave : Behaviour H W) :
    Desk.Adds (m.told.map overdueNotice) m.desk (m.step behave).desk ∧
      m.pending = m.told ++ (m.step behave).pending := by
  obtain ⟨control, stack, desk⟩ := m
  cases control with
  | answer answer =>
    refine ⟨?_, news_of_answer behave rfl⟩
    cases stack with
    | nil => exact .of_log rfl
    | cons frame stack => exact adds_resume ..
  | run h program => cases program <;> exact ⟨.of_log rfl, rfl⟩
  | perform action =>
    have untold : told { control := .perform action, stack, desk } = [] := by
      rw [told_of_not_answer (by simp)]
      have unresolved : ∀ entry ∈ Machine.entries { control := .perform action, stack, desk },
          ¬decide (entry.fate = .resolved) = true := by
        intro entry made
        simp [abstaining.entries entry made]
      rw [List.filter_eq_nil_iff.mpr unresolved]
      rfl
    obtain ⟨adds, pending⟩ := adds_perform behave abstaining.control desk stack
    rw [untold]
    exact ⟨adds, pending.symm⟩

/-! ## Runs -/

/-- What a run of a machine that abstains preserves: it goes on abstaining, what waits goes on
waiting, and what has been shown and what is still to be told make up what was to be told. -/
theorem Abstains.run {m : Machine H W} (abstaining : m.Abstains) (abstains : behave.Abstains)
    (budget : Nat) :
    (run behave budget m).Abstains ∧
      (∀ id call, m.desk.calls.find? id = some call →
        (run behave budget m).desk.calls.find? id = some call) ∧
      ∃ notices, Desk.Adds notices m.desk (run behave budget m).desk ∧
        notices ++ (run behave budget m).pending.map overdueNotice =
          m.pending.map overdueNotice := by
  induction budget generalizing m with
  | zero => exact ⟨abstaining, fun _ _ => id, [], .of_log rfl, rfl⟩
  | succ budget ih =>
    rw [run_step]
    obtain ⟨adds, pending⟩ := abstaining.tells behave
    obtain ⟨still, keeps, notices, further, sum⟩ := ih (abstaining.step abstains)
    refine ⟨still, fun id call waiting => keeps id call (abstaining.keeps behave waiting),
      _, adds.trans further, ?_⟩
    rw [List.append_assoc, sum, pending, List.map_append]

end Machine
end PageSession.Exchange
