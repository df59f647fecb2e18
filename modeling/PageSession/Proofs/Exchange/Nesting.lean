import Mathlib.Logic.Function.Iterate
import PageSession.Exchange.Machine

/-!
Operations inside operations. A machine never looks below the frames that it works on, so what it
does at the top of a stack is what it does alone, and what comes of the whole is what comes of the
top, handed to the frames below. This tells the end of an operation from the ends of the handlers
that it runs.
-/
namespace PageSession.Exchange
open Json Message

namespace Machine
variable {H W : Type}

/-! ## Frames below -/

/-- The same machine with further frames below its own. -/
def above (m : Machine H W) (below : List (Frame H)) : Machine H W :=
  { m with stack := m.stack ++ below }

section
variable (behave : Behaviour H W) (desk : Desk H W) (stack below : List (Frame H))

theorem deliver_above (id : String) (reply : Reply) :
    deliver behave id reply desk (stack ++ below) =
      (deliver behave id reply desk stack).above below := by
  unfold deliver
  cases desk.takeCallback? id <;> rfl

theorem handle_above (frame : Incoming) :
    handle behave frame desk (stack ++ below) = (handle behave frame desk stack).above below := by
  unfold handle
  split
  · rfl
  · exact deliver_above behave _ _ _ _ _
  · rfl

theorem expire_above (time : Int) :
    expire time desk (stack ++ below) = (expire time desk stack).above below := by
  unfold expire
  split <;> rfl

theorem perform_above (action : Action H) :
    perform behave action desk (stack ++ below) =
      (perform behave action desk stack).above below := by
  cases action with
  | invoke id reply => exact deliver_above behave _ _ _ _ _
  | handle frame => exact handle_above behave _ _ _ _
  | expire ahead => exact expire_above _ _ _ _
  | submit | call | emitThen =>
    simp only [perform]
    split <;> rfl
  | pull =>
    simp only [perform]
    split
    · exact handle_above behave _ _ _ _
    · rfl
  | register | registerMethod | unregister | subscribe | dispatch | emit | take | peer
  | stop | ask => rfl

theorem tell_above (id : String) (call : Call) :
    tell behave id call desk (stack ++ below) = (tell behave id call desk stack).above below :=
  deliver_above behave _ _ _ _ _

theorem resume_above (frame : Frame H) (answer : Answer) :
    resume behave frame answer desk (stack ++ below) =
      (resume behave frame answer desk stack).above below := by
  cases frame with
  | acting | succeed => rfl
  | expiring rest count =>
    cases rest with
    | nil => rfl
    | cons evicted rest => exact tell_above behave desk (_ :: stack) below _ _
  | distributing update rest count => cases rest <;> rfl
  | serving =>
    simp only [resume]
    split <;> rfl

end

/-- As long as a machine has something left to do, frames below make no difference to its step. -/
theorem step_above (behave : Behaviour H W) {m : Machine H W} (busy : m.result? = none)
    (below : List (Frame H)) : (m.above below).step behave = (m.step behave).above below := by
  obtain ⟨control, stack, desk⟩ := m
  cases control with
  | perform action => exact perform_above behave _ _ _ _
  | run h program => cases program <;> rfl
  | answer answer =>
    cases stack with
    | nil => cases busy
    | cons frame stack => exact resume_above behave _ _ _ _ _

/-! ## The end of a machine -/

theorem step_of_result {behave : Behaviour H W} {m : Machine H W}
    (ended : m.result?.isSome = true) : m.step behave = m := by
  obtain ⟨control, stack, desk⟩ := m
  cases control with
  | answer answer =>
    cases stack with
    | nil => rfl
    | cons frame stack => cases ended
  | perform | run => cases ended

/-- A machine that has ended stays as it is, so a run is nothing but steps. -/
theorem run_eq_iterate (behave : Behaviour H W) (budget : Nat) (m : Machine H W) :
    run behave budget m = (step behave)^[budget] m := by
  induction budget generalizing m with
  | zero => rfl
  | succ budget ih =>
    rw [run, Function.iterate_succ_apply]
    split
    · rename_i ended
      rw [step_of_result ended, Function.iterate_fixed (step_of_result ended)]
    · exact ih _

theorem run_step (behave : Behaviour H W) (budget : Nat) (m : Machine H W) :
    run behave (budget + 1) m = run behave budget (m.step behave) := by
  rw [run_eq_iterate, run_eq_iterate, Function.iterate_succ_apply]

theorem run_add (behave : Behaviour H W) (further budget : Nat) (m : Machine H W) :
    run behave (further + budget) m = run behave further (run behave budget m) := by
  rw [run_eq_iterate, run_eq_iterate, run_eq_iterate, Function.iterate_add_apply]

theorem run_of_result {behave : Behaviour H W} {m : Machine H W} {answer : Answer}
    (result : m.result? = some answer) (budget : Nat) : run behave budget m = m := by
  have ended : m.result?.isSome = true := Option.isSome_of_eq_some result
  rw [run_eq_iterate, Function.iterate_fixed (step_of_result ended)]

/-- The machine comes to its end, with this answer and this desk. -/
def Comes (behave : Behaviour H W) (m : Machine H W) (answer : Answer) (desk : Desk H W) : Prop :=
  ∃ budget, run behave budget m = give answer desk []

section
variable {behave : Behaviour H W} {m : Machine H W} {answer : Answer} {desk last : Desk H W}
  {stack below : List (Frame H)}

theorem eq_give_of_result (result : m.result? = some answer) : m = give answer m.desk [] := by
  obtain ⟨control, stack, desk⟩ := m
  cases control with
  | answer given =>
    cases stack with
    | nil =>
      cases result
      rfl
    | cons frame stack => cases result
  | perform | run => cases result

/-- An end is the answer of an operation, with the desk that it leaves behind. -/
theorem performs_iff_comes {action : Action H} :
    (∃ budget, desk.perform behave budget action = (some answer, last)) ↔
      Comes behave { control := .perform action, desk } answer last := by
  refine exists_congr fun budget => ?_
  constructor
  · intro performed
    have result := congrArg Prod.fst performed
    have left := congrArg Prod.snd performed
    dsimp only [Desk.perform] at result left
    rw [eq_give_of_result result, left]
  · intro ended
    rw [Desk.perform, ended]
    rfl

/-- Once a machine has come to its end, all longer runs end alike. -/
theorem Comes.stays (comes : Comes behave m answer last) :
    ∃ enough, ∀ budget, enough ≤ budget → run behave budget m = give answer last [] := by
  obtain ⟨enough, ended⟩ := comes
  refine ⟨enough, fun budget longer => ?_⟩
  obtain ⟨further, rfl⟩ := Nat.exists_eq_add_of_le' longer
  rw [run_add, ended, run_of_result rfl]

theorem comes_step_iff : Comes behave (m.step behave) answer last ↔ Comes behave m answer last := by
  constructor
  · rintro ⟨budget, ended⟩
    exact ⟨budget + 1, (run_step behave budget m).trans ended⟩
  · rintro ⟨budget, ended⟩
    refine ⟨budget, ?_⟩
    rw [← run_step, Nat.add_comm, run_add, ended, run_of_result rfl]

theorem comes_give_iff {given : Answer} :
    Comes behave (give given desk []) answer last ↔ answer = given ∧ last = desk := by
  constructor
  · rintro ⟨budget, ended⟩
    rw [run_of_result rfl] at ended
    cases ended
    exact ⟨rfl, rfl⟩
  · rintro ⟨rfl, rfl⟩
    exact ⟨0, rfl⟩

theorem above_of_result {given : Answer} (result : m.result? = some given) :
    m.above below = give given m.desk below := by
  rw [eq_give_of_result result]
  rfl

/-- A machine above further frames comes to its end as it does alone, and then the frames below come
to theirs with its answer. -/
theorem comes_above_iff :
    Comes behave (m.above below) answer last ↔
      ∃ given desk, Comes behave m given desk ∧
        Comes behave (give given desk below) answer last := by
  constructor
  · rintro ⟨budget, ended⟩
    induction budget generalizing m with
    | zero =>
      have alone : m.stack ++ below = [] := congrArg Machine.stack ended
      obtain ⟨empty, rfl⟩ := List.append_eq_nil_iff.mp alone
      have same : m.above [] = m := by
        unfold above
        rw [List.append_nil]
      rw [same] at ended
      exact ⟨answer, last, ⟨0, ended⟩, comes_give_iff.mpr ⟨rfl, rfl⟩⟩
    | succ budget ih =>
      cases result : m.result? with
      | some given =>
        rw [above_of_result result] at ended
        exact ⟨given, m.desk, ⟨0, eq_give_of_result result⟩, budget + 1, ended⟩
      | none =>
        rw [run_step, step_above behave result] at ended
        obtain ⟨given, desk, first, further⟩ := ih ended
        exact ⟨given, desk, comes_step_iff.mp first, further⟩
  · rintro ⟨given, desk, ⟨budget, ended⟩, further⟩
    induction budget generalizing m with
    | zero =>
      rw [run] at ended
      rw [ended]
      exact further
    | succ budget ih =>
      cases result : m.result? with
      | some other =>
        rw [run_of_result result] at ended
        rw [ended]
        exact further
      | none =>
        rw [run_step] at ended
        rw [← comes_step_iff, step_above behave result]
        exact ih ended

/-! ## Handlers -/

/-- A handler that an operation succeeds with, whatever it answers. -/
theorem comes_enter_iff {h : H} {invocation : Invocation} :
    Comes behave (enter behave h invocation desk [.succeed]) answer last ↔
      answer = done ∧ ∃ given, Comes behave (enter behave h invocation desk []) given last := by
  have split : enter behave h invocation desk [.succeed] =
      (enter behave h invocation desk []).above [.succeed] := rfl
  have succeeds (given : Answer) (middle : Desk H W) :
      Comes behave (give given middle [.succeed]) answer last ↔ answer = done ∧ last = middle := by
    rw [← comes_step_iff]
    exact comes_give_iff
  rw [split, comes_above_iff]
  simp only [succeeds]
  constructor
  · rintro ⟨given, middle, ran, rfl, rfl⟩
    exact ⟨rfl, given, ran⟩
  · rintro ⟨rfl, given, ran⟩
    exact ⟨given, last, ran, rfl, rfl⟩

/-- A reply is delivered to nobody, or with all that its handler does. -/
theorem comes_deliver_iff {id : String} {reply : Reply} :
    Comes behave (deliver behave id reply desk []) answer last ↔
      match desk.takeCallback? id with
      | none => answer = .done (.error (.callbackNotFound id)) ∧ last = desk
      | some (h, taken) =>
        answer = done ∧
          ∃ given, Comes behave (enter behave h (.reply reply) taken []) given last := by
  unfold deliver
  cases desk.takeCallback? id with
  | none => exact comes_give_iff
  | some callback => exact comes_enter_iff

end

end Machine
end PageSession.Exchange
