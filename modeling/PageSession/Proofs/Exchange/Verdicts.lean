import PageSession.Proofs.Exchange.ConcurrentRun

/-!
What services do with the frames that they handle. Each frame that a service begins to handle gets
its verdict before the next one is begun, and the failures among the verdicts are counted.
-/
namespace PageSession.Exchange
open Json Message

section
variable {H W : Type}

def collected {α : Type} (brought : Stage H W → ConcurrentMove H → List α) :
    ConcurrentPast H W → List α
  | [] => []
  | (stage, move) :: past => collected brought past ++ brought stage move

def Stage.handled (stage : Stage H W) : ConcurrentMove H → List (Nat × Incoming)
  | .move (.handle line) => ((stage.desk.takeNext? line).map fun taken => (line, taken.1)).toList
  | _ => []

/-- The frames that services have begun to handle, with their lines. -/
def handledIn : ConcurrentPast H W → List (Nat × Incoming) := collected Stage.handled

def Stage.verdicts (stage : Stage H W) : ConcurrentMove H → List Answer
  | .move .work => stage.machine.verdict?.toList
  | _ => []

def verdictsIn : ConcurrentPast H W → List Answer := collected Stage.verdicts

end

def Frame.isServing {H : Type} : Frame H → Bool
  | .serving => true
  | _ => false

namespace Machine
variable {H W : Type}

def servings (m : Machine H W) : Nat := m.stack.countP Frame.isServing

theorem deliver_servings (behave : Behaviour H W) (id : String) (reply : Reply)
    (desk : Desk H W) (stack : List (Frame H)) :
    (deliver behave id reply desk stack).servings = stack.countP Frame.isServing := by
  unfold deliver
  split <;> rfl

theorem handle_servings (behave : Behaviour H W) (frame : Incoming) (desk : Desk H W)
    (stack : List (Frame H)) :
    (handle behave frame desk stack).servings = stack.countP Frame.isServing := by
  unfold handle
  split
  · rfl
  · exact deliver_servings behave _ _ _ _
  · rfl

theorem perform_servings (behave : Behaviour H W) (action : Action H) (desk : Desk H W)
    (stack : List (Frame H)) :
    (perform behave action desk stack).servings = stack.countP Frame.isServing := by
  cases action with
  | handle frame => exact handle_servings behave frame desk stack
  | invoke id reply => exact deliver_servings behave id reply desk stack
  | expire ahead =>
    simp only [perform, expire]
    split <;> rfl
  | pull =>
    simp only [perform]
    split
    · exact handle_servings behave _ _ stack
    · rfl
  | submit | call | emitThen =>
    simp only [perform]
    split <;> rfl
  | _ => rfl

/-- A service waits until a step hands it the answer. -/
theorem step_servings (behave : Behaviour H W) (m : Machine H W) :
    (m.step behave).servings + m.verdict?.toList.length = m.servings := by
  obtain ⟨control, stack, desk⟩ := m
  cases control with
  | perform action => exact perform_servings behave action desk stack
  | run h program => cases program <;> rfl
  | answer answer =>
    cases stack with
    | nil => rfl
    | cons frame stack =>
      cases frame with
      | acting | succeed => rfl
      | expiring rest count =>
        cases rest with
        | nil => rfl
        | cons request rest => exact deliver_servings behave _ _ _ (.expiring rest count :: stack)
      | distributing update rest count => cases rest <;> rfl
      | serving =>
        simp only [step, resume, verdict?]
        split <;> exact (List.countP_cons_of_pos rfl).symm

end Machine

section
variable {H W : Type} {behave : Behaviour H W} {settings : Settings} {credentials : Credentials}
  {page : W} {past : ConcurrentPast H W} {stage : Stage H W}

/-- Frames that services handle have their verdicts, but for the one that is being handled. -/
structure Judged (past : ConcurrentPast H W) (stage : Stage H W) : Prop where
  judged : (handledIn past).length = (verdictsIn past).length + stage.machine.servings
  single : stage.machine.servings ≤ 1
  dropped : stage.desk.dropped = (verdictsIn past).countP Answer.isFailure

/-- No operation is in progress for anybody at rest. -/
theorem Stage.servings_of_isIdle (idle : stage.isIdle = true) : stage.machine.servings = 0 := by
  unfold isIdle Machine.result? at idle
  split at idle
  · rename_i empty
    rw [Machine.servings, empty]
    rfl
  · cases idle

/-- Only the frame that a service takes is begun on its behalf. -/
theorem Stage.stack_of_begin {desk : Desk H W} {aims : Nat → Option (Option Nat)} {move : Move H}
    {after : Stage H W} (made : begin desk aims move = some after)
    (others : ∀ line, move ≠ .handle line) : after.machine.stack = [] := by
  cases begins_of_begin made with
  | handle line => exact absurd rfl (others line)
  | _ => rfl

/-- A move that takes a frame for a service begins its handling, and a verdict ends it. -/
theorem Stage.judged_interleave {after : Stage H W} {move : ConcurrentMove H}
    (made : stage.interleave behave move = some after) :
    after.machine.servings + (stage.verdicts move).length =
        stage.machine.servings + (stage.handled move).length ∧
      after.machine.servings ≤ max 1 stage.machine.servings ∧
      after.desk.dropped = stage.desk.dropped + (stage.verdicts move).countP Answer.isFailure := by
  cases move with
  | submit s =>
    cases made
    exact ⟨rfl, Nat.le_max_right _ _, (stage.desk.passes_submit s).dropped⟩
  | traffic traffic =>
    simp only [Stage.interleave] at made
    split at made <;> cases made
    exact ⟨rfl, Nat.le_max_right _ _, rfl⟩
  | advance ms =>
    cases made
    exact ⟨rfl, Nat.le_max_right _ _, rfl⟩
  | move move =>
    cases moved_of_next made with
    | worked =>
      have balance := Machine.step_servings behave stage.machine
      refine ⟨balance, ?_, (Machine.passes_step behave stage.machine).2.2⟩
      show (stage.machine.step behave).servings ≤ _
      omega
    | exchanged => exact ⟨rfl, Nat.le_max_right _ _, rfl⟩
    | begun _ _ unworked idle begun =>
      have silent : stage.verdicts (.move move) = [] := by
        cases move with
        | work => cases unworked
        | _ => rfl
      have books := (begun_of_begin begun).books
      have counted : after.machine.servings = (stage.handled (.move move)).length ∧
          (stage.handled (.move move)).length ≤ 1 := by
        by_cases handling : ∃ line, move = .handle line
        · obtain ⟨line, rfl⟩ := handling
          cases begins_of_begin begun with
          | handle _ service frame taken found received =>
            simp only [handled, received]
            exact ⟨rfl, Nat.le_refl 1⟩
        · have others : ∀ line, move ≠ .handle line := fun line same => handling ⟨line, same⟩
          have nothing : stage.handled (.move move) = [] := by
            cases move <;> first | rfl | exact absurd rfl (others _)
          rw [Machine.servings, stack_of_begin begun others, nothing]
          exact ⟨rfl, Nat.zero_le 1⟩
      rw [silent, servings_of_isIdle idle, counted.1]
      exact ⟨by simp, by simpa using counted.2, books.dropped⟩

theorem ConcurrentRun.judged
    (run : ConcurrentRun behave (Stage.opening settings credentials page) past stage) :
    Judged past stage := by
  induction run with
  | start => exact ⟨rfl, Nat.zero_le _, rfl⟩
  | @next past stage after move before made ih =>
    obtain ⟨balance, few, dropped⟩ := Stage.judged_interleave made
    refine ⟨?_, ?_, ?_⟩
    · have earlier := ih.judged
      simp only [handledIn, verdictsIn, collected, List.length_append] at earlier ⊢
      omega
    · have single := ih.single
      omega
    · rw [dropped, ih.dropped]
      simp only [verdictsIn, collected, List.countP_append]

end

end PageSession.Exchange
