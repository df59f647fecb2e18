import Mathlib.Logic.Relation
import PageSession.Proofs.Assembly.Waiting

/-!
What tasks do, move by move. Whatever loaders prescribe and in whatever order the tasks take their
turns, the books change by a few kinds of moves, one at a time: a moment is counted, time passes, a
task is started, a module is registered, and a task at work changes its phase. What each move keeps,
every wait keeps.
-/
namespace PageSession.Assembly
open Page

variable {M S : Type}

namespace Phase

/-- Nothing more comes of the task. -/
def isOver : Phase M → Bool
  | .ended _ | .died => true
  | _ => false

def isLoading : Phase M → Bool
  | .ready _ _ | .asleep _ _ _ | .died => true
  | _ => false

theorem isEnded_of_isLoading {phase : Phase M} (loading : phase.isLoading = true) :
    phase.isEnded = false := by
  cases phase with
  | ended => cases loading
  | _ => rfl

theorem isEnded_of_not_isOver {phase : Phase M} (working : phase.isOver = false) :
    phase.isEnded = false := by
  cases phase with
  | ended => cases working
  | _ => rfl

end Phase

namespace Intake

/-- The task with this index has neither come to a result nor broken off. -/
def IsAtWork (intake : Intake M) (index : Nat) (resource : Option Resource) : Prop :=
  ∃ phase, phase.isOver = false ∧ intake.tasks[index]? = some { resource, phase }

theorem IsAtWork.works {intake : Intake M} {index : Nat} {resource : Option Resource}
    (working : intake.IsAtWork index resource) : intake.Works index resource := by
  obtain ⟨phase, busy, found⟩ := working
  exact ⟨phase, Phase.isEnded_of_not_isOver busy, found⟩

theorem IsAtWork.start {intake : Intake M} {index : Nat} {resource : Option Resource}
    (working : intake.IsAtWork index resource) (load : Load M) :
    (intake.start none load).IsAtWork index resource := by
  obtain ⟨phase, busy, found⟩ := working
  refine ⟨phase, busy, ?_⟩
  have bound : index < intake.tasks.length := (List.getElem?_eq_some_iff.mp found).1
  show (intake.tasks ++ [_])[index]? = _
  rw [List.getElem?_append_left bound, found]

theorem IsAtWork.setPhase {intake : Intake M} {index other : Nat} {resource : Option Resource}
    (working : intake.IsAtWork other resource) {phase : Phase M} (busy : phase.isOver = false) :
    (intake.setPhase index phase).IsAtWork other resource := by
  obtain ⟨earlier, before, found⟩ := working
  unfold IsAtWork
  rw [tasks_setPhase]
  by_cases same : other = index
  · rw [if_pos same, ← same, found]
    exact ⟨phase, busy, rfl⟩
  · rw [if_neg same]
    exact ⟨earlier, before, found⟩

/-! ## Moves -/

/-- One change of the roster and the intake. -/
inductive Move : Roster M × Intake M → Roster M × Intake M → Prop
  | tick (roster : Roster M) (intake : Intake M) : Move (roster, intake) (roster, intake.ticket.2)
  | pass (roster : Roster M) (intake : Intake M) (now : Nat) :
      Move (roster, intake) (roster, { intake with now })
  | start (roster : Roster M) (intake : Intake M) (load : Load M) :
      Move (roster, intake) (roster, intake.start none load)
  | register {roster after : Roster M} {m : Module M} (success : roster.register m = .ok after)
      (intake : Intake M) : Move (roster, intake) (after, intake)
  /-- A task is ready, falls asleep or breaks off. -/
  | change (roster : Roster M) {intake : Intake M} {index : Nat} {resource : Option Resource}
      (working : intake.IsAtWork index resource) {phase : Phase M}
      (loading : phase.isLoading = true) :
      Move (roster, intake) (roster, intake.setPhase index phase)
  /-- A load that has succeeded looks for its module. -/
  | await (roster : Roster M) {intake : Intake M} {index : Nat} {resource : Option Resource}
      (working : intake.IsAtWork index resource) :
      Move (roster, intake) (roster, intake.await index resource roster)
  | fail (roster : Roster M) {intake : Intake M} {index : Nat} {resource : Option Resource}
      (working : intake.IsAtWork index resource) (failure : Failure) :
      Move (roster, intake)
        (roster, intake.conclude index resource (.error (reported resource failure)))

abbrev Moves : Roster M × Intake M → Roster M × Intake M → Prop := Relation.ReflTransGen Move

section
variable {roster : Roster M} {intake : Intake M} {index : Nat} {resource : Option Resource}

/-- A task works up to its next wait, whatever its loader prescribes. -/
theorem runTask_moves (load : Load M) (working : intake.IsAtWork index resource) :
    Moves (roster, intake) (runTask index resource load roster intake) := by
  induction load generalizing roster intake with
  | finish result =>
    cases result with
    | ok => exact .single (.await roster working)
    | error failure => exact .single (.fail roster working failure)
  | die => exact .single (.change roster working rfl)
  | sleep ms next ih =>
    unfold runTask
    split
    · exact ih working
    · have counted : intake.ticket.2.IsAtWork index resource := working
      exact .head (.tick roster intake) (.single (.change roster counted rfl))
  | register m next ih =>
    unfold runTask
    cases registered : roster.register m with
    | ok after => exact .head (.register registered intake) (ih (.ok ()) working)
    | error failure => exact ih (.error failure) working
  | look next ih => exact ih roster working
  | spawn task next _ ih =>
    exact .head (.start roster intake task) (ih (working.start task))

/-- One turn of a task. -/
theorem turn_moves (index : Nat) (roster : Roster M) (intake : Intake M) :
    Moves (roster, intake) (intake.turn index roster) := by
  unfold turn
  cases found : intake.tasks[index]? with
  | none => exact .refl
  | some task =>
    obtain ⟨resource, phase⟩ := task
    cases phase with
    | ready ticket load => exact runTask_moves load ⟨_, rfl, found⟩
    | awaiting waiter =>
      dsimp only
      split
      · exact .single (.await roster ⟨_, rfl, found⟩)
      · exact .refl
    | asleep | ended | died => exact .refl

/-- Whoever sleeps is at work. -/
theorem isAtWork_of_sleeper {sleeper : Nat × Nat × Nat × Load M}
    (listed : sleeper ∈ intake.sleepers) : ∃ resource, intake.IsAtWork sleeper.2.2.1 resource := by
  obtain ⟨resource, due, ticket, load, found⟩ := asleep_of_sleeper listed
  exact ⟨resource, _, rfl, found⟩

theorem wake_moves (sleepers : List (Nat × Nat × Nat × Load M))
    (working : ∀ sleeper ∈ sleepers, ∃ resource, intake.IsAtWork sleeper.2.2.1 resource) :
    Moves (roster, intake) (roster, sleepers.foldl wake intake) := by
  induction sleepers generalizing intake with
  | nil => exact .refl
  | cons sleeper rest ih =>
    obtain ⟨resource, busy⟩ := working sleeper (List.mem_cons_self ..)
    have counted : intake.ticket.2.IsAtWork sleeper.2.2.1 resource := busy
    have woken : Move (roster, intake.ticket.2) (roster,
        intake.ticket.2.setPhase sleeper.2.2.1 (.ready intake.ticket.1 sleeper.2.2.2)) :=
      .change roster counted rfl
    refine .head (.tick roster intake) (.head woken (ih fun other member => ?_))
    obtain ⟨owner, busy⟩ := working other (List.mem_cons_of_mem _ member)
    have counted : intake.ticket.2.IsAtWork other.2.2.1 owner := busy
    exact ⟨owner, counted.setPhase rfl⟩

/-- Waking those who are due. -/
theorem ring_moves (roster : Roster M) (intake : Intake M) :
    Moves (roster, intake) (roster, intake.ring) := by
  refine wake_moves _ fun sleeper member => ?_
  rw [List.mem_mergeSort] at member
  exact isAtWork_of_sleeper (List.mem_filter.mp member).1

/-- Tasks work until all of them wait. -/
theorem settle_moves (turns : Nat) (roster : Roster M) (intake : Intake M) :
    Moves (roster, intake) (intake.settle turns roster) := by
  induction turns generalizing roster intake with
  | zero => exact .refl
  | succ turns ih =>
    unfold settle
    split
    · exact (turn_moves _ roster intake).trans (ih _ _)
    · split
      · exact (ring_moves roster intake).trans (ih _ _)
      · split
        · exact (turn_moves _ roster intake).trans (ih _ _)
        · exact .refl

end

/-! ## What moves do to tasks -/

theorem tasks_conclude (intake : Intake M) (index : Nat) (resource : Option Resource)
    (result : Except Failure Unit) :
    (intake.conclude index resource result).tasks =
      (intake.setPhase index (.ended result)).tasks := by
  cases resource <;> rfl

/-- Whoever looks for a module ends with success, or waits for the next module. -/
theorem tasks_await (intake : Intake M) (index : Nat) (resource : Option Resource)
    (roster : Roster M) :
    ∃ phase : Phase M, (intake.await index resource roster).tasks =
        (intake.setPhase index phase).tasks ∧
      (phase = .ended (.ok ()) ∨ ∃ owner, resource = some owner ∧
        roster.contains owner.name = false ∧
        phase = .awaiting { name := owner.name, seen := roster.generation }) := by
  unfold await
  split
  · rename_i waiter found
    obtain ⟨owner, rfl, waits⟩ := Option.bind_eq_some_iff.mp found
    unfold Roster.await at waits
    split at waits
    · cases waits
    · rename_i absent
      cases waits
      exact ⟨_, rfl, .inr ⟨owner, rfl, Bool.eq_false_iff.mpr absent, rfl⟩⟩
  · exact ⟨_, intake.tasks_conclude index resource (.ok ()), .inl rfl⟩

/-- A move keeps all tasks, adds one that loads nothing, or sets the phase of one at work. -/
theorem Move.tasks {before after : Roster M × Intake M} (move : Move before after) :
    after.2.tasks = before.2.tasks ∨
      (∃ phase, after.2.tasks = before.2.tasks ++ [{ resource := none, phase }]) ∨
      ∃ index resource phase, before.2.IsAtWork index resource ∧
        after.2.tasks = (before.2.setPhase index phase).tasks := by
  cases move with
  | tick | pass | register => exact .inl rfl
  | start => exact .inr (.inl ⟨_, rfl⟩)
  | change roster working => exact .inr (.inr ⟨_, _, _, working, rfl⟩)
  | await roster working =>
    obtain ⟨phase, tasks, -⟩ := tasks_await _ _ _ roster
    exact .inr (.inr ⟨_, _, phase, working, tasks⟩)
  | fail roster working => exact .inr (.inr ⟨_, _, _, working, tasks_conclude ..⟩)

/-- What is known of a load does not change any more. -/
theorem Move.outcome? {before after : Roster M × Intake M} (move : Move before after) {index : Nat}
    {result : Except Failure Unit} (known : before.2.outcome? index = some result) :
    after.2.outcome? index = some result := by
  have kept (same : after.2.tasks[index]? = before.2.tasks[index]?) :
      after.2.outcome? index = some result := by
    unfold Intake.outcome?
    rw [same]
    exact known
  -- a task of which something is known exists and is not at work
  obtain ⟨task, found⟩ : ∃ task, before.2.tasks[index]? = some task := by
    cases found : before.2.tasks[index]? with
    | none =>
      unfold Intake.outcome? at known
      rw [found] at known
      cases known
    | some task => exact ⟨task, rfl⟩
  rcases move.tasks with same | ⟨phase, added⟩ | ⟨other, resource, phase, working, changed⟩
  · exact kept (by rw [same])
  · refine kept ?_
    rw [added, List.getElem?_append_left (List.getElem?_eq_some_iff.mp found).1]
  · refine kept ?_
    rw [changed, tasks_setPhase, if_neg]
    rintro rfl
    obtain ⟨earlier, busy, here⟩ := working
    unfold Intake.outcome? at known
    rw [here] at known
    cases earlier with
    | ended | died => cases busy
    | ready | asleep | awaiting => simp at known

theorem Moves.outcome? {before after : Roster M × Intake M} (moves : Moves before after)
    {index : Nat} {result : Except Failure Unit}
    (known : before.2.outcome? index = some result) : after.2.outcome? index = some result := by
  induction moves with
  | refl => exact known
  | tail _ move ih => exact move.outcome? ih

/-! ## What moves keep -/

/-- A move leaves the books sound, and keeps what is registered and what is loaded. -/
theorem Move.sound {before after : Roster M × Intake M} (move : Move before after)
    (sound : Sound before.1 before.2) :
    Sound after.1 after.2 ∧ Kept before.1 before.2 after.1 after.2 := by
  cases move with
  | tick => exact ticket_sound sound
  | pass roster intake now => exact now_sound sound now
  | start roster intake load => exact start_sound sound load
  | register success intake =>
    have more : ∀ {name}, _ → _ := @Roster.contains_of_register _ _ _ _ success
    exact ⟨sound.of_modules more, .of_modules more⟩
  | change roster working loading =>
    exact setPhase_sound sound working.works (Phase.isEnded_of_isLoading loading)
  | await roster working => exact await_sound sound working.works
  | fail roster working =>
    exact conclude_sound sound working.works fun impossible => by cases impossible

theorem Moves.sound {before after : Roster M × Intake M} (moves : Moves before after)
    (sound : Sound before.1 before.2) :
    Sound after.1 after.2 ∧ Kept before.1 before.2 after.1 after.2 := by
  induction moves with
  | refl => exact ⟨sound, .refl _ _⟩
  | tail _ move ih =>
    obtain ⟨sound', kept⟩ := move.sound ih.1
    exact ⟨sound', ih.2.trans kept⟩

end Intake

/-! ## Waits -/

namespace Startup

/-- What tasks work on. -/
def books (startup : Startup M S) : Roster M × Intake M :=
  (startup.workshop.roster, startup.intake)

/-- A wait is nothing but the work of tasks, whatever is asked. -/
theorem waitUntil_moves {α : Type} (ask : Startup M S → Option α) (turns deadline : Nat)
    (startup : Startup M S) :
    Intake.Moves startup.books (startup.waitUntil ask turns deadline).2.books := by
  fun_induction waitUntil ask turns deadline startup with
  | case1 | case2 => exact .refl
  | case3 startup => exact Intake.settle_moves turns startup.workshop.roster startup.intake
  | case4 startup unknown early settled still due next ih =>
    have settles := Intake.settle_moves turns startup.workshop.roster startup.intake
    exact (settles.tail (.pass _ _ next)).trans ih

/-- A wait changes nothing but the roster and the intake. -/
theorem waitUntil_apart {α : Type} (ask : Startup M S → Option α) (turns deadline : Nat)
    (startup : Startup M S) :
    ∃ roster intake, (startup.waitUntil ask turns deadline).2 =
      { startup with workshop := { startup.workshop with roster }, intake } := by
  fun_induction waitUntil ask turns deadline startup with
  | case1 | case2 => exact ⟨_, _, rfl⟩
  | case3 => exact ⟨_, _, rfl⟩
  | case4 startup unknown early settled still due next ih =>
    obtain ⟨roster, intake, waited⟩ := ih
    exact ⟨roster, intake, waited⟩

end Startup
end PageSession.Assembly
