import PageSession.Proofs.Assembly.Bootstraps
import PageSession.Proofs.Assembly.Deliverables
import PageSession.Proofs.Assembly.Moves

/-!
What the books of a page record, whatever has been done to it. The tracked names are those of the
resources that were injected, in the order in which they were first. A load that waits for its
module has not found it at its last look, and one that has failed tells why in a failure about
resources or modules.
-/
namespace PageSession.Page

def Failure.isOfLoad : Failure → Bool
  | .resource _ _ | .alreadyRegistered _ | .notFound _ => true
  | _ => false

end PageSession.Page

namespace PageSession.Assembly
open Page

variable {M S : Type}

/-! ## Phases -/

theorem Intake.isOfLoad_reported (resource : Resource) (failure : Failure) :
    (reported (some resource) failure).isOfLoad = true := by
  cases failure <;> rfl

/-- The phase of a load says what it has seen of the roster, and why it has failed. -/
def Phase.Matches (roster : Roster M) (name : String) : Phase M → Prop
  | .awaiting waiter => waiter.seen ≤ roster.generation ∧
      (waiter.isWoken roster = false → roster.contains name = false)
  | .ended (.error failure) => failure.isOfLoad = true
  | _ => True

/-- Every registration is something new for all who wait. -/
theorem Phase.Matches.register {roster after : Roster M} {m : Module M} {name : String}
    {phase : Phase M} (matching : phase.Matches roster name)
    (success : roster.register m = .ok after) : phase.Matches after name := by
  cases phase with
  | awaiting waiter =>
    unfold Roster.register at success
    split at success
    · cases success
    · cases success
      have earlier := matching.1
      refine ⟨Nat.le_succ_of_le earlier, fun quiet => ?_⟩
      -- nobody has seen the new generation
      have same : waiter.seen = roster.generation + 1 := by
        simpa only [Waiter.isWoken, ne_eq, decide_not, Bool.not_eq_false', decide_eq_true_eq]
          using quiet
      omega
  | ended result =>
    cases result with
    | ok => trivial
    | error failure => exact matching
  | ready | asleep | died => trivial

namespace Intake

def AllMatch (roster : Roster M) (intake : Intake M) : Prop :=
  ∀ index name phase, intake.Loads index name phase → phase.Matches roster name

section
variable {roster : Roster M} {intake : Intake M} {index : Nat} {resource : Option Resource}

theorem AllMatch.setPhase (matching : AllMatch roster intake) {phase : Phase M}
    (fits : ∀ name earlier, intake.Loads index name earlier → phase.Matches roster name) :
    AllMatch roster (intake.setPhase index phase) := by
  intro other name later here
  rw [loads_setPhase_iff] at here
  split at here
  · obtain ⟨rfl, earlier, found⟩ := here
    exact fits name earlier found
  · exact matching other name later here

theorem AllMatch.of_tasks {after : Intake M} (matching : AllMatch roster intake)
    (tasks : after.tasks = intake.tasks) : AllMatch roster after := by
  rintro index name phase ⟨resource, named, here⟩
  rw [tasks] at here
  exact matching index name phase ⟨resource, named, here⟩

/-- Whoever is at work and loads this name does so for its own resource. -/
theorem IsAtWork.owner (working : intake.IsAtWork index resource) {name : String}
    {phase : Phase M} (loads : intake.Loads index name phase) :
    ∃ owner, resource = some owner ∧ owner.name = name := by
  obtain ⟨earlier, -, found⟩ := working
  obtain ⟨owner, named, here⟩ := loads
  rw [found] at here
  cases here
  exact ⟨owner, rfl, named⟩

end

/-- What a load sees, every move keeps in accord with the roster. -/
theorem Move.matches {before after : Roster M × Intake M} (move : Move before after)
    (matching : AllMatch before.1 before.2) : AllMatch after.1 after.2 := by
  cases move with
  | tick | pass => exact matching.of_tasks rfl
  | start roster intake load =>
    intro index name phase here
    exact matching index name phase ((loads_start_none_iff intake load index name phase).mp here)
  | register success =>
    intro index name phase here
    exact (matching index name phase here).register success
  | @change roster intake index resource working phase loading =>
    refine matching.setPhase fun name earlier _ => ?_
    cases phase with
    | awaiting | ended => cases loading
    | ready | asleep | died => trivial
  | @await roster intake index resource working =>
    obtain ⟨phase, tasks, finished⟩ := tasks_await intake index resource roster
    refine (matching.setPhase fun name earlier loads => ?_).of_tasks tasks
    rcases finished with rfl | ⟨owner, rfl, absent, rfl⟩
    · trivial
    · obtain ⟨same, equal, rfl⟩ := working.owner loads
      cases equal
      exact ⟨Nat.le_refl _, fun _ => absent⟩
  | @fail roster intake index resource working failure =>
    refine (matching.setPhase fun name earlier loads => ?_).of_tasks (tasks_conclude ..)
    obtain ⟨owner, rfl, -⟩ := working.owner loads
    exact isOfLoad_reported owner failure

theorem Moves.matches {before after : Roster M × Intake M} (moves : Moves before after)
    (matching : AllMatch before.1 before.2) : AllMatch after.1 after.2 := by
  induction moves with
  | refl => exact matching
  | tail _ move ih => exact move.matches ih

/-- A load fails with a failure about resources or modules. -/
theorem AllMatch.isOfLoad {roster : Roster M} {intake : Intake M}
    (matching : AllMatch roster intake) {index : Nat} {name : String} {phase : Phase M}
    (loads : intake.Loads index name phase) {failure : Failure}
    (failed : intake.outcome? index = some (.error failure)) : failure.isOfLoad = true := by
  have fits := matching index name phase loads
  obtain ⟨resource, named, here⟩ := loads
  unfold outcome? at failed
  rw [here] at failed
  cases phase with
  | ended result =>
    cases failed
    exact fits
  | died =>
    cases failed
    rfl
  | ready | asleep | awaiting => simp at failed

/-! ## Tracked names -/

theorem keys_conclude {roster : Roster M} {intake : Intake M} (sound : Sound roster intake)
    {index : Nat} {resource : Option Resource} (works : intake.Works index resource)
    (result : Except Failure Unit) :
    (intake.conclude index resource result).tracked.keys = intake.tracked.keys := by
  cases resource with
  | none => exact congrArg Table.keys (tracked_setPhase ..)
  | some resource =>
    obtain ⟨phase, -, found⟩ := works
    have seen := sound.seen ⟨resource, rfl, found⟩
    have listed : resource.name ∈ intake.tracked.keys := by
      rw [← Table.contains_iff_mem_keys]
      exact Table.contains_of_find? seen
    exact (Table.keys_put _ _ _).trans (if_pos listed)

/-- No move tracks another name. -/
theorem Move.keys {before after : Roster M × Intake M} (move : Move before after)
    (sound : Sound before.1 before.2) : after.2.tracked.keys = before.2.tracked.keys := by
  cases move with
  | tick | pass | start | register => rfl
  | change => exact congrArg Table.keys (tracked_setPhase ..)
  | await roster working =>
    show (Intake.await ..).tracked.keys = _
    unfold Intake.await
    split
    · exact congrArg Table.keys (tracked_setPhase ..)
    · exact keys_conclude sound working.works _
  | fail roster working => exact keys_conclude sound working.works _

theorem Moves.keys {before after : Roster M × Intake M} (moves : Moves before after)
    (sound : Sound before.1 before.2) : after.2.tracked.keys = before.2.tracked.keys := by
  induction moves with
  | refl => rfl
  | tail earlier move ih => exact (move.keys (Moves.sound earlier sound).1).trans ih

end Intake

/-- A list without duplicates has none to erase. -/
theorem eraseDups_eq_self {names : List String} (distinct : names.Nodup) :
    names.eraseDups = names := by
  induction names with
  | nil => rfl
  | cons name rest ih =>
    obtain ⟨absent, distinct⟩ := List.nodup_cons.mp distinct
    have others : rest.filter (fun other => !other == name) = rest := by
      refine List.filter_eq_self.mpr fun other member => ?_
      have different : other ≠ name := fun same => absent (same ▸ member)
      simpa using different
    rw [List.eraseDups_cons, others, ih distinct]

/-- Duplicates in front may be erased before. -/
theorem eraseDups_append_eraseDups {names : List String} (distinct : names.eraseDups.Nodup)
    (more : List String) : (names.eraseDups ++ more).eraseDups = (names ++ more).eraseDups := by
  have same : more.removeAll names.eraseDups = more.removeAll names := by
    apply List.filter_congr
    intro name _
    simp only [List.elem_eq_mem, List.mem_eraseDups]
  rw [List.eraseDups_append, List.eraseDups_append, eraseDups_eq_self distinct, same]

namespace Intake

/-- The names that a page admits, in the order in which they are listed. -/
def admittedNames (page : Context) (resources : List Resource) : List String :=
  (resources.filter fun resource => resource.admitted page).map fun resource => resource.name

theorem admittedNames_cons (page : Context) (resource : Resource) (rest : List Resource) :
    admittedNames page (resource :: rest) =
      if resource.admitted page then resource.name :: admittedNames page rest
      else admittedNames page rest := by
  unfold admittedNames
  rw [List.filter_cons]
  split <;> rfl

/-- Injection tracks the names that the page admits and that are not tracked yet. -/
theorem keys_inject (loader : Loader M) (page : Context) (resources : List Resource)
    (intake : Intake M) :
    (inject loader page resources intake).2.tracked.keys =
      (intake.tracked.keys ++ admittedNames page resources).eraseDups := by
  induction resources generalizing intake with
  | nil => exact ((congrArg _ (List.append_nil _)).trans
      (eraseDups_eq_self intake.tracked.distinct)).symm
  | cons resource rest ih =>
    unfold inject
    rw [admittedNames_cons]
    by_cases admitted : resource.admitted page = true
    · rw [if_pos admitted]
      by_cases tracked : intake.tracked.contains resource.name = true
      · have listed := (Table.contains_iff_mem_keys _ _).mp tracked
        have skipped : (resource.name :: admittedNames page rest).removeAll intake.tracked.keys =
            (admittedNames page rest).removeAll intake.tracked.keys :=
          List.filter_cons_of_neg (by simpa using listed)
        rw [if_pos (by rw [tracked, Bool.or_true]), ih, List.eraseDups_append,
          List.eraseDups_append, skipped]
      · have last : (intake.injectOne resource (loader resource)).tracked.keys =
            intake.tracked.keys ++ [resource.name] := by
          refine (Table.keys_put _ _ _).trans (if_neg ?_)
          rwa [← Table.keys, ← Table.contains_iff_mem_keys]
        rw [if_neg (by rw [admitted]; simpa using tracked)]
        refine (ih (intake.injectOne resource (loader resource))).trans ?_
        rw [last, List.append_assoc, List.singleton_append]
    · rw [if_neg admitted, if_pos (by simp [admitted]), ih]

theorem matches_inject {roster : Roster M} {intake : Intake M} (loader : Loader M)
    (page : Context) (resources : List Resource) (matching : AllMatch roster intake) :
    AllMatch roster (inject loader page resources intake).2 := by
  intro index name phase loads
  rcases loads_inject loads with earlier | ⟨-, ticket, load, rfl⟩
  · exact matching index name phase earlier
  · trivial

end Intake

/-! ## Composition -/

theorem Workshop.register_moves (workshop : Workshop M S) (m : Module M) (intake : Intake M) :
    Intake.Moves (workshop.roster, intake) ((workshop.register m).2.roster, intake) := by
  unfold register
  split
  · rename_i registered
    exact .single (.register registered intake)
  · exact .refl

namespace Composing

/-- Only an initializer that registers a module changes the roster. -/
theorem step_moves (behave : Behaviour M S) (c : Composing M S) (intake : Intake M) :
    Intake.Moves (c.workshop.roster, intake) ((c.step behave).workshop.roster, intake) := by
  obtain ⟨control, stack, workshop⟩ := c
  cases control with
  | compose path =>
    show Intake.Moves _ ((compose behave path workshop stack).workshop.roster, intake)
    rw [compose_roster]
  | answer result => cases stack <;> exact .refl
  | run path object program =>
    cases program with
    | register m next => exact workshop.register_moves m intake
    | finish | fail | compose | look | use => exact .refl

theorem run_moves (behave : Behaviour M S) (budget : Nat) (c : Composing M S)
    (intake : Intake M) :
    Intake.Moves (c.workshop.roster, intake) ((run behave budget c).workshop.roster, intake) := by
  induction budget generalizing c with
  | zero => exact .refl
  | succ budget ih =>
    unfold run
    split
    · exact .refl
    · exact (step_moves behave c intake).trans (ih _)

end Composing

theorem Workshop.compose_moves (behave : Behaviour M S) (budget : Nat) (workshop : Workshop M S)
    (path : NodePath) (intake : Intake M) :
    Intake.Moves (workshop.roster, intake)
      ((workshop.compose behave budget path).2.roster, intake) :=
  Composing.run_moves behave budget { control := .compose path, workshop } intake

theorem Workshop.composeAll_moves (behave : Behaviour M S) (budget : Nat) (paths : List NodePath)
    (workshop : Workshop M S) (intake : Intake M) :
    Intake.Moves (workshop.roster, intake)
      ((composeAll behave budget paths workshop).2.roster, intake) := by
  induction paths generalizing workshop with
  | nil => exact .refl
  | cons path rest ih =>
    have composed := workshop.compose_moves behave budget path intake
    unfold composeAll
    split
    · rename_i result
      rw [result] at composed
      exact composed.trans (ih _)
    · rename_i result
      rwa [result] at composed
    · rename_i result
      rwa [result] at composed

/-! ## Startups -/

namespace Startup

def deadline (startup : Startup M S) : Nat := startup.intake.now + startup.settings.timeoutMs

/-- What a startup is told of the loads that it waits for, if anything, and the page after it. -/
def listen (turns : Nat) (startup : Startup M S) : Option (Except Failure Unit) × Startup M S :=
  startup.claim.waitUntil startup.verdict? turns startup.deadline

/-- A startup reports what it has been told, or else that its time was up. -/
theorem waitForLoads_eq_listen (turns : Nat) (startup : Startup M S) :
    startup.waitForLoads turns =
      ((startup.listen turns).1.getD (.error (.timedOut
          (startup.listen turns).2.intake.outstanding startup.settings.timeoutMs)),
        (startup.listen turns).2) := by
  obtain ⟨roster, intake, apart⟩ := waitUntil_apart startup.verdict? turns startup.deadline
    startup.claim
  have settings : (startup.listen turns).2.settings = startup.settings := by
    rw [show (startup.listen turns).2 = _ from apart]
    rfl
  unfold waitForLoads
  dsimp only
  split
  · rename_i ended
    change startup.listen turns = _ at ended
    rw [ended]
    rfl
  · rename_i ended
    change startup.listen turns = _ at ended
    rw [ended] at settings ⊢
    dsimp only at settings
    rw [settings]
    rfl

/-- Besides the roster and the intake the wait leaves all as it was. -/
theorem waitForLoads_apart (turns : Nat) (startup : Startup M S) :
    ∃ roster intake, (startup.waitForLoads turns).2 =
      { startup with workshop := { startup.workshop with roster }, intake } := by
  rw [waitForLoads_eq_listen]
  exact waitUntil_apart startup.verdict? turns startup.deadline startup.claim

/-- When the wait has failed, nothing is composed. -/
theorem bootstrap_of_failed (behave : Behaviour M S) {turns : Nat} (budget : Nat)
    {startup : Startup M S} (paths : List NodePath) {failure : Failure}
    (failed : (startup.waitForLoads turns).1 = .error failure) :
    startup.bootstrap behave turns budget paths =
      (some (.error failure), (startup.waitForLoads turns).2) := by
  unfold bootstrap
  split
  · rename_i ended
    rw [ended] at failed ⊢
    cases failed
    rfl
  · rename_i ended
    rw [ended] at failed
    cases failed

/-- When the wait has succeeded, composition decides. -/
theorem bootstrap_of_waited (behave : Behaviour M S) {turns : Nat} (budget : Nat)
    {startup : Startup M S} (paths : List NodePath)
    (done : (startup.waitForLoads turns).1 = .ok ()) :
    (startup.bootstrap behave turns budget paths).1 =
      ((startup.waitForLoads turns).2.workshop.composeAll behave budget paths).1 := by
  unfold bootstrap
  split
  · rename_i ended
    rw [ended] at done
    cases done
  · rename_i ended
    rw [ended]

def missing? : Option (Except Failure Unit) → Option (List String)
  | some (.error (.timedOut missing _)) => some missing
  | _ => none

theorem timedOut_of_missing? {result : Option (Except Failure Unit)} {missing : List String}
    (told : missing? result = some missing) :
    ∃ waited, result = some (.error (.timedOut missing waited)) := by
  unfold missing? at told
  split at told
  · cases told
    exact ⟨_, rfl⟩
  · cases told

theorem bootstrap_moves (behave : Behaviour M S) (turns budget : Nat) (startup : Startup M S)
    (paths : List NodePath) :
    Intake.Moves startup.claim.books (startup.bootstrap behave turns budget paths).2.books := by
  have waits : Intake.Moves startup.claim.books (startup.waitForLoads turns).2.books := by
    rw [waitForLoads_eq_listen]
    exact waitUntil_moves startup.verdict? turns startup.deadline startup.claim
  unfold bootstrap
  split
  · rename_i ended
    rwa [ended] at waits
  · rename_i waited ended
    rw [ended] at waits
    exact waits.trans (Workshop.composeAll_moves behave budget paths _ _)

/-- Whatever is done besides injections and startups is made of moves. -/
theorem after_moves (behave : Behaviour M S) (loader : Loader M) (startup : Startup M S)
    {step : StartupStep M} (aside : step.isAside = true) :
    Intake.Moves startup.books (startup.after behave loader step).books := by
  cases step with
  | inject | bootstrap => cases aside
  | register m => exact startup.workshop.register_moves m startup.intake
  | compose budget path => exact startup.workshop.compose_moves behave budget path startup.intake
  | wait turns name ms => exact waitUntil_moves _ turns _ startup
  | turn index => exact Intake.turn_moves index startup.workshop.roster startup.intake
  | settle turns => exact Intake.settle_moves turns startup.workshop.roster startup.intake
  | advance ms => exact .single (.pass _ _ _)

end Startup

/-- The names of the resources that were injected and admitted, in order. -/
def StartupPast.injected : StartupPast M S → List String
  | [] => []
  | (_, .inject page resources) :: earlier =>
    injected earlier ++ Intake.admittedNames page resources
  | _ :: earlier => injected earlier

section
variable {behave : Behaviour M S} {loader : Loader M} {settings : Settings}
  {workshop : Workshop M S} {past : StartupPast M S} {startup : Startup M S}

theorem StartupRun.matches
    (run : StartupRun behave loader (.opening settings workshop) past startup) :
    Intake.AllMatch startup.workshop.roster startup.intake := by
  induction run with
  | start =>
    exact fun index name phase loads => absurd loads Intake.not_loads_empty
  | @next past startup before step ih =>
    rcases step.kinds with aside | ⟨page, resources, rfl⟩ | ⟨turns, budget, paths, rfl⟩
    · exact (Startup.after_moves behave loader startup aside).matches ih
    · exact Intake.matches_inject loader page resources ih
    · exact (Startup.bootstrap_moves behave turns budget startup paths).matches
        (ih.of_tasks rfl)

/-- What is tracked are the names that were injected, each at the place where it was first. -/
theorem StartupRun.keys
    (run : StartupRun behave loader (.opening settings workshop) past startup) :
    startup.intake.tracked.keys = (StartupPast.injected past).eraseDups := by
  induction run with
  | start => rfl
  | @next past startup before step ih =>
    have sound := StartupRun.sound before
    rcases step.kinds with aside | ⟨page, resources, rfl⟩ | ⟨turns, budget, paths, rfl⟩
    · have same : StartupPast.injected ((startup, step) :: past) = StartupPast.injected past := by
        cases step with
        | inject | bootstrap => cases aside
        | _ => rfl
      rw [same, ← ih]
      exact (Startup.after_moves behave loader startup aside).keys sound
    · show (Intake.inject loader page resources startup.intake).2.tracked.keys = _
      have distinct : (StartupPast.injected past).eraseDups.Nodup := by
        rw [← ih]
        exact startup.intake.tracked.nodup_keys
      show _ = (StartupPast.injected past ++ Intake.admittedNames page resources).eraseDups
      rw [Intake.keys_inject, ih, eraseDups_append_eraseDups distinct]
    · exact ((Startup.bootstrap_moves behave turns budget startup paths).keys
        (Startup.claim_sound sound)).trans ih

end
end PageSession.Assembly
