import PageSession.Assembly.Startup
import PageSession.Proofs.Assembly.Loads

/-!
Waiting for loads, and what composition leaves alone. A startup that has waited with success has
seen every load that it has claimed succeed. Composing paths takes no module away.
-/
namespace PageSession.Assembly
open Page

/-! ## Outcomes -/

/-- Loads are done when all of them have succeeded. -/
theorem firstFailure_eq_ok {outcomes : List (Option (Except Failure Unit))}
    (done : firstFailure outcomes = some (.ok ())) :
    ∀ outcome ∈ outcomes, outcome = some (.ok ()) := by
  induction outcomes with
  | nil =>
    intro outcome member
    cases member
  | cons first rest ih =>
    unfold firstFailure at done
    cases first with
    | none =>
      dsimp only at done
      split at done <;> cases done
    | some result =>
      cases result with
      | error failure => cases done
      | ok =>
        intro outcome member
        rcases List.mem_cons.mp member with rfl | later
        · rfl
        · exact ih done outcome later

theorem inTurn_eq_ok {outcomes : List (Option (Except Failure Unit))}
    (done : inTurn outcomes = some (.ok ())) :
    ∀ outcome ∈ outcomes, outcome = some (.ok ()) := by
  induction outcomes with
  | nil =>
    intro outcome member
    cases member
  | cons first rest ih =>
    unfold inTurn at done
    cases first with
    | none => cases done
    | some result =>
      cases result with
      | error failure => cases done
      | ok =>
        intro outcome member
        rcases List.mem_cons.mp member with rfl | later
        · rfl
        · exact ih done outcome later

theorem gather_eq_ok {outcomes : List (Option (Except Failure Unit))}
    (done : gather outcomes = some (.ok ())) :
    ∀ outcome ∈ outcomes, outcome = some (.ok ()) := by
  unfold gather at done
  split at done
  · exact firstFailure_eq_ok done
  · exact inTurn_eq_ok done

/-- Success is the outcome of a load that has ended with it. -/
theorem Intake.ended_of_outcome? {M : Type} {intake : Intake M} {index : Nat} {name : String}
    {phase : Phase M} (loads : intake.Loads index name phase)
    (success : intake.outcome? index = some (.ok ())) : phase = .ended (.ok ()) := by
  obtain ⟨resource, -, found⟩ := loads
  unfold outcome? at success
  rw [found] at success
  cases phase with
  | ended result =>
    cases success
    rfl
  | died => cases success
  | _ => cases success

namespace Startup
variable {M S : Type}

def IsSound (startup : Startup M S) : Prop := Sound startup.workshop.roster startup.intake

def Keeps (startup after : Startup M S) : Prop :=
  Kept startup.workshop.roster startup.intake after.workshop.roster after.intake

theorem settle_sound (turns : Nat) {startup : Startup M S} (sound : startup.IsSound) :
    (startup.settle turns).IsSound ∧ startup.Keeps (startup.settle turns) :=
  Intake.settle_sound turns sound

/-- Whoever waits for an answer gets it when the wait ends with one. -/
theorem waitUntil_sound {α : Type} (ask : Startup M S → Option α) (turns deadline : Nat)
    {startup : Startup M S} (sound : startup.IsSound) :
    (startup.waitUntil ask turns deadline).2.IsSound ∧
      startup.Keeps (startup.waitUntil ask turns deadline).2 ∧
      ∀ answer, (startup.waitUntil ask turns deadline).1 = some answer →
        ask (startup.waitUntil ask turns deadline).2 = some answer := by
  fun_induction waitUntil ask turns deadline startup with
  | case1 startup answer known =>
    refine ⟨sound, .refl _ _, fun other same => ?_⟩
    cases same
    exact known
  | case2 startup unknown late =>
    refine ⟨sound, .refl _ _, fun other impossible => ?_⟩
    cases impossible
  | case3 startup unknown early settled answer known =>
    obtain ⟨sound', kept⟩ := settle_sound turns sound
    refine ⟨sound', kept, fun other same => ?_⟩
    cases same
    exact known
  | case4 startup unknown early settled still due next ih =>
    obtain ⟨settled_sound, kept⟩ := settle_sound turns sound
    obtain ⟨later_sound, kept'⟩ := Intake.now_sound settled_sound next
    obtain ⟨sound', kept'', answered⟩ := ih later_sound
    exact ⟨sound', (kept.trans kept').trans kept'', answered⟩

/-- The loads that the next startup waits for are left to it. -/
def claim (startup : Startup M S) : Startup M S :=
  { startup with intake := { startup.intake with unclaimed := [] } }

theorem claim_sound {startup : Startup M S} (sound : startup.IsSound) : startup.claim.IsSound where
  seen := sound.seen
  once := sound.once
  loaded := sound.loaded
  present := sound.present
  claims _ nothing := (by cases nothing)

/-- A startup claims what is left to it, and waits. When it has waited with success, all that it has
claimed has succeeded. -/
theorem waitForLoads_sound (turns : Nat) {startup : Startup M S} (sound : startup.IsSound) :
    (startup.waitForLoads turns).2.IsSound ∧
      startup.claim.Keeps (startup.waitForLoads turns).2 ∧
      ((startup.waitForLoads turns).1 = .ok () → ∀ index ∈ startup.intake.unclaimed,
        ∀ name phase, (startup.waitForLoads turns).2.intake.Loads index name phase →
          phase = .ended (.ok ())) := by
  have waited := waitUntil_sound
    (fun startup' : Startup M S => gather (startup.intake.unclaimed.map startup'.intake.outcome?))
    turns (startup.intake.now + startup.settings.timeoutMs) (claim_sound sound)
  obtain ⟨sound', kept, answered⟩ := waited
  unfold waitForLoads
  dsimp only
  split
  · rename_i result after ended
    change startup.claim.waitUntil _ _ _ = _ at ended
    rw [ended] at sound' kept answered
    refine ⟨sound', kept, ?_⟩
    rintro rfl index claimed name phase loads
    have done := gather_eq_ok (answered _ rfl)
    exact Intake.ended_of_outcome? loads (done _ (List.mem_map_of_mem claimed))
  · rename_i after ended
    change startup.claim.waitUntil _ _ _ = _ at ended
    rw [ended] at sound' kept
    refine ⟨sound', kept, ?_⟩
    intro impossible
    cases impossible

end Startup

/-! ## Composition -/

/-- Attaching a node is no matter of modules. -/
theorem Workshop.attach_roster {M S : Type} {workshop after : Workshop M S} {path : NodePath}
    {object : Option (Object M)} (success : workshop.attach path object = .ok after) :
    after.roster = workshop.roster := by
  unfold attach at success
  cases attached : workshop.tree.attach path object with
  | error failure =>
    rw [attached] at success
    cases success
  | ok tree =>
    rw [attached] at success
    cases success
    rfl

namespace Composing
variable {M S : Type}

theorem build_roster (behave : Behaviour M S) (path : NodePath) (m : Module M)
    (workshop : Workshop M S) (stack : List (Waiting M S)) :
    (build behave path m workshop stack).workshop.roster = workshop.roster := by
  unfold build
  dsimp only
  split
  · rfl
  · rename_i attached
    have same := Workshop.attach_roster attached
    split <;> exact same

theorem compose_roster (behave : Behaviour M S) (path : NodePath) (workshop : Workshop M S)
    (stack : List (Waiting M S)) :
    (compose behave path workshop stack).workshop.roster = workshop.roster := by
  unfold compose
  split
  · rfl
  · split
    · rfl
    · split
      · rfl
      · split
        · exact build_roster behave path _ workshop stack
        · split
          · rename_i attached
            exact Workshop.attach_roster attached
          · rfl

/-- Only an initializer that registers a module changes the roster, and it takes none away. -/
theorem contains_of_step (behave : Behaviour M S) (c : Composing M S) {name : String}
    (known : c.workshop.roster.contains name = true) :
    (c.step behave).workshop.roster.contains name = true := by
  obtain ⟨control, stack, workshop⟩ := c
  cases control with
  | compose path =>
    show (compose behave path workshop stack).workshop.roster.contains name = true
    rw [compose_roster]
    exact known
  | answer result => cases stack <;> exact known
  | run path object program =>
    cases program with
    | register m next =>
      show (workshop.register m).2.roster.contains name = true
      unfold Workshop.register
      split
      · rename_i registered
        exact Roster.contains_of_register registered known
      · exact known
    | finish | fail | compose | look | use => exact known

theorem contains_of_run (behave : Behaviour M S) (budget : Nat) {c : Composing M S} {name : String}
    (known : c.workshop.roster.contains name = true) :
    (run behave budget c).workshop.roster.contains name = true := by
  induction budget generalizing c with
  | zero => exact known
  | succ budget ih =>
    unfold run
    split
    · exact known
    · exact ih (contains_of_step behave c known)

end Composing

namespace Workshop
variable {M S : Type}

theorem contains_of_compose (behave : Behaviour M S) (budget : Nat) {workshop : Workshop M S}
    (path : NodePath) {name : String} (known : workshop.roster.contains name = true) :
    (workshop.compose behave budget path).2.roster.contains name = true :=
  Composing.contains_of_run behave budget known

/-- Whatever is composed, no module is taken away. -/
theorem contains_of_composeAll (behave : Behaviour M S) (budget : Nat) (paths : List NodePath)
    {workshop : Workshop M S} {name : String} (known : workshop.roster.contains name = true) :
    (composeAll behave budget paths workshop).2.roster.contains name = true := by
  induction paths generalizing workshop with
  | nil => exact known
  | cons path rest ih =>
    have composed := contains_of_compose behave budget path known
    unfold composeAll
    split
    · rename_i outcome after result
      rw [result] at composed
      exact ih composed
    · rename_i failure after result
      rwa [result] at composed
    · rename_i after result
      rwa [result] at composed

end Workshop
end PageSession.Assembly
