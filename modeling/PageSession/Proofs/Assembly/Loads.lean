import PageSession.Assembly.Intake
import PageSession.Proofs.Table

/-!
Loads and what is known of them. The tracked progress of a name is that of the task that loads it.
A task that has come to its result keeps it, and what is registered stays registered, whatever the
loaders do and in whatever order the tasks take their turns.
-/
namespace PageSession.Assembly
open Page

variable {M : Type}

namespace Phase

def isEnded : Phase M → Bool
  | .ended _ => true
  | _ => false

def progress : Phase M → Progress
  | .ended result => Intake.progressOf result
  | _ => .pending

theorem progress_eq_pending {phase : Phase M} (working : phase.isEnded = false) :
    phase.progress = .pending := by
  cases phase with
  | ended result => cases working
  | _ => rfl

/-- Only a load that has succeeded is seen as registered. -/
theorem eq_of_progress_eq_registered {phase : Phase M} (seen : phase.progress = .registered) :
    phase = .ended (.ok ()) := by
  cases phase with
  | ended result =>
    cases result with
    | ok => rfl
    | error failure => cases seen
  | _ => cases seen

end Phase

namespace Intake

/-- The task with this index loads the resource of this name, and is in this phase. -/
def Loads (intake : Intake M) (index : Nat) (name : String) (phase : Phase M) : Prop :=
  ∃ resource : Resource, resource.name = name ∧
    intake.tasks[index]? = some { resource := some resource, phase }

/-- The task with this index has not come to its result. -/
def Works (intake : Intake M) (index : Nat) (resource : Option Resource) : Prop :=
  ∃ phase, phase.isEnded = false ∧ intake.tasks[index]? = some { resource, phase }

theorem Loads.unique {intake : Intake M} {index : Nat} {name other : String} {phase later : Phase M}
    (left : intake.Loads index name phase) (right : intake.Loads index other later) :
    name = other ∧ phase = later := by
  obtain ⟨resource, rfl, here⟩ := left
  obtain ⟨same, rfl, there⟩ := right
  rw [here] at there
  cases there
  exact ⟨rfl, rfl⟩

end Intake

/-- What is known of the loads agrees with their tasks. -/
structure Sound (roster : Roster M) (intake : Intake M) : Prop where
  /-- Everybody sees how far a load is. -/
  seen : ∀ {index name phase}, intake.Loads index name phase →
    intake.tracked.find? name = some phase.progress
  /-- A name is loaded once. -/
  once : ∀ {index other name phase later}, intake.Loads index name phase →
    intake.Loads other name later → index = other
  /-- Every tracked name is loaded. -/
  loaded : ∀ {name}, intake.tracked.contains name = true →
    ∃ index phase, intake.Loads index name phase
  /-- A load that has succeeded has its module registered. -/
  present : ∀ {index name}, intake.Loads index name (.ended (.ok ())) → roster.contains name = true
  /-- Startups wait for loads. -/
  claims : ∀ index ∈ intake.unclaimed, ∃ name phase, intake.Loads index name phase

theorem Intake.not_loads_empty {index : Nat} {name : String} {phase : Phase M} :
    ¬ ({} : Intake M).Loads index name phase := by
  rintro ⟨resource, -, here⟩
  cases here

/-- Before anything is injected, the books are sound. -/
theorem sound_empty (roster : Roster M) : Sound roster {} where
  seen here := absurd here Intake.not_loads_empty
  once here := absurd here Intake.not_loads_empty
  loaded known := by cases known
  present ended := absurd ended Intake.not_loads_empty
  claims index claimed := by cases claimed

/-- What stays as it is when tasks work: what is registered, what is loaded, and the results. -/
structure Kept (roster : Roster M) (intake : Intake M) (roster' : Roster M) (intake' : Intake M) :
    Prop where
  modules : ∀ {name}, roster.contains name = true → roster'.contains name = true
  loads : ∀ {index name phase}, intake.Loads index name phase →
    ∃ later, intake'.Loads index name later ∧ (phase.isEnded = true → later = phase)
  loaded : ∀ {index name later}, intake'.Loads index name later →
    ∃ phase, intake.Loads index name phase
  claims : intake'.unclaimed = intake.unclaimed

namespace Kept
variable {roster roster' : Roster M} {intake intake' : Intake M}

theorem refl (roster : Roster M) (intake : Intake M) : Kept roster intake roster intake where
  modules known := known
  loads here := ⟨_, here, fun _ => rfl⟩
  loaded here := ⟨_, here⟩
  claims := rfl

theorem trans {roster'' : Roster M} {intake'' : Intake M}
    (left : Kept roster intake roster' intake')
    (right : Kept roster' intake' roster'' intake'') : Kept roster intake roster'' intake'' where
  modules known := right.modules (left.modules known)
  loads here := by
    obtain ⟨later, there, kept⟩ := left.loads here
    obtain ⟨latest, then_there, kept'⟩ := right.loads there
    refine ⟨latest, then_there, fun ended => ?_⟩
    have same := kept ended
    rw [← same]
    exact kept' (by rw [same]; exact ended)
  loaded here := by
    obtain ⟨phase, there⟩ := right.loaded here
    exact left.loaded there
  claims := right.claims.trans left.claims

/-- The same tasks, with more modules. -/
theorem of_modules (more : ∀ {name}, roster.contains name = true → roster'.contains name = true) :
    Kept roster intake roster' intake where
  modules := more
  loads here := ⟨_, here, fun _ => rfl⟩
  loaded here := ⟨_, here⟩
  claims := rfl

end Kept

theorem Sound.of_modules {roster roster' : Roster M} {intake : Intake M}
    (sound : Sound roster intake)
    (more : ∀ {name}, roster.contains name = true → roster'.contains name = true) :
    Sound roster' intake where
  seen := sound.seen
  once := sound.once
  loaded := sound.loaded
  present ended := more (sound.present ended)
  claims := sound.claims

/-- A registration takes no module away. -/
theorem Roster.contains_of_register {roster after : Roster M} {m : Module M}
    (success : roster.register m = .ok after) {name : String}
    (known : roster.contains name = true) :
    after.contains name = true := by
  unfold Roster.register at success
  split at success
  · cases success
  · cases success
    rw [Roster.contains, Table.contains_eq_isSome] at known ⊢
    rw [Table.find?_insert]
    split
    · rfl
    · exact known

namespace Intake

/-! ## Single changes -/

theorem tasks_setPhase (intake : Intake M) (index other : Nat) (phase : Phase M) :
    (intake.setPhase index phase).tasks[other]? =
      if other = index then intake.tasks[index]?.map fun task => { task with phase }
      else intake.tasks[other]? := by
  unfold setPhase
  cases here : intake.tasks[index]? with
  | none =>
    dsimp only
    split
    · rename_i same
      rw [same, here, Option.map_none]
    · rfl
  | some task =>
    have bound : index < intake.tasks.length := (List.getElem?_eq_some_iff.mp here).1
    show (intake.tasks.set index _)[other]? = _
    rw [List.getElem?_set]
    by_cases same : other = index
    · rw [if_pos same.symm, if_pos same, if_pos bound, Option.map_some]
    · rw [if_neg fun equal => same equal.symm, if_neg same]

theorem tracked_setPhase (intake : Intake M) (index : Nat) (phase : Phase M) :
    (intake.setPhase index phase).tracked = intake.tracked := by
  unfold setPhase
  split <;> rfl

/-- A phase of a task is set, and nothing else. -/
theorem loads_setPhase_iff (intake : Intake M) (index other : Nat) (phase later : Phase M)
    (name : String) :
    (intake.setPhase index phase).Loads other name later ↔
      if other = index then later = phase ∧ ∃ earlier, intake.Loads index name earlier
      else intake.Loads other name later := by
  unfold Loads
  rw [tasks_setPhase]
  by_cases same : other = index
  · rw [if_pos same, if_pos same]
    constructor
    · rintro ⟨resource, named, here⟩
      obtain ⟨⟨owner, earlier⟩, found, updated⟩ := Option.map_eq_some_iff.mp here
      cases updated
      exact ⟨rfl, earlier, resource, named, found⟩
    · rintro ⟨rfl, earlier, resource, named, found⟩
      exact ⟨resource, named, by rw [found, Option.map_some]⟩
  · rw [if_neg same, if_neg same]

theorem works_setPhase {intake : Intake M} {index other : Nat} {phase : Phase M}
    {resource : Option Resource} (working : phase.isEnded = false)
    (works : intake.Works other resource) : (intake.setPhase index phase).Works other resource := by
  obtain ⟨earlier, busy, found⟩ := works
  unfold Works
  rw [tasks_setPhase]
  by_cases same : other = index
  · rw [if_pos same, ← same, found]
    exact ⟨phase, working, rfl⟩
  · rw [if_neg same]
    exact ⟨earlier, busy, found⟩

/-- The load of a task that works is not ended. -/
theorem Works.not_ended {intake : Intake M} {index : Nat} {resource : Option Resource}
    (works : intake.Works index resource) {name : String} {phase : Phase M}
    (loads : intake.Loads index name phase) : phase.isEnded = false := by
  obtain ⟨earlier, busy, found⟩ := works
  obtain ⟨same, -, here⟩ := loads
  rw [found] at here
  cases here
  exact busy

/-- A started task comes after all others. -/
theorem works_start {intake : Intake M} {index : Nat} {resource started : Option Resource}
    {load : Load M} (works : intake.Works index resource) :
    (intake.start started load).Works index resource := by
  obtain ⟨phase, busy, found⟩ := works
  refine ⟨phase, busy, ?_⟩
  have bound : index < intake.tasks.length := (List.getElem?_eq_some_iff.mp found).1
  show (intake.tasks ++ [_])[index]? = _
  rw [List.getElem?_append_left bound, found]

/-- A task without a resource loads nothing. -/
theorem loads_start_none_iff (intake : Intake M) (load : Load M) (index : Nat) (name : String)
    (phase : Phase M) :
    (intake.start none load).Loads index name phase ↔ intake.Loads index name phase := by
  unfold Loads
  show (∃ resource : Resource, _ ∧ (intake.tasks ++ [_])[index]? = _) ↔ _
  by_cases bound : index < intake.tasks.length
  · rw [List.getElem?_append_left bound]
  · have beyond : intake.tasks[index]? = none := List.getElem?_eq_none (by omega)
    rw [List.getElem?_append_right (by omega), beyond, List.getElem?_singleton]
    constructor
    · rintro ⟨resource, -, here⟩
      split at here <;> cases here
    · rintro ⟨resource, -, here⟩
      cases here

end Intake

/-! ## What keeps the books sound -/

/-- Books in which the same loads are in the same phases, and the same is known of them. -/
theorem Sound.of_same {roster : Roster M} {intake after : Intake M} (sound : Sound roster intake)
    (loads : ∀ index name phase, after.Loads index name phase ↔ intake.Loads index name phase)
    (tracked : after.tracked = intake.tracked) (claims : after.unclaimed = intake.unclaimed) :
    Sound roster after ∧ Kept roster intake roster after := by
  refine ⟨⟨?_, ?_, ?_, ?_, ?_⟩, ⟨fun known => known, ?_, ?_, claims⟩⟩
  · intro index name phase here
    rw [tracked]
    exact sound.seen ((loads _ _ _).mp here)
  · intro index other name phase later here there
    exact sound.once ((loads _ _ _).mp here) ((loads _ _ _).mp there)
  · intro name known
    rw [tracked] at known
    obtain ⟨index, phase, here⟩ := sound.loaded known
    exact ⟨index, phase, (loads _ _ _).mpr here⟩
  · intro index name ended
    exact sound.present ((loads _ _ _).mp ended)
  · intro index claimed
    rw [claims] at claimed
    obtain ⟨name, phase, here⟩ := sound.claims index claimed
    exact ⟨name, phase, (loads _ _ _).mpr here⟩
  · intro index name phase here
    exact ⟨phase, (loads _ _ _).mpr here, fun _ => rfl⟩
  · intro index name later here
    exact ⟨later, (loads _ _ _).mp here⟩

namespace Intake
variable {roster : Roster M} {intake : Intake M} {index : Nat} {resource : Option Resource}

/-- A task that works may change its phase, if what is known of its load changes with it. -/
theorem changed_sound (sound : Sound roster intake) (works : intake.Works index resource)
    {phase : Phase M} {tracked : Table Progress}
    (here : ∀ {name earlier}, intake.Loads index name earlier →
      tracked.find? name = some phase.progress)
    (others : ∀ {name}, (∀ earlier, ¬ intake.Loads index name earlier) →
      tracked.find? name = intake.tracked.find? name)
    (present : ∀ {name earlier}, intake.Loads index name earlier → phase = .ended (.ok ()) →
      roster.contains name = true) :
    Sound roster { intake.setPhase index phase with tracked } ∧
      Kept roster intake roster { intake.setPhase index phase with tracked } := by
  have loads : ∀ other name later,
      ({ intake.setPhase index phase with tracked } : Intake M).Loads other name later ↔
        if other = index then later = phase ∧ ∃ earlier, intake.Loads index name earlier
        else intake.Loads other name later :=
    fun other name later => intake.loads_setPhase_iff index other phase later name
  have before : ∀ {other name later},
      ({ intake.setPhase index phase with tracked } : Intake M).Loads other name later →
        ∃ earlier, intake.Loads other name earlier := by
    intro other name later there
    rw [loads] at there
    split at there
    · rename_i same
      rw [same]
      exact there.2
    · exact ⟨later, there⟩
  have onward : ∀ {other name earlier}, intake.Loads other name earlier →
      ∃ later, ({ intake.setPhase index phase with tracked } : Intake M).Loads other name later ∧
        (earlier.isEnded = true → later = earlier) := by
    intro other name earlier there
    by_cases same : other = index
    · rw [same] at there
      refine ⟨phase, ?_, fun ended => ?_⟩
      · rw [loads, if_pos same]
        exact ⟨rfl, earlier, there⟩
      · rw [works.not_ended there] at ended
        cases ended
    · refine ⟨earlier, ?_, fun _ => rfl⟩
      rw [loads, if_neg same]
      exact there
  have claims : (intake.setPhase index phase).unclaimed = intake.unclaimed := by
    unfold setPhase
    split <;> rfl
  refine ⟨⟨?_, ?_, ?_, ?_, ?_⟩, ⟨fun known => known, onward, before, claims⟩⟩
  · intro other name later there
    rw [loads] at there
    split at there
    · obtain ⟨rfl, earlier, itself⟩ := there
      exact here itself
    · rename_i different
      refine (others fun earlier itself => different ?_).trans (sound.seen there)
      exact sound.once there itself
  · intro other another name phase later there elsewhere
    obtain ⟨earlier, there⟩ := before there
    obtain ⟨earlier', elsewhere⟩ := before elsewhere
    exact sound.once there elsewhere
  · intro name known
    obtain ⟨other, earlier, there⟩ : ∃ other earlier, intake.Loads other name earlier := by
      by_cases itself : ∃ earlier, intake.Loads index name earlier
      · exact ⟨index, itself⟩
      · refine sound.loaded ?_
        rw [Table.contains_eq_isSome] at known ⊢
        rwa [← others fun earlier here => itself ⟨earlier, here⟩]
    obtain ⟨later, then_there, -⟩ := onward there
    exact ⟨other, later, then_there⟩
  · intro other name ended
    rw [loads] at ended
    split at ended
    · obtain ⟨same, earlier, itself⟩ := ended
      exact present itself same.symm
    · exact sound.present ended
  · intro other claimed
    change other ∈ (intake.setPhase index phase).unclaimed at claimed
    rw [claims] at claimed
    obtain ⟨name, earlier, there⟩ := sound.claims other claimed
    obtain ⟨later, then_there, -⟩ := onward there
    exact ⟨name, later, then_there⟩

/-- A task goes on to another phase before its result. -/
theorem setPhase_sound (sound : Sound roster intake) (works : intake.Works index resource)
    {phase : Phase M} (working : phase.isEnded = false) :
    Sound roster (intake.setPhase index phase) ∧
      Kept roster intake roster (intake.setPhase index phase) := by
  have changed : Sound roster { intake.setPhase index phase with tracked := intake.tracked } ∧
      Kept roster intake roster { intake.setPhase index phase with tracked := intake.tracked } := by
    refine changed_sound sound works ?_ ?_ ?_
    · intro name earlier here
      rw [sound.seen here, Phase.progress_eq_pending working,
        Phase.progress_eq_pending (works.not_ended here)]
    · intro name _
      rfl
    · rintro name earlier here rfl
      cases working
  rw [← intake.tracked_setPhase index phase] at changed
  exact changed

/-- A task comes to its result. A load succeeds only once its module is registered. -/
theorem conclude_sound (sound : Sound roster intake) (works : intake.Works index resource)
    {result : Except Failure Unit}
    (present : result = .ok () → ∀ r, resource = some r → roster.contains r.name = true) :
    Sound roster (intake.conclude index resource result) ∧
      Kept roster intake roster (intake.conclude index resource result) := by
  cases resource with
  | none =>
    have nothing : ∀ {name earlier}, ¬ intake.Loads index name earlier := by
      rintro name earlier ⟨owner, -, here⟩
      obtain ⟨phase, -, found⟩ := works
      rw [found] at here
      cases here
    have changed : Sound roster
          { intake.setPhase index (.ended result) with tracked := intake.tracked } ∧
        Kept roster intake roster
          { intake.setPhase index (.ended result) with tracked := intake.tracked } := by
      refine changed_sound sound works ?_ ?_ ?_
      · intro name earlier here
        exact absurd here nothing
      · intro name _
        rfl
      · intro name earlier here
        exact absurd here nothing
    rw [← intake.tracked_setPhase index (.ended result)] at changed
    exact changed
  | some owner =>
    have itself : ∃ phase, intake.Loads index owner.name phase := by
      obtain ⟨phase, -, found⟩ := works
      exact ⟨phase, owner, rfl, found⟩
    obtain ⟨phase, itself⟩ := itself
    refine changed_sound sound works ?_ ?_ ?_
    · intro name earlier here
      rw [(here.unique itself).1, Table.find?_insert, if_pos rfl]
      rfl
    · intro name other
      rw [Table.find?_insert, if_neg]
      rintro rfl
      exact other phase itself
    · intro name earlier here ended
      cases ended
      rw [(here.unique itself).1]
      exact present rfl owner rfl

/-- A load that has succeeded waits for its module. -/
theorem await_sound (sound : Sound roster intake) (works : intake.Works index resource) :
    Sound roster (intake.await index resource roster) ∧
      Kept roster intake roster (intake.await index resource roster) := by
  unfold await
  split
  · exact setPhase_sound sound works rfl
  · rename_i missing
    refine conclude_sound sound works fun _ owner owned => ?_
    rw [owned, Option.bind_some, Roster.await] at missing
    split at missing
    · rename_i known
      exact known
    · cases missing

/-- Neither counting moments nor the clock is a matter of loads. -/
theorem ticket_sound (sound : Sound roster intake) :
    Sound roster intake.ticket.2 ∧ Kept roster intake roster intake.ticket.2 :=
  sound.of_same (fun _ _ _ => Iff.rfl) rfl rfl

theorem now_sound (sound : Sound roster intake) (now : Nat) :
    Sound roster { intake with now } ∧ Kept roster intake roster { intake with now } :=
  sound.of_same (fun _ _ _ => Iff.rfl) rfl rfl

/-- A task that nobody waits for is started. -/
theorem start_sound (sound : Sound roster intake) (load : Load M) :
    Sound roster (intake.start none load) ∧ Kept roster intake roster (intake.start none load) :=
  sound.of_same (fun index name phase => intake.loads_start_none_iff load index name phase) rfl rfl

/-- A task works up to its next wait, whatever its loader prescribes. -/
theorem runTask_sound (load : Load M) (sound : Sound roster intake)
    (works : intake.Works index resource) :
    Sound (runTask index resource load roster intake).1
        (runTask index resource load roster intake).2 ∧
      Kept roster intake (runTask index resource load roster intake).1
        (runTask index resource load roster intake).2 := by
  induction load generalizing roster intake with
  | finish result =>
    cases result with
    | ok => exact await_sound sound works
    | error failure => exact conclude_sound sound works fun impossible => by cases impossible
  | die => exact setPhase_sound sound works rfl
  | sleep ms next ih =>
    unfold runTask
    split
    · exact ih sound works
    · obtain ⟨counted, kept⟩ := ticket_sound sound
      have asleep : (Phase.asleep (intake.now + ms) intake.tickets next).isEnded = false := rfl
      obtain ⟨sound', kept'⟩ := setPhase_sound counted works asleep
      exact ⟨sound', kept.trans kept'⟩
  | register m next ih =>
    unfold runTask
    cases registered : roster.register m with
    | ok after =>
      have more : ∀ {name}, roster.contains name = true → after.contains name = true :=
        Roster.contains_of_register registered
      obtain ⟨sound', kept⟩ := ih (.ok ()) (sound.of_modules more) works
      exact ⟨sound', (Kept.of_modules more).trans kept⟩
    | error failure => exact ih (.error failure) sound works
  | look next ih => exact ih roster sound works
  | spawn task next _ ih =>
    obtain ⟨started, kept⟩ := start_sound sound task
    obtain ⟨sound', kept'⟩ := ih started (works_start works)
    exact ⟨sound', kept.trans kept'⟩

/-- One turn of a task. -/
theorem turn_sound (index : Nat) (sound : Sound roster intake) :
    Sound (intake.turn index roster).1 (intake.turn index roster).2 ∧
      Kept roster intake (intake.turn index roster).1 (intake.turn index roster).2 := by
  unfold turn
  cases found : intake.tasks[index]? with
  | none => exact ⟨sound, .refl roster intake⟩
  | some task =>
    obtain ⟨resource, phase⟩ := task
    cases phase with
    | ready ticket load => exact runTask_sound load sound ⟨_, rfl, found⟩
    | awaiting waiter =>
      dsimp only
      split
      · exact await_sound sound ⟨_, rfl, found⟩
      · exact ⟨sound, .refl roster intake⟩
    | asleep | ended | died => exact ⟨sound, .refl roster intake⟩

/-- Whoever is listed as a sleeper sleeps. -/
theorem asleep_of_sleeper {sleeper : Nat × Nat × Nat × Load M}
    (listed : sleeper ∈ intake.sleepers) :
    ∃ resource due ticket load, intake.tasks[sleeper.2.2.1]? =
      some { resource, phase := .asleep due ticket load } := by
  obtain ⟨⟨⟨resource, phase⟩, index⟩, member, asleep⟩ := List.mem_filterMap.mp listed
  have found := List.mk_mem_zipIdx_iff_getElem?.mp member
  cases phase with
  | asleep due ticket load =>
    cases asleep
    exact ⟨resource, due, ticket, load, found⟩
  | _ => cases asleep

/-- Whoever sleeps works. -/
theorem works_of_sleeper {sleeper : Nat × Nat × Nat × Load M}
    (listed : sleeper ∈ intake.sleepers) : ∃ resource, intake.Works sleeper.2.2.1 resource := by
  obtain ⟨resource, due, ticket, load, found⟩ := asleep_of_sleeper listed
  exact ⟨resource, _, rfl, found⟩

def wake (intake : Intake M) (sleeper : Nat × Nat × Nat × Load M) : Intake M :=
  intake.ticket.2.setPhase sleeper.2.2.1 (.ready intake.tickets sleeper.2.2.2)

theorem wake_sound (sleepers : List (Nat × Nat × Nat × Load M)) (sound : Sound roster intake)
    (working : ∀ sleeper ∈ sleepers, ∃ resource, intake.Works sleeper.2.2.1 resource) :
    Sound roster (sleepers.foldl wake intake) ∧
      Kept roster intake roster (sleepers.foldl wake intake) := by
  induction sleepers generalizing intake with
  | nil => exact ⟨sound, .refl roster intake⟩
  | cons sleeper rest ih =>
    obtain ⟨resource, works⟩ := working sleeper (List.mem_cons_self ..)
    obtain ⟨counted, kept⟩ := ticket_sound sound
    have ready : (Phase.ready intake.tickets sleeper.2.2.2).isEnded = false := rfl
    obtain ⟨woken, kept'⟩ := setPhase_sound counted works ready
    obtain ⟨sound', kept''⟩ := ih woken fun other member => by
      obtain ⟨owner, works⟩ := working other (List.mem_cons_of_mem _ member)
      exact ⟨owner, works_setPhase ready works⟩
    exact ⟨sound', (kept.trans kept').trans kept''⟩

/-- Waking those who are due. -/
theorem ring_sound (sound : Sound roster intake) :
    Sound roster intake.ring ∧ Kept roster intake roster intake.ring := by
  refine wake_sound _ sound fun sleeper member => ?_
  rw [List.mem_mergeSort] at member
  exact works_of_sleeper (List.mem_filter.mp member).1

/-- Tasks work until all of them wait. -/
theorem settle_sound (turns : Nat) (sound : Sound roster intake) :
    Sound (settle turns roster intake).1 (settle turns roster intake).2 ∧
      Kept roster intake (settle turns roster intake).1 (settle turns roster intake).2 := by
  induction turns generalizing roster intake with
  | zero => exact ⟨sound, .refl roster intake⟩
  | succ turns ih =>
    have onward : ∀ index, Sound (settle turns (intake.turn index roster).1
          (intake.turn index roster).2).1 (settle turns (intake.turn index roster).1
            (intake.turn index roster).2).2 ∧
        Kept roster intake (settle turns (intake.turn index roster).1
          (intake.turn index roster).2).1 (settle turns (intake.turn index roster).1
            (intake.turn index roster).2).2 := by
      intro index
      obtain ⟨turned, kept⟩ := turn_sound index sound
      obtain ⟨sound', kept'⟩ := ih turned
      exact ⟨sound', kept.trans kept'⟩
    unfold settle
    split
    · exact onward _
    · split
      · obtain ⟨rung, kept⟩ := ring_sound sound
        obtain ⟨sound', kept'⟩ := ih rung
        exact ⟨sound', kept.trans kept'⟩
      · split
        · exact onward _
        · exact ⟨sound, .refl roster intake⟩

end Intake

/-! ## Injection -/

/-- More is loaded, and some startup will wait for it. -/
structure Extended (intake after : Intake M) : Prop where
  loads : ∀ {index name phase}, intake.Loads index name phase → after.Loads index name phase
  claims : ∀ {index}, index ∈ intake.unclaimed → index ∈ after.unclaimed
  fresh : ∀ {index name phase}, after.Loads index name phase →
    intake.Loads index name phase ∨ index ∈ after.unclaimed

theorem Extended.refl (intake : Intake M) : Extended intake intake where
  loads here := here
  claims member := member
  fresh here := .inl here

theorem Extended.trans {first second third : Intake M} (left : Extended first second)
    (right : Extended second third) : Extended first third where
  loads here := right.loads (left.loads here)
  claims member := right.claims (left.claims member)
  fresh here := by
    rcases right.fresh here with earlier | claimed
    · exact (left.fresh earlier).imp_right right.claims
    · exact .inr claimed

namespace Intake
variable {roster : Roster M} {intake : Intake M}

def injectOne (intake : Intake M) (resource : Resource) (load : Load M) : Intake M :=
  Intake.start { intake with
    tracked := intake.tracked.insert resource.name .pending
    unclaimed := intake.unclaimed ++ [intake.tasks.length] } (some resource) load

theorem contains_injectOne (intake : Intake M) (resource : Resource) (load : Load M)
    (name : String) :
    (intake.injectOne resource load).tracked.contains name =
      (name == resource.name || intake.tracked.contains name) := by
  show (intake.tracked.insert resource.name .pending).contains name = _
  rw [Table.contains_eq_isSome, Table.find?_insert, Table.contains_eq_isSome]
  by_cases same : name = resource.name <;> simp [same]

theorem loads_injectOne_iff (intake : Intake M) (resource : Resource) (load : Load M) (index : Nat)
    (name : String) (phase : Phase M) :
    (intake.injectOne resource load).Loads index name phase ↔
      intake.Loads index name phase ∨
        (index = intake.tasks.length ∧ name = resource.name ∧
          phase = .ready intake.tickets load) := by
  unfold Loads
  show (∃ owner : Resource, owner.name = name ∧
    (intake.tasks ++ [{ resource := some resource, phase := .ready intake.tickets load }])[index]? =
      some { resource := some owner, phase }) ↔ _
  by_cases bound : index < intake.tasks.length
  · rw [List.getElem?_append_left bound]
    constructor
    · exact .inl
    · rintro (earlier | ⟨rfl, -⟩)
      · exact earlier
      · omega
  · have beyond : intake.tasks[index]? = none := List.getElem?_eq_none (by omega)
    rw [List.getElem?_append_right (by omega), beyond, List.getElem?_singleton]
    constructor
    · rintro ⟨owner, named, here⟩
      split at here
      · rename_i last
        cases here
        exact .inr ⟨by omega, named.symm, rfl⟩
      · cases here
    · rintro (⟨owner, -, impossible⟩ | ⟨rfl, rfl, rfl⟩)
      · cases impossible
      · exact ⟨resource, rfl, by rw [if_pos (Nat.sub_self _)]⟩

theorem injectOne_sound (sound : Sound roster intake) {resource : Resource} (load : Load M)
    (absent : intake.tracked.contains resource.name = false) :
    Sound roster (intake.injectOne resource load) ∧
      Extended intake (intake.injectOne resource load) := by
  have missing := (Table.contains_eq_false_iff _ _).mp absent
  have loads := intake.loads_injectOne_iff resource load
  have different : ∀ {index name phase}, intake.Loads index name phase → name ≠ resource.name := by
    rintro index name phase here rfl
    rw [sound.seen here] at missing
    cases missing
  have tracked : (intake.injectOne resource load).tracked =
      intake.tracked.insert resource.name .pending := rfl
  have claims : (intake.injectOne resource load).unclaimed =
      intake.unclaimed ++ [intake.tasks.length] := rfl
  refine ⟨⟨?_, ?_, ?_, ?_, ?_⟩, ⟨?_, ?_, ?_⟩⟩
  · intro index name phase here
    rw [tracked, Table.find?_insert]
    rcases (loads _ _ _).mp here with earlier | ⟨-, rfl, rfl⟩
    · rw [if_neg (different earlier)]
      exact sound.seen earlier
    · rw [if_pos rfl]
      rfl
  · intro index other name phase later here there
    rcases (loads _ _ _).mp here with earlier | ⟨rfl, rfl, -⟩ <;>
      rcases (loads _ _ _).mp there with earlier' | ⟨rfl, named, -⟩
    · exact sound.once earlier earlier'
    · exact absurd named (different earlier)
    · exact absurd rfl (different earlier')
    · rfl
  · intro name known
    rw [tracked, Table.contains_eq_isSome, Table.find?_insert] at known
    split at known
    · rename_i same
      exact ⟨_, _, (loads _ _ _).mpr (.inr ⟨rfl, same, rfl⟩)⟩
    · rw [← Table.contains_eq_isSome] at known
      obtain ⟨index, phase, here⟩ := sound.loaded known
      exact ⟨index, phase, (loads _ _ _).mpr (.inl here)⟩
  · intro index name ended
    rcases (loads _ _ _).mp ended with earlier | ⟨-, -, impossible⟩
    · exact sound.present earlier
    · cases impossible
  · intro index claimed
    rw [claims, List.mem_append, List.mem_singleton] at claimed
    rcases claimed with earlier | rfl
    · obtain ⟨name, phase, here⟩ := sound.claims index earlier
      exact ⟨name, phase, (loads _ _ _).mpr (.inl here)⟩
    · exact ⟨_, _, (loads _ _ _).mpr (.inr ⟨rfl, rfl, rfl⟩)⟩
  · intro index name phase here
    exact (loads _ _ _).mpr (.inl here)
  · intro index claimed
    rw [claims]
    exact List.mem_append_left _ claimed
  · intro index name phase here
    rcases (loads _ _ _).mp here with earlier | ⟨rfl, -⟩
    · exact .inl earlier
    · refine .inr ?_
      rw [claims]
      exact List.mem_append_right _ (List.mem_singleton_self _)

/-- Resources are injected, whatever the page admits. -/
theorem inject_sound (loader : Loader M) (page : Context) (resources : List Resource)
    (sound : Sound roster intake) :
    Sound roster (inject loader page resources intake).2 ∧
      Extended intake (inject loader page resources intake).2 := by
  induction resources generalizing intake with
  | nil => exact ⟨sound, .refl intake⟩
  | cons resource rest ih =>
    unfold inject
    split
    · exact ih sound
    · rename_i admitted
      rw [Bool.or_eq_true, not_or] at admitted
      have absent := Bool.eq_false_iff.mpr admitted.2
      obtain ⟨joined, extended⟩ := injectOne_sound sound (loader resource) absent
      obtain ⟨sound', extended'⟩ := ih joined
      exact ⟨sound', extended.trans extended'⟩

/-- What an injection loads is new and has not begun. -/
theorem loads_inject {loader : Loader M} {page : Context} {resources : List Resource}
    {index : Nat} {name : String} {phase : Phase M}
    (loads : (inject loader page resources intake).2.Loads index name phase) :
    intake.Loads index name phase ∨
      (intake.tracked.contains name = false ∧ ∃ ticket load, phase = .ready ticket load) := by
  induction resources generalizing intake with
  | nil => exact .inl loads
  | cons resource rest ih =>
    unfold inject at loads
    split at loads
    · exact ih loads
    · rename_i admitted
      obtain ⟨-, absent⟩ : resource.admitted page = true ∧
          intake.tracked.contains resource.name = false := by simpa using admitted
      change (inject loader page rest (intake.injectOne resource (loader resource))).2.Loads
        index name phase at loads
      rcases ih loads with joined | ⟨untracked, ready⟩
      · rcases (loads_injectOne_iff ..).mp joined with earlier | ⟨-, rfl, rfl⟩
        · exact .inl earlier
        · exact .inr ⟨absent, _, _, rfl⟩
      · rw [contains_injectOne, Bool.or_eq_false_iff] at untracked
        exact .inr ⟨untracked.2, ready⟩

end Intake
end PageSession.Assembly
