import PageSession.Proofs.Assembly.Missing

/-!
Loads from their injection to their end. Resources are injected, modules are registered, tasks take
their turns and time passes, in any order. A turn lasts from one wait of a loader to the next; a
loader in which others may break in anywhere is one that sleeps between any two of its steps. Beside
the books it is written down what the loaders have returned; this tells what is sent for each
resource, and with it what everybody sees of its load.
-/
namespace PageSession.Page

/-- The failure of a load of this name when its loader has raised that one: a failure about
resources or modules as it is, any other as the reason why the resource failed. -/
def Failure.ofLoad (name : String) (raised : Failure) : Failure :=
  if raised.isOfLoad then raised else .resource name raised.message

end PageSession.Page

namespace PageSession.Assembly
open Page

variable {M : Type}

/-! ## Injection -/

namespace Intake

/-- The names that a page admits and that are not tracked, each where it is listed first. -/
def freshNames (page : Context) (resources : List Resource) (intake : Intake M) : List String :=
  ((admittedNames page resources).filter fun name => !intake.tracked.contains name).eraseDups

theorem freshNames_of_tracked {page : Context} {resource : Resource} {intake : Intake M}
    (skipped : ¬ resource.admitted page = true ∨ intake.tracked.contains resource.name = true)
    (rest : List Resource) :
    intake.freshNames page (resource :: rest) = intake.freshNames page rest := by
  unfold freshNames
  rw [admittedNames_cons]
  rcases skipped with refused | tracked
  · rw [if_neg refused]
  · split
    · rw [List.filter_cons_of_neg (by simp [tracked])]
    · rfl

theorem freshNames_of_untracked {page : Context} {resource : Resource} {intake : Intake M}
    (admitted : resource.admitted page = true)
    (absent : intake.tracked.contains resource.name = false) (load : Load M)
    (rest : List Resource) :
    intake.freshNames page (resource :: rest) =
      resource.name :: (intake.injectOne resource load).freshNames page rest := by
  unfold freshNames
  rw [admittedNames_cons, if_pos admitted, List.filter_cons_of_pos (by simp [absent]),
    List.eraseDups_cons, List.filter_filter]
  simp [contains_injectOne]

/-- An injection counts the names that are new and adds them, pending, behind all others. -/
theorem inject_eq (loader : Loader M) (page : Context) (resources : List Resource)
    (intake : Intake M) :
    (inject loader page resources intake).1 = (intake.freshNames page resources).length ∧
      (inject loader page resources intake).2.tracked.entries = intake.tracked.entries ++
        (intake.freshNames page resources).map fun name => (name, Progress.pending) := by
  induction resources generalizing intake with
  | nil => simp [inject, freshNames, admittedNames]
  | cons resource rest ih =>
    unfold inject
    split
    · rename_i skipped
      rw [freshNames_of_tracked (by simpa using skipped)]
      exact ih intake
    · rename_i admitted
      obtain ⟨admitted, absent⟩ : resource.admitted page = true ∧
          intake.tracked.contains resource.name = false := by simpa using admitted
      have missing := (Table.contains_eq_false_iff _ _).mp absent
      obtain ⟨counted, added⟩ := ih (intake.injectOne resource (loader resource))
      rw [freshNames_of_untracked admitted absent (loader resource)]
      refine ⟨congrArg (· + 1) counted, added.trans ?_⟩
      show (intake.tracked.insert resource.name .pending).entries ++ _ = _
      rw [Table.entries_insert _ _ _ missing, List.append_assoc]
      rfl

/-- Where everything that the page admits is tracked, an injection starts nothing. -/
theorem inject_of_tracked (loader : Loader M) {page : Context} {resources : List Resource}
    {intake : Intake M}
    (all : ∀ name ∈ admittedNames page resources, intake.tracked.contains name = true) :
    inject loader page resources intake = (0, intake) := by
  induction resources with
  | nil => rfl
  | cons resource rest ih =>
    rw [admittedNames_cons] at all
    unfold inject
    by_cases admitted : resource.admitted page = true
    · rw [if_pos admitted, List.forall_mem_cons] at all
      rw [if_pos (by simp [all.1]), ih all.2]
    · rw [if_neg admitted] at all
      rw [if_pos (by simp [admitted]), ih all]

/-- What has been sent for the load of a name: the result to which its task has come. -/
def sent? (intake : Intake M) (name : String) : Option (Except Failure Unit) :=
  intake.tasks.findSome? fun task =>
    match task.resource, task.phase with
    | some resource, .ended result => if resource.name = name then some result else none
    | _, _ => none

/-- A result is sent for a name exactly if the load of that name has ended with it. -/
theorem sent?_eq_some_iff {roster : Roster M} {intake : Intake M} (sound : Sound roster intake)
    (name : String) (result : Except Failure Unit) :
    intake.sent? name = some result ↔ ∃ index, intake.Loads index name (.ended result) := by
  have told : ∀ {other}, intake.sent? name = some other →
      ∃ index, intake.Loads index name (.ended other) := by
    intro other found
    obtain ⟨⟨resource, phase⟩, listed, sends⟩ := List.exists_of_findSome?_eq_some found
    obtain ⟨index, here⟩ := List.mem_iff_getElem?.mp listed
    cases resource with
    | none => cases sends
    | some owner =>
      cases phase with
      | ended sent =>
        dsimp only at sends
        split at sends
        · rename_i named
          cases sends
          exact ⟨index, owner, named, here⟩
        · cases sends
      | ready | asleep | awaiting | died => cases sends
  constructor
  · exact told
  · rintro ⟨index, resource, named, here⟩
    cases found : intake.sent? name with
    | none =>
      have silent := List.findSome?_eq_none_iff.mp found _ (List.mem_of_getElem? here)
      simp [named] at silent
    | some other =>
      obtain ⟨place, there⟩ := told found
      have here : intake.Loads index name (.ended result) := ⟨resource, named, here⟩
      rw [sound.once there here] at there
      cases (there.unique here).2
      rfl

end Intake

/-! ## What loaders return -/

/-- What a load returns before its next wait, if it does. -/
def Load.result? : Load M → Roster M → Option (Except Failure Unit)
  | .finish result, _ => some result
  | .die, _ => none
  | .sleep ms next, roster => if ms = 0 then next.result? roster else none
  | .register m next, roster =>
    match roster.register m with
    | .ok roster => (next (.ok ())).result? roster
    | .error failure => (next (.error failure)).result? roster
  | .look next, roster => (next roster).result? roster
  | .spawn _ next, roster => next.result? roster

/-- A load of this name is in this phase when its loader has returned what is told. -/
def Phase.Accounts (name : String) (told : List (Except Failure Unit)) : Phase M → Prop
  | .ready _ _ | .asleep _ _ _ | .died => told = []
  | .awaiting _ | .ended (.ok ()) => told = [.ok ()]
  | .ended (.error failure) => ∃ raised, told = [.error raised] ∧ failure = raised.ofLoad name

/-- A load that is with its loader has returned nothing. -/
theorem Phase.Accounts.of_isLoading {name : String} {told : List (Except Failure Unit)}
    {phase : Phase M} (loading : phase.isLoading = true) :
    phase.Accounts name told ↔ told = [] := by
  cases phase with
  | awaiting | ended => cases loading
  | ready | asleep | died => rfl

namespace Intake

theorem reported_eq (resource : Resource) (raised : Failure) :
    reported (some resource) raised = raised.ofLoad resource.name := by
  cases raised <;> rfl

section
variable {intake : Intake M} {index : Nat} {resource : Resource} {phase : Phase M}

/-- A load that has succeeded waits for its module or ends with success. -/
theorem await_accounts (here : intake.tasks[index]? = some { resource := some resource, phase })
    (roster : Roster M) :
    ∃ later, (intake.await index (some resource) roster).tasks[index]? =
        some { resource := some resource, phase := later } ∧
      later.Accounts resource.name [.ok ()] := by
  obtain ⟨later, tasks, finished⟩ := tasks_await intake index (some resource) roster
  refine ⟨later, ?_, ?_⟩
  · rw [tasks, tasks_setPhase, if_pos rfl, here]
    rfl
  · rcases finished with rfl | ⟨owner, -, -, rfl⟩ <;> rfl

/-- In its turn a load goes on as its loader has returned. -/
theorem runTask_accounts (load : Load M) (roster : Roster M)
    (here : intake.tasks[index]? = some { resource := some resource, phase }) :
    ∃ later, (runTask index (some resource) load roster intake).2.tasks[index]? =
        some { resource := some resource, phase := later } ∧
      later.Accounts resource.name (load.result? roster).toList := by
  induction load generalizing roster intake with
  | finish result =>
    cases result with
    | ok => exact await_accounts here roster
    | error raised =>
      refine ⟨.ended (.error (raised.ofLoad resource.name)), ?_, raised, rfl, rfl⟩
      simp [runTask, tasks_conclude, tasks_setPhase, here, reported_eq]
  | die => exact ⟨.died, by simp [runTask, tasks_setPhase, here], rfl⟩
  | sleep ms next ih =>
    unfold runTask Load.result?
    split
    · exact ih roster here
    · have counted : intake.ticket.2.tasks[index]? = _ := here
      refine ⟨.asleep (intake.now + ms) intake.tickets next, ?_, rfl⟩
      dsimp only
      rw [tasks_setPhase, if_pos rfl, counted]
      rfl
  | register m next ih =>
    unfold runTask Load.result?
    cases roster.register m with
    | ok after => exact ih (.ok ()) after here
    | error failure => exact ih (.error failure) roster here
  | look next ih => exact ih roster roster here
  | spawn task next _ ih =>
    apply ih
    have bound : index < intake.tasks.length := (List.getElem?_eq_some_iff.mp here).1
    show (intake.tasks ++ [_])[index]? = _
    rw [List.getElem?_append_left bound, here]

/-- A task leaves all others alone. -/
theorem runTask_others {other : Nat} {task : Task M} (different : other ≠ index)
    (owner : Option Resource) (load : Load M) (roster : Roster M)
    (there : intake.tasks[other]? = some task) :
    (runTask index owner load roster intake).2.tasks[other]? = some task := by
  induction load generalizing roster intake with
  | finish result =>
    cases result with
    | ok =>
      obtain ⟨later, tasks, -⟩ := tasks_await intake index owner roster
      show (intake.await index owner roster).tasks[other]? = _
      rw [tasks, tasks_setPhase, if_neg different, there]
    | error raised => simp [runTask, tasks_conclude, tasks_setPhase, different, there]
  | die => simp [runTask, tasks_setPhase, different, there]
  | sleep ms next ih =>
    unfold runTask
    split
    · exact ih roster there
    · have counted : intake.ticket.2.tasks[other]? = _ := there
      simp [tasks_setPhase, different, counted]
  | register m next ih =>
    unfold runTask
    cases roster.register m with
    | ok after => exact ih (.ok ()) after there
    | error failure => exact ih (.error failure) roster there
  | look next ih => exact ih roster roster there
  | spawn task next _ ih =>
    apply ih
    have bound : other < intake.tasks.length := (List.getElem?_eq_some_iff.mp there).1
    show (intake.tasks ++ [_])[other]? = _
    rw [List.getElem?_append_left bound, there]

/-- A turn of a task leaves all others alone. -/
theorem turn_others {other : Nat} {task : Task M} (different : other ≠ index) (roster : Roster M)
    (there : intake.tasks[other]? = some task) :
    (intake.turn index roster).2.tasks[other]? = some task := by
  unfold turn
  cases intake.tasks[index]? with
  | none => exact there
  | some turned =>
    obtain ⟨owner, phase⟩ := turned
    cases phase with
    | ready ticket load => exact runTask_others different owner load roster there
    | asleep | ended | died => exact there
    | awaiting waiter =>
      dsimp only
      split
      · obtain ⟨later, tasks, -⟩ := tasks_await intake index owner roster
        dsimp only
        rw [tasks, tasks_setPhase, if_neg different, there]
      · exact there

end

/-- What the loader of a task returns in the next turn of the task, if it does, with the name of
its resource. -/
def returns? (intake : Intake M) (index : Nat) (roster : Roster M) :
    Option (String × Except Failure Unit) :=
  match intake.tasks[index]? with
  | some { resource := some resource, phase := .ready _ load } =>
    (load.result? roster).map fun result => (resource.name, result)
  | _ => none

end Intake

/-! ## Journals -/

/-- What may happen to the loads of a page. -/
inductive LoadStep (M : Type) where
  | inject (page : Context) (resources : List Resource)
  /-- Somebody registers a module, or is refused. -/
  | register (m : Module M)
  | turn (index : Nat)
  | pass (ms : Nat)
  /-- Those who have slept long enough are woken. -/
  | ring

/-- The books of a page with what loaders have returned. -/
structure Journal (M : Type) where
  roster : Roster M
  intake : Intake M := {}
  /-- What loaders have returned, with the names of their resources, the latest last. -/
  returned : List (String × Except Failure Unit) := []

def LoadStep.names : LoadStep M → List String
  | .inject page resources => Intake.admittedNames page resources
  | .register _ | .turn _ | .pass _ | .ring => []

namespace Journal

def register (journal : Journal M) (m : Module M) : Journal M :=
  match journal.roster.register m with
  | .ok roster => { journal with roster }
  | .error _ => journal

def after (loader : Loader M) (journal : Journal M) : LoadStep M → Journal M
  | .inject page resources =>
    { journal with intake := (Intake.inject loader page resources journal.intake).2 }
  | .register m => journal.register m
  | .turn index =>
    { roster := (journal.intake.turn index journal.roster).1
      intake := (journal.intake.turn index journal.roster).2
      returned := journal.returned ++ (journal.intake.returns? index journal.roster).toList }
  | .pass ms => { journal with intake := journal.intake.advance ms }
  | .ring => { journal with intake := journal.intake.ring }

def run (loader : Loader M) (journal : Journal M) (steps : List (LoadStep M)) : Journal M :=
  steps.foldl (after loader) journal

/-- What the loader of this name has returned. -/
def told (journal : Journal M) (name : String) : List (Except Failure Unit) :=
  (journal.returned.filter fun entry => entry.1 == name).map Prod.snd

variable {loader : Loader M} {journal : Journal M}

theorem mem_told_iff (name : String) (result : Except Failure Unit) :
    result ∈ journal.told name ↔ (name, result) ∈ journal.returned := by
  simp [told]

/-- All that tasks do are turns and alarms. -/
theorem exists_settle (loader : Loader M) (turns : Nat) (journal : Journal M) :
    ∃ steps,
      ((journal.run loader steps).roster, (journal.run loader steps).intake) =
        journal.intake.settle turns journal.roster := by
  induction turns generalizing journal with
  | zero => exact ⟨[], rfl⟩
  | succ turns ih =>
    unfold Intake.settle
    split
    · rename_i index first
      obtain ⟨others, same⟩ := ih (journal.after loader (.turn index))
      exact ⟨.turn index :: others, same⟩
    · split
      · obtain ⟨others, same⟩ := ih (journal.after loader .ring)
        exact ⟨.ring :: others, same⟩
      · split
        · rename_i index woken
          obtain ⟨others, same⟩ := ih (journal.after loader (.turn index))
          exact ⟨.turn index :: others, same⟩
        · exact ⟨[], rfl⟩

/-! ## What every step keeps -/

/-- What is registered and what is loaded goes on. -/
structure Onward (journal later : Journal M) : Prop where
  modules : ∀ {name}, journal.roster.contains name = true → later.roster.contains name = true
  loads : ∀ {index name phase}, journal.intake.Loads index name phase →
    ∃ next, later.intake.Loads index name next ∧ (phase.isEnded = true → next = phase)

theorem Onward.refl (journal : Journal M) : journal.Onward journal where
  modules known := known
  loads here := ⟨_, here, fun _ => rfl⟩

theorem Onward.trans {middle later : Journal M} (left : journal.Onward middle)
    (right : middle.Onward later) : journal.Onward later where
  modules known := right.modules (left.modules known)
  loads here := by
    obtain ⟨next, there, kept⟩ := left.loads here
    obtain ⟨last, then_there, kept'⟩ := right.loads there
    refine ⟨last, then_there, fun ended => ?_⟩
    have same := kept ended
    subst same
    exact kept' ended

/-- Besides injections all that happens is made of moves. -/
theorem after_moves (loader : Loader M) (journal : Journal M) (step : LoadStep M) :
    (∃ page resources, step = .inject page resources) ∨
      (step.names = [] ∧ Intake.Moves (journal.roster, journal.intake)
        ((journal.after loader step).roster, (journal.after loader step).intake)) := by
  cases step with
  | inject page resources => exact .inl ⟨page, resources, rfl⟩
  | register m =>
    refine .inr ⟨rfl, ?_⟩
    unfold after register
    dsimp only
    split
    · rename_i roster registered
      exact .single (.register registered journal.intake)
    · exact .refl
  | turn index => exact .inr ⟨rfl, Intake.turn_moves index journal.roster journal.intake⟩
  | pass ms => exact .inr ⟨rfl, .single (.pass ..)⟩
  | ring => exact .inr ⟨rfl, Intake.ring_moves journal.roster journal.intake⟩

theorem sound_after (loader : Loader M) (sound : Sound journal.roster journal.intake)
    (step : LoadStep M) :
    Sound (journal.after loader step).roster (journal.after loader step).intake ∧
      journal.Onward (journal.after loader step) := by
  rcases journal.after_moves loader step with ⟨page, resources, rfl⟩ | ⟨-, moves⟩
  · obtain ⟨sound', extended⟩ := Intake.inject_sound loader page resources sound
    exact ⟨sound', fun known => known, fun here => ⟨_, extended.loads here, fun _ => rfl⟩⟩
  · obtain ⟨sound', kept⟩ := moves.sound sound
    exact ⟨sound', kept.modules, kept.loads⟩

/-- What is tracked stays so, and is seen to go on. -/
theorem Onward.tracked {later : Journal M} (onward : journal.Onward later)
    (sound : Sound journal.roster journal.intake) (sound' : Sound later.roster later.intake)
    {name : String} {progress : Progress}
    (seen : journal.intake.tracked.find? name = some progress) :
    ∃ next, later.intake.tracked.find? name = some next ∧
      (progress ≠ .pending → next = progress) := by
  obtain ⟨index, phase, loads⟩ := sound.loaded (Table.contains_of_find? seen)
  obtain ⟨next, there, kept⟩ := onward.loads loads
  refine ⟨_, sound'.seen there, fun settled => ?_⟩
  cases Option.some.inj (seen.symm.trans (sound.seen loads))
  cases ended : phase.isEnded with
  | true => rw [kept ended]
  | false => exact absurd (Phase.progress_eq_pending ended) settled

theorem Onward.untracked {later : Journal M} (onward : journal.Onward later)
    (sound : Sound journal.roster journal.intake) (sound' : Sound later.roster later.intake)
    {name : String} (absent : later.intake.tracked.contains name = false) :
    journal.intake.tracked.contains name = false := by
  rw [Table.contains_eq_false_iff] at absent ⊢
  by_contra known
  obtain ⟨progress, seen⟩ := Option.ne_none_iff_exists'.mp known
  obtain ⟨next, there, -⟩ := onward.tracked sound sound' seen
  cases absent.symm.trans there

/-- What has been sent stays so. -/
theorem Onward.sent {later : Journal M} (onward : journal.Onward later)
    (sound : Sound journal.roster journal.intake) (sound' : Sound later.roster later.intake)
    {name : String} {result : Except Failure Unit}
    (sent : journal.intake.sent? name = some result) : later.intake.sent? name = some result := by
  obtain ⟨index, loads⟩ := (Intake.sent?_eq_some_iff sound name result).mp sent
  obtain ⟨next, there, kept⟩ := onward.loads loads
  rw [kept rfl] at there
  exact (Intake.sent?_eq_some_iff sound' name result).mpr ⟨index, there⟩

/-- All loads are as far as their loaders have returned. -/
structure Accounts (journal : Journal M) : Prop where
  sound : Sound journal.roster journal.intake
  told : ∀ {index name phase}, journal.intake.Loads index name phase →
    phase.Accounts name (journal.told name)
  /-- Nothing is returned for a name that is not tracked. -/
  untold : ∀ {name}, journal.intake.tracked.contains name = false → journal.told name = []

theorem accounts_empty (roster : Roster M) : ({ roster } : Journal M).Accounts where
  sound := sound_empty roster
  told loads := absurd loads Intake.not_loads_empty
  untold _ := rfl

/-- What is told after a turn of a task. -/
theorem told_turn (loader : Loader M) (journal : Journal M) (index : Nat) (name : String) :
    (journal.after loader (.turn index)).told name = journal.told name ++
      ((journal.intake.returns? index journal.roster).toList.filter
        fun entry => entry.1 == name).map Prod.snd := by
  simp [told, after]

/-- Nobody but its own loader returns anything for a load. -/
theorem told_turn_of_apart (loader : Loader M) {journal : Journal M} {index : Nat} {name : String}
    (apart : ∀ phase, ¬ journal.intake.Loads index name phase) :
    (journal.after loader (.turn index)).told name = journal.told name := by
  rw [told_turn]
  unfold Intake.returns?
  split
  · rename_i resource ticket load here
    have different : resource.name ≠ name := fun same => apart _ ⟨resource, same, here⟩
    cases load.result? journal.roster <;> simp [different]
  · simp

/-- In its turn a load goes on as its loader has returned. -/
theorem told_turn_of_own (accounts : journal.Accounts) {index : Nat} {name : String}
    {phase : Phase M} (loads : journal.intake.Loads index name phase) :
    ∃ later, (journal.after loader (.turn index)).intake.Loads index name later ∧
      later.Accounts name ((journal.after loader (.turn index)).told name) := by
  have before := accounts.told loads
  obtain ⟨resource, rfl, here⟩ := loads
  rw [told_turn]
  simp only [after, Intake.turn, Intake.returns?, here]
  cases phase with
  | ready ticket load =>
    obtain ⟨later, there, accounted⟩ := Intake.runTask_accounts load journal.roster here
    refine ⟨later, ⟨resource, rfl, there⟩, ?_⟩
    have nothing : journal.told resource.name = [] := before
    rw [nothing]
    cases returned : load.result? journal.roster <;> simpa [returned] using accounted
  | awaiting waiter =>
    have nothing : journal.told resource.name = [.ok ()] := before
    dsimp only
    split
    · obtain ⟨later, there, accounted⟩ := Intake.await_accounts here journal.roster
      exact ⟨later, ⟨resource, rfl, there⟩, by simpa [nothing] using accounted⟩
    · exact ⟨_, ⟨resource, rfl, here⟩, by simpa using before⟩
  | asleep | ended | died => exact ⟨_, ⟨resource, rfl, here⟩, by simpa using before⟩

theorem Accounts.turn (accounts : journal.Accounts) (index : Nat) :
    (journal.after loader (.turn index)).Accounts := by
  have kept := ((Intake.turn_moves index journal.roster journal.intake).sound accounts.sound).2
  obtain ⟨sound, onward⟩ := sound_after loader accounts.sound (.turn index)
  refine ⟨sound, ?_, ?_⟩
  · intro other name later there
    obtain ⟨phase, loads⟩ := kept.loaded there
    by_cases same : other = index
    · subst same
      obtain ⟨next, then_there, accounted⟩ := told_turn_of_own accounts loads
      cases (there.unique then_there).2
      exact accounted
    · have apart : ∀ phase, ¬ journal.intake.Loads index name phase :=
        fun _ own => same (accounts.sound.once loads own)
      rw [told_turn_of_apart loader apart]
      obtain ⟨resource, named, here⟩ := loads
      have unmoved := Intake.turn_others same journal.roster here
      cases (there.unique ⟨resource, named, unmoved⟩).2
      exact accounts.told ⟨resource, named, here⟩
  · intro name absent
    have before := onward.untracked accounts.sound sound absent
    rw [told_turn_of_apart loader, accounts.untold before]
    intro phase own
    cases before.symm.trans (Table.contains_of_find? (accounts.sound.seen own))

/-- Those who are woken have returned nothing. -/
theorem wake_accounts {told : String → List (Except Failure Unit)} {intake : Intake M}
    (sleepers : List (Nat × Nat × Nat × Load M))
    (accounts : ∀ index name phase, intake.Loads index name phase → phase.Accounts name (told name))
    (silent : ∀ sleeper ∈ sleepers, ∀ name phase, intake.Loads sleeper.2.2.1 name phase →
      told name = []) :
    ∀ index name phase, (sleepers.foldl Intake.wake intake).Loads index name phase →
      phase.Accounts name (told name) := by
  induction sleepers generalizing intake with
  | nil => exact accounts
  | cons sleeper rest ih =>
    have before : ∀ {other name later}, (intake.wake sleeper).Loads other name later →
        ∃ phase, intake.Loads other name phase ∧
          (later = phase ∨ (other = sleeper.2.2.1 ∧ later.isLoading = true)) := by
      intro other name later there
      have loads := (Intake.loads_setPhase_iff ..).mp there
      split at loads
      · rename_i same
        obtain ⟨rfl, phase, own⟩ := loads
        exact ⟨phase, same ▸ own, .inr ⟨same, rfl⟩⟩
      · exact ⟨later, loads, .inl rfl⟩
    apply ih
    · intro other name later there
      obtain ⟨phase, loads, rfl | ⟨rfl, loading⟩⟩ := before there
      · exact accounts other name later loads
      · exact (Phase.Accounts.of_isLoading loading).mpr
          (silent sleeper (List.mem_cons_self ..) name phase loads)
    · intro other listed name later there
      obtain ⟨phase, loads, -⟩ := before there
      exact silent other (List.mem_cons_of_mem _ listed) name phase loads

theorem Accounts.ring (accounts : journal.Accounts) : (journal.after loader .ring).Accounts := by
  obtain ⟨sound, onward⟩ := sound_after loader accounts.sound .ring
  refine ⟨sound, ?_, fun absent => accounts.untold (onward.untracked accounts.sound sound absent)⟩
  apply wake_accounts
  · exact fun _ _ _ loads => accounts.told loads
  · intro sleeper listed name phase loads
    rw [List.mem_mergeSort] at listed
    obtain ⟨resource, due, ticket, load, here⟩ :=
      Intake.asleep_of_sleeper (List.mem_filter.mp listed).1
    obtain ⟨owner, rfl, there⟩ := loads
    cases here.symm.trans there
    exact accounts.told ⟨owner, rfl, here⟩

theorem Accounts.inject (accounts : journal.Accounts) (page : Context)
    (resources : List Resource) : (journal.after loader (.inject page resources)).Accounts := by
  obtain ⟨sound, onward⟩ := sound_after loader accounts.sound (.inject page resources)
  refine ⟨sound, ?_, fun absent => accounts.untold (onward.untracked accounts.sound sound absent)⟩
  intro index name phase there
  rcases Intake.loads_inject there with loads | ⟨untracked, ticket, load, rfl⟩
  · exact accounts.told loads
  · exact accounts.untold untracked

theorem Accounts.register (accounts : journal.Accounts) (m : Module M) :
    (journal.register m).Accounts := by
  unfold Journal.register
  split
  · rename_i roster registered
    have more : ∀ {name}, _ → _ := @Roster.contains_of_register _ _ _ _ registered
    exact ⟨accounts.sound.of_modules more, accounts.told, accounts.untold⟩
  · exact accounts

theorem Accounts.after (accounts : journal.Accounts) (loader : Loader M)
    (step : LoadStep M) : (journal.after loader step).Accounts := by
  cases step with
  | inject page resources => exact accounts.inject page resources
  | register m => exact accounts.register m
  | turn index => exact accounts.turn index
  | pass ms => exact ⟨(Intake.now_sound accounts.sound _).1, accounts.told, accounts.untold⟩
  | ring => exact accounts.ring

/-- Whatever happens, one thing after the other. -/
theorem Accounts.run (accounts : journal.Accounts) (loader : Loader M)
    (steps : List (LoadStep M)) :
    (journal.run loader steps).Accounts ∧ journal.Onward (journal.run loader steps) := by
  induction steps generalizing journal with
  | nil => exact ⟨accounts, .refl journal⟩
  | cons step rest ih =>
    obtain ⟨accounts', onward⟩ := ih (accounts.after loader step)
    exact ⟨accounts', (sound_after loader accounts.sound step).2.trans onward⟩

/-! ## Tracked names -/

theorem keys_after (accounts : journal.Accounts) (loader : Loader M) (step : LoadStep M) :
    (journal.after loader step).intake.tracked.keys =
      (journal.intake.tracked.keys ++ step.names).eraseDups := by
  rcases journal.after_moves loader step with ⟨page, resources, rfl⟩ | ⟨none, moves⟩
  · exact Intake.keys_inject loader page resources journal.intake
  · rw [none, List.append_nil, eraseDups_eq_self (Table.nodup_keys _)]
    exact moves.keys accounts.sound

theorem keys_run (accounts : journal.Accounts) (loader : Loader M)
    (steps : List (LoadStep M)) :
    (journal.run loader steps).intake.tracked.keys =
      (journal.intake.tracked.keys ++ steps.flatMap LoadStep.names).eraseDups := by
  induction steps generalizing journal with
  | nil =>
    rw [List.flatMap_nil, List.append_nil, eraseDups_eq_self (Table.nodup_keys _)]
    rfl
  | cons step rest ih =>
    have keys := keys_after accounts loader step
    have distinct := (journal.after loader step).intake.tracked.nodup_keys
    rw [keys] at distinct
    show ((journal.after loader step).run loader rest).intake.tracked.keys = _
    rw [ih (accounts.after loader step), keys, List.flatMap_cons, ← List.append_assoc]
    exact eraseDups_append_eraseDups distinct _

/-- What is tracked for the first time is pending. -/
theorem pending_of_untracked (accounts : journal.Accounts) (step : LoadStep M)
    {name : String} {progress : Progress}
    (absent : journal.intake.tracked.contains name = false)
    (seen : (journal.after loader step).intake.tracked.find? name = some progress) :
    progress = .pending := by
  rcases journal.after_moves loader step with ⟨page, resources, rfl⟩ | ⟨-, moves⟩
  · have added := (Intake.inject_eq loader page resources journal.intake).2
    have listed : (name, progress) ∈ (Intake.inject loader page resources
        journal.intake).2.tracked.entries := (Table.find?_eq_some_iff _ _ _).mp seen
    rw [added, List.mem_append] at listed
    rcases listed with earlier | fresh
    · rw [← Table.find?_eq_some_iff, (Table.contains_eq_false_iff _ _).mp absent] at earlier
      cases earlier
    · obtain ⟨other, -, same⟩ := List.mem_map.mp fresh
      cases same
      rfl
  · have keys := moves.keys accounts.sound
    have known : name ∈ (journal.after loader step).intake.tracked.keys := by
      rw [← Table.contains_iff_mem_keys]
      exact Table.contains_of_find? seen
    rw [keys, ← Table.contains_iff_mem_keys, absent] at known
    cases known

/-! ## What is sent -/

/-- What a loader has returned tells what has been sent for its resource, and that is what everybody
sees of its load. -/
theorem Accounts.sent (accounts : journal.Accounts) (name : String) :
    (journal.intake.sent? name = some (.ok ()) ↔
        journal.intake.tracked.find? name = some .registered) ∧
      (∀ reason, journal.intake.tracked.find? name = some (.failed reason) ↔
        ∃ failure, journal.intake.sent? name = some (.error failure) ∧
          failure.message = reason) := by
  have seen : ∀ {result}, journal.intake.sent? name = some result →
      journal.intake.tracked.find? name = some (Intake.progressOf result) := by
    intro result sent
    obtain ⟨index, loads⟩ := (Intake.sent?_eq_some_iff accounts.sound name result).mp sent
    exact accounts.sound.seen loads
  have ended : ∀ {progress}, journal.intake.tracked.find? name = some progress →
      progress ≠ .pending →
      ∃ result, journal.intake.sent? name = some result ∧ progress = Intake.progressOf result := by
    intro progress found settled
    obtain ⟨index, phase, loads⟩ := accounts.sound.loaded (Table.contains_of_find? found)
    cases Option.some.inj (found.symm.trans (accounts.sound.seen loads))
    cases phase with
    | ended result =>
      exact ⟨result, (Intake.sent?_eq_some_iff accounts.sound name result).mpr ⟨index, loads⟩, rfl⟩
    | ready | asleep | awaiting | died => exact absurd rfl settled
  refine ⟨⟨seen, fun found => ?_⟩, fun reason => ⟨fun found => ?_, ?_⟩⟩
  · obtain ⟨result, sent, same⟩ := ended found nofun
    cases result with
    | ok => exact sent
    | error failure => cases same
  · obtain ⟨result, sent, same⟩ := ended found nofun
    cases result with
    | ok => cases same
    | error failure =>
      cases same
      exact ⟨failure, sent, rfl⟩
  · rintro ⟨failure, sent, rfl⟩
    exact seen sent

/-- What the loader of a name has returned, if anything. -/
theorem Accounts.told_cases (accounts : journal.Accounts) (name : String) :
    journal.told name = [] ∨ journal.told name = [.ok ()] ∨
      ∃ raised index, journal.told name = [.error raised] ∧
        journal.intake.Loads index name (.ended (.error (raised.ofLoad name))) := by
  cases known : journal.intake.tracked.contains name with
  | false => exact .inl (accounts.untold known)
  | true =>
    obtain ⟨index, phase, loads⟩ := accounts.sound.loaded known
    have told := accounts.told loads
    cases phase with
    | ready | asleep | died => exact .inl told
    | awaiting => exact .inr (.inl told)
    | ended result =>
      cases result with
      | ok => exact .inr (.inl told)
      | error failure =>
        obtain ⟨raised, told, rfl⟩ := told
        exact .inr (.inr ⟨raised, index, told, loads⟩)

/-- A load has failed with what its loader has raised, and succeeds only if its loader has. -/
theorem Accounts.raised (accounts : journal.Accounts) (name : String) :
    (∀ failure, journal.intake.sent? name = some (.error failure) ↔
        ∃ raised, (name, .error raised) ∈ journal.returned ∧ failure = raised.ofLoad name) ∧
      (journal.intake.sent? name = some (.ok ()) → (name, .ok ()) ∈ journal.returned) := by
  simp only [Intake.sent?_eq_some_iff accounts.sound, ← mem_told_iff]
  refine ⟨fun failure => ⟨?_, ?_⟩, ?_⟩
  · rintro ⟨index, loads⟩
    obtain ⟨raised, told, rfl⟩ := accounts.told loads
    exact ⟨raised, by simp [told], rfl⟩
  · rintro ⟨raised, returned, rfl⟩
    rcases accounts.told_cases name with none | success | ⟨other, index, told, loads⟩
    · simp [none] at returned
    · simp [success] at returned
    · simp only [told, List.mem_singleton, Except.error.injEq] at returned
      exact ⟨index, returned ▸ loads⟩
  · rintro ⟨index, loads⟩
    have told : journal.told name = [.ok ()] := accounts.told loads
    simp [told]

/-- A loader returns once. -/
theorem Accounts.returns_once (accounts : journal.Accounts) :
    (journal.returned.map Prod.fst).Nodup := by
  rw [List.nodup_iff_count_le_one]
  intro name
  have counted : (journal.returned.map Prod.fst).count name = (journal.told name).length := by
    rw [List.count_eq_countP, List.countP_map, List.countP_eq_length_filter, Journal.told,
      List.length_map]
    rfl
  rw [counted]
  rcases accounts.told_cases name with none | success | ⟨raised, index, told, -⟩
  · simp [none]
  · simp [success]
  · simp [told]

theorem matches_run (loader : Loader M)
    (matching : Intake.AllMatch journal.roster journal.intake) (steps : List (LoadStep M)) :
    Intake.AllMatch (journal.run loader steps).roster (journal.run loader steps).intake := by
  induction steps generalizing journal with
  | nil => exact matching
  | cons step rest ih =>
    apply ih
    rcases journal.after_moves loader step with ⟨page, resources, rfl⟩ | ⟨-, moves⟩
    · exact Intake.matches_inject loader page resources matching
    · exact moves.matches matching

/-- A load that waits for its module has something new to look at once the module is there. -/
theorem tracked_of_awaiting (loader : Loader M)
    (matching : Intake.AllMatch journal.roster journal.intake) {index : Nat} {name : String}
    {waiter : Waiter} (loads : journal.intake.Loads index name (.awaiting waiter))
    (known : journal.roster.contains name = true) :
    (journal.after loader (.turn index)).intake.tracked.find? name = some .registered := by
  have woken : waiter.isWoken journal.roster = true := by
    by_contra asleep
    have absent := (matching index name _ loads).2 (Bool.eq_false_iff.mpr asleep)
    cases absent.symm.trans known
  obtain ⟨resource, rfl, here⟩ := loads
  have found : journal.roster.await resource.name = none := if_pos known
  simp only [after, Intake.turn, here, woken, if_true, Intake.await, Option.bind_some, found,
    Intake.conclude]
  rw [Table.find?_insert, if_pos rfl]
  rfl

/-- A loader that has succeeded belongs to a load, and the next turn of this load ends it, once the
module is there. -/
theorem Accounts.registered_next (accounts : journal.Accounts) (loader : Loader M)
    (matching : Intake.AllMatch journal.roster journal.intake) {name : String}
    (returned : (name, .ok ()) ∈ journal.returned) :
    ∃ index phase, journal.intake.Loads index name phase ∧
      (journal.roster.contains name = true →
        (journal.after loader (.turn index)).intake.tracked.find? name = some .registered) := by
  have told := (mem_told_iff name _).mpr returned
  cases tracked : journal.intake.tracked.contains name with
  | false =>
    rw [accounts.untold tracked] at told
    cases told
  | true =>
    obtain ⟨index, phase, loads⟩ := accounts.sound.loaded tracked
    refine ⟨index, phase, loads, fun known => ?_⟩
    have account := accounts.told loads
    cases phase with
    | ready | asleep | died =>
      rw [show journal.told name = [] from account] at told
      cases told
    | awaiting waiter => exact tracked_of_awaiting loader matching loads known
    | ended result =>
      cases result with
      | error failure =>
        obtain ⟨raised, same, -⟩ := account
        rw [same] at told
        simp at told
      | ok =>
        have seen := accounts.sound.seen loads
        obtain ⟨sound, onward⟩ := sound_after loader accounts.sound (.turn index)
        obtain ⟨next, there, kept⟩ := onward.tracked accounts.sound sound seen
        rw [kept nofun] at there
        exact there

/-- Once it has been injected, nothing of a list is ever injected again. -/
theorem Accounts.inject_again (accounts : journal.Accounts) (loader : Loader M) (page : Context)
    (resources : List Resource) (later : List (LoadStep M)) :
    let last := (journal.after loader (.inject page resources)).run loader later
    Intake.inject loader page resources last.intake = (0, last.intake) := by
  intro last
  apply Intake.inject_of_tracked
  intro name admitted
  rw [Table.contains_iff_mem_keys, keys_run (accounts.after loader _),
    keys_after accounts, List.mem_eraseDups, List.mem_append, List.mem_eraseDups, List.mem_append]
  exact .inl (.inr admitted)

/-- Whatever is injected, registered and run, in whatever order: an injection starts as many loads
as the page admits names that are not tracked, adds these, pending, in the order in which they are
first listed, and starts nothing when it is repeated, however late. What is tracked is pending at
first and changes at most once, a name that is seen as registered is on the roster and stays there,
and what is outstanding is what is pending, in the order of injection. Where a loader has succeeded
and its module is on the roster, the next turn of the load has it registered. A load is seen as
registered exactly if its success has been sent, which takes a loader that has succeeded, and as
failed exactly if a failure with that message has been sent, and this is the failure that its loader
has raised, as it is if it is one about resources or modules, and else as the reason why the
resource failed. What has been sent is not sent anew. -/
theorem tracking_follows_loads (loader : Loader M) (roster : Roster M)
    (steps : List (LoadStep M)) :
    let journal := ({ roster } : Journal M).run loader steps
    let tracked := journal.intake.tracked
    (∀ page resources,
        let injected := Intake.inject loader page resources journal.intake
        let fresh := journal.intake.freshNames page resources
        injected.1 = fresh.length ∧
          injected.2.tracked.entries = tracked.entries ++ fresh.map (fun name => (name, .pending)) ∧
          ∀ later,
            let last := (journal.after loader (.inject page resources)).run loader later
            Intake.inject loader page resources last.intake = (0, last.intake)) ∧
      tracked.keys = (steps.flatMap LoadStep.names).eraseDups ∧ tracked.keys.Nodup ∧
      (∀ step name progress, tracked.contains name = false →
        (journal.after loader step).intake.tracked.find? name = some progress →
          progress = .pending) ∧
      (∀ later name progress, tracked.find? name = some progress →
        ∃ next, (journal.run loader later).intake.tracked.find? name = some next ∧
          (progress ≠ .pending → next = progress)) ∧
      (∀ later name, tracked.find? name = some .registered →
        (journal.run loader later).roster.contains name = true) ∧
      (∀ later name result, journal.intake.sent? name = some result →
        (journal.run loader later).intake.sent? name = some result) ∧
      journal.intake.outstanding =
        tracked.keys.filter (fun name => tracked.find? name = some .pending) ∧
      (journal.returned.map Prod.fst).Nodup ∧
      (∀ name, (name, .ok ()) ∈ journal.returned →
        ∃ index phase, journal.intake.Loads index name phase ∧
          (journal.roster.contains name = true →
            (journal.after loader (.turn index)).intake.tracked.find? name = some .registered)) ∧
      ∀ name,
        (journal.intake.sent? name = some (.ok ()) ↔ tracked.find? name = some .registered) ∧
          (journal.intake.sent? name = some (.ok ()) → (name, .ok ()) ∈ journal.returned) ∧
          (∀ reason, tracked.find? name = some (.failed reason) ↔
            ∃ failure, journal.intake.sent? name = some (.error failure) ∧
              failure.message = reason) ∧
          ∀ failure, journal.intake.sent? name = some (.error failure) ↔
            ∃ raised, (name, .error raised) ∈ journal.returned ∧
              failure = raised.ofLoad name := by
  intro journal tracked
  obtain ⟨accounts, -⟩ := (accounts_empty roster).run loader steps
  have keys := keys_run (accounts_empty roster) loader steps
  have matching : Intake.AllMatch journal.roster journal.intake :=
    matches_run loader (fun _ _ _ loads => absurd loads Intake.not_loads_empty) steps
  refine ⟨fun page resources => ?_, keys, tracked.nodup_keys, ?_, ?_, ?_, ?_,
    journal.intake.outstanding_eq_filter, accounts.returns_once,
    fun name returned => accounts.registered_next loader matching returned, fun name => ?_⟩
  · obtain ⟨counted, added⟩ := Intake.inject_eq loader page resources journal.intake
    exact ⟨counted, added, accounts.inject_again loader page resources⟩
  · intro step name progress absent seen
    exact pending_of_untracked accounts step absent seen
  · intro later name progress seen
    obtain ⟨after, onward⟩ := accounts.run loader later
    exact onward.tracked accounts.sound after.sound seen
  · intro later name registered
    obtain ⟨-, onward⟩ := accounts.run loader later
    obtain ⟨index, loads⟩ := (Intake.sent?_eq_some_iff accounts.sound name _).mp
      ((accounts.sent name).1.mpr registered)
    exact onward.modules (accounts.sound.present loads)
  · intro later name result sent
    obtain ⟨after, onward⟩ := accounts.run loader later
    exact onward.sent accounts.sound after.sound sent
  · obtain ⟨registered, failed⟩ := accounts.sent name
    obtain ⟨raised, succeeded⟩ := accounts.raised name
    exact ⟨registered, succeeded, failed, raised⟩

/-- Brings a module for a resource, brings it by way of somebody else, or raises a failure. -/
def mixed : Loader String := fun resource =>
  if resource.locator = "broken" then .finish (.error (.reentrant resource.name))
  else if resource.locator = "elsewhere" then .sleep 5 (.finish (.ok ()))
  else .register { name := resource.name, body := "" } .finish

/-- A loader brings its module, another fails, and the module of a third comes when its loader has
ended. -/
def mixedSteps : List (LoadStep String) :=
  let resource (name locator : String) : Resource := { name, locator }
  [.inject {} [resource "menu" "here", resource "menu" "broken", resource "help" "elsewhere"],
    .turn 1,
    .inject {} [resource "help" "here", resource "users" "broken", resource "more" "elsewhere"],
    .turn 2, .turn 0, .pass 5, .ring, .turn 1, .register { name := "help", body := "" }]

theorem tracking_follows_loads_mixed :
    let journal := ({ roster := {} } : Journal String).run mixed mixedSteps
    journal.intake.tracked.entries =
        [("menu", .registered), ("help", .pending),
          ("users", .failed "resource users failed to load: re-entrant composition of users"),
          ("more", .pending)] ∧
      journal.returned.map (fun entry => (entry.1, entry.2.isOk)) =
        [("users", false), ("menu", true), ("help", true)] ∧
      (∃ failure, journal.intake.sent? "users" = some (.error failure) ∧
        failure.message = "resource users failed to load: re-entrant composition of users") ∧
      ∃ index phase, journal.intake.Loads index "help" phase ∧
        (journal.after mixed (.turn index)).intake.tracked.find? "help" = some .registered := by
  intro journal
  obtain ⟨-, -, -, -, -, -, -, -, -, next, each⟩ := tracking_follows_loads mixed {} mixedSteps
  have entries : journal.intake.tracked.entries =
      [("menu", .registered), ("help", .pending),
        ("users", .failed "resource users failed to load: re-entrant composition of users"),
        ("more", .pending)] := by
    decide +kernel
  have returned : journal.returned.map (fun entry => (entry.1, entry.2.isOk)) =
      [("users", false), ("menu", true), ("help", true)] := by
    decide +kernel
  have seen : journal.intake.tracked.find? "users" =
      some (.failed "resource users failed to load: re-entrant composition of users") := by
    rw [Table.find?_eq_some_iff, entries]
    simp
  have succeeded : ("help", .ok ()) ∈ journal.returned := by
    obtain ⟨⟨name, result⟩, listed, same⟩ := List.mem_map.mp
      (show ("help", true) ∈ journal.returned.map fun entry => (entry.1, entry.2.isOk) by
        simp [returned])
    cases result with
    | error failure => cases (Prod.ext_iff.mp same).2
    | ok =>
      cases (Prod.ext_iff.mp same).1
      exact listed
  obtain ⟨index, phase, loads, registered⟩ := next "help" succeeded
  exact ⟨entries, returned, ((each "users").2.2.1 _).mp seen, index, phase, loads,
    registered (by decide +kernel)⟩

end Journal
end PageSession.Assembly
