import PageSession.Proofs.Assembly.Waiting

/-!
Loads that deliver one module each. A loader that registers the module of a resource at once, or
fails at once, leaves nothing to the clock: a startup that waits for any time at all has its answer
after every task has had two turns. All loads succeed exactly when every resource has a module, no
two modules have the same name, and every resource is named like one of the modules.
-/
namespace PageSession.Assembly
open Page

variable {M : Type}

/-- Registers at once the module that a source has for a resource, and fails where it has none. -/
def delivering (source : Resource → Option (Module M)) (excuse : Resource → Failure) : Loader M :=
  fun resource =>
    match source resource with
    | some m => .register m .finish
    | none => .finish (.error (excuse resource))

/-- All of these resources can be loaded together. -/
structure Deliverable (source : Resource → Option (Module M)) (resources : List Resource) :
    Prop where
  known : ∀ resource ∈ resources, (source resource).isSome = true
  apart : (resources.map fun resource => (source resource).map Module.name).Nodup
  /-- A load waits for a module of its own name, whichever load brings it. -/
  named : ∀ resource ∈ resources, ∃ other ∈ resources,
    (source other).map Module.name = some resource.name

/-! ## What tasks have done -/

namespace Phase

def isReady : Phase M → Bool
  | .ready _ _ => true
  | _ => false

def hasDelivered : Phase M → Bool
  | .awaiting _ | .ended (.ok ()) => true
  | _ => false

def isWoken (roster : Roster M) : Phase M → Bool
  | .awaiting waiter => waiter.isWoken roster
  | _ => false

end Phase

section
variable {source : Resource → Option (Module M)} {excuse : Resource → Failure}
  {resources : List Resource} {roster later : Roster M} {tasks : List (Task M)}

def Brings (source : Resource → Option (Module M)) (tasks : List (Task M)) (index : Nat)
    (m : Module M) : Prop :=
  ∃ resource phase, tasks[index]? = some { resource := some resource, phase } ∧
    phase.hasDelivered = true ∧ source resource = some m

def Fits (source : Resource → Option (Module M)) (excuse : Resource → Failure) (roster : Roster M)
    (tasks : List (Task M)) (index : Nat) (resource : Resource) : Phase M → Prop
  | .ready _ load => load = delivering source excuse resource
  | .asleep _ _ _ | .died => False
  | .awaiting waiter => (source resource).isSome = true ∧ waiter.name = resource.name ∧
      waiter.seen ≤ roster.generation ∧
      (waiter.isWoken roster = false → roster.contains resource.name = false)
  | .ended (.ok ()) => (source resource).isSome = true ∧ roster.contains resource.name = true
  | .ended (.error _) => ∀ m, source resource = some m →
      ∃ other twin, other ≠ index ∧ Brings source tasks other twin ∧ twin.name = m.name

/-- The roster holds what the tasks have brought, and each phase says what it should. -/
structure Delivering (source : Resource → Option (Module M)) (excuse : Resource → Failure)
    (resources : List Resource) (roster : Roster M) (tasks : List (Task M)) : Prop where
  owners : tasks.map Task.resource = resources.map some
  fits : ∀ {index resource phase}, tasks[index]? = some { resource := some resource, phase } →
    Fits source excuse roster tasks index resource phase
  once : ∀ {index other m twin}, Brings source tasks index m → Brings source tasks other twin →
    m.name = twin.name → index = other
  filed : ∀ {name m}, roster.modules.find? name = some m ↔
    ∃ index, Brings source tasks index m ∧ m.name = name

/-- After a change of phase a task has delivered if its phase says so; the others are as before. -/
theorem brings_set {index : Nat} {resource : Resource} {phase next : Phase M}
    (here : tasks[index]? = some { resource := some resource, phase }) (other : Nat)
    (m : Module M) :
    Brings source (tasks.set index { resource := some resource, phase := next }) other m ↔
      if other = index then next.hasDelivered = true ∧ source resource = some m
      else Brings source tasks other m := by
  have bound : index < tasks.length := (List.getElem?_eq_some_iff.mp here).1
  unfold Brings
  rw [List.getElem?_set]
  by_cases same : other = index
  · rw [if_pos same.symm, if_pos bound, if_pos same]
    constructor
    · rintro ⟨owner, phase, found, delivered, brought⟩
      cases found
      exact ⟨delivered, brought⟩
    · rintro ⟨delivered, brought⟩
      exact ⟨resource, next, rfl, delivered, brought⟩
  · rw [if_neg fun equal => same equal.symm, if_neg same]

/-- What a phase says stays true while more is registered. -/
theorem Fits.mono {after : List (Task M)} {index : Nat} {resource : Resource} {phase : Phase M}
    (fits : Fits source excuse roster tasks index resource phase)
    (grown : later = roster ∨ ∃ m, roster.register m = .ok later)
    (more : ∀ other m, Brings source tasks other m → Brings source after other m) :
    Fits source excuse later after index resource phase := by
  cases phase with
  | ready ticket load => exact fits
  | asleep => exact fits
  | died => exact fits
  | awaiting waiter =>
    obtain ⟨known, named, seen, absent⟩ := fits
    rcases grown with rfl | ⟨m, registered⟩
    · exact ⟨known, named, seen, absent⟩
    · have next : later.generation = roster.generation + 1 := by
        unfold Roster.register at registered
        split at registered <;> cases registered
        rfl
      refine ⟨known, named, by omega, fun quiet => ?_⟩
      -- whoever has looked before is woken by the registration
      have woken : waiter.isWoken later = true := by
        unfold Waiter.isWoken
        exact decide_eq_true (by omega)
      rw [woken] at quiet
      cases quiet
  | ended result =>
    cases result with
    | ok =>
      refine ⟨fits.1, ?_⟩
      rcases grown with rfl | ⟨m, registered⟩
      · exact fits.2
      · exact Roster.contains_of_register registered fits.2
    | error failure =>
      intro m found
      obtain ⟨other, twin, different, brought, same⟩ := fits m found
      exact ⟨other, twin, different, more other twin brought, same⟩

namespace Delivering
variable {index : Nat} {resource : Resource} {phase next : Phase M}

/-- Tasks and resources are in the same order. -/
theorem resource_at (books : Delivering source excuse resources roster tasks)
    (here : tasks[index]? = some { resource := some resource, phase }) :
    resources[index]? = some resource := by
  have found : (tasks.map Task.resource)[index]? = some (some resource) := by
    rw [List.getElem?_map, here, Option.map_some]
  rw [books.owners, List.getElem?_map] at found
  obtain ⟨owner, listed, same⟩ := Option.map_eq_some_iff.mp found
  cases same
  exact listed

/-- Every resource has its task. -/
theorem exists_task (books : Delivering source excuse resources roster tasks)
    {place : Nat} {owner : Resource} (listed : resources[place]? = some owner) :
    ∃ phase, tasks[place]? = some { resource := some owner, phase } := by
  have found : (tasks.map Task.resource)[place]? = some (some owner) := by
    rw [books.owners, List.getElem?_map, listed, Option.map_some]
  rw [List.getElem?_map] at found
  obtain ⟨⟨held, phase⟩, here, rfl⟩ := Option.map_eq_some_iff.mp found
  exact ⟨phase, here⟩

private theorem owners_set (books : Delivering source excuse resources roster tasks)
    (here : tasks[index]? = some { resource := some resource, phase }) :
    (tasks.set index { resource := some resource, phase := next }).map Task.resource =
      resources.map some := by
  obtain ⟨bound, found⟩ := List.getElem?_eq_some_iff.mp here
  have within : index < (tasks.map Task.resource).length := by rwa [List.length_map]
  have same : (tasks.map Task.resource)[index] = some resource := by
    rw [List.getElem_map, found]
  rw [List.map_set, ← books.owners]
  show (tasks.map Task.resource).set index (some resource) = _
  rw [← same, List.set_getElem_self]

/-- A change of phase leaves the other tasks fitting. -/
private theorem fits_set (books : Delivering source excuse resources roster tasks)
    (here : tasks[index]? = some { resource := some resource, phase })
    (fits : Fits source excuse later tasks index resource next)
    (grown : later = roster ∨ ∃ m, roster.register m = .ok later)
    (more : ∀ other m, Brings source tasks other m →
      Brings source (tasks.set index { resource := some resource, phase := next }) other m)
    {other : Nat} {owner : Resource} {phase : Phase M}
    (there : (tasks.set index { resource := some resource, phase := next })[other]? =
      some { resource := some owner, phase }) :
    Fits source excuse later (tasks.set index { resource := some resource, phase := next })
      other owner phase := by
  by_cases itself : index = other
  · subst itself
    rw [List.getElem?_set_self (List.getElem?_eq_some_iff.mp here).1] at there
    cases there
    exact fits.mono (.inl rfl) more
  · rw [List.getElem?_set_ne itself] at there
    exact (books.fits there).mono grown more

/-- A task that goes on without a registration. -/
theorem kept (books : Delivering source excuse resources roster tasks)
    (here : tasks[index]? = some { resource := some resource, phase })
    (same : next.hasDelivered = phase.hasDelivered)
    (fits : Fits source excuse roster tasks index resource next) :
    Delivering source excuse resources roster
      (tasks.set index { resource := some resource, phase := next }) := by
  have brings (other : Nat) (m : Module M) :
      Brings source (tasks.set index { resource := some resource, phase := next }) other m ↔
        Brings source tasks other m := by
    rw [brings_set here]
    split
    · rename_i itself
      subst itself
      rw [same]
      constructor
      · rintro ⟨delivered, found⟩
        exact ⟨resource, phase, here, delivered, found⟩
      · rintro ⟨owner, earlier, there, delivered, found⟩
        rw [here] at there
        cases there
        exact ⟨delivered, found⟩
    · exact .rfl
  refine ⟨books.owners_set here,
    books.fits_set here fits (.inl rfl) fun other m => (brings other m).mpr, ?_, ?_⟩
  · intro one other m twin left right
    exact books.once ((brings one m).mp left) ((brings other twin).mp right)
  · intro name m
    rw [books.filed]
    exact exists_congr fun other => and_congr_left fun _ => (brings other m).symm

/-- A task that registers its module. -/
theorem registered (books : Delivering source excuse resources roster tasks)
    (here : tasks[index]? = some { resource := some resource, phase })
    (idle : phase.hasDelivered = false) {m : Module M} (found : source resource = some m)
    (success : roster.register m = .ok later) (delivered : next.hasDelivered = true)
    (fits : Fits source excuse later tasks index resource next) :
    Delivering source excuse resources later
      (tasks.set index { resource := some resource, phase := next }) := by
  have apart {other : Nat} {twin : Module M} (brought : Brings source tasks other twin) :
      other ≠ index := by
    rintro rfl
    obtain ⟨owner, earlier, there, delivered, -⟩ := brought
    rw [here] at there
    cases there
    rw [idle] at delivered
    cases delivered
  have brings (other : Nat) (twin : Module M) :
      Brings source (tasks.set index { resource := some resource, phase := next }) other twin ↔
        (other = index ∧ m = twin) ∨ Brings source tasks other twin := by
    rw [brings_set here, found, delivered]
    split
    · rename_i itself
      constructor
      · rintro ⟨-, same⟩
        exact .inl ⟨itself, Option.some.inj same⟩
      · rintro (⟨-, rfl⟩ | brought)
        · exact ⟨rfl, rfl⟩
        · exact absurd itself (apart brought)
    · rename_i different
      simp [different]
  have more (other : Nat) (twin : Module M) (brought : Brings source tasks other twin) :=
    (brings other twin).mpr (.inr brought)
  have grown : later = roster ∨ ∃ m, roster.register m = .ok later := .inr ⟨m, success⟩
  have absent : roster.modules.find? m.name = none := by
    unfold Roster.register at success
    split at success
    · cases success
    · rename_i unknown
      exact (Table.contains_eq_false_iff _ _).mp (Bool.eq_false_iff.mpr unknown)
  have modules : later.modules = roster.modules.insert m.name m := by
    unfold Roster.register at success
    split at success <;> cases success
    rfl
  -- no module of this name was there before
  have different {other : Nat} {twin : Module M} (brought : Brings source tasks other twin) :
      twin.name ≠ m.name := by
    intro same
    rw [books.filed.mpr ⟨other, brought, same⟩] at absent
    cases absent
  refine ⟨books.owners_set here, books.fits_set here fits grown more, ?_, ?_⟩
  · intro one other left right first second same
    rcases (brings one left).mp first with ⟨here, whole⟩ | earlier <;>
      rcases (brings other right).mp second with ⟨there, whole'⟩ | earlier'
    · exact here.trans there.symm
    · exact absurd (same.symm.trans (congrArg Module.name whole.symm)) (different earlier')
    · exact absurd (same.trans (congrArg Module.name whole'.symm)) (different earlier)
    · exact books.once earlier earlier' same
  · intro name twin
    rw [modules, Table.find?_insert]
    split
    · rename_i same
      constructor
      · intro equal
        cases equal
        exact ⟨index, (brings _ _).mpr (.inl ⟨rfl, rfl⟩), same.symm⟩
      · rintro ⟨other, brought, named⟩
        rcases (brings _ _).mp brought with ⟨-, rfl⟩ | earlier
        · rfl
        · exact absurd (named.trans same) (different earlier)
    · rename_i other
      rw [books.filed]
      constructor
      · rintro ⟨place, brought, named⟩
        exact ⟨place, more _ _ brought, named⟩
      · rintro ⟨place, brought, named⟩
        rcases (brings _ _).mp brought with ⟨-, rfl⟩ | earlier
        · exact absurd named.symm other
        · exact ⟨place, earlier, named⟩

end Delivering
end

/-! ## Turns -/

namespace Intake
variable {source : Resource → Option (Module M)} {excuse : Resource → Failure}
  {resources : List Resource} {roster : Roster M} {intake : Intake M} {index : Nat}
  {resource : Resource} {phase : Phase M}

theorem setPhase_eq (here : intake.tasks[index]? = some { resource := some resource, phase })
    (next : Phase M) :
    intake.setPhase index next =
      { intake with
        tasks := intake.tasks.set index { resource := some resource, phase := next } } := by
  unfold setPhase
  rw [here]

variable (excuse) in
/-- What a task whose load has succeeded looks for is there, or it waits for the next module. -/
theorem await_eq (here : intake.tasks[index]? = some { resource := some resource, phase })
    (known : (source resource).isSome = true) (roster : Roster M) :
    ∃ next, (intake.await index (some resource) roster).tasks =
        intake.tasks.set index { resource := some resource, phase := next } ∧
      next.hasDelivered = true ∧ next.isReady = false ∧ next.isWoken roster = false ∧
      Fits source excuse roster intake.tasks index resource next := by
  unfold Intake.await
  dsimp only [Option.bind_some]
  unfold Roster.await
  split
  · rename_i waiter missing
    split at missing
    · cases missing
    · rename_i absent
      cases missing
      have quiet : Waiter.isWoken { name := resource.name, seen := roster.generation } roster =
          false := by
        unfold Waiter.isWoken
        simp
      refine ⟨.awaiting { name := resource.name, seen := roster.generation },
        by rw [setPhase_eq here], rfl, rfl, quiet, known, rfl, Nat.le_refl _, fun _ => ?_⟩
      exact Bool.eq_false_iff.mpr absent
  · rename_i found
    split at found
    · rename_i present
      exact ⟨.ended (.ok ()), by rw [conclude, setPhase_eq here], rfl, rfl, rfl, known, present⟩
    · cases found

/-- One turn of a task that has something to do. Only its first turn may register a module. -/
theorem turn_delivering (books : Delivering source excuse resources roster intake.tasks)
    (here : intake.tasks[index]? = some { resource := some resource, phase })
    (active : phase.isReady = true ∨ phase.isWoken roster = true) :
    ∃ next, (intake.turn index roster).2.tasks =
        intake.tasks.set index { resource := some resource, phase := next } ∧
      Delivering source excuse resources (intake.turn index roster).1
        (intake.turn index roster).2.tasks ∧
      next.isReady = false ∧ next.isWoken (intake.turn index roster).1 = false ∧
      (phase.isReady = false → (intake.turn index roster).1 = roster) := by
  have fits := books.fits here
  unfold turn
  rw [here]
  cases phase with
  | asleep | died => cases fits
  | ended result => rcases active with impossible | impossible <;> cases impossible
  | awaiting waiter =>
    have woken : waiter.isWoken roster = true := active.resolve_left fun impossible => by
      cases impossible
    dsimp only
    rw [if_pos woken]
    obtain ⟨next, tasks, delivered, begun, quiet, fits'⟩ := await_eq excuse here fits.1 roster
    refine ⟨next, tasks, ?_, begun, quiet, fun _ => rfl⟩
    rw [tasks]
    exact books.kept here delivered fits'
  | ready ticket load =>
    have written : load = delivering source excuse resource := fits
    subst written
    -- a load that fails has not registered anything
    have failed (failure : Failure)
        (reason : ∀ m, source resource = some m → roster.contains m.name = true) :
        Delivering source excuse resources roster
          (intake.conclude index (some resource) (.error failure)).tasks := by
      show Delivering source excuse resources roster
        (intake.setPhase index (.ended (.error failure))).tasks
      rw [setPhase_eq here]
      refine books.kept here rfl fun m found => ?_
      have present := reason m found
      rw [Roster.contains, Table.contains_eq_isSome, Option.isSome_iff_exists] at present
      obtain ⟨twin, filed⟩ := present
      obtain ⟨other, brought, named⟩ := books.filed.mp filed
      refine ⟨other, twin, ?_, brought, named⟩
      rintro rfl
      obtain ⟨owner, earlier, there, delivered, -⟩ := brought
      rw [here] at there
      cases there
      cases delivered
    dsimp only
    unfold delivering
    cases found : source resource with
    | none =>
      refine ⟨.ended (.error (reported (some resource) (excuse resource))), ?_, failed _ ?_, rfl,
        rfl, fun begun => by cases begun⟩
      · show (intake.setPhase index _).tasks = _
        rw [setPhase_eq here]
      · intro m impossible
        rw [found] at impossible
        cases impossible
    | some m =>
      dsimp only
      unfold runTask
      cases registered : roster.register m with
      | error failure =>
        refine ⟨.ended (.error (reported (some resource) failure)), ?_, failed _ ?_, rfl, rfl,
          fun begun => by cases begun⟩
        · show (intake.setPhase index _).tasks = _
          rw [setPhase_eq here]
        · intro twin same
          rw [found] at same
          cases same
          unfold Roster.register at registered
          split at registered
          · assumption
          · cases registered
      | ok later =>
        have known : (source resource).isSome = true := by
          rw [found]
          rfl
        obtain ⟨next, tasks, delivered, begun, quiet, fits'⟩ := await_eq excuse here known later
        refine ⟨next, tasks, ?_, begun, quiet, fun begun => by cases begun⟩
        show Delivering source excuse resources later
          (intake.await index (some resource) later).tasks
        rw [tasks]
        exact books.registered here rfl found registered delivered fits'

/-! ## Until nobody has anything to do -/

/-- Nobody sleeps, so nobody is waited for. -/
theorem sleepers_eq_nil (books : Delivering source excuse resources roster intake.tasks) :
    intake.sleepers = [] := by
  refine List.filterMap_eq_nil_iff.mpr ?_
  rintro ⟨⟨owner, phase⟩, index⟩ member
  have found := List.mk_mem_zipIdx_iff_getElem?.mp member
  cases phase with
  | asleep due ticket load =>
    have listed : owner ∈ intake.tasks.map Task.resource :=
      List.mem_map.mpr ⟨_, List.mem_of_getElem? found, rfl⟩
    rw [books.owners] at listed
    obtain ⟨resource, -, rfl⟩ := List.mem_map.mp listed
    cases books.fits found
  | _ => rfl

theorem firstReady?_eq_none (idle : intake.firstReady? = none) :
    intake.tasks.countP (fun task => task.phase.isReady) = 0 := by
  rw [List.countP_eq_zero]
  intro task member ready
  obtain ⟨index, here⟩ := List.mem_iff_getElem?.mp member
  unfold firstReady? at idle
  rw [Option.map_eq_none_iff, List.head?_eq_none_iff] at idle
  have nobody := List.nil_perm.mp (idle ▸ List.mergeSort_perm _ _)
  have chosen := List.filterMap_eq_nil_iff.mp nobody _ (List.mk_mem_zipIdx_iff_getElem?.mpr here)
  obtain ⟨owner, phase⟩ := task
  cases phase with
  | ready ticket load => cases chosen
  | _ => cases ready

theorem firstReady?_eq_some (found : intake.firstReady? = some index) :
    ∃ task, intake.tasks[index]? = some task ∧ task.phase.isReady = true := by
  unfold firstReady? at found
  obtain ⟨⟨ticket, place⟩, first, rfl⟩ := Option.map_eq_some_iff.mp found
  have listed := List.mem_of_mem_head? first
  rw [List.mem_mergeSort] at listed
  obtain ⟨⟨⟨owner, phase⟩, index⟩, member, chosen⟩ := List.mem_filterMap.mp listed
  have here := List.mk_mem_zipIdx_iff_getElem?.mp member
  cases phase with
  | ready ticket load =>
    cases chosen
    exact ⟨_, here, rfl⟩
  | _ => cases chosen

/-- How many turns are left at most: one for each task that has not begun, and then one for each
task that waits. -/
def turnsLeft (roster : Roster M) (intake : Intake M) : Nat :=
  let ready := intake.tasks.countP fun task => task.phase.isReady
  ready + if ready = 0 then intake.tasks.countP fun task => task.phase.isWoken roster
    else intake.tasks.length

theorem turnsLeft_le (roster : Roster M) (intake : Intake M) :
    turnsLeft roster intake ≤ 2 * intake.tasks.length := by
  have begun : intake.tasks.countP (fun task => task.phase.isReady) ≤ intake.tasks.length :=
    List.countP_le_length
  have woken : intake.tasks.countP (fun task => task.phase.isWoken roster) ≤
      intake.tasks.length := List.countP_le_length
  unfold turnsLeft
  dsimp only
  split <;> omega

/-- A turn that has something to do uses up one of those that are left. -/
theorem turn_turnsLeft (books : Delivering source excuse resources roster intake.tasks)
    {task : Task M} (here : intake.tasks[index]? = some task)
    (active : task.phase.isReady = true ∨
      (intake.tasks.countP (fun task => task.phase.isReady) = 0 ∧
        task.phase.isWoken roster = true)) :
    Delivering source excuse resources (intake.turn index roster).1
        (intake.turn index roster).2.tasks ∧
      turnsLeft (intake.turn index roster).1 (intake.turn index roster).2 <
        turnsLeft roster intake := by
  obtain ⟨owner, phase⟩ := task
  obtain ⟨bound, found⟩ := List.getElem?_eq_some_iff.mp here
  obtain ⟨resource, rfl⟩ : ∃ resource, owner = some resource := by
    have listed : owner ∈ intake.tasks.map Task.resource :=
      List.mem_map.mpr ⟨_, List.mem_of_getElem? here, rfl⟩
    rw [books.owners] at listed
    obtain ⟨resource, -, rfl⟩ := List.mem_map.mp listed
    exact ⟨resource, rfl⟩
  obtain ⟨next, tasks, books', begun, quiet, same⟩ :=
    turn_delivering books here (active.imp_right And.right)
  refine ⟨books', ?_⟩
  unfold turnsLeft
  rw [tasks, List.countP_set bound, List.countP_set bound, List.length_set, found]
  simp only [begun, quiet, Bool.false_eq_true, if_false, Nat.add_zero]
  rcases active with ready | ⟨all, woken⟩
  · have counted : 0 < intake.tasks.countP fun task => task.phase.isReady :=
      List.countP_pos_iff.mpr ⟨_, List.mem_of_getElem? here, ready⟩
    have most : intake.tasks.countP (fun task => task.phase.isWoken (intake.turn index roster).1) ≤
        intake.tasks.length := List.countP_le_length
    rw [if_neg (Nat.ne_of_gt counted)]
    simp only [ready, if_true]
    split <;> omega
  · have counted : 0 < intake.tasks.countP fun task => task.phase.isWoken roster :=
      List.countP_pos_iff.mpr ⟨_, List.mem_of_getElem? here, woken⟩
    have waiting : phase.isReady = false := by
      cases phase <;> first | rfl | cases woken
    rw [all, same waiting]
    simp only [waiting, woken, Bool.false_eq_true, if_false, if_true, Nat.sub_zero]
    omega

/-- With enough turns, everything comes to rest: every load has failed, has succeeded, or waits
for a module that nobody brings. -/
theorem settle_delivering (books : Delivering source excuse resources roster intake.tasks)
    {turns : Nat} (enough : turnsLeft roster intake ≤ turns) :
    Delivering source excuse resources (intake.settle turns roster).1
        (intake.settle turns roster).2.tasks ∧
      turnsLeft (intake.settle turns roster).1 (intake.settle turns roster).2 = 0 := by
  induction turns generalizing roster intake with
  | zero => exact ⟨books, Nat.le_zero.mp enough⟩
  | succ turns ih =>
    unfold settle
    split
    · rename_i index first
      obtain ⟨task, here, ready⟩ := firstReady?_eq_some first
      obtain ⟨books', fewer⟩ := turn_turnsLeft books here (.inl ready)
      exact ih books' (Nat.le_of_lt_succ (Nat.lt_of_lt_of_le fewer enough))
    · rename_i idle
      have begun := firstReady?_eq_none idle
      have punctual : intake.isDue = false := by
        unfold isDue
        rw [sleepers_eq_nil books]
        rfl
      rw [punctual]
      simp only [Bool.false_eq_true, if_false]
      split
      · rename_i index first
        obtain ⟨bound, woken, -⟩ := List.findIdx?_eq_some_iff_getElem.mp first
        obtain ⟨books', fewer⟩ := turn_turnsLeft books (List.getElem?_eq_getElem bound)
          (.inr ⟨begun, woken⟩)
        exact ih books' (Nat.le_of_lt_succ (Nat.lt_of_lt_of_le fewer enough))
      · rename_i nobody
        refine ⟨books, ?_⟩
        have quiet : intake.tasks.countP (fun task => task.phase.isWoken roster) = 0 := by
          rw [List.countP_eq_zero]
          intro task member
          exact Bool.eq_false_iff.mp (List.findIdx?_eq_none_iff.mp nobody task member)
        show turnsLeft roster intake = 0
        unfold turnsLeft
        dsimp only
        rw [begun, if_pos rfl, quiet]

end Intake
end PageSession.Assembly
