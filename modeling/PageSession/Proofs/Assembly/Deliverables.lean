import PageSession.Proofs.Assembly.Deliveries

/-!
The verdict of a startup whose loads deliver one module each. Whatever time it gives them, the
startup has waited with success exactly when all the resources that it loads can be delivered
together, and the roster then holds their modules and no others.
-/
namespace PageSession.Assembly
open Page

variable {M : Type}

/-- The resources that a page loads: those that it admits, and of each name the first. -/
def selection (page : Context) (resources : List Resource) : List Resource :=
  (resources.filter fun resource => resource.admitted page).eraseDupsBy fun a b => a.name == b.name

/-! ## At rest -/

section
variable {source : Resource → Option (Module M)} {excuse : Resource → Failure}
  {resources : List Resource} {roster : Roster M} {intake : Intake M}

namespace Intake

/-- Success is known exactly of a load that has ended with it. -/
theorem outcome?_eq_ok_iff {index : Nat} {resource : Resource} {phase : Phase M}
    (here : intake.tasks[index]? = some { resource := some resource, phase }) :
    intake.outcome? index = some (.ok ()) ↔ phase = .ended (.ok ()) := by
  unfold outcome?
  rw [here]
  cases phase <;> simp

/-- At rest no task is at its beginning, and none has anything new to look at. -/
theorem at_rest (rest : turnsLeft roster intake = 0) {task : Task M}
    (member : task ∈ intake.tasks) :
    task.phase.isReady = false ∧ task.phase.isWoken roster = false := by
  unfold turnsLeft at rest
  dsimp only at rest
  obtain ⟨begun, others⟩ := Nat.add_eq_zero_iff.mp rest
  rw [begun, if_pos rfl] at others
  rw [List.countP_eq_zero] at begun others
  exact ⟨Bool.eq_false_iff.mpr (begun task member), Bool.eq_false_iff.mpr (others task member)⟩

end Intake

namespace Delivering

/-- When all can be delivered, no load fails. -/
theorem has_delivered (books : Delivering source excuse resources roster intake.tasks)
    (rest : Intake.turnsLeft roster intake = 0) (all : Deliverable source resources)
    {index : Nat} {resource : Resource} {phase : Phase M}
    (here : intake.tasks[index]? = some { resource := some resource, phase }) :
    phase.hasDelivered = true := by
  have fits := books.fits here
  obtain ⟨begun, -⟩ := Intake.at_rest rest (List.mem_of_getElem? here)
  cases phase with
  | ready => cases begun
  | asleep | died => cases fits
  | awaiting => rfl
  | ended result =>
    cases result with
    | ok => rfl
    | error failure =>
      have known := all.known resource (List.mem_of_getElem? (books.resource_at here))
      obtain ⟨m, found⟩ := Option.isSome_iff_exists.mp known
      obtain ⟨other, twin, different, ⟨owner, earlier, there, -, found'⟩, named⟩ := fits m found
      refine absurd ((List.getElem?_inj ?_ all.apart).mp ?_) different
      · rw [List.length_map]
        exact (List.getElem?_eq_some_iff.mp (books.resource_at there)).1
      · rw [List.getElem?_map, List.getElem?_map, books.resource_at here, books.resource_at there,
          Option.map_some, Option.map_some, found, found', Option.map_some, Option.map_some, named]

/-- At rest all loads have ended with success exactly when all can be delivered. -/
theorem all_ended_iff (books : Delivering source excuse resources roster intake.tasks)
    (rest : Intake.turnsLeft roster intake = 0) :
    (∀ index < resources.length, intake.outcome? index = some (.ok ())) ↔
      Deliverable source resources := by
  constructor
  · intro ended
    have ended_at {index : Nat} {resource : Resource} (listed : resources[index]? = some resource) :
        intake.tasks[index]? = some { resource := some resource, phase := .ended (.ok ()) } := by
      obtain ⟨phase, here⟩ := books.exists_task listed
      have success := ended index (List.getElem?_eq_some_iff.mp listed).1
      rw [Intake.outcome?_eq_ok_iff here] at success
      rw [here, success]
    have brings {index : Nat} {resource : Resource} (listed : resources[index]? = some resource) :
        ∃ m, source resource = some m ∧ Brings source intake.tasks index m := by
      have here := ended_at listed
      obtain ⟨m, found⟩ := Option.isSome_iff_exists.mp (books.fits here).1
      exact ⟨m, found, resource, _, here, rfl, found⟩
    refine ⟨?_, ?_, ?_⟩
    · intro resource member
      obtain ⟨index, listed⟩ := List.mem_iff_getElem?.mp member
      obtain ⟨m, found, -⟩ := brings listed
      rw [found]
      rfl
    · rw [List.nodup_iff_getElem?_ne_getElem?]
      intro index other before bound same
      rw [List.length_map] at bound
      obtain ⟨m, found, brought⟩ := brings (List.getElem?_eq_getElem (Nat.lt_trans before bound))
      obtain ⟨twin, found', brought'⟩ := brings (List.getElem?_eq_getElem bound)
      rw [List.getElem?_map, List.getElem?_map, List.getElem?_eq_getElem bound,
        List.getElem?_eq_getElem (Nat.lt_trans before bound), Option.map_some, Option.map_some,
        found, found', Option.map_some, Option.map_some] at same
      have alike := books.once brought brought' (Option.some.inj (Option.some.inj same))
      omega
    · intro resource member
      obtain ⟨index, listed⟩ := List.mem_iff_getElem?.mp member
      have present := (books.fits (ended_at listed)).2
      rw [Roster.contains, Table.contains_eq_isSome, Option.isSome_iff_exists] at present
      obtain ⟨m, filed⟩ := present
      obtain ⟨other, ⟨owner, phase, there, -, found⟩, named⟩ := books.filed.mp filed
      exact ⟨owner, List.mem_of_getElem? (books.resource_at there), by
        rw [found, Option.map_some, named]⟩
  · intro all index bound
    obtain ⟨phase, here⟩ := books.exists_task (List.getElem?_eq_getElem bound)
    rw [Intake.outcome?_eq_ok_iff here]
    have delivered := books.has_delivered rest all here
    obtain ⟨-, quiet⟩ := Intake.at_rest rest (List.mem_of_getElem? here)
    cases phase with
    | ready | asleep | died => cases delivered
    | ended result =>
      cases result with
      | ok => rfl
      | error => cases delivered
    | awaiting waiter =>
      -- some task has brought the module that this one waits for
      have absent := (books.fits here).2.2.2 quiet
      obtain ⟨other, member, named⟩ := all.named _ (List.mem_of_getElem? (books.resource_at here))
      obtain ⟨m, found, same⟩ := Option.map_eq_some_iff.mp named
      obtain ⟨place, listed⟩ := List.mem_iff_getElem?.mp member
      obtain ⟨later, there⟩ := books.exists_task listed
      have filed := books.filed.mpr
        ⟨place, ⟨other, later, there, books.has_delivered rest all there, found⟩, same⟩
      rw [Roster.contains, Table.contains_eq_false_iff, filed] at absent
      cases absent

/-- When all loads have ended with success, the roster holds what the resources bring. -/
theorem modules_of_ended (books : Delivering source excuse resources roster intake.tasks)
    (ended : ∀ index < resources.length, intake.outcome? index = some (.ok ())) {name : String}
    {m : Module M} :
    roster.modules.find? name = some m ↔
      ∃ resource ∈ resources, source resource = some m ∧ m.name = name := by
  rw [books.filed]
  constructor
  · rintro ⟨index, ⟨resource, phase, here, -, found⟩, named⟩
    exact ⟨resource, List.mem_of_getElem? (books.resource_at here), found, named⟩
  · rintro ⟨resource, member, found, named⟩
    obtain ⟨index, listed⟩ := List.mem_iff_getElem?.mp member
    obtain ⟨phase, here⟩ := books.exists_task listed
    have success := ended index (List.getElem?_eq_some_iff.mp listed).1
    rw [Intake.outcome?_eq_ok_iff here] at success
    subst success
    exact ⟨index, ⟨resource, _, here, rfl, found⟩, named⟩

end Delivering
end

/-! ## Injection -/

namespace Intake

def AllBegin (loader : Loader M) (intake : Intake M) : Prop :=
  ∀ task ∈ intake.tasks, ∃ resource ticket,
    task = { resource := some resource, phase := .ready ticket (loader resource) }

/-- Nothing is known of loads that are at their beginning. -/
theorem outcome?_eq_none {loader : Loader M} {intake : Intake M} (begin : intake.AllBegin loader)
    (index : Nat) : intake.outcome? index = none := by
  unfold outcome?
  cases here : intake.tasks[index]? with
  | none => rfl
  | some task =>
    obtain ⟨resource, ticket, rfl⟩ := begin task (List.mem_of_getElem? here)
    rfl

def wants (intake : Intake M) (page : Context) (resource : Resource) : Bool :=
  resource.admitted page && !intake.tracked.contains resource.name

theorem wants_injectOne (intake : Intake M) (page : Context) (resource other : Resource)
    (load : Load M) :
    (intake.injectOne resource load).wants page other =
      (!(other.name == resource.name) && intake.wants page other) := by
  unfold wants
  rw [contains_injectOne, Bool.not_or, Bool.and_left_comm]

/-- Injection adds a task for each resource that is wanted, of each name the first. -/
theorem inject_adds (loader : Loader M) (page : Context) (resources : List Resource)
    {intake : Intake M} (begin : intake.AllBegin loader)
    (claims : intake.unclaimed = List.range intake.tasks.length) :
    let after := (inject loader page resources intake).2
    after.AllBegin loader ∧ after.unclaimed = List.range after.tasks.length ∧
      after.tasks.length ≤ intake.tasks.length + resources.length ∧
      after.tasks.map Task.resource = intake.tasks.map Task.resource ++
        ((resources.filter (intake.wants page)).eraseDupsBy fun a b => a.name == b.name).map
          some := by
  induction resources generalizing intake with
  | nil => exact ⟨begin, claims, Nat.le_refl _, (List.append_nil _).symm⟩
  | cons resource rest ih =>
    unfold inject
    split
    · rename_i passed
      have skipped : ¬ intake.wants page resource = true := by
        unfold wants
        revert passed
        cases resource.admitted page <;> cases intake.tracked.contains resource.name <;> decide
      obtain ⟨begin', claims', few, owners⟩ := ih begin claims
      refine ⟨begin', claims', Nat.le_succ_of_le few, ?_⟩
      rw [List.filter_cons_of_neg skipped]
      exact owners
    · rename_i taken
      have chosen : intake.wants page resource = true := by
        unfold wants
        revert taken
        cases resource.admitted page <;> cases intake.tracked.contains resource.name <;> decide
      have counted : (intake.injectOne resource (loader resource)).tasks.length =
          intake.tasks.length + 1 := List.length_append
      have begun : (intake.injectOne resource (loader resource)).AllBegin loader :=
        fun task member => (List.mem_append.mp member).elim (begin task) fun last =>
          ⟨resource, intake.tickets, List.mem_singleton.mp last⟩
      have claimed : (intake.injectOne resource (loader resource)).unclaimed =
          List.range (intake.injectOne resource (loader resource)).tasks.length := by
        show intake.unclaimed ++ [intake.tasks.length] = _
        rw [counted, claims, List.range_succ]
      obtain ⟨begin', claims', few, owners⟩ := ih begun claimed
      refine ⟨begin', claims', ?_, owners.trans ?_⟩
      · rw [counted] at few
        rw [List.length_cons]
        exact Nat.le_trans few (by omega)
      · have before : (intake.injectOne resource (loader resource)).tasks.map Task.resource =
            intake.tasks.map Task.resource ++ [some resource] := List.map_append
        rw [before, List.append_assoc, List.singleton_append, List.filter_cons_of_pos chosen,
          List.eraseDupsBy_cons, List.filter_filter, List.map_cons]
        congr 4
        refine List.filter_congr fun other _ => ?_
        rw [wants_injectOne]
        cases other.name == resource.name <;> rfl

/-- The intake of what a page loads is at its beginning. -/
theorem inject_delivering (source : Resource → Option (Module M)) (excuse : Resource → Failure)
    (page : Context) (resources : List Resource) :
    let intake := (inject (delivering source excuse) page resources {}).2
    Delivering source excuse (selection page resources) {} intake.tasks ∧
      intake.AllBegin (delivering source excuse) ∧
      intake.unclaimed = List.range (selection page resources).length ∧
      intake.tasks.length ≤ resources.length := by
  have none : ({} : Intake M).AllBegin (delivering source excuse) :=
    fun _ listed => by cases listed
  obtain ⟨begin, claims, few, owners⟩ :=
    inject_adds (delivering source excuse) page resources none rfl
  have wanted : ({} : Intake M).wants page = fun resource => resource.admitted page :=
    funext fun _ => Bool.and_true _
  rw [wanted] at owners
  have counted := congrArg List.length owners
  simp only [List.length_map, List.length_append, List.length_nil, Nat.zero_add] at counted
  intro intake
  have idle {index : Nat} {m : Module M} : ¬ Brings source intake.tasks index m := by
    rintro ⟨resource, phase, here, delivered, -⟩
    obtain ⟨owner, ticket, same⟩ := begin _ (List.mem_of_getElem? here)
    cases same
    cases delivered
  refine ⟨⟨owners, ?_, ?_, ?_⟩, begin, ?_, ?_⟩
  · intro index resource phase here
    obtain ⟨owner, ticket, same⟩ := begin _ (List.mem_of_getElem? here)
    cases same
    rfl
  · intro index other m twin brought
    exact absurd brought idle
  · intro name m
    constructor
    · intro impossible
      cases impossible
    · rintro ⟨index, brought, -⟩
      exact absurd brought idle
  · rw [claims, counted]
    rfl
  · exact Nat.le_trans few (Nat.le_of_eq (Nat.zero_add _))

end Intake

/-! ## The wait -/

theorem gather_eq_ok_iff (outcomes : List (Option (Except Failure Unit))) :
    gather outcomes = some (.ok ()) ↔ ∀ outcome ∈ outcomes, outcome = some (.ok ()) := by
  refine ⟨gather_eq_ok, fun all => ?_⟩
  have both : firstFailure outcomes = some (.ok ()) ∧ inTurn outcomes = some (.ok ()) := by
    induction outcomes with
    | nil => exact ⟨rfl, rfl⟩
    | cons outcome rest ih =>
      rw [List.forall_mem_cons] at all
      obtain ⟨rfl, others⟩ := all
      exact ih others
  unfold gather
  split
  · exact both.1
  · exact both.2

/-- While nothing is known of any load there is no answer. -/
theorem gather_eq_none {outcomes : List (Option (Except Failure Unit))}
    (unknown : ∀ outcome ∈ outcomes, outcome = none) (some_load : outcomes ≠ []) :
    gather outcomes = none := by
  have both : firstFailure outcomes = none ∧ inTurn outcomes = none := by
    induction outcomes with
    | nil => exact absurd rfl some_load
    | cons outcome rest ih =>
      rw [List.forall_mem_cons] at unknown
      obtain ⟨rfl, others⟩ := unknown
      refine ⟨?_, rfl⟩
      unfold firstFailure
      cases rest with
      | nil => rfl
      | cons next rest => rw [(ih others (List.cons_ne_nil next rest)).1]
  unfold gather
  split
  · exact both.1
  · exact both.2

namespace Startup
variable {S : Type}

/-- Whoever asks about tasks that never sleep has the answer at once, after one settlement, or
never. -/
theorem waitUntil_idle {α : Type} {ask : Startup M S → Option α} {turns deadline : Nat}
    {startup : Startup M S} (early : startup.intake.now < deadline)
    (timeless : ∀ (startup : Startup M S) (now : Nat),
      ask { startup with intake := { startup.intake with now } } = ask startup)
    (idle : (startup.settle turns).intake.sleepers = []) :
    ((startup.waitUntil ask turns deadline).1, (startup.waitUntil ask turns deadline).2.workshop) =
      match ask startup with
      | some answer => (some answer, startup.workshop)
      | none => (ask (startup.settle turns), (startup.settle turns).workshop) := by
  unfold waitUntil
  cases known : ask startup with
  | some answer => rfl
  | none =>
    dsimp only
    rw [if_neg (Nat.not_le.mpr early)]
    cases later : ask (startup.settle turns) with
    | some answer => rfl
    | none =>
      have unending : (startup.settle turns).intake.nextDue? = none := by
        unfold Intake.nextDue?
        rw [idle]
        rfl
      dsimp only
      unfold waitUntil
      rw [timeless, later]
      dsimp only
      rw [unending, if_pos]
      show deadline ≤ max (min deadline deadline) (startup.intake.now + 1)
      rw [Nat.min_self]
      exact Nat.le_max_left _ _

/-- What a startup that waits for its loads asks: what came of those it has claimed. -/
def verdict? (startup later : Startup M S) : Option (Except Failure Unit) :=
  gather (startup.intake.unclaimed.map later.intake.outcome?)

theorem waitForLoads_eq (turns : Nat) (startup : Startup M S) :
    let waited := startup.claim.waitUntil startup.verdict? turns
      (startup.intake.now + startup.settings.timeoutMs)
    ((startup.waitForLoads turns).1 = .ok () ↔ waited.1 = some (.ok ())) ∧
      (startup.waitForLoads turns).2 = waited.2 := by
  intro waited
  unfold waitForLoads
  dsimp only
  split
  · rename_i result after ended
    change waited = _ at ended
    rw [ended]
    exact ⟨⟨congrArg some, Option.some.inj⟩, rfl⟩
  · rename_i after ended
    change waited = _ at ended
    rw [ended]
    refine ⟨⟨?_, ?_⟩, rfl⟩ <;> (intro impossible; cases impossible)

/-- A startup that gives its loads any time at all waits with success exactly when all that it loads
can be delivered together, and then the roster holds what was brought. -/
theorem waitForLoads_delivering {source : Resource → Option (Module M)}
    {excuse : Resource → Failure} {page : Context} {resources : List Resource}
    {startup : Startup M S}
    (fresh : startup.intake = (Intake.inject (delivering source excuse) page resources {}).2)
    (empty : startup.workshop.roster = {}) (prompt : 1 ≤ startup.settings.timeoutMs)
    {turns : Nat} (enough : 2 * resources.length ≤ turns) :
    ((startup.waitForLoads turns).1 = .ok () ↔ Deliverable source (selection page resources)) ∧
      ∃ roster, (startup.waitForLoads turns).2.workshop = { startup.workshop with roster } ∧
        ((startup.waitForLoads turns).1 = .ok () → ∀ {name m},
          roster.modules.find? name = some m ↔ ∃ resource ∈ selection page resources,
            source resource = some m ∧ m.name = name) := by
  obtain ⟨books, begin, claims, few⟩ := Intake.inject_delivering source excuse page resources
  rw [← fresh] at books begin claims few
  change Delivering source excuse _ _ startup.claim.intake.tasks at books
  have within : Intake.turnsLeft {} startup.claim.intake ≤ turns :=
    Nat.le_trans (Intake.turnsLeft_le _ _) (Nat.le_trans (Nat.mul_le_mul_left 2 few) enough)
  obtain ⟨books', rest⟩ := Intake.settle_delivering books within
  have settled : startup.verdict? (startup.claim.settle turns) = some (.ok ()) ↔
      ∀ index < (selection page resources).length,
        (startup.claim.intake.settle turns {}).2.outcome? index = some (.ok ()) := by
    unfold verdict?
    rw [gather_eq_ok_iff, claims, List.forall_mem_map, ← empty]
    exact forall_congr' fun index => imp_congr_left List.mem_range
  obtain ⟨succeeded, after⟩ := waitForLoads_eq turns startup
  have early : startup.claim.intake.now < startup.intake.now + startup.settings.timeoutMs :=
    Nat.lt_add_of_pos_right prompt
  have timeless (later : Startup M S) (now : Nat) :
      startup.verdict? { later with intake := { later.intake with now } } =
        startup.verdict? later := rfl
  have idle : (startup.claim.settle turns).intake.sleepers = [] := by
    show (startup.claim.intake.settle turns startup.workshop.roster).2.sleepers = []
    rw [empty]
    exact Intake.sleepers_eq_nil books'
  have waited := waitUntil_idle early timeless idle
  rw [succeeded, after]
  cases known : startup.verdict? startup.claim with
  | some answer =>
    -- an answer before any task has worked is one about no tasks
    have nothing : selection page resources = [] := by
      by_contra something
      have unknown : startup.verdict? startup.claim = none := by
        refine gather_eq_none ?_ ?_
        · rw [List.forall_mem_map]
          have begun : startup.claim.intake.AllBegin (delivering source excuse) := begin
          exact fun index _ => Intake.outcome?_eq_none begun index
        · rw [claims]
          simpa using something
      rw [unknown] at known
      cases known
    have answered : answer = .ok () := by
      unfold verdict? at known
      rw [claims, nothing] at known
      exact (Option.some.inj known).symm
    rw [known, answered] at waited
    obtain ⟨first, second⟩ := Prod.mk.inj waited
    rw [first, second, nothing]
    refine ⟨⟨fun _ => ⟨?_, List.nodup_nil, ?_⟩, fun _ => rfl⟩, startup.workshop.roster, rfl, ?_⟩
    · exact List.forall_mem_nil _
    · exact List.forall_mem_nil _
    · intro _ name m
      rw [empty]
      simp [Table.find?]
  | none =>
    rw [known] at waited
    obtain ⟨first, second⟩ := Prod.mk.inj waited
    rw [first, second, settled, books'.all_ended_iff rest]
    refine ⟨.rfl, (startup.claim.intake.settle turns startup.workshop.roster).1, rfl, ?_⟩
    intro all name m
    rw [empty]
    exact books'.modules_of_ended ((books'.all_ended_iff rest).mpr all)

/-- Past the deadline there is an answer at once or none at all. -/
theorem waitUntil_late {α : Type} {ask : Startup M S → Option α} {turns deadline : Nat}
    {startup : Startup M S} (late : deadline ≤ startup.intake.now) :
    startup.waitUntil ask turns deadline = (ask startup, startup) := by
  unfold waitUntil
  split
  · rename_i answer known
    rw [known]
  · rename_i unknown
    rw [if_pos late, unknown]

/-- Whatever time a startup gives its loads, the modules it has after a successful wait are those
that were brought. -/
theorem modules_of_waitForLoads {source : Resource → Option (Module M)}
    {excuse : Resource → Failure} {page : Context} {resources : List Resource}
    {startup : Startup M S}
    (fresh : startup.intake = (Intake.inject (delivering source excuse) page resources {}).2)
    (empty : startup.workshop.roster = {}) {turns : Nat} (enough : 2 * resources.length ≤ turns) :
    ∃ roster, (startup.waitForLoads turns).2.workshop = { startup.workshop with roster } ∧
      ((startup.waitForLoads turns).1 = .ok () → ∀ {name m}, roster.modules.find? name = some m →
        ∃ resource, source resource = some m ∧ m.name = name) := by
  rcases Nat.eq_zero_or_pos startup.settings.timeoutMs with hurried | prompt
  · have late : startup.intake.now + startup.settings.timeoutMs ≤ startup.claim.intake.now := by
      rw [hurried]
      exact Nat.le_refl _
    refine ⟨{}, ?_, fun _ _ _ found => by cases found⟩
    rw [(waitForLoads_eq turns startup).2, waitUntil_late late, ← empty]
    rfl
  · obtain ⟨-, roster, after, modules⟩ := waitForLoads_delivering fresh empty prompt enough
    refine ⟨roster, after, fun waited _ _ found => ?_⟩
    obtain ⟨resource, -, brought⟩ := (modules waited).mp found
    exact ⟨resource, brought⟩

end Startup
end PageSession.Assembly
