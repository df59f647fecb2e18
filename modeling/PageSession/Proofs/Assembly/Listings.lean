import PageSession.Proofs.Assembly.Cycles
import PageSession.Proofs.Assembly.Lobbies
import PageSession.Proofs.Assembly.PathMaps
import PageSession.Proofs.Assembly.Records

/-!
Lists of paths that are composed one after the other, when initializers compose nothing themselves.
Each composition attaches its path and touches nothing else, so the tree after the list is told from
the list alone: a path that is listed is there, unless it is a key whose area has been attached anew
behind it.
-/
namespace PageSession.Assembly
open Page

variable {M S : Type}

/-! ## Initializers that compose nothing -/

def Initializer.ComposesNothing : Initializer M S → Prop
  | .finish | .fail _ => True
  | .compose _ _ => False
  | .register _ next => ∀ result, (next result).ComposesNothing
  | .look next => ∀ view, (next view).ComposesNothing
  | .use _ next => ∀ services, (next services).ComposesNothing

def Behaviour.IsPlain (behave : Behaviour M S) : Prop :=
  ∀ object program, behave.initializer object = some program → program.ComposesNothing

/-- Names that are resolved are resolved in the same way. -/
def Roster.Extends (roster after : Roster M) : Prop :=
  ∀ name m, roster.resolve name = .ok m → after.resolve name = .ok m

theorem Roster.Extends.register {roster after : Roster M} {m : Module M}
    (success : roster.register m = .ok after) : roster.Extends after := by
  intro name other known
  rcases roster.register_cases m with ⟨free, filed⟩ | ⟨-, refused⟩
  · cases success.symm.trans filed
    rw [resolve_eq_ok_iff] at known ⊢
    have different : name ≠ m.name := by
      rintro rfl
      rw [contains, Table.contains_eq_isSome, known] at free
      cases free
    rw [Table.find?_insert, if_neg different]
    exact known
  · cases success.symm.trans refused

/-- The module of a path has been found, and the path attached, vacant if the guard of the module
rejects the page. -/
structure Placed (before : Workshop M S) (path : NodePath) (m : Module M)
    (object : Option (Object M)) (after : Workshop M S) : Prop where
  known : before.roster.resolve path.text = .ok m
  attached : before.tree.attach path object = .ok after.tree
  guarded : object = none ↔ m.guard.all (fun guard => guard.allows before.page) = false
  page : after.page = before.page
  roster : before.roster.Extends after.roster

theorem Placed.register {before after : Workshop M S} {path : NodePath} {m : Module M}
    {object : Option (Object M)} (placed : Placed before path m object after) (new : Module M) :
    Placed before path m object (after.register new).2 := by
  unfold Workshop.register
  split
  · rename_i registered
    exact ⟨placed.known, placed.attached, placed.guarded, placed.page,
      fun name m known =>
        Roster.Extends.register registered name m (placed.roster name m known)⟩
  · exact placed

namespace Composing

/-- How far a composition has come whose initializer composes nothing. -/
def StandsAlone (path : NodePath) (stack : List (Waiting M S)) (before : Workshop M S)
    (c : Composing M S) : Prop :=
  c.stack = stack ∧
    match c.control with
    | .compose other => other = path ∧ c.workshop = before
    | .run other _ program => other = path ∧ program.ComposesNothing ∧
        ∃ m object, Placed before path m (some object) c.workshop
    | .answer (.ok _) => ∃ m object, Placed before path m object c.workshop
    | .answer (.error _) => True

variable {behave : Behaviour M S} {path : NodePath} {stack : List (Waiting M S)}
  {before : Workshop M S}

/-- The first step of a composition places the path or refuses it. -/
theorem compose_standsAlone (plain : behave.IsPlain) :
    StandsAlone path stack before (compose behave path before stack) := by
  have first := begins behave path before stack
  generalize compose behave path before stack = c at first
  cases first with
  | refused refuses => exact ⟨rfl, trivial⟩
  | @vacant m tree free known shut attached =>
    exact ⟨rfl, m, none, known, attached, by simp [shut], rfl, fun _ _ known => known⟩
  | @plain m tree free known let_in attached idle =>
    exact ⟨rfl, m, _, known, attached, by simp [let_in], rfl, fun _ _ known => known⟩
  | @initializing m tree program free known let_in attached starts =>
    exact ⟨rfl, rfl, plain _ _ starts, m, _, known, attached, by simp [let_in], rfl,
      fun _ _ known => known⟩

/-- An initializer that composes nothing leaves its path where it is, or fails. -/
theorem advance_standsAlone {object : Object M} {program : Initializer M S}
    {workshop : Workshop M S}
    (alone : StandsAlone path stack before
      { control := .run path object program, stack, workshop }) :
    StandsAlone path stack before (advance path object program workshop stack) := by
  obtain ⟨-, -, quiet, m, placed⟩ := alone
  obtain ⟨made, placed⟩ := placed
  cases program with
  | finish => exact ⟨rfl, m, some made, placed⟩
  | fail cause => exact ⟨rfl, trivial⟩
  | compose inner next => exact quiet.elim
  | register new next => exact ⟨rfl, rfl, quiet _, m, made, placed.register new⟩
  | look next => exact ⟨rfl, rfl, quiet _, m, made, placed⟩
  | use effect next =>
    exact ⟨rfl, rfl, quiet _, m, made, placed.known, placed.attached, placed.guarded, placed.page,
      placed.roster⟩

theorem During.standsAlone (plain : behave.IsPlain) {c : Composing M S}
    (during : During behave path stack before c) : StandsAlone path stack before c := by
  induction during with
  | begun => exact ⟨rfl, rfl, rfl⟩
  | @step c earlier unanswered ih =>
    obtain ⟨control, stack', workshop⟩ := c
    obtain ⟨rfl, stands⟩ := ih
    cases control with
    | compose other =>
      obtain ⟨rfl, rfl⟩ := stands
      exact compose_standsAlone plain
    | run other object program =>
      obtain ⟨rfl, rest⟩ := stands
      exact advance_standsAlone ⟨rfl, rfl, rest⟩
    | answer result =>
      simp [answer?] at unanswered

/-- Every composition ends whose initializer composes nothing. -/
theorem exists_ends (plain : behave.IsPlain) (path : NodePath) (stack : List (Waiting M S))
    (before : Workshop M S) : ∃ result last, Ends behave path stack before result last := by
  have during : During behave path stack before (compose behave path before stack) :=
    During.begun.step rfl
  have first := begins behave path before stack
  generalize compose behave path before stack = c at during first
  cases first with
  | refused | vacant | plain => exact ⟨_, _, during, if_pos (Nat.le_refl _)⟩
  | initializing free known let_in attached starts =>
    apply ends_of_called _ during
    intro inner next middle outer
    -- nothing is ever put on the stack
    have same := (outer.standsAlone plain).1
    simp at same

/-- What comes of a composition that succeeds. -/
theorem Ends.placed (plain : behave.IsPlain) {outcome : Outcome} {last : Composing M S}
    (ends : Ends behave path stack before (.ok outcome) last) :
    ∃ m object, Placed before path m object last.workshop := by
  obtain ⟨-, stands⟩ := ends.1.standsAlone plain
  rw [(answer?_eq_some ends.2).1] at stands
  exact stands

end Composing

/-! ## One after the other -/

/-- Paths are composed one after the other, each with its result, from one workshop to another. -/
inductive ComposedInTurn (behave : Behaviour M S) :
    List (NodePath × Except Failure Outcome) → Workshop M S → Workshop M S → Prop
  | nil (workshop : Workshop M S) : ComposedInTurn behave [] workshop workshop
  | cons {path : NodePath} {result : Except Failure Outcome}
      {report : List (NodePath × Except Failure Outcome)} {before after : Workshop M S}
      {last : Composing M S} (ends : Composing.Ends behave path [] before result last)
      (others : ComposedInTurn behave report last.workshop after) :
      ComposedInTurn behave ((path, result) :: report) before after

/-- All paths of a list have been composed with success, or those before the first that failed, and
that one as the last. -/
def ReportsUpToFailure (paths : List NodePath) (report : List (NodePath × Except Failure Outcome))
    (result : Except Failure Unit) : Prop :=
  (result = .ok () ∧ report.map Prod.fst = paths ∧ ∀ step ∈ report, step.2.isOk = true) ∨
    ∃ failure done path rest, result = .error failure ∧ paths = done.map Prod.fst ++ path :: rest ∧
      report = done ++ [(path, .error failure)] ∧ ∀ step ∈ done, step.2.isOk = true

theorem ReportsUpToFailure.cons {paths : List NodePath}
    {report : List (NodePath × Except Failure Outcome)} {result : Except Failure Unit}
    (reports : ReportsUpToFailure paths report result) (path : NodePath) (outcome : Outcome) :
    ReportsUpToFailure (path :: paths) ((path, .ok outcome) :: report) result := by
  have extended : ∀ {steps : List (NodePath × Except Failure Outcome)},
      (∀ step ∈ steps, step.2.isOk = true) →
        ∀ step ∈ (path, .ok outcome) :: steps, step.2.isOk = true := by
    intro steps all step listed
    rcases List.mem_cons.mp listed with rfl | later
    · rfl
    · exact all step later
  rcases reports with ⟨done, rfl, all⟩ | ⟨failure, done, failed, rest, ended, rfl, rfl, all⟩
  · exact .inl ⟨done, rfl, extended all⟩
  · exact .inr ⟨failure, (path, .ok outcome) :: done, failed, rest, ended, rfl, rfl, extended all⟩

/-- A composition that has its answer has the same one after further steps. -/
theorem Workshop.compose_add {behave : Behaviour M S} {budget : Nat} {workshop after : Workshop M S}
    {path : NodePath} {result : Except Failure Outcome}
    (composed : workshop.compose behave budget path = (some result, after)) (further : Nat) :
    workshop.compose behave (budget + further) path = (some result, after) := by
  have answered := congrArg Prod.fst composed
  unfold compose at composed answered ⊢
  dsimp only at composed answered ⊢
  rw [Composing.run_add, Composing.run_of_result (by rw [answered]; rfl)]
  exact composed

theorem Workshop.composeAll_add {behave : Behaviour M S} {budget : Nat} (paths : List NodePath)
    {workshop after : Workshop M S} {result : Except Failure Unit}
    (composed : composeAll behave budget paths workshop = (some result, after)) (further : Nat) :
    composeAll behave (budget + further) paths workshop = (some result, after) := by
  induction paths generalizing workshop with
  | nil => exact composed
  | cons path rest ih =>
    unfold composeAll at composed ⊢
    cases first : workshop.compose behave budget path with
    | mk answer middle =>
      rw [first] at composed
      cases answer with
      | none => cases composed
      | some outcome =>
        rw [compose_add first]
        cases outcome with
        | error failure => exact composed
        | ok outcome => exact ih composed

/-- With enough steps a list is composed path by path up to its first failure. -/
theorem Workshop.exists_composeAll {behave : Behaviour M S} (plain : behave.IsPlain)
    (paths : List NodePath) (workshop : Workshop M S) :
    ∃ enough result report after,
      (∀ budget, enough ≤ budget →
        composeAll behave budget paths workshop = (some result, after)) ∧
      ComposedInTurn behave report workshop after ∧ ReportsUpToFailure paths report result := by
  induction paths generalizing workshop with
  | nil => exact ⟨0, .ok (), [], workshop, fun _ _ => rfl, .nil workshop, .inl ⟨rfl, rfl, nofun⟩⟩
  | cons path rest ih =>
    obtain ⟨result, last, ends⟩ := Composing.exists_ends plain path [] workshop
    obtain ⟨enough, composed⟩ := Workshop.compose_of_ends ends
    cases result with
    | error failure =>
      refine ⟨enough, .error failure, [(path, .error failure)], last.workshop, ?_,
        .cons ends (.nil _), .inr ⟨failure, [], path, rest, rfl, rfl, rfl, nofun⟩⟩
      intro budget large
      unfold composeAll
      rw [composed budget large]
    | ok outcome =>
      obtain ⟨further, result, report, after, others, chain, reports⟩ := ih last.workshop
      refine ⟨max enough further, result, (path, .ok outcome) :: report, after, ?_,
        .cons ends chain, reports.cons path outcome⟩
      intro budget large
      unfold composeAll
      rw [composed budget (by omega)]
      exact others budget (by omega)

/-! ## The tree after a list -/

/-- A path is listed, and when it is a key, its area is not listed again behind it. -/
def Remains (paths : List NodePath) (path : NodePath) : Prop :=
  ∃ earlier later, paths = earlier ++ path :: later ∧ path ∉ later ∧
    (path.isNested = true → { area := path.area } ∉ later)

/-- What reaches a path is the path itself or its area. -/
theorem not_reaches_iff (paths : List NodePath) (path : NodePath) :
    (∀ other ∈ paths, ¬ other.reaches path) ↔
      path ∉ paths ∧ (path.isNested = true → { area := path.area } ∉ paths) := by
  obtain ⟨area, key⟩ := path
  constructor
  · intro apart
    exact ⟨fun listed => apart _ listed (.inl rfl),
      fun _ listed => apart _ listed (.inr ⟨rfl, rfl⟩)⟩
  · rintro ⟨unlisted, orphan⟩ ⟨name, below⟩ listed (same | ⟨rfl, same⟩)
    · exact unlisted (same ▸ listed)
    · cases same
      cases key with
      | none => exact unlisted listed
      | some key => exact orphan rfl listed

theorem remains_cons_iff (first : NodePath) (rest : List NodePath) (path : NodePath) :
    Remains (first :: rest) path ↔
      Remains rest path ∨ (path = first ∧ ∀ other ∈ rest, ¬ other.reaches path) := by
  unfold Remains
  constructor
  · rintro ⟨earlier, later, split, last⟩
    cases earlier with
    | nil =>
      cases split
      exact .inr ⟨rfl, (not_reaches_iff rest first).mpr last⟩
    | cons head earlier =>
      cases split
      exact .inl ⟨earlier, later, rfl, last⟩
  · rintro (⟨earlier, later, rfl, last⟩ | ⟨rfl, apart⟩)
    · exact ⟨first :: earlier, later, rfl, last⟩
    · exact ⟨[], rest, rfl, (not_reaches_iff rest path).mp apart⟩

/-- The guard of a module keeps it from this page. -/
def Module.IsShut (m : Module M) (page : Context) : Prop :=
  ∃ guard, m.guard = some guard ∧ guard.allows page = false

/-- Every node is vacant exactly if the guard of its module rejects the page. -/
def Workshop.TellsGuards (workshop : Workshop M S) : Prop :=
  ∀ path, workshop.tree.contains path = true → ∃ m, workshop.roster.resolve path.text = .ok m ∧
    (workshop.tree.isVacant path = true ↔ m.IsShut workshop.page)

namespace Placed
variable {before after : Workshop M S} {path : NodePath} {m : Module M} {object : Option (Object M)}

theorem contains_iff (placed : Placed before path m object after) (other : NodePath) :
    after.tree.contains other = true ↔
      other = path ∨ (before.tree.contains other = true ∧ ¬ path.reaches other) := by
  unfold Tree.contains
  rw [Tree.node?_attach placed.attached]
  by_cases same : other = path
  · simp [same]
  · by_cases reached : path.reaches other <;> simp [same, reached]

/-- A key is attached only below its area. -/
theorem area_contains (placed : Placed before path m object after)
    (nested : path.isNested = true) : before.tree.contains { area := path.area } = true := by
  rcases (Tree.attach_ok_iff before.tree path object).mp ⟨_, placed.attached⟩ with none | there
  · simp [NodePath.isNested, none] at nested
  · exact there

theorem tellsGuards (placed : Placed before path m object after) (tells : before.TellsGuards) :
    after.TellsGuards := by
  intro other there
  rcases (placed.contains_iff other).mp there with rfl | ⟨old, apart⟩
  · refine ⟨m, placed.roster _ _ placed.known, ?_⟩
    have vacant : after.tree.isVacant other = true ↔ object = none := by
      unfold Tree.isVacant
      rw [Tree.node?_attach placed.attached, if_pos rfl]
      cases object <;> simp
    rw [vacant, placed.guarded, placed.page, Module.IsShut]
    cases m.guard <;> simp
  · obtain ⟨known, resolved, vacant⟩ := tells other old
    refine ⟨known, placed.roster _ _ resolved, ?_⟩
    have same : after.tree.isVacant other = before.tree.isVacant other := by
      unfold Tree.isVacant
      have different : other ≠ path := fun equal => apart (.inl equal)
      rw [Tree.node?_attach placed.attached, if_neg different, if_neg apart]
    rw [same, vacant, placed.page]

end Placed

/-- What becomes of a tree when the paths of a list are composed one after the other. -/
structure Lists (paths : List NodePath) (before after : Workshop M S) : Prop where
  page : after.page = before.page
  there : ∀ path, after.tree.contains path = true ↔ Remains paths path ∨
    (before.tree.contains path = true ∧ ∀ other ∈ paths, ¬ other.reaches path)
  /-- The area of a key is listed before it, or has been there. -/
  rooted : ∀ earlier path later, paths = earlier ++ path :: later → path.isNested = true →
    { area := path.area } ∈ earlier ∨ before.tree.contains { area := path.area } = true
  guards : before.TellsGuards → after.TellsGuards

theorem Lists.cons {paths : List NodePath} {path : NodePath} {m : Module M}
    {object : Option (Object M)} {before middle after : Workshop M S}
    (placed : Placed before path m object middle) (lists : Lists paths middle after) :
    Lists (path :: paths) before after where
  page := lists.page.trans placed.page
  there other := by
    rw [lists.there, placed.contains_iff, remains_cons_iff]
    simp only [List.forall_mem_cons]
    constructor
    · rintro (remains | ⟨rfl | ⟨old, apart⟩, others⟩)
      · exact .inl (.inl remains)
      · exact .inl (.inr ⟨rfl, others⟩)
      · exact .inr ⟨old, apart, others⟩
    · rintro ((remains | ⟨rfl, others⟩) | ⟨old, apart, others⟩)
      · exact .inl remains
      · exact .inr ⟨.inl rfl, others⟩
      · exact .inr ⟨.inr ⟨old, apart⟩, others⟩
  rooted earlier other later split nested := by
    cases earlier with
    | nil =>
      cases split
      exact .inr (placed.area_contains nested)
    | cons head earlier =>
      cases split
      rcases lists.rooted earlier other later rfl nested with listed | there
      · exact .inl (List.mem_cons_of_mem _ listed)
      · rcases (placed.contains_iff _).mp there with same | ⟨old, -⟩
        · exact .inl (by simp [same])
        · exact .inr old
  guards tells := lists.guards (placed.tellsGuards tells)

theorem ComposedInTurn.lists {behave : Behaviour M S} (plain : behave.IsPlain)
    {report : List (NodePath × Except Failure Outcome)} {before after : Workshop M S}
    (chain : ComposedInTurn behave report before after)
    (all : ∀ step ∈ report, step.2.isOk = true) : Lists (report.map Prod.fst) before after := by
  induction chain with
  | nil workshop =>
    refine ⟨rfl, fun path => ?_, fun earlier path later split => ?_, id⟩
    · simp [Remains]
    · simp at split
  | @cons path result report before after last ends others ih =>
    rw [List.forall_mem_cons] at all
    cases result with
    | error failure => cases all.1
    | ok outcome =>
      obtain ⟨m, object, placed⟩ := ends.placed plain
      exact .cons placed (ih all.2)

/-! ## From an empty tree -/

section
variable {behave : Behaviour M S} {loader : Loader M} {settings : Settings}
  {workshop : Workshop M S} {past : StartupPast M S} {startup : Startup M S}

/-- When everything that is tracked has been registered, nobody has to wait. -/
theorem Startup.waitForLoads_of_complete (sound : startup.IsSound)
    (complete : startup.IsComplete) (turns : Nat) :
    startup.waitForLoads turns = (.ok (), startup.claim) := by
  have succeeded : startup.verdict? startup.claim = some (.ok ()) := by
    apply (gather_eq_ok_iff _).mpr
    intro outcome listed
    obtain ⟨index, claimed, rfl⟩ := List.mem_map.mp listed
    obtain ⟨name, phase, loads⟩ := sound.claims index claimed
    have registered := (complete name (Table.contains_of_find? (sound.seen loads))).1
    rw [sound.seen loads] at registered
    have ended := Phase.eq_of_progress_eq_registered (Option.some.inj registered)
    obtain ⟨resource, -, here⟩ := loads
    exact (Intake.outcome?_eq_ok_iff here).mpr ended
  have told : startup.listen turns = (some (.ok ()), startup.claim) := by
    unfold listen waitUntil
    rw [succeeded]
  rw [waitForLoads_eq_listen, told]
  rfl

/-- When everything is registered and initializers compose nothing, a startup composes the listed
paths in order, each as often as it is listed, up to the first that fails, and its failure is
the result. From an empty tree, when all succeed, every key has been listed behind its area, a path
is in the tree exactly if it is listed and, when it is a key, its area is not listed again behind
it, and a node is vacant exactly if the guard of its module rejects the page. -/
theorem listed_paths_are_composed
    (run : StartupRun behave loader (.opening settings workshop) past startup)
    (empty : startup.workshop.tree.isEmpty = true) (complete : startup.IsComplete)
    (plain : behave.IsPlain) (turns : Nat) (paths : List NodePath) :
    ∃ result report after,
      (∃ enough, ∀ budget, enough ≤ budget →
        (startup.bootstrap behave turns budget paths).1.isSome = true) ∧
      (∀ budget, (startup.bootstrap behave turns budget paths).1.isSome = true →
        startup.bootstrap behave turns budget paths =
          (some result, { startup.claim with workshop := after })) ∧
      ComposedInTurn behave report startup.workshop after ∧
      ReportsUpToFailure paths report result ∧
      (result = .ok () →
        (∀ earlier path later, paths = earlier ++ path :: later → path.isNested = true →
          { area := path.area } ∈ earlier) ∧
        (∀ path, after.tree.contains path = true ↔ Remains paths path) ∧
        ∀ path, after.tree.contains path = true →
          ∃ m, after.roster.resolve path.text = .ok m ∧
            (after.tree.isVacant path = true ↔ m.IsShut startup.workshop.page)) := by
  obtain ⟨enough, result, report, after, composed, chain, reports⟩ :=
    startup.workshop.exists_composeAll plain paths
  have waited := Startup.waitForLoads_of_complete (StartupRun.sound run) complete turns
  have bootstrapped : ∀ budget, startup.bootstrap behave turns budget paths =
      ((startup.workshop.composeAll behave budget paths).1,
        { startup.claim with
          workshop := (startup.workshop.composeAll behave budget paths).2 }) := by
    intro budget
    unfold Startup.bootstrap
    rw [waited]
    rfl
  refine ⟨result, report, after, ⟨enough, fun budget large => ?_⟩, fun budget answered => ?_,
    chain, reports, ?_⟩
  · rw [bootstrapped, composed budget large]
    rfl
  · rw [bootstrapped] at answered ⊢
    obtain ⟨answer, told⟩ := Option.isSome_iff_exists.mp answered
    have more := Workshop.composeAll_add paths (Prod.ext told rfl) enough
    rw [composed _ (Nat.le_add_left _ _)] at more
    cases more
    rw [told]
  · rintro rfl
    obtain ⟨listed, all⟩ : report.map Prod.fst = paths ∧ ∀ step ∈ report, step.2.isOk = true := by
      rcases reports with ⟨-, listed, all⟩ | ⟨failure, _, _, _, impossible, _⟩
      · exact ⟨listed, all⟩
      · cases impossible
    have nothing : ∀ path, startup.workshop.tree.contains path = false := by
      intro path
      have missing := (Tree.isEmpty_iff _).mp empty path
      simp [Tree.contains, missing]
    have lists := chain.lists plain all
    rw [listed] at lists
    refine ⟨?_, ?_, ?_⟩
    · intro earlier path later split nested
      rcases lists.rooted earlier path later split nested with before | impossible
      · exact before
      · cases (nothing _).symm.trans impossible
    · intro path
      rw [lists.there, nothing]
      simp
    · rw [← lists.page]
      apply lists.guards
      intro path impossible
      cases (nothing path).symm.trans impossible

/-- Whether a page is complete is seen from what it tracks. -/
theorem Startup.isComplete_of_entries
    (all : ∀ entry ∈ startup.intake.tracked.entries,
      entry.2 = .registered ∧ startup.workshop.roster.contains entry.1 = true) :
    startup.IsComplete := by
  intro name tracked
  rw [Table.contains_eq_isSome, Option.isSome_iff_exists] at tracked
  obtain ⟨progress, found⟩ := tracked
  have listed := all _ ((Table.find?_eq_some_iff _ _ _).mp found)
  exact ⟨found.trans (congrArg some listed.1), listed.2⟩

end

def counting : Behaviour String Nat where
  construct _ services := services
  initializer _ := some (.use (· + 1) fun _ => .finish)

def prompt : Loader String := fun resource =>
  .register { name := resource.name, body := resource.locator } fun result => .finish result

/-- Modules have been registered, one of them for administrators only, and a resource loaded. -/
def furnished : StartupPast String Nat × Startup String Nat :=
  Startup.follow counting prompt
    [.register { name := "admin", guard := some (.forRole "admin"), body := "area" },
      .register { name := "admin.users", body := "key" },
      .register { name := "home", body := "area" },
      .inject {} [{ name := "home.menu", locator := "key" }], .settle 8]
    ([], .opening {} { services := 0 })

/-- Areas and their keys, of which one area is listed again behind its key. -/
def listed : List NodePath :=
  [{ area := "home" }, { area := "admin" }, { area := "admin", key := some "users" },
    { area := "home", key := some "menu" }, { area := "admin" }]

/-- The key of the area that is listed again is not there any more, and the area is vacant. -/
theorem listed_paths_are_composed_again : ∃ past startup after,
    StartupRun counting prompt (.opening {} { services := 0 }) past startup ∧
      startup.workshop.tree.isEmpty = true ∧ startup.IsComplete ∧ counting.IsPlain ∧
      startup.bootstrap counting 8 20 listed =
        (some (.ok ()), { startup.claim with workshop := after }) ∧
      (∀ path, after.tree.contains path = true ↔ Remains listed path) ∧
      after.tree.isVacant { area := "admin" } = true ∧
      after.tree.contains { area := "admin", key := some "users" } = false ∧
      after.tree.contains { area := "home", key := some "menu" } = true := by
  have run : StartupRun counting prompt (.opening {} { services := 0 }) furnished.1 furnished.2 :=
    StartupRun.start.follow _
  have complete : furnished.2.IsComplete :=
    Startup.isComplete_of_entries (by decide +kernel)
  have plain : counting.IsPlain := by
    intro object program same
    cases same
    exact fun _ => trivial
  obtain ⟨result, report, after, -, told, -, -, tree⟩ :=
    listed_paths_are_composed run (by decide +kernel) complete plain 8 listed
  have same := told 20 (by decide +kernel)
  have answer : some result = some (.ok ()) := by
    have succeeded : (furnished.2.bootstrap counting 8 20 listed).1.any Except.isOk = true := by
      decide +kernel
    rw [same] at succeeded
    cases result with
    | ok => rfl
    | error failure => cases succeeded
  cases answer
  have standing : after.tree = (furnished.2.bootstrap counting 8 20 listed).2.workshop.tree := by
    rw [same]
  refine ⟨_, _, after, run, by decide +kernel, complete, plain, same, (tree rfl).2.1, ?_⟩
  rw [standing]
  decide +kernel

end PageSession.Assembly
