import PageSession.Proofs.Assembly.Leftovers
import PageSession.Proofs.Assembly.Reports

/-!
What a startup whose time was up says to be missing. It means to list the resources that have no
module. What it lists are those whose loads are still pending, and a load that lags behind is
pending although its module may be there: it has not come to its end, or it has not looked at the
roster since.
-/
namespace PageSession.Assembly
open Page

variable {M S : Type}

/-! ## Pending loads -/

/-- A load in this phase has ended, or waits for its module and has looked at this roster. -/
def Phase.hasLooked (roster : Roster M) : Phase M → Bool
  | .ended _ => true
  | .awaiting waiter => !waiter.isWoken roster
  | .ready _ _ | .asleep _ _ _ | .died => false

namespace Startup

def hasFailed (startup : Startup M S) (name : String) : Bool :=
  match startup.intake.tracked.find? name with
  | some (.failed _) => true
  | _ => false

/-- The load of this name has not ended, and has not looked at the roster as it is. -/
def lags (startup : Startup M S) (name : String) : Bool :=
  startup.intake.tasks.any fun task =>
    task.resource.any (fun resource => resource.name == name) &&
      !task.phase.hasLooked startup.workshop.roster

/-- The load of this name has not failed, and its module is not there or it has not looked. -/
def misses (startup : Startup M S) (name : String) : Bool :=
  !startup.hasFailed name &&
    (!startup.workshop.roster.contains name || startup.lags name)

variable {startup : Startup M S}

theorem lags_eq (sound : startup.IsSound) {index : Nat} {name : String} {phase : Phase M}
    (loads : startup.intake.Loads index name phase) :
    startup.lags name = !phase.hasLooked startup.workshop.roster := by
  rw [Bool.eq_iff_iff]
  unfold lags
  rw [List.any_eq_true]
  constructor
  · rintro ⟨⟨owner, later⟩, listed, lagging⟩
    rw [Bool.and_eq_true, Option.any_eq_true] at lagging
    obtain ⟨⟨resource, rfl, named⟩, behind⟩ := lagging
    obtain ⟨other, there⟩ := List.mem_iff_getElem?.mp listed
    have elsewhere : startup.intake.Loads other name later :=
      ⟨resource, by simpa using named, there⟩
    rw [sound.once elsewhere loads] at elsewhere
    rwa [(loads.unique elsewhere).2]
  · obtain ⟨resource, named, here⟩ := loads
    intro behind
    refine ⟨_, List.mem_of_getElem? here, ?_⟩
    rw [Bool.and_eq_true]
    exact ⟨by simpa using named, behind⟩

/-- A load is seen as pending exactly when it has not failed and misses its module, or lags. -/
theorem pending_iff_misses (sound : startup.IsSound)
    (matching : Intake.AllMatch startup.workshop.roster startup.intake) {index : Nat}
    {name : String} {phase : Phase M} (loads : startup.intake.Loads index name phase) :
    startup.intake.tracked.find? name = some .pending ↔ startup.misses name = true := by
  have fits := matching index name phase loads
  unfold misses hasFailed
  rw [lags_eq sound loads, sound.seen loads]
  cases phase with
  | ready | asleep | died => simp [Phase.progress, Phase.hasLooked]
  | awaiting waiter =>
    obtain ⟨-, absent⟩ := fits
    cases woken : waiter.isWoken startup.workshop.roster with
    | false => simp [Phase.progress, Phase.hasLooked, woken, absent woken]
    | true => simp [Phase.progress, Phase.hasLooked, woken]
  | ended result =>
    cases result with
    | ok => simp [Phase.progress, Intake.progressOf, Phase.hasLooked, sound.present loads]
    | error failure => simp [Phase.progress, Intake.progressOf]

end Startup

/-- A load that lags has not failed. -/
theorem Startup.hasFailed_of_lags {startup : Startup M S} (sound : startup.IsSound) {index : Nat}
    {name : String} {phase : Phase M} (loads : startup.intake.Loads index name phase)
    (lagging : startup.lags name = true) : startup.hasFailed name = false := by
  rw [lags_eq sound loads] at lagging
  unfold hasFailed
  rw [sound.seen loads]
  cases phase with
  | ended => cases lagging
  | ready | asleep | awaiting | died => rfl

/-- The names that are outstanding are listed in the order in which they are tracked. -/
theorem Intake.outstanding_eq_filter (intake : Intake M) :
    intake.outstanding =
      intake.tracked.keys.filter fun name => intake.tracked.find? name = some .pending := by
  unfold outstanding Table.keys
  rw [List.filter_map]
  congr 1
  refine List.filter_congr fun ⟨name, progress⟩ listed => ?_
  have seen := (Table.find?_eq_some_iff _ _ _).mpr listed
  simp [seen]

/-! ## Timeouts -/

/-- Without a verdict nothing is known of some load. -/
theorem none_mem_of_gather {outcomes : List (Option (Except Failure Unit))}
    (undecided : gather outcomes = none) : none ∈ outcomes := by
  by_contra known
  have both : firstFailure outcomes ≠ none ∧ inTurn outcomes ≠ none := by
    clear undecided
    induction outcomes with
    | nil => exact ⟨Option.some_ne_none _, Option.some_ne_none _⟩
    | cons outcome rest ih =>
      rw [List.mem_cons, not_or] at known
      cases outcome with
      | none => exact absurd rfl known.1
      | some result =>
        cases result with
        | ok => exact ih known.2
        | error => exact ⟨Option.some_ne_none _, Option.some_ne_none _⟩
  unfold gather at undecided
  split at undecided
  · exact both.1 undecided
  · exact both.2 undecided

/-- A load of which nothing is known is seen as pending. -/
theorem Intake.progress_of_unknown {intake : Intake M} {index : Nat} {name : String}
    {phase : Phase M} (loads : intake.Loads index name phase)
    (unknown : intake.outcome? index = none) : phase.progress = .pending := by
  obtain ⟨resource, -, here⟩ := loads
  unfold outcome? at unknown
  rw [here] at unknown
  cases phase with
  | ended | died => cases unknown
  | ready | asleep | awaiting => rfl

/-- No composition fails because time was up. -/
theorem Workshop.ne_timedOut_of_compose {behave : Behaviour M S} {budget : Nat}
    {workshop after : Workshop M S} {path : NodePath} {failure : Failure}
    (failed : workshop.compose behave budget path = (some (.error failure), after))
    (missing : List String) (waited : Nat) : failure ≠ .timedOut missing waited := by
  obtain ⟨last, ends, -⟩ := ends_of_compose failed
  rintro rfl
  rcases ends.failure_cases with ⟨refuses, -⟩ | ⟨_, _, _, _, impossible, -⟩
  · cases refuses
  · cases impossible

theorem Workshop.composeAll_ne_timedOut {behave : Behaviour M S} {budget : Nat}
    (paths : List NodePath) (workshop : Workshop M S) (missing : List String) (waited : Nat) :
    (composeAll behave budget paths workshop).1 ≠ some (.error (.timedOut missing waited)) := by
  induction paths generalizing workshop with
  | nil => exact fun impossible => by cases impossible
  | cons path rest ih =>
    unfold composeAll
    split
    · exact ih _
    · rename_i failed
      intro same
      cases same
      exact ne_timedOut_of_compose failed missing waited rfl
    · exact fun impossible => by cases impossible

section
variable {behave : Behaviour M S} {loader : Loader M} {settings : Settings}
  {workshop : Workshop M S} {past : StartupPast M S} {startup : Startup M S}
  {turns budget : Nat} {paths : List NodePath} {missing : List String} {waited : Nat}

/-- A startup says that its time was up only when nobody has told it anything in its wait. -/
theorem wait_of_timedOut
    (run : StartupRun behave loader (.opening settings workshop) past startup)
    (ended : (startup.bootstrap behave turns budget paths).1 =
      some (.error (.timedOut missing waited))) :
    (startup.listen turns).1 = none ∧
      (startup.bootstrap behave turns budget paths).2 = (startup.waitForLoads turns).2 ∧
      missing = (startup.waitForLoads turns).2.intake.outstanding ∧
      waited = startup.settings.timeoutMs := by
  have told := Startup.prospects_of_wait turns (StartupRun.sound run)
  have waits := startup.waitForLoads_eq_listen turns
  have waiting := congrArg Prod.fst waits
  dsimp only at waiting
  split at told
  · rename_i unknown
    rw [unknown] at waiting
    rw [Startup.bootstrap_of_failed behave budget paths waiting] at ended ⊢
    cases ended
    exact ⟨unknown, rfl, by rw [waits], rfl⟩
  · -- all loads have succeeded, and no composition fails with a timeout
    rename_i known
    rw [known] at waiting
    rw [Startup.bootstrap_of_waited behave budget paths waiting] at ended
    exact absurd ended (Workshop.composeAll_ne_timedOut paths _ missing waited)
  · -- a load has failed, and no load fails with a timeout
    rename_i failure known
    rw [known] at waiting
    rw [Startup.bootstrap_of_failed behave budget paths waiting] at ended
    cases ended
    cases isOfLoad_of_prospects run told.1

/-- What is outstanding are the names that were injected and that the page misses. -/
theorem StartupRun.outstanding
    (run : StartupRun behave loader (.opening settings workshop) past startup) :
    startup.intake.outstanding = (StartupPast.injected past).eraseDups.filter startup.misses := by
  have sound := StartupRun.sound run
  rw [Intake.outstanding_eq_filter, ← StartupRun.keys run]
  refine List.filter_congr fun name listed => ?_
  obtain ⟨index, phase, here⟩ := sound.loaded ((Table.contains_iff_mem_keys _ _).mpr listed)
  rw [Bool.eq_iff_iff, decide_eq_true_iff]
  exact Startup.pending_iff_misses sound (StartupRun.matches run) here

/-- The names that the page misses are those without modules exactly when no load that lags has its
module registered. -/
theorem misses_eq_iff_lags
    (run : StartupRun behave loader (.opening settings workshop) past startup) :
    (StartupPast.injected past).eraseDups.filter startup.misses =
        (StartupPast.injected past).eraseDups.filter (fun name =>
          !startup.hasFailed name && !startup.workshop.roster.contains name) ↔
      ∀ name ∈ StartupPast.injected past, startup.lags name = true →
        startup.workshop.roster.contains name = false := by
  have sound := StartupRun.sound run
  constructor
  · intro same name listed lagging
    have tracked : name ∈ startup.intake.tracked.keys := by
      rw [StartupRun.keys run, List.mem_eraseDups]
      exact listed
    obtain ⟨index, phase, here⟩ := sound.loaded ((Table.contains_iff_mem_keys _ _).mpr tracked)
    have missed : name ∈ (StartupPast.injected past).eraseDups.filter startup.misses := by
      rw [List.mem_filter, List.mem_eraseDups]
      refine ⟨listed, ?_⟩
      unfold Startup.misses
      rw [lagging, Startup.hasFailed_of_lags sound here lagging, Bool.or_true]
      rfl
    rw [same, List.mem_filter, Bool.and_eq_true, Bool.not_eq_true', Bool.not_eq_true'] at missed
    exact missed.2.2
  · intro absent
    refine List.filter_congr fun name listed => ?_
    unfold Startup.misses
    cases lagging : startup.lags name with
    | false => rw [Bool.or_false]
    | true => rw [absent name (List.mem_eraseDups.mp listed) lagging, Bool.or_true, Bool.not_false]

/-- When nobody has told the startup anything in its wait, some load is still pending. -/
theorem outstanding_ne_nil
    (run : StartupRun behave loader (.opening settings workshop) past startup)
    (silent : (startup.listen turns).1 = none) :
    (startup.waitForLoads turns).2.intake.outstanding ≠ [] := by
  obtain ⟨sound, kept, -⟩ := Startup.waitForLoads_sound turns (StartupRun.sound run)
  obtain ⟨-, arrived⟩ := Startup.waitUntil_leftAlone startup.verdict? turns startup.deadline
    startup.claim
  obtain ⟨there, undecided⟩ := arrived silent
  change (startup.listen turns).2 = _ at there
  rw [← there, ← congrArg Prod.snd (startup.waitForLoads_eq_listen turns)] at undecided
  obtain ⟨index, claimed, unknown⟩ := List.mem_map.mp (none_mem_of_gather undecided)
  obtain ⟨name, earlier, here⟩ := (StartupRun.sound run).claims index claimed
  obtain ⟨phase, loads, -⟩ := kept.loads here
  have seen := sound.seen loads
  rw [Intake.progress_of_unknown loads unknown] at seen
  have listed : name ∈ (startup.waitForLoads turns).2.intake.outstanding := by
    rw [Intake.outstanding_eq_filter, List.mem_filter, ← Table.contains_iff_mem_keys,
      Table.contains_eq_isSome, seen]
    exact ⟨rfl, rfl⟩
  exact List.ne_nil_of_mem listed

/-- A startup whose time was up has composed nothing. What it says to be missing are the resources,
in the order in which they were injected, whose loads have not failed and whose modules are not
there or who have not looked for them. These are the resources without modules exactly when no load
that lags behind has its module registered. -/
theorem timeout_names_missing
    (run : StartupRun behave loader (.opening settings workshop) past startup)
    (ended : (startup.bootstrap behave turns budget paths).1 =
      some (.error (.timedOut missing waited))) :
    let after := (startup.bootstrap behave turns budget paths).2
    let injected := (StartupPast.injected past).eraseDups
    (∃ roster, after.workshop = { startup.workshop with roster }) ∧
      waited = startup.settings.timeoutMs ∧ missing ≠ [] ∧ missing.Nodup ∧
      missing = injected.filter after.misses ∧
      (missing = injected.filter (fun name =>
          !after.hasFailed name && !after.workshop.roster.contains name) ↔
        ∀ name ∈ injected, after.lags name = true →
          after.workshop.roster.contains name = false) := by
  intro after injected
  obtain ⟨silent, waits, rfl, rfl⟩ := wait_of_timedOut run ended
  obtain ⟨roster, intake, apart⟩ := startup.waitForLoads_apart turns
  have later : StartupRun behave loader (.opening settings workshop)
      ((startup, .bootstrap turns budget paths) :: past) after :=
    run.next (.bootstrap turns budget paths)
  -- a startup injects nothing
  have names : StartupPast.injected ((startup, .bootstrap turns budget paths) :: past) =
      StartupPast.injected past := rfl
  have listed := StartupRun.outstanding later
  have lagging := misses_eq_iff_lags later
  rw [names] at listed lagging
  change (startup.bootstrap behave turns budget paths).2.intake.outstanding = _ at listed
  rw [waits] at listed
  refine ⟨⟨roster, ?_⟩, rfl, outstanding_ne_nil run silent, ?_, listed, ?_⟩
  · show (startup.bootstrap behave turns budget paths).2.workshop = _
    rw [waits, apart]
  · rw [Intake.outstanding_eq_filter]
    exact (startup.waitForLoads turns).2.intake.tracked.distinct.filter _
  · rw [listed]
    simp only [injected, List.mem_eraseDups]
    exact lagging

end

/-- A busy resource brings its module at once and then works on for long; others never bring any. -/
def lingering : Loader Unit := fun resource =>
  if resource.locator = "busy" then
    .register { name := resource.name, body := () } fun _ => .sleep 1000 (.finish (.ok ()))
  else .finish (.ok ())

def halfway : StartupPast Unit Unit × Startup Unit Unit :=
  Startup.follow plain lingering
    [.inject {} [{ name := "menu", locator := "busy" }, { name := "reports", locator := "silent" }],
      .turn 0]
    ([], .opening { timeoutMs := 10 } { services := () })

private theorem halfway_missing :
    Startup.missing? (halfway.2.bootstrap plain 8 8 [{ area := "menu" }]).1 =
      some ["menu", "reports"] := by
  decide +kernel

/-- The busy resource is said never to have been registered, although its module is there. -/
theorem timeout_names_registered : ∃ past startup waited,
    StartupRun plain lingering (.opening { timeoutMs := 10 } { services := () }) past startup ∧
      let (result, after) := startup.bootstrap plain 8 8 [{ area := "menu" }]
      result = some (.error (.timedOut ["menu", "reports"] waited)) ∧
        (StartupPast.injected past).eraseDups.filter (fun name =>
          !after.hasFailed name && !after.workshop.roster.contains name) = ["reports"] := by
  obtain ⟨waited, result⟩ := Startup.timedOut_of_missing? halfway_missing
  exact ⟨halfway.1, halfway.2, waited, StartupRun.start.follow _, result, by decide +kernel⟩

theorem timeout_names_missing_halfway : ∃ past startup missing waited,
    StartupRun plain lingering (.opening { timeoutMs := 10 } { services := () }) past startup ∧
      let (result, after) := startup.bootstrap plain 8 8 [{ area := "menu" }]
      result = some (.error (.timedOut missing waited)) ∧ missing ≠ [] ∧ missing.Nodup ∧
        missing = (StartupPast.injected past).eraseDups.filter after.misses ∧
        after.lags "menu" = true ∧ after.workshop.roster.contains "menu" = true := by
  have run : StartupRun plain lingering (.opening { timeoutMs := 10 } { services := () })
      halfway.1 halfway.2 := StartupRun.start.follow _
  obtain ⟨waited, result⟩ := Startup.timedOut_of_missing? halfway_missing
  obtain ⟨-, -, something, distinct, listed, -⟩ := timeout_names_missing run result
  exact ⟨halfway.1, halfway.2, _, waited, run, result, something, distinct, listed,
    by decide +kernel, by decide +kernel⟩

end PageSession.Assembly
