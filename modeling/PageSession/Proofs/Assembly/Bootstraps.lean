import PageSession.Proofs.Assembly.Waiting

/-!
Startups that are tried again. A startup waits only for the loads that no earlier one has claimed.
What an earlier one has claimed and given up, because a load failed or time ran out, nobody waits
for any more, so a later startup composes whether it has been registered or not.
-/
namespace PageSession.Assembly
open Page

/-- What can be done with a page under construction. -/
inductive StartupStep (M : Type) where
  | inject (page : Context) (resources : List Resource)
  | bootstrap (turns budget : Nat) (paths : List NodePath)
  /-- Somebody else registers a module, composes a path or waits for a module. -/
  | register (m : Module M)
  | compose (budget : Nat) (path : NodePath)
  | wait (turns : Nat) (name : String) (ms : Nat)
  /-- A task takes a turn, or all do that can. -/
  | turn (index : Nat)
  | settle (turns : Nat)
  | advance (ms : Nat)

def StartupStep.isAside {M : Type} : StartupStep M → Bool
  | .inject _ _ | .bootstrap _ _ _ => false
  | _ => true

theorem StartupStep.kinds {M : Type} (step : StartupStep M) :
    step.isAside = true ∨ (∃ page resources, step = .inject page resources) ∨
      ∃ turns budget paths, step = .bootstrap turns budget paths := by
  cases step with
  | inject page resources => exact .inr (.inl ⟨page, resources, rfl⟩)
  | bootstrap turns budget paths => exact .inr (.inr ⟨turns, budget, paths, rfl⟩)
  | _ => exact .inl rfl

namespace Startup
variable {M S : Type}

def opening (settings : Settings) (workshop : Workshop M S) : Startup M S := { settings, workshop }

def after (behave : Behaviour M S) (loader : Loader M) (startup : Startup M S) :
    StartupStep M → Startup M S
  | .inject page resources =>
    { startup with intake := (startup.intake.inject loader page resources).2 }
  | .bootstrap turns budget paths => (startup.bootstrap behave turns budget paths).2
  | .register m => { startup with workshop := (startup.workshop.register m).2 }
  | .compose budget path =>
    { startup with workshop := (startup.workshop.compose behave budget path).2 }
  | .wait turns name ms => (startup.waitForModule turns name ms).2
  | .turn index =>
    let (roster, intake) := startup.intake.turn index startup.workshop.roster
    { startup with workshop := { startup.workshop with roster }, intake }
  | .settle turns => startup.settle turns
  | .advance ms => startup.advance ms

/-- Whatever is tracked is registered, and everybody sees that it is. -/
def IsComplete (startup : Startup M S) : Prop :=
  ∀ name, startup.intake.tracked.contains name = true →
    startup.intake.tracked.find? name = some .registered ∧
      startup.workshop.roster.contains name = true

end Startup

/-- The steps so far, each with the page on which it was done, the latest first. -/
abbrev StartupPast (M S : Type) := List (Startup M S × StartupStep M)

inductive StartupRun {M S : Type} (behave : Behaviour M S) (loader : Loader M)
    (start : Startup M S) : StartupPast M S → Startup M S → Prop
  | start : StartupRun behave loader start [] start
  | next {past : StartupPast M S} {startup : Startup M S}
      (before : StartupRun behave loader start past startup) (step : StartupStep M) :
      StartupRun behave loader start ((startup, step) :: past)
        (startup.after behave loader step)

def Startup.follow {M S : Type} (behave : Behaviour M S) (loader : Loader M) :
    List (StartupStep M) → StartupPast M S × Startup M S → StartupPast M S × Startup M S
  | [], reached => reached
  | step :: rest, (past, startup) =>
    follow behave loader rest ((startup, step) :: past, startup.after behave loader step)

theorem StartupRun.follow {M S : Type} {behave : Behaviour M S} {loader : Loader M}
    {start startup : Startup M S} {past : StartupPast M S}
    (before : StartupRun behave loader start past startup) (steps : List (StartupStep M)) :
    StartupRun behave loader start (Startup.follow behave loader steps (past, startup)).1
      (Startup.follow behave loader steps (past, startup)).2 := by
  induction steps generalizing past startup with
  | nil => exact before
  | cons step rest ih => exact ih (before.next step)

/-- A startup has claimed the load of this name, and has given up waiting. -/
def GivenUp {M S : Type} (past : StartupPast M S) (name : String) : Prop :=
  ∃ done ∈ past, ∃ turns budget paths failure, done.2 = .bootstrap turns budget paths ∧
    (done.1.waitForLoads turns).1 = .error failure ∧
    ∃ index ∈ done.1.intake.unclaimed, ∃ phase, done.1.intake.Loads index name phase

namespace Startup
variable {M S : Type} {behave : Behaviour M S} {loader : Loader M} {startup : Startup M S}

theorem opening_sound (settings : Settings) (workshop : Workshop M S) :
    (opening settings workshop).IsSound :=
  sound_empty workshop.roster

/-- More modules are no matter of loads. -/
theorem workshop_sound (sound : startup.IsSound) {workshop : Workshop M S}
    (more : ∀ {name}, startup.workshop.roster.contains name = true →
      workshop.roster.contains name = true) :
    ({ startup with workshop } : Startup M S).IsSound ∧ startup.Keeps { startup with workshop } :=
  ⟨Sound.of_modules sound more, .of_modules more⟩

/-- All other steps keep what is known of the loads. -/
theorem after_sound (behave : Behaviour M S) (loader : Loader M) (sound : startup.IsSound)
    {step : StartupStep M} (aside : step.isAside = true) :
    (startup.after behave loader step).IsSound ∧
      startup.Keeps (startup.after behave loader step) := by
  cases step with
  | inject | bootstrap => cases aside
  | register m =>
    refine workshop_sound sound fun known => ?_
    unfold Workshop.register
    split
    · rename_i registered
      exact Roster.contains_of_register registered known
    · exact known
  | compose budget path =>
    exact workshop_sound sound (Workshop.contains_of_compose behave budget path)
  | wait turns name ms =>
    obtain ⟨sound', kept, -⟩ := waitUntil_sound
      (fun startup' : Startup M S =>
        if startup'.workshop.roster.contains name then some () else none)
      turns (startup.intake.now + ms) sound
    exact ⟨sound', kept⟩
  | turn index => exact Intake.turn_sound index sound
  | settle turns => exact settle_sound turns sound
  | advance ms => exact Intake.now_sound sound (startup.intake.now + ms)

/-- A startup keeps them too, but for its claims. It composes only after it has seen every load
that it has claimed succeed. -/
theorem bootstrap_sound (behave : Behaviour M S) (turns budget : Nat) (paths : List NodePath)
    (sound : startup.IsSound) :
    (startup.bootstrap behave turns budget paths).2.IsSound ∧
      startup.claim.Keeps (startup.bootstrap behave turns budget paths).2 ∧
      ((startup.waitForLoads turns).1 = .ok () →
        ∀ index ∈ startup.intake.unclaimed, ∀ name phase,
          (startup.bootstrap behave turns budget paths).2.intake.Loads index name phase →
            phase = .ended (.ok ())) := by
  obtain ⟨sound', kept, succeeded⟩ := waitForLoads_sound turns sound
  unfold bootstrap
  split
  · rename_i failure waited ended
    rw [ended] at sound' kept succeeded
    refine ⟨sound', kept, fun done => succeeded ?_⟩
    rwa [ended] at done
  · rename_i waited ended
    rw [ended] at sound' kept succeeded
    obtain ⟨composed, kept'⟩ := workshop_sound sound'
      (Workshop.contains_of_composeAll behave budget paths)
    exact ⟨composed, kept.trans kept', fun _ => succeeded rfl⟩

/-- No step drops a load. -/
theorem loads_after (behave : Behaviour M S) (loader : Loader M) (sound : startup.IsSound)
    (step : StartupStep M) {index : Nat} {name : String} {phase : Phase M}
    (here : startup.intake.Loads index name phase) :
    ∃ later, (startup.after behave loader step).intake.Loads index name later := by
  rcases step.kinds with aside | ⟨page, resources, rfl⟩ | ⟨turns, budget, paths, rfl⟩
  · obtain ⟨later, there, -⟩ := (after_sound behave loader sound aside).2.loads here
    exact ⟨later, there⟩
  · exact ⟨phase, (Intake.inject_sound loader page resources sound).2.loads here⟩
  · obtain ⟨-, kept, -⟩ := bootstrap_sound behave turns budget paths sound
    obtain ⟨later, there, -⟩ := kept.loads here
    exact ⟨later, there⟩

end Startup

section
variable {M S : Type} {behave : Behaviour M S} {loader : Loader M} {settings : Settings}
  {workshop : Workshop M S} {past : StartupPast M S} {startup : Startup M S}

theorem GivenUp.later {name : String} (given : GivenUp past name)
    (done : Startup M S × StartupStep M) : GivenUp (done :: past) name := by
  obtain ⟨earlier, member, claimed⟩ := given
  exact ⟨earlier, List.mem_cons_of_mem _ member, claimed⟩

theorem StartupRun.sound
    (run : StartupRun behave loader (.opening settings workshop) past startup) :
    startup.IsSound := by
  induction run with
  | start => exact Startup.opening_sound settings workshop
  | @next past startup before step ih =>
    rcases step.kinds with aside | ⟨page, resources, rfl⟩ | ⟨turns, budget, paths, rfl⟩
    · exact (Startup.after_sound behave loader ih aside).1
    · exact (Intake.inject_sound loader page resources ih).1
    · exact (Startup.bootstrap_sound behave turns budget paths ih).1

/-- Every load is left to the next startup, has been given up by an earlier one, or has
succeeded. -/
theorem StartupRun.settled
    (run : StartupRun behave loader (.opening settings workshop) past startup)
    {index : Nat} {name : String} {phase : Phase M}
    (loads : startup.intake.Loads index name phase) :
    index ∈ startup.intake.unclaimed ∨ GivenUp past name ∨ phase = .ended (.ok ()) := by
  induction run generalizing index name phase with
  | start =>
    obtain ⟨resource, -, impossible⟩ := loads
    cases impossible
  | @next past startup before step ih =>
    have sound := StartupRun.sound before
    -- what has been given up or has succeeded before stays so
    have onward : ∀ {after : Startup M S} (claims : List Nat),
        Kept startup.workshop.roster { startup.intake with unclaimed := claims }
          after.workshop.roster after.intake →
        after.intake.Loads index name phase → ∃ earlier, startup.intake.Loads index name earlier ∧
          (earlier = .ended (.ok ()) → phase = .ended (.ok ())) := by
      intro after claims kept there
      obtain ⟨earlier, here⟩ := kept.loaded there
      obtain ⟨later, elsewhere, same⟩ := kept.loads here
      refine ⟨earlier, here, ?_⟩
      rintro rfl
      rw [(there.unique elsewhere).2, same rfl]
    rcases step.kinds with aside | ⟨page, resources, rfl⟩ | ⟨turns, budget, paths, rfl⟩
    · have kept := (Startup.after_sound behave loader sound aside).2
      obtain ⟨earlier, here, same⟩ := onward startup.intake.unclaimed kept loads
      rcases ih here with claimed | given | ended
      · rw [← kept.claims] at claimed
        exact .inl claimed
      · exact .inr (.inl (given.later _))
      · exact .inr (.inr (same ended))
    · obtain ⟨-, extended⟩ := Intake.inject_sound loader page resources sound
      rcases extended.fresh loads with earlier | claimed
      · rcases ih earlier with claimed | given | succeeded
        · exact .inl (extended.claims claimed)
        · exact .inr (.inl (given.later _))
        · exact .inr (.inr succeeded)
      · exact .inl claimed
    · obtain ⟨-, kept, succeeded⟩ := Startup.bootstrap_sound behave turns budget paths sound
      obtain ⟨earlier, here, same⟩ := onward [] kept loads
      rcases ih here with claimed | given | ended
      · cases waited : (startup.waitForLoads turns).1 with
        | ok => exact .inr (.inr (succeeded waited index claimed name phase loads))
        | error failure =>
          exact .inr (.inl ⟨(startup, .bootstrap turns budget paths), List.mem_cons_self ..,
            turns, budget, paths, failure, rfl, waited, index, claimed, earlier, here⟩)
      · exact .inr (.inl (given.later _))
      · exact .inr (.inr (same ended))

/-- What has been given up is still loaded. -/
theorem StartupRun.loads_of_givenUp {name : String}
    (run : StartupRun behave loader (.opening settings workshop) past startup)
    (given : GivenUp past name) : ∃ index phase, startup.intake.Loads index name phase := by
  induction run with
  | start =>
    obtain ⟨done, impossible, -⟩ := given
    cases impossible
  | @next past startup before step ih =>
    obtain ⟨index, phase, here⟩ : ∃ index phase, startup.intake.Loads index name phase := by
      obtain ⟨done, member, turns, budget, paths, failure, started, failed, index, claimed, phase,
        here⟩ := given
      rcases List.mem_cons.mp member with rfl | earlier
      · exact ⟨index, phase, here⟩
      · exact ih ⟨done, earlier, turns, budget, paths, failure, started, failed, index, claimed,
          phase, here⟩
    exact ⟨index, Startup.loads_after behave loader (StartupRun.sound before) step here⟩

/-- A startup attempts to compose only after it has waited with success. At each attempt everything
that is tracked has been registered, exactly when that is so for all that earlier startups have
given up. -/
theorem bootstrap_complete_iff
    (run : StartupRun behave loader (.opening settings workshop) past startup)
    {turns budget : Nat} {waited : Startup M S}
    (composing : startup.waitForLoads turns = (.ok (), waited)) {paths : List NodePath}
    {attempt : Workshop M S}
    (composed : waited.workshop.composeAll behave budget paths = (some (.ok ()), attempt)) :
    ({ waited with workshop := attempt } : Startup M S).IsComplete ↔
      ∀ name, GivenUp past name → waited.intake.tracked.find? name = some .registered := by
  obtain ⟨sound, kept, succeeded⟩ := Startup.waitForLoads_sound turns (StartupRun.sound run)
  rw [composing] at sound kept succeeded
  have more : ∀ {name}, waited.workshop.roster.contains name = true →
      attempt.roster.contains name = true := by
    intro name known
    have kept := Workshop.contains_of_composeAll behave budget paths known
    rwa [composed] at kept
  constructor
  · intro complete name given
    obtain ⟨index, phase, here⟩ := run.loads_of_givenUp given
    obtain ⟨later, there, -⟩ := kept.loads here
    refine (complete name ?_).1
    rw [Table.contains_eq_isSome, sound.seen there]
    rfl
  · intro registered name tracked
    obtain ⟨index, phase, there⟩ := sound.loaded tracked
    obtain ⟨earlier, here⟩ := kept.loaded there
    have ended : phase = .ended (.ok ()) := by
      rcases StartupRun.settled run here with claimed | given | ended
      · exact succeeded rfl index claimed name phase there
      · have seen := registered name given
        rw [sound.seen there] at seen
        exact Phase.eq_of_progress_eq_registered (Option.some.inj seen)
      · obtain ⟨later, elsewhere, same⟩ := kept.loads here
        rw [(there.unique elsewhere).2, same (by rw [ended]; rfl), ended]
    rw [ended] at there
    exact ⟨sound.seen there, more (sound.present there)⟩

end

def plain : Behaviour Unit Unit :=
  { construct := fun _ services => services, initializer := fun _ => none }

def late : Loader Unit := fun resource =>
  .sleep 1000 (.register { name := resource.name, body := () } fun _ => .finish (.ok ()))

private theorem eq_ok_of_isOk {result : Except Failure Unit} (ok : result.isOk = true) :
    result = .ok () := by
  cases result with
  | ok => rfl
  | error failure => cases ok

private theorem eq_ok_of_any {result : Option (Except Failure Unit)}
    (ok : result.any Except.isOk = true) : result = some (.ok ()) := by
  cases result with
  | none => cases ok
  | some result => rw [eq_ok_of_isOk ok]

def timedOut : StartupPast Unit Unit × Startup Unit Unit :=
  Startup.follow plain late
    [.register { name := "home", body := () }, .inject {} [{ name := "reports", locator := "" }],
      .bootstrap 8 8 [{ area := "home" }]]
    ([], .opening { timeoutMs := 10 } { services := () })

theorem bootstrap_incomplete_after_timeout : ∃ past startup,
    StartupRun plain late (.opening { timeoutMs := 10 } { services := () }) past startup ∧
      (startup.waitForLoads 8).1 = .ok () ∧ ¬ (startup.waitForLoads 8).2.IsComplete ∧
      (startup.bootstrap plain 8 8 [{ area := "home" }]).1 = some (.ok ()) := by
  have pending : (timedOut.2.waitForLoads 8).2.intake.tracked.find? "reports" = some .pending := by
    decide +kernel
  refine ⟨timedOut.1, timedOut.2, StartupRun.start.follow _, ?_, ?_, ?_⟩
  · exact eq_ok_of_isOk (by decide +kernel)
  · intro complete
    have registered := (complete "reports" (by rw [Table.contains_eq_isSome, pending]; rfl)).1
    rw [pending] at registered
    cases registered
  · exact eq_ok_of_any (by decide +kernel)

def caughtUp : StartupPast Unit Unit × Startup Unit Unit :=
  Startup.follow plain late [.advance 2000, .settle 8] timedOut

theorem bootstrap_complete_iff_caught_up : ∃ past startup,
    StartupRun plain late (.opening { timeoutMs := 10 } { services := () }) past startup ∧
      (startup.bootstrap plain 8 8 [{ area := "home" }]).1 = some (.ok ()) ∧
      (startup.waitForLoads 8).2.intake.tracked.keys = ["reports"] ∧
      ({ (startup.waitForLoads 8).2 with
          workshop := ((startup.waitForLoads 8).2.workshop.composeAll plain 8
            [{ area := "home" }]).2 } : Startup Unit Unit).IsComplete := by
  have first : StartupRun plain late (.opening { timeoutMs := 10 } { services := () })
      timedOut.1 timedOut.2 := StartupRun.start.follow _
  have run : StartupRun plain late (.opening { timeoutMs := 10 } { services := () })
      caughtUp.1 caughtUp.2 := first.follow [.advance 2000, .settle 8]
  have waited : caughtUp.2.waitForLoads 8 = (.ok (), (caughtUp.2.waitForLoads 8).2) :=
    Prod.ext (eq_ok_of_isOk (by decide +kernel)) rfl
  have composed : (caughtUp.2.waitForLoads 8).2.workshop.composeAll plain 8 [{ area := "home" }] =
      (some (.ok ()), ((caughtUp.2.waitForLoads 8).2.workshop.composeAll plain 8
        [{ area := "home" }]).2) :=
    Prod.ext (eq_ok_of_any (by decide +kernel)) rfl
  refine ⟨caughtUp.1, caughtUp.2, run, eq_ok_of_any (by decide +kernel), by decide +kernel, ?_⟩
  refine (bootstrap_complete_iff run waited composed).mpr fun name given => ?_
  obtain ⟨index, phase, here⟩ := run.loads_of_givenUp given
  have tracked : name ∈ caughtUp.2.intake.tracked.keys := by
    rw [← Table.contains_iff_mem_keys, Table.contains_eq_isSome, (StartupRun.sound run).seen here]
    rfl
  have only : caughtUp.2.intake.tracked.keys = ["reports"] := by decide +kernel
  rw [only, List.mem_singleton] at tracked
  rw [tracked]
  decide +kernel

end PageSession.Assembly
