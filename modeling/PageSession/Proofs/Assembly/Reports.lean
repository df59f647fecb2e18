import PageSession.Proofs.Assembly.Records

/-!
Which failures a startup reports. What will have come of the loads when its time is up does not
depend on what the startup asks before, so that it can be told by leaving the loads alone until
then. Of a failure among few loads the startup hears in time. More loads than the limit it hears
out one after the other, and a failure behind a load that stays silent is never reported.
-/
namespace PageSession.Assembly
open Page

/-! ## Verdicts -/

section
variable {outcomes : List (Option (Except Failure Unit))} {failure : Failure}

/-- The loads are few, or all loads before one that fails succeed. -/
def Sees (outcomes : List (Option (Except Failure Unit))) : Prop :=
  outcomes.length ≤ watchLimit ∨ ∃ earlier failure later,
    outcomes = earlier ++ some (.error failure) :: later ∧
      ∀ outcome ∈ earlier, outcome = some (.ok ())

theorem firstFailure_eq_error (failed : firstFailure outcomes = some (.error failure)) :
    some (.error failure) ∈ outcomes := by
  induction outcomes with
  | nil => cases failed
  | cons outcome rest ih =>
    unfold firstFailure at failed
    cases outcome with
    | none =>
      dsimp only at failed
      split at failed
      · rename_i found
        cases failed
        exact List.mem_cons_of_mem _ (ih found)
      · cases failed
    | some result =>
      cases result with
      | ok => exact List.mem_cons_of_mem _ (ih failed)
      | error =>
        cases failed
        exact List.mem_cons_self ..

/-- Whoever watches all hears of a failure. -/
theorem exists_firstFailure (listed : some (.error failure) ∈ outcomes) :
    ∃ first, firstFailure outcomes = some (.error first) := by
  induction outcomes with
  | nil => cases listed
  | cons outcome rest ih =>
    cases outcome with
    | none =>
      obtain ⟨first, found⟩ := ih (by simpa using listed)
      refine ⟨first, ?_⟩
      unfold firstFailure
      rw [found]
    | some result =>
      cases result with
      | ok => exact ih (by simpa using listed)
      | error other => exact ⟨other, rfl⟩

/-- Whoever listens to one after the other hears of a failure when all before it succeed. -/
theorem inTurn_eq_error_iff : inTurn outcomes = some (.error failure) ↔
    ∃ earlier later, outcomes = earlier ++ some (.error failure) :: later ∧
      ∀ outcome ∈ earlier, outcome = some (.ok ()) := by
  constructor
  · intro failed
    induction outcomes with
    | nil => cases failed
    | cons outcome rest ih =>
      unfold inTurn at failed
      cases outcome with
      | none => cases failed
      | some result =>
        cases result with
        | error =>
          cases failed
          exact ⟨[], rest, rfl, List.forall_mem_nil _⟩
        | ok =>
          obtain ⟨earlier, later, rfl, succeeded⟩ := ih failed
          exact ⟨_ :: earlier, later, rfl, List.forall_mem_cons.mpr ⟨rfl, succeeded⟩⟩
  · rintro ⟨earlier, later, rfl, succeeded⟩
    induction earlier with
    | nil => rfl
    | cons outcome earlier ih =>
      obtain ⟨rfl, others⟩ := List.forall_mem_cons.mp succeeded
      exact ih others

theorem gather_eq_error (failed : gather outcomes = some (.error failure)) :
    some (.error failure) ∈ outcomes ∧ Sees outcomes := by
  unfold gather at failed
  split at failed
  · rename_i few
    exact ⟨firstFailure_eq_error failed, .inl few⟩
  · obtain ⟨earlier, later, rfl, succeeded⟩ := inTurn_eq_error_iff.mp failed
    exact ⟨List.mem_append_right _ (List.mem_cons_self ..),
      .inr ⟨earlier, failure, later, rfl, succeeded⟩⟩

/-- A failure that is seen is the answer. -/
theorem Sees.gather (sees : Sees outcomes) (listed : some (.error failure) ∈ outcomes) :
    ∃ reported, gather outcomes = some (.error reported) := by
  unfold Assembly.gather
  split
  · exact exists_firstFailure listed
  · rename_i many
    rcases sees with few | ⟨earlier, first, later, split, succeeded⟩
    · exact absurd few many
    · exact ⟨first, inTurn_eq_error_iff.mpr ⟨earlier, later, split, succeeded⟩⟩

/-- What is seen is still seen when more is known. -/
theorem Sees.mono {claimed : List Nat} {before after : Nat → Option (Except Failure Unit)}
    (known : ∀ index result, before index = some result → after index = some result)
    (sees : Sees (claimed.map before)) : Sees (claimed.map after) := by
  rcases sees with few | ⟨earlier, failure, later, split, succeeded⟩
  · exact .inl (by rwa [List.length_map] at few ⊢)
  · obtain ⟨front, back, rfl, rfl, others⟩ := List.map_eq_append_iff.mp split
    obtain ⟨index, rest, rfl, failed, rfl⟩ := List.map_eq_cons_iff.mp others
    refine .inr ⟨front.map after, failure, rest.map after, ?_, ?_⟩
    · rw [List.map_append, List.map_cons, known index _ failed]
    · rw [List.forall_mem_map] at succeeded ⊢
      exact fun other member => known other _ (succeeded other member)

end

/-! ## Waits -/

namespace Startup
variable {M S : Type}

/-- The page at a deadline, when nobody asks anything before. -/
def leftAlone (turns deadline : Nat) (startup : Startup M S) : Startup M S :=
  (startup.waitUntil (fun _ => (none : Option Unit)) turns deadline).2

/-- The page after a round of a wait: all tasks have worked as far as they can, and it is the time
at which one of them is due, or the deadline. -/
def round (turns deadline : Nat) (startup : Startup M S) : Startup M S :=
  let settled := startup.settle turns
  let due := (settled.intake.nextDue?.getD deadline).min deadline
  { settled with intake := { settled.intake with now := due.max (startup.intake.now + 1) } }

theorem leftAlone_early {turns deadline : Nat} {startup : Startup M S}
    (early : ¬ deadline ≤ startup.intake.now) :
    startup.leftAlone turns deadline = (startup.round turns deadline).leftAlone turns deadline := by
  unfold leftAlone
  conv =>
    lhs
    unfold waitUntil
  dsimp only
  rw [if_neg early]
  rfl

/-- Whoever waits is on the way to the deadline, and who has no answer has arrived there. -/
theorem waitUntil_leftAlone {α : Type} (ask : Startup M S → Option α) (turns deadline : Nat)
    (startup : Startup M S) :
    Intake.Moves (startup.waitUntil ask turns deadline).2.books
        (startup.leftAlone turns deadline).books ∧
      ((startup.waitUntil ask turns deadline).1 = none →
        (startup.waitUntil ask turns deadline).2 = startup.leftAlone turns deadline ∧
          ask (startup.leftAlone turns deadline) = none) := by
  fun_induction waitUntil ask turns deadline startup with
  | case1 startup answer known =>
    exact ⟨waitUntil_moves _ turns deadline startup, fun impossible => by cases impossible⟩
  | case2 startup unknown late =>
    have arrived : startup.leftAlone turns deadline = startup := by
      unfold leftAlone waitUntil
      rw [if_pos late]
    rw [arrived]
    exact ⟨.refl, fun _ => ⟨rfl, unknown⟩⟩
  | case3 startup unknown early settled answer known =>
    have passes : Intake.Move settled.books (startup.round turns deadline).books :=
      .pass _ _ _
    rw [leftAlone_early early]
    exact ⟨.head passes (waitUntil_moves _ turns deadline _), fun impossible => by cases impossible⟩
  | case4 startup unknown early settled still due next ih =>
    rw [leftAlone_early early]
    exact ih

/-- What will have come of the loads that a startup waits for when its time is up. -/
def prospects (turns : Nat) (startup : Startup M S) : List (Option (Except Failure Unit)) :=
  startup.intake.unclaimed.map (startup.claim.leftAlone turns startup.deadline).intake.outcome?

/-- What a startup is told in its wait will still be so when its time is up. -/
theorem prospects_of_wait (turns : Nat) {startup : Startup M S} (sound : startup.IsSound) :
    match (startup.listen turns).1 with
    | none => gather (startup.prospects turns) = none
    | some (.ok ()) => ∀ outcome ∈ startup.prospects turns, outcome = some (.ok ())
    | some (.error failure) =>
      some (.error failure) ∈ startup.prospects turns ∧ Sees (startup.prospects turns) := by
  obtain ⟨onward, arrived⟩ := waitUntil_leftAlone startup.verdict? turns startup.deadline
    startup.claim
  obtain ⟨-, -, answered⟩ := waitUntil_sound startup.verdict? turns startup.deadline
    (claim_sound sound)
  cases told : (startup.listen turns).1 with
  | none => exact (arrived told).2
  | some result =>
    have verdict := answered result told
    cases result with
    | ok =>
      have succeeded := gather_eq_ok verdict
      unfold prospects
      rw [List.forall_mem_map] at succeeded ⊢
      exact fun index claimed => onward.outcome? (succeeded index claimed)
    | error failure =>
      obtain ⟨listed, sees⟩ := gather_eq_error verdict
      obtain ⟨index, claimed, failed⟩ := List.mem_map.mp listed
      exact ⟨List.mem_map.mpr ⟨index, claimed, onward.outcome? failed⟩,
        sees.mono fun index result => onward.outcome?⟩

end Startup

section
variable {M S : Type} {behave : Behaviour M S} {loader : Loader M} {settings : Settings}
  {workshop : Workshop M S} {past : StartupPast M S} {startup : Startup M S}

/-- Whatever a load comes to, if it has failed, the failure is one about resources or modules. -/
theorem isOfLoad_of_prospects
    (run : StartupRun behave loader (.opening settings workshop) past startup) {turns : Nat}
    {failure : Failure} (failing : some (.error failure) ∈ startup.prospects turns) :
    failure.isOfLoad = true := by
  obtain ⟨index, claimed, failed⟩ := List.mem_map.mp failing
  have moves := Startup.waitUntil_moves (fun _ => (none : Option Unit)) turns startup.deadline
    startup.claim
  have sound := StartupRun.sound run
  obtain ⟨name, phase, here⟩ := sound.claims index claimed
  obtain ⟨later, there, -⟩ := (moves.sound (Startup.claim_sound sound)).2.loads here
  exact (moves.matches ((StartupRun.matches run).of_tasks rfl)).isOfLoad there failed

/-- When one of the loads that a startup waits for fails before its time is up, nothing is
composed. If the startup sees a failure, it reports one that has come of these loads; otherwise it
reports that its time was up. -/
theorem failed_load_reported
    (run : StartupRun behave loader (.opening settings workshop) past startup) {turns : Nat}
    {failure : Failure} (failing : some (.error failure) ∈ startup.prospects turns)
    (budget : Nat) (paths : List NodePath) :
    (∃ roster, (startup.bootstrap behave turns budget paths).2.workshop =
        { startup.workshop with roster }) ∧
      (Sees (startup.prospects turns) → ∃ reported, reported.isOfLoad = true ∧
        some (.error reported) ∈ startup.prospects turns ∧
        (startup.bootstrap behave turns budget paths).1 = some (.error reported)) ∧
      (¬ Sees (startup.prospects turns) → ∃ missing,
        (startup.bootstrap behave turns budget paths).1 =
          some (.error (.timedOut missing startup.settings.timeoutMs))) := by
  have told := Startup.prospects_of_wait turns (StartupRun.sound run)
  have waited := congrArg Prod.fst (startup.waitForLoads_eq_listen turns)
  dsimp only at waited
  obtain ⟨roster, intake, apart⟩ := startup.waitForLoads_apart turns
  split at told
  · -- told nothing, it would have been told of a failure that it sees
    rename_i unknown
    rw [unknown] at waited
    rw [Startup.bootstrap_of_failed behave budget paths waited, apart]
    refine ⟨⟨roster, rfl⟩, fun sees => ?_, fun _ => ⟨_, rfl⟩⟩
    obtain ⟨reported, answer⟩ := sees.gather failing
    rw [told] at answer
    cases answer
  · cases told _ failing
  · rename_i reported known
    obtain ⟨listed, sees⟩ := told
    rw [known] at waited
    rw [Startup.bootstrap_of_failed behave budget paths waited, apart]
    exact ⟨⟨roster, rfl⟩, fun _ => ⟨reported, isOfLoad_of_prospects run listed, listed, rfl⟩,
      fun blind => absurd sees blind⟩

end

/-- Resources that never bring a module, but for a broken one, which fails after a while. -/
def brittle : Loader Unit := fun resource =>
  if resource.locator = "broken" then .sleep 5 (.finish (.error (.resource resource.name "boom")))
  else .finish (.ok ())

/-- Behind so many silent loads, of which every one has had its turn, a broken one. -/
def behindSilent (silent : Nat) : StartupPast Unit Unit × Startup Unit Unit :=
  let named (name : Nat) : Resource := { name := toString name, locator := "silent" }
  let resources := (List.range silent).map named ++ [{ name := "reports", locator := "broken" }]
  Startup.follow plain brittle (.inject {} resources :: (List.range silent).map .turn)
    ([], .opening { timeoutMs := 10 } { services := () })

private theorem exists_failure {outcomes : List (Option (Except Failure Unit))}
    (failed : (outcomes.any fun outcome => outcome.any fun result => !result.isOk) = true) :
    ∃ failure, some (.error failure) ∈ outcomes := by
  obtain ⟨outcome, listed, failed⟩ := List.any_eq_true.mp failed
  cases outcome with
  | none => cases failed
  | some result =>
    cases result with
    | ok => cases failed
    | error failure => exact ⟨failure, listed⟩

/-- The failure behind two loads that stay silent is reported. -/
theorem failed_load_reported_behind_silent : ∃ past startup,
    StartupRun plain brittle (.opening { timeoutMs := 10 } { services := () }) past startup ∧
      (∃ failure, some (.error failure) ∈ startup.prospects 8) ∧ none ∈ startup.prospects 8 ∧
      ∃ reported, reported.isOfLoad = true ∧ some (.error reported) ∈ startup.prospects 8 ∧
        (startup.bootstrap plain 8 8 [{ area := "home" }]).1 = some (.error reported) := by
  have run : StartupRun plain brittle (.opening { timeoutMs := 10 } { services := () })
      (behindSilent 2).1 (behindSilent 2).2 := StartupRun.start.follow _
  obtain ⟨failure, failing⟩ : ∃ failure, some (.error failure) ∈ (behindSilent 2).2.prospects 8 :=
    exists_failure (by decide +kernel)
  have pending : ((behindSilent 2).2.prospects 8).any Option.isNone = true := by decide +kernel
  obtain ⟨outcome, listed, unknown⟩ := List.any_eq_true.mp pending
  rw [Option.isNone_iff_eq_none.mp unknown] at listed
  obtain ⟨-, reports, -⟩ := failed_load_reported run failing 8 [{ area := "home" }]
  exact ⟨_, _, run, ⟨failure, failing⟩, listed, reports (.inl (by decide +kernel))⟩

/-- Behind as many silent loads as are watched all at once the failure is not reported. -/
theorem failed_load_unreported : ∃ past startup missing waited,
    StartupRun plain brittle (.opening { timeoutMs := 10 } { services := () }) past startup ∧
      (∃ failure, some (.error failure) ∈ startup.prospects 8) ∧
      (startup.bootstrap plain 8 8 [{ area := "home" }]).1 =
        some (.error (.timedOut missing waited)) := by
  have run : StartupRun plain brittle (.opening { timeoutMs := 10 } { services := () })
      (behindSilent watchLimit).1 (behindSilent watchLimit).2 := StartupRun.start.follow _
  have failing : ∃ failure, some (.error failure) ∈ (behindSilent watchLimit).2.prospects 8 :=
    exists_failure (by decide +kernel)
  have told : (Startup.missing? ((behindSilent watchLimit).2.bootstrap plain 8 8
      [{ area := "home" }]).1).isSome = true := by
    decide +kernel
  obtain ⟨missing, told⟩ := Option.isSome_iff_exists.mp told
  obtain ⟨waited, result⟩ := Startup.timedOut_of_missing? told
  exact ⟨_, _, missing, waited, run, failing, result⟩

end PageSession.Assembly
