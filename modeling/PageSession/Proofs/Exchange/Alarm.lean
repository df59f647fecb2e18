import PageSession.Proofs.Exchange.Deadlines

/-!
The alarm of the only service. A service computes its alarm, lets others act, and sleeps; meanwhile
requests come and go. It never misses a deadline: while it sleeps, its alarm goes off in time for
every request that waits, or it has been notified and will look again.
-/
namespace PageSession.Exchange

namespace Desk
variable {H W : Type}

def CoveredBy (desk : Desk H W) (alarm : Option Nat) : Prop :=
  ∀ deadline, desk.Awaits deadline → ∃ time, alarm = some time ∧ time ≤ deadline

theorem coveredBy_nextDeadline? (desk : Desk H W) : desk.CoveredBy desk.nextDeadline? := by
  intro deadline waiting
  exact nextDeadline?_le waiting

theorem CoveredBy.mono {desk after : Desk H W} {alarm : Option Nat} (covered : desk.CoveredBy alarm)
    (fewer : ∀ deadline, after.Awaits deadline → desk.Awaits deadline) : after.CoveredBy alarm :=
  fun deadline waiting => covered deadline (fewer deadline waiting)

/-! ## One service -/

theorem services_cases {desk : Desk H W} (few : desk.services.length ≤ 1) :
    desk.services = [] ∨ ∃ service, desk.services = [service] := by
  match services : desk.services with
  | [] => exact .inl rfl
  | [service] => exact .inr ⟨service, rfl⟩
  | first :: second :: rest =>
    rw [services, List.length_cons, List.length_cons] at few
    omega

theorem services_of_mem {desk : Desk H W} {service : Service} (few : desk.services.length ≤ 1)
    (member : service ∈ desk.services) : desk.services = [service] := by
  rcases services_cases few with nobody | ⟨other, alone⟩
  · rw [nobody] at member
    cases member
  · rw [alone, List.mem_singleton] at member
    rw [alone, member]

theorem services_of_service? {desk : Desk H W} {line : Nat} {service : Service}
    (few : desk.services.length ≤ 1) (found : desk.service? line = some service) :
    desk.services = [service] ∧ service.line = line :=
  ⟨services_of_mem few (mem_of_service? found), line_of_service? found⟩

theorem service?_of_mem {desk : Desk H W} {service : Service} (few : desk.services.length ≤ 1)
    (member : service ∈ desk.services) : desk.service? service.line = some service := by
  rw [service?, services_of_mem few member, List.find?_singleton, if_pos (by simp)]

theorem setService_alone {desk : Desk H W} {service other : Service}
    (alone : desk.services = [service]) (same : service.line = other.line) :
    (desk.setService other).services = [other] := by
  simp only [setService, alone, List.map_cons, List.map_nil, same, if_true]

/-- A sleeping service is notified, and an awake one finds a permit. -/
theorem notifyService_alone {desk : Desk H W} {service : Service}
    (alone : desk.services = [service]) :
    (service.parked = true → desk.notifyService.services = [{ service with notified := true }]) ∧
      (service.parked = false →
        desk.notifyService.services = [service] ∧ desk.notifyService.permit = true) := by
  obtain ⟨line, parked, alarm, notified, stopping⟩ := service
  unfold notifyService
  rw [alone, List.find?_singleton]
  cases parked with
  | false => exact ⟨fun impossible => (by cases impossible), fun _ => ⟨rfl, rfl⟩⟩
  | true =>
    refine ⟨fun _ => ?_, fun impossible => (by cases impossible)⟩
    cases notified with
    | false => exact setService_alone alone rfl
    | true => rfl

/-- A service that takes part in a turn is awake and has no alarm. -/
theorem unpark_alone {desk : Desk H W} {service : Service} (alone : desk.services = [service]) :
    (desk.unpark service).services =
      [{ service with parked := false, alarm := none, notified := false }] := by
  have awake : (desk.setService
      { service with parked := false, alarm := none, notified := false }).services = _ :=
    setService_alone alone rfl
  unfold unpark
  dsimp only
  split
  · exact ((notifyService_alone awake).2 rfl).1
  · exact awake

end Desk

def Move.isStart {H : Type} : Move H → Bool
  | .start => true
  | _ => false

/-- What a move between operations means for the services and their aims. -/
inductive Turned {H W : Type} (desk : Desk H W) (aims : Nat → Option (Option Nat)) (move : Move H)
    (after : Stage H W) : Prop
  | aside (services : Desk.SameServices desk after.desk) (same : after.aims = aims)
  | joined (line : Nat) (first : move.isStart = true)
    (services : after.desk.services = desk.services ++ [{ line := line }])
    (same : after.aims = aims)
  | worked (line : Nat) (service : Service) (found : desk.service? line = some service)
    (services : Desk.SameServices (desk.unpark service) after.desk)
    (forgotten : after.aims = Stage.forget aims line)
  | woke (line : Nat) (service : Service) (found : desk.service? line = some service)
    (services : Desk.SameServices (desk.rouse service) after.desk)
    (forgotten : after.aims = Stage.forget aims line)
  | aimed (line : Nat) (service : Service) (found : desk.service? line = some service)
    (awake : service.parked = false) (services : Desk.SameServices desk after.desk)
    (aiming : after.aims = fun other =>
      if other = line then some desk.nextDeadline? else aims other)
  | slept (line : Nat) (service : Service) (found : desk.service? line = some service)
    (awake : service.parked = false) (alarm : Option Nat) (aim : aims line = some alarm)
    (services : Desk.SameServices (desk.lull service alarm) after.desk)
    (forgotten : after.aims = Stage.forget aims line)
  | left (line : Nat) (service : Service) (found : desk.service? line = some service)
    (services : Desk.SameServices (desk.dismiss service) after.desk)
    (forgotten : after.aims = Stage.forget aims line)

theorem turned_of_begin {H W : Type} {desk : Desk H W} {aims : Nat → Option (Option Nat)}
    {move : Move H} {after : Stage H W} (made : Stage.begin desk aims move = some after) :
    Turned desk aims move after := by
  cases Stage.begins_of_begin made with
  | act | pump | report | lay | dial | advance | schedule => exact .aside ⟨rfl, rfl⟩ rfl
  | start line byHand => exact .joined line rfl rfl rfl
  | opened outcome unused =>
    obtain ⟨link, stream, agenda, opened⟩ := Desk.opened_desk desk outcome
    have same : Desk.SameServices desk (desk.opened outcome).2 := by
      rw [opened]
      exact ⟨rfl, rfl⟩
    exact .aside same rfl
  | handle line service frame taken found received =>
    obtain ⟨link, rfl⟩ := Desk.takeNext?_desk received
    have taken : Desk.SameServices desk { desk with link } := ⟨rfl, rfl⟩
    have same := taken.unpark service
    exact .worked line service found ⟨same.services, same.permit⟩ rfl
  | expire line service found due => exact .worked line service found ⟨rfl, rfl⟩ rfl
  | wake line service found notified => exact .woke line service found ⟨rfl, rfl⟩ rfl
  | aim line service found awake => exact .aimed line service found awake ⟨rfl, rfl⟩ rfl
  | sleep line service alarm found aim awake =>
    exact .slept line service found awake alarm aim ⟨rfl, rfl⟩ rfl
  | leave line service found ready =>
    obtain ⟨link, released⟩ := (desk.dismiss service).release_desk line
    refine .left line service found ?_ rfl
    show Desk.SameServices _ ((desk.dismiss service).release line)
    rw [released]
    exact ⟨rfl, rfl⟩

/-- There is at most one service. While it sleeps it has been notified, or its alarm covers what
waits; while it is about to sleep it will find a permit, or the alarm that it has computed covers
what waits. -/
structure Alert {H W : Type} (desk : Desk H W) (aims : Nat → Option (Option Nat)) : Prop where
  few : desk.services.length ≤ 1
  known : ∀ line alarm, aims line = some alarm → ∃ service ∈ desk.services, service.line = line
  parked : ∀ service ∈ desk.services, service.parked = true →
    service.notified = true ∨ desk.CoveredBy service.alarm
  awake : ∀ service ∈ desk.services, service.parked = false →
    ∀ alarm, aims service.line = some alarm → desk.permit = true ∨ desk.CoveredBy alarm

namespace Alert
variable {H W : Type} {desk after : Desk H W} {aims : Nat → Option (Option Nat)}

/-- Without services there is nothing to see to. -/
theorem of_nil (services : desk.services = []) : Alert desk fun _ => none where
  few := by simp [services]
  known := by simp
  parked := by simp [services]
  awake := by simp

theorem of_alone {service : Service} (alone : desk.services = [service])
    (known : ∀ line alarm, aims line = some alarm → service.line = line)
    (parked : service.parked = true → service.notified = true ∨ desk.CoveredBy service.alarm)
    (awake : service.parked = false →
      ∀ alarm, aims service.line = some alarm → desk.permit = true ∨ desk.CoveredBy alarm) :
    Alert desk aims where
  few := by simp [alone]
  known line alarm aimed := ⟨service, by simp [alone], known line alarm aimed⟩
  parked := by simpa [alone] using parked
  awake := by simpa [alone] using awake

/-- A service that is awake and has not looked at the deadlines needs no alarm. -/
theorem of_awake {service : Service} (alone : desk.services = [service])
    (awake : service.parked = false) : Alert desk fun _ => none := by
  refine of_alone alone (fun line alarm aimed => (by cases aimed)) ?_ ?_
  · intro parked
    rw [awake] at parked
    cases parked
  · intro _ alarm aimed
    cases aimed

theorem mono (alert : Alert desk aims) (services : after.services = desk.services)
    (permit : after.permit = desk.permit)
    (fewer : ∀ deadline, after.Awaits deadline → desk.Awaits deadline) : Alert after aims where
  few := by
    rw [services]
    exact alert.few
  known := by
    rw [services]
    exact alert.known
  parked service member parked := by
    rw [services] at member
    exact (alert.parked service member parked).imp_right fun covered => covered.mono fewer
  awake service member awake alarm aimed := by
    rw [services] at member
    rw [permit]
    exact (alert.awake service member awake alarm aimed).imp_right fun covered =>
      covered.mono fewer

theorem aims_of_nil (alert : Alert desk aims) (services : desk.services = []) :
    aims = fun _ => none := by
  funext line
  cases aimed : aims line with
  | none => rfl
  | some alarm =>
    obtain ⟨service, member, -⟩ := alert.known line alarm aimed
    rw [services] at member
    cases member

/-- Only the service itself aims. -/
theorem line_of_aim (alert : Alert desk aims) {service : Service}
    (alone : desk.services = [service]) (line : Nat) (alarm : Option Nat)
    (aimed : aims line = some alarm) : service.line = line := by
  obtain ⟨other, member, same⟩ := alert.known line alarm aimed
  rw [alone, List.mem_singleton] at member
  rwa [member] at same

/-- Nobody else has an alarm to forget. -/
theorem forget_aims (alert : Alert desk aims) {line : Nat} {service : Service}
    (found : desk.service? line = some service) : Stage.forget aims line = fun _ => none := by
  obtain ⟨alone, same⟩ := Desk.services_of_service? alert.few found
  funext other
  unfold Stage.forget
  by_cases here : other = line
  · rw [if_pos here]
  · rw [if_neg here]
    cases aimed : aims other with
    | none => rfl
    | some alarm =>
      have itself := alert.line_of_aim alone other alarm aimed
      rw [same] at itself
      exact absurd itself.symm here

/-- A notification makes up for whatever has been submitted. -/
theorem notified (alert : Alert desk aims) (services : after.services = desk.notifyService.services)
    (permit : after.permit = desk.notifyService.permit) : Alert after aims := by
  rcases Desk.services_cases alert.few with nobody | ⟨service, alone⟩
  · rw [alert.aims_of_nil nobody]
    refine of_nil (services.trans ?_)
    simp only [Desk.notifyService, nobody, List.find?_nil]
  · obtain ⟨sleeping, waking⟩ := Desk.notifyService_alone alone
    have known := alert.line_of_aim alone
    cases parked : service.parked with
    | false =>
      obtain ⟨same, permitted⟩ := waking parked
      refine of_alone (services.trans same) known ?_ ?_
      · intro impossible
        rw [parked] at impossible
        cases impossible
      · intro _ _ _
        exact .inl (permit.trans permitted)
    | true =>
      refine of_alone (services.trans (sleeping parked)) known (fun _ => .inl rfl) ?_
      intro impossible
      exact absurd (parked.symm.trans impossible) (by decide)

theorem stopped (alert : Alert desk aims) : Alert desk.stopService aims := by
  have same : ∀ deadline, desk.stopService.Awaits deadline → desk.Awaits deadline :=
    fun deadline waiting => waiting.of_calls (Desk.sameBooks_stopService desk).calls
  unfold Desk.stopService at same ⊢
  split
  · rename_i service latest
    rw [latest] at same
    obtain ⟨line, -, found⟩ := Option.bind_eq_some_iff.mp latest
    obtain ⟨alone, -⟩ := Desk.services_of_service? alert.few found
    have member : service ∈ desk.services := by simp [alone]
    have known := alert.line_of_aim alone
    refine of_alone (Desk.setService_alone alone rfl) (fun _ _ aimed => known _ _ aimed) ?_ ?_
    · intro parked
      exact (alert.parked service member parked).imp_right fun covered => covered.mono same
    · intro awake alarm aimed
      exact (alert.awake service member awake alarm aimed).imp_right fun covered =>
        covered.mono same
  · exact alert

/-- Every step sees to it that no deadline is missed. -/
theorem step (behave : Behaviour H W) {m : Machine H W} (alert : Alert m.desk aims) :
    Alert (m.step behave).desk aims := by
  rcases Machine.step_services behave m with ⟨same, unsent⟩ | notified | ⟨control, -⟩
  · refine alert.mono same.services same.permit fun deadline waiting => ?_
    rcases Machine.awaits_of_step waiting with waited | ⟨s, id, control, accepted, -⟩
    · exact waited
    · exact absurd accepted (unsent s id control)
  · exact alert.notified notified.services notified.permit
  · rw [Machine.step_stop behave control]
    exact alert.stopped.mono rfl rfl fun deadline waiting => waiting

/-- So does every move between operations, unless it starts another service. -/
theorem begin {move : Move H} {after : Stage H W} (alert : Alert desk aims)
    (made : Stage.begin desk aims move = some after)
    (first : move.isStart = true → desk.services = []) : Alert after.desk after.aims := by
  have fewer : ∀ deadline, after.desk.Awaits deadline → desk.Awaits deadline :=
    fun deadline waiting => waiting.of_calls (Stage.begun_of_begin made).books.calls
  cases turned_of_begin made with
  | aside services same =>
    rw [same]
    exact alert.mono services.services services.permit fewer
  | joined line starting services same =>
    have nobody := first starting
    rw [same, alert.aims_of_nil nobody]
    rw [nobody, List.nil_append] at services
    exact of_awake services rfl
  | worked line service found services forgotten =>
    obtain ⟨alone, -⟩ := Desk.services_of_service? alert.few found
    rw [forgotten, alert.forget_aims found]
    exact of_awake (services.services.trans (Desk.unpark_alone alone)) rfl
  | woke line service found services forgotten =>
    obtain ⟨alone, -⟩ := Desk.services_of_service? alert.few found
    rw [forgotten, alert.forget_aims found]
    exact of_awake (services.services.trans (Desk.setService_alone alone rfl)) rfl
  | aimed line service found awake services aiming =>
    obtain ⟨alone, same⟩ := Desk.services_of_service? alert.few found
    rw [aiming]
    refine of_alone (services.services.trans alone) ?_ (fun parked => ?_) ?_
    · intro other alarm aimed
      by_cases here : other = line
      · rw [here, same]
      · rw [if_neg here] at aimed
        exact alert.line_of_aim alone other alarm aimed
    · exact absurd (parked.symm.trans awake) (by decide)
    · intro _ alarm aimed
      rw [if_pos same] at aimed
      cases aimed
      exact .inr (desk.coveredBy_nextDeadline?.mono fewer)
  | slept line service found awake alarm aim services forgotten =>
    obtain ⟨alone, same⟩ := Desk.services_of_service? alert.few found
    rw [forgotten, alert.forget_aims found]
    have member : service ∈ desk.services := by simp [alone]
    have ready := alert.awake service member awake alarm (same ▸ aim)
    have asleep : (desk.lull service alarm).services =
        [{ service with parked := true, alarm, notified := desk.permit }] := by
      simp only [Desk.lull, Desk.removeService, alone, ne_eq, List.filter_cons, List.filter_nil,
        not_true_eq_false, decide_false, Bool.false_eq_true, if_false, List.nil_append]
    refine of_alone (services.services.trans asleep) (fun _ _ aimed => (by cases aimed)) ?_ ?_
    · intro _
      exact ready.imp_right fun covered => covered.mono fewer
    · intro impossible
      cases impossible
  | left line service found services forgotten =>
    obtain ⟨alone, -⟩ := Desk.services_of_service? alert.few found
    rw [forgotten, alert.forget_aims found]
    have gone : (desk.dismiss service).services = [] := by
      simp only [Desk.dismiss, Desk.removeService, Desk.unpark_alone alone, ne_eq,
        List.filter_cons, List.filter_nil, not_true_eq_false, decide_false, Bool.false_eq_true,
        if_false]
    exact of_nil (services.services.trans gone)

end Alert
end PageSession.Exchange
