import Mathlib.Data.List.Nodup
import PageSession.Proofs.Exchange.Alarm

/-!
Executions are runs. What the desk does when it performs an action, and what a worker does in a
turn, is one of the runs of events, as long as the handlers come to an end.
-/
namespace PageSession.Exchange

/-- One run goes on from where another one has come to. -/
theorem SerialRun.trans {H W : Type} {behave : Behaviour H W} {start stage after : Stage H W}
    {past later : Past H W} (before : SerialRun behave start past stage)
    (onward : SerialRun behave stage later after) :
    SerialRun behave start (later ++ past) after := by
  induction onward with
  | start => exact before
  | next _ made ih => exact ih.next made

namespace Desk
variable {H W : Type}

/-! ## Services that keep their lines -/

theorem service?_setService (desk : Desk H W) (service : Service) (line : Nat) :
    (desk.setService service).service? line = (desk.service? line).map fun other =>
      if other.line = service.line then service else other := by
  unfold service? setService
  rw [List.find?_map]
  congr 1
  apply congrArg (List.find? · desk.services)
  funext other
  by_cases same : other.line = service.line
  · simp [same]
  · simp [same]

/-- Different services have different lines. -/
def KeepsApart (desk : Desk H W) : Prop := (desk.services.map Service.line).Nodup

theorem map_line_setService (desk : Desk H W) (service : Service) :
    (desk.setService service).services.map Service.line = desk.services.map Service.line := by
  unfold setService
  rw [List.map_map]
  apply List.map_congr_left
  intro other _
  by_cases same : other.line = service.line
  · simp [same]
  · simp [same]

theorem map_line_notifyService (desk : Desk H W) :
    desk.notifyService.services.map Service.line = desk.services.map Service.line := by
  unfold notifyService
  split
  · exact map_line_setService desk _
  · rfl

theorem map_line_stopService (desk : Desk H W) :
    desk.stopService.services.map Service.line = desk.services.map Service.line := by
  unfold stopService
  split
  · exact map_line_setService desk _
  · rfl

def IsAwake (desk : Desk H W) (line : Nat) : Prop :=
  ∃ service, desk.service? line = some service ∧ service.parked = false

/-- A service with the same phase of sleep takes the place of one. -/
theorem IsAwake.setService {desk : Desk H W} {line : Nat} (awake : desk.IsAwake line)
    {service : Service} (same : service.line = line → service.parked = false) :
    (desk.setService service).IsAwake line := by
  obtain ⟨other, found, up⟩ := awake
  have itself : other.line = line := line_of_service? found
  rw [IsAwake, service?_setService, found, Option.map_some]
  refine ⟨_, rfl, ?_⟩
  split
  · rename_i here
    exact same (here.symm.trans itself)
  · exact up

/-- Only services that sleep are notified. -/
theorem IsAwake.notifyService {desk : Desk H W} {line : Nat} (apart : desk.KeepsApart)
    (awake : desk.IsAwake line) : desk.notifyService.IsAwake line := by
  unfold Desk.notifyService
  split
  · rename_i sleeper chosen
    refine awake.setService fun same => ?_
    obtain ⟨service, found, up⟩ := awake
    have itself : service.line = line := line_of_service? found
    have equal : service = sleeper :=
      List.inj_on_of_nodup_map apart (mem_of_service? found)
        (List.mem_of_find?_eq_some chosen) (itself.trans same.symm)
    rw [← equal]
    exact up
  · exact awake

theorem IsAwake.stopService {desk : Desk H W} {line : Nat} (awake : desk.IsAwake line) :
    desk.stopService.IsAwake line := by
  unfold Desk.stopService
  split
  · rename_i service latest
    refine awake.setService fun same => ?_
    obtain ⟨other, -, found⟩ := Option.bind_eq_some_iff.mp latest
    have itself : service.line = other := line_of_service? found
    obtain ⟨this, here, up⟩ := awake
    have equal : some service = some this := by
      rw [← found, ← here, ← itself, ← same]
    cases equal
    exact up
  · exact awake

theorem IsAwake.of_services {desk after : Desk H W} {line : Nat} (awake : desk.IsAwake line)
    (same : after.services = desk.services) : after.IsAwake line := by
  rwa [IsAwake, service?, same]

section
variable {desk : Desk H W} {line : Nat} {service : Service}

/-! ## Services that go to sleep -/

/-- What takes the place of a service is removed with it. -/
theorem removeService_setService (desk : Desk H W) (service : Service) :
    ((desk.setService service).removeService service.line).services =
      (desk.removeService service.line).services := by
  unfold removeService setService
  induction desk.services with
  | nil => rfl
  | cons other rest ih =>
    simp only [List.map_cons, List.filter_cons]
    by_cases same : other.line = service.line
    · simpa [same] using ih
    · simpa [same] using ih

theorem service?_rouse (found : desk.service? line = some service) :
    (desk.rouse service).service? line =
      some { service with parked := false, alarm := none, notified := false } := by
  rw [rouse, service?_setService, found, Option.map_some, if_pos rfl]

/-- A service that is woken up only to sleep again might as well have stayed asleep. -/
theorem park_rouse (found : desk.service? line = some service) :
    (desk.rouse service).park line = desk.park line := by
  have same : service.line = line := line_of_service? found
  unfold rouse park
  rw [service?_setService, found, Option.map_some]
  subst same
  simp only [if_true, removeService_setService desk { service with
    parked := false, alarm := none, notified := false }]
  rfl

/-- After it has slept without a permit, a service is parked. -/
theorem park_of_lull (found : desk.service? line = some service)
    (unpermitted : desk.permit = false) :
    desk.lull service desk.nextDeadline? = desk.park line := by
  have same : service.line = line := line_of_service? found
  subst same
  unfold lull park
  rw [found, unpermitted]

theorem service?_lull (found : desk.service? line = some service) (alarm : Option Nat) :
    (desk.lull service alarm).service? line =
      some { service with parked := true, alarm, notified := desk.permit } := by
  have same : service.line = line := line_of_service? found
  have others : (desk.removeService line).service? line = none := by
    rw [service?, List.find?_eq_none]
    intro other member
    simpa using (List.mem_filter.mp member).2
  subst same
  unfold service? at others ⊢
  unfold lull
  rw [List.find?_append, others]
  simp

/-- A service that goes back to sleep parks as if it had not slept before. -/
theorem park_lull (found : desk.service? line = some service) (alarm : Option Nat) :
    (desk.lull service alarm).park line = desk.park line := by
  have same : service.line = line := line_of_service? found
  have woken := service?_lull found alarm
  subst same
  unfold park
  rw [woken, found]
  have others : ((desk.lull service alarm).removeService service.line).services =
      (desk.removeService service.line).services := by
    simp [removeService, lull, List.filter_filter]
  simp only [others]
  rfl

/-- A service that takes part in a turn is awake, and keeps its line. -/
theorem unpark_awake (apart : desk.KeepsApart) (found : desk.service? line = some service) :
    (desk.unpark service).IsAwake line ∧ (desk.unpark service).KeepsApart := by
  have roused : (desk.rouse service).IsAwake line := ⟨_, service?_rouse found, rfl⟩
  have apart' : (desk.rouse service).KeepsApart := by
    rw [KeepsApart, rouse, map_line_setService]
    exact apart
  unfold unpark
  dsimp only
  split
  · refine ⟨roused.notifyService apart', ?_⟩
    rw [KeepsApart, map_line_notifyService]
    exact apart'
  · exact ⟨roused, apart'⟩

def operation? (desk : Desk H W) (service : Service) : Option (Machine H W) :=
  match desk.turn service with
  | .expire => some { control := .perform (.expire 0), desk := (desk.unpark service).enlist }
  | .handle _ => (desk.takeNext? service.line).map fun (frame, taken) =>
    { control := .perform (.handle frame), stack := [.serving],
      desk := (taken.unpark service).enlist }
  | .leave | .look | .rest => none

def Ends (behave : Behaviour H W) (budget : Nat) (desk : Desk H W) (line : Nat) : Prop :=
  ∀ service m, desk.service? line = some service → desk.operation? service = some m →
    (Machine.run behave budget (m.step behave)).result?.isSome = true

end

end Desk

namespace Machine
variable {H W : Type}

/-- Steps up to the end of an operation. -/
theorem serialRun_run (behave : Behaviour H W) (budget : Nat) (stage : Stage H W) :
    ∃ past,
      SerialRun behave stage past { stage with machine := run behave budget stage.machine } := by
  induction budget generalizing stage with
  | zero => exact ⟨[], .start⟩
  | succ budget ih =>
    unfold run
    split
    · exact ⟨[], .start⟩
    · rename_i busy
      have made : stage.next behave .work =
          some { stage with machine := stage.machine.step behave } := by
        rw [Stage.next, Stage.isIdle, if_neg busy]
      obtain ⟨past, run⟩ := ih { stage with machine := stage.machine.step behave }
      exact ⟨_, (SerialRun.start.next made).trans run⟩

theorem map_line_step (behave : Behaviour H W) (m : Machine H W) :
    (m.step behave).desk.services.map Service.line = m.desk.services.map Service.line := by
  rcases step_services behave m with ⟨same, -⟩ | notified | ⟨-, stopped⟩
  · rw [same.services]
  · rw [notified.services, Desk.map_line_notifyService]
  · rw [stopped.services, Desk.map_line_stopService]

theorem isAwake_step (behave : Behaviour H W) {m : Machine H W} {line : Nat}
    (apart : m.desk.KeepsApart) (awake : m.desk.IsAwake line) :
    (m.step behave).desk.IsAwake line := by
  rcases step_services behave m with ⟨same, -⟩ | notified | ⟨-, stopped⟩
  · exact awake.of_services same.services
  · exact (awake.notifyService apart).of_services notified.services
  · exact awake.stopService.of_services stopped.services

/-- No operation puts a service to sleep. -/
theorem isAwake_run (behave : Behaviour H W) (budget : Nat) {m : Machine H W} {line : Nat}
    (apart : m.desk.KeepsApart) (awake : m.desk.IsAwake line) :
    (run behave budget m).desk.IsAwake line := by
  induction budget generalizing m with
  | zero => exact awake
  | succ budget ih =>
    unfold run
    split
    · exact awake
    · refine ih ?_ (isAwake_step behave apart awake)
      rw [Desk.KeepsApart, map_line_step]
      exact apart

end Machine

/-! ## Operations and turns -/

/-- Some run leads from a desk to another one, with no operation in progress at both ends. -/
def Leads {H W : Type} (behave : Behaviour H W) (desk after : Desk H W) : Prop :=
  ∀ stage : Stage H W, stage.isIdle = true → stage.desk = desk →
    ∃ past later, SerialRun behave stage past later ∧ later.isIdle = true ∧ later.desk = after

namespace Leads
variable {H W : Type} {behave : Behaviour H W} {desk after : Desk H W} {line : Nat}
  {service : Service}

theorem refl (behave : Behaviour H W) (desk : Desk H W) : Leads behave desk desk :=
  fun stage idle same => ⟨[], stage, .start, idle, same⟩

theorem trans {last : Desk H W} (left : Leads behave desk after) (right : Leads behave after last) :
    Leads behave desk last := by
  intro stage idle same
  obtain ⟨past, middle, run, idle', same'⟩ := left stage idle same
  obtain ⟨later, ending, onward, idle'', same''⟩ := right middle idle' same'
  exact ⟨later ++ past, ending, run.trans onward, idle'', same''⟩

/-- One move that begins no operation. -/
theorem of_move (move : Move H)
    (made : ∀ aims, ∃ aims', Stage.begin desk aims move = some (Stage.resting after aims')) :
    Leads behave desk after := by
  intro stage idle same
  obtain ⟨aims, begins⟩ := made stage.aims
  rw [← same] at begins
  exact ⟨_, Stage.resting after aims, SerialRun.start.next (Stage.next_of_begin idle begins),
    rfl, rfl⟩

/-- An operation that is begun by a move and comes to its end. -/
theorem of_operation (behave : Behaviour H W) (budget : Nat) (move : Move H) (m : Machine H W)
    (made : ∀ aims, ∃ aims', Stage.begin desk aims move = some { machine := m, aims := aims' })
    (busy : m.result? = none)
    (ended : (Machine.run behave budget (m.step behave)).result?.isSome = true) :
    Leads behave desk (Machine.run behave budget (m.step behave)).desk := by
  intro stage idle same
  obtain ⟨aims, begins⟩ := made stage.aims
  rw [← same] at begins
  have begun : stage.next behave move = some _ := Stage.next_of_begin idle begins
  have first : ({ machine := m, aims } : Stage H W).next behave .work =
      some { machine := m.step behave, aims } := by
    simp only [Stage.next, Stage.isIdle, busy]
    rfl
  obtain ⟨past, run⟩ := Machine.serialRun_run behave budget { machine := m.step behave, aims }
  exact ⟨_, _, ((SerialRun.start.next begun).next first).trans run, ended, rfl⟩

theorem rouse (behave : Behaviour H W) (found : desk.service? line = some service)
    (notified : service.notified = true) : Leads behave desk (desk.rouse service) := by
  refine of_move (.wake line) fun aims => ⟨Stage.forget aims line, ?_⟩
  simp only [Stage.begin, found, Option.bind_eq_bind, Option.bind_some, if_pos notified]

/-- A service looks at the deadlines and goes to sleep. -/
theorem lull (behave : Behaviour H W) (found : desk.service? line = some service)
    (awake : service.parked = false) :
    Leads behave desk (desk.lull service desk.nextDeadline?) := by
  intro stage idle same
  subst same
  have aimed : stage.next behave (.aim line) = some (Stage.resting stage.desk fun other =>
      if other = line then some stage.desk.nextDeadline? else stage.aims other) := by
    refine Stage.next_of_begin idle ?_
    simp [Stage.begin, found, awake]
  have slept : (Stage.resting stage.desk fun other =>
      if other = line then some stage.desk.nextDeadline? else stage.aims other).next behave
        (.sleep line) = some (Stage.resting (stage.desk.lull service stage.desk.nextDeadline?)
          (Stage.forget (fun other =>
            if other = line then some stage.desk.nextDeadline? else stage.aims other) line)) := by
    refine Stage.next_of_begin rfl ?_
    show Stage.begin stage.desk _ _ = _
    simp [Stage.begin, Stage.resting, found, awake]
  exact ⟨_, _, (SerialRun.start.next aimed).next slept, rfl, rfl⟩

/-- A service that is awake, or has been notified, parks. -/
theorem park (behave : Behaviour H W) (found : desk.service? line = some service)
    (ready : service.parked = true → service.notified = true) :
    Leads behave desk (desk.park line) := by
  have nap : ∀ {desk : Desk H W} {service : Service}, desk.service? line = some service →
      service.parked = false → desk.permit = false → Leads behave desk (desk.park line) := by
    intro desk service found awake unpermitted
    have asleep := lull behave found awake
    rwa [Desk.park_of_lull found unpermitted] at asleep
  have settle : ∀ {desk : Desk H W} {service : Service}, desk.service? line = some service →
      service.parked = false → Leads behave desk (desk.park line) := by
    intro desk service found awake
    cases permit : desk.permit with
    | false => exact nap found awake permit
    | true =>
      -- the permit wakes it at once, and it has to look again
      have woken := Desk.service?_lull found desk.nextDeadline?
      have roused := rouse behave woken permit
      have asleep := nap (Desk.service?_rouse woken) rfl rfl
      rw [Desk.park_rouse woken, Desk.park_lull found] at asleep
      exact ((lull behave found awake).trans roused).trans asleep
  cases asleep : service.parked with
  | false => exact settle found asleep
  | true =>
    have roused := rouse behave found (ready asleep)
    have parked := settle (Desk.service?_rouse found) rfl
    rw [Desk.park_rouse found] at parked
    exact roused.trans parked

/-- Whoever performs an action that comes to its end. -/
theorem perform (behave : Behaviour H W) (budget : Nat) (action : Action H)
    (ended : (desk.perform behave budget action).1.isSome = true) :
    Leads behave desk (desk.perform behave budget action).2 := by
  cases budget with
  | zero => cases ended
  | succ budget =>
    exact of_operation behave budget (.act action) { control := .perform action, desk }
      (fun aims => ⟨aims, rfl⟩) rfl ended

/-- A service that is awake begins an operation, and parks after it. -/
theorem park_of_operation (behave : Behaviour H W) (budget : Nat) (move : Move H)
    (m : Machine H W) {line : Nat}
    (made : ∀ aims, ∃ aims', Stage.begin desk aims move = some { machine := m, aims := aims' })
    (busy : m.result? = none)
    (ended : (Machine.run behave budget (m.step behave)).result?.isSome = true)
    (ready : m.desk.IsAwake line ∧ m.desk.KeepsApart) :
    Leads behave desk ((Machine.run behave budget (m.step behave)).desk.park line) := by
  obtain ⟨awake, apart⟩ := ready
  have apart' : (m.step behave).desk.KeepsApart := by
    rwa [Desk.KeepsApart, Machine.map_line_step]
  have awake' := Machine.isAwake_step behave apart awake
  obtain ⟨service, found, up⟩ := Machine.isAwake_run behave budget apart' awake'
  have asleep := park behave found fun parked => absurd (up.symm.trans parked) (by decide)
  exact (of_operation behave budget move m made busy ended).trans asleep

/-- A turn of a service. -/
theorem serve (behave : Behaviour H W) (budget : Nat) (line : Nat) (apart : desk.KeepsApart)
    (ends : desk.Ends behave budget line) : Leads behave desk (desk.serve behave budget line) := by
  unfold Desk.serve
  cases found : desk.service? line with
  | none => exact refl behave desk
  | some service =>
    have same : service.line = line := Desk.line_of_service? found
    have finds := desk.turn_finds service
    dsimp only
    split
    · exact refl behave desk
    · rename_i leaving
      rw [leaving, Desk.Finds, same] at finds
      refine of_move (.leave line) fun aims => ⟨Stage.forget aims line, ?_⟩
      simp only [Stage.begin, found, Option.bind_eq_bind, Option.bind_some, if_pos finds]
    · rename_i looking
      rw [looking] at finds
      exact park behave found finds
    · rename_i expiring
      rw [expiring, Desk.Finds] at finds
      have operation : desk.operation? service = some
          { control := .perform (.expire 0), desk := (desk.unpark service).enlist } := by
        rw [Desk.operation?, expiring]
      refine park_of_operation behave budget (.expire line) _
        (fun aims => ⟨Stage.forget aims line, ?_⟩) rfl (ends service _ found operation)
        (Desk.unpark_awake apart found)
      simp only [Stage.begin, found, Option.bind_eq_bind, Option.bind_some, if_pos finds]
    · rename_i frame handling
      rw [handling, Desk.Finds, same] at finds
      obtain ⟨there, rest, connected, queued⟩ := finds
      have took : desk.takeNext? line = some (frame,
          { desk with link := desk.link.setLine line { there with inbox := rest } }) := by
        simp only [Desk.takeNext?, connected, queued]
      have operation : desk.operation? service = some
          { control := .perform (.handle frame), stack := [.serving]
            desk := (Desk.unpark { desk with
              link := desk.link.setLine line { there with inbox := rest } } service).enlist } := by
        rw [Desk.operation?, handling, same, took]
        rfl
      simp only [connected, Option.getD_some, queued, List.drop_one, List.tail_cons]
      refine park_of_operation behave budget (.handle line) _
        (fun aims => ⟨Stage.forget aims line, ?_⟩) rfl (ends service _ found operation)
        (Desk.unpark_awake apart found)
      simp only [Stage.begin, found, took, Option.bind_eq_bind, Option.bind_some]

/-- A turn of any worker. -/
theorem work (behave : Behaviour H W) (budget : Nat) (worker : Worker) (apart : desk.KeepsApart)
    (ends : ∀ line, worker = .service line → desk.Ends behave budget line) :
    Leads behave desk (desk.work behave budget worker) := by
  have enlisted : ∀ desk : Desk H W, Leads behave desk desk.enlist := fun desk =>
    of_move (.schedule desk.enlist.agenda) fun aims => ⟨aims, rfl⟩
  cases worker with
  | pump line =>
    have pumped : Leads behave desk { desk with link := desk.link.pumpLine line } :=
      of_move (.pump line) fun aims => ⟨aims, rfl⟩
    exact pumped.trans (enlisted _)
  | service line => exact (serve behave budget line apart (ends line rfl)).trans (enlisted _)

end Leads
end PageSession.Exchange
