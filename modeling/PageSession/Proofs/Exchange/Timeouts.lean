import PageSession.Proofs.Exchange.Alarm

/-!
Timeouts on runs with one service. No deadline is missed: whenever the service rests, everything
that waits still has time. No time is wasted either: once it has evicted what was due, its alarm
does not go off again before time passes.
-/
namespace PageSession.Exchange

def starts {H W : Type} (past : Past H W) : Nat := past.countP fun moved => moved.2.isStart

def Timeless {H W : Type} (past : Past H W) : Prop :=
  ∀ moved ∈ past, moved.2.time = 0

namespace Desk
variable {H W : Type}

theorem notifyService_nil {desk : Desk H W} (services : desk.services = []) :
    desk.notifyService.services = [] := by
  simp only [notifyService, services, List.find?_nil]

theorem stopService_nil {desk : Desk H W} (services : desk.services = []) :
    desk.stopService.services = [] := by
  unfold stopService
  split
  · simp only [setService, services, List.map_nil]
  · exact services

def Armed (desk : Desk H W) (time : Nat) : Prop :=
  ∃ service ∈ desk.services, service.alarm = some time

theorem Armed.of_services {desk after : Desk H W} (same : after.services = desk.services)
    {time : Nat} (armed : after.Armed time) : desk.Armed time := by
  rwa [Armed, same] at armed

theorem armed_setService {desk : Desk H W} {service : Service} {time : Nat}
    (armed : (desk.setService service).Armed time) :
    service.alarm = some time ∨ desk.Armed time := by
  obtain ⟨other, member, alarm⟩ := armed
  obtain ⟨earlier, listed, same⟩ := List.mem_map.mp member
  split at same
  · rw [same]
    exact .inl alarm
  · exact .inr ⟨earlier, listed, same ▸ alarm⟩

/-- Being notified and being told to stop change no alarm. -/
theorem armed_notifyService {desk : Desk H W} {time : Nat}
    (armed : desk.notifyService.Armed time) : desk.Armed time := by
  unfold notifyService at armed
  split at armed
  · rename_i service found
    rcases armed_setService armed with alarm | earlier
    · exact ⟨service, List.mem_of_find?_eq_some found, alarm⟩
    · exact earlier
  · exact armed

theorem armed_stopService {desk : Desk H W} {time : Nat}
    (armed : desk.stopService.Armed time) : desk.Armed time := by
  unfold stopService at armed
  split at armed
  · rename_i service latest
    obtain ⟨line, -, found⟩ := Option.bind_eq_some_iff.mp latest
    rcases armed_setService armed with alarm | earlier
    · exact ⟨service, mem_of_service? found, alarm⟩
    · exact earlier
  · exact armed

/-- A service that wakes up has no alarm any more. -/
theorem armed_unpark {desk : Desk H W} {service : Service} {time : Nat}
    (armed : (desk.unpark service).Armed time) : desk.Armed time := by
  unfold unpark at armed
  dsimp only at armed
  split at armed
  · exact (armed_setService (armed_notifyService armed)).resolve_left (by simp)
  · exact (armed_setService armed).resolve_left (by simp)

theorem armed_removeService {desk : Desk H W} {line time : Nat}
    (armed : (desk.removeService line).Armed time) : desk.Armed time := by
  obtain ⟨service, member, alarm⟩ := armed
  exact ⟨service, (List.mem_filter.mp member).1, alarm⟩

end Desk

namespace Machine
variable {H W : Type}

theorem step_services_nil (behave : Behaviour H W) {m : Machine H W}
    (services : m.desk.services = []) : (m.step behave).desk.services = [] := by
  rcases step_services behave m with ⟨same, -⟩ | notified | ⟨-, stopped⟩
  · exact same.services.trans services
  · exact notified.services.trans (Desk.notifyService_nil services)
  · exact stopped.services.trans (Desk.stopService_nil services)

/-- No step sets an alarm. -/
theorem armed_of_step {behave : Behaviour H W} {m : Machine H W} {time : Nat}
    (armed : (m.step behave).desk.Armed time) : m.desk.Armed time := by
  rcases step_services behave m with ⟨same, -⟩ | notified | ⟨-, stopped⟩
  · exact armed.of_services same.services
  · exact Desk.armed_notifyService (armed.of_services notified.services)
  · exact Desk.armed_stopService (armed.of_services stopped.services)

end Machine

namespace Stage
variable {H W : Type} {desk : Desk H W} {aims : Nat → Option (Option Nat)} {move : Move H}
  {after : Stage H W}

/-- Without services only a start makes one. -/
theorem services_nil_of_begin (made : begin desk aims move = some after)
    (other : move.isStart = false) (services : desk.services = []) : after.desk.services = [] := by
  have nobody : ∀ line service, desk.service? line ≠ some service := by
    intro line service found
    have listed := Desk.mem_of_service? found
    rw [services] at listed
    cases listed
  cases turned_of_begin made with
  | aside same => exact same.services.trans services
  | joined line first =>
    rw [other] at first
    cases first
  | worked line service found => exact absurd found (nobody line service)
  | woke line service found => exact absurd found (nobody line service)
  | aimed line service found => exact absurd found (nobody line service)
  | slept line service found => exact absurd found (nobody line service)
  | left line service found => exact absurd found (nobody line service)

/-- Only a service that goes to sleep sets its alarm, to the time that it has aimed at. -/
theorem armed_of_begin (made : begin desk aims move = some after) {time : Nat}
    (armed : after.desk.Armed time) :
    desk.Armed time ∨ ∃ line, aims line = some (some time) := by
  cases turned_of_begin made with
  | aside same => exact .inl (armed.of_services same.services)
  | joined line first services same =>
    obtain ⟨service, member, alarm⟩ := armed
    rw [services, List.mem_append, List.mem_singleton] at member
    rcases member with earlier | rfl
    · exact .inl ⟨service, earlier, alarm⟩
    · cases alarm
  | worked line service found services =>
    exact .inl (Desk.armed_unpark (armed.of_services services.services))
  | woke line service found services =>
    have earlier := Desk.armed_setService (armed.of_services services.services)
    exact .inl (earlier.resolve_left (by simp))
  | aimed line service found awake services =>
    exact .inl (armed.of_services services.services)
  | slept line service found awake alarm aim services =>
    obtain ⟨other, member, armed⟩ := armed.of_services services.services
    rcases List.mem_append.mp member with earlier | itself
    · exact .inl ⟨other, (List.mem_filter.mp earlier).1, armed⟩
    · rw [List.mem_singleton.mp itself] at armed
      exact .inr ⟨line, aim.trans (congrArg some armed)⟩
  | left line service found services =>
    exact .inl (Desk.armed_unpark (Desk.armed_removeService (armed.of_services services.services)))

/-- A service aims at the next deadline. -/
theorem aims_of_begin (made : begin desk aims move = some after) {line : Nat} {alarm : Option Nat}
    (aim : after.aims line = some alarm) :
    aims line = some alarm ∨ alarm = desk.nextDeadline? := by
  have kept : ∀ other, after.aims = forget aims other → aims line = some alarm := by
    intro other forgotten
    rw [forgotten, forget] at aim
    split at aim
    · cases aim
    · exact aim
  cases turned_of_begin made with
  | aside _ same => exact .inl (same ▸ aim)
  | joined _ _ _ same => exact .inl (same ▸ aim)
  | worked other _ _ _ forgotten => exact .inl (kept other forgotten)
  | woke other _ _ _ forgotten => exact .inl (kept other forgotten)
  | slept other _ _ _ _ _ _ forgotten => exact .inl (kept other forgotten)
  | left other _ _ _ forgotten => exact .inl (kept other forgotten)
  | aimed other _ _ _ _ aiming =>
    rw [aiming] at aim
    dsimp only at aim
    split at aim
    · cases aim
      exact .inr rfl
    · exact .inl aim

end Stage

/-- Nothing is due, or it is about to be evicted, and all alarms lie in the future. -/
structure Ahead {H W : Type} (stage : Stage H W) : Prop where
  clear : stage.machine.control = .perform (.expire 0) ∨ stage.desk.NothingDue
  armed : ∀ time, stage.desk.Armed time → stage.desk.now < time
  aimed : ∀ line time, stage.aims line = some (some time) → stage.desk.now < time

namespace Ahead
variable {H W : Type} {behave : Behaviour H W} {stage after : Stage H W} {move : Move H}

/-- Nothing is due while no operation is in progress. -/
theorem nothingDue_of_isIdle (ahead : Ahead stage) (idle : stage.isIdle = true) :
    stage.desk.NothingDue := by
  rcases ahead.clear with evicting | clear
  · unfold Stage.isIdle Machine.result? at idle
    rw [evicting] at idle
    cases idle
  · exact clear

/-- As long as no time passes, all alarms stay in the future. -/
theorem next (ahead : Ahead stage) (made : stage.next behave move = some after)
    (still : move.time = 0) : Ahead after := by
  cases Stage.moved_of_next made with
  | worked =>
    have now := Machine.step_now behave stage.machine
    refine ⟨.inr ?_, ?_, ?_⟩
    · rcases ahead.clear with evicting | clear
      · exact Machine.nothingDue_of_expire evicting (Int.le_refl 0)
      · exact Machine.nothingDue_step clear
    · intro time armed
      rw [Stage.desk, now]
      exact ahead.armed time (Machine.armed_of_step armed)
    · intro line time aimed
      rw [Stage.desk, now]
      exact ahead.aimed line time aimed
  | begun _ _ _ idle begins =>
    have clear := ahead.nothingDue_of_isIdle idle
    have begun := Stage.begun_of_begin begins
    rw [still] at begun
    have now : after.desk.now = stage.desk.now := begun.books.now
    refine ⟨.inr (begun.nothingDue clear), ?_, ?_⟩
    · intro time armed
      rw [now]
      rcases Stage.armed_of_begin begins armed with earlier | ⟨line, aimed⟩
      · exact ahead.armed time earlier
      · exact ahead.aimed line time aimed
    · intro line time aimed
      rw [now]
      rcases Stage.aims_of_begin begins aimed with earlier | next
      · exact ahead.aimed line time earlier
      · exact clear time ((Desk.nextDeadline?_eq_some_iff _ _).mp next.symm).1
  | exchanged place =>
    refine ⟨ahead.clear.imp_right fun clear deadline waiting => ?_, ahead.armed, ahead.aimed⟩
    exact clear deadline (Stage.awaits_exchange waiting)

/-- And so on, as long as no time passes. -/
theorem run {later : Past H W} (run : SerialRun behave stage later after)
    (still : Timeless later) (ahead : Ahead stage) : Ahead after := by
  induction run with
  | start => exact ahead
  | next before made ih =>
    have earlier := ih fun moved member => still moved (List.mem_cons_of_mem _ member)
    exact earlier.next made (still _ (List.mem_cons_self ..))

end Ahead

section
variable {H W : Type} {behave : Behaviour H W} {settings : Settings} {credentials : Credentials}
  {page : W} {past : Past H W} {stage : Stage H W}

theorem nothingDue_of_run {later : Past H W} {start : Stage H W}
    (run : SerialRun behave start later stage) (still : Timeless later)
    (clear : start.desk.NothingDue) : stage.desk.NothingDue := by
  induction run with
  | start => exact clear
  | @next later stage after move before made ih =>
    have earlier := ih fun moved member => still moved (List.mem_cons_of_mem _ member)
    cases Stage.moved_of_next made with
    | worked => exact Machine.nothingDue_step earlier
    | begun _ _ _ _ begins =>
      have begun := Stage.begun_of_begin begins
      rw [still _ (List.mem_cons_self ..)] at begun
      exact begun.nothingDue earlier
    | exchanged place =>
      exact fun deadline waiting => earlier deadline (Stage.awaits_exchange waiting)

/-- There is no service before the first one is started. -/
theorem run_services_nil
    (run : SerialRun behave (Stage.opening settings credentials page) past stage)
    (none : starts past = 0) : stage.desk.services = [] := by
  induction run with
  | start => rfl
  | @next past stage after move before made ih =>
    rw [starts, List.countP_cons, Nat.add_eq_zero_iff] at none
    have services := ih none.1
    cases Stage.moved_of_next made with
    | worked => exact Machine.step_services_nil behave services
    | begun _ _ _ _ begins =>
      refine Stage.services_nil_of_begin begins (Bool.eq_false_iff.mpr fun starting => ?_) services
      simp [starting] at none
    | exchanged => exact services

/-- The only service never misses a deadline. -/
theorem run_alert
    (run : SerialRun behave (Stage.opening settings credentials page) past stage)
    (one : starts past ≤ 1) : Alert stage.desk stage.aims := by
  induction run with
  | start => exact .of_nil rfl
  | @next past stage after move before made ih =>
    rw [starts, List.countP_cons] at one
    have alert := ih (Nat.le_of_add_right_le one)
    cases Stage.moved_of_next made with
    | worked => exact alert.step behave
    | begun _ _ _ _ begins =>
      refine alert.begin begins fun starting => run_services_nil before ?_
      rw [if_pos starting] at one
      exact Nat.le_zero.mp (Nat.le_of_succ_le_succ one)
    | exchanged place => exact alert.mono rfl rfl fun _ waiting => Stage.awaits_exchange waiting

/-- When the alarm of the only service goes off, no other one is set. -/
theorem ahead_of_expire
    (run : SerialRun behave (Stage.opening settings credentials page) past stage)
    (one : starts past ≤ 1) {line : Nat} {after : Stage H W}
    (made : stage.next behave (.expire line) = some after) : Ahead after := by
  have alert := run_alert run one
  cases Stage.moved_of_next made with
  | begun _ _ _ _ begins =>
    cases Stage.begins_of_begin begins with
    | expire _ service found due =>
      obtain ⟨alone, -⟩ := Desk.services_of_service? alert.few found
      refine ⟨.inl rfl, ?_, ?_⟩
      · rintro time ⟨other, member, armed⟩
        have awake := Desk.unpark_alone alone
        change other ∈ (stage.desk.unpark service).services at member
        rw [awake, List.mem_singleton] at member
        rw [member] at armed
        cases armed
      · intro other time aimed
        change Stage.forget stage.aims line other = _ at aimed
        rw [alert.forget_aims found] at aimed
        cases aimed

/-- An alarm that lies in the future does not go off. -/
theorem Ahead.next_expire (ahead : Ahead stage) (line : Nat) :
    stage.next behave (.expire line) = none := by
  cases made : stage.next behave (.expire line) with
  | none => rfl
  | some after =>
    cases Stage.moved_of_next made with
    | begun _ _ _ _ begins =>
      cases Stage.begins_of_begin begins with
      | expire _ service found due =>
        cases alarm : service.alarm with
        | none =>
          rw [alarm] at due
          cases due
        | some time =>
          rw [alarm, Option.any_some, decide_eq_true_eq] at due
          have later := ahead.armed time ⟨service, Desk.mem_of_service? found, alarm⟩
          omega

/-- Timeouts with one service. While it sleeps, a submission has notified it or its alarm is set no
later than the deadline of any request that waits. So whenever it rests, all deadlines lie in the
future. After an eviction up to the current time they do so until time passes, whatever is submitted
meanwhile; and once the alarm has gone off it does not go off again before time passes. -/
theorem timeout_never_missed
    (run : SerialRun behave (Stage.opening settings credentials page) past stage)
    (one : starts past ≤ 1) :
    (∀ service ∈ stage.desk.services, service.parked = true →
      service.notified = true ∨ ∀ deadline, stage.desk.Awaits deadline →
        ∃ time, service.alarm = some time ∧ time ≤ deadline) ∧
    (∀ service ∈ stage.desk.services, stage.desk.isBusy (.service service.line) = false →
      ∀ deadline, stage.desk.Awaits deadline → stage.desk.now < deadline) ∧
    (∀ later moved earlier ahead, past = later ++ (moved, .work) :: earlier →
      moved.machine.control = .perform (.expire ahead) → 0 ≤ ahead → Timeless later →
      ∀ deadline, stage.desk.Awaits deadline → stage.desk.now < deadline) ∧
    (∀ later moved line earlier, past = later ++ (moved, .expire line) :: earlier →
      Timeless later → ∀ other, stage.next behave (.expire other) = none) := by
  have alert := run_alert run one
  refine ⟨alert.parked, ?_, ?_, ?_⟩
  · intro service member idle deadline waiting
    have found := Desk.service?_of_mem alert.few member
    have rest : stage.desk.turn service = .rest := by
      simpa only [Desk.isBusy, found, Option.any_some, decide_eq_false_iff_not, ne_eq,
        Decidable.not_not] using idle
    have finds := stage.desk.turn_finds service
    rw [rest] at finds
    obtain ⟨parked, unnotified, future⟩ := finds
    rcases alert.parked service member parked with notified | covered
    · rw [unnotified] at notified
      cases notified
    · obtain ⟨time, alarm, bound⟩ := covered deadline waiting
      exact Nat.lt_of_lt_of_le (future time alarm) bound
  · intro later moved earlier ahead divided evicting present still deadline waiting
    rw [divided] at run
    obtain ⟨after, -, made, rest⟩ := run.divide
    cases Stage.moved_of_next made with
    | worked =>
      have clear : (moved.machine.step behave).desk.NothingDue :=
        Machine.nothingDue_of_expire evicting present
      exact nothingDue_of_run rest still clear deadline waiting
    | begun _ _ unworked => cases unworked
  · intro later moved line earlier divided still other
    rw [divided] at run one
    obtain ⟨after, before, made, rest⟩ := run.divide
    have fewer : starts earlier ≤ 1 := by
      rw [starts, List.countP_append, List.countP_cons] at one
      exact Nat.le_trans (Nat.le_add_right _ _) (Nat.le_trans (Nat.le_add_left _ _) one)
    exact (Ahead.run rest still (ahead_of_expire before fewer made)).next_expire other

end

/-- A request is submitted while the service is about to sleep. It expires, and its handler asks
again. -/
def timingOut : List (Move Unit) :=
  [.lay true, .dial, .opened (.ok 0), .start, .act (.register "users" () .durable), .work, .aim 0,
    .act (.submit { handler := "users.list", target := .named "users" }), .work, .sleep 0,
    .wake 0, .aim 0, .sleep 0, .advance 30000, .expire 0] ++ List.replicate 8 .work ++
    [.aim 0, .sleep 0, .wake 0, .aim 0, .sleep 0]

theorem timeout_never_missed_asking_again : ∃ past stage,
    SerialRun asking (Stage.opening {} default ()) past stage ∧ starts past = 1 ∧
      stage.desk.Awaits 60000 ∧ stage.desk.now < 60000 ∧
      ∃ service ∈ stage.desk.services, service.parked = true ∧
        (service.notified = true ∨ ∃ time, service.alarm = some time ∧ time ≤ 60000) := by
  have reached : ((Stage.follow asking timingOut ([], .opening {} default ())).map fun reached =>
      (starts reached.1, reached.2.desk.nextDeadline?, reached.2.desk.services.map (·.parked),
        reached.2.desk.services.all fun service =>
          !reached.2.desk.isBusy (.service service.line))) =
        some (1, some 60000, [true], true) := by
    decide +kernel
  obtain ⟨⟨past, stage⟩, followed, facts⟩ := Option.map_eq_some_iff.mp reached
  simp only [Prod.mk.injEq] at facts
  obtain ⟨one, next, parked, resting⟩ := facts
  have run : SerialRun asking (Stage.opening {} default ()) past stage :=
    SerialRun.start.follow followed
  obtain ⟨service, member, sleeping⟩ : ∃ service ∈ stage.desk.services, service.parked = true := by
    have listed : true ∈ stage.desk.services.map (·.parked) := by rw [parked]; decide
    exact List.mem_map.mp listed
  obtain ⟨alarmed, rested, -⟩ := timeout_never_missed run (Nat.le_of_eq one)
  have idle : stage.desk.isBusy (.service service.line) = false := by
    simpa using List.all_eq_true.mp resting service member
  have waiting : stage.desk.Awaits 60000 := ((Desk.nextDeadline?_eq_some_iff _ _).mp next).1
  refine ⟨past, stage, run, one, waiting, rested service member idle 60000 waiting, service, member,
    sleeping, ?_⟩
  exact (alarmed service member sleeping).imp_right fun covered => covered 60000 waiting

end PageSession.Exchange
