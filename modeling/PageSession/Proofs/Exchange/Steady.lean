import PageSession.Proofs.Exchange.Requests

/-!
What stands still while operations run: the settings, the clock, the generated ids and the services.
Only a submission makes ids and notifies services, and only an order to stop changes a service
otherwise. Frames and deadlines are matters of requests, callbacks and handlers alone.
-/
namespace PageSession.Exchange
open Json Message

namespace Desk
variable {H W : Type}

/-- The services and their permit are the same. -/
structure SameServices (desk after : Desk H W) : Prop where
  services : after.services = desk.services
  permit : after.permit = desk.permit

theorem SameServices.trans {first second third : Desk H W} (left : SameServices first second)
    (right : SameServices second third) : SameServices first third where
  services := right.services.trans left.services
  permit := right.permit.trans left.permit

theorem SameServices.setService {desk after : Desk H W} (same : SameServices desk after)
    (service : Service) : SameServices (desk.setService service) (after.setService service) where
  services := by simp only [Desk.setService, same.services]
  permit := same.permit

/-- The same services are notified alike. -/
theorem SameServices.notifyService {desk after : Desk H W} (same : SameServices desk after) :
    SameServices desk.notifyService after.notifyService := by
  unfold Desk.notifyService
  rw [same.services]
  split
  · exact same.setService _
  · exact ⟨rfl, rfl⟩

theorem SameServices.unpark {desk after : Desk H W} (same : SameServices desk after)
    (service : Service) : SameServices (desk.unpark service) (after.unpark service) := by
  have awake := same.setService { service with parked := false, alarm := none, notified := false }
  unfold Desk.unpark
  dsimp only
  split
  · exact awake.notifyService
  · exact awake

/-- The settings, the clock, the generated ids and the services are the same. -/
structure Steady (desk after : Desk H W) : Prop where
  settings : after.settings = desk.settings
  now : after.now = desk.now
  ids : after.ids = desk.ids
  services : after.services = desk.services
  permit : after.permit = desk.permit

theorem Steady.refl (desk : Desk H W) : Steady desk desk := by
  constructor <;> rfl

theorem Steady.trans {first second third : Desk H W} (left : Steady first second)
    (right : Steady second third) : Steady first third where
  settings := right.settings.trans left.settings
  now := right.now.trans left.now
  ids := right.ids.trans left.ids
  services := right.services.trans left.services
  permit := right.permit.trans left.permit

/-- Only requests, callbacks, the page and the log differ. -/
structure SameOutside (desk after : Desk H W) : Prop where
  settings : after.settings = desk.settings
  link : after.link = desk.link
  now : after.now = desk.now
  ids : after.ids = desk.ids
  dropped : after.dropped = desk.dropped
  stream : after.stream = desk.stream
  services : after.services = desk.services
  permit : after.permit = desk.permit

theorem SameOutside.refl (desk : Desk H W) : SameOutside desk desk := by
  constructor <;> rfl

theorem SameOutside.trans {first second third : Desk H W} (left : SameOutside first second)
    (right : SameOutside second third) : SameOutside first third where
  settings := right.settings.trans left.settings
  link := right.link.trans left.link
  now := right.now.trans left.now
  ids := right.ids.trans left.ids
  dropped := right.dropped.trans left.dropped
  stream := right.stream.trans left.stream
  services := right.services.trans left.services
  permit := right.permit.trans left.permit

theorem SameOutside.steady {desk after : Desk H W} (same : SameOutside desk after) :
    Steady desk after :=
  ⟨same.settings, same.now, same.ids, same.services, same.permit⟩

theorem sameOutside_record (desk : Desk H W) (event : Event H) :
    SameOutside desk (desk.record event) := by
  constructor <;> rfl

theorem sameOutside_settleLoading (desk : Desk H W) : SameOutside desk desk.settleLoading := by
  unfold settleLoading
  split
  · exact .refl desk
  · exact sameOutside_record desk _

theorem sameOutside_notifyOutcome (desk : Desk H W) (severity : Severity) (silent : Bool)
    (message : String) : SameOutside desk (desk.notifyOutcome severity silent message) := by
  unfold notifyOutcome
  split
  · exact sameOutside_record desk _
  · exact .refl desk

theorem sameOutside_abandon (desk : Desk H W) (id : String) :
    SameOutside desk (desk.abandon id) := by
  unfold abandon
  split
  · dsimp only
    split <;> constructor <;> rfl
  · exact .refl desk

theorem sameOutside_receive (desk : Desk H W) (frame : Incoming) :
    SameOutside desk (desk.receive frame).2 := by
  unfold receive
  split
  · unfold receiveResponse
    split
    · constructor <;> rfl
    · split
      · refine SameOutside.trans ?_ (sameOutside_record _ _)
        refine SameOutside.trans ?_ (sameOutside_settleLoading _)
        split
        · exact sameOutside_abandon desk _
        · exact .refl desk
      · dsimp only
        split
        · exact sameOutside_notifyOutcome desk _ _ _
        · split
          · exact .refl desk
          · refine SameOutside.trans ?_ (sameOutside_notifyOutcome _ _ _ _)
            refine SameOutside.trans ?_ (sameOutside_settleLoading _)
            constructor <;> rfl
  · split <;> exact .refl desk

theorem Steady.notifyService {desk after : Desk H W} (steady : Steady desk after) :
    Steady desk.notifyService after.notifyService := by
  have same := (SameServices.mk steady.services steady.permit).notifyService
  have before := sameBooks_notifyService desk
  have later := sameBooks_notifyService after
  refine ⟨?_, ?_, ?_, same.services, same.permit⟩
  · rw [later.settings, before.settings, steady.settings]
  · rw [later.now, before.now, steady.now]
  · rw [later.ids, before.ids, steady.ids]

/-- A request that is sent notifies the services; one that is refused leaves them alone. -/
theorem submitAs_steady (desk : Desk H W) (s : Submission H) (id : String) (own : Option H) :
    (∃ failure, (desk.submitAs s id own).1 = .error failure ∧
        Steady desk (desk.submitAs s id own).2) ∨
      ((desk.submitAs s id own).1 = .ok id ∧
        Steady desk.notifyService (desk.submitAs s id own).2) := by
  rw [submitAs_eq]
  split
  · exact .inl ⟨_, rfl, .refl desk⟩
  · split
    · refine .inl ⟨_, rfl, ?_⟩
      cases own <;> constructor <;> rfl
    · refine .inr ⟨rfl, Steady.notifyService ?_⟩
      split <;> cases own <;> constructor <;> rfl

/-- The same for a submission, on the desk that has made its id. -/
theorem submit_steady (desk : Desk H W) (s : Submission H) :
    ((∀ id, (desk.submit s).1 ≠ some (.ok id)) ∧ Steady (desk.addressed s).2 (desk.submit s).2) ∨
      ∃ id, (desk.submit s).1 = some (.ok id) ∧ (desk.addressed s).1 = some id ∧
        Steady (desk.addressed s).2.notifyService (desk.submit s).2 := by
  rcases submit_cases desk s with ⟨named, empty⟩ | ⟨ids, made, exhausted⟩ | ⟨id, ids, made, sent⟩
  · rw [empty, addressed, named]
    refine .inl ⟨fun _ accepted => ?_, .refl desk⟩
    cases accepted
  · rw [exhausted, made]
    refine .inl ⟨fun _ accepted => ?_, .refl _⟩
    cases accepted
  · rw [sent, made]
    rcases submitAs_steady { desk with ids } s id s.own? with ⟨failure, refused, steady⟩ |
      ⟨accepted, steady⟩
    · rw [refused]
      refine .inl ⟨fun _ accepted => ?_, steady⟩
      cases accepted
    · rw [accepted]
      exact .inr ⟨id, rfl, rfl, steady⟩

theorem Aside.steady {desk after : Desk H W} (aside : desk.Aside after) : Steady desk after := by
  cases aside <;> constructor <;> rfl

end Desk

namespace Machine
variable {H W : Type}

theorem sameOutside_deliver (behave : Behaviour H W) (id : String) (reply : Reply)
    (desk : Desk H W) (stack : List (Frame H)) :
    Desk.SameOutside desk (deliver behave id reply desk stack).desk := by
  unfold deliver Desk.takeCallback?
  cases desk.callbacks.find? id with
  | none => exact .refl desk
  | some callback =>
    cases lives : callback.lifetime <;> simp only [lives, Option.map_some] <;> constructor <;> rfl

theorem sameOutside_handle (behave : Behaviour H W) (frame : Incoming) (desk : Desk H W)
    (stack : List (Frame H)) : Desk.SameOutside desk (handle behave frame desk stack).desk := by
  have received := Desk.sameOutside_receive desk frame
  unfold handle
  split
  · rename_i receipt
    rwa [receipt] at received
  · rename_i receipt
    rw [receipt] at received
    exact received.trans (sameOutside_deliver behave _ _ _ _)
  · rename_i receipt
    rwa [receipt] at received

theorem sameOutside_expire (time : Int) (desk : Desk H W) (stack : List (Frame H)) :
    Desk.SameOutside desk (expire time desk stack).desk := by
  have evicted : Desk.SameOutside desk (desk.evict time).2 := by constructor <;> rfl
  unfold expire
  split
  · rename_i result
    rwa [result] at evicted
  · rename_i result
    rw [result] at evicted
    exact evicted.trans (Desk.sameOutside_settleLoading _)

/-- Whatever a step hands an answer to, only a service counts it, and only if it is a failure. -/
theorem sameOutside_resume (behave : Behaviour H W) {frame : Frame H} (answer : Answer)
    (desk : Desk H W) (stack : List (Frame H)) (unserved : frame ≠ .serving) :
    Desk.SameOutside desk (resume behave frame answer desk stack).desk := by
  cases frame with
  | acting h action next => exact Desk.sameOutside_record desk _
  | succeed => exact .refl desk
  | expiring rest count =>
    cases rest with
    | nil => exact .refl desk
    | cons request rest =>
      refine Desk.SameOutside.trans ?_ (sameOutside_deliver behave _ _ _ _)
      constructor <;> rfl
  | distributing update rest count =>
    cases rest with
    | nil => exact .refl desk
    | cons h rest => constructor <;> rfl
  | serving => exact absurd rfl unserved

theorem steady_resume (behave : Behaviour H W) (frame : Frame H) (answer : Answer)
    (desk : Desk H W) (stack : List (Frame H)) :
    Desk.Steady desk (resume behave frame answer desk stack).desk := by
  cases frame with
  | serving =>
    unfold resume
    dsimp only
    split <;> constructor <;> rfl
  | acting | succeed | expiring | distributing =>
    exact (sameOutside_resume behave answer desk stack (by simp)).steady

/-- No action but submitting and stopping touches the clock, the ids or the services. -/
theorem steady_perform (behave : Behaviour H W) (action : Action H) (desk : Desk H W)
    (stack : List (Frame H)) (unsubmitted : ∀ s, action ≠ .submit s) (unstopped : action ≠ .stop) :
    Desk.Steady desk (perform behave action desk stack).desk := by
  cases performed action desk stack with
  | submitted s same => exact absurd same (unsubmitted s)
  | stopped same => exact absurd same unstopped
  | evicted ahead same =>
    rw [same]
    exact (sameOutside_expire _ desk stack).steady
  | received frame taken receiving =>
    have handled := step_of_received behave receiving
    obtain ⟨link, same⟩ := received?_desk receiving
    have steady : Desk.Steady desk taken := by
      rw [same]
      constructor <;> rfl
    change perform behave action desk stack = _ at handled
    rw [handled]
    exact steady.trans (sameOutside_handle behave frame taken stack).steady
  | invoked id reply same =>
    rw [same]
    exact (sameOutside_deliver behave id reply desk stack).steady
  | called method args h same found =>
    rw [same]
    simp only [perform, found]
    constructor <;> rfl
  | answered answer after waiting aside untold silent result =>
    rw [result]
    exact aside.steady

/-- No step but submitting and stopping touches the clock, the ids or the services. -/
theorem steady_step (behave : Behaviour H W) (m : Machine H W)
    (unsubmitted : ∀ s, m.control ≠ .perform (.submit s))
    (unstopped : m.control ≠ .perform .stop) : Desk.Steady m.desk (m.step behave).desk := by
  obtain ⟨control, stack, desk⟩ := m
  cases control with
  | answer answer =>
    cases stack with
    | nil => exact .refl desk
    | cons frame stack => exact steady_resume behave frame answer desk stack
  | run h program => cases program <;> exact .refl desk
  | perform action =>
    exact steady_perform behave action desk stack (fun s same => unsubmitted s (by rw [same]))
      (fun same => unstopped (by rw [same]))

theorem step_stop (behave : Behaviour H W) {m : Machine H W}
    (control : m.control = .perform .stop) :
    (m.step behave).desk = m.desk.stopService.enlist := by
  simp only [step, control, perform]
  rfl

/-- A step submits, stops a service, or leaves everything here alone. -/
theorem step_cases (behave : Behaviour H W) (m : Machine H W) :
    (∃ s, m.control = .perform (.submit s)) ∨ m.control = .perform .stop ∨
      (∀ s, m.control ≠ .perform (.submit s)) ∧ Desk.Steady m.desk (m.step behave).desk := by
  by_cases submitting : ∃ s, m.control = .perform (.submit s)
  · exact .inl submitting
  · by_cases stopping : m.control = .perform .stop
    · exact .inr (.inl stopping)
    · have unsubmitted : ∀ s, m.control ≠ .perform (.submit s) :=
        fun s control => submitting ⟨s, control⟩
      exact .inr (.inr ⟨unsubmitted, steady_step behave m unsubmitted stopping⟩)

/-- A step that sends no request leaves the services alone or tells one of them to stop; one that
sends a request notifies them. -/
theorem step_services (behave : Behaviour H W) (m : Machine H W) :
    (Desk.SameServices m.desk (m.step behave).desk ∧
        ∀ s id, m.control = .perform (.submit s) → (m.desk.submit s).1 ≠ some (.ok id)) ∨
      Desk.SameServices m.desk.notifyService (m.step behave).desk ∨
      (m.control = .perform .stop ∧ Desk.SameServices m.desk.stopService (m.step behave).desk) := by
  rcases step_cases behave m with ⟨s, control⟩ | control | ⟨unsubmitted, steady⟩
  · obtain ⟨made, ids, addressing⟩ := Desk.addressed_desk m.desk s
    have addressed : Desk.SameServices m.desk (m.desk.addressed s).2 := by
      rw [addressing]
      exact ⟨rfl, rfl⟩
    rw [step_submit behave control]
    rcases m.desk.submit_steady s with ⟨refused, steady⟩ | ⟨id, -, -, steady⟩
    · refine .inl ⟨addressed.trans ⟨steady.services, steady.permit⟩, ?_⟩
      intro other id same
      rw [control] at same
      cases same
      exact refused id
    · exact .inr (.inl (addressed.notifyService.trans ⟨steady.services, steady.permit⟩))
  · rw [step_stop behave control]
    exact .inr (.inr ⟨control, rfl, rfl⟩)
  · exact .inl ⟨⟨steady.services, steady.permit⟩, fun s id same => absurd same (unsubmitted s)⟩

/-- No step takes time. -/
theorem step_now (behave : Behaviour H W) (m : Machine H W) :
    (m.step behave).desk.now = m.desk.now := by
  rcases step_cases behave m with ⟨s, control⟩ | control | ⟨-, steady⟩
  · rw [step_submit behave control, (Desk.sameBooks_enlist _).now]
    obtain ⟨made, ids, addressing⟩ := Desk.addressed_desk m.desk s
    rcases m.desk.submit_steady s with ⟨-, steady⟩ | ⟨id, -, -, steady⟩
    · rw [steady.now, addressing]
    · rw [steady.now, (Desk.sameBooks_notifyService _).now, addressing]
  · rw [step_stop behave control]
    exact (Desk.sameBooks_stopService m.desk).now
  · exact steady.now

end Machine
end PageSession.Exchange
