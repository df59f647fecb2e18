import PageSession.Proofs.Exchange.Correlation

/-!
Callbacks from step to step. The callback of an id stays, is taken away, or has another one filed in
its place; only to register one and to submit with a handler of its own files any. A callback that
lives once is taken away when it is told of a request and when its request is abandoned.
-/
namespace PageSession.Exchange
open Json Message

namespace Desk
variable {H W : Type}

/-- The callback of an id is the same as before, or has been taken away. -/
def Loses (id : String) (desk after : Desk H W) : Prop :=
  after.callbacks.find? id = desk.callbacks.find? id ∨ after.callbacks.find? id = none

theorem Loses.of_callbacks {desk after : Desk H W} (same : after.callbacks = desk.callbacks)
    (id : String) : Loses id desk after :=
  .inl (by rw [same])

theorem Loses.trans {id : String} {first second third : Desk H W} (left : Loses id first second)
    (right : Loses id second third) : Loses id first third := by
  rcases right with same | gone
  · exact left.imp same.trans same.trans
  · exact .inr gone

theorem loses_unregister (id other : String) (desk : Desk H W) :
    Loses id desk (desk.unregister other).2 := by
  have erased := Table.find?_erase desk.callbacks other id
  by_cases same : id = other
  · exact .inr (erased.trans (if_pos same))
  · exact .inl (erased.trans (if_neg same))

theorem loses_abandon (id other : String) (desk : Desk H W) :
    Loses id desk (desk.abandon other) := by
  unfold abandon
  split
  · dsimp only
    split
    · exact loses_unregister id other
        ({ desk with calls := desk.calls.erase other }.record (.request .abandoned other))
    · exact .of_callbacks rfl id
  · exact .of_callbacks rfl id

/-- Abandoning a request takes its callback away if that lives once. -/
theorem abandon_once {desk : Desk H W} {id : String} {h : H}
    (waiting : desk.calls.contains id = true)
    (once : desk.callbacks.find? id = some { handler := h, lifetime := .once }) :
    (desk.abandon id).callbacks.find? id = none := by
  have lives : lifetime? ({ desk with calls := desk.calls.erase id }.record
      (.request .abandoned id)) id = some .once := by
    show (desk.callbacks.find? id).map Callback.lifetime = _
    rw [once]
    rfl
  unfold abandon
  rw [if_pos waiting]
  dsimp only
  rw [if_pos lives]
  exact (Table.find?_erase desk.callbacks id id).trans (if_pos rfl)

/-- The callbacks after a frame, up to the handlers that it concerns. -/
theorem receive_callbacks (desk : Desk H W) (frame : Incoming) :
    (desk.receive frame).2.callbacks = desk.callbacks ∨
      ∃ id, (desk.receive frame).2.callbacks = (desk.abandon id).callbacks := by
  unfold receive
  split
  · unfold receiveResponse
    split
    · exact .inl rfl
    · split
      · split
        · rename_i echo _
          exact .inr ⟨echo.id, settleLoading_callbacks _⟩
        · exact .inl (settleLoading_callbacks _)
      · dsimp only
        split
        · exact .inl (notifyOutcome_callbacks _ _ _ _)
        · split
          · exact .inl rfl
          · exact .inl ((notifyOutcome_callbacks _ _ _ _).trans (settleLoading_callbacks _))
  · split <;> exact .inl rfl

theorem loses_receive (id : String) (desk : Desk H W) (frame : Incoming) :
    Loses id desk (desk.receive frame).2 := by
  rcases desk.receive_callbacks frame with same | ⟨other, abandoned⟩
  · exact .of_callbacks same id
  · exact (loses_abandon id other desk).trans (.of_callbacks abandoned id)

/-- An error that abandons a request is settled at once. -/
theorem receive_abandoned {desk : Desk H W} {frame : Incoming} {entry : Entry}
    (closed : desk.closes? frame = some entry) (fate : entry.fate = .abandoned) :
    (desk.receive frame).2.callbacks = (desk.abandon entry.id).callbacks := by
  unfold closes? at closed
  split at closed
  · rename_i response kind read
    obtain ⟨echo, echoed, closed⟩ := Option.bind_eq_some_iff.mp closed
    obtain ⟨call, waiting, rfl⟩ := Option.map_eq_some_iff.mp closed
    cases error : response.error with
    | none => simp [error] at fate
    | some message =>
      simp only [receive, kind, receiveResponse, read, error, echoed]
      exact settleLoading_callbacks _
  · cases closed

theorem announced_callbacks (desk : Desk H W) (s : Submission H) (id : String) :
    (desk.announced s id).callbacks = desk.callbacks := by
  unfold announced
  dsimp only
  rw [(sameBooks_notifyService _).callbacks]
  split <;> rfl

/-- A submission with a handler of its own that is accepted files it under the id. -/
theorem submitAs_files {desk : Desk H W} {s : Submission H} {h : H} {id name : String}
    (accepted : (desk.submitAs s name (some h)).1 = .ok id) :
    (desk.submitAs s name (some h)).2.callbacks.find? id =
      some { handler := h, lifetime := .once } := by
  rw [submitAs_eq] at accepted ⊢
  split at accepted
  · cases accepted
  · rename_i free
    rw [if_neg free]
    split at accepted
    · cases accepted
    · rename_i link sent
      cases accepted
      dsimp only
      rw [announced_callbacks]
      exact (Table.find?_insert desk.callbacks id id _).trans (if_pos rfl)

theorem submit_files {desk : Desk H W} {s : Submission H} {h : H} {id : String}
    (own : s.target = .inline h) (accepted : (desk.submit s).1 = some (.ok id)) :
    (desk.submit s).2.callbacks.find? id = some { handler := h, lifetime := .once } := by
  rcases submit_cases desk s with ⟨named, -⟩ | ⟨ids, -, exhausted⟩ | ⟨name, ids, -, sent⟩
  · rw [own] at named
    cases named
  · rw [exhausted] at accepted
    cases accepted
  · have handler : s.own? = some h := by rw [Submission.own?, own]
    rw [sent, handler] at accepted ⊢
    exact submitAs_files (Option.some.inj accepted)

/-- Whatever else a submission does, it files nothing. -/
theorem loses_submitAs {desk : Desk H W} {s : Submission H} {id name : String} {own : Option H}
    (unfiled : own.isSome = true → (desk.submitAs s name own).1 ≠ .ok id) :
    Loses id desk (desk.submitAs s name own).2 := by
  rw [submitAs_eq] at unfiled ⊢
  split
  · exact .of_callbacks rfl id
  · rename_i free
    rw [if_neg free] at unfiled
    split
    · cases own with
      | none => exact .of_callbacks rfl id
      | some h =>
        have erased := Table.find?_erase
          (desk.callbacks.insert name { handler := h, lifetime := .once }) name id
        by_cases same : id = name
        · exact .inr (erased.trans (if_pos same))
        · refine .inl ((erased.trans (if_neg same)).trans ?_)
          exact (Table.find?_insert desk.callbacks name id _).trans (if_neg same)
    · rename_i link sent
      rw [sent] at unfiled
      refine Loses.trans ?_ (.of_callbacks (announced_callbacks _ s name) id)
      cases own with
      | none => exact .of_callbacks rfl id
      | some h =>
        have different : id ≠ name := fun same => unfiled rfl (same ▸ rfl)
        exact .inl ((Table.find?_insert desk.callbacks name id _).trans (if_neg different))

theorem loses_submit {desk : Desk H W} {s : Submission H} {id : String}
    (unfiled : ∀ h, s.target = .inline h → (desk.submit s).1 ≠ some (.ok id)) :
    Loses id desk (desk.submit s).2 := by
  rcases submit_cases desk s with ⟨-, empty⟩ | ⟨ids, -, exhausted⟩ | ⟨name, ids, -, sent⟩
  · rw [empty]
    exact .of_callbacks rfl id
  · rw [exhausted]
    exact .of_callbacks rfl id
  · have drawn : Loses id desk { desk with ids } := .of_callbacks rfl id
    rw [sent] at unfiled ⊢
    refine drawn.trans (loses_submitAs fun brings accepted => ?_)
    cases target : s.target with
    | named name => simp [Submission.own?, target] at brings
    | inline h => exact unfiled h target (congrArg some accepted)

end Desk

namespace Machine
variable {H W : Type}
open Desk

theorem loses_deliver (behave : Behaviour H W) (id other : String) (reply : Reply)
    (desk : Desk H W) (stack : List (Frame H)) :
    Loses id desk (deliver behave other reply desk stack).desk := by
  unfold deliver takeCallback?
  cases desk.callbacks.find? other with
  | none => exact .of_callbacks rfl id
  | some callback =>
    cases lives : callback.lifetime with
    | once =>
      simp only [lives, Option.map_some]
      exact loses_unregister id other desk
    | durable =>
      simp only [lives, Option.map_some]
      exact .of_callbacks rfl id

/-- A callback that lives once is gone when it is handed a reply. -/
theorem deliver_once {behave : Behaviour H W} {id : String} {reply : Reply} {desk : Desk H W}
    {stack : List (Frame H)} {h : H}
    (once : desk.callbacks.find? id = some { handler := h, lifetime := .once }) :
    (deliver behave id reply desk stack).desk.callbacks.find? id = none := by
  unfold deliver takeCallback?
  rw [once]
  exact (Table.find?_erase desk.callbacks id id).trans (if_pos rfl)

/-- To hand on what a frame comes to takes further callbacks away at most. -/
theorem loses_handled (behave : Behaviour H W) (id : String) (frame : Incoming) (desk : Desk H W)
    (stack : List (Frame H)) :
    Loses id (desk.receive frame).2 (handle behave frame desk stack).desk := by
  unfold handle
  split
  · rename_i receipt
    rw [receipt]
    exact .of_callbacks rfl id
  · rename_i receipt
    rw [receipt]
    exact loses_deliver behave id _ _ _ _
  · rename_i receipt
    rw [receipt]
    exact .of_callbacks rfl id

theorem loses_handle (behave : Behaviour H W) (id : String) (frame : Incoming) (desk : Desk H W)
    (stack : List (Frame H)) : Loses id desk (handle behave frame desk stack).desk :=
  (loses_receive id desk frame).trans (loses_handled behave id frame desk stack)

theorem expire_callbacks (time : Int) (desk : Desk H W) (stack : List (Frame H)) :
    (expire time desk stack).desk.callbacks = desk.callbacks := by
  have kept : (desk.evict time).2.callbacks = desk.callbacks := rfl
  unfold expire
  split
  · rename_i evicted
    rwa [evicted] at kept
  · rename_i evicted
    rw [evicted] at kept
    exact (settleLoading_callbacks _).trans kept

theorem loses_resume (behave : Behaviour H W) (id : String) (frame : Frame H) (answer : Answer)
    (desk : Desk H W) (stack : List (Frame H)) :
    Loses id desk (resume behave frame answer desk stack).desk := by
  cases frame with
  | acting h action next => exact .of_callbacks rfl id
  | succeed => exact .of_callbacks rfl id
  | expiring rest count =>
    cases rest with
    | nil => exact .of_callbacks rfl id
    | cons request rest =>
      exact Loses.trans (.of_callbacks rfl id) (loses_deliver behave id _ _ _ _)
  | distributing update rest count => cases rest <;> exact .of_callbacks rfl id
  | serving =>
    unfold resume
    dsimp only
    split <;> exact .of_callbacks rfl id

def files (id : String) (m : Machine H W) : Bool :=
  match m.control with
  | .perform (.register other _ _) => other = id
  | .perform (.submit s) =>
    match s.target, (m.desk.submit s).1 with
    | .inline _, some (.ok made) => made = id
    | _, _ => false
  | _ => false

theorem loses_perform (behave : Behaviour H W) {id : String} (action : Action H)
    (desk : Desk H W) (stack : List (Frame H))
    (unfiled : files id { control := .perform action, stack, desk } = false) :
    Loses id desk (perform behave action desk stack).desk := by
  cases action with
  | submit s =>
    change Loses id desk (step behave { control := .perform (.submit s), stack, desk }).desk
    rw [step_submit behave rfl]
    refine Loses.trans (loses_submit fun h own accepted => ?_) (.of_callbacks rfl id)
    simp [files, own, accepted] at unfiled
  | register other h lifetime =>
    have different : id ≠ other := by
      intro same
      simp [files, same] at unfiled
    exact .inl ((Table.find?_insert desk.callbacks other id _).trans (if_neg different))
  | unregister other => exact loses_unregister id other desk
  | invoke other reply => exact loses_deliver behave id other reply desk stack
  | handle frame => exact loses_handle behave id frame desk stack
  | expire ahead => exact .of_callbacks (expire_callbacks _ desk stack) id
  | registerMethod | subscribe | dispatch | ask => exact .of_callbacks rfl id
  | call method args =>
    simp only [perform]
    split <;> exact .of_callbacks rfl id
  | emit kind payload =>
    obtain ⟨link, emitted⟩ := desk.emit_desk kind payload
    exact .of_callbacks (congrArg Desk.callbacks emitted) id
  | emitThen kind payload =>
    obtain ⟨link, emitted⟩ := desk.emit_desk kind payload
    simp only [perform]
    split <;> rename_i result <;> rw [result] at emitted <;>
      exact .of_callbacks (congrArg Desk.callbacks emitted) id
  | take =>
    obtain ⟨link, taken⟩ := desk.takeFrame_desk
    exact .of_callbacks (congrArg Desk.callbacks taken) id
  | pull =>
    obtain ⟨link, taken⟩ := desk.takeFrame_desk
    simp only [perform]
    split <;> rename_i result <;> rw [result] at taken
    · exact Loses.trans (.of_callbacks (congrArg Desk.callbacks taken) id)
        (loses_handle behave id _ _ stack)
    · exact .of_callbacks (congrArg Desk.callbacks taken) id
  | peer line action =>
    obtain ⟨link, acted⟩ := desk.peer_desk line action
    exact .of_callbacks (congrArg Desk.callbacks acted) id
  | stop => exact .of_callbacks (sameBooks_stopService desk).callbacks id

/-- A step that files nothing under an id leaves its callback there or takes it away. -/
theorem loses_step (behave : Behaviour H W) {id : String} {m : Machine H W}
    (unfiled : m.files id = false) : Loses id m.desk (m.step behave).desk := by
  obtain ⟨control, stack, desk⟩ := m
  cases control with
  | perform action => exact loses_perform behave action desk stack unfiled
  | run h program => cases program <;> exact .of_callbacks rfl id
  | answer answer =>
    cases stack with
    | nil => exact .of_callbacks rfl id
    | cons frame stack => exact loses_resume behave id frame answer desk stack

/-- A callback that lives once is gone after a step that tells of a request of its id or abandons
it. -/
theorem once_of_told (behave : Behaviour H W) {m : Machine H W} {id : String} {call : Call} {h : H}
    (once : m.desk.callbacks.find? id = some { handler := h, lifetime := .once })
    (telling : (id, call) ∈ m.told) : (m.step behave).desk.callbacks.find? id = none := by
  obtain ⟨reply, desk, stack, -, delivering, callbacks, -⟩ := delivers_of_told behave telling
  rw [delivering]
  exact deliver_once (callbacks ▸ once)

theorem once_of_abandoned (behave : Behaviour H W) {m : Machine H W} {entry : Entry} {h : H}
    (once : m.desk.callbacks.find? entry.id = some { handler := h, lifetime := .once })
    (made : entry ∈ m.entries) (fate : entry.fate = .abandoned) :
    (m.step behave).desk.callbacks.find? entry.id = none := by
  obtain ⟨frame, desk, received, closed⟩ := received_of_mem_entries made (.inr fate)
  have books := received?_books received
  have waiting : desk.calls.contains entry.id = true := by
    rw [Table.contains_eq_isSome, (Desk.closes?_found closed).1]
    rfl
  have gone := abandon_once waiting (books.callbacks ▸ once)
  rw [← receive_abandoned closed fate] at gone
  rw [step_of_received behave received]
  have lost := loses_handled behave entry.id frame desk m.stack
  exact lost.elim (fun same => same.trans gone) id

end Machine
end PageSession.Exchange
