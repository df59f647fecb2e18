import PageSession.Proofs.Exchange.Commuting

/-!
Notices of a response. What the user is told of a response before any handler runs is one notice at
most, and follows from what the response says, how it is classified, and the request that it
answers. Up to there it is an affair of the echoed id: nothing changes under any other. What a
response can fail with is that there is nobody to hear it.
-/
namespace PageSession.Exchange
open Json Message

theorem isAlarming_iff (severity : Severity) :
    severity.isAlarming = true ↔ severity = .warn ∨ severity = .error ∨ severity = .fatal := by
  cases severity <;> simp [Severity.isAlarming]

namespace Desk
variable {H W : Type}

/-! ## What is due -/

def dueNotices (desk : Desk H W) (frame : Incoming) : List (Severity × String) :=
  (foreseen desk.settings frame ((echoedId? frame).bind desk.calls.find?)
    (none : Option (Callback H))).notices

/-- How a response is classified: as it says itself, or else by its code. -/
def severityOf (desk : Desk H W) (frame : Incoming) (response : Response) : Severity :=
  response.level.getD (desk.settings.success.classify frame.code)

/-- An outcome is told when it says something, and is alarming or was not asked to be silent. -/
theorem outcomeNotices_eq (severity : Severity) (silent : Bool) (message : String) :
    outcomeNotices severity silent message =
      if message ≠ "" ∧ ((severity = .warn ∨ severity = .error ∨ severity = .fatal) ∨
        silent = false) then [(severity, message)] else [] := by
  unfold outcomeNotices
  refine if_congr ?_ rfl rfl
  rw [← isAlarming_iff]
  simp

theorem dueNotices_few (desk : Desk H W) (frame : Incoming) :
    (desk.dueNotices frame).length ≤ 1 := by
  have few (severity : Severity) (silent : Bool) (message : String) :
      (outcomeNotices severity silent message).length ≤ 1 := by
    unfold outcomeNotices
    split <;> simp
  unfold dueNotices foreseen
  split
  · exact Nat.le_refl 1
  · dsimp only
    split
    · exact Nat.le_refl 1
    · exact few ..
    · exact Nat.zero_le 1
    · exact few ..

section
variable {desk : Desk H W} {frame : Incoming}

theorem dueNotices_unreadable (unread : Response.read.ofString? frame.content = none) :
    desk.dueNotices frame = [(.error, "unreadable response: " ++ unreadableReason)] := by
  simp [dueNotices, foreseen, unread]

variable {response : Response} (read : Response.read.ofString? frame.content = some response)
include read

theorem dueNotices_failed {text : String} (error : response.error = some text) :
    desk.dueNotices frame = [(.error, text)] := by
  simp [dueNotices, foreseen, read, error]

theorem dueNotices_remark (error : response.error = none) (callback : response.callback = none) :
    desk.dueNotices frame =
      outcomeNotices (desk.severityOf frame response) false response.message := by
  simp [dueNotices, foreseen, read, error, callback, severityOf]

variable (error : response.error = none) {echo : Echo} (callback : response.callback = some echo)
include error callback

theorem dueNotices_unmatched (missing : desk.calls.find? echo.id = none) :
    desk.dueNotices frame = [] := by
  simp [dueNotices, foreseen, echoedId?_of_read read, read, error, callback, missing]

theorem dueNotices_matched {call : Call} (waiting : desk.calls.find? echo.id = some call) :
    desk.dueNotices frame = outcomeNotices (desk.severityOf frame response)
      (echo.silent || call.silent) response.message := by
  simp [dueNotices, foreseen, echoedId?_of_read read, read, error, callback, waiting, severityOf]

end

/-! ## What a response comes to -/

/-- How far a response gets without a handler. -/
inductive Gets (desk : Desk H W) (frame : Incoming) (after : Desk H W) : Receipt → Prop
  | settled : Gets desk frame after (.settled (.ok ()))
  | refused {id : String} (echoed : echoedId? frame = some id)
      (missing : desk.calls.find? id = none) :
      Gets desk frame after (.settled (.error (.callbackNotFound id)))
  | delivered {id : String} (reply : Reply) (echoed : echoedId? frame = some id)
      (kept : after.callbacks = desk.callbacks) : Gets desk frame after (.deliver id reply)

/-- What a response comes to before a handler runs. -/
structure Heard (desk : Desk H W) (frame : Incoming) (receipt : Receipt) (after : Desk H W) :
    Prop where
  shown : Shows (desk.dueNotices frame) desk after
  calls : after.calls = desk.unanswered (echoedId? frame).toList
  callbacks : after.callbacks = desk.callbacks ∨
    after.callbacks = desk.lasting (echoedId? frame).toList
  gets : Gets desk frame after receipt

section
variable {desk : Desk H W} {frame : Incoming} {response : Response}
  (kind : frame.kind = .response)
include kind

theorem heard_unreadable (unread : Response.read.ofString? frame.content = none) :
    ∃ receipt after, desk.receive frame = (receipt, after) ∧ desk.Heard frame receipt after := by
  obtain ⟨received, shown⟩ := desk.receive_unreadable kind unread
  have echoed : echoedId? frame = none := by simp [echoedId?, unread]
  refine ⟨_, _, received, dueNotices_unreadable unread ▸ shown, ?_, .inl rfl, .settled⟩
  rw [echoed]
  exact (unanswered_nil desk).symm

variable (read : Response.read.ofString? frame.content = some response)
include read

theorem heard_failed {text : String} (error : response.error = some text) :
    ∃ receipt after, desk.receive frame = (receipt, after) ∧ desk.Heard frame receipt after := by
  obtain ⟨base, received, shown, calls, callbacks, -⟩ := receive_error read desk kind error
  exact ⟨_, _, received, dueNotices_failed read error ▸ shown,
    (settleLoading_calls base).trans calls,
    .inr ((settleLoading_callbacks base).trans callbacks), .settled⟩

theorem heard_remark (error : response.error = none) (callback : response.callback = none) :
    ∃ receipt after, desk.receive frame = (receipt, after) ∧ desk.Heard frame receipt after := by
  have echoed : echoedId? frame = none := by rw [echoedId?_of_read read, callback]; rfl
  refine ⟨_, _, receive_remark read desk kind error callback, ?_, ?_,
    .inl (notifyOutcome_callbacks ..), .settled⟩
  · rw [dueNotices_remark read error callback]
    exact shows_notifyOutcome ..
  · rw [notifyOutcome_calls, echoed]
    exact (unanswered_nil desk).symm

theorem heard_echo (error : response.error = none) {echo : Echo}
    (callback : response.callback = some echo) :
    ∃ receipt after, desk.receive frame = (receipt, after) ∧ desk.Heard frame receipt after := by
  have echoed : echoedId? frame = some echo.id := by
    rw [echoedId?_of_read read, callback, Option.map_some]
  cases waiting : desk.calls.find? echo.id with
  | none =>
    refine ⟨_, _, receive_unmatched read desk kind error callback waiting, ?_, ?_, .inl rfl,
      .refused echoed waiting⟩
    · rw [dueNotices_unmatched read error callback waiting]
      exact .of_log rfl
    · rw [echoed]
      exact (unanswered_of_missing waiting).symm
  | some call =>
    obtain ⟨received, shown, calls, callbacks⟩ :=
      receive_matched read desk kind error callback waiting
    refine ⟨_, _, received, ?_, ?_, .inl callbacks, .delivered _ echoed callbacks⟩
    · rw [dueNotices_matched read error callback waiting]
      exact shown
    · rw [echoed]
      exact calls.trans (desk.erase_calls echo.id)

end

/-- What every response comes to before a handler runs. -/
theorem heard_of_response (desk : Desk H W) {frame : Incoming} (kind : frame.kind = .response) :
    ∃ receipt after, desk.receive frame = (receipt, after) ∧ desk.Heard frame receipt after := by
  cases read : Response.read.ofString? frame.content with
  | none => exact heard_unreadable kind read
  | some response =>
    cases error : response.error with
    | some text => exact heard_failed kind read error
    | none =>
      cases callback : response.callback with
      | none => exact heard_remark kind read error callback
      | some echo => exact heard_echo kind read error callback

/-! ## Other entries -/

theorem unanswered_find? {desk : Desk H W} {ids : List String} {id : String} (other : id ∉ ids) :
    (desk.unanswered ids).find? id = desk.calls.find? id := by
  rw [unanswered, Table.find?_filter]
  cases desk.calls.find? id <;> simp [other]

theorem lasting_find? {desk : Desk H W} {ids : List String} {id : String} (other : id ∉ ids) :
    (desk.lasting ids).find? id = desk.callbacks.find? id := by
  rw [lasting, Table.find?_filter]
  cases desk.callbacks.find? id <;> simp [other]

theorem Heard.others {desk after : Desk H W} {frame : Incoming} {receipt : Receipt}
    (heard : desk.Heard frame receipt after) {id : String} (other : echoedId? frame ≠ some id) :
    after.calls.find? id = desk.calls.find? id ∧
      after.callbacks.find? id = desk.callbacks.find? id := by
  have unechoed : id ∉ (echoedId? frame).toList := by rwa [Option.mem_toList]
  refine ⟨?_, ?_⟩
  · rw [heard.calls, unanswered_find? unechoed]
  · rcases heard.callbacks with kept | lasting
    · rw [kept]
    · rw [lasting, lasting_find? unechoed]

end Desk

namespace Machine
variable {H W : Type}

/-! ## The first step -/

/-- The machine has shown these notices, and now answers or has just begun to run a handler. -/
def HasShown (notices : List (Severity × String)) (desk : Desk H W) (m : Machine H W) : Prop :=
  ∃ before : Desk H W, Desk.Shows notices desk before ∧
    ((∃ answer, m.control = .answer answer) ∧ m.desk.log = before.log ∨
      ∃ h invocation program, m.control = .run h program ∧
        m.desk.log = .invoked h invocation :: before.log)

section
variable {behave : Behaviour H W} {desk after : Desk H W} {stack : List (Frame H)}

theorem step_handle {frame : Incoming} {receipt : Desk.Receipt}
    (received : desk.receive frame = (receipt, after)) :
    step behave { control := .perform (.handle frame), stack, desk } =
      match receipt with
      | .settled result => give (.done result) after stack
      | .deliver id reply => deliver behave id reply after stack
      | .distribute update => distribute update after (.succeed :: stack) := by
  simp only [step, perform, handle, received]
  cases receipt <;> rfl

theorem hasShown_deliver {notices : List (Severity × String)}
    (shown : Desk.Shows notices desk after) (id : String) (reply : Reply) :
    HasShown notices desk (deliver behave id reply after stack) := by
  refine ⟨after, shown, ?_⟩
  unfold deliver
  rw [Desk.takeCallback?_eq]
  cases after.callbacks.find? id with
  | none => exact .inl ⟨⟨_, rfl⟩, rfl⟩
  | some callback => exact .inr ⟨_, _, _, rfl, rfl⟩

theorem deliver_callbacks_of_ne {id other : String} (different : other ≠ id) (reply : Reply) :
    (deliver behave id reply desk stack).desk.callbacks.find? other =
      desk.callbacks.find? other := by
  unfold deliver
  rw [Desk.takeCallback?_eq]
  cases desk.callbacks.find? id with
  | none => rfl
  | some callback => exact Desk.spared_find? different

end

end Machine

section
variable {H W : Type} {behave : Behaviour H W} {desk after : Desk H W} {frame : Incoming}
  {receipt : Desk.Receipt}

/-- The first step of a response shows what is due, and leaves alone what belongs to other ids. -/
theorem response_first_step (behave : Behaviour H W)
    (received : desk.receive frame = (receipt, after))
    (heard : desk.Heard frame receipt after) (stack : List (Frame H)) :
    (Machine.step behave { control := .perform (.handle frame), stack, desk }).HasShown
        (desk.dueNotices frame) desk ∧
      ∀ id, echoedId? frame ≠ some id →
        (Machine.step behave { control := .perform (.handle frame), stack, desk }).desk.calls.find?
            id = desk.calls.find? id ∧
          (Machine.step behave
            { control := .perform (.handle frame), stack, desk }).desk.callbacks.find? id =
              desk.callbacks.find? id := by
  rw [Machine.step_handle received]
  have answered (result : Except Failure Unit) :
      (Machine.give (.done result) after stack).HasShown (desk.dueNotices frame) desk :=
    ⟨after, heard.shown, .inl ⟨⟨_, rfl⟩, rfl⟩⟩
  cases heard.gets with
  | settled => exact ⟨answered _, fun id other => heard.others other⟩
  | refused => exact ⟨answered _, fun id other => heard.others other⟩
  | delivered reply echoed =>
    refine ⟨Machine.hasShown_deliver heard.shown _ reply, fun id other => ?_⟩
    obtain ⟨calls, callbacks⟩ := heard.others other
    have different : id ≠ _ := fun same => other (same ▸ echoed)
    exact ⟨(congrArg (Table.find? · id) (Machine.deliver_calls ..)).trans calls,
      (Machine.deliver_callbacks_of_ne different reply).trans callbacks⟩

/-- A response is handled, or fails because nothing waits under its id, or nobody is there to hear
of it. -/
theorem answer_of_response (received : desk.receive frame = (receipt, after))
    (heard : desk.Heard frame receipt after) {answer : Answer} {last : Desk H W}
    (comes : Machine.Comes behave { control := .perform (.handle frame), desk } answer last) :
    answer = .done (.ok ()) ∨ ∃ id, echoedId? frame = some id ∧
      answer = .done (.error (.callbackNotFound id)) ∧
      (desk.calls.find? id = none ∨ desk.callbacks.find? id = none) := by
  rw [← Machine.comes_step_iff, Machine.step_handle received] at comes
  cases heard.gets with
  | settled => exact .inl (Machine.comes_give_iff.mp comes).1
  | refused echoed missing =>
    exact .inr ⟨_, echoed, (Machine.comes_give_iff.mp comes).1, .inl missing⟩
  | delivered reply echoed kept =>
    dsimp only at comes
    rw [Machine.comes_deliver_iff, Desk.takeCallback?_eq, kept] at comes
    cases found : desk.callbacks.find? _ with
    | none =>
      rw [found] at comes
      exact .inr ⟨_, echoed, comes.1, .inr found⟩
    | some callback =>
      rw [found] at comes
      exact .inl comes.1

/-- Whatever a response says, whatever its code and whatever range counts as success: before a
handler runs it brings one notice at most, and which one is a matter of what it says. What cannot be
read is an error and touches no entry. An error field is an error. A remark is told when it says
something, and so is what answers a request, unless it is harmless and one of both sides asked for
silence; a response to nothing that waits is not. Nothing changes under other ids than the echoed
one. All that handling a response can fail with is that nobody is found under the echoed id. -/
theorem response_notices (behave : Behaviour H W) (desk : Desk H W) {frame : Incoming}
    (kind : frame.kind = .response) (stack : List (Frame H)) :
    let begun := Machine.step behave { control := .perform (.handle frame), stack, desk }
    (∃ notices, begun.HasShown notices desk ∧ notices.length ≤ 1 ∧
      (Response.read.ofString? frame.content = none →
        notices = [(.error, "unreadable response: " ++ Desk.unreadableReason)] ∧
        begun.desk.calls = desk.calls ∧ begun.desk.callbacks = desk.callbacks) ∧
      ∀ response, Response.read.ofString? frame.content = some response →
        (∀ text, response.error = some text → notices = [(.error, text)]) ∧
        (response.error = none →
          let severity := response.level.getD (desk.settings.success.classify frame.code)
          (response.callback = none → notices =
            if response.message ≠ "" then [(severity, response.message)] else []) ∧
          ∀ echo, response.callback = some echo →
            (∀ call, desk.calls.find? echo.id = some call → notices =
              if response.message ≠ "" ∧
                ((severity = .warn ∨ severity = .error ∨ severity = .fatal) ∨
                  echo.silent = false ∧ call.silent = false)
              then [(severity, response.message)] else []) ∧
            (desk.calls.find? echo.id = none → notices = []))) ∧
    (∀ id, echoedId? frame ≠ some id → begun.desk.calls.find? id = desk.calls.find? id ∧
      begun.desk.callbacks.find? id = desk.callbacks.find? id) ∧
    ∀ budget answer last, desk.perform behave budget (.handle frame) = (some answer, last) →
      answer = .done (.ok ()) ∨ ∃ id, echoedId? frame = some id ∧
        answer = .done (.error (.callbackNotFound id)) ∧
        (desk.calls.find? id = none ∨ desk.callbacks.find? id = none) := by
  intro begun
  obtain ⟨receipt, after, received, heard⟩ := desk.heard_of_response kind
  obtain ⟨shown, others⟩ := response_first_step behave received heard stack
  refine ⟨⟨desk.dueNotices frame, shown, desk.dueNotices_few frame, fun unread => ?unreadable,
    fun response read => ⟨fun text error => Desk.dueNotices_failed read error,
      fun error => ⟨fun callback => ?remark, fun echo callback =>
        ⟨fun call waiting => ?answered, fun missing => ?unknown⟩⟩⟩⟩, others,
    fun budget answer last performed => ?failure⟩
  case unreadable =>
    have first : begun = _ := Machine.step_handle (desk.receive_unreadable kind unread).1
    rw [first]
    exact ⟨Desk.dueNotices_unreadable unread, rfl, rfl⟩
  case remark =>
    rw [Desk.dueNotices_remark read error callback, Desk.outcomeNotices_eq]
    simp [Desk.severityOf]
  case answered =>
    rw [Desk.dueNotices_matched read error callback waiting, Desk.outcomeNotices_eq]
    simp [Desk.severityOf]
  case unknown => exact Desk.dueNotices_unmatched read error callback missing
  case failure =>
    exact answer_of_response received heard (Machine.performs_iff_comes.mp ⟨budget, performed⟩)

end

def warning : Incoming :=
  { kind := .response, code := 200, content := "[\"late\",null,[\"roles\",true],\"warn\",null]" }

theorem response_notices_warning :
    let begun := Machine.step quiet
      { control := .perform (.handle warning), stack := [], desk := crowded }
    warning.kind = .response ∧ begun.HasShown [(.warn, "late")] crowded ∧
      begun.desk.calls.contains "roles" = false ∧
      begun.desk.calls.find? "users" = crowded.calls.find? "users" := by
  intro begun
  have kind : warning.kind = .response := rfl
  obtain ⟨⟨notices, shown, -, -, rules⟩, others, -⟩ := response_notices quiet crowded kind []
  have reads : ((Response.read.ofString? warning.content).map fun response =>
      (response.message, response.callback, response.level, response.error)) =
        some ("late", some { id := "roles", silent := true }, some .warn, none) := by
    decide +kernel
  obtain ⟨response, read, same⟩ := Option.map_eq_some_iff.mp reads
  simp only [Prod.mk.injEq] at same
  obtain ⟨message, callback, level, error⟩ := same
  have told := (((rules response read).2 error).2 _ callback).1
    { handler := "roles.list", silent := true } rfl
  simp only [message, level] at told
  have unechoed : echoedId? warning ≠ some "users" := by decide +kernel
  refine ⟨kind, ?_, by decide +kernel, (others "users" unechoed).1⟩
  rw [told] at shown
  exact shown

end PageSession.Exchange
