import PageSession.Proofs.Exchange.SerialRun
import PageSession.Proofs.Exchange.InlineReplies

/-!
What handlers hear. A step starts one handler at most, and only that handler changes the page: the
callback of an id for a reply, a method for the user, a subscriber for an update. Where no handler
is filed or removed by hand, a callback goes only when it lives once and its request has its
outcome, and a request that is not sent again has one outcome and brings one reply at most.
-/
namespace PageSession.Exchange
open Json Message

namespace Desk
variable {H W : Type} {desk after last : Desk H W}

/-- The handlers are the same, and so is what belongs to them. -/
structure SameHandlers (desk after : Desk H W) : Prop where
  callbacks : after.callbacks = desk.callbacks
  methods : after.methods = desk.methods
  subscribers : after.subscribers = desk.subscribers
  page : after.page = desk.page

theorem SameHandlers.refl (desk : Desk H W) : SameHandlers desk desk := by
  constructor <;> rfl

theorem SameHandlers.trans (left : SameHandlers desk after) (right : SameHandlers after last) :
    SameHandlers desk last where
  callbacks := right.callbacks.trans left.callbacks
  methods := right.methods.trans left.methods
  subscribers := right.subscribers.trans left.subscribers
  page := right.page.trans left.page

theorem SameBooks.sameHandlers (same : SameBooks desk after) : SameHandlers desk after :=
  ⟨same.callbacks, same.methods, same.subscribers, same.page⟩

theorem SameHandlers.of_link (linked : ∃ link, after = { desk with link }) :
    SameHandlers desk after := by
  obtain ⟨link, rfl⟩ := linked
  constructor <;> rfl

theorem sameHandlers_settleLoading (desk : Desk H W) : SameHandlers desk desk.settleLoading := by
  unfold settleLoading
  split <;> constructor <;> rfl

theorem sameHandlers_notifyOutcome (desk : Desk H W) (severity : Severity) (silent : Bool)
    (message : String) : SameHandlers desk (desk.notifyOutcome severity silent message) := by
  unfold notifyOutcome
  split <;> constructor <;> rfl

/-- A submission by name files its request only. -/
theorem sameHandlers_submit {s : Submission H} {id : String} (named : s.target = .named id) :
    SameHandlers desk (desk.submit s).2 := by
  simp only [submit, named]
  split
  · exact .refl desk
  · rw [submitAs_eq]
    split
    · exact .refl desk
    · split
      · constructor <;> rfl
      · rename_i link sent
        unfold announced
        refine SameHandlers.trans ?_ (sameBooks_notifyService _).sameHandlers
        split <;> constructor <;> rfl

/-- To abandon a request takes away no other handler than its callback. -/
theorem abandon_desk (desk : Desk H W) (id : String) :
    ∃ calls callbacks log, desk.abandon id = { desk with calls, callbacks, log } := by
  unfold abandon
  split
  · dsimp only
    split <;> exact ⟨_, _, _, rfl⟩
  · exact ⟨desk.calls, desk.callbacks, desk.log, rfl⟩

/-- A callback stays that lives on, or whose request is not the one that is abandoned. -/
theorem abandon_keeps {id other : String}
    (stays : desk.lifetime? id ≠ some .once ∨ other ≠ id ∨ desk.calls.contains other = false) :
    (desk.abandon other).callbacks.find? id = desk.callbacks.find? id := by
  unfold abandon
  split
  · rename_i waiting
    dsimp only
    split
    · rename_i once
      refine (Table.find?_erase desk.callbacks other id).trans (if_neg ?_)
      rintro rfl
      rcases stays with lives | different | absent
      · exact lives once
      · exact different rfl
      · rw [absent] at waiting
        cases waiting
    · rfl
  · rfl

/-- What a frame comes to is read off the desk; up to the handlers that it concerns, it takes away
the callback of a request that it abandons at most. -/
theorem receive_handlers (desk : Desk H W) (frame : Incoming) :
    ∃ callbacks, SameHandlers { desk with callbacks } (desk.receive frame).2 := by
  have outcome (desk : Desk H W) (severity : Severity) (silent : Bool) (message : String) :
      ∃ callbacks, SameHandlers { desk with callbacks }
        (desk.notifyOutcome severity silent message) :=
    ⟨desk.callbacks, sameHandlers_notifyOutcome desk severity silent message⟩
  unfold receive
  split
  · unfold receiveResponse
    split
    · exact ⟨desk.callbacks, by constructor <;> rfl⟩
    · rename_i response _
      split
      · rename_i message _
        dsimp only
        split
        · rename_i echo _
          obtain ⟨calls, callbacks, log, abandoned⟩ := desk.abandon_desk echo.id
          rw [abandoned]
          obtain ⟨same₁, same₂, same₃, same₄⟩ := sameHandlers_settleLoading
            ({ desk with calls, callbacks, log } : Desk H W)
          exact ⟨callbacks, same₁, same₂, same₃, same₄⟩
        · obtain ⟨same₁, same₂, same₃, same₄⟩ := sameHandlers_settleLoading desk
          exact ⟨desk.callbacks, same₁, same₂, same₃, same₄⟩
      · dsimp only
        split
        · exact outcome desk _ _ _
        · split
          · exact ⟨desk.callbacks, .refl desk⟩
          · refine ⟨desk.callbacks, SameHandlers.trans ?_ (sameHandlers_notifyOutcome _ _ _ _)⟩
            refine SameHandlers.trans ?_ (sameHandlers_settleLoading _)
            constructor <;> rfl
  · split <;> exact ⟨desk.callbacks, .refl desk⟩

@[simp] theorem notify_callbacks (desk : Desk H W) (severity : Severity) (message : String) :
    (desk.notify severity message).callbacks = desk.callbacks := rfl

/-- A callback stays that lives on, or whose request the frame does not abandon. -/
theorem receive_keeps {frame : Incoming} {id : String}
    (stays : desk.lifetime? id ≠ some .once ∨
      ∀ entry, desk.closes? frame = some entry → entry.id = id → entry.fate ≠ .abandoned) :
    (desk.receive frame).2.callbacks.find? id = desk.callbacks.find? id := by
  unfold receive
  split
  · rename_i response
    unfold receiveResponse
    split
    · rfl
    · rename_i content read
      split
      · rename_i message error
        dsimp only
        rw [notify_callbacks, settleLoading_callbacks]
        split
        · rename_i echo echoed
          refine abandon_keeps (stays.imp_right fun others => ?_)
          cases waiting : desk.calls.find? echo.id with
          | none => exact .inr ((Table.contains_eq_false_iff _ _).mpr waiting)
          | some call =>
            refine .inl fun same =>
              others { fate := .abandoned, id := echo.id, call } ?_ same rfl
            simp only [closes?, response, read, echoed, Option.bind_some, waiting,
              Option.map_some, error, Option.isSome_some, if_true]
        · rfl
      · dsimp only
        split
        · rw [notifyOutcome_callbacks]
        · split
          · rfl
          · rw [notifyOutcome_callbacks, settleLoading_callbacks]
            rfl
  · split <;> rfl

end Desk

/-- Actions that neither file nor remove handlers and run none directly. -/
def Action.keepsHandlers {H : Type} : Action H → Bool
  | .register .. | .registerMethod .. | .unregister _ | .subscribe .. | .invoke .. => false
  | .submit s => match s.target with
    | .named _ => true
    | .inline _ => false
  | _ => true

namespace Machine
variable {H W : Type}

/-- The reply that the next step hands to the callback of an id, if the id has one: to a request
that a frame resolves, or to the next one that has expired. -/
def reply? (m : Machine H W) : Option (String × Reply) :=
  match m.control, m.stack with
  | .answer _, .expiring ((id, call) :: _) _ :: _ => some (id, Desk.timeoutReply call)
  | _, _ => m.received?.bind fun received =>
      match (received.2.receive received.1).1 with
      | .deliver id reply => some (id, reply)
      | _ => none

def replyTo? (id : String) (m : Machine H W) : Option Reply :=
  (m.reply?.filter fun replied => replied.1 = id).map Prod.snd

def telling? (m : Machine H W) : Option (H × Update) :=
  match m.control, m.stack with
  | .answer _, .distributing update (h :: _) _ :: _ => some (h, update)
  | _, _ => none

def update? (m : Machine H W) : Option Update :=
  m.received?.bind fun received =>
    match received.1.kind with
    | .update => Update.ofFrame? received.1
    | .response => none

/-- The next step neither files nor removes handlers and runs none directly. -/
def keepsHandlers (m : Machine H W) : Bool :=
  match m.control with
  | .perform action => action.keepsHandlers
  | _ => true

/-- What an action comes to that keeps the handlers. -/
inductive Kept (action : Action H) (desk : Desk H W) (stack : List (Frame H)) : Prop
  | submitted (s : Submission H) (id : String) (same : action = .submit s)
      (named : s.target = .named id)
  | received (frame : Incoming) (taken : Desk H W) (stayed : Desk.SameHandlers desk taken)
      (receiving : received? { control := .perform action, stack, desk } = some (frame, taken))
  | called (method : String) (args : List Value) (h : H) (same : action = .call method args)
      (found : desk.methods.find? method = some h)
  | evicted (ahead : Int) (same : action = .expire ahead)
  | dispatched (update : Update) (same : action = .dispatch update)
  | answered (answer : Answer) (after : Desk H W) (stayed : Desk.SameHandlers desk after)
      (unreceived : received? { control := .perform action, stack, desk } = none)
      (result : ∀ behave : Behaviour H W,
        perform behave action desk stack = give answer after stack)

theorem kept {action : Action H} (keeps : action.keepsHandlers = true) (desk : Desk H W)
    (stack : List (Frame H)) : Kept action desk stack := by
  cases action with
  | register | registerMethod | unregister | subscribe | invoke => cases keeps
  | submit s =>
    cases named : s.target with
    | named id => exact .submitted s id rfl named
    | inline h =>
      rw [Action.keepsHandlers, named] at keeps
      cases keeps
  | handle frame => exact .received frame desk (.refl desk) rfl
  | expire ahead => exact .evicted ahead rfl
  | dispatch update => exact .dispatched update rfl
  | call method args =>
    cases found : desk.methods.find? method with
    | some h => exact .called method args h rfl found
    | none =>
      refine .answered (.done (.error (.methodNotFound method))) desk (.refl desk) rfl
        fun behave => ?_
      simp only [perform, found]
  | ask question => exact .answered _ desk (.refl desk) rfl fun _ => rfl
  | stop =>
    exact .answered _ _ ((Desk.sameBooks_stopService desk).sameHandlers.trans
      (Desk.sameBooks_enlist _).sameHandlers) rfl fun _ => rfl
  | emit kind payload =>
    exact .answered _ _ (.of_link (desk.emit_desk kind payload)) rfl fun _ => rfl
  | take => exact .answered _ _ (.of_link desk.takeFrame_desk) rfl fun _ => rfl
  | peer line action =>
    exact .answered _ _ ((Desk.SameHandlers.of_link (desk.peer_desk line action)).trans
      (Desk.sameBooks_enlist _).sameHandlers) rfl fun _ => rfl
  | emitThen kind payload =>
    obtain ⟨link, emitted⟩ := desk.emit_desk kind payload
    cases result : desk.emit kind payload with
    | mk outcome after =>
      rw [result] at emitted
      dsimp only at emitted
      subst emitted
      cases outcome with
      | ok =>
        refine .answered done (({ desk with link } : Desk H W).record .enqueued) ?_ rfl
          fun behave => by simp only [perform, result]
        constructor <;> rfl
      | error failure =>
        refine .answered (.done (.error failure)) _ (.of_link ⟨link, rfl⟩) rfl fun behave => ?_
        simp only [perform, result]
  | pull =>
    have stayed := Desk.SameHandlers.of_link desk.takeFrame_desk
    cases result : desk.takeFrame with
    | mk answer after =>
      rw [result] at stayed
      cases answer with
      | frame frame => exact .received frame after stayed (by simp only [received?, result])
      | _ =>
        refine .answered desk.takeFrame.1 _ stayed ?_ fun behave => ?_
        · simp only [received?, result]
        · simp only [perform, result]

/-- The callback of an id begins with its reply, and is gone if it lives once. -/
theorem deliver_eq (behave : Behaviour H W) (id : String) (reply : Reply) (desk : Desk H W)
    (stack : List (Frame H)) :
    deliver behave id reply desk stack =
      match desk.callbacks.find? id with
      | none => give (.done (.error (.callbackNotFound id))) desk stack
      | some callback =>
        let callbacks := match callback.lifetime with
          | .once => desk.callbacks.erase id
          | .durable => desk.callbacks
        enter behave callback.handler (.reply reply) { desk with callbacks }
          (.succeed :: stack) := by
  unfold deliver Desk.takeCallback?
  cases desk.callbacks.find? id with
  | none => rfl
  | some callback => cases lives : callback.lifetime <;> simp only [lives, Option.map_some]

theorem deliver_keeps {behave : Behaviour H W} {id other : String} {reply : Reply}
    {desk : Desk H W} {stack : List (Frame H)}
    (stays : desk.lifetime? id ≠ some .once ∨ other ≠ id) :
    (deliver behave other reply desk stack).desk.callbacks.find? id = desk.callbacks.find? id := by
  rw [deliver_eq]
  cases found : desk.callbacks.find? other with
  | none => rfl
  | some callback =>
    cases lives : callback.lifetime with
    | durable =>
      dsimp only
      rw [lives]
      rfl
    | once =>
      dsimp only
      rw [lives]
      refine (Table.find?_erase desk.callbacks other id).trans (if_neg ?_)
      rintro rfl
      rcases stays with others | different
      · exact others (by rw [Desk.lifetime?, found, Option.map_some, lives])
      · exact different rfl

/-- The page becomes what the callback makes of the reply. -/
theorem deliver_page (behave : Behaviour H W) (id : String) (reply : Reply) (desk : Desk H W)
    (stack : List (Frame H)) :
    (deliver behave id reply desk stack).desk.page =
      match desk.callbacks.find? id with
      | some callback => (behave callback.handler (.reply reply) desk.page).1
      | none => desk.page := by
  rw [deliver_eq]
  cases desk.callbacks.find? id <;> rfl

theorem deliver_others (behave : Behaviour H W) (id : String) (reply : Reply) (desk : Desk H W)
    (stack : List (Frame H)) :
    (deliver behave id reply desk stack).desk.methods = desk.methods ∧
      (deliver behave id reply desk stack).desk.subscribers = desk.subscribers := by
  rw [deliver_eq]
  cases desk.callbacks.find? id <;> exact ⟨rfl, rfl⟩

theorem expire_desk (time : Int) (desk : Desk H W) (stack : List (Frame H)) :
    Desk.SameHandlers desk (expire time desk stack).desk := by
  have evicted : Desk.SameHandlers desk (desk.evict time).2 := by constructor <;> rfl
  unfold expire
  split
  · rename_i result
    rwa [result] at evicted
  · rename_i result
    rw [result] at evicted
    exact evicted.trans (Desk.sameHandlers_settleLoading _)

theorem reply?_of_received {m : Machine H W} {frame : Incoming} {desk : Desk H W}
    (received : m.received? = some (frame, desk)) :
    m.reply? = match (desk.receive frame).1 with
      | .deliver id reply => some (id, reply)
      | _ => none := by
  unfold reply?
  split
  · rename_i control _
    exact absurd control (received?_not_answer received _)
  · rw [received]
    rfl

/-- The callback of an id lives on, or no request of the id is told of or abandoned in the next
step. -/
def Stays (m : Machine H W) (id : String) : Prop :=
  m.desk.lifetime? id ≠ some .once ∨ (∀ call, (id, call) ∉ m.told) ∧
    ∀ entry ∈ m.entries, entry.id = id → entry.fate ≠ .abandoned

theorem replyTo?_eq_some_iff {m : Machine H W} {id : String} {reply : Reply} :
    m.replyTo? id = some reply ↔ m.reply? = some (id, reply) := by
  unfold replyTo?
  rw [Option.map_eq_some_iff]
  constructor
  · rintro ⟨⟨name, found⟩, here, rfl⟩
    obtain ⟨replied, named⟩ := Option.filter_eq_some_iff.mp here
    obtain rfl : name = id := of_decide_eq_true named
    exact replied
  · intro replied
    exact ⟨(id, reply), Option.filter_eq_some_iff.mpr ⟨replied, by simp⟩, rfl⟩

/-- Whoever is told of an update hears of no reply in the same step. -/
theorem reply?_of_telling {m : Machine H W} {told : H × Update} (telling : m.telling? = some told) :
    m.reply? = none := by
  unfold telling? at telling
  split at telling
  · rename_i control waiting
    simp only [reply?, control, waiting, received?, Option.bind_none]
  · cases telling

theorem telling?_of_reply {m : Machine H W} {replied : String × Reply}
    (replying : m.reply? = some replied) : m.telling? = none := by
  cases telling : m.telling? with
  | none => rfl
  | some told =>
    rw [reply?_of_telling telling] at replying
    cases replying

theorem replyTo?_of_telling {m : Machine H W} {told : H × Update}
    (telling : m.telling? = some told) (id : String) : m.replyTo? id = none := by
  rw [replyTo?, reply?_of_telling telling]
  rfl

theorem replyTo?_of_other {m : Machine H W} {id other : String} {reply : Reply}
    (replied : m.reply? = some (other, reply)) (different : other ≠ id) :
    m.replyTo? id = none := by
  simp [replyTo?, replied, different]

/-- What a frame brings is distributed if it is an update that can be read. -/
theorem update?_of_received {m : Machine H W} {frame : Incoming} {desk : Desk H W}
    (received : m.received? = some (frame, desk)) :
    m.update? = match (desk.receive frame).1 with
      | .distribute update => some update
      | _ => none := by
  unfold update? Desk.receive
  rw [received, Option.bind_some]
  cases frame.kind with
  | update => cases Update.ofFrame? frame <;> rfl
  | response =>
    dsimp only [Desk.receiveResponse]
    cases Response.read.ofString? frame.content with
    | none => rfl
    | some response =>
      dsimp only
      cases response.error with
      | some message => rfl
      | none =>
        cases response.callback with
        | none => rfl
        | some echo =>
          dsimp only
          cases desk.calls.find? echo.id <;> rfl

/-- What a step comes to that keeps the handlers: the callback of an id gets a reply, a method is
called, a subscriber gets an update, or nobody runs. -/
inductive Heard (behave : Behaviour H W) (m : Machine H W) : Prop
  | replied (id : String) (reply : Reply) (desk : Desk H W) (stack : List (Frame H))
      (replying : m.reply? = some (id, reply)) (same : Desk.SameHandlers m.desk desk)
      (result : m.step behave = deliver behave id reply desk stack)
  | called (method : String) (args : List Value) (h : H)
      (control : m.control = .perform (.call method args))
      (found : m.desk.methods.find? method = some h)
      (result : m.step behave = enter behave h (.method args) m.desk (.succeed :: m.stack))
  | updated (answer : Answer) (update : Update) (h : H) (rest : List H) (count : Nat)
      (stack : List (Frame H)) (control : m.control = .answer answer)
      (waiting : m.stack = .distributing update (h :: rest) count :: stack)
      (result : m.step behave =
        enter behave h (.update update) m.desk (.distributing update rest count :: stack))
  | silent (callbacks : Table (Callback H)) (unreplied : m.reply? = none)
      (untold : m.telling? = none)
      (same : Desk.SameHandlers { m.desk with callbacks } (m.step behave).desk)
      (kept : ∀ id, m.Stays id → callbacks.find? id = m.desk.callbacks.find? id)

theorem Heard.of_sameHandlers {behave : Behaviour H W} {m : Machine H W}
    (unreplied : m.reply? = none) (untold : m.telling? = none)
    (same : Desk.SameHandlers m.desk (m.step behave).desk) : m.Heard behave :=
  .silent m.desk.callbacks unreplied untold same fun _ _ => rfl

theorem telling?_of_not_answer {m : Machine H W} (acting : ∀ answer, m.control ≠ .answer answer) :
    m.telling? = none := by
  unfold telling?
  split
  · rename_i control _
    exact absurd control (acting _)
  · rfl

theorem heard_of_received {behave : Behaviour H W} {m : Machine H W} {frame : Incoming}
    {desk : Desk H W} (received : m.received? = some (frame, desk)) : m.Heard behave := by
  have replied := reply?_of_received received
  have taken := (received?_books received).sameHandlers
  have result := step_of_received behave received
  obtain ⟨callbacks, same⟩ := desk.receive_handlers frame
  have kept : Desk.SameHandlers { m.desk with callbacks } (desk.receive frame).2 :=
    ⟨same.callbacks, same.methods.trans taken.methods, same.subscribers.trans taken.subscribers,
      same.page.trans taken.page⟩
  have stays (id : String) (stays : m.Stays id) :
      callbacks.find? id = m.desk.callbacks.find? id := by
    have kept : (desk.receive frame).2.callbacks.find? id = desk.callbacks.find? id := by
      refine Desk.receive_keeps ?_
      rw [Desk.lifetime?, taken.callbacks]
      exact stays.imp_right fun others entry closed =>
        others.2 entry ((mem_entries_of_received received).mpr closed)
    rw [← taken.callbacks, ← kept, same.callbacks]
  unfold handle at result
  cases receipt : desk.receive frame with
  | mk what after =>
    rw [receipt] at replied result kept
    cases what with
    | settled _ | distribute _ =>
      exact .silent callbacks replied (telling?_of_not_answer (received?_not_answer received))
        (by rw [result]; exact kept) stays
    | deliver id reply =>
      refine .replied id reply after m.stack replied ?_ result
      obtain ⟨entry, closed, fate⟩ := Desk.resolved_of_deliver receipt
      obtain ⟨_, _, delivered, -, stayed⟩ := Desk.receive_resolved closed fate
      rw [receipt] at delivered
      cases delivered
      exact ⟨stayed.trans taken.callbacks, kept.methods, kept.subscribers, kept.page⟩

theorem heard_of_answer (behave : Behaviour H W) {m : Machine H W} {answer : Answer}
    (control : m.control = .answer answer) : m.Heard behave := by
  obtain ⟨held, stack, desk⟩ := m
  dsimp only at control
  subst control
  cases stack with
  | nil => exact .of_sameHandlers rfl rfl (.refl desk)
  | cons frame stack =>
    cases frame with
    | acting h action next => exact .of_sameHandlers rfl rfl (by constructor <;> rfl)
    | succeed => exact .of_sameHandlers rfl rfl (.refl desk)
    | expiring rest count =>
      cases rest with
      | nil => exact .of_sameHandlers rfl rfl (.refl desk)
      | cons request rest =>
        exact .replied request.1 (Desk.timeoutReply request.2)
          ((desk.record (.request .expired request.1)).notify .error
            (Desk.timeoutReply request.2).message)
          (.expiring rest count :: stack) rfl (by constructor <;> rfl) rfl
    | distributing update rest count =>
      cases rest with
      | nil => exact .of_sameHandlers rfl rfl (.refl desk)
      | cons h rest => exact .updated answer update h rest count stack rfl rfl rfl
    | serving =>
      refine .of_sameHandlers rfl rfl ?_
      simp only [step, resume]
      split <;> constructor <;> rfl

theorem reply?_of_perform {action : Action H} {desk : Desk H W} {stack : List (Frame H)}
    (unreceived : received? { control := .perform action, stack, desk } = none) :
    reply? { control := .perform action, stack, desk } = none := by
  unfold reply?
  dsimp only
  rw [unreceived]
  rfl

/-- Every step that keeps the handlers is one of these. -/
theorem heard (behave : Behaviour H W) {m : Machine H W} (keeps : m.keepsHandlers = true) :
    m.Heard behave := by
  obtain ⟨control, stack, desk⟩ := m
  cases control with
  | answer answer => exact heard_of_answer behave rfl
  | run h program =>
    refine .of_sameHandlers rfl rfl ?_
    cases program <;> exact .refl desk
  | perform action =>
    cases kept keeps desk stack with
    | received frame taken stayed receiving => exact heard_of_received receiving
    | submitted s id same named =>
      subst same
      refine .of_sameHandlers (reply?_of_perform rfl) rfl ?_
      rw [step_submit behave rfl]
      exact (Desk.sameHandlers_submit named).trans (Desk.sameBooks_enlist _).sameHandlers
    | evicted ahead same =>
      subst same
      exact .of_sameHandlers (reply?_of_perform rfl) rfl (expire_desk _ desk stack)
    | dispatched update same =>
      subst same
      exact .of_sameHandlers (reply?_of_perform rfl) rfl (.refl desk)
    | answered answer after stayed unreceived result =>
      refine .of_sameHandlers (reply?_of_perform unreceived) rfl ?_
      simp only [step, result]
      exact stayed
    | called method args h same found =>
      subst same
      refine .called method args h rfl found ?_
      simp only [step, perform, found]

/-- A step that keeps the handlers leaves the methods and the subscribers. -/
theorem step_others (behave : Behaviour H W) {m : Machine H W} (keeps : m.keepsHandlers = true) :
    (m.step behave).desk.methods = m.desk.methods ∧
      (m.step behave).desk.subscribers = m.desk.subscribers := by
  cases heard behave keeps with
  | replied id reply desk stack replying same result =>
    obtain ⟨methods, subscribers⟩ := deliver_others behave id reply desk stack
    rw [result, methods, subscribers]
    exact ⟨same.methods, same.subscribers⟩
  | called method args h control found result =>
    rw [result]
    exact ⟨rfl, rfl⟩
  | updated answer update h rest count stack control waiting result =>
    rw [result]
    exact ⟨rfl, rfl⟩
  | silent callbacks unreplied untold same kept => exact ⟨same.methods, same.subscribers⟩

/-- What a reply answers is told of in the same step. -/
theorem told_of_reply {m : Machine H W} {id : String} {reply : Reply}
    (replying : m.reply? = some (id, reply)) :
    ∃ call, (id, call) ∈ m.told ∧ (reply.isSuccess = true →
      ({ fate := .resolved, id, call } : Entry) ∈ m.entries) := by
  unfold reply? at replying
  split at replying
  · rename_i answer name call rest count stack control waiting
    cases replying
    refine ⟨call, ?_, fun success => by cases success⟩
    unfold told
    rw [control, waiting]
    exact List.mem_singleton_self _
  · obtain ⟨⟨frame, desk⟩, received, delivered⟩ := Option.bind_eq_some_iff.mp replying
    cases receipt : desk.receive frame with
    | mk what after =>
      rw [receipt] at delivered
      cases what with
      | settled _ | distribute _ => cases delivered
      | deliver name answer =>
        cases delivered
        obtain ⟨⟨fate, name, call⟩, closed, rfl⟩ := Desk.resolved_of_deliver receipt
        obtain ⟨_, _, same, -, -⟩ := Desk.receive_resolved closed rfl
        rw [receipt] at same
        cases same
        have made := (mem_entries_of_received received).mpr closed
        exact ⟨call, told_of_resolved made, fun _ => made⟩

/-- A callback that stays is there after a step that keeps the handlers. -/
theorem step_keeps (behave : Behaviour H W) {m : Machine H W} (keeps : m.keepsHandlers = true)
    {id : String} (stays : m.Stays id) :
    (m.step behave).desk.callbacks.find? id = m.desk.callbacks.find? id := by
  cases heard behave keeps with
  | replied other reply desk stack replying same result =>
    rw [result, ← same.callbacks]
    refine deliver_keeps ?_
    rw [Desk.lifetime?, same.callbacks]
    refine stays.imp_right fun others same => ?_
    obtain ⟨call, telling, -⟩ := told_of_reply replying
    exact others.1 call (same ▸ telling)
  | called method args h control found result => rw [result]; rfl
  | updated answer update h rest count stack control waiting result => rw [result]; rfl
  | silent callbacks unreplied untold same kept =>
    rw [same.callbacks]
    exact kept id stays

/-! ## Replies that may still come -/

/-- How many replies may still be handed to the callback of an id, if nothing is submitted under
it. -/
def due (id : String) (m : Machine H W) : Nat :=
  (if m.desk.calls.contains id then 1 else 0) + m.pending.countP fun request => request.1 = id

/-- Outcomes of an id of which nobody hears. -/
def unheard (id : String) (m : Machine H W) : Nat :=
  m.entries.countP fun entry => entry.id = id && entry.fate = .abandoned

/-- Each outcome of an id brings news or is one of which nobody hears. -/
theorem countP_news (id : String) (entries : List Entry) :
    (entries.filterMap Entry.news?).countP (fun request => request.1 = id) +
        entries.countP (fun entry => entry.id = id && entry.fate = .abandoned) =
      (entriesOf id entries).countP fun entry => !decide (entry.fate = .submitted) := by
  induction entries with
  | nil => rfl
  | cons entry rest ih =>
    obtain ⟨fate, name, call⟩ := entry
    unfold entriesOf at ih ⊢
    by_cases same : name = id
    · cases fate <;> simp [Entry.news?, List.filterMap_cons, same, ← ih] <;> omega
    · cases fate <;> simp [Entry.news?, List.filterMap_cons, same, ← ih]

/-- A step that submits nothing under an id pays one reply for each that it tells or that nobody
hears of. -/
theorem due_step (behave : Behaviour H W) {m : Machine H W} {id : String}
    (unsent : ∀ s, m.control = .perform (.submit s) → (m.desk.submit s).1 ≠ some (.ok id)) :
    (m.step behave).due id + m.told.countP (fun request => request.1 = id) + m.unheard id =
      m.due id := by
  have counted := (m.step_news behave).countP_eq fun request => decide (request.1 = id)
  have outcomes := countP_news id m.entries
  rw [List.countP_append, List.countP_append] at counted
  rw [entriesOf_entries] at outcomes
  have table := m.step_find? behave id
  unfold due unheard
  rw [Table.contains_eq_isSome, Table.contains_eq_isSome, table]
  cases made : m.entries.find? fun entry => entry.id = id with
  | none =>
    rw [made] at outcomes
    simp only [Option.toList_none, List.countP_nil] at outcomes
    dsimp only
    omega
  | some entry =>
    have listed := List.mem_of_find?_eq_some made
    have same : entry.id = id := by simpa using List.find?_some made
    have outcome : entry.fate ≠ .submitted := by
      intro fate
      obtain ⟨s, control, accepted, -⟩ := submit_of_mem_entries listed fate
      exact unsent s control (same ▸ accepted)
    have waited := find?_of_mem_entries listed
    rw [same, Entry.before, if_neg outcome] at waited
    rw [made] at outcomes
    simp only [Option.toList_some, List.countP_singleton, outcome, decide_false, Bool.not_false,
      if_true] at outcomes
    simp only [waited, Entry.after, if_neg outcome, Option.isSome_none, Option.isSome_some,
      Bool.false_eq_true, if_false, if_true]
    omega

/-- No more replies are told of than may come. -/
theorem told_le_due {m : Machine H W} {id : String}
    (unsent : ∀ s, m.control = .perform (.submit s) → (m.desk.submit s).1 ≠ some (.ok id)) :
    m.told.countP (fun request => request.1 = id) ≤ m.due id := by
  have paid := due_step (fun _ _ page => (page, .finish)) unsent
  omega

/-- A step that keeps the handlers files none. -/
theorem files_of_keeps {m : Machine H W} (keeps : m.keepsHandlers = true) (id : String) :
    m.files id = false := by
  unfold keepsHandlers at keeps
  unfold files
  split
  · rename_i control
    rw [control] at keeps
    cases keeps
  · rename_i s control
    rw [control] at keeps
    split
    · rename_i own _
      simp [Action.keepsHandlers, own] at keeps
    · rfl
  · rfl

/-- The next step abandons a request of the id, or evicts it. -/
def lapses (id : String) (m : Machine H W) : Bool :=
  m.entries.any fun entry => entry.id = id && (entry.fate = .abandoned || entry.fate = .expired)

end Machine

/-! ## What has been heard on a run -/

section
variable {H W : Type} {stage : Stage H W} {past : Past H W} {move : Move H}

/-- The replies that have been handed to the callback of an id, the latest first. -/
def repliesTo (id : String) (past : Past H W) : List Reply :=
  past.filterMap fun moved =>
    if moved.2.isStep then moved.1.machine.replyTo? id else none

/-- The updates of a kind that frames have brought, the latest first. -/
def updatesOf (kind : UpdateKind) (past : Past H W) : List Update :=
  past.filterMap fun moved =>
    if moved.2.isStep then moved.1.machine.update?.filter fun update => update.kind = kind
    else none

theorem repliesTo_step (id : String) :
    repliesTo id ((stage, .work) :: past) =
      (stage.machine.replyTo? id).toList ++ repliesTo id past := by
  unfold repliesTo
  rw [List.filterMap_cons]
  cases stage.machine.replyTo? id <;> rfl

theorem repliesTo_of_not_step (id : String) (still : move.isStep = false) :
    repliesTo id ((stage, move) :: past) = repliesTo id past := by
  unfold repliesTo
  rw [List.filterMap_cons, still]
  rfl

theorem updatesOf_step (kind : UpdateKind) :
    updatesOf kind ((stage, .work) :: past) =
      (stage.machine.update?.filter fun update => update.kind = kind).toList ++
        updatesOf kind past := by
  unfold updatesOf
  rw [List.filterMap_cons]
  cases stage.machine.update?.filter fun update => update.kind = kind <;> rfl

theorem updatesOf_of_not_step (kind : UpdateKind) (still : move.isStep = false) :
    updatesOf kind ((stage, move) :: past) = updatesOf kind past := by
  unfold updatesOf
  rw [List.filterMap_cons, still]
  rfl

end
end PageSession.Exchange
