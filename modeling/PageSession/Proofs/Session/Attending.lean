import PageSession.Proofs.Exchange.Hearing
import PageSession.Proofs.Session.Residents

/-!
A page at work. While nobody but its residents files handlers or sends requests, little can be in
progress at once: an action of others, a refresh, a handler at its end. What a step writes down is
then read off what it hears: a list of users, a status that its follower is told of, or the reply to
the request for the summary.
-/
namespace PageSession

namespace Exchange

/-- What others may do to a page: frames, the clock, the user and the line. Nobody else files
handlers, sends requests or runs handlers directly. -/
def Action.isAmbient {H : Type} : Action H → Bool
  | .call .. | .handle _ | .pull | .take | .expire _ | .peer .. | .stop | .ask _ | .emit ..
  | .emitThen .. => true
  | .submit _ | .register .. | .registerMethod .. | .unregister _ | .subscribe .. | .invoke ..
  | .dispatch _ => false

def Move.isAmbient {H : Type} : Move H → Bool
  | .act action => action.isAmbient
  | _ => true

theorem Action.keepsHandlers_of_isAmbient {H : Type} {action : Action H}
    (ambient : action.isAmbient = true) : action.keepsHandlers = true := by
  cases action <;> first | rfl | cases ambient

/-- Work that waits for an answer and starts no handler but those of expired requests. -/
def Frame.IsSpent {H : Type} : Frame H → Prop
  | .acting _ _ next => ∀ answer, next answer = .finish
  | .distributing _ rest _ => rest = []
  | .succeed | .expiring .. | .serving => True

theorem Machine.telling?_of_isSpent {H W : Type} {m : Machine H W}
    (spent : ∀ frame ∈ m.stack, frame.IsSpent) : m.telling? = none := by
  unfold telling?
  split
  · rename_i update h rest count stack _ waiting
    rw [waiting, List.forall_mem_cons] at spent
    cases spent.1
  · rfl

end Exchange

namespace Builtin
open Json Message Exchange

/-- The list of users in a reply: there is one in a success whose data is an array. -/
def usersIn? (reply : Reply) : Option (List Value) :=
  match reply.isSuccess, reply.data with
  | true, some (.array users) => some users
  | _, _ => none

def summaryIn? (reply : Reply) : Option Value := if reply.isSuccess then reply.data else none

theorem Notebook.update_same (book : Notebook) (serial : Nat) (change : Notes → Notes) :
    (book.update serial change).notes serial = change (book.notes serial) :=
  if_pos rfl

/-- A field that a change keeps is the same for every object. -/
theorem Notebook.update_kept {α : Type} (field : Notes → α) {book : Notebook} {serial : Nat}
    {change : Notes → Notes} (kept : field (change (book.notes serial)) = field (book.notes serial))
    (other : Nat) : field ((book.update serial change).notes other) = field (book.notes other) := by
  unfold update
  dsimp only
  split
  · rename_i here
    rw [here]
    exact kept
  · rfl

namespace Notes
variable (notes : Notes) (reply : Reply)

theorem takeUsers_users : (notes.takeUsers reply).users = (usersIn? reply).getD notes.users := by
  unfold takeUsers usersIn?
  cases reply.isSuccess with
  | false => rfl
  | true =>
    cases reply.data with
    | none => rfl
    | some data => cases data <;> rfl

@[simp] theorem takeUsers_summary : (notes.takeUsers reply).summary = notes.summary := by
  unfold takeUsers
  split <;> rfl

@[simp] theorem takeUsers_lastStatus : (notes.takeUsers reply).lastStatus = notes.lastStatus := by
  unfold takeUsers
  split <;> rfl

theorem takeSummary_summary (none : notes.summary = none) :
    (notes.takeSummary reply).summary = summaryIn? reply := by
  unfold takeSummary summaryIn?
  split
  · rfl
  · exact none

@[simp] theorem takeSummary_users : (notes.takeSummary reply).users = notes.users := by
  unfold takeSummary
  split <;> rfl

@[simp] theorem takeSummary_lastStatus :
    (notes.takeSummary reply).lastStatus = notes.lastStatus := by
  unfold takeSummary
  split <;> rfl

end Notes
end Builtin

namespace Session
open Json Message Exchange Builtin

variable {U : Type} {programs : U → Invocation → Program (Handler U)} {residents : Residents}
  {m : Machine (Handler U) Notebook}

/-! ## What a step leaves filed -/

/-- What residents have filed stays where the handlers are the same. -/
theorem Residents.Filed.of_sameHandlers {desk after : Desk (Handler U) Notebook}
    (filed : residents.Filed desk) (same : desk.SameHandlers after) : residents.Filed after where
  users := by
    rw [same.callbacks]
    exact filed.users
  summary found := filed.summary (same.callbacks ▸ found)
  others notUsers notSummary := by
    rw [same.callbacks]
    exact filed.others notUsers notSummary
  methods found := filed.methods (same.methods ▸ found)
  progress := same.subscribers ▸ filed.progress
  status := same.subscribers ▸ filed.status

/-- A step that keeps the handlers leaves what residents have filed. -/
theorem Residents.Filed.step (filed : residents.Filed m.desk) (keeps : m.keepsHandlers = true) :
    residents.Filed (m.step (behave programs)).desk := by
  obtain ⟨methods, subscribers⟩ := Machine.step_others (behave programs) keeps
  have loses (id : String) := Machine.loses_step (behave programs) (Machine.files_of_keeps keeps id)
  refine ⟨?_, ?_, ?_, ?_, subscribers ▸ filed.progress, subscribers ▸ filed.status⟩
  · refine (Machine.step_keeps (behave programs) keeps (.inl ?_)).trans filed.users
    rw [Desk.lifetime?, filed.users]
    cases residents.users <;> simp
  · intro callback found
    rcases loses summaryId with same | gone
    · exact filed.summary (same ▸ found)
    · rw [gone] at found
      cases found
  · intro id notUsers notSummary
    rcases loses id with same | gone
    · exact same.trans (filed.others notUsers notSummary)
    · exact gone
  · intro name h found
    exact filed.methods (methods ▸ found)

/-! ## What is in progress -/

/-- What is in progress at a page: an action of others, the request of a refresh, a handler that is
at its end or about to send that request, or an answer on its way. An update has one subscriber at
most. -/
inductive Attends (m : Machine (Handler U) Notebook) : Prop
  | performing (action : Action (Handler U)) (control : m.control = .perform action)
      (ambient : action.isAmbient = true) (spent : ∀ frame ∈ m.stack, frame.IsSpent)
  | asking (control : m.control = .perform (.submit usersRequest))
      (spent : ∀ frame ∈ m.stack, frame.IsSpent)
  | running (h : Handler U) (program : Program (Handler U)) (control : m.control = .run h program)
      (short : program = .finish ∨ program = PageHandler.refresh.program)
      (spent : ∀ frame ∈ m.stack, frame.IsSpent)
  | answering (answer : Answer) (control : m.control = .answer answer)
      (spent : ∀ frame ∈ m.stack, frame.IsSpent)
  | telling (answer : Answer) (update : Update) (h : Handler U) (count : Nat)
      (stack : List (Frame (Handler U))) (control : m.control = .answer answer)
      (waiting : m.stack = .distributing update [h] count :: stack)
      (subscribed : m.desk.subscribers.ofKind update.kind = [h])
      (spent : ∀ frame ∈ stack, frame.IsSpent)

theorem Attends.keepsHandlers (attends : Attends m) : m.keepsHandlers = true := by
  unfold Machine.keepsHandlers
  cases attends with
  | performing action control ambient spent =>
    rw [control]
    exact Action.keepsHandlers_of_isAmbient ambient
  | asking control =>
    rw [control]
    rfl
  | running _ _ control | answering _ control | telling _ _ _ _ _ control => rw [control]

/-- Nothing is ever submitted but the request for users. -/
theorem Attends.unsent (attends : Attends m) {id : String} (other : id ≠ usersCallback)
    (s : Submission (Handler U)) (control : m.control = .perform (.submit s)) :
    (m.desk.submit s).1 ≠ some (.ok id) := by
  intro accepted
  cases attends with
  | performing action performed ambient spent =>
    cases performed.symm.trans control
    cases ambient
  | asking performed spent =>
    cases performed.symm.trans control
    exact other (Option.some.inj (Desk.submit_id accepted)).symm
  | running _ _ performed | answering _ performed | telling _ _ _ _ _ performed =>
    cases performed.symm.trans control

/-- A callback that is handed a reply has nothing further to do. -/
private theorem Residents.Filed.deliver (filed : residents.Filed m.desk)
    {desk : Desk (Handler U) Notebook} {stack : List (Frame (Handler U))} {id : String}
    {reply : Reply} (same : m.desk.SameHandlers desk) (spent : ∀ frame ∈ stack, frame.IsSpent) :
    Attends (Machine.deliver (behave programs) id reply desk stack) ∧
      (Machine.deliver (behave programs) id reply desk stack).telling? = none := by
  rw [Machine.deliver_eq, same.callbacks]
  cases found : m.desk.callbacks.find? id with
  | none => exact ⟨.answering _ rfl spent, Machine.telling?_of_isSpent spent⟩
  | some callback =>
    have ends : ∃ h : PageHandler, callback.handler = .page h ∧
        h.program (H := Handler U) = .finish := by
      by_cases users : id = usersCallback
      · rw [users, filed.users] at found
        obtain ⟨serial, -, rfl⟩ := Option.map_eq_some_iff.mp found
        exact ⟨_, rfl, rfl⟩
      · by_cases summary : id = summaryId
        · obtain ⟨serial, -, rfl⟩ := filed.summary (summary ▸ found)
          exact ⟨_, rfl, rfl⟩
        · rw [filed.others users summary] at found
          cases found
    obtain ⟨h, handler, ends⟩ := ends
    dsimp only
    rw [handler]
    exact ⟨.running _ _ rfl (.inl ends) (List.forall_mem_cons.mpr ⟨trivial, spent⟩), rfl⟩

/-- Of each kind of update there is one subscriber at most, and it has nothing further to do. -/
theorem Residents.Filed.subscriber (filed : residents.Filed m.desk) (kind : UpdateKind) :
    m.desk.subscribers.ofKind kind = [] ∨ ∃ h : PageHandler,
      m.desk.subscribers.ofKind kind = [.page h] ∧ h.program (H := Handler U) = .finish := by
  cases kind with
  | loadingProgress =>
    rw [Subscribers.ofKind, filed.progress]
    cases residents.home with
    | none => exact .inl rfl
    | some serial => exact .inr ⟨.progress, rfl, rfl⟩
  | statusChange =>
    rw [Subscribers.ofKind, filed.status]
    cases residents.home with
    | none => exact .inl rfl
    | some serial => exact .inr ⟨.status serial, rfl, rfl⟩

/-- What the next step tells next is what the frame brings that it handles. -/
def Tells (m after : Machine (Handler U) Notebook) : Prop :=
  after.telling? = m.update?.bind fun update =>
    (m.desk.subscribers.ofKind update.kind).head?.map (·, update)

/-- A frame that is handled is answered, handed to a callback, or distributed. -/
private theorem Residents.Filed.handle (filed : residents.Filed m.desk) {frame : Incoming}
    {desk : Desk (Handler U) Notebook} (received : m.received? = some (frame, desk))
    (spent : ∀ frame ∈ m.stack, frame.IsSpent) :
    Attends (m.step (behave programs)) ∧ Tells m (m.step (behave programs)) := by
  have brought := Machine.update?_of_received received
  have taken := (Machine.received?_books received).sameHandlers
  obtain ⟨callbacks, kept⟩ := desk.receive_handlers frame
  rw [Machine.step_of_received (behave programs) received]
  unfold Tells Machine.handle
  rw [brought]
  cases receipt : desk.receive frame with
  | mk what after =>
    rw [receipt] at kept
    cases what with
    | settled result => exact ⟨.answering _ rfl spent, Machine.telling?_of_isSpent spent⟩
    | deliver id reply =>
      obtain ⟨entry, closed, fate⟩ := Desk.resolved_of_deliver receipt
      obtain ⟨_, _, delivered, -, stayed⟩ := Desk.receive_resolved closed fate
      rw [receipt] at delivered
      cases delivered
      refine filed.deliver ⟨stayed.trans taken.callbacks, ?_, ?_, ?_⟩ spent
      · exact kept.methods.trans taken.methods
      · exact kept.subscribers.trans taken.subscribers
      · exact kept.page.trans taken.page
    | distribute update =>
      have spent' : ∀ frame ∈ Frame.succeed :: m.stack, frame.IsSpent :=
        List.forall_mem_cons.mpr ⟨trivial, spent⟩
      have subscribers : after.subscribers = m.desk.subscribers :=
        kept.subscribers.trans taken.subscribers
      dsimp only [Machine.distribute]
      rw [Option.bind_some, subscribers]
      rcases filed.subscriber update.kind with nobody | ⟨h, somebody, ends⟩
      · rw [nobody]
        exact ⟨.answering _ rfl (List.forall_mem_cons.mpr ⟨rfl, spent'⟩), rfl⟩
      · rw [somebody]
        refine ⟨.telling _ update (.page h) 1 _ rfl rfl ?_ spent', rfl⟩
        exact (congrArg (Subscribers.ofKind · update.kind) subscribers).trans somebody

theorem tells_of_silent {after : Machine (Handler U) Notebook} (unreceived : m.received? = none)
    (untold : after.telling? = none) : Tells m after := by
  unfold Tells Machine.update?
  rw [unreceived, untold]
  rfl

/-- An action of others is answered, handled as a frame, evicts, or starts a refresh. -/
private theorem attends_performing (filed : residents.Filed m.desk) {action : Action (Handler U)}
    (control : m.control = .perform action) (ambient : action.isAmbient = true)
    (spent : ∀ frame ∈ m.stack, frame.IsSpent) :
    Attends (m.step (behave programs)) ∧ Tells m (m.step (behave programs)) := by
  obtain ⟨held, stack, desk⟩ := m
  dsimp only at control
  subst control
  cases Machine.kept (Action.keepsHandlers_of_isAmbient ambient) desk stack with
  | submitted s id same =>
    subst same
    cases ambient
  | dispatched update same =>
    subst same
    cases ambient
  | received frame taken stayed receiving => exact filed.handle receiving spent
  | answered answer after stayed unreceived result =>
    have given : Machine.step (behave programs) { control := .perform action, stack, desk } =
        .give answer after stack := result _
    rw [given]
    have untold := Machine.telling?_of_isSpent (m := .give answer after stack) spent
    exact ⟨.answering answer rfl spent, tells_of_silent unreceived untold⟩
  | called method args h same found =>
    subst same
    obtain rfl := filed.methods found
    have entered : Machine.step (behave programs)
        { control := .perform (.call method args), stack, desk } =
        .enter (behave programs) (.page .refresh) (.method args) desk (.succeed :: stack) := by
      simp only [Machine.step, Machine.perform, found]
    rw [entered]
    refine ⟨.running _ _ rfl (.inr rfl) (List.forall_mem_cons.mpr ⟨trivial, spent⟩), ?_⟩
    exact tells_of_silent rfl rfl
  | evicted ahead same =>
    subst same
    have evicting : Machine.step (behave programs)
        { control := .perform (.expire ahead), stack, desk } =
        .expire (desk.now + ahead) desk stack := rfl
    rw [evicting]
    unfold Machine.expire
    split
    · rename_i after _
      have untold := Machine.telling?_of_isSpent (m := .give (.count 0) after stack) spent
      exact ⟨.answering _ rfl spent, tells_of_silent rfl untold⟩
    · exact ⟨.answering _ rfl (List.forall_mem_cons.mpr ⟨trivial, spent⟩), tells_of_silent rfl rfl⟩

variable (programs) in
/-- An answer goes to whoever waits for it: only an expired request starts its callback. -/
private theorem attends_answering (filed : residents.Filed m.desk) {answer : Answer}
    (control : m.control = .answer answer) (spent : ∀ frame ∈ m.stack, frame.IsSpent) :
    Attends (m.step (behave programs)) ∧ (m.step (behave programs)).telling? = none := by
  obtain ⟨held, stack, desk⟩ := m
  dsimp only at control
  subst control
  cases stack with
  | nil => exact ⟨.answering answer rfl spent, rfl⟩
  | cons frame stack =>
    obtain ⟨here, others⟩ := List.forall_mem_cons.mp spent
    have given (answer : Answer) (desk : Desk (Handler U) Notebook) :
        Attends (Machine.give answer desk stack) ∧
          (Machine.give answer desk stack).telling? = none :=
      ⟨.answering answer rfl others, Machine.telling?_of_isSpent others⟩
    cases frame with
    | acting h action next => exact ⟨.running h (next answer) rfl (.inl (here answer)) others, rfl⟩
    | succeed => exact given _ desk
    | expiring rest count =>
      cases rest with
      | nil => exact given _ desk
      | cons request rest =>
        refine filed.deliver ?_ (List.forall_mem_cons.mpr ⟨trivial, others⟩)
        constructor <;> rfl
    | distributing update rest count =>
      cases here
      exact given _ desk
    | serving =>
      show Attends (Machine.resume (behave programs) .serving answer desk stack) ∧
        (Machine.resume (behave programs) .serving answer desk stack).telling? = none
      unfold Machine.resume
      dsimp only
      split
      · exact given _ _
      · exact given _ _

variable (programs) in
/-- What is in progress at a page stays of this kind. -/
theorem Attends.step (attends : Attends m) (filed : residents.Filed m.desk) :
    Attends (m.step (behave programs)) ∧ Tells m (m.step (behave programs)) := by
  cases attends with
  | performing action control ambient spent => exact attends_performing filed control ambient spent
  | answering answer control spent =>
    obtain ⟨attends, untold⟩ := attends_answering programs filed control spent
    exact ⟨attends, tells_of_silent (by simp only [Machine.received?, control]) untold⟩
  | asking control spent =>
    let sent := m.desk.submitAs usersRequest usersCallback none
    have asked : m.step (behave programs) = .give (.submitted sent.1) sent.2.enlist m.stack :=
      Machine.step_of_submit (behave programs) control
    have unreceived : m.received? = none := by simp only [Machine.received?, control]
    rw [asked]
    have attends := Attends.answering (m := .give (.submitted sent.1) sent.2.enlist m.stack)
      _ rfl spent
    exact ⟨attends, tells_of_silent unreceived (Machine.telling?_of_isSpent spent)⟩
  | running h program control short spent =>
    have unreceived : m.received? = none := by simp only [Machine.received?, control]
    rcases short with rfl | rfl
    · have ended : m.step (behave programs) = .give Machine.done m.desk m.stack := by
        simp only [Machine.step, control]
      rw [ended]
      have attends := Attends.answering (m := .give Machine.done m.desk m.stack) _ rfl spent
      exact ⟨attends, tells_of_silent unreceived (Machine.telling?_of_isSpent spent)⟩
    · have asking : m.step (behave programs) =
          { control := .perform (.submit usersRequest)
            stack := .acting h (.submit usersRequest) (fun _ => .finish) :: m.stack
            desk := m.desk } := by
        simp only [Machine.step, control, PageHandler.program]
      rw [asking]
      refine ⟨.asking rfl ?_, tells_of_silent unreceived rfl⟩
      exact List.forall_mem_cons.mpr ⟨fun _ => rfl, spent⟩
  | telling answer update h count stack control waiting subscribed spent =>
    have entered : m.step (behave programs) =
        .enter (behave programs) h (.update update) m.desk
          (.distributing update [] count :: stack) := by
      simp only [Machine.step, control, waiting, Machine.resume]
    have unreceived : m.received? = none := by simp only [Machine.received?, control]
    rcases filed.subscriber update.kind with nobody | ⟨follower, somebody, ends⟩
    · rw [subscribed] at nobody
      cases nobody
    · obtain rfl : h = .page follower := by simpa using subscribed.symm.trans somebody
      rw [entered]
      refine ⟨.running _ _ rfl (.inl ends) ?_, tells_of_silent unreceived rfl⟩
      exact List.forall_mem_cons.mpr ⟨rfl, spent⟩

/-- Who is told of an update is its only subscriber. -/
theorem Attends.subscribed (attends : Attends m) {h : Handler U} {update : Update}
    (telling : m.telling? = some (h, update)) : m.desk.subscribers.ofKind update.kind = [h] := by
  cases attends with
  | performing _ _ _ spent | asking _ spent | running _ _ _ _ spent | answering _ _ spent =>
    rw [Machine.telling?_of_isSpent spent] at telling
    cases telling
  | telling answer other follower count stack control waiting subscribed spent =>
    simp only [Machine.telling?, control, waiting] at telling
    cases telling
    exact subscribed

/-! ## What is written down -/

/-- What a step writes down: a reply for users or about the summary, a status, or nothing. -/
inductive Writes (residents : Residents) (m : Machine (Handler U) Notebook) (book : Notebook) : Prop
  | users (reply : Reply) (serial : Nat) (replied : m.reply? = some (usersCallback, reply))
      (resident : residents.users = some serial)
      (same : book = m.desk.page.update serial fun notes => notes.takeUsers reply)
  | summary (reply : Reply) (serial : Nat) (replied : m.reply? = some (summaryId, reply))
      (resident : residents.home = some serial)
      (same : book = m.desk.page.update serial fun notes => notes.takeSummary reply)
  | status (h : Handler U) (update : Update) (serial : Nat)
      (told : m.telling? = some (h, update)) (kind : update.kind = .statusChange)
      (resident : residents.home = some serial)
      (same : book = m.desk.page.update serial fun notes =>
        { notes with lastStatus := update.data })
  | nothing
      (unheard : ∀ {id reply}, m.reply? = some (id, reply) → m.desk.callbacks.find? id = none)
      (untold : ∀ {h update}, m.telling? = some (h, update) → update.kind ≠ .statusChange)
      (same : book = m.desk.page)

variable (programs) in
/-- What a step writes down, and what was heard when it does. -/
theorem Attends.writes (attends : Attends m) (filed : residents.Filed m.desk) :
    Writes residents m (m.step (behave programs)).desk.page := by
  cases Machine.heard (behave programs) attends.keepsHandlers with
  | silent callbacks unreplied untold same kept =>
    refine .nothing (fun replied => ?_) (fun telling => ?_) same.page
    · rw [unreplied] at replied
      cases replied
    · rw [untold] at telling
      cases telling
  | called method args h control found result =>
    obtain rfl := filed.methods found
    refine .nothing (fun replied => ?_) (fun telling => ?_) (by rw [result]; rfl)
    · simp only [Machine.reply?, control, Machine.received?] at replied
      cases replied
    · simp only [Machine.telling?, control] at telling
      cases telling
  | updated answer update h rest count stack control waiting result =>
    have telling : m.telling? = some (h, update) := by
      simp only [Machine.telling?, control, waiting]
    have subscribed := attends.subscribed telling
    have written : (m.step (behave programs)).desk.page =
        (behave programs h (.update update) m.desk.page).1 := by
      rw [result]
      rfl
    cases kind : update.kind with
    | statusChange =>
      rw [kind, Subscribers.ofKind, filed.status] at subscribed
      cases resident : residents.home with
      | none =>
        rw [resident] at subscribed
        cases subscribed
      | some serial =>
        rw [resident] at subscribed
        cases subscribed
        exact .status _ update serial telling kind resident written
    | loadingProgress =>
      -- whoever watches the progress writes nothing down
      rw [kind, Subscribers.ofKind, filed.progress] at subscribed
      have progress : h = .page .progress := by
        cases resident : residents.home with
        | none =>
          rw [resident] at subscribed
          cases subscribed
        | some serial =>
          rw [resident] at subscribed
          cases subscribed
          rfl
      subst progress
      refine .nothing (fun replied => ?_) (fun told => ?_) written
      · rw [Machine.reply?_of_telling telling] at replied
        cases replied
      · rw [telling] at told
        cases told
        rw [kind]
        exact fun impossible => by cases impossible
  | replied id reply desk stack replying same result =>
    have silent := Machine.telling?_of_reply replying
    have written : (m.step (behave programs)).desk.page = _ :=
      (congrArg (fun m => m.desk.page) result).trans
        (Machine.deliver_page (behave programs) id reply desk stack)
    rw [same.callbacks, same.page] at written
    cases found : m.desk.callbacks.find? id with
    | none =>
      rw [found] at written
      refine .nothing (fun replied => ?_) (fun telling => ?_) written
      · rw [replying] at replied
        cases replied
        exact found
      · rw [silent] at telling
        cases telling
    | some callback =>
      rw [found] at written
      by_cases users : id = usersCallback
      · subst users
        rw [filed.users] at found
        obtain ⟨serial, resident, rfl⟩ := Option.map_eq_some_iff.mp found
        exact .users reply serial replying resident written
      · by_cases summary : id = summaryId
        · subst summary
          obtain ⟨serial, resident, rfl⟩ := filed.summary found
          exact .summary reply serial replying resident written
        · rw [filed.others users summary] at found
          cases found

/-- The status that the landing area shows, or is just about to be told. -/
def statusOf (serial : Nat) (m : Machine (Handler U) Notebook) : Option Value :=
  match m.telling? with
  | some (_, update) =>
    if update.kind = .statusChange then update.data else (m.desk.page.notes serial).lastStatus
  | none => (m.desk.page.notes serial).lastStatus

section
variable (programs) (attends : Attends m) (filed : residents.Filed m.desk) {serial : Nat}
include attends filed

/-- A list of users that comes replaces the one before. -/
theorem step_users (resident : residents.users = some serial) :
    ((m.step (behave programs)).desk.page.notes serial).users =
      ((m.replyTo? usersCallback).bind usersIn?).getD (m.desk.page.notes serial).users := by
  cases attends.writes programs filed with
  | users reply owner replied owned same =>
    cases owned.symm.trans resident
    have here := Machine.replyTo?_eq_some_iff.mpr replied
    rw [same, here, Notebook.update_same]
    exact Notes.takeUsers_users _ reply
  | summary reply owner replied owned same =>
    rw [same, Machine.replyTo?_of_other replied usersCallback_ne_summaryId.symm]
    exact Notebook.update_kept Notes.users (Notes.takeSummary_users _ reply) serial
  | status h update owner told kind owned same =>
    rw [same, Machine.replyTo?_of_telling told]
    exact Notebook.update_kept Notes.users rfl serial
  | nothing unheard untold same =>
    have silent : m.replyTo? usersCallback = none := by
      cases replied : m.reply? with
      | none =>
        rw [Machine.replyTo?, replied]
        rfl
      | some replied' =>
        obtain ⟨id, reply⟩ := replied'
        refine Machine.replyTo?_of_other replied ?_
        rintro rfl
        have missing := unheard replied
        rw [filed.users, resident] at missing
        cases missing
    rw [same, silent]
    rfl

/-- A status that its follower is told of replaces the one before. -/
theorem step_status (resident : residents.home = some serial) :
    ((m.step (behave programs)).desk.page.notes serial).lastStatus = statusOf serial m := by
  unfold statusOf
  cases attends.writes programs filed with
  | users reply owner replied owned same =>
    rw [same, Machine.telling?_of_reply replied]
    exact Notebook.update_kept Notes.lastStatus (Notes.takeUsers_lastStatus _ reply) serial
  | summary reply owner replied owned same =>
    rw [same, Machine.telling?_of_reply replied]
    exact Notebook.update_kept Notes.lastStatus (Notes.takeSummary_lastStatus _ reply) serial
  | status h update owner told kind owned same =>
    cases owned.symm.trans resident
    rw [same, told, Notebook.update_same]
    dsimp only
    rw [if_pos kind]
  | nothing unheard untold same =>
    rw [same]
    cases telling : m.telling? with
    | none => rfl
    | some told =>
      dsimp only
      rw [if_neg (untold telling)]

/-- The summary comes with the reply to the request for it, if that is still awaited. -/
theorem step_summary (resident : residents.home = some serial)
    (awaited : ∀ {reply}, m.replyTo? summaryId = some reply →
      m.desk.callbacks.contains summaryId = true) :
    ((m.step (behave programs)).desk.page.notes serial).summary =
      match m.replyTo? summaryId with
      | some reply => ((m.desk.page.notes serial).takeSummary reply).summary
      | none => (m.desk.page.notes serial).summary := by
  cases attends.writes programs filed with
  | users reply owner replied owned same =>
    rw [same, Machine.replyTo?_of_other replied usersCallback_ne_summaryId]
    exact Notebook.update_kept Notes.summary (Notes.takeUsers_summary _ reply) serial
  | summary reply owner replied owned same =>
    cases owned.symm.trans resident
    have here := Machine.replyTo?_eq_some_iff.mpr replied
    rw [same, here, Notebook.update_same]
  | status h update owner told kind owned same =>
    rw [same, Machine.replyTo?_of_telling told]
    exact Notebook.update_kept Notes.summary rfl serial
  | nothing unheard untold same =>
    have silent : m.replyTo? summaryId = none := by
      cases replied : m.replyTo? summaryId with
      | none => rfl
      | some reply =>
        have present := awaited replied
        have missing := unheard (Machine.replyTo?_eq_some_iff.mp replied)
        rw [Table.contains_eq_isSome, missing] at present
        cases present
    rw [same, silent]

end

end Session
end PageSession
