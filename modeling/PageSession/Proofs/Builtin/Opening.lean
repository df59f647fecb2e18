import PageSession.Proofs.Builtin.Kinds
import PageSession.Proofs.Exchange.Submissions

/-!
What the initializers of the built-in modules do. As long as frames can be queued neither of them
fails: the landing area makes an id that nothing has been filed under, and whether user management
can ask for its list is no matter to it.
-/
namespace PageSession

namespace Exchange
open Json Message

namespace Link

/-- Frames can be queued. -/
structure Accepts (link : Link) : Prop where
  up : link.status ≠ .disconnected
  used : ∃ index line, link.current = some index ∧ link.line? index = some line ∧
    line.accepting = true

/-- A frame that is queued leaves room for others. -/
theorem Accepts.emit {link : Link} (accepts : link.Accepts) (kind : String) (payload : Members) :
    ∃ sent, link.emit kind payload = .ok sent ∧ sent.Accepts := by
  obtain ⟨index, line, current, there, accepting⟩ := accepts.used
  refine ⟨_, by rw [emit_eq current there, if_neg accepts.up, if_pos accepting], ?_, ?_⟩
  · rw [change_status]
    exact accepts.up
  · let queued : Line :=
      { line with outbox := line.outbox ++ [{ kind, payload := link.tagged payload }] }
    refine ⟨index, queued, ?_, ?_, accepting⟩
    · rw [change_current, current]
    · rw [line?_change, if_pos rfl, there, Option.map_some]

end Link

namespace Desk
variable {H W : Type}

/-- A request under an id that is free is sent, whatever its handler. -/
theorem submitAs_accepts {desk : Desk H W} (accepts : desk.link.Accepts) (s : Submission H)
    {id : String} (free : desk.calls.find? id = none) (own : Option H) :
    ∃ link services permit log, link.Accepts ∧ desk.submitAs s id own =
      (.ok id, { desk.filed s id own with link, services, permit, log }) := by
  obtain ⟨sent, queued, accepts'⟩ := accepts.emit "submit" (desk.requestOf s id).payload
  obtain ⟨services, permit, announced⟩ :=
    announced_desk { desk.filed s id own with link := sent } s id
  have absent := (Table.contains_eq_false_iff _ _).mpr free
  rw [submitAs_eq, absent, queued]
  exact ⟨sent, services, permit, _, accepts', congrArg (Prod.mk _) announced⟩

end Desk
end Exchange

namespace Builtin
open Message Exchange

variable {U : Type}

/-- The handler of the server that the landing area asks for its summary. -/
def summaryHandler : String := "dashboard.summary"

/-- What the initializer of the landing area leaves. -/
structure HomeOpened (serial : Nat) (desk after : Desk (Handler U) Notebook) : Prop where
  accepts : after.link.Accepts
  ids : after.ids.next = desk.ids.next + 1
  calls : ∀ id, id ≠ CallbackIds.name desk.ids.next → after.calls.find? id = desk.calls.find? id
  callbacks : after.callbacks = desk.callbacks.insert (CallbackIds.name desk.ids.next)
    { handler := .page (.summary serial), lifetime := .once }
  methods : after.methods = desk.methods
  subscribers : after.subscribers =
    { loadingProgress := desk.subscribers.loadingProgress ++ [.page .progress]
      statusChange := desk.subscribers.statusChange ++ [.page (.status serial)] }
  page : after.page = desk.page
  stream : after.stream = desk.stream
  /-- The summary has been asked for. -/
  asked : ∃ call, after.calls.find? (CallbackIds.name desk.ids.next) = some call ∧
    call.handler = summaryHandler

/-- What the initializer of user management leaves. -/
structure UsersOpened (serial : Nat) (desk after : Desk (Handler U) Notebook) : Prop where
  accepts : after.link.Accepts
  ids : after.ids = desk.ids
  calls : ∀ id, id ≠ usersCallback → after.calls.find? id = desk.calls.find? id
  callbacks : after.callbacks = desk.callbacks.insert usersCallback
    { handler := .page (.users serial), lifetime := .durable }
  methods : after.methods = desk.methods.insert refreshMethod (.page .refresh)
  subscribers : after.subscribers = desk.subscribers
  page : after.page = desk.page
  stream : after.stream = desk.stream

theorem openHome_of_submit {serial : Nat} {desk after : Desk (Handler U) Notebook} {id : String}
    (sent : ((desk.subscribe .loadingProgress (.page .progress)).subscribe .statusChange
      (.page (.status serial))).submit { handler := summaryHandler
                                         target := .inline (.page (.summary serial))
                                         silent := true } = (some (.ok id), after)) :
    openHome serial desk = (.ok (), after) := by
  unfold summaryHandler at sent
  rw [openHome, sent]
  rfl

/-- The landing area asks under the next id, if that has not been used. -/
theorem openHome_ok (serial : Nat) {desk : Desk (Handler U) Notebook}
    (accepts : desk.link.Accepts) (within : desk.ids.next + 1 < UInt64.size)
    (free : desk.calls.find? (CallbackIds.name desk.ids.next) = none)
    (unused : desk.callbacks.find? (CallbackIds.name desk.ids.next) = none) :
    ∃ after, openHome serial desk = (.ok (), after) ∧ HomeOpened serial desk after := by
  let following := (desk.subscribe .loadingProgress (.page .progress)).subscribe .statusChange
    (.page (.status serial))
  let s : Submission (Handler U) :=
    { handler := summaryHandler, target := .inline (.page (.summary serial)), silent := true }
  let drawn := { following with ids := { next := desk.ids.next + 1 } }
  have first : following.IsNextId 0 :=
    ⟨fun _ impossible => absurd impossible (Nat.not_lt_zero _),
      (Table.contains_eq_false_iff _ _).mpr unused⟩
  have fresh : following.freshId = (some (CallbackIds.name desk.ids.next), drawn) := by
    rcases Desk.freshId_spec first with ⟨-, made⟩ | ⟨ends, -⟩
    · exact made
    · exact absurd within ends
  obtain ⟨link, services, permit, log, accepts', submitted⟩ :=
    Desk.submitAs_accepts (show drawn.link.Accepts from accepts) s free
      (some (.page (.summary serial)))
  have asked : following.submit s = (drawn.submitAs s (CallbackIds.name desk.ids.next)
      (some (.page (.summary serial)))).map some id := by
    simp only [Desk.submit, s, fresh]
  have opened : openHome serial desk = (.ok (), { drawn.filed s
      (CallbackIds.name desk.ids.next) (some (.page (.summary serial))) with
        link, services, permit, log }) := by
    rw [submitted] at asked
    exact openHome_of_submit asked
  refine ⟨_, opened, accepts', rfl, ?_, rfl, rfl, rfl, rfl, rfl, drawn.callOf s, ?_, rfl⟩
  · intro id other
    show (desk.calls.insert _ _).find? id = _
    rw [Table.find?_insert, if_neg other]
  · exact (Table.find?_insert desk.calls _ _ _).trans (if_pos rfl)

theorem perform_refresh (programs : U → Invocation → Program (Handler U))
    {desk : Desk (Handler U) Notebook}
    (offered : desk.methods.find? refreshMethod = some (.page .refresh)) :
    let entered := desk.record (.invoked (.page .refresh) (.method []))
    desk.perform (behave programs) refreshSteps (.call refreshMethod []) =
      (some (.done (.ok ())), (entered.submitAs usersRequest usersCallback none).2.enlist.record
        (.acted (.page .refresh) (.submit usersRequest)
          (.submitted (entered.submitAs usersRequest usersCallback none).1))) := by
  intro entered
  have called : Machine.step (behave programs)
      { control := .perform (.call refreshMethod []), desk } =
      { control := .run (.page .refresh) PageHandler.refresh.program, stack := [.succeed]
        desk := entered } := by
    unfold Machine.step Machine.perform
    dsimp only
    rw [offered]
    rfl
  unfold Desk.perform refreshSteps
  rw [Machine.run, if_neg (by exact Bool.false_ne_true), called]
  rfl

def offering (serial : Nat) (desk : Desk (Handler U) Notebook) : Desk (Handler U) Notebook :=
  { desk with
    callbacks := desk.callbacks.insert usersCallback
      { handler := .page (.users serial), lifetime := .durable }
    methods := desk.methods.insert refreshMethod (.page .refresh) }

theorem openUsers_eq (programs : U → Invocation → Program (Handler U)) (serial : Nat)
    (desk : Desk (Handler U) Notebook) :
    openUsers programs serial desk =
      match (offering serial desk).perform (behave programs) refreshSteps
        (.call refreshMethod []) with
      | (some (.done result), desk) => (result, desk)
      | (_, desk) => (.ok (), desk) := rfl

/-- User management is opened whether or not it can ask for its list. -/
theorem openUsers_ok (programs : U → Invocation → Program (Handler U)) (serial : Nat)
    {desk : Desk (Handler U) Notebook} (accepts : desk.link.Accepts) :
    ∃ after, openUsers programs serial desk = (.ok (), after) ∧ UsersOpened serial desk after := by
  let entered := (offering serial desk).record (.invoked (.page .refresh) (.method []))
  have offered : (offering serial desk).methods.find? refreshMethod = some (.page .refresh) := by
    rw [offering, Table.find?_insert, if_pos rfl]
  have opened : openUsers programs serial desk =
      (.ok (), (entered.submitAs usersRequest usersCallback none).2.enlist.record
        (.acted (.page .refresh) (.submit usersRequest)
          (.submitted (entered.submitAs usersRequest usersCallback none).1))) := by
    rw [openUsers_eq, perform_refresh programs offered]
  refine ⟨_, opened, ?_⟩
  cases waiting : entered.calls.find? usersCallback with
  | none =>
    obtain ⟨link, services, permit, log, accepts', submitted⟩ :=
      Desk.submitAs_accepts (show entered.link.Accepts from accepts) usersRequest waiting none
    rw [submitted]
    refine ⟨accepts', rfl, ?_, rfl, rfl, rfl, rfl, rfl⟩
    intro id other
    show (desk.calls.insert _ _).find? id = _
    rw [Table.find?_insert, if_neg other]
  | some call =>
    have refused : entered.submitAs usersRequest usersCallback none =
        (.error (.callbackInFlight usersCallback), entered) := by
      rw [Desk.submitAs_eq, if_pos]
      rw [Table.contains_eq_isSome, waiting]
      rfl
    rw [refused]
    exact ⟨accepts, rfl, fun _ _ => rfl, rfl, rfl, rfl, rfl, rfl⟩

end Builtin
end PageSession
