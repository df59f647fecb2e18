import PageSession.Proofs.Exchange.Callbacks
import PageSession.Proofs.Exchange.InlineIds
import PageSession.Proofs.Exchange.Traffic

/-!
Submissions, all or nothing. A submission files its record, and its own handler if it has one,
before the link can still refuse the frame. Whatever it is refused for, both are taken back and
nothing but the generator has moved; a submission that is sent adds one record, one frame and at
most one callback, and leaves everything else as it was.
-/
namespace PageSession.Exchange
open Json Message

namespace Link

/-- A frame that cannot be queued finds no connection, or nobody to take it. -/
theorem emit_failure {link : Link} {kind : String} {payload : Members} {failure : Failure}
    (failed : link.emit kind payload = .error failure) :
    failure = .notConnected ∨ failure = .stopped := by
  unfold emit at failed
  split at failed
  · cases failed
    exact .inl rfl
  · split at failed
    · cases failed
      exact .inl rfl
    · split at failed
      · cases failed
      · cases failed
        exact .inr rfl

/-- A frame that is queued stands last on the line in use. -/
theorem emit_queued {link sent : Link} {kind : String} {payload : Members}
    (success : link.emit kind payload = .ok sent) :
    ∃ index line, link.current = some index ∧ link.line? index = some line ∧
      sent = link.setLine index { line with
        outbox := line.outbox ++ [{ kind, payload := link.tagged payload }] } := by
  obtain ⟨-, index, line, current, there, -, same⟩ := emit_ok success
  rw [change_eq there] at same
  exact ⟨index, line, current, there, same⟩

end Link

namespace Desk
variable {H W : Type}

/-- What a submission leaves that was sent under an id. -/
structure Sent (desk : Desk H W) (s : Submission H) (id : String) (after : Desk H W) : Prop where
  /-- One record is added, under an id under which nothing waited. -/
  free : desk.calls.find? id = none
  calls : after.calls.entries = desk.calls.entries ++
    [(id, { handler := s.handler, args := s.args, silent := s.silent
            deadline := if desk.settings.timeoutMs = 0 then none
              else some (desk.now + desk.settings.timeoutMs) })]
  /-- A named target keeps all callbacks and the generator. -/
  named : ∀ name, s.target = .named name →
    name = id ∧ after.callbacks = desk.callbacks ∧ after.ids = desk.ids
  /-- An own handler is added, to live once, under an id that is free of callbacks. -/
  inline : ∀ h, s.target = .inline h → desk.callbacks.find? id = none ∧
    after.callbacks.entries = desk.callbacks.entries ++ [(id, { handler := h, lifetime := .once })]
  /-- One frame is queued, on the line in use. -/
  queued : ∃ index line, desk.link.current = some index ∧ desk.link.line? index = some line ∧
    after.link = desk.link.setLine index { line with
      outbox := line.outbox ++
        [{ kind := "submit", payload := desk.link.tagged (desk.requestOf s id).payload }] }
  log : after.log = (if s.silent then [] else [.loading (some s.handler)]) ++
    .request .submitted id :: desk.log
  /-- The services are notified. -/
  services : SameServices desk.notifyService after
  /-- Nothing else has changed. -/
  rest : after = { desk with
    ids := after.ids, calls := after.calls, callbacks := after.callbacks, link := after.link
    log := after.log, services := after.services, permit := after.permit }

/-- The id of an own handler is free of callbacks. -/
theorem addressed_free {desk : Desk H W} {s : Submission H} {id : String}
    (made : (desk.addressed s).1 = some id) (own : s.own?.isSome = true) :
    desk.callbacks.find? id = none := by
  cases target : s.target with
  | named name => simp [Submission.own?, target] at own
  | inline h =>
    obtain ⟨k, -, next⟩ := desk.exists_nextId
    simp only [addressed, target] at made
    rcases freshId_spec next with ⟨-, drawn⟩ | ⟨-, j, -, drawn⟩
    · rw [drawn] at made
      cases made
      exact (Table.contains_eq_false_iff _ _).mp next.free
    · rw [drawn] at made
      cases made

/-- To take back what was filed under a free id leaves the desk as it was. -/
theorem withdrawn_filed {desk : Desk H W} {s : Submission H} {id : String} {own : Option H}
    (free : desk.calls.find? id = none)
    (unregistered : own.isSome = true → desk.callbacks.find? id = none) :
    (desk.filed s id own).withdrawn id own = desk := by
  have calls := Table.erase_insert desk.calls id (desk.callOf s) free
  cases own with
  | none =>
    show { desk with calls := (desk.calls.insert id (desk.callOf s)).erase id } = desk
    rw [calls]
  | some h =>
    have callbacks := Table.erase_insert desk.callbacks id { handler := h, lifetime := .once }
      (unregistered rfl)
    show { desk with
      calls := (desk.calls.insert id (desk.callOf s)).erase id
      callbacks := (desk.callbacks.insert id { handler := h, lifetime := .once }).erase id } = desk
    rw [calls, callbacks]

/-- A submission under an id that is refused changes nothing. -/
theorem submitAs_refused {desk after : Desk H W} {s : Submission H} {id : String} {own : Option H}
    {failure : Failure} (unregistered : own.isSome = true → desk.callbacks.find? id = none)
    (refused : desk.submitAs s id own = (.error failure, after)) :
    after = desk ∧
      (failure = .callbackInFlight id ∨ failure = .notConnected ∨ failure = .stopped) := by
  rw [submitAs_eq] at refused
  split at refused
  · cases refused
    exact ⟨rfl, .inl rfl⟩
  · rename_i absent
    split at refused
    · rename_i emitted
      cases refused
      have free := (Table.contains_eq_false_iff _ _).mp (Bool.eq_false_iff.mpr absent)
      exact ⟨withdrawn_filed free unregistered, .inr (Link.emit_failure emitted)⟩
    · cases refused

theorem notifyService_desk (desk : Desk H W) :
    ∃ services permit, desk.notifyService = { desk with services, permit } := by
  unfold notifyService
  split
  · exact ⟨_, desk.permit, rfl⟩
  · exact ⟨desk.services, true, rfl⟩

/-- To announce a submission adds to the log and notifies the services. -/
theorem announced_desk (desk : Desk H W) (s : Submission H) (id : String) :
    ∃ services permit, desk.announced s id = { desk with
      services, permit
      log := (if s.silent then [] else [.loading (some s.handler)]) ++
        .request .submitted id :: desk.log } := by
  unfold announced
  dsimp only
  split
  · exact notifyService_desk (desk.record (.request .submitted id))
  · exact notifyService_desk
      ((desk.record (.request .submitted id)).record (.loading (some s.handler)))

/-- The time until which a request may wait, written out. -/
theorem deadline?_eq (desk : Desk H W) :
    desk.deadline? =
      if desk.settings.timeoutMs = 0 then none
      else some (desk.now + desk.settings.timeoutMs) := by
  unfold deadline? Settings.timeout?
  split <;> rfl

/-- Both entries of a submission that is sent are filed. -/
theorem filed_desk (desk : Desk H W) (s : Submission H) (id : String) (own : Option H) :
    desk.filed s id own = { desk with
      calls := desk.calls.insert id (desk.callOf s)
      callbacks := match own with
        | some h => desk.callbacks.insert id { handler := h, lifetime := .once }
        | none => desk.callbacks } := by
  cases own <;> rfl

/-- What a submission under an id leaves that is sent. -/
theorem submitAs_sent {desk after : Desk H W} {s : Submission H} {id name : String}
    {own : Option H} (accepted : desk.submitAs s name own = (.ok id, after)) :
    name = id ∧ desk.calls.find? id = none ∧ SameServices desk.notifyService after ∧
      ∃ index line services permit, desk.link.current = some index ∧
        desk.link.line? index = some line ∧
        after = { desk with
          services, permit
          calls := desk.calls.insert id (desk.callOf s)
          callbacks := match own with
            | some h => desk.callbacks.insert id { handler := h, lifetime := .once }
            | none => desk.callbacks
          link := desk.link.setLine index { line with outbox := line.outbox ++
            [{ kind := "submit", payload := desk.link.tagged (desk.requestOf s id).payload }] }
          log := (if s.silent then [] else [.loading (some s.handler)]) ++
            .request .submitted id :: desk.log } := by
  rw [submitAs_eq] at accepted
  split at accepted
  · cases accepted
  · rename_i absent
    split at accepted
    · cases accepted
    · rename_i link emitted
      cases accepted
      obtain ⟨index, line, current, there, rfl⟩ := Link.emit_queued emitted
      refine ⟨rfl, (Table.contains_eq_false_iff _ _).mp (Bool.eq_false_iff.mpr absent), ?_, ?_⟩
      · refine SameServices.notifyService ?_
        rw [filed_desk]
        split <;> exact ⟨rfl, rfl⟩
      · rw [filed_desk]
        obtain ⟨services, permit, announced⟩ := announced_desk _ s _
        exact ⟨index, line, services, permit, current, there, announced⟩

/-- A submission that is refused leaves everything but the generator as it was. -/
theorem submit_undone {desk : Desk H W} {s : Submission H} {failure : Failure}
    (refused : (desk.submit s).1 = some (.error failure)) :
    (failure = .emptyCallbackId ∨
        (∃ id, (desk.addressed s).1 = some id ∧ failure = .callbackInFlight id) ∨
        failure = .notConnected ∨ failure = .stopped) ∧
      ∃ ids, (desk.submit s).2 = { desk with ids } ∧
        ∀ name, s.target = .named name → ids = desk.ids := by
  rcases submit_cases desk s with ⟨-, empty⟩ | ⟨ids, -, exhausted⟩ | ⟨id, ids, made, sent⟩
  · rw [empty] at refused ⊢
    cases refused
    exact ⟨.inl rfl, desk.ids, rfl, fun _ _ => rfl⟩
  · rw [exhausted] at refused
    cases refused
  · cases outcome : ({ desk with ids } : Desk H W).submitAs s id s.own? with | mk result after
    rw [sent, outcome] at refused ⊢
    cases refused
    have unregistered : s.own?.isSome = true → desk.callbacks.find? id = none :=
      addressed_free (congrArg Prod.fst made)
    have drawn : s.own?.isSome = true →
      ({ desk with ids } : Desk H W).callbacks.find? id = none := unregistered
    obtain ⟨rfl, failures⟩ := submitAs_refused drawn outcome
    refine ⟨.inr (failures.imp_left fun duplicate => ⟨id, by rw [made], duplicate⟩), ids, rfl,
      fun name target => ?_⟩
    rw [addressed, target] at made
    exact (congrArg (fun addressed => addressed.2.ids) made).symm

/-- A submission that is sent adds one record, one frame and its own handler, if it has one. -/
theorem submit_sent {desk : Desk H W} {s : Submission H} {id : String}
    (accepted : (desk.submit s).1 = some (.ok id)) : Sent desk s id (desk.submit s).2 := by
  rcases submit_cases desk s with ⟨-, empty⟩ | ⟨ids, -, exhausted⟩ | ⟨name, ids, made, sent⟩
  · rw [empty] at accepted
    cases accepted
  · rw [exhausted] at accepted
    cases accepted
  cases outcome : ({ desk with ids } : Desk H W).submitAs s name s.own? with | mk result after
  rw [sent, outcome] at accepted ⊢
  cases accepted
  have unregistered : s.own?.isSome = true → desk.callbacks.find? name = none :=
    addressed_free (congrArg Prod.fst made)
  obtain ⟨rfl, free, services, index, line, _, _, current, there, rfl⟩ := submitAs_sent outcome
  have drawn : SameServices desk { desk with ids } := ⟨rfl, rfl⟩
  refine ⟨free, ?calls, ?named, ?inline, ⟨index, line, current, there, rfl⟩, rfl,
    drawn.notifyService.trans services, rfl⟩
  case calls =>
    show (desk.calls.insert name (desk.callOf s)).entries = _
    rw [Table.entries_insert _ _ _ free, callOf, deadline?_eq]
  case named =>
    intro given target
    rw [addressed, target] at made
    refine ⟨Option.some.inj (congrArg Prod.fst made), ?_, ?_⟩
    · rw [Submission.own?, target]
    · exact (congrArg (fun addressed => addressed.2.ids) made).symm
  case inline =>
    intro h target
    have own : s.own? = some h := by rw [Submission.own?, target]
    rw [own] at unregistered ⊢
    exact ⟨unregistered rfl, Table.entries_insert _ _ _ (unregistered rfl)⟩

/-- Only a submission for which no id is left has no result. -/
theorem submit_unanswered {desk : Desk H W} {s : Submission H}
    (unanswered : (desk.submit s).1 = none) :
    ∃ h others, s.target = .inline h ∧ desk.IsNextId others ∧ ¬desk.ids.Lasts others ∧
      ∃ ids, (desk.submit s).2 = { desk with ids } := by
  rcases submit_cases desk s with ⟨-, empty⟩ | ⟨ids, made, exhausted⟩ | ⟨name, ids, -, sent⟩
  · rw [empty] at unanswered
    cases unanswered
  · cases target : s.target with
    | named name =>
      rw [addressed, target] at made
      cases made
    | inline h =>
      obtain ⟨k, -, next⟩ := desk.exists_nextId
      rw [addressed, target] at made
      refine ⟨h, k, rfl, next, fun lasts => ?_, ids, by rw [exhausted]⟩
      rcases freshId_spec next with ⟨-, drawn⟩ | ⟨ends, -⟩
      · cases (drawn.symm.trans made)
      · exact ends lasts
  · rw [sent] at unanswered
    cases unanswered

/-- A submission is all or nothing, whatever has happened before. If it is refused, at most the
generator has moved, and that only to make an id; if it is sent under an id, one record and one
frame are added, and a callback that lives once if the submission has a handler of its own. It has a
result unless an id has to be made for which the counter does not last. -/
theorem submit_all_or_nothing (desk : Desk H W) (s : Submission H) :
    (∀ failure, (desk.submit s).1 = some (.error failure) →
      (failure = .emptyCallbackId ∨
        (∃ id, (desk.addressed s).1 = some id ∧ failure = .callbackInFlight id) ∨
        failure = .notConnected ∨ failure = .stopped) ∧
      ∃ ids, (desk.submit s).2 = { desk with ids } ∧
        ∀ name, s.target = .named name → ids = desk.ids) ∧
    (∀ id, (desk.submit s).1 = some (.ok id) → desk.Sent s id (desk.submit s).2) ∧
    ((desk.submit s).1 = none →
      ∃ h others, s.target = .inline h ∧ desk.IsNextId others ∧ ¬desk.ids.Lasts others ∧
        ∃ ids, (desk.submit s).2 = { desk with ids }) :=
  ⟨fun _ refused => submit_undone refused, fun _ accepted => submit_sent accepted,
    submit_unanswered⟩

end Desk

/-- A request with a handler of its own. -/
def ownRequest : Submission Unit :=
  { handler := "users.list", target := .inline (), args := some (.text "all") }

/-- A line is open, and this has happened on it. -/
def connectedDesk (traffic : List Traffic) : Desk Unit Unit where
  link := ({ credentials := default } : Link).run
    (traffic ++ [.opened (.ok 0), .dial, .lay false])
  page := ()

theorem submit_all_or_nothing_inline :
    (connectedDesk []).Sent ownRequest "cb-0" ((connectedDesk []).submit ownRequest).2 ∧
      ((connectedDesk [.deafen 0]).submit ownRequest).1 = some (.error .stopped) ∧
      ∃ ids, ((connectedDesk [.deafen 0]).submit ownRequest).2 =
        { connectedDesk [.deafen 0] with ids } := by
  have accepted : ((connectedDesk []).submit ownRequest).1 = some (.ok "cb-0") := by
    decide +kernel
  have refused : ((connectedDesk [.deafen 0]).submit ownRequest).1 = some (.error .stopped) := by
    decide +kernel
  obtain ⟨-, sent, -⟩ := Desk.submit_all_or_nothing (connectedDesk []) ownRequest
  obtain ⟨undone, -, -⟩ := Desk.submit_all_or_nothing (connectedDesk [.deafen 0]) ownRequest
  obtain ⟨-, ids, same, -⟩ := undone .stopped refused
  exact ⟨sent "cb-0" accepted, refused, ids, same⟩

end PageSession.Exchange
