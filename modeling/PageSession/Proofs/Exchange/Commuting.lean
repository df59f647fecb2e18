import PageSession.Proofs.Exchange.Loading
import PageSession.Proofs.Exchange.Nesting
import PageSession.Proofs.Exchange.Steady

/-!
Responses in any order. As long as callbacks perform nothing, a response is an affair of the id that
it echoes: what is answered, who hears what and what is shown depends on the request and on the
callback of this id, and nothing changes under others. So responses that echo different ids may be
handled in any order. The loading indicator is hidden at another frame then, but ends the same.
-/
namespace PageSession.Exchange
open Json Message

def echoedId? (frame : Incoming) : Option String :=
  (Response.read.ofString? frame.content).bind fun response => response.callback.map Echo.id

def Event.notice? {H : Type} : Event H → Option (Severity × String)
  | .notified severity message => some (severity, message)
  | _ => none

/-- What it has come to that a frame was handled. -/
structure Treated (H : Type) where
  frame : Incoming
  answer : Option Answer
  /-- The handlers that ran, with what they were given. -/
  heard : List (H × Invocation) := []
  notices : List (Severity × String) := []

namespace Desk
variable {H W : Type}

/-- Handles a frame with all that its handlers do, in no more than so many steps. -/
def treat (behave : Behaviour H W) (budget : Nat) (desk : Desk H W) (frame : Incoming) :
    Treated H × Desk H W :=
  let (answer, after) := desk.perform behave budget (.handle frame)
  let added := (after.log.take (after.log.length - desk.log.length)).reverse
  ({ frame, answer, heard := added.filterMap Event.invocation?
     notices := added.filterMap Event.notice? }, after)

def treatAll (behave : Behaviour H W) (budget : Nat) :
    List Incoming → Desk H W → List (Treated H) × Desk H W
  | [], desk => ([], desk)
  | frame :: rest, desk =>
    let (treated, after) := desk.treat behave budget frame
    let (later, last) := treatAll behave budget rest after
    (treated :: later, last)

/-- The callbacks that are registered perform nothing when they are given a reply. -/
def IsQuiet (behave : Behaviour H W) (desk : Desk H W) : Prop :=
  ∀ id callback, desk.callbacks.find? id = some callback →
    ∀ reply page, (behave callback.handler (.reply reply) page).2 = .finish

/-! ## What is shown -/

/-- The log has grown by these notices, and no handler has begun to run. -/
def Shows (notices : List (Severity × String)) (desk after : Desk H W) : Prop :=
  ∃ added : List (Event H), after.log = added.reverse ++ desk.log ∧
    added.filterMap Event.notice? = notices ∧ added.filterMap Event.invocation? = []

theorem Shows.of_log {desk after : Desk H W} (same : after.log = desk.log) :
    Shows [] desk after :=
  ⟨[], same, rfl, rfl⟩

theorem Shows.trans {earlier later : List (Severity × String)} {first second third : Desk H W}
    (left : Shows earlier first second) (right : Shows later second third) :
    Shows (earlier ++ later) first third := by
  obtain ⟨before, grown, shown, silent⟩ := left
  obtain ⟨behind, further, seen, quiet⟩ := right
  refine ⟨before ++ behind, ?_, ?_, ?_⟩
  · rw [further, grown, List.reverse_append, List.append_assoc]
  · rw [List.filterMap_append, shown, seen]
  · rw [List.filterMap_append, silent, quiet]
    rfl

theorem shows_notify (desk : Desk H W) (severity : Severity) (message : String) :
    Shows [(severity, message)] desk (desk.notify severity message) :=
  ⟨[.notified severity message], rfl, rfl, rfl⟩

theorem shows_hide (desk : Desk H W) : Shows [] desk (desk.record (.loading none)) :=
  ⟨[.loading none], rfl, rfl, rfl⟩

theorem shows_settleLoading (desk : Desk H W) : Shows [] desk desk.settleLoading := by
  unfold settleLoading
  split
  · exact .of_log rfl
  · exact shows_hide desk

theorem shows_close (desk : Desk H W) (fate : Fate) (id : String) :
    Shows [] desk ({ desk with calls := desk.calls.erase id }.record (.request fate id)) :=
  ⟨[.request fate id], rfl, rfl, rfl⟩

theorem shows_abandon (desk : Desk H W) (id : String) : Shows [] desk (desk.abandon id) := by
  unfold abandon
  split
  · have noted := shows_close desk .abandoned id
    dsimp only
    split
    · exact noted.trans (.of_log rfl)
    · exact noted
  · exact .of_log rfl

def outcomeNotices (severity : Severity) (silent : Bool) (message : String) :
    List (Severity × String) :=
  if !message.isEmpty && (severity.isAlarming || !silent) then [(severity, message)] else []

theorem shows_notifyOutcome (desk : Desk H W) (severity : Severity) (silent : Bool)
    (message : String) :
    Shows (outcomeNotices severity silent message) desk
      (desk.notifyOutcome severity silent message) := by
  unfold notifyOutcome outcomeNotices
  split
  · exact shows_notify desk severity message
  · exact .of_log rfl

/-! ## What a frame leads to -/

/-- The requests that go on waiting when these ids have been echoed. -/
def unanswered (desk : Desk H W) (ids : List String) : Table Call :=
  desk.calls.filter fun entry => !ids.contains entry.1

/-- The callbacks that stay when these ids have been echoed: those that live once go with their
request. -/
def lasting (desk : Desk H W) (ids : List String) : Table (Callback H) :=
  desk.callbacks.filter fun entry =>
    !(ids.contains entry.1 && desk.calls.contains entry.1 && entry.2.lifetime = .once)

/-- A frame after which the indicator is hidden if no visible request waits any more. -/
def settles (desk : Desk H W) (frame : Incoming) : Bool :=
  (Response.read.ofString? frame.content).any fun response =>
    response.error.isSome || response.callback.any fun echo => desk.calls.contains echo.id

/-- What responses lead to, whatever their order. -/
structure Leads (desk : Desk H W) (frames : List Incoming) (after : Desk H W) : Prop where
  settings : after.settings = desk.settings
  calls : after.calls = desk.unanswered (frames.filterMap echoedId?)
  callbacks : after.callbacks = desk.lasting (frames.filterMap echoedId?)
  loading : after.isLoading = true ↔ desk.isLoading = true ∧
    (∀ frame ∈ frames, isUnreadable frame = false) ∧
    ((∃ frame ∈ frames, desk.settles frame = true) → after.HasVisible)

/-- What comes of a response, foreseen from the request and the callback of the id it echoes. -/
def foreseen (settings : Settings) (frame : Incoming) (call : Option Call)
    (callback : Option (Callback H)) : Treated H :=
  match Response.read.ofString? frame.content with
  | none =>
    { frame, answer := some (.done (.ok ()))
      notices := [(.error, "unreadable response: " ++ unreadableReason)] }
  | some response =>
    let severity := response.level.getD (settings.success.classify frame.code)
    match response.error, response.callback, call with
    | some message, _, _ =>
      { frame, answer := some (.done (.ok ())), notices := [(.error, message)] }
    | none, none, _ =>
      { frame, answer := some (.done (.ok ()))
        notices := outcomeNotices severity false response.message }
    | none, some echo, none =>
      { frame, answer := some (.done (.error (.callbackNotFound echo.id))) }
    | none, some echo, some call =>
      { frame
        answer := some (.done (if callback.isSome then .ok ()
          else .error (.callbackNotFound echo.id)))
        heard := (callback.map fun callback => (callback.handler, Invocation.reply
          { code := frame.code, severity, message := response.message, data := response.data
            args := call.args })).toList
        notices := outcomeNotices severity (echo.silent || call.silent) response.message }

/-- Every frame is answered. -/
theorem foreseen_answer (settings : Settings) (frame : Incoming) (call : Option Call)
    (callback : Option (Callback H)) :
    ∃ result, (foreseen settings frame call callback).answer = some (.done result) := by
  unfold foreseen
  split
  · exact ⟨_, rfl⟩
  · dsimp only
    split <;> exact ⟨_, rfl⟩

theorem treat_eq {behave : Behaviour H W} {budget : Nat} {desk after : Desk H W}
    {frame : Incoming} {answer : Option Answer} {added : List (Event H)}
    (performed : desk.perform behave budget (.handle frame) = (answer, after))
    (grown : after.log = added.reverse ++ desk.log) :
    desk.treat behave budget frame =
      ({ frame, answer, heard := added.filterMap Event.invocation?
         notices := added.filterMap Event.notice? }, after) := by
  simp [treat, performed, grown]

/-! ## Running a handler that performs nothing -/

def spared (desk : Desk H W) (id : String) : Table (Callback H) :=
  desk.callbacks.filter fun entry => !(entry.1 = id && entry.2.lifetime = .once)

theorem spared_of_missing {desk : Desk H W} {id : String}
    (missing : desk.callbacks.find? id = none) : desk.spared id = desk.callbacks := by
  refine Table.filter_eq_self fun key callback found => ?_
  have different : key ≠ id := by
    rintro rfl
    cases missing.symm.trans found
  simp [different]

theorem spared_find? {desk : Desk H W} {id other : String} (different : other ≠ id) :
    (desk.spared id).find? other = desk.callbacks.find? other := by
  rw [spared, Table.find?_filter]
  cases desk.callbacks.find? other <;> simp [different]

/-- Only a callback that lives once goes. -/
theorem spared_eq (desk : Desk H W) (id : String) :
    desk.spared id =
      if desk.lifetime? id = some .once then desk.callbacks.erase id else desk.callbacks := by
  cases found : desk.callbacks.find? id with
  | none => simp [lifetime?, found, spared_of_missing]
  | some callback =>
    have itself : ∀ key other, desk.callbacks.find? key = some other → key = id →
        other = callback := by
      rintro key other there rfl
      exact Option.some.inj (there.symm.trans found)
    have lives : desk.lifetime? id = some callback.lifetime := by
      rw [lifetime?, found]
      rfl
    rw [lives]
    split
    · rename_i once
      refine Table.filter_congr fun key other there => ?_
      by_cases here : key = id
      · simp [here, itself key other there here, Option.some.inj once]
      · simp [here]
    · rename_i durable
      refine Table.filter_eq_self fun key other there => ?_
      by_cases here : key = id
      · have stays : callback.lifetime ≠ .once := fun once => durable (congrArg some once)
        simp [itself key other there here, stays]
      · simp [here]

theorem takeCallback?_eq (desk : Desk H W) (id : String) :
    desk.takeCallback? id = (desk.callbacks.find? id).map fun callback =>
      (callback.handler, { desk with callbacks := desk.spared id }) := by
  unfold takeCallback?
  cases found : desk.callbacks.find? id with
  | none => rfl
  | some callback =>
    cases lives : callback.lifetime <;> simp [spared_eq, lifetime?, found, lives]

section
variable {behave : Behaviour H W} {budget : Nat} {desk after : Desk H W} {frame : Incoming}

theorem treat_settled {result : Except Failure Unit} {notices : List (Severity × String)}
    (enough : 3 ≤ budget) (received : desk.receive frame = (.settled result, after))
    (shows : Shows notices desk after) :
    desk.treat behave budget frame =
      ({ frame, answer := some (.done result), notices }, after) := by
  obtain ⟨further, rfl⟩ := Nat.exists_eq_add_of_le' enough
  have ran : Machine.run behave (further + 3) { control := .perform (.handle frame), desk } =
      Machine.give (.done result) after [] := by
    have step : Machine.step behave { control := .perform (.handle frame), desk } =
        Machine.give (.done result) after [] := by
      simp only [Machine.step, Machine.perform, Machine.handle, received]
    rw [Machine.run, step]
    exact Machine.run_of_result rfl _
  obtain ⟨added, grown, shown, silent⟩ := shows
  have performed : desk.perform behave (further + 3) (.handle frame) =
      (some (.done result), after) := by
    rw [perform, ran]
    rfl
  rw [treat_eq performed grown, shown, silent]

/-- Whoever is told of a response is told after all that is shown of it, and then nothing more
happens. -/
theorem treat_delivered {id : String} {reply : Reply} {notices : List (Severity × String)}
    (enough : 3 ≤ budget) (received : desk.receive frame = (.deliver id reply, after))
    (shows : Shows notices desk after) (quiet : after.IsQuiet behave) :
    ∃ last, desk.treat behave budget frame =
        ({ frame
           answer := some (.done (if (after.callbacks.find? id).isSome then .ok ()
             else .error (.callbackNotFound id)))
           heard := ((after.callbacks.find? id).map fun callback =>
             (callback.handler, Invocation.reply reply)).toList
           notices }, last) ∧
      last.settings = after.settings ∧ last.calls = after.calls ∧
      last.callbacks = after.spared id ∧ last.isLoading = after.isLoading := by
  obtain ⟨further, rfl⟩ := Nat.exists_eq_add_of_le' enough
  obtain ⟨added, grown, shown, silent⟩ := shows
  have step : Machine.step behave { control := .perform (.handle frame), desk } =
      Machine.deliver behave id reply after [] := by
    simp only [Machine.step, Machine.perform, Machine.handle, received]
  cases found : after.callbacks.find? id with
  | none =>
    have performed : desk.perform behave (further + 3) (.handle frame) =
        (some (.done (.error (.callbackNotFound id))), after) := by
      rw [perform, Machine.run, step]
      simp only [Machine.deliver, takeCallback?, found, Option.map_none]
      rw [Machine.run_of_result rfl]
      rfl
    refine ⟨after, ?_, rfl, rfl, (spared_of_missing found).symm, rfl⟩
    rw [treat_eq performed grown, shown, silent]
    rfl
  | some callback =>
    have rests := quiet id callback found reply after.page
    cases result : behave callback.handler (.reply reply) after.page with
    | mk page program =>
      rw [result] at rests
      dsimp only at rests
      subst rests
      let last : Desk H W := record { after with callbacks := after.spared id, page }
        (.invoked callback.handler (.reply reply))
      have performed : desk.perform behave (further + 3) (.handle frame) =
          (some (.done (.ok ())), last) := by
        rw [perform, Machine.run, step]
        simp only [Machine.deliver, takeCallback?_eq, found, Option.map_some, Machine.enter, result]
        rw [Machine.run, Machine.run, Machine.run_of_result rfl]
        rfl
      have told : last.log =
          (added ++ [Event.invoked callback.handler (.reply reply)]).reverse ++ desk.log := by
        rw [List.reverse_append, List.append_assoc, ← grown]
        rfl
      refine ⟨last, ?_, rfl, rfl, rfl, rfl⟩
      rw [treat_eq performed told]
      simp [List.filterMap_append, shown, silent, Event.notice?, Event.invocation?]

end

/-! ## One frame -/

theorem IsQuiet.mono {behave : Behaviour H W} {desk after : Desk H W} (quiet : desk.IsQuiet behave)
    (fewer : ∀ id callback, after.callbacks.find? id = some callback →
      desk.callbacks.find? id = some callback) : after.IsQuiet behave :=
  fun id callback found => quiet id callback (fewer id callback found)

theorem isLoading_settleLoading (desk : Desk H W) :
    desk.settleLoading.isLoading = true ↔ desk.isLoading = true ∧ desk.HasVisible := by
  unfold settleLoading
  by_cases visible : desk.HasVisible
  · rw [if_pos (desk.hasVisible_iff.mpr visible)]
    simp [visible]
  · rw [if_neg (mt desk.hasVisible_iff.mp visible)]
    simp only [visible, and_false, iff_false]
    exact Bool.false_ne_true

theorem HasVisible.of_calls {desk after : Desk H W} (same : after.calls = desk.calls) :
    after.HasVisible ↔ desk.HasVisible := by
  rw [HasVisible, same, HasVisible]

theorem unanswered_nil (desk : Desk H W) : desk.unanswered [] = desk.calls :=
  Table.filter_eq_self fun _ _ _ => rfl

theorem lasting_nil (desk : Desk H W) : desk.lasting [] = desk.callbacks :=
  Table.filter_eq_self fun _ _ _ => rfl

theorem erase_calls (desk : Desk H W) (id : String) :
    desk.calls.erase id = desk.unanswered [id] := by
  refine Table.filter_congr fun key call _ => ?_
  by_cases same : key = id <;> simp [same]

/-- An id under which nothing waits changes nothing. -/
theorem unanswered_of_missing {desk : Desk H W} {id : String}
    (missing : desk.calls.find? id = none) : desk.unanswered [id] = desk.calls := by
  refine Table.filter_eq_self fun key call found => ?_
  have different : key ≠ id := by
    rintro rfl
    cases missing.symm.trans found
  simp [different]

theorem lasting_of_missing {desk : Desk H W} {id : String}
    (missing : desk.calls.find? id = none) : desk.lasting [id] = desk.callbacks := by
  refine Table.filter_eq_self fun key callback found => ?_
  have absent := (Table.contains_eq_false_iff _ _).mpr missing
  by_cases same : key = id
  · simp [same, absent]
  · simp [same]

theorem lasting_of_waiting {desk : Desk H W} {id : String}
    (waiting : desk.calls.contains id = true) : desk.lasting [id] = desk.spared id := by
  refine Table.filter_congr fun key callback found => ?_
  by_cases same : key = id
  · simp [same, waiting]
  · simp [same]

theorem abandon_calls (desk : Desk H W) (id : String) :
    (desk.abandon id).calls = desk.unanswered [id] := by
  unfold abandon
  split
  · dsimp only
    split <;> exact desk.erase_calls id
  · rename_i absent
    exact (unanswered_of_missing
      ((Table.contains_eq_false_iff _ _).mp (Bool.eq_false_iff.mpr absent))).symm

theorem abandon_callbacks (desk : Desk H W) (id : String) :
    (desk.abandon id).callbacks = desk.lasting [id] := by
  unfold abandon
  split
  · rename_i waiting
    rw [lasting_of_waiting waiting]
    rw [spared_eq]
    dsimp only
    split
    · rename_i once
      exact (if_pos once).symm
    · rename_i durable
      exact (if_neg durable).symm
  · rename_i absent
    exact (lasting_of_missing
      ((Table.contains_eq_false_iff _ _).mp (Bool.eq_false_iff.mpr absent))).symm

section
variable {behave : Behaviour H W} {budget : Nat} {desk : Desk H W} {frame : Incoming}

theorem settings_of_received {after : Desk H W} {receipt : Receipt}
    (received : desk.receive frame = (receipt, after)) : after.settings = desk.settings := by
  have outside := sameOutside_receive desk frame
  rw [received] at outside
  exact outside.settings

theorem leads_one {after : Desk H W} {ids : List String} (echoed : (echoedId? frame).toList = ids)
    (settings : after.settings = desk.settings) (calls : after.calls = desk.unanswered ids)
    (callbacks : after.callbacks = desk.lasting ids)
    (loading : after.isLoading = true ↔ desk.isLoading = true ∧ isUnreadable frame = false ∧
      (desk.settles frame = true → after.HasVisible)) : desk.Leads [frame] after := by
  have alone : [frame].filterMap echoedId? = ids := by
    rw [← echoed]
    cases found : echoedId? frame <;> simp [found]
  exact ⟨settings, by rw [alone, calls], by rw [alone, callbacks], by simpa using loading⟩

/-- What comes of a frame, and what it leads to, are as foreseen. -/
structure Meets (behave : Behaviour H W) (budget : Nat) (desk : Desk H W) (frame : Incoming) :
    Prop where
  foreseen : (desk.treat behave budget frame).1 =
    foreseen desk.settings frame ((echoedId? frame).bind desk.calls.find?)
      ((echoedId? frame).bind desk.callbacks.find?)
  leads : desk.Leads [frame] (desk.treat behave budget frame).2

/-- What cannot be read hides the indicator, and is said to be unreadable. -/
theorem receive_unreadable (desk : Desk H W) (kind : frame.kind = .response)
    (unread : Response.read.ofString? frame.content = none) :
    desk.receive frame = (.settled (.ok ()), (desk.record (.loading none)).notify .error
        ("unreadable response: " ++ unreadableReason)) ∧
      Shows [(.error, "unreadable response: " ++ unreadableReason)] desk
        ((desk.record (.loading none)).notify .error
          ("unreadable response: " ++ unreadableReason)) :=
  ⟨by simp only [receive, kind, receiveResponse, unread],
    (shows_hide desk).trans (shows_notify (desk.record (.loading none)) .error _)⟩

theorem meets_unreadable (enough : 3 ≤ budget) (kind : frame.kind = .response)
    (unread : Response.read.ofString? frame.content = none) : Meets behave budget desk frame := by
  obtain ⟨received, shows⟩ := desk.receive_unreadable kind unread
  have treated : desk.treat behave budget frame = _ := treat_settled enough received shows
  have hidden : isUnreadable frame = true := by simp [isUnreadable, kind, unread]
  constructor
  · rw [treated]
    simp [Desk.foreseen, unread]
  · rw [treated]
    refine leads_one (by simp [echoedId?, unread]) rfl (unanswered_nil desk).symm
      (lasting_nil desk).symm ?_
    simp only [hidden, Bool.true_eq_false, false_and, and_false, iff_false]
    exact Bool.false_ne_true

section
variable {response : Response} (read : Response.read.ofString? frame.content = some response)
include read

theorem echoedId?_of_read : echoedId? frame = response.callback.map Echo.id := by
  rw [echoedId?, read, Option.bind_some]

theorem isUnreadable_of_read : isUnreadable frame = false := by simp [isUnreadable, read]

/-- An error forgets the request that it echoes, if it echoes one, and then settles. -/
theorem receive_error (desk : Desk H W) (kind : frame.kind = .response) {message : String}
    (error : response.error = some message) :
    ∃ base : Desk H W, desk.receive frame =
        (.settled (.ok ()), base.settleLoading.notify .error message) ∧
      Shows [(.error, message)] desk (base.settleLoading.notify .error message) ∧
      base.calls = desk.unanswered (echoedId? frame).toList ∧
      base.callbacks = desk.lasting (echoedId? frame).toList ∧
      base.isLoading = desk.isLoading := by
  rw [echoedId?_of_read read]
  cases callback : response.callback with
  | none =>
    refine ⟨desk, ?_, (shows_settleLoading desk).trans (shows_notify ..),
      (unanswered_nil desk).symm, (lasting_nil desk).symm, rfl⟩
    simp only [receive, kind, receiveResponse, read, error, callback]
  | some echo =>
    have shown := (shows_abandon desk echo.id).trans (shows_settleLoading (desk.abandon echo.id))
    refine ⟨desk.abandon echo.id, ?_, shown.trans (shows_notify ..), abandon_calls desk _,
      abandon_callbacks desk _, isLoading_abandon desk _⟩
    simp only [receive, kind, receiveResponse, read, error, callback]

theorem meets_error (enough : 3 ≤ budget) (kind : frame.kind = .response) {message : String}
    (error : response.error = some message) : Meets behave budget desk frame := by
  obtain ⟨base, received, shows, calls, callbacks, loading⟩ :=
    receive_error read desk kind error
  have treated : desk.treat behave budget frame = _ := treat_settled enough received shows
  have settles : desk.settles frame = true := by simp [Desk.settles, read, error]
  constructor
  · rw [treated]
    simp [Desk.foreseen, read, error]
  · rw [treated]
    refine leads_one rfl (settings_of_received received) ((settleLoading_calls base).trans calls)
      ((settleLoading_callbacks base).trans callbacks) ?_
    have seen : (base.settleLoading.notify .error message).HasVisible ↔ base.HasVisible :=
      HasVisible.of_calls (settleLoading_calls base)
    have kept : (base.settleLoading.notify .error message).isLoading =
        base.settleLoading.isLoading := rfl
    rw [kept, isLoading_settleLoading, seen, loading]
    simp [settles, isUnreadable_of_read read]

/-- A response that echoes nothing is only shown. -/
theorem receive_remark (desk : Desk H W) (kind : frame.kind = .response)
    (error : response.error = none) (callback : response.callback = none) :
    desk.receive frame = (.settled (.ok ()), desk.notifyOutcome
      (response.level.getD (desk.settings.success.classify frame.code)) false
      response.message) := by
  simp only [receive, kind, receiveResponse, read, error, callback]

theorem meets_remark (enough : 3 ≤ budget) (kind : frame.kind = .response)
    (error : response.error = none) (callback : response.callback = none) :
    Meets behave budget desk frame := by
  let severity := response.level.getD (desk.settings.success.classify frame.code)
  have received : desk.receive frame =
      (.settled (.ok ()), desk.notifyOutcome severity false response.message) :=
    receive_remark read desk kind error callback
  have treated : desk.treat behave budget frame = _ :=
    treat_settled enough received (shows_notifyOutcome ..)
  constructor
  · rw [treated]
    simp [Desk.foreseen, read, error, callback, severity]
  · rw [treated]
    have echoes : (echoedId? frame).toList = [] := by simp [echoedId?_of_read read, callback]
    refine leads_one echoes (settings_of_received received) ?_ ?_ ?_
    · rw [unanswered_nil, notifyOutcome_calls]
    · rw [lasting_nil, notifyOutcome_callbacks]
    · have still : desk.settles frame = false := by simp [Desk.settles, read, error, callback]
      simp [still, isUnreadable_of_read read, isLoading_notifyOutcome]

/-- A response to nothing that waits is refused, and nothing changes. -/
theorem receive_unmatched (desk : Desk H W) (kind : frame.kind = .response)
    (error : response.error = none) {echo : Echo} (callback : response.callback = some echo)
    (missing : desk.calls.find? echo.id = none) :
    desk.receive frame = (.settled (.error (.callbackNotFound echo.id)), desk) := by
  simp only [receive, kind, receiveResponse, read, error, callback, missing]

theorem meets_unmatched (enough : 3 ≤ budget) (kind : frame.kind = .response)
    (error : response.error = none) {echo : Echo} (callback : response.callback = some echo)
    (missing : desk.calls.find? echo.id = none) : Meets behave budget desk frame := by
  have received := receive_unmatched read desk kind error callback missing
  have treated : desk.treat behave budget frame = _ :=
    treat_settled enough received (.of_log rfl)
  have echoed : echoedId? frame = some echo.id := by
    rw [echoedId?_of_read read, callback, Option.map_some]
  constructor
  · rw [treated, echoed]
    simp [Desk.foreseen, read, error, callback, missing]
  · rw [treated]
    have echoes : (echoedId? frame).toList = [echo.id] := by rw [echoed]; rfl
    refine leads_one echoes rfl (unanswered_of_missing missing).symm
      (lasting_of_missing missing).symm ?_
    have absent := (Table.contains_eq_false_iff _ _).mpr missing
    have still : desk.settles frame = false := by
      simp [Desk.settles, read, error, callback, absent]
    simp [still, isUnreadable_of_read read]

/-- A response to a request ends the waiting, is shown, and is handed to the callback of its id. -/
theorem receive_matched (desk : Desk H W) (kind : frame.kind = .response)
    (error : response.error = none) {echo : Echo} (callback : response.callback = some echo)
    {call : Call} (waiting : desk.calls.find? echo.id = some call) :
    let severity := response.level.getD (desk.settings.success.classify frame.code)
    let silent := echo.silent || call.silent
    let closed : Desk H W :=
      { desk with calls := desk.calls.erase echo.id }.record (.request .resolved echo.id)
    let after := closed.settleLoading.notifyOutcome severity silent response.message
    desk.receive frame = (.deliver echo.id
        { code := frame.code, severity, message := response.message, data := response.data
          args := call.args }, after) ∧
      Shows (outcomeNotices severity silent response.message) desk after ∧
      after.calls = desk.calls.erase echo.id ∧ after.callbacks = desk.callbacks := by
  intro severity silent closed after
  refine ⟨?_, ?_, ?_, ?_⟩
  · simp only [receive, kind, receiveResponse, read, error, callback, waiting, severity, silent,
      closed, after]
  · exact ((shows_close desk .resolved echo.id).trans (shows_settleLoading closed)).trans
      (shows_notifyOutcome ..)
  · exact (notifyOutcome_calls ..).trans (settleLoading_calls closed)
  · exact (notifyOutcome_callbacks ..).trans (settleLoading_callbacks closed)

theorem meets_matched (enough : 3 ≤ budget) (quiet : desk.IsQuiet behave)
    (kind : frame.kind = .response) (error : response.error = none) {echo : Echo}
    (callback : response.callback = some echo) {call : Call}
    (waiting : desk.calls.find? echo.id = some call) : Meets behave budget desk frame := by
  let severity := response.level.getD (desk.settings.success.classify frame.code)
  let closed : Desk H W :=
    { desk with calls := desk.calls.erase echo.id }.record (.request .resolved echo.id)
  let after := closed.settleLoading.notifyOutcome severity (echo.silent || call.silent)
    response.message
  obtain ⟨received, shows, calls, callbacks⟩ : desk.receive frame = (.deliver echo.id
        { code := frame.code, severity, message := response.message, data := response.data
          args := call.args }, after) ∧
      Shows (outcomeNotices severity (echo.silent || call.silent) response.message) desk after ∧
      after.calls = desk.calls.erase echo.id ∧ after.callbacks = desk.callbacks :=
    receive_matched read desk kind error callback waiting
  have still : after.IsQuiet behave := quiet.mono fun _ _ found => callbacks ▸ found
  obtain ⟨last, treated, settings, kept, spared, loading⟩ :=
    treat_delivered enough received shows still
  have echoed : echoedId? frame = some echo.id := by
    rw [echoedId?_of_read read, callback, Option.map_some]
  have present : desk.calls.contains echo.id = true := by
    rw [Table.contains_eq_isSome, waiting]
    rfl
  constructor
  · rw [treated, echoed, callbacks]
    simp [Desk.foreseen, read, error, callback, waiting, severity]
  · rw [treated]
    have echoes : (echoedId? frame).toList = [echo.id] := by rw [echoed]; rfl
    refine leads_one echoes (settings.trans (settings_of_received received)) ?_ ?_ ?_
    · rw [kept, calls, erase_calls]
    · rw [spared, lasting_of_waiting present, Desk.spared, callbacks, Desk.spared]
    · have settles : desk.settles frame = true := by
        simp [Desk.settles, read, error, callback, present]
      have loaded : last.isLoading = closed.settleLoading.isLoading :=
        loading.trans (isLoading_notifyOutcome ..)
      have unheard : closed.isLoading = desk.isLoading := rfl
      rw [loaded, isLoading_settleLoading, unheard, ← HasVisible.of_calls (kept.trans calls)]
      simp [settles, isUnreadable_of_read read]

end

/-- What comes of a response, and what it leads to, are as foreseen. -/
theorem meets (enough : 3 ≤ budget) (quiet : desk.IsQuiet behave)
    (kind : frame.kind = .response) : Meets behave budget desk frame := by
  cases read : Response.read.ofString? frame.content with
  | none => exact meets_unreadable enough kind read
  | some response =>
    cases error : response.error with
    | some message => exact meets_error read enough kind error
    | none =>
      cases callback : response.callback with
      | none => exact meets_remark read enough kind error callback
      | some echo =>
        cases waiting : desk.calls.find? echo.id with
        | none => exact meets_unmatched read enough kind error callback waiting
        | some call => exact meets_matched read enough quiet kind error callback waiting

end

/-! ## Many frames -/

section
variable {desk middle after : Desk H W} {earlier later : List Incoming}

theorem Leads.calls_find? {frames : List Incoming} (leads : desk.Leads frames after) (id : String) :
    after.calls.find? id =
      if id ∈ frames.filterMap echoedId? then none else desk.calls.find? id := by
  rw [leads.calls, unanswered, Table.find?_filter]
  cases desk.calls.find? id <;> by_cases echoed : id ∈ frames.filterMap echoedId? <;> simp [echoed]

theorem Leads.callbacks_find? {frames : List Incoming} (leads : desk.Leads frames after)
    {id : String} (other : id ∉ frames.filterMap echoedId?) :
    after.callbacks.find? id = desk.callbacks.find? id := by
  rw [leads.callbacks, lasting, Table.find?_filter]
  cases desk.callbacks.find? id <;> simp [other]

/-- Callbacks come from those that were registered before. -/
theorem Leads.quiet {behave : Behaviour H W} {frames : List Incoming}
    (leads : desk.Leads frames after) (quiet : desk.IsQuiet behave) : after.IsQuiet behave := by
  refine quiet.mono fun id callback found => ?_
  rw [leads.callbacks, lasting, Table.find?_filter, Option.filter_eq_some_iff] at found
  exact found.1

/-- What settles depends on the request of the echoed id only. -/
theorem settles_congr {frame : Incoming}
    (same : ∀ id, echoedId? frame = some id → middle.calls.find? id = desk.calls.find? id) :
    middle.settles frame = desk.settles frame := by
  unfold settles
  cases read : Response.read.ofString? frame.content with
  | none => rfl
  | some response =>
    cases callback : response.callback with
    | none => simp [callback]
    | some echo =>
      have alike := same echo.id (by rw [echoedId?_of_read read, callback, Option.map_some])
      simp [callback, Table.contains_eq_isSome, alike]

/-- Frames after which nothing is settled have taken no request. -/
theorem unanswered_of_unsettled {frames : List Incoming}
    (still : ∀ frame ∈ frames, desk.settles frame = false) :
    desk.unanswered (frames.filterMap echoedId?) = desk.calls := by
  refine Table.filter_eq_self fun id call found => ?_
  suffices unechoed : id ∉ frames.filterMap echoedId? by simp [unechoed]
  intro echoed
  obtain ⟨frame, listed, same⟩ := List.mem_filterMap.mp echoed
  have unsettled := still frame listed
  obtain ⟨response, read, callback⟩ := Option.bind_eq_some_iff.mp same
  obtain ⟨echo, answering, rfl⟩ := Option.map_eq_some_iff.mp callback
  simp [settles, read, answering, Table.contains_eq_isSome, found] at unsettled

/-- Frames that echo different ids lead from one to the other as if all came at once. -/
theorem Leads.append (left : desk.Leads earlier middle) (right : middle.Leads later after)
    (apart : List.Disjoint (earlier.filterMap echoedId?) (later.filterMap echoedId?)) :
    desk.Leads (earlier ++ later) after := by
  have kept : ∀ id ∈ later.filterMap echoedId?,
      middle.calls.find? id = desk.calls.find? id := by
    intro id echoed
    rw [left.calls_find?, if_neg]
    exact fun twice => apart twice echoed
  refine ⟨right.settings.trans left.settings, ?_, ?_, ?_⟩
  · rw [right.calls, unanswered, left.calls, unanswered, Table.filter_filter, List.filterMap_append]
    exact Table.filter_congr fun id call _ => by simp
  · rw [right.callbacks, lasting, left.callbacks, lasting, Table.filter_filter,
      List.filterMap_append]
    refine Table.filter_congr fun id callback _ => ?_
    by_cases echoed : id ∈ later.filterMap echoedId?
    · have fresh : id ∉ earlier.filterMap echoedId? := fun twice => apart twice echoed
      have same : middle.calls.contains id = desk.calls.contains id := by
        rw [Table.contains_eq_isSome, kept id echoed, Table.contains_eq_isSome]
      simp [fresh, same]
    · simp [echoed]
  · have settles : (∃ frame ∈ later, middle.settles frame = true) ↔
        ∃ frame ∈ later, desk.settles frame = true := by
      refine exists_congr fun frame => and_congr_right fun listed => ?_
      rw [settles_congr fun id echoed => kept id (List.mem_filterMap.mpr ⟨frame, listed, echoed⟩)]
    have fewer : after.HasVisible → middle.HasVisible := fun visible =>
      visible.mono fun id call found => by
        rw [right.calls_find?] at found
        split at found
        · cases found
        · exact found
    -- when none of the later frames settles, all visible requests go on waiting behind them
    have still : ¬(∃ frame ∈ later, middle.settles frame = true) → middle.HasVisible →
        after.HasVisible := by
      intro unsettled visible
      have same : after.calls = middle.calls := by
        rw [right.calls]
        refine unanswered_of_unsettled fun frame listed => ?_
        exact Bool.eq_false_iff.mpr fun settled => unsettled ⟨frame, listed, settled⟩
      exact (HasVisible.of_calls same).mpr visible
    have carried : (((∃ frame ∈ earlier, desk.settles frame = true) → middle.HasVisible) ∧
        ((∃ frame ∈ later, middle.settles frame = true) → after.HasVisible)) ↔
        ((∃ frame ∈ earlier, desk.settles frame = true) → after.HasVisible) ∧
        ((∃ frame ∈ later, middle.settles frame = true) → after.HasVisible) := by
      constructor
      · rintro ⟨shown, further⟩
        refine ⟨fun settled => ?_, further⟩
        by_cases onward : ∃ frame ∈ later, middle.settles frame = true
        · exact further onward
        · exact still onward (shown settled)
      · rintro ⟨shown, further⟩
        exact ⟨fun settled => fewer (shown settled), further⟩
    rw [right.loading, left.loading]
    simp only [List.mem_append, or_imp, forall_and, or_and_right, exists_or, ← settles]
    rw [← carried]
    simp only [and_assoc, and_left_comm]

theorem Leads.refl (desk : Desk H W) : desk.Leads [] desk where
  settings := rfl
  calls := (unanswered_nil desk).symm
  callbacks := (lasting_nil desk).symm
  loading := by simp

/-- What frames lead to does not depend on their order. -/
theorem Leads.perm {frames others : List Incoming} {last : Desk H W}
    (leads : desk.Leads frames after) (perm : frames.Perm others)
    (onward : desk.Leads others last) :
    last.calls = after.calls ∧ last.callbacks = after.callbacks ∧
      last.isLoading = after.isLoading := by
  have echoed (id : String) : (others.filterMap echoedId?).contains id =
      (frames.filterMap echoedId?).contains id := by
    rw [Bool.eq_iff_iff, List.contains_iff_mem, List.contains_iff_mem]
    exact (perm.filterMap echoedId?).mem_iff.symm
  have calls : last.calls = after.calls := by
    rw [onward.calls, leads.calls]
    exact Table.filter_congr fun id call _ => by rw [echoed]
  have callbacks : last.callbacks = after.callbacks := by
    rw [onward.callbacks, leads.callbacks]
    exact Table.filter_congr fun id callback _ => by rw [echoed]
  refine ⟨calls, callbacks, ?_⟩
  rw [Bool.eq_iff_iff, onward.loading, leads.loading, HasVisible.of_calls calls]
  simp only [perm.mem_iff]

end

section
variable {behave : Behaviour H W} {budget : Nat} {desk : Desk H W} {frames others : List Incoming}

/-- Every frame is treated as if it came first, and all lead to what they lead to together. -/
theorem treatAll_spec (enough : 3 ≤ budget) (quiet : desk.IsQuiet behave)
    (responses : ∀ frame ∈ frames, frame.kind = .response)
    (distinct : (frames.filterMap echoedId?).Nodup) :
    (treatAll behave budget frames desk).1 = frames.map (fun frame =>
        foreseen desk.settings frame ((echoedId? frame).bind desk.calls.find?)
          ((echoedId? frame).bind desk.callbacks.find?)) ∧
      desk.Leads frames (treatAll behave budget frames desk).2 := by
  induction frames generalizing desk with
  | nil => exact ⟨rfl, .refl desk⟩
  | cons frame rest ih =>
    have first := meets enough quiet (responses frame List.mem_cons_self)
    have split : (frame :: rest).filterMap echoedId? =
        [frame].filterMap echoedId? ++ rest.filterMap echoedId? :=
      List.filterMap_append (l := [frame])
    rw [split, List.nodup_append'] at distinct
    obtain ⟨-, further, apart⟩ := distinct
    obtain ⟨treated, leads⟩ := ih (first.leads.quiet quiet)
      (fun other listed => responses other (List.mem_cons_of_mem frame listed)) further
    refine ⟨?_, first.leads.append leads apart⟩
    have divided : (treatAll behave budget (frame :: rest) desk).1 =
        (desk.treat behave budget frame).1 ::
          (treatAll behave budget rest (desk.treat behave budget frame).2).1 := rfl
    rw [divided, List.map_cons, first.foreseen, treated]
    refine congrArg _ ?_
    refine List.map_congr_left fun other listed => ?_
    cases echoed : echoedId? other with
    | none => simp [first.leads.settings]
    | some id =>
      have fresh : id ∉ [frame].filterMap echoedId? := fun twice =>
        apart twice (List.mem_filterMap.mpr ⟨other, listed, echoed⟩)
      simp only [Option.bind_some, first.leads.settings, first.leads.callbacks_find? fresh,
        first.leads.calls_find?, if_neg fresh]

/-- Responses that echo different ids may be handled in any order, as long as callbacks perform
nothing. In the end the same requests wait, the same callbacks are registered and the indicator is
the same; and each frame, whatever its place, gets the same answer, brings the same reply to the
same handler and shows the same notices. Every frame is answered. -/
theorem responses_commute (enough : 3 ≤ budget) (quiet : desk.IsQuiet behave)
    (responses : ∀ frame ∈ frames, frame.kind = .response)
    (distinct : (frames.filterMap echoedId?).Nodup) (perm : frames.Perm others) :
    (treatAll behave budget others desk).2.calls =
        (treatAll behave budget frames desk).2.calls ∧
      (treatAll behave budget others desk).2.callbacks =
        (treatAll behave budget frames desk).2.callbacks ∧
      (treatAll behave budget others desk).2.isLoading =
        (treatAll behave budget frames desk).2.isLoading ∧
      (treatAll behave budget frames desk).1.Perm (treatAll behave budget others desk).1 ∧
      ∀ treated ∈ (treatAll behave budget frames desk).1,
        ∃ result, treated.answer = some (.done result) := by
  have sorted : ∀ frame ∈ others, frame.kind = .response :=
    fun frame listed => responses frame (perm.mem_iff.mpr listed)
  have apart : (others.filterMap echoedId?).Nodup :=
    (perm.filterMap echoedId?).nodup_iff.mp distinct
  obtain ⟨treated, leads⟩ := treatAll_spec enough quiet responses distinct
  obtain ⟨others, onward⟩ := treatAll_spec enough quiet sorted apart
  obtain ⟨calls, callbacks, loading⟩ := leads.perm perm onward
  refine ⟨calls, callbacks, loading, ?_, ?_⟩
  · rw [treated, others]
    exact perm.map _
  · rw [treated]
    intro one listed
    obtain ⟨frame, -, rfl⟩ := List.mem_map.mp listed
    exact foreseen_answer ..

end

end Desk

/-- Three requests wait, two of them visible; one of the callbacks lives once. -/
def crowded : Desk Unit Unit where
  link := { credentials := default }
  calls := ((Table.insert {} "users" { handler := "users.list" }).insert "groups"
    { handler := "groups.list" }).insert "roles" { handler := "roles.list", silent := true }
  callbacks := (Table.insert {} "users" { handler := (), lifetime := .durable }).insert "groups"
    { handler := (), lifetime := .once }
  page := ()
  log := [.loading (some "users.list")]

/-- A response, an error, a remark, a response that nobody waits for, and nothing readable. -/
def mixedResponses : List Incoming :=
  ["[\"done\",null,[\"users\"],null,null]", "[\"\",null,[\"groups\"],null,\"gone\"]",
    "[\"hello\",null,null,null,null]", "[\"\",null,[\"late\"],null,null]", "?"].map fun content =>
      { kind := .response, code := 200, content }

theorem responses_commute_reversed :
    (Desk.treatAll quiet 3 mixedResponses crowded).2.calls.keys = ["roles"] ∧
      (Desk.treatAll quiet 3 mixedResponses crowded).2.callbacks.keys = ["users"] ∧
      crowded.isLoading = true ∧
      (Desk.treatAll quiet 3 mixedResponses crowded).2.isLoading = false ∧
      (Desk.treatAll quiet 3 mixedResponses.reverse crowded).2.calls =
        (Desk.treatAll quiet 3 mixedResponses crowded).2.calls ∧
      (Desk.treatAll quiet 3 mixedResponses.reverse crowded).2.isLoading =
        (Desk.treatAll quiet 3 mixedResponses crowded).2.isLoading ∧
      (Desk.treatAll quiet 3 mixedResponses crowded).1.Perm
        (Desk.treatAll quiet 3 mixedResponses.reverse crowded).1 := by
  have distinct : (mixedResponses.filterMap echoedId?).Nodup := by decide +kernel
  have still : crowded.IsQuiet quiet := fun _ _ _ _ _ => rfl
  obtain ⟨calls, -, loading, treated, -⟩ := Desk.responses_commute (Nat.le_refl 3) still
    (by decide +kernel) distinct (List.reverse_perm mixedResponses).symm
  exact ⟨by decide +kernel, by decide +kernel, rfl, by decide +kernel, calls, loading, treated⟩

end PageSession.Exchange
