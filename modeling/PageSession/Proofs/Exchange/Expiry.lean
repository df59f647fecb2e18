import PageSession.Proofs.Exchange.Abstaining

/-!
A pass over what is overdue. It takes the overdue requests out of the table all at once, and then
tells their handlers one after the other, in the order of the table. Each request that was taken out
is shown once and offered once to whoever is registered under its id by then. With handlers that
perform nothing the order of the table makes no difference.
-/
namespace PageSession.Exchange
open Json Message

namespace Desk
variable {H W : Type}

/-- The desk from which all that is overdue has been taken. -/
def swept (desk : Desk H W) (time : Int) : Desk H W :=
  if (desk.evict time).1.isEmpty then (desk.evict time).2 else (desk.evict time).2.settleLoading

def noted (desk : Desk H W) (id : String) (call : Call) : Desk H W :=
  (desk.record (.request .expired id)).notify .error (call.handler ++ " timed out")

theorem isOverdue_iff (call : Call) (time : Int) :
    call.isOverdue time = true ↔
      ∃ deadline : Nat, call.deadline = some deadline ∧ (deadline : Int) ≤ time := by
  unfold Call.isOverdue
  cases call.deadline <;> simp

theorem mem_evict_iff {desk : Desk H W} {time : Int} {id : String} {call : Call} :
    (id, call) ∈ (desk.evict time).1 ↔ desk.calls.find? id = some call ∧
      ∃ deadline : Nat, call.deadline = some deadline ∧ (deadline : Int) ≤ time := by
  rw [evict_fst, List.mem_filter, ← Table.find?_eq_some_iff, isOverdue_iff]

end Desk

/-- Evicted requests have been told one after the other: each is shown, and offered once to the
callback that is registered under its id by then, which runs to its end if there is one. -/
inductive Told {H W : Type} (behave : Behaviour H W) :
    List (String × Call) → Desk H W → Desk H W → Prop
  | nobody (desk : Desk H W) : Told behave [] desk desk
  | missed {id : String} {call : Call} {rest : List (String × Call)} {desk last : Desk H W}
      (missing : desk.callbacks.find? id = none)
      (further : Told behave rest (desk.noted id call) last) :
      Told behave ((id, call) :: rest) desk last
  | heard {id : String} {call : Call} {rest : List (String × Call)} {desk middle last : Desk H W}
      {callback : Callback H} {answer : Answer}
      (found : desk.callbacks.find? id = some callback)
      (ran : Machine.Comes behave
        (Machine.enter behave callback.handler
          (.reply { code := 408, severity := .error, message := call.handler ++ " timed out"
                    args := call.args })
          { desk.noted id call with callbacks := desk.spared id } []) answer middle)
      (further : Told behave rest middle last) : Told behave ((id, call) :: rest) desk last

theorem told_nil_iff {H W : Type} {behave : Behaviour H W} {desk last : Desk H W} :
    Told behave [] desk last ↔ last = desk := by
  constructor
  · rintro ⟨⟩
    rfl
  · rintro rfl
    exact .nobody last

namespace Machine
variable {H W : Type} {behave : Behaviour H W} {desk last : Desk H W} {answer : Answer}

/-- What is left of a pass comes to its end when all that are left have been told. -/
theorem comes_expiring_iff {rest : List (String × Call)} {count : Nat} {given : Answer} :
    Comes behave (give given desk [.expiring rest count]) answer last ↔
      answer = .count count ∧ Told behave rest desk last := by
  induction rest generalizing desk given with
  | nil =>
    rw [← comes_step_iff, told_nil_iff]
    exact comes_give_iff
  | cons evicted rest ih =>
    obtain ⟨id, call⟩ := evicted
    have first : (give given desk [.expiring ((id, call) :: rest) count]).step behave =
        (deliver behave id (Desk.timeoutReply call) (desk.noted id call) []).above
          [.expiring rest count] := deliver_above behave _ [] _ _ _
    rw [← comes_step_iff, first, comes_above_iff]
    simp only [comes_deliver_iff, Desk.takeCallback?_eq, ih]
    have same : (desk.noted id call).callbacks = desk.callbacks := rfl
    rw [same]
    constructor
    · rintro ⟨given, middle, delivered, counted, further⟩
      refine ⟨counted, ?_⟩
      cases found : desk.callbacks.find? id with
      | none =>
        rw [found] at delivered
        obtain ⟨-, rfl⟩ := delivered
        exact .missed found further
      | some callback =>
        rw [found] at delivered
        obtain ⟨-, answer, ran⟩ := delivered
        exact .heard found ran further
    · rintro ⟨counted, told⟩
      cases told with
      | missed missing further =>
        rw [missing]
        exact ⟨_, _, ⟨rfl, rfl⟩, counted, further⟩
      | heard found ran further =>
        rw [found]
        exact ⟨_, _, ⟨rfl, _, ran⟩, counted, further⟩

theorem step_expire (ahead : Int) (stack : List (Frame H)) :
    step behave { control := .perform (.expire ahead), stack, desk } =
      if (desk.evict (desk.now + ahead)).1.isEmpty then
        give (.count 0) (desk.swept (desk.now + ahead)) stack
      else give done (desk.swept (desk.now + ahead))
        (.expiring (desk.evict (desk.now + ahead)).1 (desk.evict (desk.now + ahead)).1.length ::
          stack) := by
  simp only [step, perform, expire, Desk.swept]
  cases evicted : desk.evict (desk.now + ahead) with
  | mk overdue after => cases overdue <;> rfl

/-- A pass comes to its end when all that it has evicted have been told, and answers how many these
are. -/
theorem comes_expire_iff {ahead : Int} :
    Comes behave { control := .perform (.expire ahead), desk } answer last ↔
      answer = .count (desk.evict (desk.now + ahead)).1.length ∧
        Told behave (desk.evict (desk.now + ahead)).1 (desk.swept (desk.now + ahead)) last := by
  rw [← comes_step_iff, step_expire]
  cases evicted : (desk.evict (desk.now + ahead)).1 with
  | nil =>
    rw [told_nil_iff]
    exact comes_give_iff
  | cons first rest => exact comes_expiring_iff

end Machine

/-! ## Handlers that abstain -/

namespace Desk
variable {H W : Type}

theorem swept_calls (desk : Desk H W) (time : Int) :
    (desk.swept time).calls = desk.calls.filter fun entry => !entry.2.isOverdue time := by
  unfold swept
  split
  · rfl
  · exact settleLoading_calls _

theorem swept_callbacks (desk : Desk H W) (time : Int) :
    (desk.swept time).callbacks = desk.callbacks := by
  unfold swept
  split
  · rfl
  · exact settleLoading_callbacks _

theorem shows_swept (desk : Desk H W) (time : Int) : Shows [] desk (desk.swept time) := by
  unfold swept
  split
  · exact .of_log rfl
  · exact shows_settleLoading (desk.evict time).2

end Desk

namespace Machine
variable {H W : Type} {behave : Behaviour H W} {desk : Desk H W}

/-- After its first step a pass has what it evicted to tell, and no more to do itself. -/
theorem abstains_expire (behave : Behaviour H W) (desk : Desk H W) (ahead : Int) :
    (step behave { control := .perform (.expire ahead), desk }).Abstains := by
  rw [step_expire]
  split
  · exact abstains_give (List.forall_mem_nil _) _
  · exact abstains_give (abstains_cons (List.forall_mem_nil _) (by trivial)) _

theorem pending_expire (ahead : Int) :
    (step behave { control := .perform (.expire ahead), desk }).pending =
      (desk.evict (desk.now + ahead)).1 := by
  rw [step_expire]
  split
  · rename_i nothing
    exact (List.isEmpty_iff.mp nothing).symm
  · exact List.append_nil _

theorem desk_expire (ahead : Int) :
    (step behave { control := .perform (.expire ahead), desk }).desk =
      desk.swept (desk.now + ahead) := by
  rw [step_expire]
  split <;> rfl

theorem perform_succ (budget : Nat) (action : Action H) :
    desk.perform behave (budget + 1) action =
      let m := run behave budget (step behave { control := .perform action, desk })
      (m.result?, m.desk) := by
  rw [Desk.perform, run_step]

/-- While a pass goes on, nothing more is taken out of the table. -/
theorem expire_keeps (abstains : behave.Abstains) {ahead : Int} {budget : Nat} (begun : 0 < budget)
    (further : Nat) {id : String} {call : Call}
    (waiting : (desk.perform behave budget (.expire ahead)).2.calls.find? id = some call) :
    (desk.perform behave (budget + further) (.expire ahead)).2.calls.find? id = some call := by
  obtain ⟨budget, rfl⟩ := Nat.exists_eq_add_of_le' begun
  have split : budget + 1 + further = further + budget + 1 := by omega
  rw [split]
  rw [perform_succ] at waiting ⊢
  obtain ⟨still, -, -⟩ := (abstains_expire behave desk ahead).run abstains budget
  obtain ⟨-, keeps, -⟩ := still.run abstains further
  rw [run_add]
  exact keeps id call waiting

/-- What a whole pass shows is one notice for each request that it evicted. -/
theorem expire_adds (abstains : behave.Abstains) {ahead : Int} {answer : Answer} {last : Desk H W}
    (comes : Comes behave { control := .perform (.expire ahead), desk } answer last) :
    Desk.Adds ((desk.evict (desk.now + ahead)).1.map overdueNotice) desk last := by
  obtain ⟨budget, ended⟩ := comes_step_iff.mpr comes
  obtain ⟨-, -, notices, adds, sum⟩ :=
    (abstains_expire behave desk ahead).run abstains budget
  rw [ended, pending_expire] at sum
  rw [ended, desk_expire] at adds
  have all : notices = (desk.evict (desk.now + ahead)).1.map overdueNotice := by
    rw [← sum]
    exact (List.append_nil notices).symm
  exact all ▸ (desk.shows_swept _).adds.trans adds

end Machine

/-! ## Handlers that perform nothing -/

namespace Desk
variable {H W : Type}

/-- The callbacks that stay when those of these ids have been told. -/
def sparing (desk : Desk H W) (ids : List String) : Table (Callback H) :=
  desk.callbacks.filter fun entry => !(ids.contains entry.1 && entry.2.lifetime = .once)

/-- Who is told of an evicted request, and what. -/
def toldOf (desk : Desk H W) (evicted : String × Call) : Option (H × Invocation) :=
  (desk.callbacks.find? evicted.1).map fun callback =>
    (callback.handler, .reply (timeoutReply evicted.2))

/-- The log has grown by these notices, by these beginnings of handlers, and by what is neither. -/
def Brings (notices : List (Severity × String)) (heard : List (H × Invocation))
    (desk after : Desk H W) : Prop :=
  ∃ added : List (Event H), after.log = added.reverse ++ desk.log ∧
    added.filterMap Event.notice? = notices ∧ added.filterMap Event.invocation? = heard

def account (desk : Desk H W) (evicted : String × Call) : List (Event H) :=
  [.request .expired evicted.1, .notified .error (evicted.2.handler ++ " timed out")] ++
    ((desk.toldOf evicted).map fun told => .invoked told.1 told.2).toList

theorem sparing_nil (desk : Desk H W) : desk.sparing [] = desk.callbacks :=
  Table.filter_eq_self fun _ _ _ => rfl

theorem account_congr {desk middle : Desk H W} {rest : List (String × Call)}
    (same : ∀ id ∈ rest.map Prod.fst, middle.callbacks.find? id = desk.callbacks.find? id) :
    rest.flatMap middle.account = rest.flatMap desk.account := by
  refine List.flatMap_congr fun evicted listed => ?_
  rw [account, account, toldOf, toldOf, same _ (List.mem_map_of_mem listed)]

theorem notices_account (desk : Desk H W) (evicted : List (String × Call)) :
    (evicted.flatMap desk.account).filterMap Event.notice? = evicted.map overdueNotice := by
  induction evicted with
  | nil => rfl
  | cons first rest ih =>
    have one : (desk.account first).filterMap Event.notice? = [overdueNotice first] := by
      unfold account
      cases desk.toldOf first <;> rfl
    rw [List.flatMap_cons, List.filterMap_append, ih, one]
    rfl

theorem invocations_account (desk : Desk H W) (evicted : List (String × Call)) :
    (evicted.flatMap desk.account).filterMap Event.invocation? =
      evicted.filterMap desk.toldOf := by
  induction evicted with
  | nil => rfl
  | cons first rest ih =>
    have one : (desk.account first).filterMap Event.invocation? = (desk.toldOf first).toList := by
      unfold account
      cases desk.toldOf first <;> rfl
    rw [List.flatMap_cons, List.filterMap_append, ih, one]
    cases told : desk.toldOf first <;> simp [told]

theorem loading_account (desk : Desk H W) (evicted : List (String × Call)) :
    (evicted.flatMap desk.account).reverse.findSome? Event.loading? = none := by
  rw [List.findSome?_eq_none_iff]
  intro event listed
  obtain ⟨first, -, accounted⟩ := List.mem_flatMap.mp (List.mem_reverse.mp listed)
  rcases List.mem_append.mp accounted with noted | told
  · simp only [List.mem_cons, List.not_mem_nil, or_false] at noted
    rcases noted with rfl | rfl <;> rfl
  · obtain ⟨told, -, rfl⟩ := Option.map_eq_some_iff.mp (Option.mem_toList.mp told)
    rfl

/-- The desk when these requests have been told to callbacks that perform nothing. -/
def afterTold (desk : Desk H W) (evicted : List (String × Call)) (page : W) : Desk H W :=
  { desk with
    callbacks := desk.sparing (evicted.map Prod.fst), page
    log := (evicted.flatMap desk.account).reverse ++ desk.log }

theorem isLoading_afterTold (desk : Desk H W) (evicted : List (String × Call)) (page : W) :
    (desk.afterTold evicted page).isLoading = desk.isLoading :=
  isLoading_of_log rfl (loading_account desk evicted)

/-- Every evicted request is shown, and told to the callback that is registered for it. -/
theorem brings_afterTold (desk : Desk H W) (time : Int) (page : W) :
    desk.Brings ((desk.evict time).1.map overdueNotice) ((desk.evict time).1.filterMap desk.toldOf)
      ((desk.swept time).afterTold (desk.evict time).1 page) := by
  obtain ⟨before, grown, shown, silent⟩ := desk.shows_swept time
  have told : (desk.swept time).toldOf = desk.toldOf := by
    funext evicted
    rw [toldOf, toldOf, swept_callbacks]
  refine ⟨before ++ (desk.evict time).1.flatMap (desk.swept time).account, ?_, ?_, ?_⟩
  · rw [List.reverse_append, List.append_assoc, ← grown]
    rfl
  · rw [List.filterMap_append, shown, notices_account, List.nil_append]
  · rw [List.filterMap_append, silent, invocations_account, told, List.nil_append]

section
variable {behave : Behaviour H W} {desk : Desk H W}

/-- A callback that performs nothing leaves a page behind. -/
theorem comes_of_quiet (quiet : desk.IsQuiet behave) {id : String} {callback : Callback H}
    (found : desk.callbacks.find? id = some callback) (reply : Reply) (middle : Desk H W) :
    ∃ page answer, Machine.Comes behave
      (Machine.enter behave callback.handler (.reply reply) middle []) answer
      (record { middle with page } (.invoked callback.handler (.reply reply))) := by
  have rests := quiet id callback found reply middle.page
  refine ⟨(behave callback.handler (.reply reply) middle.page).1, Machine.done, ?_⟩
  rw [← Machine.comes_step_iff, Machine.enter]
  dsimp only [Machine.step]
  rw [rests]
  exact Machine.comes_give_iff.mpr ⟨rfl, rfl⟩

theorem sparing_singleton (desk : Desk H W) (id : String) : desk.sparing [id] = desk.spared id :=
  Table.filter_congr fun key _ _ => by simp

theorem sparing_cons (desk : Desk H W) (id : String) (ids : List String) :
    desk.sparing (id :: ids) = (desk.sparing [id]).filter fun entry =>
      !(ids.contains entry.1 && entry.2.lifetime = .once) := by
  refine ((Table.filter_filter ..).trans (Table.filter_congr fun key _ _ => ?_)).symm
  simp only [List.contains_cons, List.contains_nil, Bool.or_false]
  cases key == id <;> cases ids.contains key <;> simp

/-- Requests may be told of in parts. -/
theorem afterTold_cons {first : String × Call} {rest : List (String × Call)}
    (fresh : first.1 ∉ rest.map Prod.fst) (earlier later : W) :
    (desk.afterTold [first] earlier).afterTold rest later =
      desk.afterTold (first :: rest) later := by
  have callbacks : (desk.afterTold [first] earlier).sparing (rest.map Prod.fst) =
      desk.sparing ((first :: rest).map Prod.fst) := by
    exact (desk.sparing_cons first.1 (rest.map Prod.fst)).symm
  have log : rest.flatMap (desk.afterTold [first] earlier).account = rest.flatMap desk.account := by
    refine account_congr fun id listed => ?_
    have different : id ≠ first.1 := fun same => fresh (same ▸ listed)
    show (desk.sparing [first.1]).find? id = _
    rw [sparing_singleton, spared_find? different]
  rw [afterTold, callbacks, log, afterTold, List.flatMap_cons, List.reverse_append]
  simp [afterTold]

/-- One request is told of, whether or not there is a callback to hear of it. -/
theorem told_first (quiet : desk.IsQuiet behave) (id : String) (call : Call) :
    ∃ page, ∀ rest last, Told behave rest (desk.afterTold [(id, call)] page) last →
      Told behave ((id, call) :: rest) desk last := by
  cases found : desk.callbacks.find? id with
  | none =>
    refine ⟨desk.page, fun rest last further => .missed found ?_⟩
    have same : desk.afterTold [(id, call)] desk.page = desk.noted id call := by
      have kept : desk.sparing [id] = desk.callbacks :=
        (desk.sparing_singleton id).trans (spared_of_missing found)
      simp [afterTold, kept, account, toldOf, found, noted, record, notify]
    exact same ▸ further
  | some callback =>
    obtain ⟨page, answer, ran⟩ := comes_of_quiet quiet found (timeoutReply call)
      { desk.noted id call with callbacks := desk.spared id }
    refine ⟨page, fun rest last further => .heard found ran ?_⟩
    have same : desk.afterTold [(id, call)] page =
        record { desk.noted id call with callbacks := desk.spared id, page }
          (.invoked callback.handler (.reply (timeoutReply call))) := by
      simp [afterTold, sparing_singleton, account, toldOf, found, noted, record, notify]
    exact same ▸ further

/-- Requests are told to callbacks that perform nothing as foreseen. -/
theorem told_of_quiet {evicted : List (String × Call)} (quiet : desk.IsQuiet behave)
    (distinct : (evicted.map Prod.fst).Nodup) :
    ∃ page, Told behave evicted desk (desk.afterTold evicted page) := by
  induction evicted generalizing desk with
  | nil =>
    have same : desk.afterTold [] desk.page = desk := by
      rw [afterTold, List.map_nil, sparing_nil]
      rfl
    refine ⟨desk.page, ?_⟩
    rw [same]
    exact .nobody desk
  | cons first rest ih =>
    obtain ⟨fresh, apart⟩ := List.nodup_cons.mp distinct
    obtain ⟨earlier, further⟩ := told_first quiet first.1 first.2
    have still : (desk.afterTold [first] earlier).IsQuiet behave :=
      quiet.mono fun id callback found => by
        rw [afterTold, sparing, Table.find?_filter, Option.filter_eq_some_iff] at found
        exact found.1
    obtain ⟨later, told⟩ := ih still apart
    exact ⟨later, further _ _ (afterTold_cons fresh earlier later ▸ told)⟩

end

/-! ## Other orders of the table -/

/-- Two passes have come to the same end: the tables are the same but for the order of the requests,
the indicator is the same, and the same notices were shown and the same handlers told the same, in
whatever order. -/
structure EndsAlike (before last other : Desk H W) : Prop where
  calls : other.calls.entries.Perm last.calls.entries
  callbacks : other.callbacks = last.callbacks
  methods : other.methods = last.methods
  subscribers : other.subscribers = last.subscribers
  loading : other.isLoading = last.isLoading
  logs : ∃ notices heard noticesTwin heardTwin, before.Brings notices heard last ∧
    before.Brings noticesTwin heardTwin other ∧ noticesTwin.Perm notices ∧ heardTwin.Perm heard

section
variable {desk : Desk H W} {twin : Table Call} (perm : twin.entries.Perm desk.calls.entries)
include perm

theorem evict_perm (time : Int) :
    (evict { desk with calls := twin } time).1.Perm (desk.evict time).1 :=
  perm.filter _

theorem swept_perm (time : Int) :
    swept { desk with calls := twin } time =
      { desk.swept time with calls := twin.filter fun entry => !entry.2.isOverdue time } := by
  have left := perm.filter fun entry => !entry.2.isOverdue time
  have empty : (evict { desk with calls := twin } time).1.isEmpty =
      (desk.evict time).1.isEmpty := by
    rw [Bool.eq_iff_iff, List.isEmpty_iff_length_eq_zero, List.isEmpty_iff_length_eq_zero,
      (evict_perm perm time).length_eq]
  have visible : ((evict { desk with calls := twin } time).2.calls.values.any fun call =>
      !call.silent) = ((desk.evict time).2.calls.values.any fun call => !call.silent) := by
    rw [Bool.eq_iff_iff, List.any_eq_true, List.any_eq_true]
    exact exists_congr fun call => and_congr_left fun _ => (left.map Prod.snd).mem_iff
  unfold swept settleLoading
  rw [empty, visible]
  split
  · rfl
  · split <;> rfl

theorem endsAlike_afterTold (time : Int) (page other : W) :
    EndsAlike desk ((desk.swept time).afterTold (desk.evict time).1 page)
      ((swept { desk with calls := twin } time).afterTold
        (evict { desk with calls := twin } time).1 other) := by
  have overdue := evict_perm perm time
  have logs := brings_afterTold { desk with calls := twin } time other
  rw [swept_perm perm time] at logs ⊢
  refine ⟨?calls, ?callbacks, rfl, rfl, ?loading, _, _, _, _, brings_afterTold desk time page, logs,
    overdue.map _, overdue.filterMap _⟩
  case calls =>
    show (twin.filter _).entries.Perm (desk.swept time).calls.entries
    rw [swept_calls]
    exact perm.filter _
  case callbacks =>
    refine Table.filter_congr fun id _ _ => ?_
    have same : ((evict { desk with calls := twin } time).1.map Prod.fst).contains id =
        ((desk.evict time).1.map Prod.fst).contains id := by
      rw [Bool.eq_iff_iff, List.contains_iff_mem, List.contains_iff_mem]
      exact (overdue.map Prod.fst).mem_iff
    rw [same]
  case loading =>
    rw [isLoading_afterTold, isLoading_afterTold]
    rfl

end

end Desk

section
variable {H W : Type}

/-- What a pass over what is overdue does, whatever the handlers do that are told of it. -/
structure Desk.Expires (behave : Behaviour H W) (desk : Desk H W) (ahead : Int) : Prop where
  /-- Evicted is what has a deadline that is not after the time of the pass, and nothing else. -/
  evicted (id : String) (call : Call) : (id, call) ∈ (desk.evict (desk.now + ahead)).1 ↔
    desk.calls.find? id = some call ∧
      ∃ deadline : Nat, call.deadline = some deadline ∧ (deadline : Int) ≤ desk.now + ahead
  once : ((desk.evict (desk.now + ahead)).1.map Prod.fst).Nodup
  /-- Before anyone is told, what was evicted is gone from the table, and only that. -/
  begins : (desk.perform behave 1 (.expire ahead)).2 = desk.swept (desk.now + ahead)
  left (id : String) (call : Call) :
    (desk.swept (desk.now + ahead)).calls.find? id = some call ↔ desk.calls.find? id = some call ∧
      ¬∃ deadline : Nat, call.deadline = some deadline ∧ (deadline : Int) ≤ desk.now + ahead
  /-- The pass ends when all that was evicted has been told, and answers how many these were. -/
  ends (answer : Answer) (last : Desk H W) :
    (∃ budget, desk.perform behave budget (.expire ahead) = (some answer, last)) ↔
      answer = .count (desk.evict (desk.now + ahead)).1.length ∧
        Told behave (desk.evict (desk.now + ahead)).1 (desk.swept (desk.now + ahead)) last

/-- What else is true of a pass when handlers neither handle frames nor look for what is overdue. -/
structure Desk.ExpiresOnly (behave : Behaviour H W) (desk : Desk H W) (ahead : Int) : Prop where
  /-- From its first step on nothing leaves the table, whoever made the request, and when. -/
  keeps (budget further : Nat) (id : String) (call : Call) : 0 < budget →
    (desk.perform behave budget (.expire ahead)).2.calls.find? id = some call →
      (desk.perform behave (budget + further) (.expire ahead)).2.calls.find? id = some call
  /-- Each evicted request is shown once, and nothing else is. -/
  adds (budget : Nat) (answer : Answer) (last : Desk H W) :
    desk.perform behave budget (.expire ahead) = (some answer, last) →
      Adds ((desk.evict (desk.now + ahead)).1.map overdueNotice) desk last

theorem Desk.expires (behave : Behaviour H W) (desk : Desk H W) (ahead : Int) :
    desk.Expires behave ahead where
  evicted id call := mem_evict_iff
  once := desk.evict_nodup _
  begins := (congrArg Prod.snd (Machine.perform_succ 0 _)).trans (Machine.desk_expire ahead)
  left id call := by
    rw [swept_calls, Table.find?_filter, Option.filter_eq_some_iff, ← isOverdue_iff]
    simp
  ends answer last := Machine.performs_iff_comes.trans Machine.comes_expire_iff

theorem Desk.expiresOnly {behave : Behaviour H W} (abstains : behave.Abstains) (desk : Desk H W)
    (ahead : Int) : desk.ExpiresOnly behave ahead where
  keeps _ further _ _ begun waiting := Machine.expire_keeps abstains begun further waiting
  adds budget _ _ performed :=
    Machine.expire_adds abstains (Machine.performs_iff_comes.mp ⟨budget, performed⟩)

/-- With callbacks that perform nothing, a pass comes to its end as foreseen. -/
theorem Desk.expire_quietly {behave : Behaviour H W} {desk : Desk H W} (quiet : desk.IsQuiet behave)
    (ahead : Int) :
    ∃ page enough, ∀ budget, enough ≤ budget → desk.perform behave budget (.expire ahead) =
      (some (.count (desk.evict (desk.now + ahead)).1.length),
        (desk.swept (desk.now + ahead)).afterTold (desk.evict (desk.now + ahead)).1 page) := by
  have still : (desk.swept (desk.now + ahead)).IsQuiet behave :=
    quiet.mono fun id callback found => by rwa [swept_callbacks] at found
  obtain ⟨page, told⟩ := told_of_quiet still (desk.evict_nodup (desk.now + ahead))
  obtain ⟨enough, ends⟩ := (Machine.comes_expire_iff.mpr ⟨rfl, told⟩).stays
  refine ⟨page, enough, fun budget longer => ?_⟩
  rw [perform, ends budget longer]
  rfl

/-- A pass over what is overdue, whatever waits, whatever the time and whatever the order of the
table. What it evicts and how many these are is settled at its start, and each of them is shown and
told in its turn. Handlers that neither handle frames nor start another pass take nothing more out
of the table while it goes on, and all that is shown is one notice for each evicted request. With
callbacks that perform nothing the pass comes to its end, nobody hears but the callbacks of evicted
requests, each once, and the end is the same for every order of the table. -/
theorem expiry_pass (behave : Behaviour H W) (desk : Desk H W) (ahead : Int) :
    desk.Expires behave ahead ∧ (behave.Abstains → desk.ExpiresOnly behave ahead) ∧
      (desk.IsQuiet behave → ∀ twin : Table Call, twin.entries.Perm desk.calls.entries →
        ∃ enough last other, desk.EndsAlike last other ∧
          desk.Brings ((desk.evict (desk.now + ahead)).1.map overdueNotice)
            ((desk.evict (desk.now + ahead)).1.filterMap desk.toldOf) last ∧
          ∀ budget, enough ≤ budget → desk.perform behave budget (.expire ahead) =
            (some (.count (desk.evict (desk.now + ahead)).1.length), last) ∧
          Desk.perform behave budget { desk with calls := twin } (.expire ahead) =
            (some (.count (desk.evict (desk.now + ahead)).1.length), other)) := by
  refine ⟨desk.expires behave ahead, fun abstains => desk.expiresOnly abstains ahead,
    fun quiet twin perm => ?_⟩
  have quietly : Desk.IsQuiet behave { desk with calls := twin } := quiet
  obtain ⟨page, enough, ends⟩ := desk.expire_quietly quiet ahead
  obtain ⟨other, plenty, endsTwin⟩ := Desk.expire_quietly quietly ahead
  refine ⟨max enough plenty, _, _, Desk.endsAlike_afterTold perm _ page other,
    desk.brings_afterTold _ page, fun budget longer => ⟨ends budget (by omega), ?_⟩⟩
  rw [endsTwin budget (by omega), (Desk.evict_perm perm _).length_eq]

end

/-- Two of three requests are overdue before long, and one of these has a callback. -/
def lapsing : Desk Unit Unit where
  link := { credentials := default, status := .connected, current := some 0, lines := [{}] }
  calls := ((Table.insert {} "users"
    { handler := "users.list", args := some (.text "all"), deadline := some 30000 }).insert
    "groups" { handler := "groups.list", deadline := some 60000, silent := true }).insert "roles"
    { handler := "roles.list", deadline := some 60001 }
  callbacks := Table.insert {} "users" { handler := (), lifetime := .durable }
  page := ()

theorem expiry_pass_lapsing :
    asking.Abstains ∧ lapsing.IsQuiet quiet ∧
      (lapsing.calls.exchange 0).entries.Perm lapsing.calls.entries ∧
      (∃ last, lapsing.perform asking 9 (.expire 60000) = (some (.count 2), last) ∧
        Desk.Adds [(.error, "users.list timed out"), (.error, "groups.list timed out")]
          lapsing last) ∧
      (∀ further, (lapsing.perform asking (9 + further) (.expire 60000)).2.calls.find? "users" =
        some { handler := "users.list", deadline := some 30000 }) ∧
      ∃ enough last other, lapsing.EndsAlike last other ∧
        lapsing.Brings [(.error, "users.list timed out"), (.error, "groups.list timed out")]
          [((), .reply { code := 408, severity := .error, message := "users.list timed out"
                         args := some (.text "all") })] last ∧
        ∀ budget, enough ≤ budget →
          lapsing.perform quiet budget (.expire 60000) = (some (.count 2), last) ∧
          Desk.perform quiet budget { lapsing with calls := lapsing.calls.exchange 0 }
            (.expire 60000) = (some (.count 2), other) := by
  have abstains : asking.Abstains := fun _ _ _ => ⟨rfl, fun _ => trivial⟩
  have still : lapsing.IsQuiet quiet := fun _ _ _ _ _ => rfl
  have perm : (lapsing.calls.exchange 0).entries.Perm lapsing.calls.entries :=
    Table.swapAt_perm 0 _
  obtain ⟨-, only, -⟩ := expiry_pass asking lapsing 60000
  obtain ⟨-, -, orders⟩ := expiry_pass quiet lapsing 60000
  have number : (lapsing.evict (lapsing.now + 60000)).1.length = 2 := by decide +kernel
  have overdue : (lapsing.evict (lapsing.now + 60000)).1.map overdueNotice =
      [(.error, "users.list timed out"), (.error, "groups.list timed out")] := by decide +kernel
  have counted : (lapsing.perform asking 9 (.expire 60000)).1 = some (.count 2) := rfl
  have again : (lapsing.perform asking 9 (.expire 60000)).2.calls.find? "users" =
      some { handler := "users.list", deadline := some 30000 } := rfl
  refine ⟨abstains, still, perm, ⟨_, Prod.ext counted rfl, ?_⟩, fun further => ?_, ?_⟩
  · rw [← overdue]
    exact (only abstains).adds 9 _ _ (Prod.ext counted rfl)
  · exact (only abstains).keeps 9 further "users" _ (by decide) again
  · rw [number] at orders
    exact orders still _ perm

end PageSession.Exchange
