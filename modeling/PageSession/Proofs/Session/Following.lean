import Mathlib
import PageSession.Proofs.Session.Attending

/-!
A page follows the server. Whatever frames come and whenever requests expire, the notes of each
resident are what it has heard: the latest list of users, the latest status, and the summary that it
asked for, if that has come. A request for the summary has one outcome, and only a success brings
anything.
-/
namespace PageSession

namespace Exchange
variable {H W : Type}

/-- A request of the id was abandoned on an error, or it expired. -/
def LapsedIn (past : Past H W) (id : String) : Prop := Stepped (Machine.lapses id) past

theorem Machine.lapses_iff {m : Machine H W} {id : String} :
    m.lapses id = true ↔
      ∃ entry ∈ m.entries, entry.id = id ∧ (entry.fate = .abandoned ∨ entry.fate = .expired) := by
  simp [Machine.lapses]

end Exchange

namespace Session
open Json Message Exchange Builtin Assembly Page

variable {U : Type} {programs : U → Invocation → Program (Handler U)} {residents : Residents}

/-- What the residents of a page show of what has been heard so far. -/
structure Follows (residents : Residents) (past : Past (Handler U) Notebook)
    (m : Machine (Handler U) Notebook) : Prop where
  attends : Attends m
  filed : residents.Filed m.desk
  users : ∀ {serial}, residents.users = some serial →
    (m.desk.page.notes serial).users =
      ((repliesTo usersCallback past).findSome? usersIn?).getD []
  status : ∀ {serial}, residents.home = some serial →
    statusOf serial m = (updatesOf .statusChange past).head?.bind Update.data
  summary : ∀ {serial}, residents.home = some serial →
    (m.desk.page.notes serial).summary = (repliesTo summaryId past).head?.bind summaryIn?
  /-- There has been a reply about the summary, or one may still come, but not both. -/
  once : m.due summaryId + (repliesTo summaryId past).length ≤ 1
  awaited : residents.home.isSome = true → 0 < m.due summaryId →
    m.desk.callbacks.contains summaryId = true
  lapsed : LapsedIn past summaryId →
    m.desk.calls.find? summaryId = none ∧
      ∀ reply ∈ repliesTo summaryId past, reply.isSuccess = false

namespace Follows
variable {past : Past (Handler U) Notebook} {stage : Stage (Handler U) Notebook}

/-- Nothing is submitted under the id of the summary. -/
private theorem unsent (follows : Follows residents past stage.machine)
    (s : Submission (Handler U)) (control : stage.machine.control = .perform (.submit s)) :
    (stage.machine.desk.submit s).1 ≠ some (.ok summaryId) :=
  follows.attends.unsent usersCallback_ne_summaryId.symm s control

/-- What waits under the id of the summary is one that may still come. -/
private theorem due_of_find? {m : Machine (Handler U) Notebook} {call : Call}
    (waiting : m.desk.calls.find? summaryId = some call) : 0 < m.due summaryId := by
  unfold Machine.due
  rw [Table.contains_eq_isSome, waiting, Option.isSome_some, if_pos rfl]
  omega

private theorem users_step (follows : Follows residents past stage.machine) {serial : Nat}
    (resident : residents.users = some serial) :
    ((stage.machine.step (behave programs)).desk.page.notes serial).users =
      ((repliesTo usersCallback ((stage, .work) :: past)).findSome? usersIn?).getD [] := by
  rw [step_users programs follows.attends follows.filed resident, repliesTo_step,
    follows.users resident]
  cases stage.machine.replyTo? usersCallback with
  | none => rfl
  | some reply =>
    rw [Option.bind_some, Option.toList_some, List.singleton_append, List.findSome?_cons]
    cases usersIn? reply <;> rfl

private theorem status_step (follows : Follows residents past stage.machine) {serial : Nat}
    (resident : residents.home = some serial) :
    statusOf serial (stage.machine.step (behave programs)) =
      (updatesOf .statusChange ((stage, .work) :: past)).head?.bind Update.data := by
  obtain ⟨-, tells⟩ := follows.attends.step programs follows.filed
  have shown := step_status programs follows.attends follows.filed resident
  have earlier := follows.status resident
  rw [updatesOf_step, statusOf, tells, shown, earlier]
  cases brought : stage.machine.update? with
  | none => rfl
  | some update =>
    have follower : ∃ h, (stage.machine.desk.subscribers.ofKind update.kind).head? = some h := by
      cases kind : update.kind with
      | loadingProgress =>
        rw [Subscribers.ofKind, follows.filed.progress, resident]
        exact ⟨_, rfl⟩
      | statusChange =>
        rw [Subscribers.ofKind, follows.filed.status, resident]
        exact ⟨_, rfl⟩
    obtain ⟨h, follower⟩ := follower
    rw [Option.bind_some, follower]
    by_cases kind : update.kind = .statusChange <;> simp [kind, Option.filter_some]

/-- A reply about the summary is the only one that could come, and its callback is there. -/
private theorem replied (follows : Follows residents past stage.machine) {reply : Reply}
    (replying : stage.machine.replyTo? summaryId = some reply) :
    (∃ call, (summaryId, call) ∈ stage.machine.told ∧ (reply.isSuccess = true →
        ({ fate := .resolved, id := summaryId, call } : Exchange.Entry) ∈ stage.machine.entries)) ∧
      0 < stage.machine.due summaryId ∧ repliesTo summaryId past = [] := by
  have once := follows.once
  have bound := Machine.told_le_due follows.unsent
  obtain ⟨call, telling, resolved⟩ :=
    Machine.told_of_reply (Machine.replyTo?_eq_some_iff.mp replying)
  have told : 0 < stage.machine.told.countP fun request => request.1 = summaryId :=
    List.countP_pos_iff.mpr ⟨_, telling, by simp⟩
  refine ⟨⟨call, telling, resolved⟩, by omega, List.eq_nil_of_length_eq_zero (by omega)⟩

private theorem summary_step (follows : Follows residents past stage.machine) {serial : Nat}
    (resident : residents.home = some serial) :
    ((stage.machine.step (behave programs)).desk.page.notes serial).summary =
      (repliesTo summaryId ((stage, .work) :: past)).head?.bind summaryIn? := by
  have present : residents.home.isSome = true := by rw [resident]; rfl
  have awaited {reply : Reply} (replying : stage.machine.replyTo? summaryId = some reply) :
      stage.machine.desk.callbacks.contains summaryId = true :=
    follows.awaited present (follows.replied replying).2.1
  rw [step_summary programs follows.attends follows.filed resident awaited, repliesTo_step]
  have earlier := follows.summary resident
  cases replying : stage.machine.replyTo? summaryId with
  | none => exact earlier
  | some reply =>
    rw [(follows.replied replying).2.2] at earlier ⊢
    exact Notes.takeSummary_summary _ reply earlier

private theorem once_step (follows : Follows residents past stage.machine) :
    (stage.machine.step (behave programs)).due summaryId +
      (repliesTo summaryId ((stage, .work) :: past)).length ≤ 1 := by
  have once := follows.once
  have paid := Machine.due_step (behave programs) follows.unsent
  rw [repliesTo_step, List.length_append]
  cases replying : stage.machine.replyTo? summaryId with
  | none =>
    rw [Option.toList_none, List.length_nil]
    omega
  | some reply =>
    obtain ⟨⟨call, telling, -⟩, -, -⟩ := follows.replied replying
    have told : 0 < stage.machine.told.countP fun request => request.1 = summaryId :=
      List.countP_pos_iff.mpr ⟨_, telling, by simp⟩
    rw [Option.toList_some, List.length_singleton]
    omega

/-- The callback of the summary stays as long as a reply may still come. -/
private theorem awaited_step (follows : Follows residents past stage.machine)
    (present : residents.home.isSome = true)
    (due : 0 < (stage.machine.step (behave programs)).due summaryId) :
    (stage.machine.step (behave programs)).desk.callbacks.contains summaryId = true := by
  have once := follows.once
  have paid := Machine.due_step (behave programs) follows.unsent
  have untold : stage.machine.told.countP (fun request => request.1 = summaryId) = 0 := by omega
  have heard : stage.machine.unheard summaryId = 0 := by omega
  have stays : stage.machine.Stays summaryId := by
    refine .inr ⟨fun call telling => ?_, fun entry made same fate => ?_⟩
    · exact List.countP_eq_zero.mp untold _ telling (by simp)
    · exact List.countP_eq_zero.mp heard entry made (by simp [same, fate])
  have earlier := follows.awaited present (by omega)
  rw [Table.contains_eq_isSome] at earlier ⊢
  rwa [Machine.step_keeps (behave programs) follows.attends.keepsHandlers stays]

/-- Once the request for the summary has lapsed, nothing waits, and no reply is a success. -/
private theorem lapsed_step (follows : Follows residents past stage.machine)
    (lapsed : LapsedIn ((stage, .work) :: past) summaryId) :
    (stage.machine.step (behave programs)).desk.calls.find? summaryId = none ∧
      ∀ reply ∈ repliesTo summaryId ((stage, .work) :: past), reply.isSuccess = false := by
  rw [repliesTo_step]
  have fails {reply : Reply} (replying : stage.machine.replyTo? summaryId = some reply)
      (unresolved : ∀ call, ({ fate := .resolved, id := summaryId, call } : Exchange.Entry) ∉
        stage.machine.entries) : reply.isSuccess = false := by
    obtain ⟨⟨call, -, resolved⟩, -, -⟩ := follows.replied replying
    exact Bool.eq_false_iff.mpr fun success => unresolved call (resolved success)
  rcases stepped_cons.mp lapsed with now | before
  · obtain ⟨entry, made, same, fate⟩ := Machine.lapses_iff.mp now
    have outcome : entry.fate ≠ .submitted := by
      rcases fate with fate | fate <;> rw [fate] <;> decide
    have found := Machine.find?_of_mem_entries made
    rw [same, Entry.before, if_neg outcome] at found
    -- what lapses has been waiting until now, so no reply has come before
    have due := due_of_find? found
    have once := follows.once
    have nothing : repliesTo summaryId past = [] := List.eq_nil_of_length_eq_zero (by omega)
    have only := Machine.entriesOf_of_mem made
    rw [same] at only
    refine ⟨?_, fun reply listed => ?_⟩
    · rw [Machine.entriesOf_entries] at only
      rw [Machine.step_find?]
      cases first : stage.machine.entries.find? fun entry => entry.id = summaryId with
      | none =>
        rw [first] at only
        cases only
      | some other =>
        rw [first] at only
        cases only
        exact if_neg outcome
    · rw [nothing, List.append_nil, Option.mem_toList] at listed
      refine fails listed fun call resolved => ?_
      have twin : ({ fate := .resolved, id := summaryId, call } : Exchange.Entry) ∈
          entriesOf summaryId stage.machine.entries := List.mem_filter.mpr ⟨resolved, by simp⟩
      rw [only, List.mem_singleton] at twin
      rw [← twin] at fate
      rcases fate with fate | fate <;> cases fate
  · obtain ⟨free, failed⟩ := follows.lapsed before
    refine ⟨?_, fun reply listed => ?_⟩
    · cases waiting : (stage.machine.step (behave programs)).desk.calls.find? summaryId with
      | none => rfl
      | some call =>
        rcases Machine.find?_of_step waiting with earlier | ⟨s, control, accepted, -⟩
        · rw [free] at earlier
          cases earlier
        · exact absurd accepted (follows.unsent s control)
    · rcases List.mem_append.mp listed with fresh | earlier
      · refine fails (Option.mem_toList.mp fresh) fun call resolved => ?_
        have found := Machine.find?_of_mem_entries resolved
        rw [free] at found
        cases found
      · exact failed reply earlier

/-- A step carries on what residents show. -/
theorem step (follows : Follows residents past stage.machine) :
    Follows residents ((stage, .work) :: past) (stage.machine.step (behave programs)) where
  attends := (follows.attends.step programs follows.filed).1
  filed := follows.filed.step follows.attends.keepsHandlers
  users := follows.users_step
  status := follows.status_step
  summary := follows.summary_step
  once := follows.once_step
  awaited := follows.awaited_step
  lapsed := follows.lapsed_step

/-- Whatever begins at rest or changes the order of requests is heard by nobody. -/
private theorem still {move : Move (Handler U)} {after : Machine (Handler U) Notebook}
    (follows : Follows residents past stage.machine) (quiet : move.isStep = false)
    (attends : Attends after) (same : stage.machine.desk.SameHandlers after.desk)
    (calls : after.desk.calls.find? summaryId = stage.machine.desk.calls.find? summaryId)
    (pending : after.pending = stage.machine.pending)
    (telling : after.telling? = stage.machine.telling?) :
    Follows residents ((stage, move) :: past) after := by
  have due : after.due summaryId = stage.machine.due summaryId := by
    rw [Machine.due, Machine.due, pending, Table.contains_eq_isSome, Table.contains_eq_isSome,
      calls]
  have replies (id : String) : repliesTo id ((stage, move) :: past) = repliesTo id past :=
    repliesTo_of_not_step id quiet
  exact
    { attends
      filed := follows.filed.of_sameHandlers same
      users := fun resident => by
        rw [replies, same.page]
        exact follows.users resident
      status := fun resident => by
        rw [updatesOf_of_not_step _ quiet, statusOf, telling, same.page]
        exact follows.status resident
      summary := fun resident => by
        rw [replies, same.page]
        exact follows.summary resident
      once := by
        rw [replies, due]
        exact follows.once
      awaited := fun present soon => by
        rw [same.callbacks]
        exact follows.awaited present (due ▸ soon)
      lapsed := fun lapsed => by
        rw [replies, calls]
        rcases stepped_cons.mp lapsed with now | before
        · rw [quiet] at now
          cases now
        · exact follows.lapsed before }

/-- At rest nobody is told of anything. -/
theorem telling?_of_isIdle (idle : stage.isIdle = true) : stage.machine.telling? = none := by
  unfold Stage.isIdle Machine.result? at idle
  split at idle
  · rename_i control stack
    simp only [Machine.telling?, control, stack]
  · cases idle

/-- What begins at rest is an action of others, or nothing that concerns handlers. -/
private theorem attends_of_begins {move : Move (Handler U)} {after : Stage (Handler U) Notebook}
    (ambient : move.isAmbient = true)
    (begins : Stage.begin stage.desk stage.aims move = some after) :
    Attends after.machine ∧ after.machine.telling? = none := by
  have nothing : ∀ frame ∈ ([] : List (Frame (Handler U))), frame.IsSpent :=
    List.forall_mem_nil _
  have resting (desk : Desk (Handler U) Notebook) (aims : Nat → Option (Option Nat)) :
      Attends (Stage.resting desk aims).machine ∧
        (Stage.resting desk aims).machine.telling? = none :=
    ⟨.answering Machine.done rfl nothing, rfl⟩
  cases Stage.begins_of_begin begins with
  | act action => exact ⟨.performing action rfl ambient nothing, rfl⟩
  | handle line service frame taken found received =>
    exact ⟨.performing (.handle frame) rfl rfl (List.forall_mem_cons.mpr ⟨trivial, nothing⟩), rfl⟩
  | expire line service found due => exact ⟨.performing (.expire 0) rfl rfl nothing, rfl⟩
  | start | wake | aim | sleep | leave | pump | report | lay | dial | opened | advance | schedule =>
    exact resting _ _

/-- Every move that others may make carries on what residents show. -/
theorem move {move : Move (Handler U)} {after : Stage (Handler U) Notebook}
    (follows : Follows residents past stage.machine) (ambient : move.isAmbient = true)
    (made : stage.next (behave programs) move = some after) :
    Follows residents ((stage, move) :: past) after.machine := by
  cases Stage.moved_of_next made with
  | worked => exact follows.step
  | begun _ _ unworked idle begins =>
    obtain ⟨attends, untold⟩ := attends_of_begins ambient begins
    have begun := Stage.begun_of_begin begins
    refine follows.still unworked attends ?_ ?_ ?_ ?_
    · have kept := begun.books.sameHandlers
      exact ⟨kept.callbacks, kept.methods, kept.subscribers, kept.page⟩
    · exact congrArg (Table.find? · summaryId) begun.books.calls
    · rw [begun.pending, Stage.pending_of_isIdle idle]
    · rw [untold, telling?_of_isIdle idle]
  | exchanged place =>
    refine follows.still rfl ?_ (by constructor <;> rfl) (Table.find?_exchange _ _ _) rfl rfl
    cases follows.attends with
    | performing action control ambient spent => exact .performing action control ambient spent
    | asking control spent => exact .asking control spent
    | running h program control short spent => exact .running h program control short spent
    | answering answer control spent => exact .answering answer control spent
    | telling answer update h count stack control waiting subscribed spent =>
      exact .telling answer update h count stack control waiting subscribed spent

/-- Whatever others do, residents go on to show what has been heard. -/
theorem run {start : Stage (Handler U) Notebook} (first : Follows residents [] start.machine)
    (run : SerialRun (behave programs) start past stage)
    (ambient : ∀ moved ∈ past, moved.2.isAmbient = true) :
    Follows residents past stage.machine := by
  induction run with
  | start => exact first
  | next before made ih =>
    rw [List.forall_mem_cons] at ambient
    exact (ih ambient.2).move ambient.1 made

end Follows

/-! ## Sessions -/

def stage (session : Session U) : Stage (Handler U) Notebook :=
  .resting { session.desk with stream := session.line } fun _ => none

def during (session : Session U) (stage : Stage (Handler U) Notebook) : Session U :=
  { session with desk := stage.desk }

/-- To run a session is to start the service of its line. -/
theorem begin_start {session : Session U} {line : Nat} (reads : session.line = some line)
    (unread : session.desk.stream = none) :
    Stage.begin session.stage.desk session.stage.aims .start =
      some (.resting session.run.2.desk fun _ => none) := by
  have same : ({ session.desk with stream := none } : Desk (Handler U) Notebook) =
      session.desk := by
    rw [← unread]
  have served : session.run.2.desk = session.desk.serveLine line := by
    rw [run, reads]
  rw [served, ← same]
  simp only [Stage.begin, Desk.startService, stage, reads]
  rfl

/-- The residents of a session that has started have heard nothing yet. -/
theorem follows_start {session : Session U} {front : List NodePath}
    {workshop : Workshop Kind (Desk (Handler U) Notebook)}
    (housed : Housed front residents workshop) (same : session.desk = workshop.services) :
    Follows residents [] session.stage.machine := by
  have filed : residents.Filed session.desk := same ▸ housed.filed
  have page : session.desk.page = {} := by rw [same, housed.page]
  have blank (serial : Nat) : session.stage.machine.desk.page.notes serial = {} :=
    congrArg (fun book => book.notes serial) page
  have due : session.stage.machine.due summaryId =
      if session.desk.calls.contains summaryId then 1 else 0 := rfl
  refine ⟨.answering Machine.done rfl (List.forall_mem_nil _),
    filed.of_sameHandlers (by constructor <;> rfl), ?_, ?_, ?_, ?_, ?_, ?_⟩
  · intro serial resident
    rw [blank]
    rfl
  · intro serial resident
    exact congrArg Notes.lastStatus (blank serial)
  · intro serial resident
    rw [blank]
    rfl
  · rw [due]
    split
    · exact Nat.le_refl 1
    · exact Nat.zero_le 1
  · intro present _
    obtain ⟨serial, resident⟩ := Option.isSome_iff_exists.mp present
    have asked := (housed.asked resident).callback
    show session.desk.callbacks.contains summaryId = true
    rw [Table.contains_eq_isSome, same, asked]
    rfl
  · exact fun impossible => absurd impossible not_stepped_nil

/-- A summary that has been heard stays the only reply of its request. -/
private theorem summary_stays {later earlier : Past (Handler U) Notebook}
    (once : (repliesTo summaryId (later ++ earlier)).length ≤ 1)
    (heard : repliesTo summaryId earlier ≠ []) :
    repliesTo summaryId (later ++ earlier) = repliesTo summaryId earlier := by
  have split : repliesTo summaryId (later ++ earlier) =
      repliesTo summaryId later ++ repliesTo summaryId earlier := List.filterMap_append
  have some := List.length_pos_iff.mpr heard
  rw [split, List.length_append] at once
  rw [split, List.eq_nil_of_length_eq_zero (by omega : (repliesTo summaryId later).length = 0),
    List.nil_append]

/-- A session shows what it has heard since it started, whatever frames come, however time passes
and whenever users are asked for again. The users are those of the latest reply that brought any,
the status is that of the latest update of the status, and the summary is what its own request
brought: there is one reply at most, and no summary where the request has lapsed. -/
theorem page_follows_server (programs : U → Invocation → Program (Handler U))
    {configuration : Configuration} {dialer : Dialer} {lines : List Line} {session : Session U}
    (started : (start programs configuration dialer lines).1 = some (.ok session))
    (homeOnce : (configuration.interfaces.map NodePath.text).count Kind.home.name ≤ 1)
    (usersOnce : (configuration.interfaces.map NodePath.text).count Kind.users.name ≤ 1)
    {past : Past (Handler U) Notebook} {stage : Stage (Handler U) Notebook}
    (run : SerialRun (behave programs) session.stage past stage)
    (ambient : ∀ moved ∈ past, moved.2.isAmbient = true) :
    (∀ notes, (session.during stage).users? = some notes →
      notes.users = ((repliesTo usersCallback past).findSome? usersIn?).getD []) ∧
    ((session.during stage).home?.isSome = true ↔
      Kind.home.name ∈ configuration.interfaces.map NodePath.text) ∧
    ∀ notes, (session.during stage).home? = some notes →
      (stage.isIdle = true →
        notes.lastStatus = (updatesOf .statusChange past).head?.bind Update.data) ∧
      (∃ call, session.desk.calls.find? summaryId = some call ∧ call.handler = summaryHandler) ∧
      (repliesTo summaryId past).length ≤ 1 ∧
      notes.summary = (repliesTo summaryId past).head?.bind summaryIn? ∧
      (LapsedIn past summaryId → notes.summary = none) ∧
      ∀ first move later earlier before, past = later ++ (first, move) :: earlier →
        (session.during first).home? = some before → before.summary ≠ none →
        notes.summary = before.summary := by
  have once (kind : Kind) (resident : kind ≠ .admin) :
      (configuration.interfaces.map NodePath.text).count kind.name ≤ 1 := by
    cases kind with
    | home => exact homeOnce
    | users => exact usersOnce
    | admin => exact absurd rfl resident
  obtain ⟨residents, workshop, housed, tree, desk⟩ := start_housed started once
  have first := follows_start housed desk
  have follows := first.run run ambient
  have home (stage : Stage (Handler U) Notebook) : (session.during stage).home? =
      residents.home.map fun serial => stage.desk.page.notes serial := by
    unfold home? notes?
    show (session.tree.get? Kind.home.path).bind _ = _
    rw [tree, housed.homeNode]
    cases residents.home <;> rfl
  refine ⟨fun notes shown => ?_, ?_, fun notes shown => ?_⟩
  · obtain ⟨object, found, kept⟩ := Option.bind_eq_some_iff.mp shown
    obtain ⟨body, resident⟩ := housed.usersNode (tree ▸ found)
    rw [if_pos body] at kept
    cases kept
    exact follows.users resident
  · rw [home, Option.isSome_map]
    exact housed.home
  · rw [home] at shown
    obtain ⟨serial, resident, rfl⟩ := Option.map_eq_some_iff.mp shown
    have replies : (repliesTo summaryId past).length ≤ 1 := by
      have := follows.once
      omega
    refine ⟨fun idle => ?_, desk ▸ (housed.asked resident).call, replies,
      follows.summary resident, fun lapsed => ?_, ?_⟩
    · rw [← follows.status resident, statusOf, Follows.telling?_of_isIdle idle]
      rfl
    · refine (follows.summary resident).trans ?_
      cases replied : (repliesTo summaryId past).head? with
      | none => rfl
      | some reply =>
        have failed := (follows.lapsed lapsed).2 reply (List.mem_of_head? replied)
        simp [summaryIn?, failed]
    · rintro earliest move later earlier before rfl shownBefore heard
      obtain ⟨after, reached, -, -⟩ := run.divide
      have followed := first.run reached fun moved member =>
        ambient moved (List.mem_append_right _ (List.mem_cons_of_mem _ member))
      rw [home, resident, Option.map_some, Option.some.injEq] at shownBefore
      have earliestSummary := followed.summary resident
      rw [show earliest.machine.desk.page.notes serial = before from shownBefore]
        at earliestSummary
      -- a summary that is shown has come with a reply, and there is no second one
      have came : repliesTo summaryId earlier ≠ [] := by
        intro nothing
        rw [nothing] at earliestSummary
        exact heard earliestSummary
      refine (follows.summary resident).trans ?_
      rw [earliestSummary, List.append_cons, summary_stays (List.append_cons .. ▸ replies) came]

/-- The standard page, for somebody who has the role of administrators. -/
def administered : Configuration := { standard with page := { path := "/", roles := [adminRole] } }

def registered : Roster Kind where
  modules := Kind.all.foldl (fun modules kind => modules.insert kind.name (moduleOf id kind)) {}
  generation := Kind.all.length

def connected : Desk (Handler Unit) Notebook :=
  (({ settings := administered.exchange, page := {}, link :=
        { lines := [.toProcess], credentials :=
          { endpoint := "e", identity := "i", token := "t", session := "s", group := "g" } } }
    : Desk (Handler Unit) Notebook).connect (.ok 0)).2

def composed : Option (Except Page.Failure Unit) × Workshop Kind (Desk (Handler Unit) Notebook) :=
  Workshop.composeAll (moduleBehaviour fun _ _ => .finish) stepsPerPath administered.interfaces
    { (startup administered connected).workshop with roster := registered }

def attended : Session Unit :=
  { tree := composed.2.tree, desk := composed.2.services, line := connected.stream }

theorem attended_started :
    (start (fun _ _ => .finish) administered (.once (some 0)) [.toProcess]).1 =
      some (.ok attended) := by
  have brought : (waited administered connected).2.workshop =
      { (startup administered connected).workshop with roster := registered } := by cbv
  have succeeded : (waited administered connected).1 = .ok () := by cbv
  have ended : composed.1 = some (.ok ()) := by
    have succeeds : composed.1.any Except.isOk = true := by decide +kernel
    rcases outcome : composed.1 with _ | failure | success
    · rw [outcome] at succeeds
      cases succeeds
    · rw [outcome] at succeeds
      cases succeeds
    · rfl
  have read : Credentials.ofStore administered.store = .ok connected.link.credentials := by rfl
  rw [start, read]
  show build (fun _ _ => .finish) administered connected = _
  rw [build_eq _ brought, succeeded]
  have built : Workshop.composeAll (moduleBehaviour fun _ _ => .finish) stepsPerPath
      administered.interfaces
      { (startup administered connected).workshop with roster := registered } =
      (some (.ok ()), composed.2) := Prod.ext ended rfl
  rw [built]
  rfl

def doing (action : Action (Handler Unit)) (steps : Nat) : List (Move (Handler Unit)) :=
  .act action :: List.replicate steps .work

def answered (code : Nat) (content : String) : List (Move (Handler Unit)) :=
  doing (.handle { kind := .response, code, content }) 3

/-- The session runs. The users come and are asked for again; then a status comes, the summary, and
an error instead of the users. -/
def visit : List (Move (Handler Unit)) :=
  .start :: answered 200 "[\"\",[true],[\"admin.users.list\"],null,null]" ++
    doing (.call refreshMethod []) 6 ++
    doing (.handle
      { kind := .update, code := 200, content := "[\"status_change\",\"\",false]" }) 5 ++
    answered 200 "[\"\",true,[\"cb-0\"],null,null]" ++
    answered 500 "[\"\",[],[\"admin.users.list\"],null,null]"

theorem page_follows_server_attended : ∃ past stage,
    (start (fun _ _ => .finish) administered (.once (some 0)) [.toProcess]).1 =
        some (.ok attended) ∧
      SerialRun (behave fun _ _ => .finish) attended.stage past stage ∧
      (∀ moved ∈ past, moved.2.isAmbient = true) ∧ stage.isIdle = true ∧
      (∃ notes, (attended.during stage).users? = some notes ∧
        notes.users.map Value.write = ["true"]) ∧
      ∃ notes, (attended.during stage).home? = some notes ∧
        notes.lastStatus.map Value.write = some "false" ∧
        notes.summary.map Value.write = some "true" := by
  have shown : ((Stage.follow (behave fun _ _ => .finish) visit ([], attended.stage)).map
      fun reached => decide (reached.2.isIdle = true ∧
        (attended.during reached.2).users?.isSome = true ∧
        (((repliesTo usersCallback reached.1).findSome? usersIn?).getD []).map Value.write =
          ["true"] ∧
        ((updatesOf .statusChange reached.1).head?.bind Update.data).map Value.write =
          some "false" ∧
        ((repliesTo summaryId reached.1).head?.bind summaryIn?).map Value.write =
          some "true")) = some true := by
    decide +kernel
  obtain ⟨⟨past, stage⟩, reached, facts⟩ := Option.map_eq_some_iff.mp shown
  obtain ⟨idle, present, users, status, summary⟩ := of_decide_eq_true facts
  have run : SerialRun (behave fun _ _ => .finish) attended.stage past stage :=
    SerialRun.start.follow reached
  have ambient : ∀ moved ∈ past, moved.2.isAmbient = true := by
    intro moved member
    have listed := List.mem_map_of_mem (f := Prod.snd) member
    rw [Stage.follow_made reached, List.map_nil, List.append_nil, List.mem_reverse] at listed
    have all : ∀ move ∈ visit, move.isAmbient = true := by decide +kernel
    exact all _ listed
  have homeOnce : (administered.interfaces.map NodePath.text).count Kind.home.name ≤ 1 := by
    decide +kernel
  have usersOnce : (administered.interfaces.map NodePath.text).count Kind.users.name ≤ 1 := by
    decide +kernel
  obtain ⟨followsUsers, homeIff, followsHome⟩ :=
    page_follows_server _ attended_started homeOnce usersOnce run ambient
  obtain ⟨notes, found⟩ := Option.isSome_iff_exists.mp present
  obtain ⟨home, foundHome⟩ := Option.isSome_iff_exists.mp (homeIff.mpr (by decide +kernel))
  obtain ⟨followsStatus, -, -, followsSummary, -, -⟩ := followsHome home foundHome
  refine ⟨past, stage, attended_started, run, ambient, idle, ⟨notes, found, ?_⟩, home, foundHome,
    ?_, ?_⟩
  · rw [followsUsers notes found]
    exact users
  · rw [followsStatus idle]
    exact status
  · rw [followsSummary]
    exact summary

end Session
end PageSession
