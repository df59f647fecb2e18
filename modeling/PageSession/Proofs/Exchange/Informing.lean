import PageSession.Proofs.Exchange.Notices

/-!
Updates and who hears of them. The subscribers of an update are looked up once, before the first of
them runs, and then run one after the other. Whatever they do meanwhile, be it that they subscribe
others or let another update be distributed, makes no difference to who is left, at whatever depth
this goes on. Between two subscribers nothing changes, so what an update does to a desk is what its
subscribers do.
-/
namespace PageSession.Exchange
open Json Message Machine

/-- Handlers have heard of an update one after the other, each to its end. Before a handler begins,
the desk is as the one before has left it. -/
inductive Informed {H W : Type} (behave : Behaviour H W) (update : Update) :
    List H → Desk H W → Desk H W → Prop
  | nobody (desk : Desk H W) : Informed behave update [] desk desk
  | heard {h : H} {rest : List H} {desk middle last : Desk H W} {answer : Answer}
      (ran : Comes behave (enter behave h (.update update) desk []) answer middle)
      (further : Informed behave update rest middle last) :
      Informed behave update (h :: rest) desk last

section
variable {H W : Type} {behave : Behaviour H W} {update : Update}

theorem informed_nil_iff {desk last : Desk H W} :
    Informed behave update [] desk last ↔ last = desk := by
  constructor
  · rintro ⟨⟩
    rfl
  · rintro rfl
    exact .nobody last

/-- One more handler hears after the others. -/
theorem Informed.snoc {called : List H} {h : H} {desk middle last : Desk H W} {answer : Answer}
    (informed : Informed behave update called desk middle)
    (ran : Comes behave (enter behave h (.update update) middle []) answer last) :
    Informed behave update (called ++ [h]) desk last := by
  induction informed with
  | nobody desk => exact .heard ran (.nobody last)
  | heard first further ih => exact .heard first (ih ran)

/-- What no handler changes on its own, all of them together do not change. -/
theorem Informed.keeps {α : Type} (view : Desk H W → α) {called : List H} {desk last : Desk H W}
    (informed : Informed behave update called desk last)
    (each : ∀ h ∈ called, ∀ before answer after,
      Comes behave (enter behave h (.update update) before []) answer after →
        view after = view before) : view last = view desk := by
  induction informed with
  | nobody desk => rfl
  | heard ran further ih =>
    rw [List.forall_mem_cons] at each
    exact (ih each.2).trans (each.1 _ _ _ ran)

/-- Handlers that all come to an end can hear one after the other. -/
theorem exists_informed {called : List H} (desk : Desk H W)
    (ends : ∀ h ∈ called, ∀ before, ∃ answer after,
      Comes behave (enter behave h (.update update) before []) answer after) :
    ∃ last, Informed behave update called desk last := by
  induction called generalizing desk with
  | nil => exact ⟨desk, .nobody desk⟩
  | cons h rest ih =>
    rw [List.forall_mem_cons] at ends
    obtain ⟨answer, middle, ran⟩ := ends.1 desk
    obtain ⟨last, further⟩ := ih middle ends.2
    exact ⟨last, .heard ran further⟩

/-- A desk after handlers have heard of an update that do nothing but see to their own state. -/
def Desk.afterHearing (behave : Behaviour H W) (update : Update) (desk : Desk H W)
    (called : List H) : Desk H W :=
  { desk with
    page := called.foldl (fun page h => (behave h (.update update) page).1) desk.page
    log := (called.map fun h => Event.invoked h (.update update)).reverse ++ desk.log }

theorem informed_of_quiet {called : List H}
    (quiet : ∀ h ∈ called, ∀ page, (behave h (.update update) page).2 = .finish)
    (desk : Desk H W) :
    Informed behave update called desk (desk.afterHearing behave update called) := by
  induction called generalizing desk with
  | nil => exact .nobody desk
  | cons h rest ih =>
    rw [List.forall_mem_cons] at quiet
    have ran : Comes behave (enter behave h (.update update) desk []) done
        (desk.afterHearing behave update [h]) := by
      have entered : enter behave h (.update update) desk [] =
          { control := .run h (behave h (.update update) desk.page).2
            desk := desk.afterHearing behave update [h] } := rfl
      rw [entered, quiet.1]
      exact ⟨1, rfl⟩
    have further := ih quiet.2 (desk.afterHearing behave update [h])
    refine .heard ran ?_
    simpa [Desk.afterHearing] using further

end

namespace Machine
variable {H W : Type} {behave : Behaviour H W} {update : Update}

/-! ## All that is left -/

/-- What is left of a distribution comes to its end when all that are left have heard. -/
theorem comes_distributing_iff {left : List H} {count : Nat} {given answer : Answer}
    {desk last : Desk H W} :
    Comes behave (give given desk [.distributing update left count]) answer last ↔
      answer = .count count ∧ Informed behave update left desk last := by
  induction left generalizing desk given with
  | nil =>
    rw [← comes_step_iff, informed_nil_iff]
    exact comes_give_iff
  | cons h rest ih =>
    have first : (give given desk [.distributing update (h :: rest) count]).step behave =
        (enter behave h (.update update) desk []).above [.distributing update rest count] := rfl
    rw [← comes_step_iff, first, comes_above_iff]
    simp only [ih]
    constructor
    · rintro ⟨given, middle, ran, counted, further⟩
      exact ⟨counted, .heard ran further⟩
    · rintro ⟨counted, informed⟩
      cases informed with
      | heard ran further => exact ⟨_, _, ran, counted, further⟩

/-- An update is distributed to those who are subscribed now, and counted. -/
theorem comes_distribute_iff {desk last : Desk H W} {answer : Answer} :
    Comes behave (distribute update desk []) answer last ↔
      answer = .count (desk.subscribers.ofKind update.kind).length ∧
        Informed behave update (desk.subscribers.ofKind update.kind) desk last :=
  comes_distributing_iff

/-! ## On the way -/

/-- How far the distribution of an update to these subscribers is, above other work: between two of
them, within one of them, or through with all. -/
inductive Hears (behave : Behaviour H W) (update : Update) (subscribers : List H) (desk : Desk H W)
    (count : Nat) (below : List (Frame H)) : Machine H W → Prop
  | between {called left : List H} {middle : Desk H W} (given : Answer)
      (all : subscribers = called ++ left) (informed : Informed behave update called desk middle) :
      Hears behave update subscribers desk count below
        (give given middle (.distributing update left count :: below))
  | within {called left : List H} {h : H} {middle : Desk H W} {inner : Machine H W}
      (all : subscribers = called ++ h :: left)
      (informed : Informed behave update called desk middle)
      (runs : ∃ budget, inner = run behave budget (enter behave h (.update update) middle []))
      (busy : inner.result? = none) :
      Hears behave update subscribers desk count below
        (inner.above (.distributing update left count :: below))
  | through {middle : Desk H W} {m : Machine H W}
      (informed : Informed behave update subscribers desk middle)
      (runs : ∃ budget, m = run behave budget (give (.count count) middle below)) :
      Hears behave update subscribers desk count below m

section
variable {subscribers : List H} {desk : Desk H W} {count : Nat} {below : List (Frame H)}
  {m : Machine H W}

/-- Each step calls the next subscriber, is one of the subscriber that runs, or comes after all. -/
theorem Hears.step (hears : Hears behave update subscribers desk count below m) :
    Hears behave update subscribers desk count below (m.step behave) := by
  cases hears with
  | between given all informed =>
    rename_i called left middle
    cases left with
    | nil =>
      rw [List.append_nil] at all
      exact .through (all ▸ informed) ⟨0, rfl⟩
    | cons h left => exact .within all informed ⟨0, rfl⟩ rfl
  | within all informed runs busy =>
    rename_i called left h middle inner
    obtain ⟨budget, ran⟩ := runs
    rw [step_above behave busy]
    have onward : inner.step behave =
        run behave (budget + 1) (enter behave h (.update update) middle []) := by
      rw [ran, Nat.add_comm, run_add, run_step]
      rfl
    cases result : (inner.step behave).result? with
    | none => exact .within all informed ⟨budget + 1, onward⟩ result
    | some answer =>
      rw [above_of_result result]
      have ended : Comes behave (enter behave h (.update update) middle []) answer
          (inner.step behave).desk :=
        ⟨budget + 1, onward.symm.trans (eq_give_of_result result)⟩
      exact .between answer (all.trans (List.append_cons called h left)) (informed.snoc ended)
  | through informed runs =>
    obtain ⟨budget, ran⟩ := runs
    refine .through informed ⟨budget + 1, ?_⟩
    rw [ran, Nat.add_comm, run_add, run_step]
    rfl

theorem Hears.run (hears : Hears behave update subscribers desk count below m) (budget : Nat) :
    Hears behave update subscribers desk count below (run behave budget m) := by
  induction budget generalizing m with
  | zero => exact hears
  | succ budget ih =>
    rw [run_step]
    exact ih hears.step

end

/-- An unreadable update concerns nobody. -/
theorem step_handle_unreadable {frame : Incoming} (kind : frame.kind = .update)
    (unread : Push.read.ofString? frame.content = none) (desk : Desk H W)
    (stack : List (Frame H)) :
    step behave { control := .perform (.handle frame), stack, desk } = give done desk stack := by
  have received : desk.receive frame = (.settled (.ok ()), desk) := by
    simp only [Desk.receive, kind, Update.ofFrame?, unread, Option.map_none]
  exact step_handle received

theorem step_handle_update {frame : Incoming} (kind : frame.kind = .update)
    (brought : Update.ofFrame? frame = some update) (desk : Desk H W) (stack : List (Frame H)) :
    step behave { control := .perform (.handle frame), stack, desk } =
      distribute update desk (.succeed :: stack) := by
  have received : desk.receive frame = (.distribute update, desk) := by
    simp only [Desk.receive, kind, brought]
  exact step_handle received

end Machine

section
variable {H W : Type}

/-- The frame brings this update to those who are subscribed now, whatever they do and whatever work
is below. -/
structure Desk.Spreads (behave : Behaviour H W) (desk : Desk H W) (frame : Incoming)
    (update : Update) (stack : List (Frame H)) : Prop where
  /-- From the first step on it is calling them, in their order and once each, or has called all. -/
  calls (budget : Nat) : Hears behave update (desk.subscribers.ofKind update.kind) desk
    (desk.subscribers.ofKind update.kind).length (.succeed :: stack)
    (run behave (budget + 1) { control := .perform (.handle frame), stack, desk })
  /-- It ends when all have heard, and whatever they did, the work below is told of success. -/
  ends (answer : Answer) (last : Desk H W) :
    Comes behave { control := .perform (.handle frame), stack, desk } answer last ↔
      ∃ middle, Informed behave update (desk.subscribers.ofKind update.kind) desk middle ∧
        Comes behave (give done middle stack) answer last

theorem Desk.spreads {frame : Incoming} (kind : frame.kind = .update) {update : Update}
    (brought : Update.ofFrame? frame = some update) (behave : Behaviour H W) (desk : Desk H W)
    (stack : List (Frame H)) : desk.Spreads behave frame update stack where
  calls budget := by
    rw [run_step, step_handle_update kind brought]
    exact Hears.run (.between _ (List.nil_append _).symm (.nobody desk)) budget
  ends answer last := by
    rw [← comes_step_iff, step_handle_update kind brought]
    have split : distribute update desk (.succeed :: stack) =
        (distribute update desk []).above (.succeed :: stack) := rfl
    have succeeds (given : Answer) (middle : Desk H W) :
        Comes behave (give given middle (.succeed :: stack)) answer last ↔
          Comes behave (give done middle stack) answer last := comes_step_iff.symm
    rw [split, comes_above_iff]
    simp only [comes_distribute_iff, succeeds]
    constructor
    · rintro ⟨given, middle, ⟨-, informed⟩, further⟩
      exact ⟨middle, informed, further⟩
    · rintro ⟨middle, informed, further⟩
      exact ⟨_, middle, ⟨rfl, informed⟩, further⟩

/-- With nothing below, success is the answer. -/
theorem Desk.Spreads.performs_iff {behave : Behaviour H W} {desk last : Desk H W}
    {frame : Incoming} {update : Update} (spreads : desk.Spreads behave frame update [])
    {answer : Answer} :
    (∃ budget, desk.perform behave budget (.handle frame) = (some answer, last)) ↔
      answer = done ∧ Informed behave update (desk.subscribers.ofKind update.kind) desk last := by
  rw [performs_iff_comes, spreads.ends]
  simp only [comes_give_iff]
  constructor
  · rintro ⟨middle, informed, rfl, rfl⟩
    exact ⟨rfl, informed⟩
  · rintro ⟨rfl, informed⟩
    exact ⟨last, informed, rfl, rfl⟩

/-- Updates and who hears of them, whatever the desk and whatever its handlers do. A frame whose
content cannot be read calls nobody and changes nothing. From the first step on, any other calls
those who were subscribed to its kind at the start, in the order of their subscriptions and once
each, with what the frame says, above whatever other work and however the subscribers let other
actions be performed meanwhile; whether or not one of them goes on forever, nobody else is called
for it. If they come to an end, the frame is handled with success. What none of those that were
called so far changes has not changed; subscribers that only see to their own state leave nothing
else behind but the entries of their calls. -/
theorem update_spreads (behave : Behaviour H W) (desk : Desk H W) {frame : Incoming}
    (kind : frame.kind = .update) :
    (Push.read.ofString? frame.content = none → ∀ budget stack,
      step behave { control := .perform (.handle frame), stack, desk } = give done desk stack ∧
      desk.perform behave (budget + 1) (.handle frame) = (some done, desk)) ∧
    ∀ push, Push.read.ofString? frame.content = some push →
      let update : Update :=
        { kind := push.kind, code := frame.code, message := push.message, data := push.data }
      let subscribers := desk.subscribers.ofKind push.kind
      (∀ stack, desk.Spreads behave frame update stack) ∧
      (∀ answer last,
        (∃ budget, desk.perform behave budget (.handle frame) = (some answer, last)) ↔
          answer = .done (.ok ()) ∧ Informed behave update subscribers desk last) ∧
      ((∀ h ∈ subscribers, ∀ before, ∃ answer after,
          Comes behave (enter behave h (.update update) before []) answer after) →
        ∃ last enough, ∀ budget, enough ≤ budget →
          desk.perform behave budget (.handle frame) = (some (.done (.ok ())), last)) ∧
      (∀ {α : Type} (view : Desk H W → α) called middle,
        (∀ h ∈ called, ∀ before answer after,
          Comes behave (enter behave h (.update update) before []) answer after →
            view after = view before) →
        Informed behave update called desk middle → view middle = view desk) ∧
      ((∀ h ∈ subscribers, ∀ page, (behave h (.update update) page).2 = .finish) →
        ∃ page enough, ∀ budget, enough ≤ budget →
          desk.perform behave budget (.handle frame) = (some (.done (.ok ())),
            { desk with
              page
              log := (subscribers.map fun h => .invoked h (.update update)).reverse ++
                desk.log })) := by
  refine ⟨fun unread budget stack => ⟨step_handle_unreadable kind unread desk stack, ?unread⟩,
    fun push read => ?readable⟩
  case unread =>
    rw [Desk.perform, run_step, step_handle_unreadable kind unread, run_of_result rfl]
    rfl
  case readable =>
    intro update subscribers
    have brought : Update.ofFrame? frame = some update := by
      rw [Update.ofFrame?, read]
      rfl
    have spreads := Desk.spreads kind brought behave desk
    -- Once all have heard, every longer run has come to the same end.
    have settles {last : Desk H W} (informed : Informed behave update subscribers desk last) :
        ∃ enough, ∀ budget, enough ≤ budget →
          desk.perform behave budget (.handle frame) = (some (.done (.ok ())), last) := by
      have performed := (spreads []).performs_iff.mpr ⟨rfl, informed⟩
      obtain ⟨enough, ended⟩ := (performs_iff_comes.mp performed).stays
      refine ⟨enough, fun budget longer => ?_⟩
      rw [Desk.perform, ended budget longer]
      rfl
    refine ⟨spreads, fun answer last => (spreads []).performs_iff, fun ends => ?ends,
      fun view called middle each informed => informed.keeps view each, fun quiet => ?quiet⟩
    case ends =>
      obtain ⟨last, informed⟩ := exists_informed desk ends
      exact ⟨last, settles informed⟩
    case quiet => exact ⟨_, settles (informed_of_quiet quiet desk)⟩

end

/-- The first subscriber subscribes a third one and lets the update be distributed once more. -/
def passingOn : Behaviour Nat Unit
  | 0, .update update, page =>
    (page, if update.code = 200 then
      .act (.subscribe update.kind 2) fun _ =>
        .act (.dispatch { update with code := 201 }) fun _ => .finish
      else .finish)
  | _, _, page => (page, .finish)

def subscribed : Desk Nat Unit where
  link := { credentials := default }
  subscribers := { statusChange := [0, 1] }
  page := ()

def statusFrame : Incoming :=
  { kind := .update, code := 200, content := "[\"status_change\",\"up\"]" }

/-- The third one hears of the inner update only, and the second one of both. -/
theorem update_spreads_passed_on :
    statusFrame.kind = .update ∧ ∃ last,
      Informed passingOn { kind := .statusChange, code := 200, message := "up" } [0, 1] subscribed
        last ∧
      last.subscribers.statusChange = [0, 1, 2] ∧
      last.events.filterMap (fun
        | .invoked h (.update update) => some (h, update.code)
        | _ => none) = [(0, 200), (0, 201), (1, 201), (2, 201), (1, 200)] := by
  have kind : statusFrame.kind = .update := rfl
  have reads : ((Push.read.ofString? statusFrame.content).map fun push =>
      (push.kind, push.message, push.data.isNone)) = some (.statusChange, "up", true) := by
    decide +kernel
  obtain ⟨push, read, same⟩ := Option.map_eq_some_iff.mp reads
  simp only [Prod.mk.injEq, Option.isNone_iff_eq_none] at same
  obtain ⟨known, message, data⟩ := same
  have answered : (subscribed.perform passingOn 30 (.handle statusFrame)).1.isSome = true := by
    decide +kernel
  obtain ⟨answer, result⟩ := Option.isSome_iff_exists.mp answered
  obtain ⟨-, answers, -⟩ := (update_spreads passingOn subscribed kind).2 push read
  obtain ⟨-, informed⟩ := (answers answer _).mp ⟨30, Prod.ext result rfl⟩
  rw [known, message, data] at informed
  exact ⟨kind, _, informed, by decide +kernel, by decide +kernel⟩

end PageSession.Exchange
