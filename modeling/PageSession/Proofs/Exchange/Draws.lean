import PageSession.Proofs.Exchange.Submissions
import PageSession.Proofs.Exchange.Verdicts

/-!
The ids that a generator draws. It draws one after the other until one is free of callbacks, with no
bound of its own; it comes to an end because there are fewer callbacks than ids, and no more are
drawn than there are callbacks to pass over, and one. The counter must be able to move on behind
each of them, so that nothing is made where the first free id is that of its last number. Over a
whole run the ids come in the order of the counter, and none is made twice.
-/
namespace PageSession.Exchange

namespace CallbackIds

/-! ## One id -/

/-- Ids are drawn until one is free: these, of which the last is free, up to this generator. -/
inductive Draws (taken : String → Bool) : CallbackIds → List String → CallbackIds → Prop
  | free {ids later : CallbackIds} {id : String} (drawn : ids.draw = (some id, later))
      (free : taken id = false) : Draws taken ids [id] later
  | passed {ids later last : CallbackIds} {id : String} {others : List String}
      (drawn : ids.draw = (some id, later)) (passed : taken id = true)
      (further : Draws taken later others last) : Draws taken ids (id :: others) last

/-- The ids that are drawn for one that is not taken, looking at no more than so many further
ones. -/
def drawnFree (taken : String → Bool) (ids : CallbackIds) : Nat → List String
  | 0 => ids.draw.1.toList
  | further + 1 =>
    match ids.draw with
    | (some id, later) => id :: if taken id then drawnFree taken later further else []
    | (none, _) => []

section
variable {taken : String → Bool}

/-- There is only one way to draw until an id is free. -/
theorem Draws.unique {ids last last' : CallbackIds} {drawn drawn' : List String}
    (first : Draws taken ids drawn last) (second : Draws taken ids drawn' last') :
    drawn = drawn' ∧ last = last' := by
  induction first generalizing drawn' with
  | free drawn free =>
    cases second with
    | free again =>
      cases drawn.symm.trans again
      exact ⟨rfl, rfl⟩
    | passed again passed =>
      cases drawn.symm.trans again
      cases free.symm.trans passed
  | passed drawn passed further ih =>
    cases second with
    | free again free =>
      cases drawn.symm.trans again
      cases free.symm.trans passed
    | passed again _ onward =>
      cases drawn.symm.trans again
      obtain ⟨same, equal⟩ := ih onward
      exact ⟨congrArg _ same, equal⟩

/-- Where ids can be drawn until one is free, the counter lasts for the first that is free. -/
theorem Draws.lasts {ids last : CallbackIds} {drawn : List String}
    (draws : Draws taken ids drawn last) :
    ∃ k, ids.Lasts k ∧ (∀ j, j < k → taken (ids.after j) = true) ∧
      taken (ids.after k) = false := by
  induction draws with
  | @free ids later id drawn free =>
    obtain ⟨lasts, same⟩ := lasts_of_draw drawn
    cases same
    exact ⟨0, lasts, fun _ impossible => absurd impossible (Nat.not_lt_zero _), free⟩
  | @passed ids later last id others drawn passed _ ih =>
    obtain ⟨-, same⟩ := lasts_of_draw drawn
    cases same
    obtain ⟨k, more, skipped, free⟩ := ih
    refine ⟨k + 1, ?_, fun j earlier => ?_, ?_⟩
    · unfold Lasts at more ⊢
      dsimp only at more
      omega
    · cases j with
      | zero => exact passed
      | succ j => exact after_succ ids j ▸ skipped j (Nat.lt_of_succ_lt_succ earlier)
    · exact after_succ ids k ▸ free

/-- Where the search has come to an id that is free, nothing has cut it off. -/
theorem draws_drawnFree {ids last : CallbackIds} {further : Nat} {id : String}
    (made : drawFree taken ids further = (some id, last)) (free : taken id = false) :
    Draws taken ids (drawnFree taken ids further) last := by
  induction further generalizing ids with
  | zero =>
    rw [drawFree] at made
    rw [drawnFree, made]
    exact .free made free
  | succ further ih =>
    by_cases lasts : ids.Lasts 0
    · have drawn := draw_of_lasts lasts
      rw [drawFree, drawn] at made
      rw [drawnFree, drawn]
      dsimp only at made ⊢
      split at made
      · rename_i passed
        rw [if_pos passed]
        exact .passed drawn passed (ih made)
      · rename_i unpassed
        cases made
        rw [if_neg unpassed]
        exact .free drawn free
    · rw [drawFree, draw_of_not_lasts lasts] at made
      cases made

variable (taken)

theorem drawnFree_length (ids : CallbackIds) (further : Nat) :
    (drawnFree taken ids further).length ≤ further + 1 := by
  induction further generalizing ids with
  | zero =>
    rw [drawnFree]
    cases ids.draw.1 with
    | none => exact Nat.zero_le 1
    | some id => exact Nat.le_refl 1
  | succ further ih =>
    rw [drawnFree]
    split
    · rename_i id later drawn
      rw [List.length_cons]
      split
      · have bound := ih later
        omega
      · exact Nat.le_add_left 1 _
    · exact Nat.zero_le _

/-- The counter moves on with each of them. -/
theorem drawFree_next (ids : CallbackIds) (further : Nat) :
    (drawFree taken ids further).2.next = ids.next + (drawnFree taken ids further).length := by
  induction further generalizing ids with
  | zero =>
    rw [drawFree, drawnFree, draw]
    split <;> rfl
  | succ further ih =>
    rw [drawFree, drawnFree]
    by_cases lasts : ids.Lasts 0
    · rw [draw_of_lasts lasts]
      dsimp only
      split
      · rw [ih, List.length_cons]
        exact Nat.add_right_comm ids.next 1 _
      · rfl
    · rw [draw_of_not_lasts lasts]
      rfl

/-- Ids are drawn in the order of the counter. -/
theorem take?_drawnFree (ids : CallbackIds) (further : Nat) :
    ids.take? (drawnFree taken ids further).length = some (drawnFree taken ids further) := by
  induction further generalizing ids with
  | zero =>
    rw [drawnFree]
    cases drawn : ids.draw with
    | mk id later =>
      cases id with
      | none => rfl
      | some id =>
        show ids.take? 1 = some [id]
        rw [take?, drawn]
        rfl
  | succ further ih =>
    rw [drawnFree]
    split
    · rename_i id later drawn
      rw [List.length_cons, take?, drawn]
      dsimp only
      split
      · rw [ih]
        rfl
      · rfl
    · rfl

/-- What is made is the last of them. -/
theorem mem_drawnFree {ids : CallbackIds} {further : Nat} {id : String}
    (made : (drawFree taken ids further).1 = some id) : id ∈ drawnFree taken ids further := by
  induction further generalizing ids with
  | zero =>
    rw [drawFree] at made
    rw [drawnFree, made]
    exact List.mem_singleton_self id
  | succ further ih =>
    by_cases lasts : ids.Lasts 0
    · rw [drawFree, draw_of_lasts lasts] at made
      rw [drawnFree, draw_of_lasts lasts]
      dsimp only at made ⊢
      split at made
      · rename_i passed
        rw [if_pos passed]
        exact List.mem_cons_of_mem _ (ih made)
      · cases made
        exact List.mem_cons_self ..
    · rw [drawFree, draw_of_not_lasts lasts] at made
      cases made

end

/-! ## So many ids -/

theorem take?_add {ids : CallbackIds} {first more : Nat} {earlier later : List String}
    (begun : ids.take? first = some earlier)
    (continued : ({ next := ids.next + first } : CallbackIds).take? more = some later) :
    ids.take? (first + more) = some (earlier ++ later) := by
  induction first generalizing ids earlier with
  | zero =>
    cases begun
    rw [Nat.zero_add]
    exact continued
  | succ first ih =>
    rw [take?] at begun
    split at begun
    · rename_i id next drawn
      obtain ⟨-, same⟩ := lasts_of_draw drawn
      cases same
      obtain ⟨others, rest, rfl⟩ := Option.map_eq_some_iff.mp begun
      rw [← Nat.add_assoc, Nat.add_right_comm] at continued
      rw [Nat.add_right_comm, take?, drawn]
      dsimp only
      rw [ih rest continued]
      rfl
    · cases begun

theorem eq_of_take? {ids : CallbackIds} {count : Nat} {made : List String}
    (taken : ids.take? count = some made) : made = (List.range count).map ids.after := by
  induction count generalizing ids made with
  | zero =>
    cases taken
    rfl
  | succ count ih =>
    rw [take?] at taken
    split at taken
    · rename_i id next drawn
      obtain ⟨-, same⟩ := lasts_of_draw drawn
      cases same
      obtain ⟨others, rest, rfl⟩ := Option.map_eq_some_iff.mp taken
      rw [ih rest, List.range_succ_eq_map, List.map_cons, List.map_map]
      exact congrArg (_ :: ·) (List.map_congr_left fun j _ => after_succ ids j)
    · cases taken

/-- No id comes twice. -/
theorem nodup_of_take? {ids : CallbackIds} {count : Nat} {made : List String}
    (taken : ids.take? count = some made) : made.Nodup := by
  rw [eq_of_take? taken]
  exact List.Nodup.map_on (fun j _ k _ same => after_injective same) List.nodup_range

end CallbackIds

open CallbackIds

namespace Desk
variable {H W : Type}

/-- The ids that are drawn to make one for a handler. -/
def drawn (desk : Desk H W) : List String :=
  desk.ids.drawnFree desk.callbacks.contains desk.callbacks.size

/-- Where the counter lasts, an id is made by drawing as many as it takes, and all from the counter
up to that id. -/
theorem draws_iff {desk : Desk H W} {k : Nat} (next : desk.IsNextId k) (lasts : desk.ids.Lasts k) :
    desk.ids.take? (k + 1) = some desk.drawn ∧
      ∀ drawn last, Draws desk.callbacks.contains desk.ids drawn last ↔
        drawn = desk.drawn ∧ last = desk.freshId.2.ids := by
  rcases freshId_spec next with ⟨-, made⟩ | ⟨ends, -⟩
  · have counted := drawFree_next desk.callbacks.contains desk.ids desk.callbacks.size
    have found : desk.ids.drawFree desk.callbacks.contains desk.callbacks.size =
        (some (desk.ids.after k), desk.freshId.2.ids) :=
      Prod.ext (show desk.freshId.1 = _ by rw [made]) rfl
    have draws := draws_drawnFree found next.free
    have length : desk.drawn.length = k + 1 := by
      rw [found, made] at counted
      exact (Nat.add_left_cancel counted).symm
    refine ⟨?_, fun drawn last => ⟨fun others => others.unique draws, ?_⟩⟩
    · rw [← length]
      exact take?_drawnFree desk.callbacks.contains desk.ids desk.callbacks.size
    · rintro ⟨rfl, rfl⟩
      exact draws
  · exact absurd lasts ends

/-- Where it does not last, an id cannot be drawn. -/
theorem not_draws {desk : Desk H W} {k : Nat} (next : desk.IsNextId k) (ends : ¬desk.ids.Lasts k)
    (drawn : List String) (last : CallbackIds) :
    ¬Draws desk.callbacks.contains desk.ids drawn last := by
  intro draws
  obtain ⟨j, lasts, passed, free⟩ := draws.lasts
  obtain rfl : j = k := IsNextId.unique ⟨passed, free⟩ next
  exact ends lasts

end Desk

/-! ## All ids -/

section
variable {H W : Type}

def Stage.submits? (stage : Stage H W) : ConcurrentMove H → Option (Submission H)
  | .submit s => some s
  | .move .work =>
    match stage.machine.control with
    | .perform (.submit s) => some s
    | _ => none
  | _ => none

/-- The submission has a handler of its own, so that an id is made for it. -/
def Submission.isInline (s : Submission H) : Bool :=
  match s.target with
  | .inline _ => true
  | .named _ => false

def Stage.makesId (stage : Stage H W) (move : ConcurrentMove H) : Bool :=
  (stage.submits? move).any Submission.isInline

/-- The ids that have been drawn. -/
def drawnIn : ConcurrentPast H W → List String :=
  collected fun stage move => if stage.makesId move then stage.desk.drawn else []

/-- The ids that have been made. -/
def madeIn : ConcurrentPast H W → List String :=
  collected fun stage move => if stage.makesId move then stage.desk.freshId.1.toList else []

theorem Desk.addressed_ids (desk : Desk H W) (s : Submission H) :
    (desk.addressed s).2.ids = if s.isInline then desk.freshId.2.ids else desk.ids := by
  unfold Desk.addressed Submission.isInline
  cases s.target <;> rfl

/-- The generator moves on only to make an id. -/
theorem Stage.ids_of_interleave {behave : Behaviour H W} {stage after : Stage H W}
    {move : ConcurrentMove H} (made : stage.interleave behave move = some after) :
    after.desk.ids = if stage.makesId move then stage.desk.freshId.2.ids else stage.desk.ids := by
  cases move with
  | submit s =>
    cases made
    show (stage.desk.submit s).2.enlist.ids = _
    rw [(Desk.sameBooks_enlist _).ids, Desk.submit_ids, Desk.addressed_ids]
    rfl
  | traffic traffic =>
    simp only [Stage.interleave] at made
    split at made
    · cases made
      exact (Desk.sameBooks_enlist _).ids
    · cases made
  | advance ms =>
    cases made
    rfl
  | move move =>
    cases moved_of_next made with
    | exchanged => rfl
    | worked =>
      show (stage.machine.step behave).desk.ids = _
      by_cases submitting : ∃ s, stage.machine.control = .perform (.submit s)
      · obtain ⟨s, control⟩ := submitting
        rw [Machine.step_submit_ids behave control, Desk.addressed_ids, makesId, submits?, control]
        rfl
      · have nothing : stage.submits? (.move .work) = none := by
          simp only [submits?]
          split
          · rename_i s control
            exact absurd ⟨s, control⟩ submitting
          · rfl
        rw [Machine.step_ids behave fun s control => submitting ⟨s, control⟩, makesId, nothing]
        rfl
    | begun _ _ unworked _ begun =>
      have nothing : stage.submits? (.move move) = none := by
        cases move with
        | work => cases unworked
        | _ => rfl
      rw [(begun_of_begin begun).books.ids, makesId, nothing]
      rfl

variable {behave : Behaviour H W} {settings : Settings} {credentials : Credentials} {page : W}
  {past : ConcurrentPast H W} {stage : Stage H W}

/-- All ids that have been drawn are the first ones, in order, and the counter stands behind
them. -/
theorem drawnIn_eq
    (run : ConcurrentRun behave (Stage.opening settings credentials page) past stage) :
    ({} : CallbackIds).take? (drawnIn past).length = some (drawnIn past) ∧
      stage.desk.ids.next = (drawnIn past).length := by
  induction run with
  | start => exact ⟨rfl, rfl⟩
  | @next past stage after move before made ih =>
    obtain ⟨first, counted⟩ := ih
    have ids := Stage.ids_of_interleave made
    have grown : drawnIn ((stage, move) :: past) =
        drawnIn past ++ if stage.makesId move then stage.desk.drawn else [] := rfl
    cases makes : stage.makesId move with
    | false =>
      rw [makes, if_neg (by decide)] at ids grown
      rw [grown, List.append_nil, ids]
      exact ⟨first, counted⟩
    | true =>
      rw [makes, if_pos rfl] at ids grown
      have moved := drawFree_next stage.desk.callbacks.contains stage.desk.ids
        stage.desk.callbacks.size
      have more := take?_drawnFree stage.desk.callbacks.contains stage.desk.ids
        stage.desk.callbacks.size
      have here : stage.desk.ids = { next := ({} : CallbackIds).next + (drawnIn past).length } := by
        rw [Nat.zero_add, ← counted]
      rw [here] at more
      rw [grown, ids, List.length_append]
      refine ⟨take?_add first (here ▸ more), ?_⟩
      rw [← counted]
      exact moved

/-- What has been made is among what has been drawn, in this order. -/
theorem madeIn_sublist (past : ConcurrentPast H W) : (madeIn past).Sublist (drawnIn past) := by
  induction past with
  | nil => exact .slnil
  | cons moved past ih =>
    obtain ⟨stage, move⟩ := moved
    refine List.Sublist.append ih ?_
    dsimp only
    cases stage.makesId move with
    | false => exact .slnil
    | true =>
      cases made : stage.desk.freshId.1 with
      | none => exact List.nil_sublist _
      | some id => exact List.singleton_sublist.mpr (mem_drawnFree _ made)

end

/-- The making of ids. While the counter and the callbacks together stay below the end of the
counter, there is a first number from the counter on under whose id no callback is registered. If
the counter can move on behind it, drawing until an id is free comes to an end there, and in one way
only; the counter then stands at the number behind it. If it is the last number, nothing is made. No
more are drawn than there are callbacks and one. On every run, whatever is registered and
unregistered in between, the ids are drawn in the order of the counter, and none of them, and none
that is made, comes twice. -/
theorem fresh_ids :
    (∀ {H W : Type} (desk : Desk H W), desk.ids.next + desk.callbacks.size < UInt64.size →
      ∃ m, desk.ids.next ≤ m ∧ m < UInt64.size ∧
        (∀ n, desk.ids.next ≤ n → n < m → desk.callbacks.contains (name n) = true) ∧
        desk.callbacks.contains (name m) = false ∧
        desk.drawn.length ≤ desk.callbacks.size + 1 ∧
        (m + 1 < UInt64.size →
          desk.freshId = (some (name m), { desk with ids := { next := m + 1 } }) ∧
          desk.ids.take? (m + 1 - desk.ids.next) = some desk.drawn ∧
          ∀ drawn last, Draws desk.callbacks.contains desk.ids drawn last ↔
            drawn = desk.drawn ∧ last = desk.freshId.2.ids) ∧
        (m + 1 = UInt64.size →
          desk.freshId.1 = none ∧
          ∀ drawn last, ¬Draws desk.callbacks.contains desk.ids drawn last)) ∧
    ∀ {H W : Type} {behave : Behaviour H W} {settings : Settings} {credentials : Credentials}
      {page : W} {past : ConcurrentPast H W} {stage : Stage H W},
      ConcurrentRun behave (Stage.opening settings credentials page) past stage →
        ({} : CallbackIds).take? (drawnIn past).length = some (drawnIn past) ∧
        (madeIn past).Sublist (drawnIn past) ∧ (drawnIn past).Nodup ∧ (madeIn past).Nodup := by
  refine ⟨fun {H W} desk few => ?one, fun {H W behave settings credentials page past stage}
    run => ?all⟩
  case one =>
    obtain ⟨k, bound, next⟩ := desk.exists_nextId
    have length := drawnFree_length desk.callbacks.contains desk.ids desk.callbacks.size
    refine ⟨desk.ids.next + k, Nat.le_add_right _ _, by omega, ?passed, next.free, length, ?lasts,
      ?ends⟩
    case passed =>
      intro n low below
      obtain ⟨j, rfl⟩ := Nat.exists_eq_add_of_le low
      exact next.passed j (by omega)
    case lasts =>
      intro lasts
      obtain ⟨taken, draws⟩ := Desk.draws_iff next lasts
      rw [Nat.add_assoc, Nat.add_sub_cancel_left]
      rcases Desk.freshId_spec next with ⟨-, made⟩ | ⟨ends, -⟩
      · exact ⟨made, taken, draws⟩
      · exact absurd lasts ends
    case ends =>
      intro ends
      have exhausted : ¬desk.ids.Lasts k := Nat.not_lt.mpr (Nat.le_of_eq ends.symm)
      rcases Desk.freshId_spec next with ⟨lasts, -⟩ | ⟨-, j, -, made⟩
      · exact absurd lasts exhausted
      · exact ⟨congrArg Prod.fst made, Desk.not_draws next exhausted⟩
  case all =>
    obtain ⟨first, -⟩ := drawnIn_eq run
    have among := madeIn_sublist past
    have distinct := nodup_of_take? first
    exact ⟨first, among, distinct, among.nodup distinct⟩

/-- A callback is in the way of the first id, and out of the way of the second. -/
def passingBy : List (ConcurrentMove Unit) :=
  [.move (.lay false), .move .dial, .move (.opened (.ok 0)),
    .move (.act (.register "cb-0" () .durable)), .move .work, .submit ownRequest,
    .move (.act (.unregister "cb-0")), .move .work, .submit ownRequest]

theorem fresh_ids_passing :
    ∃ past stage, ConcurrentRun quiet (Stage.opening {} default ()) past stage ∧
      drawnIn past = ["cb-0", "cb-1", "cb-2"] ∧ madeIn past = ["cb-1", "cb-2"] ∧
      (drawnIn past).Nodup ∧ (madeIn past).Nodup ∧
      stage.desk.ids.next + stage.desk.callbacks.size < UInt64.size ∧
      stage.desk.freshId = (some "cb-3", { stage.desk with ids := { next := 4 } }) := by
  have happens : ((Stage.interleaveAll quiet passingBy ([], .opening {} default ())).map
      fun reached => decide (drawnIn reached.1 = ["cb-0", "cb-1", "cb-2"] ∧
        madeIn reached.1 = ["cb-1", "cb-2"] ∧ reached.2.desk.ids.next = 3 ∧
        reached.2.desk.callbacks.size = 2 ∧
        reached.2.desk.callbacks.contains (name 3) = false)) = some true := by
    decide +kernel
  obtain ⟨⟨past, stage⟩, reached, facts⟩ := Option.map_eq_some_iff.mp happens
  obtain ⟨drawn, made, next, two, third⟩ := of_decide_eq_true facts
  have run : ConcurrentRun quiet (Stage.opening {} default ()) past stage :=
    ConcurrentRun.start.interleaveAll reached
  have few : stage.desk.ids.next + stage.desk.callbacks.size < UInt64.size := by
    rw [next, two]
    decide
  obtain ⟨single, all⟩ := fresh_ids
  obtain ⟨-, -, drawnOnce, madeOnce⟩ := all run
  obtain ⟨m, low, -, passed, -, -, lasts, -⟩ := single stage.desk few
  rw [next] at low
  obtain rfl : m = 3 := by
    by_contra other
    have taken := passed 3 (Nat.le_of_eq next) (by omega)
    rw [third] at taken
    cases taken
  obtain ⟨fresh, -, -⟩ := lasts (by decide)
  exact ⟨past, stage, run, drawn, made, drawnOnce, madeOnce, few, fresh⟩

def lastNumber : Desk Unit Unit where
  link := { credentials := default }
  ids := { next := UInt64.size - 1 }
  page := ()

/-- At the last number nothing is made, though no callback is registered. -/
theorem fresh_ids_run_out :
    lastNumber.ids.next + lastNumber.callbacks.size < UInt64.size ∧
      lastNumber.freshId.1 = none ∧ lastNumber.ids.take? 1 = none := by
  decide +kernel

end PageSession.Exchange
