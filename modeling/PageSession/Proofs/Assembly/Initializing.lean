import PageSession.Proofs.Assembly.Nodes

/-!
Initializers at work. While the initializer of a path runs, it may compose further paths, and so may
theirs, to any depth; what they compose and what fails must not take the path away. It does not,
since a path is refused that reaches one whose initializer runs, so nothing that is attached or
detached on top of the stack concerns what is below.
-/
namespace PageSession.Assembly
open Page

namespace Composing
variable {M S : Type}

/-- The objects whose initializer has not ended, with their paths, the innermost first. -/
def running (c : Composing M S) : List (NodePath × Object M) :=
  let waiting := c.stack.map fun w => (w.path, w.object)
  match c.control with
  | .run path object _ => (path, object) :: waiting
  | _ => waiting

theorem composing_eq (c : Composing M S) : c.composing = c.running.map Prod.fst := by
  unfold composing running
  cases c.control <;> simp [Function.comp_def]

/-- A path is busy when it reaches one of those that are being composed. -/
theorem isBusy_iff (busy : List NodePath) (path : NodePath) :
    Workshop.isBusy busy path = true ↔ ∃ other ∈ busy, path.reaches other := by
  simp [Workshop.isBusy, NodePath.reaches, List.any_eq_true]

end Composing

/-- Objects are made one after the other, each under a number of its own, and no object is at two
places of the tree. -/
structure Workshop.Counts {M S : Type} (workshop : Workshop M S) : Prop where
  made : ∀ path object, workshop.tree.get? path = some object → object.serial < workshop.made
  unique : ∀ path other object twin, workshop.tree.get? path = some object →
    workshop.tree.get? other = some twin → object.serial = twin.serial → path = other

namespace Workshop
variable {M S : Type} {workshop after : Workshop M S} {path : NodePath}

theorem Counts.of_fewer (counts : workshop.Counts) (made : workshop.made ≤ after.made)
    (fewer : ∀ path object, after.tree.get? path = some object →
      workshop.tree.get? path = some object) : after.Counts where
  made path object found :=
    Nat.lt_of_lt_of_le (counts.made path object (fewer path object found)) made
  unique path other object twin found there :=
    counts.unique path other object twin (fewer path object found) (fewer other twin there)

/-- A node that is made vacant takes objects away at most. -/
theorem Counts.vacate (counts : workshop.Counts) {tree : Tree (Object M)}
    (attached : workshop.tree.attach path none = .ok tree) :
    Counts { workshop with tree } := by
  refine counts.of_fewer (Nat.le_refl _) fun other object found => ?_
  dsimp only at found
  rw [Tree.get?_attach attached] at found
  split at found
  · cases found
  · split at found
    · cases found
    · exact found

theorem Counts.detach (counts : workshop.Counts) :
    Counts { workshop with tree := workshop.tree.detach path } := by
  refine counts.of_fewer (Nat.le_refl _) fun other object found => ?_
  dsimp only at found
  rw [Tree.get?_detach] at found
  split at found
  · cases found
  · exact found

/-- The next object has a number that none has. -/
theorem Counts.attach (counts : workshop.Counts) {tree : Tree (Object M)} {body : M} (services : S)
    (attached : workshop.tree.attach path (some { serial := workshop.made, body }) = .ok tree) :
    Counts { workshop with made := workshop.made + 1, services, tree } := by
  -- what is found is the new object at its path, or has been there with a smaller number
  have cases : ∀ other object, tree.get? other = some object →
      (other = path ∧ object.serial = workshop.made) ∨
        (workshop.tree.get? other = some object ∧ object.serial < workshop.made) := by
    intro other object found
    rw [Tree.get?_attach attached] at found
    split at found
    · rename_i same
      cases found
      exact .inl ⟨same, rfl⟩
    · split at found
      · cases found
      · exact .inr ⟨found, counts.made other object found⟩
  constructor
  · intro other object found
    show object.serial < workshop.made + 1
    rcases cases other object found with ⟨-, number⟩ | ⟨-, number⟩ <;> omega
  · intro here there object twin found also same
    rcases cases here object found with ⟨new, number⟩ | ⟨old, number⟩
    · rcases cases there twin also with ⟨other, -⟩ | ⟨-, smaller⟩
      · exact new.trans other.symm
      · omega
    · rcases cases there twin also with ⟨-, larger⟩ | ⟨earlier, -⟩
      · omega
      · exact counts.unique here there object twin old earlier same

end Workshop

namespace Composing
variable {M S : Type}

/-- Every object whose initializer runs is at its path, and no path on the stack reaches one that
waits for it. -/
structure Holds (c : Composing M S) : Prop where
  attached : ∀ running ∈ c.running, c.workshop.tree.get? running.1 = some running.2
  apart : c.running.Pairwise fun inner outer => ¬inner.1.reaches outer.1
  counts : c.workshop.Counts

/-- Initializers keep running on a tree that has the same objects at their paths. -/
theorem Holds.of_running {c after : Composing M S} (holds : c.Holds)
    (fewer : after.running.Sublist c.running) (counts : after.workshop.Counts)
    (kept : ∀ running ∈ after.running,
      after.workshop.tree.get? running.1 = c.workshop.tree.get? running.1) : after.Holds where
  attached running listed := (kept running listed).trans (holds.attached running (fewer.mem listed))
  apart := holds.apart.sublist fewer
  counts := counts

variable {behave : Behaviour M S} {workshop : Workshop M S} {stack : List (Waiting M S)}
  {path : NodePath}

def waiting (stack : List (Waiting M S)) : List (NodePath × Object M) :=
  stack.map fun w => (w.path, w.object)

theorem not_reaches_of_free (free : Workshop.isBusy (stack.map Waiting.path) path = false) :
    ∀ running ∈ waiting stack, ¬path.reaches running.1 := by
  intro running listed reached
  obtain ⟨w, member, rfl⟩ := List.mem_map.mp listed
  have busy := (isBusy_iff (stack.map Waiting.path) path).mpr
    ⟨w.path, List.mem_map_of_mem member, reached⟩
  cases free.symm.trans busy

/-- What is attached at a path that is not busy concerns nobody who waits. -/
theorem get?_attach_waiting {tree after : Tree (Object M)} {object : Option (Object M)}
    (free : Workshop.isBusy (stack.map Waiting.path) path = false)
    (attached : tree.attach path object = .ok after) :
    ∀ running ∈ waiting stack, after.get? running.1 = tree.get? running.1 := by
  intro running listed
  have out := not_reaches_of_free free running listed
  rw [Tree.get?_attach attached, if_neg fun same => out (.inl same), if_neg out]

theorem build_holds {m : Module M} (holds : Holds { control := .compose path, stack, workshop })
    (free : Workshop.isBusy (stack.map Waiting.path) path = false) :
    (build behave path m workshop stack).Holds := by
  unfold build Workshop.construct Workshop.attach
  dsimp only
  cases attached : workshop.tree.attach path (some { serial := workshop.made, body := m.body }) with
  | error failure =>
    exact holds.of_running (.refl _) (holds.counts.of_fewer (Nat.le_succ _) fun _ _ found => found)
      fun _ _ => rfl
  | ok tree =>
    have counts := holds.counts.attach
      (behave.construct { serial := workshop.made, body := m.body } workshop.services) attached
    have kept := get?_attach_waiting free attached
    simp only [Except.map]
    split
    · exact holds.of_running (.refl _) counts kept
    · refine ⟨?_, ?_, counts⟩
      · intro running listed
        rcases List.mem_cons.mp listed with rfl | older
        · exact (Tree.get?_attach attached path).trans (if_pos rfl)
        · exact (kept running older).trans (holds.attached running older)
      · exact List.pairwise_cons.mpr ⟨not_reaches_of_free free, holds.apart⟩

theorem compose_holds (holds : Holds { control := .compose path, stack, workshop }) :
    (compose behave path workshop stack).Holds := by
  have refused (failure : Failure) : (give (.error failure) workshop stack).Holds :=
    holds.of_running (.refl _) holds.counts fun _ _ => rfl
  unfold compose
  split
  · exact refused _
  · rename_i free
    rw [Bool.not_eq_true] at free
    split
    · exact refused _
    · split
      · exact refused _
      · split
        · exact build_holds holds free
        · unfold Workshop.attach
          cases attached : workshop.tree.attach path none with
          | error failure => exact refused _
          | ok tree =>
            exact holds.of_running (.refl _) (holds.counts.vacate attached)
              (get?_attach_waiting free attached)

/-- Registering a module is no matter of the tree. -/
theorem register_workshop (workshop : Workshop M S) (m : Module M) :
    ∃ roster, (workshop.register m).2 = { workshop with roster } := by
  unfold Workshop.register
  split
  · exact ⟨_, rfl⟩
  · exact ⟨workshop.roster, rfl⟩

/-- A path whose initializer fails reaches none that waits for it. -/
theorem fail_holds {object : Object M} {program : Initializer M S}
    (holds : Holds { control := .run path object program, stack, workshop })
    (result : Except Failure Outcome) :
    (give result { workshop with tree := workshop.tree.detach path } stack).Holds := by
  have outer := (List.pairwise_cons.mp holds.apart).1
  refine holds.of_running (List.sublist_cons_self _ _) holds.counts.detach fun running listed => ?_
  exact (Tree.get?_detach workshop.tree path running.1).trans (if_neg (outer running listed))

theorem advance_holds {object : Object M} {program : Initializer M S}
    (holds : Holds { control := .run path object program, stack, workshop }) :
    (advance path object program workshop stack).Holds := by
  cases program with
  | finish => exact holds.of_running (List.sublist_cons_self _ _) holds.counts fun _ _ => rfl
  | fail cause => exact fail_holds holds _
  | compose inner next => exact holds.of_running (.refl _) holds.counts fun _ _ => rfl
  | register m next =>
    obtain ⟨roster, registered⟩ := register_workshop workshop m
    show Holds { control := .run path object _, stack, workshop := (workshop.register m).2 }
    rw [registered]
    exact holds.of_running (.refl _)
      (holds.counts.of_fewer (Nat.le_refl _) fun _ _ found => found) fun _ _ => rfl
  | look next => exact holds.of_running (.refl _) holds.counts fun _ _ => rfl
  | use effect next =>
    exact holds.of_running (.refl _)
      (holds.counts.of_fewer (Nat.le_refl _) fun _ _ found => found) fun _ _ => rfl

/-- Whatever a composition does next, initializers stay on their objects. -/
theorem step_holds {c : Composing M S} (holds : c.Holds) : (c.step behave).Holds := by
  obtain ⟨control, stack, workshop⟩ := c
  cases control with
  | compose path => exact compose_holds holds
  | run path object program => exact advance_holds holds
  | answer result =>
    cases stack with
    | nil => exact holds
    | cons w stack => exact holds.of_running (.refl _) holds.counts fun _ _ => rfl

end Composing

/-- What a workshop comes to from an empty tree on: paths are composed one after the other, step by
step, and at any time somebody else may register a module. -/
inductive Construction {M S : Type} (behave : Behaviour M S) : Composing M S → Prop
  | start (roster : Roster M) (page : Context) (services : S) (path : NodePath) :
      Construction behave { control := .compose path, workshop := { roster, page, services } }
  | step {c : Composing M S} (before : Construction behave c) : Construction behave (c.step behave)
  | again {c : Composing M S} (before : Construction behave c) (answered : c.result?.isSome = true)
      (path : NodePath) : Construction behave { control := .compose path, workshop := c.workshop }
  | register {c : Composing M S} (before : Construction behave c) (m : Module M) :
      Construction behave { c with workshop := (c.workshop.register m).2 }

section
variable {M S : Type} {behave : Behaviour M S} {c : Composing M S}

theorem Construction.run (before : Construction behave c) (budget : Nat) :
    Construction behave (c.run behave budget) := by
  induction budget generalizing c with
  | zero => exact before
  | succ budget ih =>
    unfold Composing.run
    split
    · exact before
    · exact ih before.step

theorem Construction.holds (construction : Construction behave c) : c.Holds := by
  induction construction with
  | start roster page services path =>
    have nothing (path : NodePath) : ({} : Tree (Object M)).get? path = none := rfl
    refine ⟨fun _ listed => (by cases listed), .nil, ?_, ?_⟩
    · intro path object found
      cases (nothing path).symm.trans found
    · intro path other object twin found
      cases (nothing path).symm.trans found
  | step before ih => exact Composing.step_holds ih
  | again before answered path ih =>
    exact ih.of_running (List.nil_sublist _) ih.counts fun _ _ => rfl
  | @register c before m ih =>
    obtain ⟨roster, registered⟩ := Composing.register_workshop c.workshop m
    rw [registered]
    exact ih.of_running (.refl _) (ih.counts.of_fewer (Nat.le_refl _) fun _ _ found => found)
      fun _ _ => rfl

/-- Whatever initializers compose, and however that ends, every object whose initializer has not
ended is at its path, and that object is nowhere else. The paths that are being composed are all
different, and all of them are in the tree. -/
theorem initializing_stays_attached (construction : Construction behave c) :
    (∀ path object, (path, object) ∈ c.running →
      c.workshop.tree.get? path = some object ∧
        ∀ other twin, c.workshop.tree.get? other = some twin → twin.serial = object.serial →
          other = path) ∧
      c.composing.Nodup ∧ ∀ path ∈ c.composing, c.workshop.tree.contains path = true := by
  have holds := construction.holds
  rw [Composing.composing_eq]
  refine ⟨fun path object listed => ?_, ?_, ?_⟩
  · have found := holds.attached (path, object) listed
    exact ⟨found, fun other twin there same => holds.counts.unique _ _ _ _ there found same⟩
  · rw [List.Nodup, List.pairwise_map]
    exact holds.apart.imp fun apart same => apart (.inl same.symm)
  · intro path listed
    obtain ⟨running, member, rfl⟩ := List.mem_map.mp listed
    exact Tree.contains_of_get? (holds.attached running member)

end

/-- The initializer of an area composes its key, and that of the key composes the area again and
fails when this is refused. -/
def nesting : Behaviour String Unit where
  construct _ services := services
  initializer object :=
    if object.body = "area" then
      some (.compose { area := "a", key := some "b" } fun _ => .finish)
    else
      some (.compose { area := "a" } fun result => match result with
        | .ok _ => .finish
        | .error failure => .fail (.page failure))

def nest : Composing String Unit where
  control := .compose { area := "a" }
  workshop :=
    { roster.modules := (Table.insert {} "a" { name := "a", body := "area" }).insert "a.b"
        { name := "a.b", body := "key" }
      services := () }

def Composing.serialAt? {M S : Type} (c : Composing M S) (path : NodePath) : Option Nat :=
  (c.workshop.tree.get? path).map Object.serial

/-- The key asks for its area and fails; until then both are in the tree, and then the area is. -/
theorem initializing_stays_attached_nested :
    (nest.run nesting 4).composing =
        [{ area := "a", key := some "b" }, { area := "a" }] ∧
      (∀ path object, (path, object) ∈ (nest.run nesting 4).running →
        (nest.run nesting 4).workshop.tree.get? path = some object) ∧
      (nest.run nesting 7).composing = [{ area := "a" }] ∧
      (nest.run nesting 7).serialAt? { area := "a" } = some 0 ∧
      (nest.run nesting 7).serialAt? { area := "a", key := some "b" } = none := by
  have construction : Construction nesting (nest.run nesting 4) :=
    (Construction.start nest.workshop.roster {} () { area := "a" }).run 4
  obtain ⟨attached, -⟩ := initializing_stays_attached construction
  exact ⟨by decide +kernel, fun path object listed => (attached path object listed).1,
    by decide +kernel, by decide +kernel, by decide +kernel⟩

end PageSession.Assembly
