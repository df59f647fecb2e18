import PageSession.Proofs.Assembly.Compositions

/-!
What is left behind when a composition fails. A path that is refused leaves everything as it was.
A path whose initializer fails is gone again with all that is below it, and everywhere else the tree
is what the compositions have made of it that this initializer has called.
-/
namespace PageSession.Assembly
open Page

namespace Composing
variable {M S : Type} {behave : Behaviour M S} {path : NodePath} {stack : List (Waiting M S)}
  {before : Workshop M S}

/-- A composition fails because its path is refused or because its initializer fails. -/
theorem Ends.failure_cases {failure : Failure} {last : Composing M S}
    (ends : Ends behave path stack before (.error failure) last) :
    (before.Refuses (stack.map Waiting.path) path failure ∧
        last = give (.error failure) before stack) ∨
      ∃ object cause workshop, Initializes behave path stack before object (.fail cause) workshop ∧
        failure = .initializer path.text cause ∧
        last = give (.error failure) { workshop with tree := workshop.tree.detach path } stack := by
  have answer := (answer?_eq_some ends.2).1
  have stands := ends.1.stands
  cases stands with
  | begun | initializing | vacant | plain | finished => cases answer
  | refused refuses =>
    cases answer
    exact .inl ⟨refuses, rfl⟩
  | failed come =>
    cases answer
    exact .inr ⟨_, _, _, come, rfl, rfl⟩
  | inside come during =>
    -- whatever the initializer calls is on top of the initializer itself
    have deep := during.suffix.length_le
    rw [ends.stack_eq, List.length_cons] at deep
    omega

end Composing

section
variable {M S : Type} {behave : Behaviour M S} {path : NodePath} {stack : List (Waiting M S)}
  {before : Workshop M S}

/-- A composition that fails gives back the stack as it was. It leaves the tree as it was, or else
its own initializer has failed: then neither the path nor anything below it is in the tree, and the
rest is as the initializer has left it. -/
theorem failed_composition_leaves {failure : Failure} {last : Composing M S}
    (ends : Composing.Ends behave path stack before (.error failure) last) :
    last.stack = stack ∧ last.composing = stack.map Waiting.path ∧
      ((∀ cause, failure ≠ .initializer path.text cause) → last.workshop.tree = before.tree) ∧
      ∀ cause, failure = .initializer path.text cause →
        (∀ other, path.reaches other → last.workshop.tree.contains other = false) ∧
        ∃ object left, Composing.Initializes behave path stack before object (.fail cause) left ∧
          ∀ other, ¬ path.reaches other →
            last.workshop.tree.node? other = left.tree.node? other := by
  rcases ends.failure_cases with
    ⟨refuses, rfl⟩ | ⟨object, reason, left, come, failed, rfl⟩
  · refine ⟨rfl, rfl, fun _ => rfl, ?_⟩
    intro cause impossible
    exact absurd impossible (refuses.ne_initializer path.text cause)
  · refine ⟨rfl, rfl, fun other => absurd failed (other reason), ?_⟩
    rintro cause same
    cases failed.symm.trans same
    refine ⟨?_, object, left, come, ?_⟩
    · intro other reached
      show ((left.tree.detach path).node? other).isSome = false
      rw [Tree.node?_detach, if_pos reached]
      rfl
    · intro other apart
      exact (Tree.node?_detach left.tree path other).trans (if_neg apart)

end

/-- The initializer of the area `a` composes another area, then a key of its own, and fails when a
third path is not known. -/
def spoiling : Behaviour String Unit where
  construct _ services := services
  initializer object :=
    if object.body = "area" then
      some (.compose { area := "b" } fun _ => .compose { area := "a", key := some "k" } fun _ =>
        .compose { area := "c" } fun result => match result with
          | .ok _ => .finish
          | .error failure => .fail (.page failure))
    else none

def spoiled : Workshop String Unit where
  roster.modules := ((Table.insert {} "a" { name := "a", body := "area" }).insert "a.k"
    { name := "a.k", body := "key" }).insert "b" { name := "b", body := "plain" }
  services := ()

/-- The area and its key are gone again; the other area stays. -/
theorem failed_composition_leaves_others :
    ∃ failure last, Composing.Ends spoiling { area := "a" } [] spoiled (.error failure) last ∧
      failure = .initializer "a" (.page (.notFound "c")) ∧ last.composing = [] ∧
      last.workshop.tree.contains { area := "a" } = false ∧
      last.workshop.tree.contains { area := "a", key := some "k" } = false ∧
      last.workshop.tree.contains { area := "b" } = true := by
  have composed : spoiled.compose spoiling 20 { area := "a" } =
      (some (.error (.initializer "a" (.page (.notFound "c")))),
        (spoiled.compose spoiling 20 { area := "a" }).2) := by
    rfl
  obtain ⟨last, ends, left⟩ := Workshop.ends_of_compose composed
  obtain ⟨-, stack, -, failed⟩ := failed_composition_leaves ends
  obtain ⟨gone, -⟩ := failed (.page (.notFound "c")) rfl
  refine ⟨_, last, ends, rfl, stack, gone _ (.inl rfl), gone _ (.inr ⟨rfl, rfl⟩), ?_⟩
  rw [left]
  decide +kernel

end PageSession.Assembly
