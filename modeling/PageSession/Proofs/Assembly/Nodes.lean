import PageSession.Assembly.Workshop
import PageSession.Proofs.Table

/-!
What attaching and detaching do to the nodes of a tree. A path has a reach: the path itself, and for
an area also everything below it. Nothing out of reach is touched.
-/
namespace PageSession

namespace Page.NodePath

/-- What is made anew when something is attached at a path, and goes when it is detached. -/
def reaches (path other : NodePath) : Prop :=
  other = path ∨ (path.key = none ∧ other.area = path.area)

instance (path other : NodePath) : Decidable (path.reaches other) :=
  inferInstanceAs (Decidable (_ ∨ _))

theorem reaches_area (area : String) (other : NodePath) :
    reaches { area } other ↔ other.area = area := by
  constructor
  · rintro (rfl | ⟨-, same⟩)
    · rfl
    · exact same
  · exact fun same => .inr ⟨rfl, same⟩

theorem reaches_nested (area key : String) (other : NodePath) :
    reaches { area, key := some key } other ↔ other = { area, key := some key } := by
  constructor
  · rintro (same | ⟨none, -⟩)
    · exact same
    · cases none
  · exact .inl

end Page.NodePath

namespace Assembly.Tree
open Page
variable {O : Type}

/-- A key needs its area. -/
theorem attach_ok_iff (tree : Tree O) (path : NodePath) (object : Option O) :
    (∃ after, tree.attach path object = .ok after) ↔
      path.key = none ∨ tree.contains { area := path.area } = true := by
  obtain ⟨area, key⟩ := path
  cases key with
  | none => simp [attach]
  | some key =>
    cases found : tree.areas.find? area <;> simp [attach, contains, node?, found]

/-- Nothing is attached to a key whose area is not there, and the failure says so. -/
theorem attach_orphan {tree : Tree O} {path : NodePath}
    (orphan : (path.isNested && !tree.contains { area := path.area }) = true) (object : Option O) :
    tree.attach path object = .error (.parentMissing path.area (path.key.getD "")) := by
  obtain ⟨area, key⟩ := path
  cases key with
  | none => cases orphan
  | some key =>
    have missing : tree.contains { area } = false := by simpa [NodePath.isNested] using orphan
    cases found : tree.areas.find? area with
    | none => simp [attach, found]
    | some node => simp [contains, node?, found] at missing

theorem attach_rooted {tree : Tree O} {path : NodePath}
    (rooted : ¬ (path.isNested && !tree.contains { area := path.area }) = true)
    (object : Option O) : ∃ after, tree.attach path object = .ok after := by
  rw [attach_ok_iff]
  obtain ⟨area, key⟩ := path
  cases key with
  | none => exact .inl rfl
  | some key => exact .inr (by simpa [NodePath.isNested] using rooted)

/-- What is attached is found at its path and nothing else in its reach, and the rest stays. -/
theorem node?_attach {tree after : Tree O} {path : NodePath} {object : Option O}
    (attached : tree.attach path object = .ok after) (other : NodePath) :
    after.node? other =
      if other = path then some object else if path.reaches other then none
        else tree.node? other := by
  obtain ⟨area, key⟩ := path
  obtain ⟨name, below⟩ := other
  cases key with
  | none =>
    cases attached
    by_cases same : name = area
    · subst same
      cases below <;> simp [node?, Table.find?_insert, NodePath.reaches_area]
    · simp [node?, Table.find?_insert, NodePath.reaches_area, same]
  | some key =>
    simp only [attach] at attached
    split at attached
    · cases attached
    · rename_i found
      cases attached
      by_cases same : name = area
      · subst same
        cases below with
        | none => simp [node?, Table.find?_insert, NodePath.reaches_nested, found]
        | some other =>
          by_cases here : other = key <;>
            simp [node?, Table.find?_insert, NodePath.reaches_nested, found, here]
      · simp [node?, Table.find?_insert, NodePath.reaches_nested, same]

theorem get?_attach {tree after : Tree O} {path : NodePath} {object : Option O}
    (attached : tree.attach path object = .ok after) (other : NodePath) :
    after.get? other =
      if other = path then object else if path.reaches other then none else tree.get? other := by
  rw [get?, node?_attach attached]
  split
  · rfl
  · split <;> rfl

/-- Nothing in reach of a path is found once it has been detached, and the rest stays. -/
theorem node?_detach (tree : Tree O) (path other : NodePath) :
    (tree.detach path).node? other =
      if path.reaches other then none else tree.node? other := by
  obtain ⟨area, key⟩ := path
  obtain ⟨name, below⟩ := other
  cases key with
  | none =>
    by_cases same : name = area
    · simp [detach, node?, Table.find?_erase, NodePath.reaches_area, same]
    · simp [detach, node?, Table.find?_erase, NodePath.reaches_area, same]
  | some key =>
    simp only [detach, NodePath.reaches_nested]
    cases found : tree.areas.find? area with
    | none =>
      by_cases same : name = area
      · simp [node?, same, found]
      · simp [same]
    | some node =>
      by_cases same : name = area
      · subst same
        cases below <;> simp [node?, Table.find?_insert, Table.find?_erase, found]
      · simp [node?, Table.find?_insert, same]

theorem get?_detach (tree : Tree O) (path other : NodePath) :
    (tree.detach path).get? other = if path.reaches other then none else tree.get? other := by
  rw [get?, node?_detach]
  split <;> rfl

theorem contains_of_get? {tree : Tree O} {path : NodePath} {object : O}
    (found : tree.get? path = some object) : tree.contains path = true := by
  unfold get? at found
  unfold contains
  cases there : tree.node? path with
  | none => simp [there] at found
  | some node => rfl

end Assembly.Tree
end PageSession
