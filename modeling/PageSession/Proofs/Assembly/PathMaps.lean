import Mathlib.Data.Set.Card
import PageSession.Proofs.Assembly.Nodes

/-!
The tree of a page is a map from paths to what their nodes hold. The tree keeps the keys of an area
inside the area; the map keeps all paths side by side, so for the map an area that goes takes its
keys along only because every entry of the area is removed. Whatever is attached and detached, both
give the same answers, and the tree lists the paths of the map in order.
-/
namespace PageSession

namespace Page.NodePath

/-- Paths are ordered by their areas, then by their keys, and no key comes before every key. -/
theorem before_iff (a b : NodePath) :
    a.before b = true ↔ a.area < b.area ∨ (a.area = b.area ∧ a.key < b.key) := by
  obtain ⟨area, key⟩ := a
  obtain ⟨other, below⟩ := b
  unfold before
  by_cases same : area = other
  · subst same
    cases key <;> cases below <;> simp
  · simp [same]

end Page.NodePath

namespace Assembly
open Page

variable {O : Type}

/-! ## Flat maps -/

/-- A flat map of a page: a path with a node is sent to what the node holds. -/
abbrev PathMap (O : Type) := NodePath → Option (Option O)

namespace PathMap

def clear (map : PathMap O) (area : String) : PathMap O := fun path =>
  if path.area = area then none else map path

/-- Attaching an area removes all its entries first; a key needs the entry of its area. -/
def attach (map : PathMap O) (path : NodePath) (object : Option O) : Except Failure (PathMap O) :=
  match path.key with
  | none => .ok (Function.update (map.clear path.area) path (some object))
  | some key =>
    if (map { area := path.area }).isSome then .ok (Function.update map path (some object))
    else .error (.parentMissing path.area key)

/-- Detaching an area removes all its entries, detaching a key one. -/
def detach (map : PathMap O) (path : NodePath) : PathMap O :=
  match path.key with
  | none => map.clear path.area
  | some _ => Function.update map path none

end PathMap

/-! ## Changes -/

/-- Something is attached or detached. -/
inductive Change (O : Type) where
  | attach (path : NodePath) (object : Option O)
  | detach (path : NodePath)

/-- What a change of a tree answers, and the tree after it. A change that fails changes nothing. -/
def Tree.change (tree : Tree O) : Change O → Except Failure Unit × Tree O
  | .attach path object =>
    match tree.attach path object with
    | .ok after => (.ok (), after)
    | .error failure => (.error failure, tree)
  | .detach path => (.ok (), tree.detach path)

def PathMap.change (map : PathMap O) : Change O → Except Failure Unit × PathMap O
  | .attach path object =>
    match map.attach path object with
    | .ok after => (.ok (), after)
    | .error failure => (.error failure, map)
  | .detach path => (.ok (), map.detach path)

/-- The answers to changes that are made one after the other, and what has come of them. -/
def Change.inTurn {σ : Type} (change : σ → Change O → Except Failure Unit × σ) :
    List (Change O) → σ → List (Except Failure Unit) × σ
  | [], state => ([], state)
  | first :: rest, state =>
    let (answer, state) := change state first
    let (answers, state) := inTurn change rest state
    (answer :: answers, state)

namespace Tree

/-- To attach something means the same for the nodes of a tree and for a flat map. -/
theorem node?_attach_eq (tree : Tree O) (path : NodePath) (object : Option O) :
    (tree.attach path object).map Tree.node? = PathMap.attach tree.node? path object := by
  obtain ⟨area, key⟩ := path
  cases key with
  | none =>
    have attached : tree.attach { area } object =
        .ok { areas := tree.areas.insert area { object } } := rfl
    rw [attached]
    show Except.ok _ = Except.ok _
    congr 1
    funext other
    rw [node?_attach attached]
    by_cases same : other = { area }
    · simp [same]
    · simp [same, PathMap.clear, NodePath.reaches_area]
  | some key =>
    cases attached : tree.attach { area, key := some key } object with
    | error failure =>
      have missing : tree.node? { area } = none := by
        by_contra there
        obtain ⟨after, rooted⟩ := (attach_ok_iff tree { area, key := some key } object).mpr
          (.inr (by simpa [contains, Option.isSome_iff_ne_none] using there))
        cases attached.symm.trans rooted
      have orphan : tree.attach { area, key := some key } object =
          .error (.parentMissing area key) :=
        attach_orphan (by simp [NodePath.isNested, contains, missing]) object
      cases attached.symm.trans orphan
      simp [PathMap.attach, missing, Except.map]
    | ok after =>
      have rooted : (tree.node? { area }).isSome = true := by
        simpa [contains] using (attach_ok_iff tree { area, key := some key } object).mp
          ⟨after, attached⟩
      simp only [PathMap.attach, rooted, if_true]
      show Except.ok _ = Except.ok _
      congr 1
      funext other
      rw [node?_attach attached]
      by_cases same : other = { area, key := some key }
      · simp [same]
      · simp [same, NodePath.reaches_nested]

theorem node?_detach_eq (tree : Tree O) (path : NodePath) :
    (tree.detach path).node? = PathMap.detach tree.node? path := by
  funext other
  rw [node?_detach]
  obtain ⟨area, key⟩ := path
  cases key with
  | none => simp [PathMap.detach, PathMap.clear, NodePath.reaches_area]
  | some key =>
    by_cases same : other = { area, key := some key }
    · simp [PathMap.detach, NodePath.reaches_nested, same]
    · simp [PathMap.detach, NodePath.reaches_nested, same]

/-- A change has the same answer and leads to the same nodes. -/
theorem change_eq (tree : Tree O) (change : Change O) :
    PathMap.change tree.node? change =
      ((tree.change change).1, (tree.change change).2.node?) := by
  cases change with
  | detach path => simp [change, PathMap.change, node?_detach_eq]
  | attach path object =>
    have same := tree.node?_attach_eq path object
    simp only [change, PathMap.change, ← same]
    cases tree.attach path object <;> rfl

/-- And so do changes one after the other. -/
theorem inTurn_eq (changes : List (Change O)) (tree : Tree O) :
    Change.inTurn PathMap.change changes tree.node? =
      ((Change.inTurn change changes tree).1, (Change.inTurn change changes tree).2.node?) := by
  induction changes generalizing tree with
  | nil => rfl
  | cons first rest ih => simp only [Change.inTurn, change_eq, ih]

/-! ## What a tree lists and counts -/

theorem mem_paths_iff (tree : Tree O) (path : NodePath) :
    path ∈ tree.paths ↔ tree.contains path = true := by
  obtain ⟨area, key⟩ := path
  cases key with
  | none =>
    simp [paths, contains, node?, Option.isSome_iff_exists, Option.bind_eq_some_iff,
      ← Table.find?_eq_some_iff]
  | some key =>
    have listed : { area, key := some key } ∈ tree.paths ↔
        ∃ node, (area, node) ∈ tree.areas.entries ∧ key ∈ node.children.keys := by
      simp [paths]
    have there : tree.contains { area, key := some key } = true ↔
        ∃ node, tree.areas.find? area = some node ∧ (node.children.find? key).isSome = true := by
      cases found : tree.areas.find? area <;> simp [contains, node?, found]
    simp only [listed, there, Table.find?_eq_some_iff, ← Table.contains_eq_isSome,
      Table.contains_iff_mem_keys]

/-- The areas come in order, and below each area its keys. -/
theorem paths_pairwise (tree : Tree O) : tree.paths.Pairwise fun a b => a.before b = true := by
  unfold paths
  apply List.pairwise_flatMap.mpr
  constructor
  · rintro ⟨name, area⟩ -
    apply List.pairwise_cons.mpr
    constructor
    · intro path listed
      obtain ⟨key, -, rfl⟩ := List.mem_map.mp listed
      simp [NodePath.before]
    · apply List.pairwise_map.mpr
      have distinct : (area.children.keys.map id).Nodup := by
        rw [List.map_id]
        exact area.children.distinct
      apply (Table.pairwise_mergeSort id distinct).imp
      intro first second smaller
      simpa [NodePath.before] using smaller
  · have sorted := Table.pairwise_mergeSort Prod.fst tree.areas.distinct
    apply sorted.imp
    intro left right smaller first listed second later
    have here : first.area = left.1 := by
      rcases List.mem_cons.mp listed with rfl | nested
      · rfl
      · obtain ⟨key, -, rfl⟩ := List.mem_map.mp nested
        rfl
    have there : second.area = right.1 := by
      rcases List.mem_cons.mp later with rfl | nested
      · rfl
      · obtain ⟨key, -, rfl⟩ := List.mem_map.mp nested
        rfl
    rw [NodePath.before_iff, here, there]
    exact .inl smaller

theorem paths_nodup (tree : Tree O) : tree.paths.Nodup := by
  apply tree.paths_pairwise.imp
  rintro a b earlier rfl
  rw [NodePath.before_iff] at earlier
  rcases earlier with impossible | ⟨-, impossible⟩
  · exact String.lt_irrefl _ impossible
  · cases key : a.key <;> simp [key] at impossible

/-- Every area counts once, and so does every key. -/
theorem size_eq_length_paths (tree : Tree O) : tree.size = tree.paths.length := by
  have counted : ∀ (entries : List (String × Area O)) (start : Nat),
      (entries.map Prod.snd).foldl (fun count area => count + 1 + area.children.size) start =
        start + (entries.map fun entry => entry.2.children.size + 1).sum := by
    intro entries
    induction entries with
    | nil => simp
    | cons entry rest ih =>
      intro start
      simp only [List.map_cons, List.foldl_cons, List.sum_cons, ih]
      omega
  have perm := (List.mergeSort_perm tree.areas.entries fun a b => !(b.1 < a.1)).map
    fun entry : String × Area O => entry.2.children.size + 1
  have lengths : tree.paths.length =
      ((tree.areas.entries.mergeSort fun a b => !(b.1 < a.1)).map
        fun entry => entry.2.children.size + 1).sum := by
    simp [paths, List.length_flatMap, Table.keys, Table.size]
  rw [lengths, perm.sum_nat]
  unfold size Table.values
  rw [counted, Nat.zero_add]

theorem size_eq_ncard (tree : Tree O) : tree.size = {path | tree.contains path = true}.ncard := by
  have same : {path | tree.contains path = true} = ↑tree.paths.toFinset := by
    ext path
    simp [mem_paths_iff]
  rw [same, Set.ncard_coe_finset, List.toFinset_card_of_nodup tree.paths_nodup,
    size_eq_length_paths]

theorem isEmpty_iff (tree : Tree O) :
    tree.isEmpty = true ↔ ∀ path, tree.node? path = none := by
  constructor
  · intro empty path
    have nothing : tree.areas.entries = [] := by simpa [isEmpty, Table.isEmpty] using empty
    simp [node?, Table.find?, nothing]
  · intro nothing
    cases listed : tree.areas.entries with
    | nil => simp [isEmpty, Table.isEmpty, listed]
    | cons entry rest =>
      have found := nothing { area := entry.1 }
      simp [node?, Table.find?, listed] at found

/-- A key is in the tree only together with its area. -/
theorem contains_area {tree : Tree O} {path : NodePath} (there : tree.contains path = true) :
    tree.contains { area := path.area } = true := by
  unfold contains node? at there ⊢
  cases found : tree.areas.find? path.area with
  | none => simp [found] at there
  | some area => simp

/-- A tree to which changes have been made answers as the flat map to which they have been made, it
has the same nodes and counts them, every key is there together with its area, and the paths of the
map are listed in strictly increasing order. -/
theorem changes_refine_path_map (changes : List (Change O)) :
    let (answers, tree) := Change.inTurn change changes {}
    let (expected, map) := Change.inTurn PathMap.change changes fun _ => none
    answers = expected ∧
      (∀ path, tree.contains path = (map path).isSome ∧
        (tree.isVacant path = true ↔ map path = some none) ∧
        tree.get? path = (map path).join) ∧
      tree.size = {path | (map path).isSome = true}.ncard ∧
      (tree.isEmpty = true ↔ ∀ path, map path = none) ∧
      (∀ path, (map path).isSome = true → (map { area := path.area }).isSome = true) ∧
      (∀ path, path ∈ tree.paths ↔ (map path).isSome = true) ∧
      tree.paths.Pairwise fun a b => a.before b = true := by
  have empty : ({} : Tree O).node? = fun _ => none := rfl
  have same := inTurn_eq changes {}
  rw [empty] at same
  simp only [same]
  generalize (Change.inTurn change changes ({} : Tree O)).2 = tree
  refine ⟨trivial, ?_, tree.size_eq_ncard, tree.isEmpty_iff, ?_, tree.mem_paths_iff,
    tree.paths_pairwise⟩
  · intro path
    refine ⟨rfl, ?_, rfl⟩
    unfold isVacant
    cases tree.node? path with
    | none => simp
    | some object => cases object <;> simp
  · intro path there
    exact contains_area there

end Tree
end Assembly
end PageSession
