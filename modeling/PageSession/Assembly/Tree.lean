import PageSession.Page.Failure
import PageSession.Table

/-!
The tree of a page: areas and, below each, its keys. A node may be vacant. Attaching an area makes
it anew, without anything below it; a key needs its area.

Models `Namespace` with its `AreaNode`: `attach`, `detach`, `slot`, `contains`, `is_vacant`, `get`
and `paths`.
-/
namespace PageSession.Assembly
open Page

/-- An area and what is below it; `O` is the type of what nodes hold. -/
structure Area (O : Type) where
  object : Option O
  children : Table (Option O) := {}

structure Tree (O : Type) where
  areas : Table (Area O) := {}

namespace Tree
variable {O : Type}

def attach (tree : Tree O) (path : NodePath) (object : Option O) : Except Failure (Tree O) :=
  match path.key with
  | none => .ok { areas := tree.areas.insert path.area { object } }
  | some key =>
    match tree.areas.find? path.area with
    | none => .error (.parentMissing path.area key)
    | some area =>
      .ok { areas := tree.areas.insert path.area
              { area with children := area.children.insert key object } }

def detach (tree : Tree O) (path : NodePath) : Tree O :=
  match path.key with
  | none => { areas := tree.areas.erase path.area }
  | some key =>
    match tree.areas.find? path.area with
    | none => tree
    | some area =>
      { areas := tree.areas.insert path.area { area with children := area.children.erase key } }

/-- The node at a path: what it holds, or nothing when it is vacant. -/
def node? (tree : Tree O) (path : NodePath) : Option (Option O) :=
  (tree.areas.find? path.area).bind fun area =>
    match path.key with
    | none => some area.object
    | some key => area.children.find? key

def contains (tree : Tree O) (path : NodePath) : Bool := (tree.node? path).isSome

def isVacant (tree : Tree O) (path : NodePath) : Bool :=
  match tree.node? path with
  | some none => true
  | _ => false

def get? (tree : Tree O) (path : NodePath) : Option O := (tree.node? path).join

/-- Every path of the tree, areas in order and below each its keys in order. -/
def paths (tree : Tree O) : List NodePath :=
  (tree.areas.entries.mergeSort fun a b => !(b.1 < a.1)).flatMap fun (name, area) =>
    { area := name } :: (area.children.keys.mergeSort fun a b => !(b < a)).map fun key =>
      { area := name, key := some key }

def size (tree : Tree O) : Nat :=
  tree.areas.values.foldl (fun count area => count + 1 + area.children.size) 0

def isEmpty (tree : Tree O) : Bool := tree.areas.isEmpty

end Tree
end PageSession.Assembly
