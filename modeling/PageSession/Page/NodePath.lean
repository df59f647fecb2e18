import PageSession.Json.Record
import PageSession.Text.Quoted

/-!
Addresses in a page: an area, or a key one level below an area. A path is written with dots;
everything behind the first dot is the key, and no segment between dots may be empty.

Models `ModulePath`: `is_nested`, `parent`, its display, its parser and its order.
-/
namespace PageSession.Page

structure NodePath where
  area : String
  key : Option String := none
  deriving DecidableEq, Repr, Inhabited

/-- The characters before the first dot, and those behind it if there is a dot. -/
def splitFirstDot : List Char → List Char × Option (List Char)
  | [] => ([], none)
  | c :: rest =>
    if c = '.' then ([], some rest)
    else
      let (front, behind) := splitFirstDot rest
      (c :: front, behind)

/-- The segments between dots. -/
def segments : List Char → List (List Char)
  | [] => [[]]
  | c :: rest =>
    if c = '.' then [] :: segments rest
    else match segments rest with
      | [] => [[c]]
      | first :: others => (c :: first) :: others

namespace NodePath

def isNested (path : NodePath) : Bool := path.key.isSome

/-- The area that a nested path belongs to. -/
def parent? (path : NodePath) : Option NodePath :=
  path.key.map fun _ => { area := path.area }

/-- The dotted form. -/
def text (path : NodePath) : String :=
  match path.key with
  | some key => path.area ++ "." ++ key
  | none => path.area

/-- Reads the dotted form. -/
def ofText? (text : String) : Option NodePath :=
  match splitFirstDot text.toList with
  | (area, none) => if area.isEmpty then none else some { area := text }
  | (area, some key) =>
    if area.isEmpty || (segments key).any List.isEmpty then none
    else some { area := String.ofList area, key := some (String.ofList key) }

/-- Areas by name, and below an area the area itself before its keys by name. -/
def before (a b : NodePath) : Bool :=
  if a.area = b.area then
    match a.key, b.key with
    | none, some _ => true
    | some x, some y => x < y
    | _, none => false
  else a.area < b.area

def read : Json.Reader NodePath
  | _, .text s => s.bind ofText?
  | _, _ => none

def toValue (path : NodePath) : Json.Value := .text path.text

end NodePath

/-- Paths in order without repetitions. -/
def sortPaths (paths : List NodePath) : List NodePath :=
  (paths.mergeSort fun a b => !b.before a).eraseReps

end PageSession.Page
