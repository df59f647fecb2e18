import PageSession.Page.NodePath

/-!
The page a session is built for, and the conditions on it: guards decide whether a module is
constructed, filters decide whether a resource is loaded.

Models `PageContext` with `has_role`, `Guard` with `allows`, `ResourceFilter` with `admits`, and
what `inject` keeps of a list of `ResourceDescriptor`.
-/
namespace PageSession.Page
open Json

structure Context where
  path : String := ""
  view : Option String := none
  roles : List String := []
  deriving DecidableEq, Repr, Inhabited

def Context.hasRole (page : Context) (role : String) : Bool := page.roles.contains role

def Context.read : Reader Context :=
  Reader.record ["path", "view", "roles"] fun depth slots =>
    match slots with
    | [path, view, roles] => do
      let path ← Reader.text.orDefault "" depth path
      let view ← Reader.text.optional depth view
      let roles ← Reader.text.list.orDefault [] depth roles
      pure { path, view, roles }
    | _ => none

inductive Guard where
  | onView (name : String)
  | onPath (path : String)
  | forRole (role : String)
  deriving DecidableEq, Repr

def Guard.allows (page : Context) : Guard → Bool
  | .onView name => page.view = some name
  | .onPath path => page.path = path
  | .forRole role => page.hasRole role

/-- The form of a guard in messages about modules. -/
def Guard.describe : Guard → String
  | .onView name => "View(" ++ Text.quoted name ++ ")"
  | .onPath path => "Path(" ++ Text.quoted path ++ ")"
  | .forRole role => "Role(" ++ Text.quoted role ++ ")"

/-- A filter admits a page by its path and by a role; a missing condition admits every page. -/
structure Filter where
  pathIn : List String := []
  requiresRole : Option String := none
  deriving DecidableEq, Repr, Inhabited

def Filter.admits (filter : Filter) (page : Context) : Bool :=
  (filter.pathIn.isEmpty || filter.pathIn.contains page.path) &&
    filter.requiresRole.all page.hasRole

def Filter.read : Reader Filter :=
  Reader.record ["path_in", "requires_role"] fun depth slots =>
    match slots with
    | [pathIn, requiresRole] => do
      let pathIn ← Reader.text.list.orDefault [] depth pathIn
      let requiresRole ← Reader.text.optional depth requiresRole
      pure { pathIn, requiresRole }
    | _ => none

/-- A unit that is loaded from a locator and registers a module under its name. -/
structure Resource where
  name : String
  locator : String
  filter : Option Filter := none
  deriving DecidableEq, Repr, Inhabited

def Resource.admitted (resource : Resource) (page : Context) : Bool :=
  resource.filter.all fun filter => filter.admits page

def Resource.read : Reader Resource :=
  Reader.record ["name", "locator", "filter"] fun depth slots =>
    match slots with
    | [name, locator, filter] => do
      let name ← Reader.text.required depth name
      let locator ← Reader.text.required depth locator
      let filter ← Filter.read.optional depth filter
      pure { name, locator, filter }
    | _ => none

end PageSession.Page
