import PageSession.Session.Configuration

/-!
Files in folders, and the walk along a path to one of them. Every name but the last must lead to a
folder; names that say nothing, and those for the folder itself and the one above, lead on without a
look at what a folder holds. Names and paths have a limit in bytes.

Models the files that `load` of `ShellConfig` may find.
-/
namespace PageSession.Session

/-- What a name in a folder stands for. -/
inductive Entry where
  | file (content : ByteArray)
  | folder (entries : List (String × Entry))

/-- Why a walk ends before its path does. -/
inductive Obstacle where
  | noEntry
  | noFolder
  | longName
  deriving DecidableEq, Repr

def Entry.content : Entry → FileContent
  | .file content => .bytes content
  | .folder _ => .directory

def Obstacle.content : Obstacle → FileContent
  | .noEntry => .missing
  | .noFolder => .sealed "Not a directory (os error 20)"
  | .longName => .sealed "File name too long (os error 36)"

/-- The bytes that a name may have. -/
def nameLimit : Nat := 255

/-- The bytes that a path may have. -/
def pathLimit : Nat := 4095

/-- Follows names from an entry; the folders above it are those that the walk came through, the
nearest first. There is nothing above the root. -/
def Entry.walk : List String → Entry → List Entry → Except Obstacle Entry
  | [], here, _ => .ok here
  | _ :: _, .file _, _ => .error .noFolder
  | name :: rest, .folder entries, above =>
    if name = "" || name = "." then walk rest (.folder entries) above
    else if name = ".." then
      match above with
      | [] => walk rest (.folder entries) []
      | up :: above => walk rest up above
    else if nameLimit < name.utf8ByteSize then .error .longName
    else match entries.lookup name with
      | none => .error .noEntry
      | some entry => walk rest entry (.folder entries :: above)

structure Files where
  root : Entry
  /-- The path of the folder where paths begin that do not begin at the root. -/
  folder : String

/-- What there is at a path. -/
def Files.contentAt (files : Files) (path : String) : FileContent :=
  if path.isEmpty then .missing
  else if pathLimit < path.utf8ByteSize then Obstacle.longName.content
  else
    let path := if path.startsWith "/" then path else files.folder ++ "/" ++ path
    match Entry.walk (path.splitOn "/") files.root [] with
    | .ok entry => entry.content
    | .error obstacle => obstacle.content

end PageSession.Session
