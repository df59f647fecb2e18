import PageSession.Json.Value

/-!
Records read from trees. A record is an object with known members, each at most once and others
ignored unread, or an array of its fields in order, from which trailing fields may be missing. A
table is read like an object, but what it holds besides has to be sound; a series is read like an
array, but may go on behind the last field. A reader is given the nesting of containers it may still
use.
-/
namespace PageSession.Json

/-- Reads a datum that may nest so many containers. -/
abbrev Reader (α : Type) := Nat → Datum → Option α

/-- The data of the fields in order, `none` for a missing one. -/
def Datum.slots? (names : List String) : Datum → Option (List (Option Datum))
  | .object members =>
    if members.all (fun member => member.1.isSome) then
      names.mapM fun name =>
        match members.filter fun member => member.1 == some name with
        | [] => some none
        | [(_, datum)] => some (some datum)
        | _ => none
    else none
  | .array items =>
    if items.length ≤ names.length then
      some (items.map some ++ List.replicate (names.length - items.length) none)
    else none
  | .series items =>
    let used := items.take names.length
    some (used.map some ++ List.replicate (names.length - used.length) none)
  | .table members =>
    if members.all fun member => names.contains member.1 || member.2.isSound then
      some (names.map fun name => (members.find? fun member => member.1 == name).map Prod.snd)
    else none
  | _ => none

/-- A record with the given fields, which share the remaining nesting. -/
def Reader.record {α : Type} (names : List String)
    (fields : Nat → List (Option Datum) → Option α) : Reader α
  | 0, _ => none
  | depth + 1, datum => (datum.slots? names).bind (fields depth)

def Reader.required {α : Type} (read : Reader α) (depth : Nat) (slot : Option Datum) : Option α :=
  slot.bind (read depth)

def Reader.orDefault {α : Type} (read : Reader α) (default : α) (depth : Nat) :
    Option Datum → Option α
  | none => some default
  | some datum => read depth datum

/-- A field that may be missing or null. -/
def Reader.optional {α : Type} (read : Reader α) (depth : Nat) : Option Datum → Option (Option α)
  | none => some none
  | some .null => some none
  | some datum => (read depth datum).map some

namespace Reader

def value : Reader Value := fun depth datum => datum.value? depth

def text : Reader String
  | _, .text s => s
  | _, _ => none

def bool : Reader Bool
  | _, .bool b => some b
  | _, _ => none

/-- A whole number below a limit. -/
def natBelow (limit : Nat) : Reader Nat
  | _, .number n =>
    match n.number? with
    | some (.integer i) => if 0 ≤ i ∧ i < limit then some i.toNat else none
    | _ => none
  | _, _ => none

/-- An object, not a record in array form. -/
def members : Reader Members
  | depth, .object members =>
    match (Datum.object members).value? depth with
    | some (.object members) => some members
    | _ => none
  | _, _ => none

def list {α : Type} (read : Reader α) : Reader (List α)
  | depth + 1, .array items | depth + 1, .series items => items.mapM (read depth)
  | _, _ => none

/-- A table of texts. -/
def texts : Reader (List (String × String))
  | _ + 1, .table members => members.mapM fun member => do
    let content ← text 0 member.2
    pure (member.1, content)
  | _, _ => none

/-- One of some names, as a text or as the name of an only member that is null. -/
def named {α : Type} (ofName? : String → Option α) : Reader α
  | _, .text s => s.bind ofName?
  | _ + 1, .object [(name, .null)] => name.bind ofName?
  | _, _ => none

end Reader

/-- Reads a text. -/
def Reader.ofString? {α : Type} (read : Reader α) (text : String) : Option α :=
  (Datum.ofGlyphs? (Text.glyphsOfString text)).bind (read nestingLimit)

/-- Reads a byte text. -/
def Reader.ofBytes? {α : Type} (read : Reader α) (bytes : ByteArray) : Option α :=
  (Datum.ofGlyphs? (Text.glyphsOfBytes bytes)).bind (read nestingLimit)

end PageSession.Json
