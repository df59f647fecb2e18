import PageSession.Json.Record
import PageSession.Toml.Statement

/-!
The tables that a TOML document builds. A table is defined once: a header may define a table that
only other headers have passed through; a dotted key may enter any table that no header has defined,
which counts as made by dotted keys from then on; and nothing is added to an inline table. The
outcome is read as a tree of records.
-/
namespace PageSession.Toml
open Decimal Json

/-- How a table came about. -/
inductive Origin where
  /-- A header passed through it. -/
  | passed
  /-- A dotted key made it or passed through it. -/
  | dotted
  /-- A header defined it. -/
  | defined
  deriving DecidableEq, Repr

inductive Node where
  | leaf (d : Datum)
  | table (origin : Origin) (entries : List (String × Node))
  /-- Tables that headers append to. -/
  | rows (rows : List (List (String × Node)))

abbrev Entries := List (String × Node)

def find? (key : String) (entries : Entries) : Option Node :=
  (entries.find? fun entry => entry.1 == key).map Prod.snd

/-- The entries with a key set anew: in place when present, last otherwise. -/
def put (key : String) (node : Node) : Entries → Entries
  | [] => [(key, node)]
  | (other, old) :: rest =>
    if other = key then (key, node) :: rest else (other, old) :: put key node rest

/-- Changes the table at a path, and makes the missing tables on the way. -/
def change (byKey : Bool) (edit : Origin → Entries → Option Entries) :
    List String → Origin → Entries → Option Entries
  | [], origin, entries => edit origin entries
  | key :: rest, _, entries =>
    match find? key entries with
    | none =>
      let origin := if byKey then .dotted else .passed
      (change byKey edit rest origin []).map fun made => put key (.table origin made) entries
    | some (.leaf _) => none
    | some (.table origin inner) =>
      if byKey && origin = .defined then none
      else
        let origin := if byKey then .dotted else origin
        (change byKey edit rest origin inner).map fun inner =>
          put key (.table origin inner) entries
    | some (.rows rows) =>
      match rows.getLast? with
      | none => none
      | some row => (change byKey edit rest .defined row).map fun row =>
        put key (.rows (rows.dropLast ++ [row])) entries

/-- Adds a value under a key. Tables are extended by keys of the kind that made them. -/
def assign (path : List String) (node : Node) (origin : Origin) (entries : Entries) :
    Option Entries :=
  match path.getLast? with
  | none => none
  | some key =>
    let byKey := 1 < path.length
    change byKey (fun origin entries =>
      if (byKey && origin ≠ .dotted) || (!byKey && origin = .dotted) then none
      else if (find? key entries).isSome then none
      else some (put key node entries)) path.dropLast origin entries

/-- Defines the table of a header. -/
def define (path : List String) (root : Entries) : Option Entries :=
  match path.getLast? with
  | none => none
  | some key =>
    change false (fun _ entries =>
      match find? key entries with
      | none => some (put key (.table .defined []) entries)
      | some (.table .passed inner) => some (put key (.table .defined inner) entries)
      | _ => none) path.dropLast .defined root

/-- Appends a row to the tables of a header. -/
def appendRow (path : List String) (root : Entries) : Option Entries :=
  match path.getLast? with
  | none => none
  | some key =>
    change false (fun _ entries =>
      match find? key entries with
      | none => some (put key (.rows [[]]) entries)
      | some (.rows rows) => some (put key (.rows (rows ++ [[]])) entries)
      | _ => none) path.dropLast .defined root

mutual

/-- The tree of a node. -/
def Node.datum : Node → Datum
  | .leaf d => d
  | .table _ entries => .table (entriesData entries)
  | .rows rows => .series (rowsData rows)

def entriesData : List (String × Node) → List (String × Datum)
  | [] => []
  | (key, node) :: rest => (key, node.datum) :: entriesData rest

def rowsData : List (List (String × Node)) → List Datum
  | [] => []
  | row :: rest => .table (entriesData row) :: rowsData rest

end

/-- The member by which a moment is known in a tree. -/
def momentKey : String := "$__toml_private_datetime"

/-- The tree of a number. A special number is nothing that a reader accepts. -/
def Quantity.datum : Quantity → Datum
  | .integer n => .number { negative := n < 0, whole := decimalDigits n.natAbs }
  | .float n => .number n
  | .special => .text none
  | .spoiled => .spoiled

def Scalar.datum : Scalar → Datum
  | .text s => .text (some s)
  | .number q => q.datum
  | .bool b => .bool b
  | .moment form => .table [(momentKey, .text (some form))]

mutual

/-- The tree of a value, unless an inline table in it defines a key twice. -/
def Expression.datum? : Expression → Option Datum
  | .scalar s => some s.datum
  | .array items => (itemsData? items).map .series
  | .table entries => (inlineEntries? entries []).map fun entries =>
    .table (entriesData entries)

def itemsData? : List Expression → Option (List Datum)
  | [] => some []
  | first :: rest => do
    let datum ← first.datum?
    let data ← itemsData? rest
    pure (datum :: data)

def inlineEntries? : List (List String × Expression) → Entries → Option Entries
  | [], done => some done
  | (path, value) :: rest, done => do
    let datum ← value.datum?
    let done ← assign path (.leaf datum) .passed done
    inlineEntries? rest done

end

/-- A document under construction: its tables, and the path that assignments belong to. -/
structure Draft where
  root : Entries := []
  current : List String := []

def Draft.add? (draft : Draft) : Statement → Option Draft
  | .header path => (define path draft.root).map fun root => { root, current := path }
  | .rowHeader path => (appendRow path draft.root).map fun root => { root, current := path }
  | .assignment path value => do
    let datum ← value.datum?
    let root ← change false (assign path (.leaf datum)) draft.current .defined draft.root
    pure { draft with root }

/-- The tree of a document. -/
def document? (text : String) : Option Datum := do
  let statements ← statements? text
  let draft ← statements.foldlM Draft.add? {}
  pure (Node.table .defined draft.root).datum

end PageSession.Toml

namespace PageSession.Json

/-- Reads a TOML document. -/
def Reader.ofToml? {α : Type} (read : Reader α) (text : String) : Option α :=
  (Toml.document? text).bind (read nestingLimit)

end PageSession.Json
