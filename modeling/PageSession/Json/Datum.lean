import PageSession.Json.Token

/-!
The tree of a JSON text, exactly as written: repeated members stay, numerals are not evaluated,
and texts may be unreadable. Other notations share the tree. It is built from the tokens in one
pass over a stack of open containers, so that nesting has no limit here; limits belong to the
values read from a tree.
-/
namespace PageSession.Json

inductive Datum where
  | null
  | bool (b : Bool)
  | number (n : Numeral)
  | text (s : Option String)
  | array (items : List Datum)
  /-- Items in a notation that lets a record stop before the last of them. -/
  | series (items : List Datum)
  | object (members : List (Option String × Datum))
  /-- Members in a notation in which no two of them share a name and a record passes over the
  others only if they are sound. -/
  | table (members : List (String × Datum))
  /-- What stands for nothing that could be read. -/
  | spoiled

instance : Inhabited Datum := ⟨.null⟩

mutual

/-- Nothing in a tree is spoiled. -/
def Datum.isSound : Datum → Bool
  | .spoiled => false
  | .array items | .series items => itemsAreSound items
  | .object members => membersAreSound members
  | .table entries => entriesAreSound entries
  | _ => true

def itemsAreSound : List Datum → Bool
  | [] => true
  | first :: rest => first.isSound && itemsAreSound rest

def membersAreSound : List (Option String × Datum) → Bool
  | [] => true
  | (_, first) :: rest => first.isSound && membersAreSound rest

def entriesAreSound : List (String × Datum) → Bool
  | [] => true
  | (_, first) :: rest => first.isSound && entriesAreSound rest

end

/-- A container that is not closed yet, with its content, latest first. -/
inductive Opening where
  | array (items : List Datum)
  | object (members : List (Option String × Datum))
  | member (members : List (Option String × Datum)) (name : Option String)

/-- What may come next. -/
inductive Place where
  | value | firstItem | firstName | name | colon | separator | finished (d : Datum)

structure Builder where
  place : Place := .value
  openings : List Opening := []

/-- Hands a complete datum to the innermost open container. -/
def deliver? (d : Datum) : List Opening → Option Builder
  | [] => some ⟨.finished d, []⟩
  | .array items :: rest => some ⟨.separator, .array (d :: items) :: rest⟩
  | .member members name :: rest => some ⟨.separator, .object ((name, d) :: members) :: rest⟩
  | .object _ :: _ => none

/-- A token where a value may stand. -/
def Builder.value? (openings : List Opening) : Token → Option Builder
  | .null => deliver? .null openings
  | .bool b => deliver? (.bool b) openings
  | .number n => deliver? (.number n) openings
  | .text s => deliver? (.text s) openings
  | .openArray => some ⟨.firstItem, .array [] :: openings⟩
  | .openObject => some ⟨.firstName, .object [] :: openings⟩
  | _ => none

/-- A token where the name of a member must stand. -/
def Builder.name? : List Opening → Token → Option Builder
  | .object members :: rest, .text s => some ⟨.colon, .member members s :: rest⟩
  | _, _ => none

/-- A token where an array may be closed. -/
def closeArray? : List Opening → Option Builder
  | .array items :: rest => deliver? (.array items.reverse) rest
  | _ => none

/-- A token where an object may be closed. -/
def closeObject? : List Opening → Option Builder
  | .object members :: rest => deliver? (.object members.reverse) rest
  | _ => none

def Builder.step? (b : Builder) (token : Token) : Option Builder :=
  match b.place, token with
  | .value, token => Builder.value? b.openings token
  | .firstItem, .closeArray => closeArray? b.openings
  | .firstItem, token => Builder.value? b.openings token
  | .firstName, .closeObject => closeObject? b.openings
  | .firstName, token => Builder.name? b.openings token
  | .name, token => Builder.name? b.openings token
  | .colon, .colon => some ⟨.value, b.openings⟩
  | .separator, .closeArray => closeArray? b.openings
  | .separator, .closeObject => closeObject? b.openings
  | .separator, .comma =>
    match b.openings with
    | .array _ :: _ => some ⟨.value, b.openings⟩
    | .object _ :: _ => some ⟨.name, b.openings⟩
    | _ => none
  | _, _ => none

def Builder.result? (b : Builder) : Option Datum :=
  match b.place with
  | .finished d => some d
  | _ => none

def Datum.ofTokens? (tokens : List Token) : Option Datum :=
  (tokens.foldlM Builder.step? {}).bind Builder.result?

/-- The tree of a text: one value between blanks. -/
def Datum.ofGlyphs? (glyphs : List Text.Glyph) : Option Datum :=
  (tokens? glyphs).bind Datum.ofTokens?

end PageSession.Json
