import PageSession.Json.Datum

/-!
JSON values. An object lists its members under distinct names in increasing order; the writer
keeps whatever order it is given, so that it also writes records whose members have an order of
their own.
-/
namespace PageSession.Json

inductive Value where
  | null
  | bool (b : Bool)
  | number (n : Number)
  | text (s : String)
  | array (items : List Value)
  | object (members : List (String × Value))
  deriving Repr

instance : Inhabited Value := ⟨.null⟩

/-- The members of an object, by increasing name. -/
abbrev Members := List (String × Value)

def Members.get? (members : Members) (name : String) : Option Value :=
  (members.find? fun member => member.1 == name).map Prod.snd

/-- Sets a member, keeping the names in increasing order. -/
def Members.set (name : String) (value : Value) : Members → Members
  | [] => [(name, value)]
  | (first, old) :: rest =>
    if name < first then (name, value) :: (first, old) :: rest
    else if name = first then (name, value) :: rest
    else (first, old) :: Members.set name value rest

/-- Sets a member unless there is one of that name. -/
def Members.setDefault (name : String) (value : Value) (members : Members) : Members :=
  if (members.get? name).isSome then members else members.set name value

/-- Nesting of containers that a text may have. -/
def nestingLimit : Nat := 127

mutual

/-- The value of a tree, unless containers are nested deeper than allowed, a text is unreadable, a
number is too large or the tree comes from another notation. The last member of a name counts. -/
def Datum.value? (depth : Nat) : Datum → Option Value
  | .null => some .null
  | .bool b => some (.bool b)
  | .number n => n.number?.map .number
  | .text s => s.map .text
  | .array items =>
    match depth with
    | 0 => none
    | depth + 1 => (Datum.items? depth items).map .array
  | .object members =>
    match depth with
    | 0 => none
    | depth + 1 => (Datum.members? depth members []).map .object
  | .series _ | .table _ | .spoiled => none

def Datum.items? (depth : Nat) : List Datum → Option (List Value)
  | [] => some []
  | first :: rest => do
    let value ← first.value? depth
    let values ← Datum.items? depth rest
    pure (value :: values)

def Datum.members? (depth : Nat) : List (Option String × Datum) → Members → Option Members
  | [], done => some done
  | (name, datum) :: rest, done => do
    let name ← name
    let value ← datum.value? depth
    Datum.members? depth rest (done.set name value)

end

mutual

/-- The tokens of a value, in front of the tokens that follow it. -/
def Value.tokens (v : Value) (behind : List Token) : List Token :=
  match v with
  | .null => .null :: behind
  | .bool b => .bool b :: behind
  | .number n => .number n.numeral :: behind
  | .text s => .text (some s) :: behind
  | .array [] => .openArray :: .closeArray :: behind
  | .array (first :: rest) =>
    .openArray :: first.tokens (Value.itemTokens rest (.closeArray :: behind))
  | .object [] => .openObject :: .closeObject :: behind
  | .object ((name, value) :: rest) =>
    .openObject :: .text (some name) :: .colon ::
      value.tokens (Value.memberTokens rest (.closeObject :: behind))

def Value.itemTokens (items : List Value) (behind : List Token) : List Token :=
  match items with
  | [] => behind
  | first :: rest => .comma :: first.tokens (Value.itemTokens rest behind)

def Value.memberTokens (members : List (String × Value)) (behind : List Token) : List Token :=
  match members with
  | [] => behind
  | (name, value) :: rest =>
    .comma :: .text (some name) :: .colon :: value.tokens (Value.memberTokens rest behind)

end

/-- The compact text of a value. -/
def Value.write (v : Value) : String := writeTokens (v.tokens [])

mutual

/-- The same value with the members of every object by increasing name. -/
def Value.sorted : Value → Value
  | .array items => .array (Value.sortedItems items)
  | .object members => .object (Value.sortedMembers members [])
  | v => v

def Value.sortedItems : List Value → List Value
  | [] => []
  | first :: rest => first.sorted :: Value.sortedItems rest

def Value.sortedMembers : List (String × Value) → Members → Members
  | [], done => done
  | (name, value) :: rest, done => Value.sortedMembers rest (done.set name value.sorted)

end

end PageSession.Json
