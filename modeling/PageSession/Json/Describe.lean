import PageSession.Json.Value
import PageSession.Text.Quoted

/-!
Values as they appear in messages about them: each with the name of its kind.
-/
namespace PageSession.Json

mutual

def Value.describe : Value → String
  | .null => "Null"
  | .bool b => "Bool(" ++ toString b ++ ")"
  | .number n => "Number(" ++ n.text ++ ")"
  | .text s => "String(" ++ Text.quoted s ++ ")"
  | .array items => "Array [" ++ ", ".intercalate (Value.describeItems items) ++ "]"
  | .object members => "Object \x7b" ++ ", ".intercalate (Value.describeMembers members) ++ "\x7d"

def Value.describeItems : List Value → List String
  | [] => []
  | first :: rest => first.describe :: Value.describeItems rest

def Value.describeMembers : List (String × Value) → List String
  | [] => []
  | (name, value) :: rest =>
    (Text.quoted name ++ ": " ++ value.describe) :: Value.describeMembers rest

end

/-- The members of an object without the name of the kind. -/
def Members.describe (members : Members) : String :=
  "\x7b" ++ ", ".intercalate (Value.describeMembers members) ++ "\x7d"

/-- A part of a description that may be absent. -/
def describeOption {α : Type} (describe : α → String) : Option α → String
  | none => "None"
  | some x => "Some(" ++ describe x ++ ")"

/-- A description with named parts. -/
def describeRecord (name : String) (parts : List (String × String)) (more : Bool) : String :=
  let shown := parts.map fun part => part.1 ++ ": " ++ part.2
  name ++ " \x7b " ++ ", ".intercalate (if more then shown ++ [".."] else shown) ++ " \x7d"

end PageSession.Json
