import PageSession.Toml.Scalar

/-!
Statements of a TOML document: headers that name a table, and assignments of values to keys. Keys
are paths of names. Arrays and inline tables may run over several lines, with comments, and may end
in a comma; a path stays on its line.
-/
namespace PageSession.Toml

/-- A value as it is written. -/
inductive Expression where
  | scalar (s : Scalar)
  | array (items : List Expression)
  | table (entries : List (List String × Expression))

inductive Statement where
  /-- The assignments behind it belong to the table of the path. -/
  | header (path : List String)
  /-- The assignments behind it belong to a new row of the tables of the path. -/
  | rowHeader (path : List String)
  | assignment (path : List String) (value : Expression)

/-- How deep arrays and inline tables may be nested, and how many names a path may have. -/
def nestingLimit : Nat := 80

def isKeyChar (c : Char) : Bool := c.isAlphanum || c = '_' || c = '-'

/-- A name of a key: without quotes, or a text on one line. -/
def name? (budget : Nat) (cs : List Char) : Option (String × List Char) :=
  match lineText? budget cs with
  | some found => some found
  | none =>
    let (name, rest) := cs.span isKeyChar
    if name.isEmpty then none else some (String.ofList name, rest)

/-- Names with dots between them, and the characters behind the blanks that follow. -/
def names? : Nat → List Char → Option (List String × List Char)
  | 0, _ => none
  | budget + 1, cs => do
    let (name, rest) ← name? (budget + 1) (cs.dropWhile isBlank)
    match rest.dropWhile isBlank with
    | '.' :: rest => do
      let (names, rest) ← names? budget rest
      pure (name :: names, rest)
    | rest => pure ([name], rest)

/-- A key at the front of some characters. -/
def path? (budget : Nat) (cs : List Char) : Option (List String × List Char) :=
  (names? budget cs).filter fun found => found.1.length ≤ nestingLimit

/-- The characters behind a comment. -/
def skipComment : List Char → List Char
  | '#' :: rest => rest.dropWhile isPlain
  | cs => cs

/-- The characters behind the rest of a line that says nothing more. -/
def endLine? (cs : List Char) : Option (List Char) :=
  match skipComment (cs.dropWhile isBlank) with
  | [] => some []
  | rest => newline? rest

/-- Skips blanks, ends of lines and comments. -/
def skipVoid : Nat → List Char → Option (List Char)
  | 0, _ => none
  | budget + 1, cs =>
    match cs.dropWhile isBlank with
    | '#' :: rest =>
      match rest.dropWhile isPlain with
      | [] => some []
      | rest => (newline? rest).bind (skipVoid budget)
    | rest =>
      match newline? rest with
      | some rest => skipVoid budget rest
      | none => some rest

mutual

/-- The value at the front of some characters; arrays and inline tables in it may be nested to the
given depth. -/
def value? (depth : Nat) : Nat → List Char → Option (Expression × List Char)
  | 0, _ => none
  | budget + 1, '[' :: rest =>
    match depth with
    | 0 => none
    | depth + 1 => (items? depth budget rest).map fun (items, rest) => (.array items, rest)
  | budget + 1, '{' :: rest =>
    match depth with
    | 0 => none
    | depth + 1 => (entries? depth budget rest).map fun (entries, rest) => (.table entries, rest)
  | budget + 1, cs => (scalar? (budget + 1) cs).map fun (s, rest) => (.scalar s, rest)

/-- The items of an array behind its bracket or behind a comma. -/
def items? (depth : Nat) : Nat → List Char → Option (List Expression × List Char)
  | 0, _ => none
  | budget + 1, cs => do
    match ← skipVoid (budget + 1) cs with
    | ']' :: rest => pure ([], rest)
    | cs =>
      let (item, rest) ← value? depth budget cs
      match ← skipVoid (budget + 1) rest with
      | ']' :: rest => pure ([item], rest)
      | ',' :: rest =>
        let (items, rest) ← items? depth budget rest
        pure (item :: items, rest)
      | _ => none

/-- The entries of an inline table behind its brace or behind a comma. -/
def entries? (depth : Nat) : Nat → List Char → Option (List (List String × Expression) × List Char)
  | 0, _ => none
  | budget + 1, cs => do
    match ← skipVoid (budget + 1) cs with
    | '}' :: rest => pure ([], rest)
    | cs =>
      let (path, rest) ← path? (budget + 1) cs
      match ← skipVoid (budget + 1) rest with
      | '=' :: rest =>
        let (value, rest) ← value? depth budget (← skipVoid (budget + 1) rest)
        match ← skipVoid (budget + 1) rest with
        | '}' :: rest => pure ([(path, value)], rest)
        | ',' :: rest =>
          let (entries, rest) ← entries? depth budget rest
          pure ((path, value) :: entries, rest)
        | _ => none
      | _ => none

end

/-- The statement at the front of some characters. -/
def statement? (budget : Nat) (cs : List Char) : Option (Statement × List Char) :=
  match cs with
  | '[' :: '[' :: rest => do
    match ← path? budget rest with
    | (path, ']' :: ']' :: rest) => pure (.rowHeader path, rest)
    | _ => none
  | '[' :: rest => do
    match ← path? budget rest with
    | (path, ']' :: rest) => pure (.header path, rest)
    | _ => none
  | cs => do
    match ← path? budget cs with
    | (path, '=' :: rest) =>
      let (value, rest) ← value? nestingLimit budget (rest.dropWhile isBlank)
      pure (.assignment path value, rest)
    | _ => none

/-- The statements of a document, each on lines of its own. -/
def statementsFrom? : Nat → List Char → Option (List Statement)
  | 0, _ => none
  | budget + 1, cs => do
    match ← skipVoid (budget + 1) cs with
    | [] => pure []
    | cs =>
      let (statement, rest) ← statement? (budget + 1) cs
      let rest ← endLine? rest
      let statements ← statementsFrom? budget rest
      pure (statement :: statements)

/-- The statements of a document, which may begin with a byte order mark. -/
def statements? (text : String) : Option (List Statement) :=
  let cs := match text.toList with
    | '\ufeff' :: rest => rest
    | cs => cs
  statementsFrom? (cs.length + 1) cs

end PageSession.Toml
