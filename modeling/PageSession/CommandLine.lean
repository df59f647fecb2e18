import PageSession.Session.Start

/-!
The command line of a session: its arguments, how a run ends when the session cannot be started,
and the report about it.

Models `Args` and what `main` makes of them.
-/
namespace PageSession.CommandLine
open Exchange

structure Arguments where
  /-- The configuration file that was named. -/
  configuration : Option String := none
  verbose : Bool := false
  deriving DecidableEq, Repr

/-- What the arguments ask for. -/
inductive Usage where
  | session (arguments : Arguments)
  | help
  | invalid
  deriving DecidableEq, Repr

/-- Names the configuration file, which may be named once. -/
def Arguments.name? (arguments : Arguments) (path : String) : Option Arguments :=
  if path.isEmpty || arguments.configuration.isSome then none
  else some { arguments with configuration := some path }

/-- Asks for more output, once. -/
def Arguments.speak? (arguments : Arguments) : Option Arguments :=
  if arguments.verbose then none else some { arguments with verbose := true }

/-- What a group of letters behind one hyphen asks for. -/
inductive Group where
  | options (arguments : Arguments)
  /-- The value of the last letter is the next argument. -/
  | unfinished (arguments : Arguments)
  | help
  | invalid

def readGroup (arguments : Arguments) : List Char → Group
  | [] => .options arguments
  | 'v' :: rest =>
    match arguments.speak? with
    | some arguments => readGroup arguments rest
    | none => .invalid
  | 'h' :: _ => .help
  | ['c'] => .unfinished arguments
  | 'c' :: '=' :: path | 'c' :: path =>
    match arguments.name? (String.ofList path) with
    | some arguments => .options arguments
    | none => .invalid
  | _ => .invalid

/-- An argument that is no value: it begins with a hyphen and goes on. -/
def isOption (argument : String) : Bool :=
  match argument.toList with
  | '-' :: _ :: _ => true
  | _ => false

mutual

/-- Reads arguments from left to right; the first that asks for help or is wrong decides. -/
def read (arguments : Arguments) : List String → Usage
  | [] => .session arguments
  | argument :: rest =>
    match argument.toList with
    | ['-', '-'] => if rest.isEmpty then .session arguments else .invalid
    | '-' :: '-' :: option =>
      match option.span (· ≠ '=') with
      | (['h', 'e', 'l', 'p'], []) => .help
      | (['v', 'e', 'r', 'b', 'o', 's', 'e'], []) =>
        match arguments.speak? with
        | some arguments => read arguments rest
        | none => .invalid
      | (['c', 'o', 'n', 'f', 'i', 'g'], []) => readPath arguments rest
      | (['c', 'o', 'n', 'f', 'i', 'g'], _ :: path) =>
        match arguments.name? (String.ofList path) with
        | some arguments => read arguments rest
        | none => .invalid
      | _ => .invalid
    | '-' :: letter :: letters =>
      match readGroup arguments (letter :: letters) with
      | .options arguments => read arguments rest
      | .unfinished arguments => readPath arguments rest
      | .help => .help
      | .invalid => .invalid
    | _ => .invalid

/-- Reads the path of the configuration file, and the arguments behind it. -/
def readPath (arguments : Arguments) : List String → Usage
  | [] => .invalid
  | path :: rest =>
    if isOption path then .invalid
    else match arguments.name? path with
      | some arguments => read arguments rest
      | none => .invalid

end

def usage (arguments : List String) : Usage := read {} arguments

/-! ## Reports -/

/-- A message with the lines behind the first one indented. -/
def indented (indent message : String) : String :=
  ("\n" ++ indent).intercalate (message.splitOn "\n")

def numberedCauses : Nat → List String → List String
  | _, [] => []
  | n, cause :: rest =>
    let number := toString n
    (String.ofList (List.replicate (5 - number.length) ' ') ++ number ++ ": " ++
      indented "       " cause) :: numberedCauses (n + 1) rest

/-- The report about a failure and its causes. -/
def errorReport : List String → String
  | [] => ""
  | [message] => "Error: " ++ message ++ "\n"
  | [message, cause] =>
    "Error: " ++ message ++ "\n\nCaused by:\n    " ++ indented "    " cause ++ "\n"
  | message :: causes =>
    "Error: " ++ message ++ "\n\nCaused by:\n" ++ "\n".intercalate (numberedCauses 0 causes) ++ "\n"

/-! ## Starting a session -/

/-- The configuration of a run. The usual file has a path of its own. -/
def configurationOf (arguments : Arguments) (contentOf : String → Session.FileContent)
    (usualPath : String) : Except String Session.Configuration :=
  let path := arguments.configuration.getD usualPath
  match Session.Configuration.resolve (arguments.configuration.map contentOf)
      (contentOf usualPath) with
  | .ok configuration => .ok configuration
  | .error failure => .error (errorReport [failure.message path])

/-- Starts a session over one connection, or reports why there is none; the reason is known when
the endpoint could not be reached. -/
def start {U : Type} (programs : U → Invocation → Program (Builtin.Handler U))
    (configuration : Session.Configuration) (unreachable : Option String) :
    Except String (Session U) :=
  match Session.start programs configuration (.listed [unreachable]) [] with
  | (some (.ok session), _) => .ok session
  | (some (.error failure), _) => .error (errorReport failure.chain)
  | (none, _) => .error (errorReport ["composition did not end"])

end PageSession.CommandLine
