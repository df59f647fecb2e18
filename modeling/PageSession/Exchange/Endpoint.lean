/-!
Endpoints that are dialed over a network: a host and a port behind the last colon.

Models the addresses that `TcpConnector` opens.
-/
namespace PageSession.Exchange

structure Endpoint where
  host : String
  port : Nat
  deriving DecidableEq, Repr

/-- Why an endpoint cannot be reached. -/
inductive Endpoint.Failure where
  | noPort
  | badPort
  /-- There is no network to reach it over. -/
  | unreachable
  deriving DecidableEq, Repr

def Endpoint.Failure.message : Endpoint.Failure → String
  | .noPort => "invalid socket address"
  | .badPort => "invalid port value"
  | .unreachable => "Network is unreachable (os error 101)"

/-- A port in decimal digits, with or without a plus sign. -/
def port? (text : List Char) : Option Nat :=
  let digits := match text with
    | '+' :: rest => rest
    | text => text
  if digits.isEmpty || !digits.all Char.isDigit then none
  else
    let port := digits.foldl (fun n digit => 10 * n + (digit.toNat - '0'.toNat)) 0
    if port < UInt16.size then some port else none

def Endpoint.parse (text : String) : Except Endpoint.Failure Endpoint :=
  let backwards := text.toList.reverse
  match backwards.dropWhile (· ≠ ':') with
  | [] => .error .noPort
  | _ :: host =>
    match port? (backwards.takeWhile (· ≠ ':')).reverse with
    | some port => .ok { host := String.ofList host.reverse, port }
    | none => .error .badPort

/-- The outcome of dialing an endpoint where there is no network. -/
def Endpoint.dialWithoutNetwork (text : String) : Endpoint.Failure :=
  match Endpoint.parse text with
  | .ok _ => .unreachable
  | .error failure => failure

end PageSession.Exchange
