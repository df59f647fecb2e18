import PageSession.CommandLine
import PageSession.Exchange.Endpoint
import PageSession.Session.Files
import PageSession.Session.Online
import Std.Async.DNS
import Std.Async.TCP
import Std.Async.Timer

/-!
The command: it reads files, dials, and moves bytes between the socket and the session. What all of
this means is decided elsewhere.
-/
namespace PageSession.Command
open Session Exchange CommandLine
open Std.Async Std.Net

/-- The number of a system failure, which may have been negated. -/
def systemNumber (code : UInt32) : Nat :=
  if code.toNat < UInt32.size / 2 then code.toNat else UInt32.size - code.toNat

/-- A system failure by its text and its number. -/
def systemReason (text : String) (code : UInt32) : String :=
  text.capitalize ++ " (os error " ++ toString (systemNumber code) ++ ")"

def reasonOf : IO.Error → String
  | .noFileOrDirectory _ code text | .permissionDenied _ code text | .noSuchThing _ code text
  | .inappropriateType _ code text | .invalidArgument _ code text | .resourceExhausted _ code text
  | .timeExpired code text | .resourceVanished code text
  | .hardwareFault code text | .otherError code text => systemReason text code
  | other => toString other

/-- What there is at a path. -/
def contentAt (path : String) : IO FileContent := do
  try return .bytes (← IO.FS.readBinFile path)
  catch
    | .noFileOrDirectory _ _ _ => return .missing
    | .inappropriateType none _ _ => return .directory
    | .inappropriateType (some _) _ _ => return Obstacle.noFolder.content
    | .invalidArgument path code text =>
      if systemNumber code = 36 then return Obstacle.longName.content
      else return .sealed (reasonOf (.invalidArgument path code text))
    | failure => return .sealed (reasonOf failure)

/-- Where the configuration file is looked for when none is named. -/
def usualPath : IO String := do
  let folder ← match ← IO.getEnv "XDG_CONFIG_HOME" with
    | some folder => if folder.startsWith "/" then pure folder else homeFolder
    | none => homeFolder
  return folder ++ "/trellis/shell.toml"
where
  homeFolder : IO String := do return (← IO.getEnv "HOME").getD "" ++ "/.config"

/-- The addresses of a host. -/
def addressesOf (host : String) (port : UInt16) : IO (List SocketAddress) := do
  let found ← (DNS.getAddrInfo host (toString port)).block
  return found.toList.map fun
    | .v4 addr => .v4 { addr, port }
    | .v6 addr => .v6 { addr, port }

/-- A socket that is connected to the first address that answers, or the last failure. -/
def dial (endpoint : String) : IO (Except String TCP.Socket.Client) := do
  match Endpoint.parse endpoint with
  | .error failure => return .error failure.message
  | .ok { host, port } =>
    try
      let mut reason := "could not resolve to any address"
      for address in ← addressesOf host port.toUInt16 do
        try
          let socket ← TCP.Socket.Client.mk
          (socket.connect address).block
          return .ok socket
        catch failure => reason := reasonOf failure
      return .error reason
    catch failure => return .error (reasonOf failure)

/-- The handlers of the command are those of the built-in modules. -/
def programs (handler : Empty) (_ : Invocation) : Program (Builtin.Handler Empty) := handler.elim

def budget : Nat := 100000

/-- What a session waits for. -/
inductive Happening where
  | arrived (bytes : ByteArray)
  | ended (supply : Supply)
  | elapsed

/-- Waits for bytes, but only for so long. -/
def await (socket : TCP.Socket.Client) (patience : Option Nat) : IO Happening := do
  let reading : Selectable Happening :=
    .case (socket.recvSelector 65536) fun
      | some bytes => pure (.arrived bytes)
      | none => pure (.ended .ended)
  let waiting : Async Happening := do
    match patience with
    | none => Selectable.one #[reading]
    | some ms =>
      Selectable.one #[reading, .case (← Selector.sleep (.ofNat ms)) fun _ => pure .elapsed]
  try waiting.block
  catch failure => return .ended (.failing (reasonOf failure))

/-- Serves a session until its line ends. -/
partial def serve (socket : TCP.Socket.Client) (online : Online Empty) (time : Nat) : IO Unit := do
  let settled := online.settle programs budget budget
  let written := online.stream.written.size
  let fresh := settled.stream.written.extract written settled.stream.written.size
  let settled ←
    if fresh.isEmpty then pure settled
    else try
      (socket.send fresh).block
      pure settled
    catch failure =>
      pure ((settled.endWriting (reasonOf failure)).settle programs budget budget)
  if settled.isOver then return
  let happening ← await socket settled.patience?
  let now ← IO.monoMsNow
  let later := settled.advance (now - time)
  match happening with
  | .arrived bytes => serve socket (later.receive bytes) now
  | .ended supply => serve socket (later.endSupply supply) now
  | .elapsed => serve socket later now

/-- Runs a session, or reports why there is none. -/
def run (arguments : Arguments) : IO UInt32 := do
  let usual ← usualPath
  let usualContent ← contentAt usual
  let namedContent ← match arguments.configuration with
    | some path => contentAt path
    | none => pure usualContent
  let contentOf (path : String) : FileContent :=
    if path = usual then usualContent else namedContent
  match configurationOf arguments contentOf usual with
  | .error report => fail report
  | .ok configuration =>
    let socket ← match Credentials.ofStore configuration.store with
      | .ok credentials => dial credentials.endpoint
      | .error _ => pure (.error "")
    match start programs configuration (match socket with
      | .ok _ => none
      | .error reason => some reason), socket with
    | .error report, _ => fail report
    | .ok session, .ok socket =>
      match Online.ofSession? session with
      | some online => serve socket online (← IO.monoMsNow)
      | none => pure ()
      return 0
    | .ok _, .error reason => fail (errorReport [reason])
where
  fail (report : String) : IO UInt32 := do
    IO.eprint report
    return 1

/-- How the command is used. -/
def help : String :=
  "Bootstrap a Trellis page and serve its requests\n\n" ++
  "Usage: trellis-shell [OPTIONS]\n\nOptions:\n" ++
  "  -c, --config <PATH>  Configuration file (defaults to <config dir>/trellis/shell.toml)\n" ++
  "  -v, --verbose        Verbose logging\n" ++
  "  -h, --help           Print help\n"

end PageSession.Command

open PageSession in
def main (arguments : List String) : IO UInt32 := do
  match CommandLine.usage arguments with
  | .help =>
    IO.print Command.help
    return 0
  | .invalid =>
    IO.eprint Command.help
    return 2
  | .session arguments => Command.run arguments
