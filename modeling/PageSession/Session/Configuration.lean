import PageSession.Builtin.Kind
import PageSession.Exchange.Credentials
import PageSession.Toml.Document

/-!
The configuration of a session, written in TOML. Every section may be missing; sections that are
not known are refused, so that a misspelled one does not go unnoticed.

Models `ShellConfig` with `parse`, `load` and `resolve`.
-/
namespace PageSession.Session
open Json Page

structure Configuration where
  /-- The store from which credentials are read. -/
  credentials : List (String × String) := []
  page : Context := { path := "/" }
  startup : Assembly.Settings := {}
  exchange : Exchange.Settings := {}
  /-- The paths to compose, in order. -/
  interfaces : List NodePath := Builtin.Kind.all.filterMap fun kind => NodePath.ofText? kind.name
  /-- The resources to load. -/
  resources : List Resource := Builtin.Kind.all.map Builtin.Kind.resource

namespace Configuration

def sections : List String :=
  ["credentials", "page", "bootstrap", "rpc", "interfaces", "resources"]

/-- Whether a datum has no other members than the sections. -/
def hasOnlySections : Datum → Bool
  | .table members => members.all fun member => sections.contains member.1
  | _ => true

def read : Reader Configuration := fun depth datum =>
  if !hasOnlySections datum then none
  else
    Reader.record sections (fun depth slots =>
      match slots with
      | [credentials, page, startup, exchange, interfaces, resources] => do
        let standard : Configuration := {}
        let credentials ← Reader.texts.orDefault standard.credentials depth credentials
        let page ← Context.read.orDefault standard.page depth page
        let startup ← Assembly.Settings.read.orDefault standard.startup depth startup
        let exchange ← Exchange.Settings.read.orDefault standard.exchange depth exchange
        let interfaces ← NodePath.read.list.orDefault standard.interfaces depth interfaces
        let resources ← Resource.read.list.orDefault standard.resources depth resources
        pure { credentials, page, startup, exchange, interfaces, resources }
      | _ => none) depth datum

/-- Reads the text of a configuration file. -/
def parse (text : String) : Option Configuration := read.ofToml? text

def store (configuration : Configuration) (name : String) : Option String :=
  (configuration.credentials.find? fun entry => entry.1 == name).map Prod.snd

end Configuration

/-- What there is where a file is looked for. -/
inductive FileContent where
  | missing
  | directory
  | bytes (content : ByteArray)
  /-- A file that cannot be read. -/
  | sealed (reason : String)

inductive ConfigurationFailure where
  | unreadable (reason : String)
  | malformed
  deriving DecidableEq, Repr

/-- The message about the file at a path. -/
def ConfigurationFailure.message (path : String) : ConfigurationFailure → String
  | .unreadable reason => "I/O error reading " ++ path ++ ": " ++ reason
  | .malformed => "TOML parse error"

namespace Configuration

/-- Reads a configuration file. -/
def load : FileContent → Except ConfigurationFailure Configuration
  | .missing => .error (.unreadable "No such file or directory (os error 2)")
  | .directory => .error (.unreadable "Is a directory (os error 21)")
  | .sealed reason => .error (.unreadable reason)
  | .bytes content =>
    match String.fromUTF8? content with
    | none => .error (.unreadable "stream did not contain valid UTF-8")
    | some text =>
      match parse text with
      | some configuration => .ok configuration
      | none => .error .malformed

/-- The configuration of a file that was named, else of the usual file if there is one, else the
standard one. -/
def resolve (named : Option FileContent) (usual : FileContent) :
    Except ConfigurationFailure Configuration :=
  match named, usual with
  | some file, _ => load file
  | none, .missing | none, .directory => .ok {}
  | none, file => load file

end Configuration
end PageSession.Session
