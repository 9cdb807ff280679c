import TunnelSession.Apps
import TunnelSession.Neighbors
import TunnelSession.Toml.Reader
import TunnelSession.Tunnel.Config

/-!
The shell's configuration, a TOML document in which everything may be left out. Members that it does
not know are passed over; members that it knows must have the right type. A neighbor or an
application is a table, or an array of its fields in order.
-/
namespace TunnelSession.Shell

structure Config where
  dataDir : String := "cute-data"
  logLevel : String := "info"
  host : String := Tunnel.defaultHost
  permission : Bool := true
  heartbeatSeconds : Nat := 5
  neighbors : List Neighbor := [⟨⟨172, 20, 0, 1⟩, "router"⟩, ⟨⟨172, 20, 0, 2⟩, "desktop"⟩]
  apps : List InstalledApp := [
    ⟨"Browser", "org.example.browser", false⟩,
    ⟨"Mail", "org.example.mail", false⟩,
    ⟨"System UI", "android.systemui", true⟩]
  deriving DecidableEq, Repr

inductive ConfigError where
  | invalid
  | unreadable (path : String)
  deriving DecidableEq, Repr

def ConfigError.message : ConfigError → String
  | .invalid => "invalid shell configuration"
  | .unreadable path => "cannot read " ++ path

namespace Config

/-- The file that is read when no other is named, if it is there. -/
def defaultFile : String := "cute-shell.toml"

def text? : Toml → Option String
  | .text s => some s
  | _ => none

def flag? : Toml → Option Bool
  | .boolean b => some b
  | _ => none

def seconds? : Toml → Option Nat
  | .integer (.ofNat n) => some n
  | _ => none

def address? : Toml → Option Address
  | .text s => Address.parse? s
  | _ => none

def items? {α : Type} (item? : Toml → Option α) : Toml → Option (List α)
  | .array items => items.mapM item?
  | _ => none

/-- A member, or what stands in for it where it is missing. -/
def memberD? {α : Type} (ms : List (String × Toml)) (key : String) (missing : α)
    (read? : Toml → Option α) : Option α :=
  match ms.lookup key with
  | none => some missing
  | some v => read? v

def neighbor? : Toml → Option Neighbor
  | .table ms => do
    return ⟨← (ms.lookup "address").bind address?, ← (ms.lookup "name").bind text?⟩
  | .array (name :: address :: _) => do return ⟨← address? address, ← text? name⟩
  | _ => none

def app? : Toml → Option InstalledApp
  | .table ms => do
    return ⟨← (ms.lookup "name").bind text?, ← (ms.lookup "package").bind text?,
      ← memberD? ms "system" false flag?⟩
  | .array [name, package] => do return ⟨← text? name, ← text? package, false⟩
  | .array (name :: package :: system :: _) => do
    return ⟨← text? name, ← text? package, ← flag? system⟩
  | _ => none

def ofMembers? (ms : List (String × Toml)) : Option Config := do
  let initial : Config := {}
  return {
    dataDir := ← memberD? ms "data_dir" initial.dataDir text?
    logLevel := ← memberD? ms "log_level" initial.logLevel text?
    host := ← memberD? ms "host_app_id" initial.host text?
    permission := ← memberD? ms "permission_granted" initial.permission flag?
    heartbeatSeconds := ← memberD? ms "heartbeat_secs" initial.heartbeatSeconds seconds?
    neighbors := ← memberD? ms "neighbors" initial.neighbors (items? neighbor?)
    apps := ← memberD? ms "apps" initial.apps (items? app?) }

def parse (text : String) : Except ConfigError Config :=
  match (Toml.document? text).bind ofMembers? with
  | some c => .ok c
  | none => .error .invalid

end Config

/-- What stands at a path: nothing, something that is not a text, or a text. -/
inductive Found where
  | nothing
  | unreadable
  | text (content : String)
  deriving DecidableEq, Repr

/-- The configuration from the file named, which must be there, or from the default file, which need
not. -/
def Config.load (find : String → Found) : Option String → Except ConfigError Config
  | some path =>
    match find path with
    | .text content => Config.parse content
    | _ => .error (.unreadable path)
  | none =>
    match find defaultFile with
    | .nothing => .ok {}
    | .text content => Config.parse content
    | .unreadable => .error (.unreadable defaultFile)

end TunnelSession.Shell
