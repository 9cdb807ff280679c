import TunnelSession.Address
import TunnelSession.Settings.Basic
import TunnelSession.Text.Quoted
import TunnelSession.Tunnel.Links

/-!
What a tunnel is made from: the configuration that the interface is asked for and the parameters
that the engine is given, both derived from the settings of the moment. The host application is
always excluded.
-/
namespace TunnelSession.Tunnel

def prefixLength : Nat := 24

def mtu : Nat := 1350

def label : String := "CuteVPN"

/-- The host application, unless another one is named. -/
def defaultHost : String := "com.github.clmul.cute"

structure Config where
  localAddress : Address
  dnsServer : Address
  excluded : AppSet
  prefixLength : Nat := Tunnel.prefixLength
  routes : List Route := [.default]
  mtu : Nat := Tunnel.mtu
  label : String := Tunnel.label

structure Params where
  storage : String
  localName : String
  localAddress : Route
  gateway : String
  links : List String
  deriving DecidableEq

inductive ConfigError where
  | missingSetting (key : Settings.Key)
  | invalidAddress (key : Settings.Key) (value : String)
  deriving DecidableEq, Repr

def ConfigError.message : ConfigError → String
  | .missingSetting key => "Missing setting: " ++ key.text
  | .invalidAddress key value => "Invalid " ++ key.text ++ " address: " ++ Text.quote value

def required (s : Settings) (key : Settings.Key) : Except ConfigError String :=
  match s.get? key with
  | some value => .ok value
  | none => .error (.missingSetting key)

/-- The address that a setting holds, blanks around it aside. -/
def address (s : Settings) (key : Settings.Key) : Except ConfigError Address := do
  let value ← required s key
  match Address.ofChars? (Text.strip value.toList) with
  | some a => return a
  | none => throw (.invalidAddress key value)

def config (host : String) (s : Settings) : Except ConfigError Config := do
  let localAddress ← address s .localAddress
  let dnsServer ← address s .dnsServer
  return { localAddress, dnsServer, excluded := s.apps.insert host }

def params (storage : String) (s : Settings) : Except ConfigError Params := do
  let localAddress ← address s .localAddress
  let localName ← required s .name
  let gateway ← required s .gateway
  let links ← required s .links
  return {
    storage, localName, gateway
    localAddress := ⟨localAddress, prefixLength⟩
    links := Tunnel.links links }

end TunnelSession.Tunnel
