import TunnelSession.Settings.Store
import TunnelSession.Tunnel.Engine
import TunnelSession.Tunnel.Interface

/-!
Tunnel sessions. A session is idle, establishing, active or stopping, and one request at a time may
be in flight: inside the engine call that it makes. While one is, every other request is refused as
busy.
-/
namespace TunnelSession

namespace Session

inductive Phase where
  | idle
  | establishing
  | active
  | stopping
  deriving DecidableEq, Repr

def Phase.text : Phase → String
  | .idle => "Idle"
  | .establishing => "Establishing"
  | .active => "Active"
  | .stopping => "Stopping"

/-- The operations that a phase can refuse. -/
inductive Operation where
  | start
  | stop
  deriving DecidableEq, Repr

def Operation.text : Operation → String
  | .start => "start"
  | .stop => "stop"

inductive Error where
  | busy
  | invalidPhase (operation : Operation) (phase : Phase)
  | permissionRequired
  | config (cause : Tunnel.ConfigError)
  | interface (cause : InterfaceError)
  | engine (cause : EngineError)
  | dispatch (reason : String)
  deriving DecidableEq, Repr

namespace Error

def message : Error → String
  | .busy => "Another session operation is in progress"
  | .invalidPhase operation phase => "Cannot " ++ operation.text ++ " while " ++ phase.text
  | .permissionRequired => "VPN permission required"
  | .config cause => "Configuration error: " ++ cause.message
  | .interface cause => "Interface error: " ++ cause.message
  | .engine cause => cause.message
  | .dispatch reason => "Dispatch failed: " ++ reason

/-- A denied permission is something to ask for, not a fault of the interface. -/
def ofInterface : InterfaceError → Error
  | .permissionDenied => .permissionRequired
  | cause => .interface cause

end Error

inductive Request where
  | start
  | stop
  | switch (target : Candidate)
  deriving DecidableEq, Repr

def Request.name : Request → String
  | .start => "start"
  | .stop => "stop"
  | .switch _ => "switch-gateway"

/-- A request inside its engine call, with what the call is given. -/
inductive Flight where
  | start (descriptor : Descriptor) (params : Tunnel.Params)
  | stop
  | switch (target : Candidate)
  deriving DecidableEq

def Flight.request : Flight → Request
  | .start _ _ => .start
  | .stop => .stop
  | .switch target => .switch target

/-- How a request ended. A raised payload is one that nothing on its way caught. -/
inductive Verdict where
  | done
  | updated (target : Address)
  | notRunning
  | refused (cause : Error)
  | raised (payload : Option String)
  deriving DecidableEq, Repr

end Session

/-- `host` is the application that the session runs in, and `storage` names the folder that the
engine may write to. -/
structure Session (ε ι : Type) where
  phase : Session.Phase
  flight : Option Session.Flight
  store : Store
  engine : ε
  interface : ι
  host : String
  storage : String

namespace Session

variable {ε ι : Type}

def idle (store : Store) (engine : ε) (interface : ι) (host storage : String) : Session ε ι :=
  ⟨.idle, none, store, engine, interface, host, storage⟩

def isRunning (s : Session ε ι) : Bool :=
  s.phase = .active

end Session

end TunnelSession
