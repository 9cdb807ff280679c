import TunnelSession.Descriptor
import TunnelSession.Ending
import TunnelSession.Folder
import TunnelSession.Neighbors
import TunnelSession.Tunnel.Config

/-!
The engine that forwards packets, as a session sees it. It may write its logs into the storage
folder, and it lets go of every descriptor that it does not keep.
-/
namespace TunnelSession

inductive EngineError where
  | startFailed (reason : String)
  | crashed (reason : String)
  | notRunning
  | gatewayRejected (reason : String)
  deriving DecidableEq, Repr

def EngineError.message : EngineError → String
  | .startFailed reason => "Engine start failed: " ++ reason
  | .crashed reason => "Engine panicked: " ++ reason
  | .notRunning => "Engine not running"
  | .gatewayRejected reason => "Gateway update failed: " ++ reason

/-- What a call on the engine leaves behind; `dropped` are the descriptors it let go of. -/
structure Reply (σ : Type) where
  ending : Ending EngineError Unit
  engine : σ
  dir : Folder
  dropped : List Descriptor

class Engine (σ : Type) where
  start : σ → Folder → Descriptor → Tunnel.Params → Reply σ
  stop : σ → Folder → Reply σ
  redirect : σ → Folder → Address → Reply σ
  isRunning : σ → Bool
  neighbors : σ → Snapshot

end TunnelSession
