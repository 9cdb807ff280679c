import TunnelSession.Descriptor
import TunnelSession.Ending
import TunnelSession.Tunnel.Config

/-!
The request for a tunnel interface, as a session sees it. Applications that it does not know are
no reason to refuse: they are reported as skipped.
-/
namespace TunnelSession

inductive InterfaceError where
  | permissionDenied
  | alreadyBound
  | addressConflict (detail : String)
  | failed (detail : String)
  deriving DecidableEq, Repr

def InterfaceError.message : InterfaceError → String
  | .permissionDenied => "VPN permission not granted"
  | .alreadyBound => "Another VPN is already active"
  | .addressConflict detail => "Address conflict: " ++ detail
  | .failed detail => "Interface setup failed: " ++ detail

structure Establishment where
  descriptor : Descriptor
  skipped : List String
  deriving DecidableEq, Repr

/-- `release` takes a descriptor back that its holder let go of. `askPermission` asks the user and
answers whether permission is granted now. -/
class TunnelInterface (ι : Type) where
  establish : ι → Tunnel.Config → Ending InterfaceError Establishment × ι
  release : ι → Descriptor → ι
  askPermission : ι → Bool × ι

end TunnelSession
