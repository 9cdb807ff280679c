import TunnelSession.Session.Basic

/-!
What a front end is told about a request that has ended. A start that was refused for the phase of
the session is a failed operation, and any other start that did not succeed is a failed start.
-/
namespace TunnelSession

inductive Outcome where
  | started
  | startFailed (message : String) (permissionRequired : Bool)
  | stopped
  | gatewayUpdated (target : Address)
  | notRunning
  | failed (message : String)
  deriving DecidableEq, Repr

namespace Outcome

open Session

def text : Outcome → String
  | .started => "VPN started"
  | .startFailed message _ => "VPN failed to start: " ++ message
  | .stopped => "VPN stopped"
  | .gatewayUpdated target => "Gateway updated to " ++ target.text
  | .notRunning => "VPN is not running"
  | .failed message => "Operation failed: " ++ message

def ofRefusal : Request → Session.Error → Outcome
  | .start, .invalidPhase operation phase => .failed (Error.invalidPhase operation phase).message
  | .start, cause => .startFailed cause.message (cause = .permissionRequired)
  | _, cause => .failed cause.message

/-- The outcome of a request; none where it ended in a payload that nothing caught. -/
def of? (r : Request) : Verdict → Option Outcome
  | .raised _ => none
  | .refused cause => some (ofRefusal r cause)
  | .updated target => some (.gatewayUpdated target)
  | .notRunning => some .notRunning
  | .done => some (if r = .stop then .stopped else .started)

end Outcome

end TunnelSession
