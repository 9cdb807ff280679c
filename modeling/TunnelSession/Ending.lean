/-!
How a call on a collaborator ends.
-/
namespace TunnelSession

/-- A call answers, fails with an error of the collaborator's own, or raises a payload, which is a
text or (`none`) something else. -/
inductive Ending (ε α : Type) where
  | ok (value : α)
  | error (cause : ε)
  | raised (payload : Option String)
  deriving DecidableEq, Repr

/-- The ways to end that give no answer. -/
inductive Failure (ε : Type) where
  | error (cause : ε)
  | raised (payload : Option String)
  deriving DecidableEq, Repr

def Failure.ending {ε α : Type} : Failure ε → Ending ε α
  | .error cause => .error cause
  | .raised payload => .raised payload

end TunnelSession
