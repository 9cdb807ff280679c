import TunnelSession.Session.Outcome

/-!
The start and stop controls. Pressing one disables it; an outcome enables the one that can be used
next.
-/
namespace TunnelSession.Console

structure Controls where
  start : Bool
  stop : Bool
  deriving DecidableEq, Repr

namespace Controls

def connected (running : Bool) : Controls :=
  ⟨!running, running⟩

/-- Whether the press counted, and the controls after it. -/
def pressStart (c : Controls) : Bool × Controls :=
  (c.start, { c with start := false })

def pressStop (c : Controls) : Bool × Controls :=
  (c.stop, { c with stop := false })

def onOutcome (c : Controls) : Outcome → Controls
  | .started => { c with stop := true }
  | .startFailed _ _ | .stopped => { c with start := true }
  | _ => c

/-- As far as the controls show, a session runs while it can be stopped. -/
def isRunning (c : Controls) : Bool := c.stop

end Controls

end TunnelSession.Console
