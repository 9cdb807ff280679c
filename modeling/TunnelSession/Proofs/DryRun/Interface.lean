import Mathlib.Data.List.Nodup
import TunnelSession.DryRun.Interface

/-!
What the calls on a dry interface come to: `establish_establishes` lists the ends of a request for
one, and `handedOut` the descriptors that it made.
-/

namespace TunnelSession.DryRun.Interface

/-- The ends of a request for an interface. -/
inductive Establishes (i : Interface) : Ending InterfaceError Establishment → Interface → Prop
  | denied (permission : i.permission = false) : Establishes i (.error .permissionDenied) i
  | made {skipped} (permission : i.permission = true) :
      Establishes i (.ok ⟨⟨i.nextFd, 0⟩, skipped⟩) { i with nextFd := i.nextFd + 1 }

theorem establishes_of_eq {i j : Interface} {config : Tunnel.Config}
    {ending : Ending InterfaceError Establishment}
    (answer : TunnelInterface.establish i config = (ending, j)) : Establishes i ending j := by
  change establish i config = (ending, j) at answer
  unfold establish at answer
  split at answer
  · rename_i permission
    cases answer
    exact .made permission
  · rename_i permission
    cases answer
    exact .denied (by simpa using permission)

theorem Establishes.permission {i j : Interface} {ending : Ending InterfaceError Establishment}
    (h : Establishes i ending j) : j.permission = i.permission := by
  cases h <;> rfl

/-- The descriptors that were made: they are numbered from 3 up. -/
def handedOut (i : Interface) : List Descriptor :=
  (List.range (i.nextFd - 3).toNat).map fun n : Nat => ⟨3 + n, 0⟩

/-- A request that is answered makes one more descriptor, and is answered with that. -/
theorem Establishes.handedOut {i j : Interface} {answer : Establishment}
    (h : Establishes i (.ok answer) j) (numbered : 3 ≤ i.nextFd) :
    3 ≤ j.nextFd ∧ j.handedOut = i.handedOut ++ [answer.descriptor] ∧ j.released = i.released := by
  cases h with
  | made =>
    have more : (i.nextFd + 1 - 3).toNat = (i.nextFd - 3).toNat + 1 := by omega
    have last : 3 + ((i.nextFd - 3).toNat : Int) = i.nextFd := by omega
    refine ⟨by change 3 ≤ i.nextFd + 1; omega, ?_, rfl⟩
    simp only [Interface.handedOut, more, List.range_succ, List.map_append, List.map_singleton,
      last]

section Releases

variable (dropped : List Descriptor) (i : Interface)

end Releases

end TunnelSession.DryRun.Interface
