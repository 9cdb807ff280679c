import TunnelSession.Address

/-!
Gateway candidates. A snapshot lists them by address, read as a number; candidates at one address
stay in the order in which they were given.
-/
namespace TunnelSession

structure Neighbor where
  address : Address
  name : String
  deriving DecidableEq, Repr

/-- A neighbor as it is offered: `id` is its place in the snapshot it was taken from. -/
structure Candidate where
  id : Nat
  name : String
  address : Address
  deriving DecidableEq, Repr

def Candidate.label (c : Candidate) : String :=
  c.name ++ "  " ++ c.address.text

structure Snapshot where
  entries : List Neighbor
  deriving DecidableEq, Repr

namespace Snapshot

def empty : Snapshot := ⟨[]⟩

def ofList (ns : List Neighbor) : Snapshot :=
  ⟨ns.mergeSort fun a b => a.address.toNat ≤ b.address.toNat⟩

def size (s : Snapshot) : Nat := s.entries.length

def get? (s : Snapshot) (i : Nat) : Option Neighbor := s.entries[i]?

/-- What is said of a place that the snapshot does not have. -/
def outOfRange (s : Snapshot) (i : Nat) : String :=
  "index out of bounds: the len is " ++ toString s.size ++ " but the index is " ++ toString i

def candidates (s : Snapshot) : List Candidate :=
  s.entries.mapIdx fun id n => ⟨id, n.name, n.address⟩

end Snapshot

end TunnelSession
