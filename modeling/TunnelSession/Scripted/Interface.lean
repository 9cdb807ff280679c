import TunnelSession.Tunnel.Interface

/-!
An interface that follows a script. It hands out descriptors from 10 up and counts those it made and
those it took back. A fresh one takes the place of the last without taking its descriptors over.
-/
namespace TunnelSession.Scripted

/-- `installed` are the applications it knows (`none`: all there are). `skipped` and the number of
times the user was asked belong to the whole script and outlive a fresh interface. -/
structure Interface where
  issuer : Nat := 0
  permission : Bool := true
  failure : Option InterfaceError := none
  payload : Option String := none
  installed : Option AppSet := none
  nextFd : Int := 10
  established : Nat := 0
  released : Nat := 0
  lastConfig : Option Tunnel.Config := none
  skipped : List String := []
  grant : Bool := true
  asked : Nat := 0

namespace Interface

/-- An interface that knows the given applications and the default host. -/
def knowing (installed : Option (List String)) : Interface :=
  { installed := installed.map fun ids => (Std.ExtTreeSet.ofList ids).insert Tunnel.defaultHost }

/-- A fresh interface in the place of the last one. -/
def reset (i : Interface) (installed : Option (List String)) : Interface :=
  { knowing installed with
    issuer := i.issuer + 1, skipped := i.skipped, grant := i.grant, asked := i.asked }

def skippedOf (i : Interface) (excluded : AppSet) : List String :=
  match i.installed with
  | some installed => excluded.toList.filter (!installed.contains ·)
  | none => []

def establish (i : Interface) (c : Tunnel.Config) :
    Ending InterfaceError Establishment × Interface :=
  match i.payload, i.permission, i.failure with
  | some payload, _, _ => (.raised (some payload), i)
  | none, false, _ => (.error .permissionDenied, i)
  | none, true, some cause => (.error cause, i)
  | none, true, none =>
    let skipped := i.skippedOf c.excluded
    (.ok ⟨⟨i.nextFd, i.issuer⟩, skipped⟩, { i with
      nextFd := i.nextFd + 1, established := i.established + 1, lastConfig := some c, skipped })

/-- Only descriptors of its own count. -/
def release (i : Interface) (d : Descriptor) : Interface :=
  if d.issuer = i.issuer then { i with released := i.released + 1 } else i

instance : TunnelInterface Interface where
  establish := establish
  release := release
  askPermission i := (i.grant, { i with asked := i.asked + 1 })

end Interface

end TunnelSession.Scripted
