import TunnelSession.Settings.Basic
import TunnelSession.Tunnel.Interface

/-!
An interface that makes nothing. It numbers its descriptors from 3 up and keeps those that it took
back; permission, once asked for, is granted for good.
-/
namespace TunnelSession.DryRun

structure Interface where
  permission : Bool
  installed : AppSet
  nextFd : Int := 3
  released : List Descriptor := []

namespace Interface

def establish (i : Interface) (c : Tunnel.Config) :
    Ending InterfaceError Establishment × Interface :=
  if i.permission then
    (.ok ⟨⟨i.nextFd, 0⟩, c.excluded.toList.filter (!i.installed.contains ·)⟩,
      { i with nextFd := i.nextFd + 1 })
  else (.error .permissionDenied, i)

def release (i : Interface) (d : Descriptor) : Interface :=
  { i with released := i.released ++ [d] }

instance : TunnelInterface Interface where
  establish := establish
  release := release
  askPermission i := (true, { i with permission := true })

end Interface

end TunnelSession.DryRun
