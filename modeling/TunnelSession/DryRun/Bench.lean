import TunnelSession.Apps
import TunnelSession.DryRun.Engine
import TunnelSession.DryRun.Interface

/-!
The engine and the interface on a bench, without a session: they are called one at a time, with
descriptors of the bench's own or with the one that was established last.
-/
namespace TunnelSession.DryRun

/-- `offered` is the descriptor established last, until a start uses it up. -/
structure Bench where
  engine : Engine
  interface : Interface
  apps : List InstalledApp
  dir : Folder
  offered : Option Descriptor := none

namespace Bench

inductive Step where
  | start (fd : Option Int) (p : Tunnel.Params)
  | stop
  | redirect (target : Address)
  | neighbors
  | log
  | heartbeat
  | establish (c : Tunnel.Config)
  | drop
  | request
  | apps (excluded : AppSet)

inductive Answer where
  | nothing
  | ending (e : Ending EngineError Unit)
  | candidates (cs : List Candidate)
  | log (texts : List String)
  | established (e : Ending InterfaceError Establishment)
  | flag (b : Bool)
  | apps (installed : List InstalledApp) (eligible : List EligibleApp)

/-- The issuer of the bench's own descriptors. -/
def own : Nat := 1

/-- A descriptor by its number, or else the one offered, or else the first that there could be. -/
def descriptor (b : Bench) : Option Int → Descriptor
  | some fd => ⟨fd, own⟩
  | none => b.offered.getD ⟨3, 0⟩

def absorb (b : Bench) (reply : Reply Engine) : Bench :=
  { b with
    engine := reply.engine
    dir := reply.dir
    interface := reply.dropped.foldl Interface.release b.interface }

def dropOffered (b : Bench) : Bench :=
  { b with
    interface := b.offered.toList.foldl Interface.release b.interface
    offered := none }

/-- The numbers of the bench's own descriptors that were let go of. -/
def released (b : Bench) : List Int :=
  (b.interface.released.filter (·.issuer = own)).map (·.fd)

/-- Whoever starts with a descriptor of the bench's own lets go of the one that is offered. -/
def start (b : Bench) (fd : Option Int) (p : Tunnel.Params) : Answer × Bench :=
  let reply := Engine.start b.engine b.dir (b.descriptor fd) p
  let b := b.absorb reply
  (.ending reply.ending, if fd.isSome then b.dropOffered else { b with offered := none })

def stop (b : Bench) : Bench :=
  b.absorb (Engine.stop b.engine b.dir)

def establish (b : Bench) (c : Tunnel.Config) : Answer × Bench :=
  match Interface.establish b.interface c with
  | (.ok made, interface) =>
    let b := dropOffered { b with interface }
    (.established (.ok made), { b with offered := some made.descriptor })
  | (ending, interface) => (.established ending, { b with interface })

/-- Lets time pass up to the next heartbeat. -/
def heartbeat (b : Bench) : Bench :=
  let (engine, dir) := b.engine.advance b.dir (b.engine.now.after b.engine.period)
  { b with engine, dir }

def step (b : Bench) : Step → Answer × Bench
  | .start fd p => b.start fd p
  | .stop => (.ending (.ok ()), b.stop)
  | .redirect target =>
    let reply := Engine.redirect b.engine b.dir target
    (.ending reply.ending, b.absorb reply)
  | .neighbors => (.candidates (TunnelSession.Engine.neighbors b.engine).candidates, b)
  | .log => (.log (Log.datedTexts b.dir), b)
  | .heartbeat =>
    let b := b.heartbeat
    (.log (Log.datedTexts b.dir), b)
  | .establish c => b.establish c
  | .drop => (.nothing, b.dropOffered)
  | .request =>
    let (granted, interface) := TunnelInterface.askPermission b.interface
    (.flag granted, { b with interface })
  | .apps excluded => (.apps b.apps (eligibleApps b.apps excluded), b)

end Bench

end TunnelSession.DryRun
