import TunnelSession.Tunnel.Engine

/-!
An engine that follows a script. Left alone it starts, stops and redirects as it is asked, counting
as it goes; a script can make its calls fail or raise, with the engine itself seeing nothing of the
call where it is overridden. It answers for the descriptors that it accepts.
-/
namespace TunnelSession.Scripted

inductive StartBehavior where
  | succeed
  | fail (reason : String)
  | crash
  deriving DecidableEq, Repr

/-- The engine behind the overrides. -/
structure Plain where
  running : Bool := false
  starts : Nat := 0
  stops : Nat := 0
  behavior : StartBehavior := .succeed
  rejection : Option String := none
  gateways : List Address := []
  neighbors : Snapshot := .empty
  lastParams : Option Tunnel.Params := none

/-- How calls fail instead of reaching the engine; a stop can only raise. -/
structure Overrides where
  start : Option (Failure EngineError) := none
  stop : Option String := none
  redirect : Option (Failure EngineError) := none

/-- Which calls are to be held when they come, and how many holds there are in all, those on a call
under way included. -/
structure Holds where
  start : Bool := false
  stop : Bool := false
  count : Nat := 0

structure Engine where
  plain : Plain := {}
  overrides : Overrides := {}
  holds : Holds := {}

namespace Plain

/-- How a start ends, and whether the descriptor was accepted. -/
def start (e : Plain) (p : Tunnel.Params) : Ending EngineError Unit × Plain :=
  let e := { e with starts := e.starts + 1, lastParams := some p }
  match e.behavior with
  | .succeed => (.ok (), { e with running := true })
  | .fail reason => (.error (.startFailed reason), e)
  | .crash => (.raised (some "engine exploded"), e)

def stop (e : Plain) : Plain :=
  { e with stops := e.stops + 1, running := false }

def redirect (e : Plain) (target : Address) : Ending EngineError Unit × Plain :=
  match e.rejection with
  | some reason => (.error (.gatewayRejected reason), e)
  | none => (.ok (), { e with gateways := e.gateways ++ [target] })

end Plain

namespace Engine

def start (e : Engine) (dir : Folder) (d : Descriptor) (p : Tunnel.Params) : Reply Engine :=
  match e.overrides.start with
  | some failure => ⟨failure.ending, e, dir, [d]⟩
  | none =>
    let (ending, plain) := e.plain.start p
    ⟨ending, { e with plain }, dir, if ending = .ok () then [] else [d]⟩

def stop (e : Engine) (dir : Folder) : Reply Engine :=
  match e.overrides.stop with
  | some payload => ⟨.raised (some payload), e, dir, []⟩
  | none => ⟨.ok (), { e with plain := e.plain.stop }, dir, []⟩

def redirect (e : Engine) (dir : Folder) (target : Address) : Reply Engine :=
  match e.overrides.redirect with
  | some failure => ⟨failure.ending, e, dir, []⟩
  | none =>
    let (ending, plain) := e.plain.redirect target
    ⟨ending, { e with plain }, dir, []⟩

instance : TunnelSession.Engine Engine where
  start := start
  stop := stop
  redirect := redirect
  isRunning e := e.plain.running
  neighbors e := e.plain.neighbors

end Engine

end TunnelSession.Scripted
