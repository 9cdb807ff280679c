import TunnelSession.Scripted.Engine
import TunnelSession.Scripted.Interface
import TunnelSession.Session.Lifecycle
import TunnelSession.Settings.Draft

/-!
Sessions over scripted collaborators: what can be asked of one, and what its script can change.
-/
namespace TunnelSession.Scripted

abbrev Session := TunnelSession.Session Engine Interface

/-- Changes to the collaborators, from outside the session. -/
inductive Script where
  | engineFail (reason : String)
  | engineCrash
  | engineRejectGateway (reason : String)
  | engineNeighbors (list : List Neighbor)
  | engineExit
  | engineStart (failure : Failure EngineError)
  | engineStop (payload : String)
  | engineRedirect (failure : Failure EngineError)
  | engineClear
  | engineReset
  | engineHoldStart
  | engineHoldStop
  | interfaceDeny
  | interfaceFail (cause : InterfaceError)
  | interfaceRaise (payload : String)
  | interfaceReset (installed : Option (List String))

/-- What is asked of the session directly. -/
inductive Call where
  | request (r : Session.Request)
  | status
  | neighbors
  | reconcile
  | set (key : Settings.Key) (value : String)
  | get (key : Settings.Key)
  | exclude (id : String) (excluded : Bool)
  | excluded
  | lastConfig
  | lastParams
  | skipped
  | gateways
  | storage

inductive Answer where
  | nothing
  | verdict (r : Session.Request) (v : Session.Verdict)
  | candidates (list : List Candidate)
  | flag (yes : Bool)
  | value (text : Option String)
  | apps (set : AppSet)
  | config (c : Option Tunnel.Config)
  | params (p : Option Tunnel.Params)
  | names (list : List String)
  | addresses (list : List Address)

namespace Engine

def mapPlain (e : Engine) (f : Plain → Plain) : Engine := { e with plain := f e.plain }

def mapOverrides (e : Engine) (f : Overrides → Overrides) : Engine :=
  { e with overrides := f e.overrides }

def mapHolds (e : Engine) (f : Holds → Holds) : Engine := { e with holds := f e.holds }

/-- Whether the call that a request makes is held, which uses the hold up. -/
def meetsHold (e : Engine) : Session.Flight → Bool × Engine
  | .start _ _ => (e.holds.start, e.mapHolds ({ · with start := false }))
  | .stop => (e.holds.stop, e.mapHolds ({ · with stop := false }))
  | .switch _ => (false, e)

end Engine

namespace Session

variable (s : Scripted.Session)

def mapEngine (f : Engine → Engine) : Scripted.Session := { s with engine := f s.engine }

def mapInterface (f : Interface → Interface) : Scripted.Session :=
  { s with interface := f s.interface }

def apply : Script → Scripted.Session
  | .engineFail reason => mapEngine s (·.mapPlain ({ · with behavior := .fail reason }))
  | .engineCrash => mapEngine s (·.mapPlain ({ · with behavior := .crash }))
  | .engineRejectGateway reason => mapEngine s (·.mapPlain ({ · with rejection := some reason }))
  | .engineNeighbors list => mapEngine s (·.mapPlain ({ · with neighbors := .ofList list }))
  | .engineExit => mapEngine s (·.mapPlain ({ · with running := false }))
  | .engineStart failure => mapEngine s (·.mapOverrides ({ · with start := some failure }))
  | .engineStop payload => mapEngine s (·.mapOverrides ({ · with stop := some payload }))
  | .engineRedirect failure => mapEngine s (·.mapOverrides ({ · with redirect := some failure }))
  | .engineClear => mapEngine s (·.mapOverrides fun _ => {})
  | .engineReset => mapEngine s (·.mapPlain fun _ => {})
  | .engineHoldStart =>
    mapEngine s (·.mapHolds fun h => { h with start := true, count := h.count + 1 })
  | .engineHoldStop =>
    mapEngine s (·.mapHolds fun h => { h with stop := true, count := h.count + 1 })
  | .interfaceDeny => mapInterface s ({ · with permission := false })
  | .interfaceFail cause => mapInterface s ({ · with failure := some cause })
  | .interfaceRaise payload => mapInterface s ({ · with payload := some payload })
  | .interfaceReset installed => mapInterface s (·.reset installed)

def call : Call → Answer × Scripted.Session
  | .request r =>
    let (verdict, s) := TunnelSession.Session.perform s r
    (.verdict r verdict, s)
  | .status => (.nothing, s)
  | .neighbors => (.candidates s.neighbors.candidates, s)
  | .reconcile =>
    let (running, s) := TunnelSession.Session.reconcile s
    (.flag running, s)
  | .set key value => (.nothing, { s with store := s.store.save key value })
  | .get key => (.value (s.store.get? key), s)
  | .exclude id excluded =>
    let s := { s with store := s.store.commit (s.store.draft.set id excluded) }
    (.apps s.store.settings.apps, s)
  | .excluded => (.apps s.store.settings.apps, s)
  | .lastConfig => (.config s.interface.lastConfig, s)
  | .lastParams => (.params s.engine.plain.lastParams, s)
  | .skipped => (.names s.interface.skipped, s)
  | .gateways => (.addresses s.engine.plain.gateways, s)
  | .storage => (.value (some s.storage), s)

/-- Whether the call in flight is held; a hold that is met is used up. -/
def meetHold : Bool × Scripted.Session :=
  match s.flight with
  | none => (false, s)
  | some flight =>
    let (held, engine) := s.engine.meetsHold flight
    (held, { s with engine })

/-- Lets go of every hold and tells how many there were. -/
def releaseHolds : Nat × Scripted.Session :=
  (s.engine.holds.count, mapEngine s (·.mapHolds fun _ => {}))

end Session

end TunnelSession.Scripted
