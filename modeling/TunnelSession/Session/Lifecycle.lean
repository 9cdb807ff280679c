import TunnelSession.Session.Basic

/-!
The life of a request, in two halves. `enter` goes up to the engine call: it settles what can be
settled without the engine, and a start asks for the interface. `finish` makes the engine call and
what follows from it. `perform` is one after the other.

A raised engine call fails a start like an error, and ends a stop like an answer. What the interface
raises is not caught, nor what the engine raises over a gateway.
-/
namespace TunnelSession.Session

variable {ε ι : Type} [Engine ε] [TunnelInterface ι]

/-- The configuration and the parameters that the settings of the moment make. -/
def plan (s : Session ε ι) : Except Tunnel.ConfigError (Tunnel.Config × Tunnel.Params) := do
  let config ← Tunnel.config s.host s.store.settings
  let params ← Tunnel.params s.storage s.store.settings
  return (config, params)

def goTo (s : Session ε ι) (phase : Phase) : Session ε ι :=
  { s with phase }

/-- Asks for the interface, in a session that is establishing already. -/
def prepare (s : Session ε ι) : Option Verdict × Session ε ι :=
  match s.plan with
  | .error cause => (some (.refused (.config cause)), s.goTo .idle)
  | .ok (config, params) =>
    match TunnelInterface.establish s.interface config with
    | (.error cause, interface) =>
      (some (.refused (.ofInterface cause)), { s with interface }.goTo .idle)
    | (.raised payload, interface) => (some (.raised payload), { s with interface })
    | (.ok made, interface) =>
      (none, { s with interface, flight := some (.start made.descriptor params) })

def enterStart (s : Session ε ι) : Option Verdict × Session ε ι :=
  if s.phase ≠ .idle then (some (.refused (.invalidPhase .start s.phase)), s)
  else (s.goTo .establishing).prepare

def enterStop (s : Session ε ι) : Option Verdict × Session ε ι :=
  match s.phase with
  | .idle => (some .done, s)
  | .active => (none, { s with flight := some .stop }.goTo .stopping)
  | phase => (some (.refused (.invalidPhase .stop phase)), s)

def enterSwitch (s : Session ε ι) (target : Candidate) : Option Verdict × Session ε ι :=
  if s.isRunning then (none, { s with flight := some (.switch target) })
  else (some .notRunning, s)

/-- The first half of a request. Without a verdict the request is in flight. -/
def enter (s : Session ε ι) (r : Request) : Option Verdict × Session ε ι :=
  if s.flight.isSome then (some (.refused .busy), s)
  else
    match r with
    | .start => s.enterStart
    | .stop => s.enterStop
    | .switch target => s.enterSwitch target

/-- The session with what an engine call left behind; the interface takes back what was dropped. -/
def absorb (s : Session ε ι) (reply : Reply ε) : Session ε ι :=
  { s with
    engine := reply.engine
    store := { s.store with dir := reply.dir }
    interface := reply.dropped.foldl TunnelInterface.release s.interface }

def crashReason (payload : Option String) : String :=
  payload.getD "Unknown panic"

def finishStart (s : Session ε ι) (d : Descriptor) (p : Tunnel.Params) : Verdict × Session ε ι :=
  let reply := Engine.start s.engine s.store.dir d p
  let s := { s.absorb reply with flight := none }
  match reply.ending with
  | .ok () => (.done, s.goTo .active)
  | .error cause => (.refused (.engine cause), s.goTo .idle)
  | .raised payload => (.refused (.engine (.crashed (crashReason payload))), s.goTo .idle)

def finishStop (s : Session ε ι) : Verdict × Session ε ι :=
  let reply := Engine.stop s.engine s.store.dir
  (.done, { s.absorb reply with flight := none }.goTo .idle)

/-- A gateway is stored once the engine has accepted it. -/
def finishSwitch (s : Session ε ι) (target : Candidate) : Verdict × Session ε ι :=
  let reply := Engine.redirect s.engine s.store.dir target.address
  let s := { s.absorb reply with flight := none }
  match reply.ending with
  | .ok () =>
    (.updated target.address, { s with store := s.store.save .gateway target.address.text })
  | .error cause => (.refused (.engine cause), s)
  | .raised payload => (.raised payload, s)

/-- The second half of the request in flight, if there is one. -/
def finish (s : Session ε ι) : Option (Request × Verdict) × Session ε ι :=
  match s.flight with
  | none => (none, s)
  | some flight =>
    let (verdict, s) :=
      match flight with
      | .start d p => s.finishStart d p
      | .stop => s.finishStop
      | .switch target => s.finishSwitch target
    (some (flight.request, verdict), s)

/-- A whole request. -/
def perform (s : Session ε ι) (r : Request) : Verdict × Session ε ι :=
  match s.enter r with
  | (some verdict, s) => (verdict, s)
  | (none, s) =>
    match s.finish with
    | (some (_, verdict), s) => (verdict, s)
    | (none, s) => (.done, s)

/-- The gateway candidates of the moment; none while the session is not active. -/
def neighbors (s : Session ε ι) : Snapshot :=
  if s.isRunning then Engine.neighbors s.engine else .empty

/-- Goes back to idle if the engine went down by itself, and tells whether the session runs. With a
request in flight nothing is changed. -/
def reconcile (s : Session ε ι) : Bool × Session ε ι :=
  if s.flight.isNone ∧ s.phase = .active ∧ Engine.isRunning s.engine = false then
    (false, s.goTo .idle)
  else (s.isRunning, s)

end TunnelSession.Session
