import TunnelSession.Log.Basic
import TunnelSession.Tunnel.Engine

/-!
An engine that relays nothing. While it runs it holds on to its descriptor, knows a fixed list of
neighbors, and keeps a log of what it was told, with a heartbeat every period. Its clock goes only
where `advance` sets it.
-/
namespace TunnelSession.DryRun

/-- `due` is the moment of the next heartbeat. -/
structure Running where
  descriptor : Descriptor
  gateway : String
  log : FileName
  due : Moment
  deriving DecidableEq

/-- `period` is in nanoseconds. -/
structure Engine where
  known : List Neighbor
  period : Nat
  now : Moment
  running : Option Running := none

namespace Engine

/-- What a session's log starts with. -/
def greeting (d : Descriptor) (p : Tunnel.Params) : List String :=
  ["hello",
    "name=" ++ p.localName ++ " address=" ++ p.localAddress.text ++ " gateway=" ++ p.gateway ++
      " fd=" ++ toString d.fd] ++
  p.links.map ("link " ++ ·)

def farewell : String := "bye"

def heartbeat (e : Engine) (r : Running) : String :=
  "heartbeat gateway=" ++ r.gateway ++ " neighbors=" ++ toString e.known.length

def write (dir : Folder) (log : FileName) (now : Moment) (texts : List String) : Folder :=
  texts.foldl (fun dir text => Log.add dir log now text) dir

def refusal (e : Engine) (dir : Folder) (d : Descriptor) (reason : String) : Reply Engine :=
  ⟨.error (.startFailed reason), e, dir, [d]⟩

def start (e : Engine) (dir : Folder) (d : Descriptor) (p : Tunnel.Params) : Reply Engine :=
  if e.running.isSome then e.refusal dir d "engine already running"
  else if p.links = [] then e.refusal dir d "no links configured"
  else
    let log := (Log.Date.ofMoment e.now).fileName
    match Log.start dir log with
    | .error obstacle => e.refusal dir d ("cannot open log: " ++ obstacle.message)
    | .ok dir =>
      ⟨.ok (), { e with running := some ⟨d, p.gateway, log, e.now.after e.period⟩ },
        write dir log e.now (greeting d p), []⟩

def stop (e : Engine) (dir : Folder) : Reply Engine :=
  match e.running with
  | none => ⟨.ok (), e, dir, []⟩
  | some r =>
    ⟨.ok (), { e with running := none }, write dir r.log e.now [farewell], [r.descriptor]⟩

def redirect (e : Engine) (dir : Folder) (target : Address) : Reply Engine :=
  match e.running with
  | none => ⟨.error .notRunning, e, dir, []⟩
  | some r =>
    if e.known.any (·.address = target) then
      ⟨.ok (), { e with running := some { r with gateway := target.text } },
        write dir r.log e.now ["gateway -> " ++ target.text], []⟩
    else ⟨.error (.gatewayRejected (target.text ++ " is not a neighbor")), e, dir, []⟩

instance : TunnelSession.Engine Engine where
  start := start
  stop := stop
  redirect := redirect
  isRunning e := e.running.isSome
  neighbors e := if e.running.isSome then .ofList e.known else .empty

/-- Writes a number of heartbeats, each when it is due. -/
def beat (e : Engine) (dir : Folder) : Nat → Running → Folder × Running
  | 0, r => (dir, r)
  | n + 1, r =>
    beat e (write dir r.log r.due [e.heartbeat r]) n { r with due := r.due.after e.period }

/-- How many heartbeats are due by a moment. -/
def beatsBy (e : Engine) (moment : Moment) (r : Running) : Nat :=
  if moment.nanoseconds < r.due.nanoseconds then 0
  else (moment.nanoseconds - r.due.nanoseconds) / e.period + 1

/-- Sets the clock, and writes the heartbeats that have become due. -/
def advance (e : Engine) (dir : Folder) (moment : Moment) : Engine × Folder :=
  match e.running with
  | none => ({ e with now := moment }, dir)
  | some r =>
    let (dir, r) := e.beat dir (e.beatsBy moment r) r
    ({ e with now := moment, running := some r }, dir)

end Engine

end TunnelSession.DryRun
