import TunnelSession.Scripted.Step
import TunnelSession.Session.Dispatcher

/-!
Runs of a scripted session with a front end that connects to it, dispatches requests and takes
their outcomes. A dispatched request runs to its end at once unless the engine holds its call.
-/
namespace TunnelSession.Scripted

/-- `outcomes` are those that wait for the front end, if one is connected. -/
structure Front where
  session : Scripted.Session
  outcomes : Option (List Outcome)

namespace Front

inductive Step where
  | script (change : Script)
  | call (c : Call)
  | connect
  | dispatch (r : Session.Request)
  | poll
  | release
  | disconnect

inductive Answer where
  | plain (a : Scripted.Answer)
  | connected (running : Bool)
  | refused (cause : Session.Error)
  | dispatched (held : Bool)
  | outcomes (list : List Outcome)
  | released (holds : Nat)
  | notConnected

def ofDispatcher (d : Dispatcher Engine Interface) : Front :=
  ⟨d.session, some d.outcomes⟩

/-- Lets the request in flight run to its end, whoever dispatched it. -/
def settle (f : Front) : Front :=
  let d := Dispatcher.settle ⟨f.session, f.outcomes.getD []⟩
  ⟨d.session, f.outcomes.map fun _ => d.outcomes⟩

def dispatch (d : Dispatcher Engine Interface) (r : Session.Request) : Answer × Front :=
  match d.dispatch r with
  | (some cause, d) => (.refused cause, ofDispatcher d)
  | (none, d) =>
    let (held, session) := Session.meetHold d.session
    let d := { d with session }
    (.dispatched held, ofDispatcher (if held then d else d.settle))

def step (f : Front) : Step → Answer × Front
  | .script change => (.plain .nothing, { f with session := Session.apply f.session change })
  | .call c =>
    let (answer, session) := Session.call f.session c
    (.plain answer, { f with session })
  | .connect =>
    let d := Dispatcher.connect f.session
    (.connected d.session.isRunning, ofDispatcher d)
  | .dispatch r =>
    match f.outcomes with
    | none => (.notConnected, f)
    | some outcomes => dispatch ⟨f.session, outcomes⟩ r
  | .poll =>
    match f.outcomes with
    | none => (.notConnected, f)
    | some outcomes => (.outcomes outcomes, { f with outcomes := some [] })
  | .release =>
    let (holds, session) := Session.releaseHolds f.session
    (.released holds, settle { f with session })
  | .disconnect =>
    match f.outcomes with
    | none => (.notConnected, f)
    | some _ =>
      let f := settle f
      (.outcomes (f.outcomes.getD []), { f with outcomes := none })

end Front

end TunnelSession.Scripted
