import TunnelSession.Console.Basic
import TunnelSession.Scripted.Step

/-!
Runs of a console over a scripted session. A request that a line dispatches runs to its end before
the next step unless the engine holds its call; its outcome is handled at once, or is deferred until
outcomes are handled again.
-/
namespace TunnelSession.Scripted

structure Terminal where
  console : Console Engine Interface
  held : Bool

namespace Terminal

inductive Step where
  | line (text : String) (defer : Bool)
  | drain
  | release
  | outcome (o : Outcome)
  | script (change : Script)
  | call (c : Call)

inductive Answer where
  | line (goesOn : Bool) (out : List String) (held : Bool) (outcomes : List Outcome)
      (after : List String)
  | drained (outcomes : List Outcome) (after : List String)
  | released (holds : Nat) (outcomes : List Outcome) (after : List String)
  | outcome (after : List String)
  | plain (a : Scripted.Answer)

def session (t : Terminal) : Scripted.Session := t.console.dispatcher.session

def withSession (t : Terminal) (session : Scripted.Session) : Terminal :=
  { t with console :=
    { t.console with dispatcher := { t.console.dispatcher with session } } }

def drain (t : Terminal) : List Outcome × List String × Terminal :=
  let (outcomes, after, console) := t.console.drain
  (outcomes, after, { t with console })

/-- Runs a request that has just been dispatched to its end, or meets its hold. -/
def advance (t : Terminal) : Terminal :=
  if t.held then t
  else
    let (held, session) := Session.meetHold t.session
    let t := t.withSession session
    if held then { t with held } else { t with console := t.console.settle }

def step (t : Terminal) : Step → Answer × Terminal
  | .line text defer =>
    let handled := t.console.handle text
    let t := advance { t with console := handled.console }
    if defer || t.held then (.line handled.goesOn handled.lines t.held [] [], t)
    else
      let (outcomes, after, t) := t.drain
      (.line handled.goesOn handled.lines t.held outcomes after, t)
  | .drain =>
    let (outcomes, after, t) := t.drain
    (.drained outcomes after, t)
  | .release =>
    let (holds, session) := Session.releaseHolds t.session
    let t := t.withSession session
    let (outcomes, after, t) := drain ⟨t.console.settle, false⟩
    (.released holds outcomes after, t)
  | .outcome o =>
    let (after, console) := t.console.onOutcome o
    (.outcome after, { t with console })
  | .script change => (.plain .nothing, t.withSession (Session.apply t.session change))
  | .call c =>
    let (answer, session) := Session.call t.session c
    (.plain answer, t.withSession session)

end Terminal

end TunnelSession.Scripted
