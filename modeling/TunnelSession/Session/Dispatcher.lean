import TunnelSession.Session.Lifecycle
import TunnelSession.Session.Outcome

/-!
A front end's connection to a session. A request that is accepted goes up to its engine call and
stays in flight until it is settled; its outcome then waits, behind those before it, until it is
taken.
-/
namespace TunnelSession

structure Dispatcher (ε ι : Type) where
  session : Session ε ι
  outcomes : List Outcome

namespace Dispatcher

open Session

variable {ε ι : Type} [Engine ε] [TunnelInterface ι]

/-- A session may have outlived another front end: it is reconciled with its engine first. -/
def connect (s : Session ε ι) : Dispatcher ε ι :=
  ⟨s.reconcile.2, []⟩

def report (d : Dispatcher ε ι) (r : Request) (v : Verdict) : Dispatcher ε ι :=
  { d with outcomes := d.outcomes ++ (Outcome.of? r v).toList }

/-- Accepts a request, or says why not. -/
def dispatch (d : Dispatcher ε ι) (r : Request) : Option Session.Error × Dispatcher ε ι :=
  if d.session.flight.isSome then (some .busy, d)
  else
    match d.session.enter r with
    | (some verdict, session) => (none, report { d with session } r verdict)
    | (none, session) => (none, { d with session })

/-- Lets the request in flight run to its end. -/
def settle (d : Dispatcher ε ι) : Dispatcher ε ι :=
  match d.session.finish with
  | (some (r, verdict), session) => report { d with session } r verdict
  | (none, session) => { d with session }

def take (d : Dispatcher ε ι) : List Outcome × Dispatcher ε ι :=
  (d.outcomes, { d with outcomes := [] })

end Dispatcher

end TunnelSession
