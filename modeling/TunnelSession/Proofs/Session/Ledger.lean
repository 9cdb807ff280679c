import TunnelSession.Proofs.Session.Descriptors
import TunnelSession.Proofs.Session.Ends

/-!
The books of a front end. A ledger follows one front end over a run, writes down each request that
is accepted, how it ended and what the queue gave out, and finds that nothing is lost and nothing
comes twice: `outcomes_accounted`.
-/

namespace TunnelSession.Dispatcher

open Session

/-- A request that has not ended, with the session that it found and what has happened since. -/
structure Pending (ε ι : Type) where
  request : Request
  found : Session ε ι
  since : List Event

/-- A request that has ended, with the session that it found, what happened while it was held, its
verdict and the session that it left. -/
structure Ended (ε ι : Type) where
  request : Request
  found : Session ε ι
  meanwhile : List Event
  verdict : Verdict
  left : Session ε ι

/-- What the front end is told about it. -/
def Ended.outcome? {ε ι : Type} (a : Ended ε ι) : Option Outcome :=
  Outcome.of? a.request a.verdict

/-- Between two moments of a session a payload came out of a call on its collaborators that nothing
catches: the request for an interface, or the change of the gateway. -/
def Escaped {ε ι : Type} (s t : Session (Recorded.Engine ε) (Recorded.Interface ι)) : Prop :=
  (∃ config payload, .establish config (.raised payload) ∈ t.interface.since s.interface) ∨
  (∃ target payload, .redirect target (.raised payload) ∈ t.engine.since s.engine)

/-- A front end with its books: the requests that were accepted, the one that has not ended, those
that have, and what each poll took. The oldest come first. -/
structure Ledger (ε ι : Type) where
  dispatcher : Dispatcher ε ι
  accepted : List Request
  pending : Option (Pending ε ι)
  ended : List (Ended ε ι)
  polled : List (List Outcome)

namespace Ledger

section Runs

variable {ε ι : Type}

def session (l : Ledger ε ι) : Session ε ι := l.dispatcher.session

/-- Something else happens while a request is pending. -/
def pass (l : Ledger ε ι) (e : Event) : Option (Pending ε ι) :=
  l.pending.map fun p => { p with since := p.since ++ [e] }

variable [Engine ε] [TunnelInterface ι] (u : Surroundings ε ι)

/-- A request is dispatched and rejected, accepted and at its end, or accepted and held; the one
held is released; the outcomes are polled. Aside from these, others make calls of their own on the
session, change settings, and the engine and the interface change by themselves. -/
inductive Step (l : Ledger ε ι) : Ledger ε ι → Prop
  | reject {r cause dispatcher} (refused : l.dispatcher.dispatch r = (some cause, dispatcher)) :
      Step l { l with dispatcher, pending := l.pass (.enter r (some (.refused .busy))) }
  | accept {r v dispatcher} (accepted : l.dispatcher.dispatch r = (none, dispatcher))
      (ends : (l.session.enter r).1 = some v) :
      Step l { l with
        dispatcher, accepted := l.accepted ++ [r]
        ended := l.ended ++ [⟨r, l.session, [], v, dispatcher.session⟩] }
  | hold {r dispatcher} (accepted : l.dispatcher.dispatch r = (none, dispatcher))
      (held : (l.session.enter r).1 = none) :
      Step l { l with
        dispatcher, accepted := l.accepted ++ [r], pending := some ⟨r, l.session, []⟩ }
  | release {p r v t} (ours : l.pending = some p) (ends : l.session.finish = (some (r, v), t)) :
      Step l { l with
        dispatcher := l.dispatcher.settle, pending := none
        ended := l.ended ++ [⟨p.request, p.found, p.since, v, t⟩] }
  | poll :
      Step l { l with
        dispatcher := l.dispatcher.take.2, pending := l.pass .poll
        polled := l.polled ++ [l.dispatcher.take.1] }
  | aside {e session} (step : Session.Step u l.session e session)
      (others : l.pending ≠ none → e.isLanding = false) :
      Step l { l with dispatcher.session := session, pending := l.pass e }

inductive Run (start : Ledger ε ι) : Ledger ε ι → Prop
  | start : Run start start
  | next {l l'} : Run start l → Step u l l' → Run start l'

omit [TunnelInterface ι] in
/-- A front end that connects to a session, in whatever state that is. -/
def connect (s : Session ε ι) : Ledger ε ι :=
  ⟨.connect s, [], none, [], []⟩

/-- The books of a run balance. -/
structure Balanced (l : Ledger ε ι) : Prop where
  requests : l.accepted = l.ended.map (·.request) ++ (l.pending.map (·.request)).toList
  outcomes : l.polled.flatten ++ l.dispatcher.outcomes = l.ended.filterMap Ended.outcome?
  called : ∀ a ∈ l.ended, a.found.flight = none ∧
    Call u a.found a.request a.meanwhile a.verdict a.left
  held : ∀ p, l.pending = some p → p.found.flight = none ∧
    ∃ s, p.found.enter p.request = (none, s) ∧ Session.Run u s p.since l.session ∧
      ∀ e ∈ p.since, e.isLanding = false

variable {u} {l l' : Ledger ε ι}

/-- The request that is pending is the one in flight. -/
theorem Balanced.inFlight (balanced : Balanced u l) {p : Pending ε ι} (ours : l.pending = some p) :
    ∃ flight, l.session.flight = some flight ∧ flight.request = p.request := by
  obtain ⟨_, s, entered, since, waits⟩ := balanced.held p ours
  obtain ⟨flight, taken, same⟩ := enters_flight (enters_of_eq entered)
  have still := (run_held since (by simp [taken]) waits).1
  exact ⟨flight, still.trans taken, same⟩

theorem Balanced.pending_none (balanced : Balanced u l) (free : l.session.flight = none) :
    l.pending = none := by
  cases ours : l.pending with
  | none => rfl
  | some p =>
    obtain ⟨flight, taken, _⟩ := balanced.inFlight ours
    simp [free] at taken

/-- What passes while a request is held is part of its story. -/
theorem Balanced.pass_held (balanced : Balanced u l) {e : Event} {session : Session ε ι}
    (step : Session.Step u l.session e session) (others : l.pending ≠ none → e.isLanding = false) :
    ∀ p, l.pass e = some p → p.found.flight = none ∧
      ∃ s, p.found.enter p.request = (none, s) ∧ Session.Run u s p.since session ∧
        ∀ e ∈ p.since, e.isLanding = false := by
  intro p passed
  obtain ⟨before, ours, rfl⟩ := Option.map_eq_some_iff.mp passed
  obtain ⟨free, s, entered, since, waits⟩ := balanced.held before ours
  refine ⟨free, s, entered, since.next step, ?_⟩
  intro e mem
  rcases List.mem_append.mp mem with earlier | last
  · exact waits e earlier
  · rw [List.mem_singleton.mp last]
    exact others (by simp [ours])

/-- A request that ends adds its outcome to those before. -/
theorem Balanced.outcomes_append (balanced : Balanced u l) (a : Ended ε ι) :
    l.polled.flatten ++ (l.dispatcher.outcomes ++ a.outcome?.toList) =
      (l.ended ++ [a]).filterMap Ended.outcome? := by
  rw [← List.append_assoc, balanced.outcomes]
  cases reported : a.outcome? <;> simp [reported]

theorem Balanced.called_append (balanced : Balanced u l) {a : Ended ε ι}
    (free : a.found.flight = none) (call : Call u a.found a.request a.meanwhile a.verdict a.left) :
    ∀ b ∈ l.ended ++ [a], b.found.flight = none ∧
      Call u b.found b.request b.meanwhile b.verdict b.left := by
  intro b mem
  rcases List.mem_append.mp mem with earlier | last
  · exact balanced.called b earlier
  · rw [List.mem_singleton.mp last]
    exact ⟨free, call⟩

omit [Engine ε] [TunnelInterface ι] in
theorem pass_requests (l : Ledger ε ι) (e : Event) :
    (l.pass e).map (·.request) = l.pending.map (·.request) := by
  simp [pass, Function.comp_def]

theorem reject_balanced {r : Request} {cause : Session.Error} {dispatcher : Dispatcher ε ι}
    (balanced : Balanced u l) (refused : l.dispatcher.dispatch r = (some cause, dispatcher)) :
    Balanced u { l with dispatcher, pending := l.pass (.enter r (some (.refused .busy))) } := by
  rcases l.dispatcher.dispatch_cases r with ⟨taken, busy⟩ | ⟨_, _, accepted⟩
  · rw [busy] at refused
    cases refused
    have step : Session.Step u l.session (.enter r (some (.refused .busy))) l.session :=
      .enter (by simp only [enter, session, taken, ↓reduceIte])
    refine ⟨?_, balanced.outcomes, balanced.called, balanced.pass_held step fun _ => rfl⟩
    rw [pass_requests]
    exact balanced.requests
  · simp [accepted] at refused

theorem accept_balanced {r : Request} {v : Verdict} {dispatcher : Dispatcher ε ι}
    (balanced : Balanced u l) (accepted : l.dispatcher.dispatch r = (none, dispatcher))
    (ends : (l.session.enter r).1 = some v) :
    Balanced u { l with
      dispatcher, accepted := l.accepted ++ [r]
      ended := l.ended ++ [⟨r, l.session, [], v, dispatcher.session⟩] } := by
  have free := free_of_accepted accepted
  have none := balanced.pending_none free
  have eq := eq_of_accepted accepted
  have left : (l.session.enter r).2 = dispatcher.session := by rw [eq]; rfl
  have queue : dispatcher.outcomes = l.dispatcher.outcomes ++ (Outcome.of? r v).toList := by
    have first : (l.dispatcher.session.enter r).1 = some v := ends
    rw [eq, first]
    rfl
  refine ⟨?_, ?_, balanced.called_append free (.atOnce (Prod.ext ends left)), ?_⟩
  · simp [balanced.requests, none]
  · rw [queue]
    exact balanced.outcomes_append ⟨r, _, _, v, _⟩
  · intro p ours
    simp [none] at ours

theorem hold_balanced {r : Request} {dispatcher : Dispatcher ε ι} (balanced : Balanced u l)
    (accepted : l.dispatcher.dispatch r = (none, dispatcher))
    (held : (l.session.enter r).1 = none) :
    Balanced u { l with
      dispatcher, accepted := l.accepted ++ [r], pending := some ⟨r, l.session, []⟩ } := by
  have free := free_of_accepted accepted
  have none := balanced.pending_none free
  have eq := eq_of_accepted accepted
  have left : (l.session.enter r).2 = dispatcher.session := by rw [eq]; rfl
  refine ⟨?_, ?_, balanced.called, ?_⟩
  · simp [balanced.requests, none]
  · have queue : dispatcher.outcomes = l.dispatcher.outcomes := by
      have first : (l.dispatcher.session.enter r).1 = Option.none := held
      rw [eq, first]
      simp
    rw [queue]
    exact balanced.outcomes
  · rintro p ⟨⟩
    exact ⟨free, _, Prod.ext held left, .start, nofun⟩

theorem release_balanced {p : Pending ε ι} {r : Request} {v : Verdict} {t : Session ε ι}
    (balanced : Balanced u l) (ours : l.pending = some p)
    (ends : l.session.finish = (some (r, v), t)) :
    Balanced u { l with
      dispatcher := l.dispatcher.settle, pending := none
      ended := l.ended ++ [⟨p.request, p.found, p.since, v, t⟩] } := by
  obtain ⟨free, s, entered, since, waits⟩ := balanced.held p ours
  obtain ⟨flight, taken, same⟩ := balanced.inFlight ours
  obtain ⟨_, taken', request, _⟩ := finishes_of_eq ends
  cases taken.symm.trans taken'
  have r_eq : r = p.request := request.symm.trans same
  subst r_eq
  have queue : l.dispatcher.settle.outcomes =
      l.dispatcher.outcomes ++ (Outcome.of? p.request v).toList := by
    have last : l.dispatcher.session.finish = (some (p.request, v), t) := ends
    rw [settle_eq, last]
    rfl
  refine ⟨?_, ?_, balanced.called_append free (.held entered since waits ends), ?_⟩
  · simp [balanced.requests, ours]
  · rw [queue]
    exact balanced.outcomes_append ⟨p.request, _, _, v, _⟩
  · intro p ours
    simp at ours

theorem poll_balanced (balanced : Balanced u l) :
    Balanced u { l with
      dispatcher := l.dispatcher.take.2, pending := l.pass .poll
      polled := l.polled ++ [l.dispatcher.take.1] } := by
  refine ⟨?_, ?_, balanced.called, balanced.pass_held (.poll _) fun _ => rfl⟩
  · rw [pass_requests]
    exact balanced.requests
  · simpa [take] using balanced.outcomes

theorem step_balanced (step : Step u l l') (balanced : Balanced u l) : Balanced u l' := by
  cases step with
  | reject refused => exact reject_balanced balanced refused
  | accept accepted ends => exact accept_balanced balanced accepted ends
  | hold accepted held => exact hold_balanced balanced accepted held
  | release ours ends => exact release_balanced balanced ours ends
  | poll => exact poll_balanced balanced
  | aside step others =>
    refine ⟨?_, balanced.outcomes, balanced.called, balanced.pass_held step others⟩
    rw [pass_requests]
    exact balanced.requests

theorem run_balanced {s : Session ε ι} (run : Run u (.connect s) l) : Balanced u l := by
  induction run with
  | start => exact ⟨rfl, rfl, by simp [connect], by simp [connect]⟩
  | next _ step ih => exact step_balanced step ih

end Runs

section Escapes

variable {ε ι : Type} {s t : Session (Recorded.Engine ε) (Recorded.Interface ι)}

theorem escaped_iff {interface : List Recorded.InterfaceCall} {engine : List Recorded.EngineCall}
    (asked : Asked s t interface engine) : Escaped s t ↔
      (∃ config payload, .establish config (.raised payload) ∈ interface) ∨
      (∃ target payload, .redirect target (.raised payload) ∈ engine) := by
  obtain ⟨⟨dropped, since⟩, calls⟩ := asked
  simp [Escaped, since, calls]

theorem not_escaped_self (s : Session (Recorded.Engine ε) (Recorded.Interface ι)) :
    ¬ Escaped s s := by
  simp [Escaped, Recorded.Interface.since, Recorded.Engine.since]

/-- A request has no outcome if a payload came out of it. -/
theorem unreported_iff {meanwhile : List Event} {r : Request} {v : Verdict}
    (h : Ends s t meanwhile r v) : Outcome.of? r v = none ↔ Escaped s t := by
  cases h with
  | startOutOfPhase | unplanned | stopIdle | stopOutOfPhase | switchAway =>
    simp [Outcome.of?, not_escaped_self]
  | denied _ _ asked | raised _ _ asked | started _ _ asked | startFailed _ _ asked
  | startRaised _ _ asked | stopped _ asked | switched _ asked | switchFailed _ asked
  | switchRaised _ asked =>
    rw [escaped_iff asked]
    simp [Outcome.of?]

end Escapes

section Accounts

variable {ε ι : Type} [Engine ε] [TunnelInterface ι]

/-- **One outcome for each request.** Take any run of a front end that connected to a session, with
requests dispatched, held and released and outcomes polled in any order, with calls made on the same
session from elsewhere, with settings changed, and with any answers, errors and raised payloads of
the engine and the interface. A request is rejected, as busy, exactly if another one holds the slot;
nothing is changed by that. Each request that was accepted has ended once or is the one in flight.
What the polls took and what waits in the queue are the outcomes of those that have ended, in their
order, one for each, except that there is none for a request that a payload came out of. Each one
ended as the same request made directly ends on the same session, with the same going on meanwhile:
with the same verdict, and leaving the same session; and each has freed the slot. -/
theorem outcomes_accounted {u : Surroundings ε ι}
    {s : Session (Recorded.Engine ε) (Recorded.Interface ι)}
    {l : Ledger (Recorded.Engine ε) (Recorded.Interface ι)}
    (run : Run (Recorded.surroundings u) (.connect s) l) :
    (∀ r, (l.dispatcher.dispatch r).1 = (if l.session.flight = none then none else some .busy) ∧
      (l.session.flight ≠ none → (l.dispatcher.dispatch r).2 = l.dispatcher)) ∧
    l.accepted = l.ended.map (·.request) ++ (l.pending.map (·.request)).toList ∧
    (∀ p, l.pending = some p → l.session.flight.map Flight.request = some p.request) ∧
    l.polled.flatten ++ l.dispatcher.outcomes = l.ended.filterMap Ended.outcome? ∧
    (∀ a ∈ l.ended,
      Call (Recorded.surroundings u) a.found a.request a.meanwhile a.verdict a.left ∧
      (a.meanwhile = [] → a.found.perform a.request = (a.verdict, a.left)) ∧
      (a.outcome? = none ↔ Escaped a.found a.left) ∧
      a.left.flight = none) := by
  have balanced := run_balanced run
  refine ⟨?_, balanced.requests, ?_, balanced.outcomes, ?_⟩
  · intro r
    by_cases free : l.session.flight = none
    · have accepted := l.dispatcher.dispatch_free r free
      simp [accepted, free]
    · have busy := l.dispatcher.dispatch_busy r free
      simp [busy, free]
  · intro p ours
    obtain ⟨flight, taken, same⟩ := balanced.inFlight ours
    rw [taken, Option.map_some, same]
  · intro a mem
    obtain ⟨free, call⟩ := balanced.called a mem
    refine ⟨call, ?_, unreported_iff (call_ends call free), call.frees free⟩
    intro atOnce
    rw [atOnce] at call
    exact call_nil_iff.mp call

/-- A stop is rejected while a start is held, a switch raises, and a stop is dispatched once more:
two outcomes for three requests, the first one taken by a poll. -/
theorem outcomes_accounted_over_raise :
    let target : Candidate := ⟨0, "router", ⟨172, 20, 0, 8⟩⟩
    let engine : Scripted.Engine :=
      { overrides := { redirect := some (.raised (some "no route")) } }
    ∃ l, Run (Recorded.surroundings Scripted.surroundings)
        (.connect (Recorded.overScript engine (.knowing none)).session) l ∧
      l.polled = [[], [.started]] ∧
      l.polled.flatten ++ l.dispatcher.outcomes = [.started, .stopped] ∧
      l.ended.map (fun a => (a.request, a.outcome?)) =
        [(.start, some .started), (.switch target, none), (.stop, some .stopped)] ∧
      ∀ a ∈ l.ended, (a.outcome? = none ↔ Escaped a.found a.left) := by
  intro target engine
  have begun : Run (Recorded.surroundings Scripted.surroundings)
      (.connect (Recorded.overScript engine (.knowing none)).session) _ := .start
  have held := begun.next (.hold (r := .start) rfl rfl)
  have tried := held.next (.reject (r := .stop) rfl)
  have early := tried.next .poll
  have active := early.next (.release rfl rfl)
  have switching := active.next (.hold (r := .switch target) rfl rfl)
  have raised := switching.next (.release rfl rfl)
  have polled := raised.next .poll
  have stopping := polled.next (.hold (r := .stop) rfl rfl)
  have idle := stopping.next (.release rfl rfl)
  obtain ⟨_, _, _, outcomes, ended⟩ := outcomes_accounted idle
  refine ⟨_, idle, rfl, outcomes, rfl, ?_⟩
  intro a mem
  exact (ended a mem).2.2.1

end Accounts

end Ledger

end TunnelSession.Dispatcher
