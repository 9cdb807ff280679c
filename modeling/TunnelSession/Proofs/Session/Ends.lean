import TunnelSession.Proofs.Session.Calls
import TunnelSession.Proofs.Session.Recorded

/-!
What a whole request can come to, over collaborators that keep a record. `Ends` lists it: with which
verdict it ends, in which phase, what it has asked of the interface and the engine and what they
answered. `call_ends` shows that there is nothing else.
-/

namespace TunnelSession.Session

variable {ε ι : Type}

/-- The calls made on the collaborators between two moments of a session, apart from the descriptors
that were given back. -/
structure Asked (s t : Session (Recorded.Engine ε) (Recorded.Interface ι))
    (interface : List Recorded.InterfaceCall) (engine : List Recorded.EngineCall) : Prop where
  interface : ∃ dropped : List Descriptor,
    t.interface.since s.interface = interface ++ dropped.map .release
  engine : t.engine.since s.engine = engine

/-- The ends of a request: the session that it leaves, what others did while it was held, and its
verdict. -/
inductive Ends (s : Session (Recorded.Engine ε) (Recorded.Interface ι)) :
    Session (Recorded.Engine ε) (Recorded.Interface ι) → List Event → Request → Verdict → Prop
  | startOutOfPhase (phase : s.phase ≠ .idle) :
      Ends s s [] .start (.refused (.invalidPhase .start s.phase))
  | unplanned {cause} (idle : s.phase = .idle) (plan : s.plan = .error cause) :
      Ends s s [] .start (.refused (.config cause))
  | denied {t config params cause} (idle : s.phase = .idle) (plan : s.plan = .ok (config, params))
      (asked : Asked s t [.establish config (.error cause)] []) (phase : t.phase = .idle) :
      Ends s t [] .start (.refused (.ofInterface cause))
  | raised {t config params payload} (idle : s.phase = .idle)
      (plan : s.plan = .ok (config, params))
      (asked : Asked s t [.establish config (.raised payload)] []) :
      Ends s t [] .start (.raised payload)
  | started {t meanwhile config params made up} (idle : s.phase = .idle)
      (plan : s.plan = .ok (config, params))
      (asked : Asked s t [.establish config (.ok made)] [.start made.descriptor params up (.ok ())])
      (phase : t.phase = .active) : Ends s t meanwhile .start .done
  | startFailed {t meanwhile config params made up cause} (idle : s.phase = .idle)
      (plan : s.plan = .ok (config, params))
      (asked : Asked s t [.establish config (.ok made)]
        [.start made.descriptor params up (.error cause)])
      (phase : t.phase = .idle) : Ends s t meanwhile .start (.refused (.engine cause))
  | startRaised {t meanwhile config params made up payload} (idle : s.phase = .idle)
      (plan : s.plan = .ok (config, params))
      (asked : Asked s t [.establish config (.ok made)]
        [.start made.descriptor params up (.raised payload)])
      (phase : t.phase = .idle) :
      Ends s t meanwhile .start (.refused (.engine (.crashed (crashReason payload))))
  | stopIdle (idle : s.phase = .idle) : Ends s s [] .stop .done
  | stopOutOfPhase (notIdle : s.phase ≠ .idle) (notActive : s.phase ≠ .active) :
      Ends s s [] .stop (.refused (.invalidPhase .stop s.phase))
  | stopped {t meanwhile ending} (active : s.phase = .active) (asked : Asked s t [] [.stop ending])
      (phase : t.phase = .idle) : Ends s t meanwhile .stop .done
  | switchAway {target} (notActive : s.phase ≠ .active) : Ends s s [] (.switch target) .notRunning
  | switched {t meanwhile target} (active : s.phase = .active)
      (asked : Asked s t [] [.redirect target.address (.ok ())]) (phase : t.phase = .active)
      (settings : t.store.settings =
        (edited meanwhile s.store.settings).set .gateway target.address.text) :
      Ends s t meanwhile (.switch target) (.updated target.address)
  | switchFailed {t meanwhile target cause} (active : s.phase = .active)
      (asked : Asked s t [] [.redirect target.address (.error cause)]) (phase : t.phase = .active)
      (settings : t.store.settings = edited meanwhile s.store.settings) :
      Ends s t meanwhile (.switch target) (.refused (.engine cause))
  | switchRaised {t meanwhile target payload} (active : s.phase = .active)
      (asked : Asked s t [] [.redirect target.address (.raised payload)])
      (phase : t.phase = .active)
      (settings : t.store.settings = edited meanwhile s.store.settings) :
      Ends s t meanwhile (.switch target) (.raised payload)

variable [TunnelInterface ι] {s t s₂ : Session (Recorded.Engine ε) (Recorded.Interface ι)}
  {r : Request} {v : Verdict} {meanwhile : List Event}

theorem asked_establish {config : Tunnel.Config} {ending : Ending InterfaceError Establishment}
    {interface : Recorded.Interface ι} (phase : Phase)
    (answer : TunnelInterface.establish s.interface config = (ending, interface)) :
    Asked s { s with interface, phase } [.establish config ending] [] := by
  have since := Recorded.Interface.since_eq (Recorded.Interface.calls_establish answer)
  exact ⟨⟨[], by simpa using since⟩, Recorded.Engine.since_eq (List.append_nil _).symm⟩

/-- A request that ended with its engine call has made that call last. -/
theorem asked_landed {interface : List Recorded.InterfaceCall} {call : Recorded.EngineCall}
    {reply : Reply (Recorded.Engine ε)} (phase : Phase)
    (before : s₂.interface.calls = s.interface.calls ++ interface)
    (same : s₂.engine.calls = s.engine.calls)
    (noted : reply.engine.calls = s₂.engine.calls ++ [call]) :
    Asked s (s₂.landed reply phase) interface [call] := by
  refine ⟨⟨reply.dropped, ?_⟩, ?_⟩
  · exact Recorded.Interface.since_eq (Recorded.landed_calls reply phase before)
  · rw [same] at noted
    exact Recorded.Engine.since_eq noted

theorem enters_ends (h : Enters s r (some v) t) (free : s.flight = none) : Ends s t [] r v := by
  cases h with
  | busy taken => contradiction
  | startOutOfPhase _ phase => exact .startOutOfPhase phase
  | unplanned _ idle plan => exact .unplanned idle plan
  | denied _ idle plan answer => exact .denied idle plan (asked_establish _ answer) idle
  | raised _ idle plan answer => exact .raised idle plan (asked_establish _ answer)
  | stopIdle _ idle => exact .stopIdle idle
  | stopOutOfPhase _ notIdle notActive => exact .stopOutOfPhase notIdle notActive
  | switchAway _ notActive => exact .switchAway notActive

variable [Engine ε] {u : Surroundings ε ι}

/-- Nobody calls the engine or the interface while a request is held. -/
theorem step_unasked {s t : Session (Recorded.Engine ε) (Recorded.Interface ι)} {e : Event}
    (h : Step (Recorded.surroundings u) s e t) (taken : s.flight ≠ none)
    (waits : e.isLanding = false) :
    t.engine.calls = s.engine.calls ∧ t.interface.calls = s.interface.calls := by
  cases step_meanwhile h taken waits with
  | engine changed => exact ⟨changed.2, rfl⟩
  | interface changed => exact ⟨rfl, changed.2⟩
  | busy | reconcile | edit | poll => exact ⟨rfl, rfl⟩

theorem run_unasked {s t : Session (Recorded.Engine ε) (Recorded.Interface ι)}
    {history : List Event} (run : Run (Recorded.surroundings u) s history t)
    (taken : s.flight ≠ none) (waits : ∀ e ∈ history, e.isLanding = false) :
    t.engine.calls = s.engine.calls ∧ t.interface.calls = s.interface.calls := by
  induction run with
  | start => exact ⟨rfl, rfl⟩
  | next before step ih =>
    simp only [List.mem_append, List.mem_singleton] at waits
    obtain ⟨engine, interface⟩ := ih fun e mem => waits e (.inl mem)
    have flight := (run_held before taken fun e mem => waits e (.inl mem)).1
    have still := step_unasked step (by rwa [flight]) (waits _ (.inr rfl))
    exact ⟨still.1.trans engine, still.2.trans interface⟩

theorem start_ends {params : Tunnel.Params} {config : Tunnel.Config} {made : Establishment}
    (h : Finishes s₂ (.start made.descriptor params) v t) (idle : s.phase = .idle)
    (plan : s.plan = .ok (config, params))
    (before : s₂.interface.calls = s.interface.calls ++ [.establish config (.ok made)])
    (same : s₂.engine.calls = s.engine.calls) : Ends s t meanwhile .start v := by
  cases h with
  | started answer =>
    have noted := Recorded.Engine.calls_start answer
    exact .started idle plan (asked_landed _ before same noted) rfl
  | startFailed answer =>
    have noted := Recorded.Engine.calls_start answer
    exact .startFailed idle plan (asked_landed _ before same noted) rfl
  | startRaised answer =>
    have noted := Recorded.Engine.calls_start answer
    exact .startRaised idle plan (asked_landed _ before same noted) rfl

theorem stop_ends (h : Finishes s₂ .stop v t) (active : s.phase = .active)
    (before : s₂.interface.calls = s.interface.calls)
    (same : s₂.engine.calls = s.engine.calls) : Ends s t meanwhile .stop v := by
  cases h with
  | stopped =>
    have noted : (Engine.stop s₂.engine s₂.store.dir).engine.calls = _ ++ [_] :=
      Recorded.Engine.calls_stop
    exact .stopped active (asked_landed _ (by simpa using before) same noted) rfl

theorem switch_ends {target : Candidate} (h : Finishes s₂ (.switch target) v t)
    (active : s.phase = .active) (phase : s₂.phase = .active)
    (settings : s₂.store.settings = edited meanwhile s.store.settings)
    (before : s₂.interface.calls = s.interface.calls)
    (same : s₂.engine.calls = s.engine.calls) : Ends s t meanwhile (.switch target) v := by
  rw [← List.append_nil s.interface.calls] at before
  cases h with
  | switched answer =>
    have asked := asked_landed s₂.phase before same (Recorded.Engine.calls_redirect answer)
    refine .switched active ⟨asked.interface, asked.engine⟩ phase ?_
    rw [← settings]
    exact Store.persist_settings _
  | switchFailed answer =>
    have noted := Recorded.Engine.calls_redirect answer
    exact .switchFailed active (asked_landed _ before same noted) phase settings
  | switchRaised answer =>
    have noted := Recorded.Engine.calls_redirect answer
    exact .switchRaised active (asked_landed _ before same noted) phase settings

/-- A whole request comes to one of its ends. -/
theorem call_ends (h : Call (Recorded.surroundings u) s r meanwhile v t)
    (free : s.flight = none) : Ends s t meanwhile r v := by
  cases h with
  | atOnce ended => exact enters_ends (enters_of_eq ended) free
  | held entered between waits ended =>
    obtain ⟨flight, taken, _, finishes⟩ := finishes_of_eq ended
    have entered := enters_of_eq entered
    obtain ⟨_, inFlight, _⟩ := enters_flight entered
    obtain ⟨still, phase, settings⟩ := run_held between (by simp [inFlight]) waits
    obtain ⟨engine, interface⟩ := run_unasked between (by simp [inFlight]) waits
    have same := still.symm.trans taken
    cases entered with
    | starting _ idle plan answer =>
      cases same
      have asked := interface.trans (Recorded.Interface.calls_establish answer)
      exact start_ends finishes idle plan asked engine
    | stopping _ active =>
      cases same
      exact stop_ends finishes active interface engine
    | switching _ active =>
      cases same
      exact switch_ends finishes active (phase.trans active) settings interface engine

end TunnelSession.Session
