import TunnelSession.Proofs.Console.Lines
import TunnelSession.Proofs.Console.Tracks
import TunnelSession.Proofs.Session.Agreement
import TunnelSession.Proofs.Session.Stranded

/-!
Controls and session agree, however late an outcome is handled:

* `Watch.Step` and `Watch.Run`: what happens to a console, with the requests whose outcomes it has
  not handled yet;
* `Watch.Consistent`: controls, outcomes and session tell the same story, after every step;
* `Watch.controls_agree`: what the story comes to.
-/

namespace TunnelSession.Console

open Session

section

variable {ε ι : Type} {s t : Session ε ι} {r : Request} {v : Verdict}

/-- A request ends with an outcome after which the controls show its session. -/
def Reports (r : Request) (running : Bool) (v : Verdict) (t : Session ε ι) : Prop :=
  ∃ o, Outcome.of? r v = some o ∧ Answers r o ∧
    (due (some r) running).onOutcome o = .connected t.isRunning

/-- The phase that a console makes a request in. -/
def Allows (s : Session ε ι) : Request → Prop
  | .start => s.phase = .idle
  | .stop => s.phase = .active
  | .switch _ => True

variable [TunnelInterface ι]

theorem enters_reports (h : Enters s r (some v) t) (free : s.flight = none) (allows : Allows s r)
    (caught : ∀ payload, v ≠ .raised payload) : Reports r s.isRunning v t := by
  cases h with
  | busy taken => exact absurd free taken
  | startOutOfPhase _ phase => exact absurd allows phase
  | unplanned _ idle =>
    have shown : Controls.connected s.isRunning = ⟨true, false⟩ := by
      simp [Controls.connected, isRunning, idle]
    exact ⟨_, rfl, .startFailed, shown.symm⟩
  | @denied _ _ cause _ _ idle =>
    have refused : ∃ m p, Outcome.of? .start (.refused (.ofInterface cause)) =
        some (.startFailed m p) := by
      cases cause <;> exact ⟨_, _, rfl⟩
    have shown : Controls.connected s.isRunning = ⟨true, false⟩ := by
      simp [Controls.connected, isRunning, idle]
    obtain ⟨_, _, outcome⟩ := refused
    exact ⟨_, outcome, .startFailed, shown.symm⟩
  | raised => exact absurd rfl (caught _)
  | stopIdle _ idle => simp [Allows, idle] at allows
  | stopOutOfPhase _ _ notActive => exact absurd allows notActive
  | switchAway => exact ⟨_, rfl, .notRunning, rfl⟩

theorem enters_flies (h : Enters s r none t) : t.flight.map Flight.request = some r ∧
    (r.isLifecycle = false → t.isRunning = s.isRunning) := by
  cases h with
  | starting | stopping => exact ⟨rfl, by simp [Request.isLifecycle]⟩
  | switching => exact ⟨rfl, fun _ => rfl⟩

variable [Engine ε]

theorem finishes_reports {flight : Flight} (h : Finishes s flight v t)
    (caught : ∀ payload, v ≠ .raised payload) :
    Reports flight.request s.isRunning v t := by
  cases h with
  | started => exact ⟨_, rfl, .started, rfl⟩
  | startFailed | startRaised => exact ⟨_, rfl, .startFailed, rfl⟩
  | stopped => exact ⟨_, rfl, .stopped, rfl⟩
  | switched => exact ⟨_, rfl, .updated, rfl⟩
  | switchFailed => exact ⟨_, rfl, .switchFailed, rfl⟩
  | switchRaised => exact absurd rfl (caught _)

end

/-- A console, with the requests of its lines that were accepted and whose outcomes it has not yet
handled, the oldest first. -/
structure Watch (ε ι : Type) where
  console : Console ε ι
  awaited : List Request

namespace Watch

section Consistent

variable {ε ι : Type} {w w' : Watch ε ι}

def session (w : Watch ε ι) : Session ε ι := w.console.dispatcher.session

structure Consistent (w : Watch ε ι) : Prop where
  coherent : Coherent w.session
  steady : ¬ Stranded w.session
  tracks : Tracks (w.session.flight.map Flight.request) w.session.isRunning
    w.console.dispatcher.outcomes w.console.controls w.awaited

/-- What matters is the phase, the request in flight, the outcomes and the controls. -/
theorem Consistent.congr (consistent : Consistent w) (phase : w'.session.phase = w.session.phase)
    (flight : w'.session.flight = w.session.flight)
    (outcomes : w'.console.dispatcher.outcomes = w.console.dispatcher.outcomes)
    (controls : w'.console.controls = w.console.controls) (awaited : w'.awaited = w.awaited) :
    Consistent w' := by
  obtain ⟨coherent, steady, tracks⟩ := consistent
  refine ⟨?_, ?_, ?_⟩
  · simpa only [Coherent, flight, phase] using coherent
  · simpa only [Stranded, flight, phase] using steady
  · simpa only [isRunning, flight, phase, outcomes, controls, awaited] using tracks

theorem Consistent.settled (consistent : Consistent w) (free : w.session.flight = none) :
    Settled w.session :=
  (settled_iff_not_stranded consistent.coherent free).mpr consistent.steady

theorem Consistent.tracks_free (consistent : Consistent w) (free : w.session.flight = none) :
    Tracks none w.session.isRunning w.console.dispatcher.outcomes w.console.controls
      w.awaited := by
  simpa only [free, Option.map_none] using consistent.tracks

/-- An enabled control shows the phase. -/
theorem Consistent.controls_eq (consistent : Consistent w) (enabled : w.console.controls ≠ .off) :
    w.console.controls = .connected w.session.isRunning :=
  consistent.tracks.controls_eq (consistent.tracks.switches enabled)

theorem Consistent.phase_of_switches (consistent : Consistent w)
    (switches : ∀ r ∈ w.awaited, r.isLifecycle = false) :
    w.session.phase = .idle ∨ w.session.phase = .active := by
  cases taken : w.session.flight with
  | none => exact (consistent.settled taken).2
  | some flight =>
    have tracks := consistent.tracks
    rw [taken, Option.map_some] at tracks
    have switch := switches _ tracks.inFlight_awaited
    have phase := consistent.coherent.phase_of_flight taken
    cases flight with
    | start | stop => simp [Flight.request, Request.isLifecycle] at switch
    | switch => exact .inr phase

theorem Consistent.controls_cases (consistent : Consistent w) :
    (∃ r ∈ w.awaited, r.isLifecycle = true) ∧ w.console.controls = .off ∨
    (∀ r ∈ w.awaited, r.isLifecycle = false) ∧
      w.console.controls = .connected w.session.isRunning := by
  by_cases pending : ∃ r ∈ w.awaited, r.isLifecycle = true
  · exact .inl ⟨pending, consistent.tracks.off pending⟩
  · have switches : ∀ r ∈ w.awaited, r.isLifecycle = false := by simpa using pending
    exact .inr ⟨switches, consistent.tracks.controls_eq switches⟩

theorem connected_shows (s : Session ε ι) (phase : s.phase = .idle ∨ s.phase = .active) :
    ((Controls.connected s.isRunning).start = true ↔ s.phase = .idle) ∧
    ((Controls.connected s.isRunning).stop = true ↔ s.phase = .active) := by
  rcases phase with idle | active
  · simp [Controls.connected, isRunning, idle]
  · simp [Controls.connected, isRunning, active]

end Consistent

section Lines

variable {ε ι : Type} [TunnelInterface ι] {w w' : Watch ε ι}

/-- A request that is accepted goes into flight or ends with an outcome. -/
theorem dispatch_consistent {d : Dispatcher ε ι} (r : Request) (coherent : Coherent d.session)
    (steady : ¬ Stranded d.session) (free : d.session.flight = none) (allows : Allows d.session r)
    (caught : ∀ payload, (d.session.enter r).1 ≠ some (.raised payload))
    (dispatcher : w'.console.dispatcher = (d.dispatch r).2)
    (tracks : ∀ running, (r.isLifecycle = false → running = d.session.isRunning) →
      Tracks (some r) running d.outcomes w'.console.controls w'.awaited) : Consistent w' := by
  have enters := enter_enters d.session r
  rw [d.dispatch_free r free] at dispatcher
  rcases eq : d.session.enter r with ⟨ended, t⟩
  rw [eq] at enters caught dispatcher
  have session : w'.session = t := by rw [Watch.session, dispatcher]
  refine ⟨?_, ?_, ?_⟩
  · rw [session]
    exact enters_coherent enters coherent
  · rw [session]
    exact enters_steady enters steady caught
  · rw [session, dispatcher]
    cases ended with
    | none =>
      obtain ⟨flight, running⟩ := enters_flies enters
      rw [flight]
      simpa using tracks _ running
    | some v =>
      obtain ⟨o, outcome, answers, shown⟩ :=
        enters_reports enters free allows fun payload raised => caught payload (by rw [raised])
      rw [enters_free enters free]
      simpa [outcome] using (tracks _ fun _ => rfl).report answers shown

/-- A start or a stop turns the controls off. -/
theorem lifecycle_consistent {c : Console ε ι} {r : Request} (lifecycle : r.isLifecycle = true)
    (consistent : Consistent w) (free : w.session.flight = none) (allows : Allows w.session r)
    (caught : ∀ payload, (w.session.enter r).1 ≠ some (.raised payload))
    (dispatcher : c.dispatcher = (w.console.dispatcher.dispatch r).2)
    (on : w.console.controls ≠ .off) (off : c.controls = .off) :
    Consistent ⟨c, w.awaited ++ [r]⟩ := by
  refine dispatch_consistent r consistent.coherent consistent.steady free allows caught
    dispatcher ?_
  intro running _
  rw [off]
  exact (consistent.tracks_free free).accept_lifecycle on lifecycle

theorem line_consistent {c : Console ε ι} {accepted : Option Request}
    (lands : Lands w.console c accepted)
    (caught : ∀ r payload, accepted = some r → (w.session.enter r).1 ≠ some (.raised payload))
    (consistent : Consistent w) : Consistent ⟨c, w.awaited ++ accepted.toList⟩ := by
  cases lands with
  | settings dispatcher controls =>
    refine consistent.congr ?_ ?_ ?_ controls (List.append_nil _)
    all_goals simp only [Watch.session, dispatcher]; rfl
  | start free enabled dispatcher controls =>
    have on := Controls.ne_off (.inl enabled)
    have shown := consistent.controls_eq on
    have idle : w.session.phase = .idle := by
      have notActive : w.session.phase ≠ .active := by
        simpa [shown, Controls.connected, isRunning] using enabled
      exact (consistent.settled free).2.resolve_right notActive
    have off : c.controls = .off := by
      rw [controls, shown]
      simp [Controls.connected, Controls.off, isRunning, idle]
    exact lifecycle_consistent rfl consistent free idle (fun payload => caught _ payload rfl)
      dispatcher on off
  | stop free enabled dispatcher controls =>
    have on := Controls.ne_off (.inr enabled)
    have shown := consistent.controls_eq on
    have active : w.session.phase = .active := by
      simpa [shown, Controls.connected, isRunning] using enabled
    have off : c.controls = .off := by
      rw [controls, shown]
      simp [Controls.connected, Controls.off, isRunning, active]
    exact lifecycle_consistent rfl consistent free active (fun payload => caught _ payload rfl)
      dispatcher on off
  | switch free dispatcher controls =>
    refine dispatch_consistent (.switch _) consistent.coherent consistent.steady free trivial
      (fun payload => caught _ payload rfl) dispatcher ?_
    intro running same
    rw [controls, same rfl]
    exact (consistent.tracks_free free).accept_switch _

/-- Handling an outcome moves the controls, and may ask the user something. -/
theorem onOutcome_keeps (c : Console ε ι) (o : Outcome) :
    (c.onOutcome o).2.controls = c.controls.onOutcome o ∧
    (c.onOutcome o).2.dispatcher.outcomes = c.dispatcher.outcomes ∧
    (c.onOutcome o).2.dispatcher.session.phase = c.dispatcher.session.phase ∧
    (c.onOutcome o).2.dispatcher.session.flight = c.dispatcher.session.flight := by
  unfold onOutcome
  split <;> exact ⟨rfl, rfl, rfl, rfl⟩

theorem outcome_consistent {o : Outcome} {outcomes : List Outcome}
    (first : w.console.dispatcher.outcomes = o :: outcomes) (consistent : Consistent w) :
    Consistent ⟨({ w.console with dispatcher.outcomes := outcomes }.onOutcome o).2,
      w.awaited.tail⟩ := by
  obtain ⟨coherent, steady, tracks⟩ := consistent
  rw [first] at tracks
  obtain ⟨controls, rest, phase, flight⟩ :=
    onOutcome_keeps { w.console with dispatcher.outcomes := outcomes } o
  generalize ({ w.console with dispatcher.outcomes := outcomes }.onOutcome o).2 = c at *
  change c.dispatcher.session.phase = w.session.phase at phase
  change c.dispatcher.session.flight = w.session.flight at flight
  have running : c.dispatcher.session.isRunning = w.session.isRunning := by
    simp only [isRunning, phase]
  refine ⟨?_, ?_, ?_⟩
  · simpa only [Coherent, Watch.session, flight, phase] using coherent
  · simpa only [Stranded, Watch.session, flight, phase] using steady
  · change Tracks (c.dispatcher.session.flight.map _) c.dispatcher.session.isRunning _ _ _
    rw [flight, running, rest, controls]
    exact tracks.handle

/-- Once the outcomes that wait are handled, the controls show the phase. -/
theorem onOutcomes_keeps (c : Console ε ι) (outcomes : List Outcome) :
    (c.onOutcomes outcomes).2.controls = outcomes.foldl Controls.onOutcome c.controls ∧
    (c.onOutcomes outcomes).2.dispatcher.session.phase = c.dispatcher.session.phase := by
  induction outcomes generalizing c with
  | nil => exact ⟨rfl, rfl⟩
  | cons o rest ih =>
    obtain ⟨controls, _, phase, _⟩ := onOutcome_keeps c o
    obtain ⟨later, same⟩ := ih (c.onOutcome o).2
    refine ⟨?_, ?_⟩
    · rw [List.foldl_cons, ← controls]
      exact later
    · rw [← phase]
      exact same

theorem Consistent.drain_shows (consistent : Consistent w) (free : w.session.flight = none) :
    w.console.drain.2.2.controls = .connected w.session.isRunning ∧
    w.console.drain.2.2.dispatcher.session.phase = w.session.phase := by
  obtain ⟨controls, phase⟩ :=
    onOutcomes_keeps { w.console with dispatcher.outcomes := [] } w.console.dispatcher.outcomes
  exact ⟨controls.trans (consistent.tracks_free free).shown, phase⟩

end Lines

section Runs

variable {ε ι : Type} [Engine ε] [TunnelInterface ι] (u : Surroundings ε ι)

/-- What happens to a console: a line, the end of the request in flight, an outcome that is handled,
and changes by others to settings, engine and interface. No request of a line ends in a payload that
nothing caught. -/
inductive Step (w : Watch ε ι) : Watch ε ι → Prop
  | line (text : String)
      (caught : ∀ r payload, w.console.accepted? (.parse text) = some r →
        (w.session.enter r).1 ≠ some (.raised payload)) :
      Step w ⟨(w.console.handle text).console,
        w.awaited ++ (w.console.accepted? (.parse text)).toList⟩
  | settle {r v t} (ended : w.session.finish = (some (r, v), t))
      (caught : ∀ payload, v ≠ .raised payload) : Step w ⟨w.console.settle, w.awaited⟩
  | outcome {o outcomes} (first : w.console.dispatcher.outcomes = o :: outcomes) :
      Step w ⟨({ w.console with dispatcher.outcomes := outcomes }.onOutcome o).2, w.awaited.tail⟩
  | edit (e : Edit) : Step w ⟨w.console.withStore (e.apply w.console.store), w.awaited⟩
  | engine (engine : ε) (h : u.engine w.session.engine engine) :
      Step w ⟨{ w.console with dispatcher.session.engine := engine }, w.awaited⟩
  | interface (interface : ι) (h : u.interface w.session.interface interface) :
      Step w ⟨{ w.console with dispatcher.session.interface := interface }, w.awaited⟩

inductive Run (start : Watch ε ι) : Watch ε ι → Prop
  | start : Run start start
  | next {w w'} : Run start w → Step u w w' → Run start w'

/-- A console that nothing has happened to. -/
def connect (session : Session ε ι) (installed : List InstalledApp) : Watch ε ι :=
  ⟨.connect session installed, []⟩

variable {u} {w w' : Watch ε ι}

theorem settle_consistent {r : Request} {v : Verdict} {t : Session ε ι}
    (ended : w.session.finish = (some (r, v), t)) (caught : ∀ payload, v ≠ .raised payload)
    (consistent : Consistent w) : Consistent ⟨w.console.settle, w.awaited⟩ := by
  obtain ⟨flight, taken, rfl, finishes⟩ := finishes_of_eq ended
  have phase := consistent.coherent.phase_of_flight taken
  have tracks := consistent.tracks
  rw [taken, Option.map_some] at tracks
  obtain ⟨o, outcome, answers, shown⟩ := finishes_reports finishes caught
  have settled : w.console.settle.dispatcher = ⟨t, w.console.dispatcher.outcomes ++ [o]⟩ := by
    have eq : w.console.dispatcher.session.finish = (some (flight.request, v), t) := ended
    simp [Console.settle, Dispatcher.settle_eq, eq, outcome]
  have session : (⟨w.console.settle, w.awaited⟩ : Watch ε ι).session = t := by
    rw [Watch.session, settled]
  refine ⟨?_, ?_, ?_⟩
  · rw [session]
    exact finishes_coherent finishes consistent.coherent taken
  · rw [session]
    exact finishes_steady finishes phase
  · rw [session, settled, finishes_flight finishes]
    exact tracks.report answers shown

theorem Consistent.settle_frees (consistent : Consistent w)
    (caught : ∀ r payload, w.session.finish.1 ≠ some (r, .raised payload)) :
    Consistent ⟨w.console.settle, w.awaited⟩ ∧
      w.console.settle.dispatcher.session.flight = none := by
  cases taken : w.session.flight with
  | none =>
    have idle : w.console.settle = w.console := by
      have still : w.console.dispatcher.session.finish = (none, _) := finish_idle taken
      simp [Console.settle, Dispatcher.settle, still]
    rw [idle]
    exact ⟨consistent, taken⟩
  | some flight =>
    obtain ⟨v, t, ended, finishes⟩ := finish_finishes taken
    have settled := settle_consistent ended
      (fun payload raised => caught _ payload (by rw [ended, raised])) consistent
    refine ⟨settled, ?_⟩
    have eq : w.console.dispatcher.session.finish = (some (flight.request, v), t) := ended
    simp [Console.settle, Dispatcher.settle_eq, eq, finishes_flight finishes]

theorem step_consistent (step : Step u w w') (consistent : Consistent w) : Consistent w' := by
  cases step with
  | line text caught => exact line_consistent (w.console.handle_lands text) caught consistent
  | settle ended caught => exact settle_consistent ended caught consistent
  | outcome first => exact outcome_consistent first consistent
  | edit | engine | interface => exact consistent.congr rfl rfl rfl rfl rfl

theorem run_consistent {start : Watch ε ι} (run : Run u start w) (consistent : Consistent start) :
    Consistent w := by
  induction run with
  | start => exact consistent
  | next _ step ih => exact step_consistent step ih

omit [TunnelInterface ι] in
theorem connect_consistent {session : Session ε ι} {installed : List InstalledApp}
    (settled : Settled session) : Consistent (.connect session installed) := by
  obtain ⟨free, phase⟩ := reconcile_settled settled
  have coherent : Coherent session.reconcile.2 := by
    rw [coherent_of_free free]
    rcases phase with idle | active
    · simp [idle]
    · simp [active]
  have steady : ¬ Stranded session.reconcile.2 :=
    (settled_iff_not_stranded coherent free).mp ⟨free, phase⟩
  refine ⟨coherent, steady, ?_⟩
  change Tracks (session.reconcile.2.flight.map Flight.request) session.reconcile.2.isRunning []
    (.connected session.reconcile.2.isRunning) []
  rw [free]
  exact ⟨⟨[], rfl, .nil⟩, by simp, by simp, rfl⟩

/-- **Controls and session agree.** Take any run of a console from a session with nothing in flight,
running or not, with any lines, each outcome handled at any later moment, and an engine that fails,
raises or ends by itself; only, no request ends in a payload that nothing caught. Start and stop are
never both enabled. Both are off exactly while a start or a stop that was accepted has not had its
outcome handled, and there is at most one of these. When there is none, start is enabled exactly if
the session is idle, and stop exactly if it is active. The outcomes that wait belong to the requests
accepted first, and no start or stop ends as a failed operation. Once the request in flight has
ended and every outcome is handled, exactly one of the two controls is enabled. -/
theorem controls_agree {session : Session ε ι} {installed : List InstalledApp}
    (settled : Settled session) (run : Run u (.connect session installed) w) :
    (¬ (w.console.controls.start = true ∧ w.console.controls.stop = true)) ∧
    (w.console.controls.start = false ∧ w.console.controls.stop = false ↔
      ∃ r ∈ w.awaited, r.isLifecycle = true) ∧
    w.awaited.countP Request.isLifecycle ≤ 1 ∧
    ((∀ r ∈ w.awaited, r.isLifecycle = false) →
      (w.console.controls.start = true ↔ w.session.phase = .idle) ∧
      (w.console.controls.stop = true ↔ w.session.phase = .active)) ∧
    (∃ answered, w.awaited = answered ++ (w.session.flight.map Flight.request).toList ∧
      List.Forall₂ Answers answered w.console.dispatcher.outcomes) ∧
    (∀ r o, (r, o) ∈ w.awaited.zip w.console.dispatcher.outcomes → r.isLifecycle = true →
      ∀ message, o ≠ .failed message) ∧
    ((∀ r payload, w.session.finish.1 ≠ some (r, .raised payload)) →
      let c := w.console.settle.drain.2.2
      (c.controls.start = true ↔ c.dispatcher.session.phase = .idle) ∧
      (c.controls.stop = true ↔ c.dispatcher.session.phase = .active) ∧
      c.controls.start = !c.controls.stop) := by
  have consistent := run_consistent run (connect_consistent settled)
  refine ⟨?_, ?_, consistent.tracks.single, ?_, consistent.tracks.answered, ?_, ?_⟩
  · rcases consistent.controls_cases with ⟨_, off⟩ | ⟨_, shown⟩
    · simp [off, Controls.off]
    · simp [shown, Controls.connected]
  · rcases consistent.controls_cases with ⟨pending, off⟩ | ⟨switches, shown⟩
    · simp only [off, Controls.off, true_and, true_iff]
      exact pending
    · simpa [shown, Controls.connected] using switches
  · intro switches
    rw [consistent.tracks.controls_eq switches]
    exact connected_shows _ (consistent.phase_of_switches switches)
  · intro r o mem lifecycle message failed
    obtain ⟨answered, awaited, answers⟩ := consistent.tracks.answered
    have pair : (r, o) ∈ answered.zip w.console.dispatcher.outcomes := by
      rw [awaited, ← List.append_nil w.console.dispatcher.outcomes,
        List.zip_append answers.length_eq] at mem
      simpa using mem
    cases List.forall₂_zip answers pair with
    | switchFailed => simp [Request.isLifecycle] at lifecycle
    | started | startFailed | stopped | updated | notRunning => simp at failed
  · intro caught
    obtain ⟨ended, free⟩ := consistent.settle_frees caught
    obtain ⟨controls, phase⟩ := ended.drain_shows free
    have shows := connected_shows _ (ended.settled free).2
    rw [← controls, ← phase] at shows
    refine ⟨shows.1, shows.2, ?_⟩
    rw [controls]
    rfl

/-- An interface that does not raise is enough for a line to be taken. -/
theorem Run.line {start : Watch ε ι} (run : Run u start w)
    (calm : ∀ config payload,
      (TunnelInterface.establish w.session.interface config).1 ≠ .raised payload)
    (text : String) : Run u start ⟨(w.console.handle text).console,
      w.awaited ++ (w.console.accepted? (.parse text)).toList⟩ := by
  refine run.next (.line text ?_)
  intro r payload _ raised
  rcases eq : w.session.enter r with ⟨ended, t⟩
  rw [eq] at raised
  cases enters_of_eq eq with
  | @raised config _ _ _ _ _ _ answer => exact calm config _ (by rw [answer])
  | _ => simp at raised

/-- An engine that does not raise over a gateway is enough for a request in flight to end. -/
theorem Run.settle {start : Watch ε ι} {r : Request} {v : Verdict} {t : Session ε ι}
    (run : Run u start w)
    (calm : ∀ target payload,
      (Engine.redirect w.session.engine w.session.store.dir target).ending ≠ .raised payload)
    (ended : w.session.finish = (some (r, v), t)) :
    Run u start ⟨w.console.settle, w.awaited⟩ := by
  refine run.next (.settle ended ?_)
  obtain ⟨_, _, _, finishes⟩ := finishes_of_eq ended
  cases finishes with
  | switchRaised answer => exact absurd answer (calm _ _)
  | _ => simp

end Runs

theorem dryRun_establish_calm (i : Recorded.Interface DryRun.Interface) (config : Tunnel.Config)
    (payload : Option String) : (TunnelInterface.establish i config).1 ≠ .raised payload := by
  change (DryRun.Interface.establish i.inner config).1 ≠ .raised payload
  unfold DryRun.Interface.establish
  split <;> simp

theorem dryRun_redirect_calm (e : Recorded.Engine DryRun.Engine) (dir : Folder) (target : Address)
    (payload : Option String) : (Engine.redirect e dir target).ending ≠ .raised payload := by
  change (DryRun.Engine.redirect e.inner dir target).ending ≠ .raised payload
  unfold DryRun.Engine.redirect
  split
  · simp
  · split <;> simp

theorem exits_unseen {start w : Watch (Recorded.Engine DryRun.Engine)
      (Recorded.Interface DryRun.Interface)}
    (run : Run (Recorded.surroundings exiting) start w) :
    Run (Recorded.surroundings exiting) start ⟨{ w.console with
      dispatcher.session.engine :=
        ⟨{ w.session.engine.inner with running := none }, w.session.engine.calls⟩ }, w.awaited⟩ :=
  run.next (.engine _ ⟨rfl, rfl⟩)

/-- A start that is held while stop is pressed, and whose outcome waits while the engine ends. -/
theorem controls_agree_over_dry_run : ∃ w : Watch _ _,
    Run (Recorded.surroundings exiting) (.connect overDryRun.session []) w ∧
    w.awaited = [.start] ∧ w.session.phase = .active ∧
    w.console.controls.start = false ∧ w.console.controls.stop = false := by
  have settled : Settled overDryRun.session := ⟨rfl, .inl rfl⟩
  have begun : Run (Recorded.surroundings exiting) (.connect overDryRun.session []) _ := .start
  have held := begun.line (dryRun_establish_calm _) "start"
  have tried := held.line (dryRun_establish_calm _) "stop"
  have active := tried.settle (dryRun_redirect_calm _ _) rfl
  have exited := exits_unseen active
  obtain ⟨_, off, _⟩ := controls_agree settled exited
  refine ⟨_, exited, ?_, ?_, ?_⟩
  · decide +kernel
  · decide +kernel
  · exact off.mpr ⟨.start, by decide +kernel, rfl⟩

end Watch

end TunnelSession.Console
