import TunnelSession.Proofs.Session.Coherent
import TunnelSession.Proofs.Session.Recorded
import TunnelSession.DryRun.Engine
import TunnelSession.DryRun.Interface

/-!
Session and engine agree over whole runs. Every start that the engine answered is ended once, by a
stop or by a reconciliation that found the engine down, and only a session that is open runs its
engine: `sessions_accounted`.
-/

namespace TunnelSession

/-- What a session relies on. An engine that is down does not come up by a start that fails or by
itself, and a stop takes it down. -/
structure Engine.Contract (ε : Type) [Engine ε] (drift : ε → ε → Prop) : Prop where
  start : ∀ (e : ε) dir d p, Engine.isRunning e = false →
    (Engine.start e dir d p).ending ≠ .ok () →
      Engine.isRunning (Engine.start e dir d p).engine = false
  stop : ∀ (e : ε) dir, Engine.isRunning (Engine.stop e dir).engine = false
  drift : ∀ e e', drift e e' → Engine.isRunning e = false → Engine.isRunning e' = false

namespace Session

/-- Whether a start was answered that has not been ended. -/
def Phase.isOpen : Phase → Bool
  | .active | .stopping => true
  | .idle | .establishing => false

variable {ε ι : Type} [Engine ε]

structure Agrees (s : Session (Recorded.Engine ε) ι) (dropped : Nat) : Prop where
  coherent : Coherent s
  down : s.phase.isOpen = false → Engine.isRunning s.engine = false
  first : ∀ call ∈ s.engine.calls, call.isClash = false
  count : s.engine.accepted.length = s.engine.stops + dropped + s.phase.isOpen.toNat

/-- The agreement does not depend on the settings. -/
theorem Agrees.withStore {s : Session (Recorded.Engine ε) ι} {n : Nat} (agrees : Agrees s n)
    (store : Store) : Agrees { s with store } n :=
  ⟨agrees.coherent, agrees.down, agrees.first, agrees.count⟩

section Steps

variable [TunnelInterface ι] {drift : ε → ε → Prop} (contract : Engine.Contract ε drift)
  {s t : Session (Recorded.Engine ε) ι} {n : Nat}

omit [Engine ε] in
/-- The first half of a request asks nothing of the engine, and opens or closes nothing. -/
theorem enters_frame {ε : Type} {s t : Session ε ι} {r : Request} {ended : Option Verdict}
    (h : Enters s r ended t) : t.engine = s.engine ∧ t.phase.isOpen = s.phase.isOpen := by
  cases h with
  | busy | startOutOfPhase | unplanned | denied | stopIdle | stopOutOfPhase | switching
  | switchAway => exact ⟨rfl, rfl⟩
  | raised _ idle | starting _ idle => exact ⟨rfl, by simp [idle, Phase.isOpen]⟩
  | stopping _ active => exact ⟨rfl, by simp [active, Phase.isOpen]⟩

theorem enters_agrees {r : Request} {ended : Option Verdict} (h : Enters s r ended t)
    (agrees : Agrees s n) : Agrees t n := by
  obtain ⟨engine, isOpen⟩ := enters_frame h
  refine ⟨enters_coherent h agrees.coherent, ?_, ?_, ?_⟩
  · rw [engine, isOpen]
    exact agrees.down
  · rw [engine]
    exact agrees.first
  · rw [engine, isOpen]
    exact agrees.count

theorem start_answered {d : Descriptor} {p : Tunnel.Params} (agrees : Agrees s n)
    (phase : s.phase = .establishing)
    (answer : (Engine.start s.engine s.store.dir d p).ending = .ok ()) :
    Agrees (s.landed (Engine.start s.engine s.store.dir d p) .active) n := by
  have off := agrees.down (by simp [phase, Phase.isOpen])
  have count := agrees.count
  simp only [Recorded.Engine.start_eq, Reply.map_ending, Recorded.Engine.isRunning_eq] at answer off
  refine ⟨by simp [Coherent], by simp [Phase.isOpen], ?_, ?_⟩
  · simpa [or_imp, forall_and, Recorded.EngineCall.isClash, off] using agrees.first
  · simp [answer, Recorded.EngineCall.isStop, phase, Phase.isOpen] at count ⊢
    omega

include contract in
theorem start_unanswered {d : Descriptor} {p : Tunnel.Params} (agrees : Agrees s n)
    (phase : s.phase = .establishing)
    (answer : (Engine.start s.engine s.store.dir d p).ending ≠ .ok ()) :
    Agrees (s.landed (Engine.start s.engine s.store.dir d p) .idle) n := by
  have off := agrees.down (by simp [phase, Phase.isOpen])
  have count := agrees.count
  simp only [Recorded.Engine.start_eq, Reply.map_ending, Recorded.Engine.isRunning_eq] at answer off
  refine ⟨by simp [Coherent], fun _ => contract.start _ _ _ _ off answer, ?_, ?_⟩
  · simpa [or_imp, forall_and, Recorded.EngineCall.isClash, off] using agrees.first
  · simpa [Recorded.EngineCall.accepted?_unanswered answer, Recorded.EngineCall.isStop, phase,
      Phase.isOpen] using count

include contract in
theorem stop_agrees (agrees : Agrees s n) (phase : s.phase = .stopping) :
    Agrees (s.landed (Engine.stop s.engine s.store.dir) .idle) n := by
  have count := agrees.count
  refine ⟨by simp [Coherent], fun _ => contract.stop _ _, ?_, ?_⟩
  · simpa [or_imp, forall_and, Recorded.EngineCall.isClash] using agrees.first
  · simp [Recorded.EngineCall.accepted?, Recorded.EngineCall.isStop, phase,
      Phase.isOpen] at count ⊢
    omega

theorem redirect_agrees (agrees : Agrees s n) (phase : s.phase = .active) (target : Address) :
    Agrees (s.landed (Engine.redirect s.engine s.store.dir target) s.phase) n := by
  refine ⟨by simp [Coherent, phase], by simp [phase, Phase.isOpen], ?_, ?_⟩
  · simpa [or_imp, forall_and, Recorded.EngineCall.isClash] using agrees.first
  · simpa [Recorded.EngineCall.accepted?, Recorded.EngineCall.isStop] using agrees.count

include contract in
theorem finishes_agrees {flight : Flight} {v : Verdict} (h : Finishes s flight v t)
    (taken : s.flight = some flight) (agrees : Agrees s n) : Agrees t n := by
  have phase := agrees.coherent.phase_of_flight taken
  cases h with
  | started answer => exact start_answered agrees phase answer
  | startFailed answer => exact start_unanswered contract agrees phase (by rw [answer]; exact nofun)
  | startRaised answer => exact start_unanswered contract agrees phase (by rw [answer]; exact nofun)
  | stopped => exact stop_agrees contract agrees phase
  | switched => exact (redirect_agrees agrees phase _).withStore _
  | switchFailed | switchRaised => exact redirect_agrees agrees phase _

omit [TunnelInterface ι] in
/-- A reconciliation that drops the session has found its engine down. -/
theorem reconcile_agrees (agrees : Agrees s n) :
    Agrees s.reconcile.2 (n + (s.isRunning && !s.reconcile.1).toNat) := by
  rcases s.reconcile_cases with same | ⟨free, active, off, dropped⟩
  · simpa [same] using agrees
  · obtain ⟨coherent, down, first, count⟩ := agrees
    simp only [dropped, isRunning, active]
    refine ⟨by simp [Coherent, free], fun _ => off, first, ?_⟩
    simp [active, Phase.isOpen] at count ⊢
    omega

omit [TunnelInterface ι] in
include contract in
theorem drift_agrees (agrees : Agrees s n) {engine : Recorded.Engine ε}
    (drifts : drift s.engine.inner engine.inner) (same : engine.calls = s.engine.calls) :
    Agrees { s with engine } n := by
  obtain ⟨coherent, down, first, count⟩ := agrees
  refine ⟨coherent, fun shut => contract.drift _ _ drifts (down shut), ?_, ?_⟩
  · simpa only [same] using first
  · simpa only [Recorded.Engine.accepted, Recorded.Engine.stops, same] using count

end Steps

section Runs

variable [TunnelInterface ι] {u : Surroundings ε ι}
  {s t : Session (Recorded.Engine ε) (Recorded.Interface ι)} {n : Nat}

theorem step_agrees (contract : Engine.Contract ε u.engine) {e : Event}
    (h : Step (Recorded.surroundings u) s e t) (agrees : Agrees s n) :
    Agrees t (n + e.isDrop.toNat) := by
  cases h with
  | enter h => exact enters_agrees (enters_of_eq h) agrees
  | finish h =>
    obtain ⟨flight, taken, _, finishes⟩ := finishes_of_eq h
    exact finishes_agrees contract finishes taken agrees
  | reconcile => exact reconcile_agrees agrees
  | edit => exact agrees.withStore _
  | engine _ h =>
    obtain ⟨drifts, same⟩ := h
    exact drift_agrees contract agrees drifts same
  | interface => exact ⟨agrees.coherent, agrees.down, agrees.first, agrees.count⟩
  | poll => exact agrees

theorem run_agrees (contract : Engine.Contract ε u.engine) {history : List Event}
    (run : Run (Recorded.surroundings u) s history t) (agrees : Agrees s 0) :
    Agrees t (drops history) := by
  induction run with
  | start => exact agrees
  | @next _ _ e _ _ step ih =>
    have next := step_agrees contract step ih
    cases dropped : e.isDrop <;> simpa [drops, dropped] using next

omit [TunnelInterface ι] in
theorem idle_agrees {engine : ε} {interface : ι} {store : Store} {host storage : String}
    (down : Engine.isRunning engine = false) :
    Agrees (.idle store (.unused engine) interface host storage) 0 := by
  refine ⟨by simp [Coherent, idle], fun _ => down, ?_, ?_⟩
  · simp [idle, Recorded.Engine.unused]
  · simp [idle, Recorded.Engine.unused, Recorded.Engine.accepted, Recorded.Engine.stops,
      Phase.isOpen]

/-- **Session and engine agree.** Take any run of a session, by direct calls and through a front
end, with requests held in the engine, settings changed and any answers of the interface, over an
engine that keeps the contract and is down at first. While no request is in flight, a running engine
means an active session. No running engine was ever asked to start. Of the starts that the engine
answered, each was ended by one stop or by one reconciliation, except the one that an active session
runs on; and a stop is only called for a start that has not been ended. -/
theorem sessions_accounted {u : Surroundings ε ι} (contract : Engine.Contract ε u.engine)
    {store : Store} {engine : ε} {interface : ι} {host storage : String}
    (down : Engine.isRunning engine = false) {history : List Event}
    {d : Dispatcher (Recorded.Engine ε) (Recorded.Interface ι)}
    (run : Dispatcher.Run (Recorded.surroundings u)
      (Recorded.fresh store engine interface host storage) history d) :
    (d.session.flight = none → Engine.isRunning d.session.engine = true →
      d.session.phase = .active) ∧
    (∀ call ∈ d.session.engine.calls, call.isClash = false) ∧
    (d.session.flight = none → d.session.engine.accepted.length =
      d.session.engine.stops + drops history + if d.session.phase = .active then 1 else 0) ∧
    (d.session.flight = some .stop → d.session.engine.accepted.length =
      d.session.engine.stops + drops history + 1) := by
  obtain ⟨coherent, off, first, count⟩ :=
    run_agrees contract run.session (idle_agrees down)
  refine ⟨?_, first, ?_, ?_⟩
  · intro free running
    have settled := (coherent_of_free free).mp coherent
    cases phase : d.session.phase <;> simp_all [Phase.isOpen]
  · intro free
    have settled := (coherent_of_free free).mp coherent
    cases phase : d.session.phase <;> simp_all [Phase.isOpen]
  · intro stopping
    have phase := coherent.phase_of_flight stopping
    simpa [phase, Flight.phase, Phase.isOpen] using count

end Runs

end Session

namespace DryRun

/-- A dry run that ends by itself. -/
def Exits (e e' : Engine) : Prop := e' = { e with running := none }

theorem engine_contract : TunnelSession.Engine.Contract Engine Exits where
  start e dir d p off failed := by
    have idle : e.running = none := by
      simpa [TunnelSession.Engine.isRunning] using off
    change (Engine.start e dir d p).engine.running.isSome = false
    change (Engine.start e dir d p).ending ≠ .ok () at failed
    revert failed
    simp only [Engine.start, idle, Option.isSome_none, Bool.false_eq_true, ↓reduceIte]
    split
    · simp [Engine.refusal, idle]
    · split <;> simp [Engine.refusal, idle]
  stop e dir := by
    change (Engine.stop e dir).engine.running.isSome = false
    unfold Engine.stop
    split <;> simp_all
  drift e e' exits off := by
    rw [exits]
    rfl

end DryRun

namespace Session

/-- A session over a dry run, in an empty folder. -/
def overDryRun : Dispatcher (Recorded.Engine DryRun.Engine) (Recorded.Interface DryRun.Interface) :=
  Recorded.fresh (.inMemory .missing) { known := [], period := 1000000000, now := ⟨0⟩ }
    { permission := true, installed := ∅ } Tunnel.defaultHost "/data"

/-- Around it, only the engine changes, by ending. -/
def exiting : Surroundings DryRun.Engine DryRun.Interface := ⟨DryRun.Exits, fun _ _ => False⟩

variable {d : Dispatcher (Recorded.Engine DryRun.Engine) (Recorded.Interface DryRun.Interface)}

theorem exits_next {history : List Event}
    (run : Dispatcher.Run (Recorded.surroundings exiting) overDryRun history d) :
    Dispatcher.Run (Recorded.surroundings exiting) overDryRun (history ++ [.drift])
      { d with session := { d.session with
        engine := ⟨{ d.session.engine.inner with running := none }, d.session.engine.calls⟩ } } :=
  run.next (.direct (.engine _ ⟨rfl, rfl⟩))

/-- A start held while a reconciliation passes, an exit of the engine that the next reconciliation
finds, and a second start. -/
theorem sessions_accounted_after_exit : ∃ history d,
    Dispatcher.Run (Recorded.surroundings exiting) overDryRun history d ∧
    drops history = 1 ∧ d.session.engine.accepted.length = 2 ∧
    d.session.engine.accepted.length =
      d.session.engine.stops + drops history + if d.session.phase = .active then 1 else 0 := by
  have begun : Dispatcher.Run (Recorded.surroundings exiting) overDryRun [] overDryRun := .start
  have held := begun.next (.dispatch (r := .start) rfl)
  have tried := held.next (.connect _)
  have active := tried.next (.settle rfl)
  have dropped := (exits_next active).next (.connect _)
  have again := dropped.next (.dispatch (r := .start) rfl)
  have last := again.next (.settle rfl)
  obtain ⟨_, _, count, _⟩ := sessions_accounted DryRun.engine_contract rfl last
  exact ⟨_, _, last, rfl, by decide +kernel, count (by decide +kernel)⟩

end Session

end TunnelSession
