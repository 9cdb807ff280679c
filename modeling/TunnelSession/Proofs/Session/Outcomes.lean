import TunnelSession.Proofs.Session.Descriptors
import TunnelSession.Proofs.Session.Ends

/-!
Every outcome tells the truth. `Outcome.Tells` says what each outcome means for the session that its
request found and the one that it left, and `outcomes_truthful` shows that it is so.
-/

namespace TunnelSession

open Session

/-- The permission was missing. -/
def Outcome.lacksPermission : Outcome → Bool
  | .startFailed _ permissionRequired => permissionRequired
  | _ => false

/-- A start that the interface refused has failed, for want of permission or not. -/
theorem Outcome.of?_ofInterface (cause : InterfaceError) :
    Outcome.of? .start (.refused (.ofInterface cause)) =
      some (.startFailed (Error.ofInterface cause).message (cause = .permissionDenied)) := by
  cases cause <;> rfl

section Meaning

variable {ε ι : Type}

/-- What an outcome says about the session `s` that its request found and the session `t` that it
left. While the request was held, others may have made edits: a failed operation made none. -/
def Outcome.Tells (s t : Session (Recorded.Engine ε) (Recorded.Interface ι))
    (meanwhile : List Event) : Outcome → Prop
  | .started => s.phase = .idle ∧ t.phase = .active
  | .startFailed _ permissionRequired => s.phase = .idle ∧ t.phase = .idle ∧
      (permissionRequired = true ↔
        ∃ config, .establish config (.error .permissionDenied) ∈ t.interface.since s.interface)
  | .stopped => (s.phase = .idle ∨ s.phase = .active) ∧ t.phase = .idle
  | .gatewayUpdated target => s.phase = .active ∧ t.phase = .active ∧
      .redirect target (.ok ()) ∈ t.engine.since s.engine ∧
      t.store.get? .gateway = some target.text
  | .notRunning => s.phase ≠ .active ∧ t = s
  | .failed _ => t.phase = s.phase ∧
      t.store.settings = edited meanwhile s.store.settings

end Meaning

namespace Session

section

variable {ε ι : Type} {s t : Session (Recorded.Engine ε) (Recorded.Interface ι)} {r : Request}
  {v : Verdict} {meanwhile : List Event} {o : Outcome}

/-- Permission was denied if the one request for an interface was answered so. -/
theorem Asked.denied_iff {config : Tunnel.Config} {ending : Ending InterfaceError Establishment}
    {engine : List Recorded.EngineCall} (asked : Asked s t [.establish config ending] engine) :
    (∃ config, .establish config (.error .permissionDenied) ∈ t.interface.since s.interface) ↔
      ending = .error .permissionDenied := by
  obtain ⟨dropped, since⟩ := asked.interface
  rw [since]
  constructor
  · rintro ⟨config', mem⟩
    obtain ⟨_, same⟩ : config' = config ∧ .error .permissionDenied = ending := by simpa using mem
    exact same.symm
  · rintro rfl
    exact ⟨config, by simp⟩

theorem ends_tell (h : Ends s t meanwhile r v) (reported : Outcome.of? r v = some o) :
    o.Tells s t meanwhile := by
  cases h with
  | startOutOfPhase | stopOutOfPhase =>
    cases reported
    exact ⟨rfl, rfl⟩
  | unplanned idle =>
    cases reported
    refine ⟨idle, idle, ?_⟩
    simp [Recorded.Interface.since]
  | denied idle _ asked phase =>
    rw [Outcome.of?_ofInterface] at reported
    cases reported
    refine ⟨idle, phase, ?_⟩
    rw [asked.denied_iff]
    simp
  | started idle _ _ phase =>
    cases reported
    exact ⟨idle, phase⟩
  | startFailed idle _ asked phase | startRaised idle _ asked phase =>
    cases reported
    refine ⟨idle, phase, ?_⟩
    rw [asked.denied_iff]
    simp
  | stopIdle idle =>
    cases reported
    exact ⟨.inl idle, idle⟩
  | stopped active _ phase =>
    cases reported
    exact ⟨.inr active, phase⟩
  | switchAway notActive =>
    cases reported
    exact ⟨notActive, rfl⟩
  | switched active asked phase settings =>
    cases reported
    refine ⟨active, phase, ?_, ?_⟩
    · rw [asked.engine]
      exact List.mem_singleton_self _
    · rw [Store.get?, settings, Settings.get?_set_self]
  | switchFailed active _ phase settings =>
    cases reported
    exact ⟨phase.trans active.symm, settings⟩
  | raised | switchRaised => simp [Outcome.of?] at reported

end

end Session

namespace Dispatcher

variable {ε ι : Type} [Engine ε] [TunnelInterface ι]

/-- **Every outcome tells the truth.** Take any dispatcher, in any state of its session, and any
request that it accepts, with any answers, errors and raised payloads of the engine and the
interface, held in the engine for any time or not at all. The outcome that the request puts in the
queue holds of the session that it found and the one that it left. -/
theorem outcomes_truthful {u : Surroundings ε ι}
    {d d' : Dispatcher (Recorded.Engine ε) (Recorded.Interface ι)} {r : Request}
    {meanwhile : List Event} {o : Outcome}
    (attempt : Attempt (Recorded.surroundings u) d r meanwhile o d') :
    o.Tells d.session d'.session meanwhile := by
  obtain ⟨free, v, call, reported⟩ := attempt.call
  exact ends_tell (call_ends call free) reported

/-- A switch that is held while the user types another gateway: the outcome names the one that the
engine accepted, and that one is stored. -/
theorem outcomes_truthful_over_edit :
    let target : Candidate := ⟨0, "router", ⟨172, 20, 0, 8⟩⟩
    let d := ((Recorded.overScript {} (.knowing none)).dispatch .start).2.settle
    ∃ d', Attempt (Recorded.surroundings Scripted.surroundings) d (.switch target)
        [.edit (.save .gateway "10.0.0.1")] (.gatewayUpdated target.address) d' ∧
      .redirect target.address (.ok ()) ∈ d'.session.engine.since d.session.engine ∧
      d'.session.store.get? .gateway = some "172.20.0.8" := by
  intro target d
  have text : target.address.text = "172.20.0.8" := by decide +kernel
  have between : Run (Recorded.surroundings Scripted.surroundings) (d.dispatch (.switch target)).2
      [.edit (.save .gateway "10.0.0.1")] _ := .next .start (.direct (.edit _ _))
  have attempt : Attempt (Recorded.surroundings Scripted.surroundings) d (.switch target) _
      (.gatewayUpdated target.address) _ :=
    .held rfl nofun between (by simp [Event.isLanding]) rfl
  obtain ⟨_, _, redirected, stored⟩ := outcomes_truthful attempt
  exact ⟨_, attempt, redirected, text ▸ stored⟩

end Dispatcher

end TunnelSession
