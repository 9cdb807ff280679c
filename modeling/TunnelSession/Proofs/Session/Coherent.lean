import TunnelSession.Proofs.Session.Run

/-!
The request in flight and the phase of a session tell the same story, along every run, whatever the
engine and the interface do: `run_coherent`.
-/

namespace TunnelSession.Session

/-- The phase that a request in flight keeps its session in. -/
def Flight.phase : Flight → Phase
  | .start _ _ => .establishing
  | .stop => .stopping
  | .switch _ => .active

/-- Without a request in flight nothing is stopping; an interface that raised may have left the
session establishing. -/
def Coherent {ε ι : Type} (s : Session ε ι) : Prop :=
  match s.flight with
  | none => s.phase ≠ .stopping
  | some flight => s.phase = flight.phase

section

variable {ε ι : Type} {s : Session ε ι}

theorem coherent_of_free (free : s.flight = none) : Coherent s ↔ s.phase ≠ .stopping := by
  simp only [Coherent, free]

theorem Coherent.phase_of_flight (h : Coherent s) {flight : Flight}
    (taken : s.flight = some flight) : s.phase = flight.phase := by
  simpa only [Coherent, taken] using h

end

variable {ε ι : Type} [Engine ε] [TunnelInterface ι] {u : Surroundings ε ι} {s t : Session ε ι}

omit [Engine ε] in
theorem enters_coherent {r : Request} {ended : Option Verdict} (h : Enters s r ended t)
    (coherent : Coherent s) : Coherent t := by
  cases h with
  | busy | startOutOfPhase | unplanned | denied | stopIdle | stopOutOfPhase | switchAway =>
    exact coherent
  | raised free => simp [Coherent, free]
  | starting | stopping => exact rfl
  | switching free active => exact active

theorem finishes_flight {flight : Flight} {v : Verdict} (h : Finishes s flight v t) :
    t.flight = none := by
  cases h <;> rfl

theorem finishes_coherent {flight : Flight} {v : Verdict} (h : Finishes s flight v t)
    (coherent : Coherent s) (taken : s.flight = some flight) : Coherent t := by
  have phase := coherent.phase_of_flight taken
  rw [coherent_of_free (finishes_flight h)]
  cases h with
  | started | startFailed | startRaised | stopped => simp
  | switched | switchFailed | switchRaised => simp [phase, Flight.phase]

theorem step_coherent {e : Event} (h : Step u s e t) (coherent : Coherent s) : Coherent t := by
  cases h with
  | enter h => exact enters_coherent (enters_of_eq h) coherent
  | finish h =>
    obtain ⟨flight, taken, _, finishes⟩ := finishes_of_eq h
    exact finishes_coherent finishes coherent taken
  | reconcile =>
    rcases s.reconcile_cases with same | ⟨free, _, _, dropped⟩
    · rw [same]
      exact coherent
    · simp [Coherent, dropped, free]
  | edit | engine | interface | poll => exact coherent

theorem run_coherent {history : List Event} (run : Run u s history t) (coherent : Coherent s) :
    Coherent t := by
  induction run with
  | start => exact coherent
  | next _ step ih => exact step_coherent step ih

end TunnelSession.Session
