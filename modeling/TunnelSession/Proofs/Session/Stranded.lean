import TunnelSession.Proofs.Session.Coherent
import TunnelSession.Proofs.Session.Recorded

/-!
What a failure leaves behind. Every request that ends frees its slot and leaves the session idle or
active, with one exception: a request for an interface that raises leaves the session establishing,
with nothing in flight, and there it stays. `settled_unless_raised` says both.
-/

namespace TunnelSession

theorem Recorded.Interface.hasRaised_releases {ι : Type} [TunnelInterface ι]
    (dropped : List Descriptor) (i : Recorded.Interface ι) :
    (dropped.foldl TunnelInterface.release i).hasRaised = i.hasRaised := by
  simp [hasRaised, calls_releases, InterfaceCall.hasRaised, Function.comp_def]

namespace Session

theorem Error.ofInterface_ne_invalidPhase (cause : InterfaceError) (operation : Operation)
    (phase : Phase) : Error.ofInterface cause ≠ .invalidPhase operation phase := by
  cases cause <;> simp [Error.ofInterface]

/-- Nothing in flight, and idle or active. -/
def Settled {ε ι : Type} (s : Session ε ι) : Prop :=
  s.flight = none ∧ (s.phase = .idle ∨ s.phase = .active)

/-- Establishing, with nothing in flight that could end it. -/
def Stranded {ε ι : Type} (s : Session ε ι) : Prop :=
  s.flight = none ∧ s.phase = .establishing

section

variable {ε ι : Type} [Engine ε] [TunnelInterface ι] {u : Surroundings ε ι} {s t : Session ε ι}

omit [Engine ε] [TunnelInterface ι] in
theorem settled_iff_not_stranded (coherent : Coherent s) (free : s.flight = none) :
    Settled s ↔ ¬ Stranded s := by
  have notStopping := (coherent_of_free free).mp coherent
  cases phase : s.phase <;> simp_all [Settled, Stranded]

omit [Engine ε] in
/-- Only a request for an interface that raises strands a session. -/
theorem enters_steady {r : Request} {ended : Option Verdict} (h : Enters s r ended t)
    (steady : ¬ Stranded s) (caught : ∀ payload, ended ≠ some (.raised payload)) :
    ¬ Stranded t := by
  cases h with
  | raised => exact absurd rfl (caught _)
  | denied _ idle => simp [Stranded, idle]
  | starting | stopping | switching => simp [Stranded]
  | _ => exact steady

theorem finishes_steady {flight : Flight} {v : Verdict} (h : Finishes s flight v t)
    (phase : s.phase = flight.phase) : ¬ Stranded t := by
  cases h with
  | started | startFailed | startRaised | stopped => simp [Stranded]
  | switched | switchFailed | switchRaised => simp [Stranded, phase, Flight.phase]

theorem step_stranded {e : Event} (h : Step u s e t) (stranded : Stranded s) : Stranded t := by
  obtain ⟨free, phase⟩ := stranded
  cases h with
  | enter h =>
    cases enters_of_eq h <;> simp_all [Stranded]
  | finish h =>
    obtain ⟨flight, taken, _⟩ := finishes_of_eq h
    simp [free] at taken
  | reconcile =>
    rcases s.reconcile_cases with same | ⟨_, active, _⟩
    · rw [same]
      exact ⟨free, phase⟩
    · simp [phase] at active
  | edit | engine | interface | poll => exact ⟨free, phase⟩

theorem run_stranded {history : List Event} (run : Run u s history t) (stranded : Stranded s) :
    Stranded t := by
  induction run with
  | start => exact stranded
  | next _ step ih => exact step_stranded step ih

omit [TunnelInterface ι] in
theorem reconcile_settled (settled : Settled s) : Settled s.reconcile.2 := by
  rcases s.reconcile_cases with same | ⟨free, _, _, dropped⟩
  · rwa [same]
  · rw [dropped]
    exact ⟨free, .inl rfl⟩

/-- A request that ends has freed its slot. -/
theorem step_frees {e : Event} (h : Step u s e t) {r : Request} {v : Verdict}
    (ended : e.ending? = some (r, v)) (accepted : v ≠ .refused .busy) : t.flight = none := by
  cases h with
  | enter h =>
    cases enters_of_eq h <;> simp_all [Event.ending?]
  | finish h =>
    obtain ⟨flight, _, _, finishes⟩ := finishes_of_eq h
    exact finishes_flight finishes
  | reconcile | edit | engine | interface | poll => simp [Event.ending?] at ended

/-- A start that its phase let pass, and that has failed, has not made the session active. -/
theorem step_start_failed {e : Event} (h : Step u s e t) {v : Verdict}
    (ended : e.ending? = some (.start, v)) (accepted : v ≠ .refused .busy) (failed : v ≠ .done)
    (inPhase : ∀ phase, v ≠ .refused (.invalidPhase .start phase)) : t.phase ≠ .active := by
  cases h with
  | enter h =>
    cases enters_of_eq h with
    | startOutOfPhase =>
      simp only [Event.ending?, Option.some.injEq, Prod.mk.injEq, true_and] at ended
      exact absurd ended.symm (inPhase _)
    | _ => simp_all [Event.ending?]
  | finish h =>
    obtain ⟨flight, _, same, finishes⟩ := finishes_of_eq h
    cases finishes <;> simp_all [Event.ending?, Flight.request]
  | reconcile | edit | engine | interface | poll => simp [Event.ending?] at ended

/-- Where the session is stranded, what it refuses and with what reason. -/
theorem perform_stranded (stranded : Stranded s) :
    (s.perform .start).1 = .refused (.invalidPhase .start .establishing) ∧
    (s.perform .stop).1 = .refused (.invalidPhase .stop .establishing) := by
  obtain ⟨free, phase⟩ := stranded
  simp [perform, enter, enterStart, enterStop, free, phase]

theorem perform_start_idle (free : s.flight = none) (idle : s.phase = .idle) (phase : Phase) :
    (s.perform .start).1 ≠ .refused (.invalidPhase .start phase) := by
  rcases first : s.enter .start with ⟨_ | v, t⟩
  · rcases second : t.finish with ⟨_ | ⟨r, w⟩, t'⟩
    · simp [perform, first, second]
    · obtain ⟨_, _, _, finishes⟩ := finishes_of_eq second
      simp only [perform, first, second]
      cases finishes <;> simp
  · simp only [perform, first]
    cases enters_of_eq first with
    | denied => simpa using Error.ofInterface_ne_invalidPhase _ _ _
    | _ => simp_all

theorem perform_stop_idle (free : s.flight = none) (idle : s.phase = .idle) :
    (s.perform .stop).1 = .done := by
  simp [perform, enter, enterStop, free, idle]

end

section

variable {ε ι : Type} [Engine ε] [TunnelInterface ι] {u : Surroundings ε ι}
  {s t : Session (Recorded.Engine ε) (Recorded.Interface ι)}

/-- A session is stranded from the moment on that a request for its interface has raised. -/
structure Watched (s : Session (Recorded.Engine ε) (Recorded.Interface ι)) : Prop where
  coherent : Coherent s
  raised : s.interface.hasRaised = true ↔ Stranded s

omit [Engine ε] [TunnelInterface ι] in
theorem Watched.of_interface (watched : Watched s) (coherent : Coherent t)
    (interface : t.interface.hasRaised = s.interface.hasRaised)
    (stranded : Stranded t ↔ Stranded s) : Watched t :=
  ⟨coherent, by rw [interface, stranded]; exact watched.raised⟩

omit [Engine ε] in
theorem enters_watched {r : Request} {ended : Option Verdict} (h : Enters s r ended t)
    (watched : Watched s) : Watched t := by
  have coherent := enters_coherent h watched.coherent
  cases h with
  | busy | startOutOfPhase | unplanned | stopIdle | stopOutOfPhase | switchAway => exact watched
  | denied free idle _ answer =>
    rw [Recorded.Interface.establish_eq, Prod.mk.injEq] at answer
    obtain ⟨ending, rfl⟩ := answer
    refine watched.of_interface coherent ?_ ?_
    · simp [Recorded.InterfaceCall.hasRaised, ending]
    · simp [Stranded, idle]
  | raised free idle _ answer =>
    rw [Recorded.Interface.establish_eq, Prod.mk.injEq] at answer
    obtain ⟨ending, rfl⟩ := answer
    refine ⟨coherent, ?_⟩
    simp [Recorded.InterfaceCall.hasRaised, ending, Stranded, free]
  | starting free idle _ answer =>
    rw [Recorded.Interface.establish_eq, Prod.mk.injEq] at answer
    obtain ⟨ending, rfl⟩ := answer
    refine watched.of_interface coherent ?_ ?_
    · simp [Recorded.InterfaceCall.hasRaised, ending]
    · simp [Stranded, idle]
  | stopping _ active | switching _ active =>
    exact watched.of_interface coherent rfl (by simp [Stranded, active])

theorem finishes_watched {flight : Flight} {v : Verdict} (h : Finishes s flight v t)
    (taken : s.flight = some flight) (watched : Watched s) : Watched t := by
  have coherent := finishes_coherent h watched.coherent taken
  have phase := watched.coherent.phase_of_flight taken
  have before : ¬ Stranded s := by simp [Stranded, taken]
  refine watched.of_interface coherent ?_ ?_
  · cases h <;> exact Recorded.Interface.hasRaised_releases _ _
  · exact iff_of_false (finishes_steady h phase) before

theorem step_watched {e : Event} (h : Step (Recorded.surroundings u) s e t)
    (watched : Watched s) : Watched t := by
  cases h with
  | enter h => exact enters_watched (enters_of_eq h) watched
  | finish h =>
    obtain ⟨flight, taken, _, finishes⟩ := finishes_of_eq h
    exact finishes_watched finishes taken watched
  | reconcile =>
    rcases s.reconcile_cases with same | ⟨free, active, _, dropped⟩
    · rw [same]
      exact watched
    · rw [dropped]
      exact watched.of_interface (by simp [Coherent, free]) rfl (by simp [Stranded, active])
  | interface interface h =>
    have same : interface.hasRaised = s.interface.hasRaised := by
      simp only [Recorded.Interface.hasRaised, h.2]
    exact watched.of_interface watched.coherent same Iff.rfl
  | edit | engine | poll => exact watched.of_interface watched.coherent rfl Iff.rfl

theorem run_watched {history : List Event} (run : Run (Recorded.surroundings u) s history t)
    (watched : Watched s) : Watched t := by
  induction run with
  | start => exact watched
  | next _ step ih => exact step_watched step ih

/-- **No failure strands a session, but one.** Take any run of a session, by direct calls and
through a front end, with any answers, errors and raised payloads of the engine and the interface. A
request that ends has freed its slot; it leaves the session idle or active exactly if no request for
an interface has raised so far, and under the same condition a start that fails leaves it idle. In
an idle session no later start is refused for its phase, and a stop is done. Once a request for an
interface has raised, every later start and stop is refused for its phase. -/
theorem settled_unless_raised {u : Surroundings ε ι} {store : Store} {engine : ε} {interface : ι}
    {host storage : String} {history : List Event}
    {d : Dispatcher (Recorded.Engine ε) (Recorded.Interface ι)}
    (run : Dispatcher.Run (Recorded.surroundings u)
      (Recorded.fresh store engine interface host storage) history d) :
    (∀ e d' r v, Dispatcher.Step (Recorded.surroundings u) d e d' →
      e.ending? = some (r, v) → v ≠ .refused .busy →
        d'.session.flight = none ∧
        (Settled d'.session ↔ d'.session.interface.hasRaised = false) ∧
        (r = .start → v ≠ .done → (∀ phase, v ≠ .refused (.invalidPhase .start phase)) →
          (d'.session.phase = .idle ↔ d'.session.interface.hasRaised = false))) ∧
    (d.session.flight = none → d.session.phase = .idle →
      (∀ phase, (d.session.perform .start).1 ≠ .refused (.invalidPhase .start phase)) ∧
      (d.session.perform .stop).1 = .done) ∧
    (d.session.interface.hasRaised = true →
      ∀ later d', Dispatcher.Run (Recorded.surroundings u) d later d' →
        (d'.session.perform .start).1 = .refused (.invalidPhase .start .establishing) ∧
        (d'.session.perform .stop).1 = .refused (.invalidPhase .stop .establishing)) := by
  have first : Watched (Recorded.fresh store engine interface host storage).session :=
    ⟨by simp [Coherent, Recorded.fresh, idle], by
      simp [Stranded, Recorded.fresh, idle, Recorded.Interface.unused,
        Recorded.Interface.hasRaised]⟩
  have watched := run_watched run.session first
  refine ⟨?_, ?_, ?_⟩
  · intro e d' r v step ended accepted
    have free := step_frees step.session ended accepted
    have next := step_watched step.session watched
    have settled : Settled d'.session ↔ d'.session.interface.hasRaised = false := by
      rw [settled_iff_not_stranded next.coherent free, ← next.raised, Bool.not_eq_true]
    refine ⟨free, settled, ?_⟩
    rintro rfl failed inPhase
    have notActive := step_start_failed step.session ended accepted failed inPhase
    rw [← settled]
    simp [Settled, free, notActive]
  · intro free idle
    exact ⟨perform_start_idle free idle, perform_stop_idle free idle⟩
  · intro raised later d' after
    exact perform_stranded (run_stranded after.session (watched.raised.mp raised))

end

/-- Around it, only the interface changes, by a fresh one that takes its place. -/
def resetting : Surroundings Scripted.Engine Scripted.Interface :=
  ⟨fun _ _ => False, fun i i' => i' = i.reset none⟩

/-- A start whose engine crashes leaves the session idle. -/
theorem settled_after_crash :
    let held := ((Recorded.overScript { plain := { behavior := .crash } } {}).dispatch .start).2
    held.session.flight ≠ none ∧ held.settle.session.flight = none ∧
      held.settle.session.phase = .idle := by
  intro held
  have begun : Dispatcher.Run (Recorded.surroundings resetting) _ [.enter .start none] held :=
    .next .start (.dispatch rfl)
  have step : Dispatcher.Step (Recorded.surroundings resetting) held _ held.settle :=
    .settle rfl
  obtain ⟨ends, _, _⟩ := settled_unless_raised begun
  obtain ⟨free, _, idle⟩ := ends _ _ _ _ step rfl (by decide +kernel)
  exact ⟨by decide +kernel, free,
    (idle rfl (by decide +kernel) (by intro phase; exact nofun)).mpr (by decide +kernel)⟩

/-- A request for an interface that raises: the start has ended, but the session stays establishing,
also over a fresh interface, and refuses to start and to stop. -/
theorem stranded_by_interface :
    let raised := (Recorded.overScript {} { payload := some "iface bang" }).session.perform .start
    let renewed := { raised.2 with
      interface := { raised.2.interface with inner := raised.2.interface.inner.reset none } }
    raised.1 = .raised (some "iface bang") ∧ ¬ Settled raised.2 ∧
      (renewed.perform .start).1 = .refused (.invalidPhase .start .establishing) ∧
      (renewed.perform .stop).1 = .refused (.invalidPhase .stop .establishing) := by
  intro raised renewed
  have phase : raised.2.phase = .establishing := rfl
  refine ⟨rfl, ?_, rfl, rfl⟩
  rintro ⟨_, idle | active⟩
  · simp [phase] at idle
  · simp [phase] at active

end Session

end TunnelSession
