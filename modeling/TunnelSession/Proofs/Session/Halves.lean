import TunnelSession.Session.Lifecycle

/-!
What the two halves of a request and a reconciliation can do to a session:

* `Enters` lists every end of the first half, and `enter_enters` shows that there is no other;
* `Finishes` lists every end of the engine call, and `finish_finishes` shows the same of it;
* `reconcile_cases`: a reconciliation leaves the session alone or drops it to idle.

Everything that holds along a run is read off these three.
-/

namespace TunnelSession.Session

section FirstHalf

variable {ε ι : Type}

theorem plan_goTo (s : Session ε ι) (phase : Phase) : (s.goTo phase).plan = s.plan := rfl

theorem goTo_interface (s : Session ε ι) (phase : Phase) :
    (s.goTo phase).interface = s.interface := rfl

theorem goTo_self {s : Session ε ι} {phase : Phase} (h : s.phase = phase) : s.goTo phase = s := by
  subst h
  rfl

variable [TunnelInterface ι]

/-- The first half of a request on `s`: with a verdict it has ended, without one it is in flight. -/
inductive Enters (s : Session ε ι) : Request → Option Verdict → Session ε ι → Prop
  | busy {r} (taken : s.flight ≠ none) : Enters s r (some (.refused .busy)) s
  | startOutOfPhase (free : s.flight = none) (phase : s.phase ≠ .idle) :
      Enters s .start (some (.refused (.invalidPhase .start s.phase))) s
  | unplanned {cause} (free : s.flight = none) (idle : s.phase = .idle)
      (plan : s.plan = .error cause) : Enters s .start (some (.refused (.config cause))) s
  | denied {config params cause interface} (free : s.flight = none) (idle : s.phase = .idle)
      (plan : s.plan = .ok (config, params))
      (answer : TunnelInterface.establish s.interface config = (.error cause, interface)) :
      Enters s .start (some (.refused (.ofInterface cause))) { s with interface }
  | raised {config params payload interface} (free : s.flight = none) (idle : s.phase = .idle)
      (plan : s.plan = .ok (config, params))
      (answer : TunnelInterface.establish s.interface config = (.raised payload, interface)) :
      Enters s .start (some (.raised payload)) { s with interface, phase := .establishing }
  | starting {config params made interface} (free : s.flight = none) (idle : s.phase = .idle)
      (plan : s.plan = .ok (config, params))
      (answer : TunnelInterface.establish s.interface config = (.ok made, interface)) :
      Enters s .start none { s with
        interface, phase := .establishing, flight := some (.start made.descriptor params) }
  | stopIdle (free : s.flight = none) (idle : s.phase = .idle) : Enters s .stop (some .done) s
  | stopping (free : s.flight = none) (active : s.phase = .active) :
      Enters s .stop none { s with phase := .stopping, flight := some .stop }
  | stopOutOfPhase (free : s.flight = none) (notIdle : s.phase ≠ .idle)
      (notActive : s.phase ≠ .active) :
      Enters s .stop (some (.refused (.invalidPhase .stop s.phase))) s
  | switching {target} (free : s.flight = none) (active : s.phase = .active) :
      Enters s (.switch target) none { s with flight := some (.switch target) }
  | switchAway {target} (free : s.flight = none) (notActive : s.phase ≠ .active) :
      Enters s (.switch target) (some .notRunning) s

theorem enterStart_enters {s : Session ε ι} (free : s.flight = none) :
    Enters s .start s.enterStart.1 s.enterStart.2 := by
  by_cases idle : s.phase = .idle
  · cases plan : s.plan with
    | error cause =>
      have stays : (s.goTo .establishing).goTo .idle = s := goTo_self idle
      simpa only [enterStart, idle, ne_eq, not_true_eq_false, ↓reduceIte, prepare, plan_goTo, plan,
        stays] using Enters.unplanned free idle plan
    | ok made =>
      obtain ⟨config, params⟩ := made
      rcases answer : TunnelInterface.establish s.interface config with ⟨ending, interface⟩
      have asked : TunnelInterface.establish (s.goTo .establishing).interface config =
          (ending, interface) := answer
      simp only [enterStart, idle, ne_eq, not_true_eq_false, ↓reduceIte, prepare, plan_goTo, plan,
        asked]
      cases ending with
      | error cause =>
        have stays : { s.goTo .establishing with interface }.goTo .idle = { s with interface } :=
          goTo_self (s := { s with interface }) idle
        simpa only [stays] using Enters.denied free idle plan answer
      | raised payload => exact .raised free idle plan answer
      | ok made => exact .starting free idle plan answer
  · simpa only [enterStart, idle, ne_eq, not_false_eq_true, ↓reduceIte] using
      Enters.startOutOfPhase free idle

theorem enterStop_enters {s : Session ε ι} (free : s.flight = none) :
    Enters s .stop s.enterStop.1 s.enterStop.2 := by
  unfold enterStop
  split
  · rename_i idle
    exact .stopIdle free idle
  · rename_i active
    exact .stopping free active
  · rename_i notIdle notActive
    exact .stopOutOfPhase free notIdle notActive

theorem enterSwitch_enters {s : Session ε ι} (free : s.flight = none) (target : Candidate) :
    Enters s (.switch target) (s.enterSwitch target).1 (s.enterSwitch target).2 := by
  by_cases active : s.phase = .active
  · simpa only [enterSwitch, isRunning, active, decide_true, ↓reduceIte] using
      Enters.switching free active
  · simpa only [enterSwitch, isRunning, active, decide_false, Bool.false_eq_true, ↓reduceIte] using
      Enters.switchAway free active

theorem enter_enters (s : Session ε ι) (r : Request) : Enters s r (s.enter r).1 (s.enter r).2 := by
  cases taken : s.flight with
  | some flight =>
    simpa only [enter, taken, Option.isSome_some, ↓reduceIte] using
      Enters.busy (r := r) (by simp [taken])
  | none =>
    simp only [enter, taken, Option.isSome_none, Bool.false_eq_true, ↓reduceIte]
    cases r with
    | start => exact enterStart_enters taken
    | stop => exact enterStop_enters taken
    | switch target => exact enterSwitch_enters taken target

theorem enters_of_eq {s t : Session ε ι} {r : Request} {v : Option Verdict}
    (h : s.enter r = (v, t)) : Enters s r v t := by
  simpa only [h] using enter_enters s r

theorem enters_free {s t : Session ε ι} {r : Request} {v : Verdict} (h : Enters s r (some v) t)
    (free : s.flight = none) : t.flight = none := by
  cases h <;> exact free

/-- A request that has not ended is in flight. -/
theorem enters_flight {s t : Session ε ι} {r : Request} (h : Enters s r none t) :
    ∃ flight, t.flight = some flight ∧ flight.request = r := by
  cases h <;> exact ⟨_, rfl, rfl⟩

end FirstHalf

section SecondHalf

variable {ε ι : Type} [TunnelInterface ι] (s : Session ε ι) (reply : Reply ε) (phase : Phase)

/-- The session after the engine call that ended its request. -/
def landed : Session ε ι :=
  { s.absorb reply with phase, flight := none }

@[simp] theorem landed_phase : (s.landed reply phase).phase = phase := rfl

@[simp] theorem landed_flight : (s.landed reply phase).flight = none := rfl

@[simp] theorem landed_engine : (s.landed reply phase).engine = reply.engine := rfl

@[simp] theorem landed_interface : (s.landed reply phase).interface =
    reply.dropped.foldl TunnelInterface.release s.interface := rfl

variable [Engine ε]

/-- The engine call of a request in flight on `s`, and what follows from it. -/
inductive Finishes (s : Session ε ι) : Flight → Verdict → Session ε ι → Prop
  | started {d p} (answer : (Engine.start s.engine s.store.dir d p).ending = .ok ()) :
      Finishes s (.start d p) .done (s.landed (Engine.start s.engine s.store.dir d p) .active)
  | startFailed {d p cause}
      (answer : (Engine.start s.engine s.store.dir d p).ending = .error cause) :
      Finishes s (.start d p) (.refused (.engine cause))
        (s.landed (Engine.start s.engine s.store.dir d p) .idle)
  | startRaised {d p payload}
      (answer : (Engine.start s.engine s.store.dir d p).ending = .raised payload) :
      Finishes s (.start d p) (.refused (.engine (.crashed (crashReason payload))))
        (s.landed (Engine.start s.engine s.store.dir d p) .idle)
  | stopped : Finishes s .stop .done (s.landed (Engine.stop s.engine s.store.dir) .idle)
  | switched {target}
      (answer : (Engine.redirect s.engine s.store.dir target.address).ending = .ok ()) :
      Finishes s (.switch target) (.updated target.address)
        (let t := s.landed (Engine.redirect s.engine s.store.dir target.address) s.phase
        { t with store := t.store.save .gateway target.address.text })
  | switchFailed {target cause}
      (answer : (Engine.redirect s.engine s.store.dir target.address).ending = .error cause) :
      Finishes s (.switch target) (.refused (.engine cause))
        (s.landed (Engine.redirect s.engine s.store.dir target.address) s.phase)
  | switchRaised {target payload}
      (answer : (Engine.redirect s.engine s.store.dir target.address).ending = .raised payload) :
      Finishes s (.switch target) (.raised payload)
        (s.landed (Engine.redirect s.engine s.store.dir target.address) s.phase)

theorem finishStart_finishes (d : Descriptor) (p : Tunnel.Params) :
    Finishes s (.start d p) (s.finishStart d p).1 (s.finishStart d p).2 := by
  cases answer : (Engine.start s.engine s.store.dir d p).ending with
  | ok value =>
    simp only [finishStart, answer]
    exact .started answer
  | error cause =>
    simp only [finishStart, answer]
    exact .startFailed answer
  | raised payload =>
    simp only [finishStart, answer]
    exact .startRaised answer

theorem finishSwitch_finishes (target : Candidate) :
    Finishes s (.switch target) (s.finishSwitch target).1 (s.finishSwitch target).2 := by
  cases answer : (Engine.redirect s.engine s.store.dir target.address).ending with
  | ok value =>
    simp only [finishSwitch, answer]
    exact .switched answer
  | error cause =>
    simp only [finishSwitch, answer]
    exact .switchFailed answer
  | raised payload =>
    simp only [finishSwitch, answer]
    exact .switchRaised answer

theorem finish_idle {s : Session ε ι} (free : s.flight = none) : s.finish = (none, s) := by
  simp only [finish, free]

theorem finish_finishes {s : Session ε ι} {flight : Flight} (h : s.flight = some flight) :
    ∃ v t, s.finish = (some (flight.request, v), t) ∧ Finishes s flight v t := by
  cases flight with
  | start d p => exact ⟨_, _, by simp only [finish, h], s.finishStart_finishes d p⟩
  | stop => exact ⟨_, _, by simp only [finish, h]; rfl, .stopped⟩
  | switch target => exact ⟨_, _, by simp only [finish, h], s.finishSwitch_finishes target⟩

theorem finishes_of_eq {s t : Session ε ι} {r : Request} {v : Verdict}
    (h : s.finish = (some (r, v), t)) :
    ∃ flight, s.flight = some flight ∧ flight.request = r ∧ Finishes s flight v t := by
  cases taken : s.flight with
  | none => simp [finish_idle taken] at h
  | some flight =>
    obtain ⟨w, u, eq, finishes⟩ := finish_finishes taken
    rw [eq] at h
    simp only [Prod.mk.injEq, Option.some.injEq] at h
    obtain ⟨⟨rfl, rfl⟩, rfl⟩ := h
    exact ⟨flight, rfl, rfl, finishes⟩

omit [TunnelInterface ι] in
theorem reconcile_cases :
    s.reconcile = (s.isRunning, s) ∨
    s.flight = none ∧ s.phase = .active ∧ Engine.isRunning s.engine = false ∧
      s.reconcile = (false, { s with phase := .idle }) := by
  unfold reconcile
  split
  · rename_i h
    exact .inr ⟨Option.isNone_iff_eq_none.mp h.1, h.2.1, h.2.2, rfl⟩
  · exact .inl rfl

end SecondHalf

end TunnelSession.Session
