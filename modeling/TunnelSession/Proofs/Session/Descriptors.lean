import TunnelSession.Proofs.Session.Coherent
import TunnelSession.Proofs.Session.Recorded
import TunnelSession.Scripted.Step

/-!
Descriptors are conserved. Over a scripted interface, each descriptor that was made has been taken
back, is kept by the engine, or is on its way into it, and is only one of these:
`descriptors_conserved`.
-/

namespace TunnelSession

/-- An engine keeps the descriptor of a start that it answers, and lets go of it otherwise. It lets
go of no other descriptor. -/
structure Engine.Handover (ε : Type) [Engine ε] : Prop where
  kept : ∀ (e : ε) dir d p, (Engine.start e dir d p).ending = .ok () →
    (Engine.start e dir d p).dropped = []
  droppedOnce : ∀ (e : ε) dir d p, (Engine.start e dir d p).ending ≠ .ok () →
    (Engine.start e dir d p).dropped = [d]
  stop : ∀ (e : ε) dir, (Engine.stop e dir).dropped = []
  redirect : ∀ (e : ε) dir target, (Engine.redirect e dir target).dropped = []

namespace Scripted

theorem Engine.handover : TunnelSession.Engine.Handover Engine where
  kept e dir d p answered := by
    change (e.start dir d p).ending = .ok () at answered
    change (e.start dir d p).dropped = []
    unfold start at answered ⊢
    split at answered
    · rename_i failure _
      cases failure <;> simp [Failure.ending] at answered
    · simpa using answered
  droppedOnce e dir d p failed := by
    change (e.start dir d p).ending ≠ .ok () at failed
    change (e.start dir d p).dropped = [d]
    unfold start at failed ⊢
    split at failed
    · rfl
    · simpa using failed
  stop e dir := by
    change (e.stop dir).dropped = []
    unfold Engine.stop
    split <;> rfl
  redirect e dir target := by
    change (e.redirect dir target).dropped = []
    unfold Engine.redirect
    split <;> rfl

namespace Interface

/-- A script may change how an interface answers, but not what it has made and taken back. -/
structure Keeps (i i' : Interface) : Prop where
  issuer : i'.issuer = i.issuer
  nextFd : i'.nextFd = i.nextFd
  established : i'.established = i.established
  released : i'.released = i.released

theorem apply_keeps (s : Scripted.Session) (script : Script)
    (sameInterface : ∀ installed, script ≠ .interfaceReset installed) :
    Keeps s.interface (Session.apply s script).interface := by
  cases script with
  | interfaceReset installed => exact absurd rfl (sameInterface installed)
  | _ => exact ⟨rfl, rfl, rfl, rfl⟩

/-- An interface that does not make a descriptor is as it was. -/
theorem establish_cases (i : Interface) (c : Tunnel.Config) :
    (∃ ending, (∀ made, ending ≠ .ok made) ∧ TunnelInterface.establish i c = (ending, i)) ∨
    TunnelInterface.establish i c =
      (.ok ⟨⟨i.nextFd, i.issuer⟩, i.skippedOf c.excluded⟩, { i with
        nextFd := i.nextFd + 1, established := i.established + 1, lastConfig := some c,
        skipped := i.skippedOf c.excluded }) := by
  change (∃ ending, _ ∧ establish i c = _) ∨ establish i c = _
  unfold establish
  split
  · exact .inl ⟨_, by simp, rfl⟩
  · exact .inl ⟨_, by simp, rfl⟩
  · exact .inl ⟨_, by simp, rfl⟩
  · exact .inr rfl

end Interface

end Scripted

/-- A record only grows. -/
theorem Recorded.Interface.releases_grow {ι : Type} [TunnelInterface ι]
    (dropped : List Descriptor) (i : Recorded.Interface ι) :
    i.returned <+: (dropped.foldl TunnelInterface.release i).returned := by
  rw [returned, returned, calls_releases, List.filterMap_append]
  exact List.prefix_append _ _

namespace Session

/-- The descriptor on its way into the engine. -/
def held {ε ι : Type} (s : Session ε ι) : List Descriptor :=
  match s.flight with
  | some (.start d _) => [d]
  | _ => []

theorem held_free {ε ι : Type} {s : Session ε ι} (free : s.flight = none) : s.held = [] := by
  simp only [held, free]

variable {ε : Type}

structure Conserved (s : Session (Recorded.Engine ε) (Recorded.Interface Scripted.Interface)) :
    Prop where
  accounted : s.interface.issued.Perm (s.interface.returned ++ s.engine.accepted ++ s.held)
  below : ∀ d ∈ s.interface.issued,
    d.fd < s.interface.inner.nextFd ∧ d.issuer = s.interface.inner.issuer
  distinct : s.interface.issued.Nodup
  established : s.interface.inner.established = s.interface.issued.length
  released : s.interface.inner.released = s.interface.returned.length

variable {s t : Session (Recorded.Engine ε) (Recorded.Interface Scripted.Interface)}

/-- Each descriptor is in one place, once. -/
theorem Conserved.once (conserved : Conserved s) :
    (s.interface.returned ++ s.engine.accepted ++ s.held).Nodup :=
  conserved.accounted.nodup_iff.mp conserved.distinct

/-- What matters to the count is what was made, taken back, kept and held. -/
theorem Conserved.of_keeps (conserved : Conserved s)
    (issued : t.interface.issued = s.interface.issued)
    (returned : t.interface.returned = s.interface.returned)
    (keeps : Scripted.Interface.Keeps s.interface.inner t.interface.inner)
    (accepted : t.engine.accepted = s.engine.accepted) (held : t.held = s.held) : Conserved t := by
  obtain ⟨accounted, below, distinct, established, released⟩ := conserved
  refine ⟨?_, ?_, ?_, ?_, ?_⟩
  · rw [issued, returned, accepted, held]
    exact accounted
  · rw [issued, keeps.nextFd, keeps.issuer]
    exact below
  · rw [issued]
    exact distinct
  · rw [keeps.established, issued]
    exact established
  · rw [keeps.released, returned]
    exact released

/-- A request for an interface that is not answered makes no descriptor. -/
theorem establish_failed {i j : Recorded.Interface Scripted.Interface} {config : Tunnel.Config}
    {ending : Ending InterfaceError Establishment}
    (answer : TunnelInterface.establish i config = (ending, j))
    (failed : ∀ made, ending ≠ .ok made) :
    j.issued = i.issued ∧ j.returned = i.returned ∧ j.inner = i.inner := by
  rw [Recorded.Interface.establish_eq, Prod.mk.injEq] at answer
  obtain ⟨rfl, rfl⟩ := answer
  rcases Scripted.Interface.establish_cases i.inner config with ⟨ending, other, eq⟩ | eq
  · cases ending with
    | ok made => exact absurd rfl (other made)
    | error | raised =>
      simp [eq, Recorded.InterfaceCall.issued?, Recorded.InterfaceCall.returned?]
  · exact absurd (congrArg Prod.fst eq) (failed _)

/-- One that is answered makes the next descriptor. -/
theorem establish_answered {i j : Recorded.Interface Scripted.Interface} {config : Tunnel.Config}
    {made : Establishment} (answer : TunnelInterface.establish i config = (.ok made, j)) :
    made.descriptor = ⟨i.inner.nextFd, i.inner.issuer⟩ ∧
    j.issued = i.issued ++ [made.descriptor] ∧ j.returned = i.returned ∧
    j.inner.nextFd = i.inner.nextFd + 1 ∧ j.inner.issuer = i.inner.issuer ∧
    j.inner.established = i.inner.established + 1 ∧ j.inner.released = i.inner.released := by
  rw [Recorded.Interface.establish_eq, Prod.mk.injEq] at answer
  obtain ⟨answered, rfl⟩ := answer
  rcases Scripted.Interface.establish_cases i.inner config with ⟨ending, other, eq⟩ | eq
  · exact absurd ((congrArg Prod.fst eq).symm.trans answered) (other _)
  · rw [eq, Ending.ok.injEq] at answered
    subst answered
    simp [eq, Recorded.InterfaceCall.issued?, Recorded.InterfaceCall.returned?]

theorem starting_conserved {config : Tunnel.Config} {made : Establishment} {p : Tunnel.Params}
    {interface : Recorded.Interface Scripted.Interface} (free : s.flight = none)
    (answer : TunnelInterface.establish s.interface config = (.ok made, interface))
    (conserved : Conserved s) :
    Conserved { s with
      interface, phase := .establishing, flight := some (.start made.descriptor p) } := by
  obtain ⟨accounted, below, distinct, established, released⟩ := conserved
  obtain ⟨new, issued, returned, nextFd, issuer, more, sameReleased⟩ := establish_answered answer
  rw [held_free free, List.append_nil] at accounted
  have unseen : made.descriptor ∉ s.interface.issued := by
    intro seen
    have fd := (below _ seen).1
    simp [new] at fd
  refine ⟨?_, ?_, ?_, ?_, ?_⟩
  · rw [issued, returned]
    exact accounted.append_right _
  · intro d seen
    rw [issued, List.mem_append, List.mem_singleton] at seen
    rw [nextFd, issuer]
    rcases seen with seen | rfl
    · have := below d seen
      exact ⟨by omega, this.2⟩
    · rw [new]
      exact ⟨Int.lt_succ _, rfl⟩
  · rw [issued]
    exact List.nodup_append.mpr ⟨distinct, by simp, by grind⟩
  · simp [issued, more, established]
  · rw [sameReleased, returned, released]

theorem enters_conserved {r : Request} {ended : Option Verdict} (h : Enters s r ended t)
    (conserved : Conserved s) : Conserved t := by
  have keeps : Scripted.Interface.Keeps s.interface.inner s.interface.inner := ⟨rfl, rfl, rfl, rfl⟩
  cases h with
  | busy | startOutOfPhase | unplanned | stopIdle | stopOutOfPhase | switchAway => exact conserved
  | denied _ _ _ answer | raised _ _ _ answer =>
    obtain ⟨issued, returned, inner⟩ := establish_failed answer nofun
    exact conserved.of_keeps issued returned (by rw [inner]; exact keeps) rfl rfl
  | starting free _ _ answer => exact starting_conserved free answer conserved
  | stopping free | switching free =>
    exact conserved.of_keeps rfl rfl keeps rfl (held_free free).symm

/-- The descriptor of a start that fails is taken back. -/
theorem dropped_conserved {d : Descriptor} {p : Tunnel.Params} {reply : Reply (Recorded.Engine ε)}
    {phase : Phase} (taken : s.flight = some (.start d p)) (dropped : reply.dropped = [d])
    (accepted : reply.engine.accepted = s.engine.accepted) (conserved : Conserved s) :
    Conserved (s.landed reply phase) := by
  obtain ⟨accounted, below, distinct, established, released⟩ := conserved
  have held : s.held = [d] := by simp only [held, taken]
  have issuer : d.issuer = s.interface.inner.issuer := by
    refine (below d (accounted.mem_iff.mpr ?_)).2
    simp [held]
  have interface : (s.landed reply phase).interface =
      s.interface.note (.release d)
        { s.interface.inner with released := s.interface.inner.released + 1 } := by
    rw [landed_interface, dropped, List.foldl_cons, List.foldl_nil, Recorded.Interface.release_eq]
    congr 1
    exact if_pos issuer
  refine ⟨?_, ?_, ?_, ?_, ?_⟩
  · rw [held, List.append_assoc] at accounted
    rw [interface, landed_engine, accepted, held_free rfl, List.append_nil]
    simpa [Recorded.InterfaceCall.issued?, Recorded.InterfaceCall.returned?] using
      accounted.trans (List.perm_append_comm.append_left _)
  · rw [interface]
    simpa [Recorded.InterfaceCall.issued?] using below
  · rw [interface]
    simpa [Recorded.InterfaceCall.issued?] using distinct
  · rw [interface]
    simpa [Recorded.InterfaceCall.issued?] using established
  · rw [interface]
    simpa [Recorded.InterfaceCall.returned?] using released

/-- The descriptor of a start that is answered stays with the engine. -/
theorem kept_conserved {d : Descriptor} {p : Tunnel.Params} {reply : Reply (Recorded.Engine ε)}
    {phase : Phase} (taken : s.flight = some (.start d p)) (kept : reply.dropped = [])
    (accepted : reply.engine.accepted = s.engine.accepted ++ [d]) (conserved : Conserved s) :
    Conserved (s.landed reply phase) := by
  obtain ⟨accounted, below, distinct, established, released⟩ := conserved
  have held : s.held = [d] := by simp only [held, taken]
  have interface : (s.landed reply phase).interface = s.interface := by
    rw [landed_interface, kept, List.foldl_nil]
  refine ⟨?_, ?_, ?_, ?_, ?_⟩
  · rw [held, List.append_assoc] at accounted
    rw [interface, landed_engine, accepted, held_free rfl, List.append_nil]
    exact accounted
  all_goals rw [interface]; assumption

/-- A call that is no start leaves every descriptor where it is. -/
theorem landed_conserved {reply : Reply (Recorded.Engine ε)} {phase : Phase} (none : s.held = [])
    (dropped : reply.dropped = []) (accepted : reply.engine.accepted = s.engine.accepted)
    (conserved : Conserved s) : Conserved (s.landed reply phase) := by
  have interface : (s.landed reply phase).interface = s.interface := by
    rw [landed_interface, dropped, List.foldl_nil]
  exact conserved.of_keeps (by rw [interface]) (by rw [interface])
    (by rw [interface]; exact ⟨rfl, rfl, rfl, rfl⟩) accepted none.symm

variable [Engine ε] {u : Surroundings ε Scripted.Interface}

theorem finishes_conserved (handover : Engine.Handover ε) {flight : Flight} {v : Verdict}
    (h : Finishes s flight v t) (taken : s.flight = some flight) (conserved : Conserved s) :
    Conserved t := by
  cases h with
  | started answer =>
    exact kept_conserved taken (handover.kept _ _ _ _ answer)
      (Recorded.Engine.accepted_answered answer) conserved
  | @startFailed d p _ answer | @startRaised d p _ answer =>
    have failed : (Engine.start s.engine s.store.dir d p).ending ≠ .ok () := by
      rw [answer]
      exact nofun
    exact dropped_conserved taken (handover.droppedOnce _ _ _ _ failed)
      (Recorded.Engine.accepted_unanswered failed) conserved
  | stopped =>
    exact landed_conserved (by simp only [held, taken]) (handover.stop _ _)
      Recorded.Engine.accepted_stop conserved
  | @switched target =>
    have landed : Conserved
        (s.landed (Engine.redirect s.engine s.store.dir target.address) s.phase) :=
      landed_conserved (by simp only [held, taken]) (handover.redirect _ _ _)
        (Recorded.Engine.accepted_redirect _) conserved
    exact landed.of_keeps rfl rfl ⟨rfl, rfl, rfl, rfl⟩ rfl rfl
  | switchFailed | switchRaised =>
    exact landed_conserved (by simp only [held, taken]) (handover.redirect _ _ _)
      (Recorded.Engine.accepted_redirect _) conserved

/-- A start that fails has its descriptor taken back as it ends. -/
theorem failed_start_returns (handover : Engine.Handover ε) {flight : Flight} {v : Verdict}
    (h : Finishes s flight v t) (start : flight.request = .start) (failed : v ≠ .done) :
    ∃ d p, flight = .start d p ∧ t.interface.returned = s.interface.returned ++ [d] := by
  cases h with
  | started | stopped => exact absurd rfl failed
  | @startFailed d p _ answer | @startRaised d p _ answer =>
    have unanswered : (Engine.start s.engine s.store.dir d p).ending ≠ .ok () := by
      rw [answer]
      exact nofun
    have dropped : (Engine.start s.engine s.store.dir d p).dropped = [d] :=
      handover.droppedOnce _ _ _ _ unanswered
    refine ⟨d, p, rfl, ?_⟩
    rw [landed_interface, dropped, List.foldl_cons, List.foldl_nil, Recorded.Interface.release_eq,
      Recorded.Interface.returned_note]
    rfl
  | switched | switchFailed | switchRaised => simp [Flight.request] at start

theorem step_conserved (handover : Engine.Handover ε)
    (keeps : ∀ i i', u.interface i i' → Scripted.Interface.Keeps i i') {e : Event}
    (h : Step (Recorded.surroundings u) s e t) (conserved : Conserved s) : Conserved t := by
  have same : Scripted.Interface.Keeps s.interface.inner s.interface.inner := ⟨rfl, rfl, rfl, rfl⟩
  cases h with
  | enter h => exact enters_conserved (enters_of_eq h) conserved
  | finish h =>
    obtain ⟨flight, taken, _, finishes⟩ := finishes_of_eq h
    exact finishes_conserved handover finishes taken conserved
  | reconcile =>
    rcases s.reconcile_cases with stays | ⟨_, _, _, dropped⟩
    · rw [stays]
      exact conserved
    · rw [dropped]
      exact conserved.of_keeps rfl rfl same rfl rfl
  | edit => exact conserved.of_keeps rfl rfl same rfl rfl
  | engine next h =>
    refine conserved.of_keeps rfl rfl same ?_ rfl
    simp only [Recorded.Engine.accepted, h.2]
  | interface next h =>
    obtain ⟨changed, calls⟩ := h
    refine conserved.of_keeps ?_ ?_ (keeps _ _ changed) rfl rfl
    · simp only [Recorded.Interface.issued, calls]
    · simp only [Recorded.Interface.returned, calls]
  | poll => exact conserved

theorem run_conserved (handover : Engine.Handover ε)
    (keeps : ∀ i i', u.interface i i' → Scripted.Interface.Keeps i i') {history : List Event}
    (run : Run (Recorded.surroundings u) s history t) (conserved : Conserved s) : Conserved t := by
  induction run with
  | start => exact conserved
  | next _ step ih => exact step_conserved handover keeps step ih

/-- What was taken back stays taken back. -/
theorem step_returned {e : Event} (h : Step (Recorded.surroundings u) s e t) :
    s.interface.returned <+: t.interface.returned := by
  cases h with
  | enter h =>
    cases enters_of_eq h with
    | denied _ _ _ answer | raised _ _ _ answer | starting _ _ _ answer =>
      rw [Recorded.Interface.establish_eq, Prod.mk.injEq] at answer
      obtain ⟨-, rfl⟩ := answer
      rw [Recorded.Interface.returned_note]
      exact List.prefix_append _ _
    | _ => exact List.prefix_rfl
  | finish h =>
    obtain ⟨_, _, _, finishes⟩ := finishes_of_eq h
    cases finishes <;> exact Recorded.Interface.releases_grow _ _
  | reconcile =>
    rcases s.reconcile_cases with stays | ⟨_, _, _, dropped⟩
    · simp only [stays, List.prefix_rfl]
    · simp only [dropped, List.prefix_rfl]
  | interface next h => simp only [Recorded.Interface.returned, h.2, List.prefix_rfl]
  | edit | engine | poll => exact List.prefix_rfl

theorem run_returned {history : List Event} (run : Run (Recorded.surroundings u) s history t) :
    s.interface.returned <+: t.interface.returned := by
  induction run with
  | start => exact List.prefix_rfl
  | next _ step ih => exact ih.trans (step_returned step)

end Session

/-- Around scripted collaborators: the engine may change in any way, the interface by its script,
short of a fresh one in its place. -/
def Scripted.surroundings : Surroundings Scripted.Engine Scripted.Interface :=
  ⟨fun _ _ => True, Scripted.Interface.Keeps⟩

namespace Session

theorem knowing_conserved (store : Store) (engine : Scripted.Engine)
    (installed : Option (List String)) (host storage : String) :
    Conserved (Recorded.fresh store engine (Scripted.Interface.knowing installed) host
      storage).session := by
  refine ⟨?_, ?_, ?_, rfl, rfl⟩
  · simp [Recorded.fresh, idle, Recorded.Interface.unused, Recorded.Interface.issued,
      Recorded.Interface.returned, Recorded.Engine.unused, Recorded.Engine.accepted, held]
  · simp [Recorded.fresh, idle, Recorded.Interface.unused, Recorded.Interface.issued]
  · simp [Recorded.fresh, idle, Recorded.Interface.unused, Recorded.Interface.issued]

/-- **Descriptors are conserved.** Take any run of a session over a scripted engine and a scripted
interface, by direct calls and through a front end, with the script going on meanwhile. At every
moment, the descriptors that were made are those that were taken back, those that the engine keeps,
and the one of a start that is held in the engine; no descriptor is made twice, so each is in one of
these places, once. The counts of the interface say the same. A start that fails in the engine has
its descriptor taken back as it ends, and never again. -/
theorem descriptors_conserved {store : Store} {engine : Scripted.Engine}
    {installed : Option (List String)} {host storage : String} {history : List Event}
    {d : Dispatcher (Recorded.Engine Scripted.Engine) (Recorded.Interface Scripted.Interface)}
    (run : Dispatcher.Run (Recorded.surroundings Scripted.surroundings)
      (Recorded.fresh store engine (Scripted.Interface.knowing installed) host storage)
      history d) :
    d.session.interface.inner.established =
      d.session.interface.inner.released + d.session.engine.accepted.length +
        d.session.held.length ∧
    d.session.interface.issued.Perm
      (d.session.interface.returned ++ d.session.engine.accepted ++ d.session.held) ∧
    (d.session.interface.returned ++ d.session.engine.accepted ++ d.session.held).Nodup ∧
    (∀ fd ∈ d.session.engine.accepted, fd ∉ d.session.interface.returned) ∧
    (∀ v d', Dispatcher.Step (Recorded.surroundings Scripted.surroundings) d
      (.finish .start v) d' → v ≠ .done →
        ∃ fd p, d.session.flight = some (.start fd p) ∧ d'.session.flight = none ∧
          d'.session.interface.returned = d.session.interface.returned ++ [fd] ∧
          ∀ later d'', Dispatcher.Run (Recorded.surroundings Scripted.surroundings) d' later d'' →
            d''.session.interface.returned.count fd = 1) := by
  have conserved := run_conserved Scripted.Engine.handover (fun _ _ h => h) run.session
    (knowing_conserved ..)
  have once := conserved.once
  refine ⟨?_, conserved.accounted, once, ?_, ?_⟩
  · have count := conserved.accounted.length_eq
    rw [conserved.established, conserved.released, count, List.length_append, List.length_append]
  · intro fd accepted returned
    have apart := (List.nodup_append.mp (List.nodup_append.mp once).1).2.2
    exact apart _ returned _ accepted rfl
  · intro v d' step failed
    have next := step_conserved Scripted.Engine.handover (fun _ _ h => h) step.session conserved
    cases step.session with
    | finish h =>
      obtain ⟨flight, taken, start, finishes⟩ := finishes_of_eq h
      obtain ⟨fd, p, rfl, returned⟩ :=
        failed_start_returns Scripted.Engine.handover finishes start failed
      refine ⟨fd, p, taken, finishes_flight finishes, returned, ?_⟩
      intro later d'' after
      have final := run_conserved Scripted.Engine.handover (fun _ _ h => h) after.session next
      have stays : fd ∈ d''.session.interface.returned :=
        (run_returned after.session).subset (by simp [returned])
      have distinct := (List.nodup_append.mp (List.nodup_append.mp final.once).1).1
      rw [distinct.count, if_pos stays]

/-- A session that ran once, and whose second start is held in an engine about to crash, while the
user takes the permission back. -/
theorem descriptors_conserved_over_crash : ∃ history d,
    Dispatcher.Run (Recorded.surroundings Scripted.surroundings)
      (Recorded.overScript {} (.knowing none)) history d ∧
    d.session.interface.inner.established = 2 ∧ d.session.engine.accepted = [⟨10, 0⟩] ∧
    d.session.held = [⟨11, 0⟩] ∧
    d.session.interface.inner.established = d.session.interface.inner.released +
      d.session.engine.accepted.length + d.session.held.length ∧
    d.settle.session.interface.returned = d.session.interface.returned ++ [⟨11, 0⟩] := by
  have begun : Dispatcher.Run (Recorded.surroundings Scripted.surroundings)
      (Recorded.overScript {} (.knowing none)) [] _ := .start
  have active := (begun.next (.dispatch (r := .start) rfl)).next (.settle rfl)
  have idle := (active.next (.dispatch (r := .stop) rfl)).next (.settle rfl)
  have crashing := idle.next (.direct (.engine
    ⟨{ plain := { behavior := .crash } }, _⟩ ⟨trivial, rfl⟩))
  have held := crashing.next (.dispatch (r := .start) rfl)
  have denied := held.next (.direct (.interface ⟨_, _⟩
    ⟨Scripted.Interface.apply_keeps (.idle (.inMemory .missing) {} _ "" "") .interfaceDeny nofun,
      rfl⟩))
  obtain ⟨count, _, _, _, failed⟩ := descriptors_conserved denied
  obtain ⟨fd, p, taken, _, returned, _⟩ :=
    failed (.refused (.engine (.crashed "engine exploded"))) _ (.settle rfl) nofun
  have fresh : Flight.start ⟨11, 0⟩ _ = Flight.start fd p := Option.some.inj taken
  obtain ⟨rfl, -⟩ := Flight.start.inj fresh
  exact ⟨_, _, denied, rfl, rfl, rfl, count, returned⟩

end Session

end TunnelSession
