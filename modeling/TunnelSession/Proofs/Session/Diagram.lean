import Mathlib.Data.List.Chain
import TunnelSession.Proofs.Session.Calls
import TunnelSession.Proofs.Session.Coherent
import TunnelSession.Proofs.Session.Descriptors

/-!
The phase of a session moves along a diagram:

* `Noted`: a session that notes each phase that it is taken to, and otherwise goes where the session
  itself goes (`Noted.enter_eq`, `Noted.finish_eq`, `Noted.reconcile_eq`);
* `writes`: the phases that an event writes on a session, read off the notes, and `Event.writes`, that
  its verdict tells them;
* `Phase.Arrow` and `Move`: the diagram, and what takes a session along each of its arrows;
* `Dispatcher.phases_follow_diagram`: there are no other moves.
-/

namespace TunnelSession

namespace Session

/-- A session with the phases that were written on the way to it, the oldest first. -/
structure Noted (ε ι : Type) where
  session : Session ε ι
  written : List Phase

namespace Noted

section Halves

variable {ε ι : Type}

def goTo (n : Noted ε ι) (phase : Phase) : Noted ε ι :=
  ⟨n.session.goTo phase, n.written ++ [phase]⟩

/-- What is done without writing a phase, as a switch is. -/
def quietly {α : Type} (n : Noted ε ι) (f : Session ε ι → α × Session ε ι) : α × Noted ε ι :=
  ((f n.session).1, { n with session := (f n.session).2 })

@[simp] theorem quietly_written {α : Type} (n : Noted ε ι) (f : Session ε ι → α × Session ε ι) :
    (n.quietly f).2.written = n.written := rfl

variable [TunnelInterface ι]

def prepare (n : Noted ε ι) : Option Verdict × Noted ε ι :=
  match n.session.plan with
  | .error cause => (some (.refused (.config cause)), n.goTo .idle)
  | .ok (config, params) =>
    match TunnelInterface.establish n.session.interface config with
    | (.error cause, interface) =>
      (some (.refused (.ofInterface cause)), { n with session.interface := interface }.goTo .idle)
    | (.raised payload, interface) =>
      (some (.raised payload), { n with session.interface := interface })
    | (.ok made, interface) =>
      (none, { n with
        session.interface := interface
        session.flight := some (.start made.descriptor params) })

def enterStart (n : Noted ε ι) : Option Verdict × Noted ε ι :=
  if n.session.phase ≠ .idle then (some (.refused (.invalidPhase .start n.session.phase)), n)
  else (n.goTo .establishing).prepare

def enterStop (n : Noted ε ι) : Option Verdict × Noted ε ι :=
  match n.session.phase with
  | .idle => (some .done, n)
  | .active => (none, { n with session.flight := some .stop }.goTo .stopping)
  | phase => (some (.refused (.invalidPhase .stop phase)), n)

def enter (n : Noted ε ι) (r : Request) : Option Verdict × Noted ε ι :=
  if n.session.flight.isSome then (some (.refused .busy), n)
  else
    match r with
    | .start => n.enterStart
    | .stop => n.enterStop
    | .switch target => n.quietly (·.enterSwitch target)

variable [Engine ε]

def finishStart (n : Noted ε ι) (d : Descriptor) (p : Tunnel.Params) : Verdict × Noted ε ι :=
  let reply := Engine.start n.session.engine n.session.store.dir d p
  let n := { n with session := { n.session.absorb reply with flight := none } }
  match reply.ending with
  | .ok () => (.done, n.goTo .active)
  | .error cause => (.refused (.engine cause), n.goTo .idle)
  | .raised payload => (.refused (.engine (.crashed (crashReason payload))), n.goTo .idle)

def finishStop (n : Noted ε ι) : Verdict × Noted ε ι :=
  let reply := Engine.stop n.session.engine n.session.store.dir
  (.done, { n with session := { n.session.absorb reply with flight := none } }.goTo .idle)

def finish (n : Noted ε ι) : Option (Request × Verdict) × Noted ε ι :=
  match n.session.flight with
  | none => (none, n)
  | some flight =>
    let (verdict, n) :=
      match flight with
      | .start d p => n.finishStart d p
      | .stop => n.finishStop
      | .switch target => n.quietly (·.finishSwitch target)
    (some (flight.request, verdict), n)

def reconcile (n : Noted ε ι) : Bool × Noted ε ι :=
  if n.session.flight.isNone ∧ n.session.phase = .active ∧
      Engine.isRunning n.session.engine = false then
    (false, n.goTo .idle)
  else (n.session.isRunning, n)

/-- What an event writes; edits, drifts and polls write no phase. -/
def pass (n : Noted ε ι) : Event → Noted ε ι
  | .enter r _ => (n.enter r).2
  | .finish _ _ => n.finish.2
  | .reconcile _ => n.reconcile.2
  | _ => n

end Halves

section Projections

variable {ε ι : Type} [TunnelInterface ι] (n : Noted ε ι)

theorem prepare_eq : Prod.map id session n.prepare = n.session.prepare := by
  cases plan : n.session.plan with
  | error cause => simp only [prepare, Session.prepare, plan]; rfl
  | ok made =>
    obtain ⟨config, params⟩ := made
    rcases answer : TunnelInterface.establish n.session.interface config with ⟨ending, interface⟩
    simp only [prepare, Session.prepare, plan, answer]
    cases ending <;> rfl

theorem enter_eq (r : Request) : Prod.map id session (n.enter r) = n.session.enter r := by
  unfold enter Session.enter
  split
  · rfl
  · cases r with
    | start =>
      simp only [enterStart, Session.enterStart]
      split
      · rfl
      · exact (n.goTo .establishing).prepare_eq
    | stop =>
      cases phase : n.session.phase <;> simp only [enterStop, Session.enterStop, phase] <;> rfl
    | switch target => rfl

variable [Engine ε]

theorem finish_eq : Prod.map id session n.finish = n.session.finish := by
  cases taken : n.session.flight with
  | none => simp only [finish, Session.finish, taken]; rfl
  | some flight =>
    simp only [finish, Session.finish, taken]
    cases flight with
    | start d p =>
      cases answer : (Engine.start n.session.engine n.session.store.dir d p).ending <;>
        simp only [finishStart, Session.finishStart, answer] <;> rfl
    | stop | switch => rfl

omit [TunnelInterface ι] in
theorem reconcile_eq : Prod.map id session n.reconcile = n.session.reconcile := by
  unfold reconcile Session.reconcile
  split <;> rfl

end Projections

end Noted

/-- A session after an event, with the phases that the event has written. -/
def noted {ε ι : Type} [Engine ε] [TunnelInterface ι] (s : Session ε ι) (e : Event) : Noted ε ι :=
  Noted.pass ⟨s, []⟩ e

/-- The phases that an event writes, the first one first. -/
def writes {ε ι : Type} [Engine ε] [TunnelInterface ι] (s : Session ε ι) (e : Event) :
    List Phase :=
  (s.noted e).written

/-- What an event that happens writes: each half of a start or stop that is held writes a phase, and
so does a start whose interface raises. A start that fails in its first half writes two. -/
def Event.writes : Event → List Phase
  | .enter .start none => [.establishing]
  | .enter .start (some (.raised _)) => [.establishing]
  | .enter .start (some (.refused .busy)) => []
  | .enter .start (some (.refused (.invalidPhase _ _))) => []
  | .enter .start (some _) => [.establishing, .idle]
  | .enter .stop none => [.stopping]
  | .finish .start .done => [.active]
  | .finish .start _ => [.idle]
  | .finish .stop _ => [.idle]
  | .reconcile true => [.idle]
  | _ => []

section Diagram

variable {ε ι : Type} [Engine ε] [TunnelInterface ι]

/-- The diagram. -/
inductive Phase.Arrow : Phase → Phase → Prop
  | start : Arrow .idle .establishing
  | started : Arrow .establishing .active
  | failed : Arrow .establishing .idle
  | stop : Arrow .active .stopping
  | stopped : Arrow .stopping .idle
  | dropped : Arrow .active .idle

/-- What takes a session that an event finds as `s` along the arrows. -/
inductive Move (s : Session ε ι) : Event → Phase → Phase → Prop
  | accepted {ended} (free : s.flight = none) : Move s (.enter .start ended) .idle .establishing
  | unplanned {cause} (plan : s.plan = .error cause) :
      Move s (.enter .start (some (.refused (.config cause)))) .establishing .idle
  | denied {config params cause} (plan : s.plan = .ok (config, params))
      (answer : (TunnelInterface.establish s.interface config).1 = .error cause) :
      Move s (.enter .start (some (.refused (.ofInterface cause)))) .establishing .idle
  | started {d p} (taken : s.flight = some (.start d p))
      (answer : (Engine.start s.engine s.store.dir d p).ending = .ok ()) :
      Move s (.finish .start .done) .establishing .active
  | failed {d p v} (taken : s.flight = some (.start d p))
      (answer : (Engine.start s.engine s.store.dir d p).ending ≠ .ok ()) :
      Move s (.finish .start v) .establishing .idle
  | stopping (free : s.flight = none) : Move s (.enter .stop none) .active .stopping
  | stopped (taken : s.flight = some .stop) : Move s (.finish .stop .done) .stopping .idle
  | dropped (free : s.flight = none) (down : Engine.isRunning s.engine = false) :
      Move s (.reconcile true) .active .idle

theorem Move.arrow {s : Session ε ι} {e : Event} {p q : Phase}
    (h : Move s e p q) : Phase.Arrow p q := by
  cases h with
  | accepted => exact .start
  | unplanned | denied | failed => exact .failed
  | started => exact .started
  | stopping => exact .stop
  | stopped => exact .stopped
  | dropped => exact .dropped

/-- An event writes what it should, along the diagram, and leaves the phase that it wrote last. -/
structure Follows (s : Session ε ι) (e : Event) (t : Session ε ι) : Prop where
  written : s.writes e = e.writes
  moves : List.IsChain (Move s e) (s.phase :: e.writes)
  last : (s.phase :: e.writes).getLast? = some t.phase

variable {u : Surroundings ε ι} {s t : Session ε ι} {e : Event}

theorem Follows.stays (written : s.writes e = []) (nothing : e.writes = [])
    (same : t.phase = s.phase) : Follows s e t := by
  refine ⟨written.trans nothing.symm, ?_, ?_⟩
  · rw [nothing]
    exact .singleton _
  · rw [nothing, same]
    rfl

theorem Follows.once {p : Phase} (written : s.writes e = [p]) (one : e.writes = [p])
    (move : Move s e s.phase p) (last : t.phase = p) : Follows s e t := by
  refine ⟨written.trans one.symm, ?_, ?_⟩
  · rw [one]
    exact List.isChain_pair.mpr move
  · rw [one, last]
    rfl

theorem Follows.twice {p q : Phase} (written : s.writes e = [p, q]) (two : e.writes = [p, q])
    (first : Move s e s.phase p) (second : Move s e p q) (last : t.phase = q) :
    Follows s e t := by
  refine ⟨written.trans two.symm, ?_, ?_⟩
  · rw [two]
    exact .cons_cons first (List.isChain_pair.mpr second)
  · rw [two, last]
    rfl

theorem writes_enter (r : Request) (ended : Option Verdict) :
    s.writes (.enter r ended) = (Noted.enter ⟨s, []⟩ r).2.written := rfl

/-- A start that its phase lets pass writes a phase before it asks for the interface. -/
theorem writes_start (free : s.flight = none) (idle : s.phase = .idle) (ended : Option Verdict) :
    s.writes (.enter .start ended) =
      (Noted.prepare ⟨s.goTo .establishing, [.establishing]⟩).2.written := by
  simp [writes_enter, Noted.enter, Noted.enterStart, Noted.goTo, free, idle]

theorem enters_follows {r : Request} {ended : Option Verdict} (h : Enters s r ended t) :
    Follows s (.enter r ended) t := by
  cases h with
  | busy taken =>
    have written : s.writes (.enter r (some (.refused .busy))) = [] := by
      simp [writes_enter, Noted.enter, Option.isSome_iff_ne_none.mpr taken]
    exact .stays written (by cases r <;> rfl) rfl
  | startOutOfPhase free phase =>
    exact .stays (by simp [writes_enter, Noted.enter, Noted.enterStart, free, phase]) rfl rfl
  | @unplanned cause free idle plan =>
    have written := writes_start free idle (some (.refused (.config cause)))
    simp only [Noted.prepare, plan_goTo, plan] at written
    exact .twice written rfl (idle ▸ .accepted free) (.unplanned plan) idle
  | @denied config _ cause _ free idle plan answer =>
    have written := writes_start free idle (some (.refused (.ofInterface cause)))
    simp only [Noted.prepare, plan_goTo, plan, goTo_interface, answer] at written
    have refused : (TunnelInterface.establish s.interface config).1 = .error cause := by
      rw [answer]
    exact .twice written (by cases cause <;> rfl) (idle ▸ .accepted free) (.denied plan refused)
      idle
  | @raised _ _ payload _ free idle plan answer =>
    have written := writes_start free idle (some (.raised payload))
    simp only [Noted.prepare, plan_goTo, plan, goTo_interface, answer] at written
    exact .once written rfl (idle ▸ .accepted free) rfl
  | starting free idle plan answer =>
    have written := writes_start free idle none
    simp only [Noted.prepare, plan_goTo, plan, goTo_interface, answer] at written
    exact .once written rfl (idle ▸ .accepted free) rfl
  | stopIdle free idle =>
    exact .stays (by simp [writes_enter, Noted.enter, Noted.enterStop, free, idle]) rfl rfl
  | stopping free active =>
    have written : s.writes (.enter .stop none) = [.stopping] := by
      simp [writes_enter, Noted.enter, Noted.enterStop, Noted.goTo, free, active]
    exact .once written rfl (active ▸ .stopping free) rfl
  | stopOutOfPhase free notIdle notActive =>
    have written :
        s.writes (.enter .stop (some (.refused (.invalidPhase .stop s.phase)))) = [] := by
      cases phase : s.phase <;> simp_all [writes_enter, Noted.enter, Noted.enterStop]
    exact .stays written rfl rfl
  | @switching target free active =>
    have written : s.writes (.enter (.switch target) none) = [] := by
      simp [writes_enter, Noted.enter, free]
    exact .stays written rfl rfl
  | @switchAway target free notActive =>
    have written : s.writes (.enter (.switch target) (some .notRunning)) = [] := by
      simp [writes_enter, Noted.enter, free]
    exact .stays written rfl rfl

theorem writes_finish (r : Request) (v : Verdict) :
    s.writes (.finish r v) = (Noted.finish ⟨s, []⟩).2.written := rfl

theorem finishes_follows {flight : Flight} {v : Verdict} (h : Finishes s flight v t)
    (taken : s.flight = some flight) (coherent : Coherent s) :
    Follows s (.finish flight.request v) t := by
  have phase := coherent.phase_of_flight taken
  cases h with
  | started answer =>
    have written : s.writes (.finish .start .done) = [.active] := by
      simp [writes_finish, Noted.finish, Noted.finishStart, Noted.goTo, taken, answer]
    exact .once written rfl (phase ▸ .started taken answer) rfl
  | @startFailed _ _ cause answer =>
    have written : s.writes (.finish .start (.refused (.engine cause))) = [.idle] := by
      simp [writes_finish, Noted.finish, Noted.finishStart, Noted.goTo, taken, answer]
    exact .once written rfl (phase ▸ .failed taken (by simp [answer])) rfl
  | @startRaised _ _ payload answer =>
    have written : s.writes (.finish .start (.refused (.engine (.crashed (crashReason payload))))) =
        [.idle] := by
      simp [writes_finish, Noted.finish, Noted.finishStart, Noted.goTo, taken, answer]
    exact .once written rfl (phase ▸ .failed taken (by simp [answer])) rfl
  | stopped =>
    have written : s.writes (.finish .stop .done) = [.idle] := by
      simp [writes_finish, Noted.finish, Noted.finishStop, Noted.goTo, taken]
    exact .once written rfl (phase ▸ .stopped taken) rfl
  | @switched target | @switchFailed target | @switchRaised target =>
    have written (v : Verdict) : s.writes (.finish (.switch target) v) = [] := by
      simp [writes_finish, Noted.finish, taken]
    exact .stays (written _) rfl rfl

theorem reconcile_follows :
    Follows s (.reconcile (s.isRunning && !s.reconcile.1)) s.reconcile.2 := by
  by_cases gone : s.flight.isNone ∧ s.phase = .active ∧ Engine.isRunning s.engine = false
  · obtain ⟨free, active, down⟩ := gone
    have dropped : s.reconcile = (false, s.goTo .idle) := if_pos ⟨free, active, down⟩
    have written : s.writes (.reconcile true) = [.idle] := by
      simp [writes, noted, Noted.pass, Noted.reconcile, Noted.goTo, free, active, down]
    have move : Move s (.reconcile true) .active .idle :=
      .dropped (Option.isNone_iff_eq_none.mp free) down
    simp only [dropped, isRunning, active, decide_true, Bool.not_false, Bool.and_self]
    exact .once written rfl (active ▸ move) rfl
  · have same : s.reconcile = (s.isRunning, s) := if_neg gone
    have written : s.writes (.reconcile false) = [] := by
      simp only [writes, noted, Noted.pass, Noted.reconcile, if_neg gone]
    simp only [same, Bool.and_not_self]
    exact .stays written rfl rfl

theorem step_follows (h : Step u s e t) (coherent : Coherent s) : Follows s e t := by
  cases h with
  | enter h => exact enters_follows (enters_of_eq h)
  | finish h =>
    obtain ⟨flight, taken, rfl, finishes⟩ := finishes_of_eq h
    exact finishes_follows finishes taken coherent
  | reconcile => exact reconcile_follows
  | edit | engine | interface | poll => exact .stays rfl rfl rfl

/-- The phases that a history writes. -/
def phasesOf (history : List Event) : List Phase := history.flatMap Event.writes

theorem phasesOf_append (history : List Event) (e : Event) :
    phasesOf (history ++ [e]) = phasesOf history ++ e.writes := by
  simp [phasesOf]

theorem run_follows {history : List Event} (run : Run u s history t) (coherent : Coherent s) :
    List.IsChain Phase.Arrow (s.phase :: phasesOf history) ∧
    (s.phase :: phasesOf history).getLast? = some t.phase := by
  induction run with
  | start => exact ⟨.singleton _, rfl⟩
  | @next _ before e _ run step ih =>
    obtain ⟨chain, last⟩ := ih
    obtain ⟨_, moves, next⟩ := step_follows step (run_coherent run coherent)
    have arrows : List.IsChain Phase.Arrow (before.phase :: e.writes) :=
      moves.imp fun _ _ move => move.arrow
    rw [phasesOf_append, ← List.cons_append]
    refine ⟨chain.append arrows.tail ?_, ?_⟩
    · intro p lastBefore q first
      rw [last, Option.mem_some_iff] at lastBefore
      subst lastBefore
      exact arrows.rel_head? first
    · rw [List.getLast?_append, last, ← next, List.getLast?_cons]
      cases e.writes.getLast? <;> rfl

/-- A session that notes its phases comes to the very session that an event leads to, unless there is
nothing to note. -/
theorem step_noted (h : Step u s e t) : (s.noted e).session = t ∨ s.noted e = ⟨s, []⟩ := by
  cases h with
  | @enter _ r _ h =>
    have same := congrArg Prod.snd (Noted.enter_eq ⟨s, []⟩ r)
    have left : (s.enter r).2 = t := by rw [h]
    exact .inl (same.trans left)
  | finish h =>
    have same := congrArg Prod.snd (Noted.finish_eq ⟨s, []⟩)
    have left : s.finish.2 = t := by rw [h]
    exact .inl (same.trans left)
  | reconcile => exact .inl (congrArg Prod.snd (Noted.reconcile_eq ⟨s, []⟩))
  | edit | engine | interface | poll => exact .inr rfl

/-- Nothing is written while a request is held. -/
theorem step_held_writes (h : Step u s e t) (taken : s.flight ≠ none)
    (waits : e.isLanding = false) : e.writes = [] := by
  cases step_meanwhile h taken waits with
  | busy r => cases r <;> rfl
  | reconcile | edit | engine | interface | poll => rfl

omit [Engine ε] in
/-- A start that its phase lets pass, and that ends before the engine is asked, writes twice. -/
theorem enters_start_writes {v : Verdict} (h : Enters s .start (some v) t) (free : s.flight = none)
    (idle : s.phase = .idle) (caught : ∀ payload, v ≠ .raised payload) :
    (Event.enter .start (some v)).writes = [.establishing, .idle] := by
  cases h with
  | busy | startOutOfPhase => contradiction
  | unplanned => rfl
  | @denied _ _ cause => cases cause <;> rfl
  | raised => exact absurd rfl (caught _)

end Diagram

end Session

namespace Dispatcher

open Session

variable {ε ι : Type} [Engine ε] [TunnelInterface ι]

/-- **The phase moves along its diagram.** Take any run of a session, by direct calls and through a
front end, with requests held in the engine and with any answers, errors and raised payloads of the
engine and the interface. The phases that it writes, from idle to the phase of the moment, follow the
arrows of the diagram, one by one. Whatever happens next writes its phases along these arrows, each
for its reason, and leaves the one that it wrote last: a half of a start or stop that reaches the
engine writes one, and a start that fails before that writes two. While a request is held, nothing
but its own end writes a phase. There are no neighbors unless the session is active. -/
theorem phases_follow_diagram {u : Surroundings ε ι} {store : Store} {engine : ε} {interface : ι}
    {host storage : String} {history : List Event} {d : Dispatcher ε ι}
    (run : Run u ⟨.idle store engine interface host storage, []⟩ history d) :
    List.IsChain Phase.Arrow (.idle :: phasesOf history) ∧
    (.idle :: phasesOf history).getLast? = some d.session.phase ∧
    (∀ e d', Step u d e d' →
      d.session.writes e = e.writes ∧
      List.IsChain (Move d.session e) (d.session.phase :: d.session.writes e) ∧
      (d.session.phase :: d.session.writes e).getLast? = some d'.session.phase ∧
      ((d.session.noted e).session = d'.session ∨ d.session.noted e = ⟨d.session, []⟩) ∧
      (∀ r, r = .start ∨ r = .stop → (e = .enter r none ∨ ∃ v, e = .finish r v) →
        (d.session.writes e).length = 1) ∧
      (∀ v, e = .enter .start (some v) → d.session.flight = none → d.session.phase = .idle →
        (∀ payload, v ≠ .raised payload) → (d.session.writes e).length = 2) ∧
      (d.session.flight ≠ none → e.isLanding = false → d.session.writes e = [])) ∧
    (∀ later d', Run u d later d' → d.session.flight ≠ none →
      (∀ e ∈ later, e.isLanding = false) →
        d'.session.flight = d.session.flight ∧ d'.session.phase = d.session.phase) ∧
    (d.session.phase ≠ .active → d.session.neighbors = .empty) := by
  have first : Coherent (Session.idle store engine interface host storage) := by
    simp [Coherent, idle]
  have coherent := run_coherent run.session first
  obtain ⟨chain, phase⟩ := run_follows run.session first
  refine ⟨chain, phase, ?_, ?_, ?_⟩
  · intro e d' step
    obtain ⟨written, moves, last⟩ := step_follows step.session coherent
    rw [written]
    refine ⟨rfl, moves, last, step_noted step.session, ?_, ?_, ?_⟩
    · rintro r (rfl | rfl) (rfl | ⟨v, rfl⟩)
      · rfl
      · cases v <;> rfl
      · rfl
      · rfl
    · rintro v rfl free idle caught
      cases step.session with
      | enter h => rw [enters_start_writes (enters_of_eq h) free idle caught]; rfl
    · exact step_held_writes step.session
  · intro later d' after taken waits
    obtain ⟨flight, phase, _⟩ := run_held after.session taken waits
    exact ⟨flight, phase⟩
  · intro notActive
    simp [neighbors, isRunning, notActive]

/-- A front end connects and a stop is tried while a start is held: the session stays establishing,
and the engine's answer makes it active. -/
theorem phases_follow_diagram_while_held :
    let u := Recorded.surroundings Scripted.surroundings
    let d := ((Recorded.overScript {} (.knowing none)).dispatch .start).2
    let busy := (Dispatcher.connect d.session).dispatch .stop
    Run u d [.reconcile false, .enter .stop (some (.refused .busy))] busy.2 ∧
      busy.2.session.phase = d.session.phase ∧
      List.IsChain (Move busy.2.session (.finish .start .done)) [.establishing, .active] := by
  intro u d busy
  have held : Run u (Recorded.overScript {} (.knowing none)) [.enter .start none] d :=
    .next .start (.dispatch rfl)
  have tried : Run u d [.reconcile false, .enter .stop (some (.refused .busy))] busy.2 :=
    (Run.start.next (.connect _)).next (.dispatch rfl)
  have before : Run u (Recorded.overScript {} (.knowing none)) _ busy.2 :=
    (held.next (.connect _)).next (.dispatch (r := .stop) rfl)
  obtain ⟨_, _, _, still, _⟩ := phases_follow_diagram held
  obtain ⟨_, _, steps, _, _⟩ := phases_follow_diagram before
  obtain ⟨_, moves, _⟩ := steps (.finish .start .done) _ (.settle rfl)
  refine ⟨tried, (still _ _ tried nofun ?_).2, moves⟩
  simp [Event.isLanding]

end Dispatcher

end TunnelSession
