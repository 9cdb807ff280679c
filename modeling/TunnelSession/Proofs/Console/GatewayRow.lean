import TunnelSession.Proofs.Console.Controls
import TunnelSession.Proofs.Console.Scope

/-!
The row of the gateway, against the gateway in use. The console picks the row's editor by its own
controls, and these learn of a start only when its outcome is handled. Until then the row takes
text, which is stored while the engine goes by the gateway that it was started with.

* `Session.Overtyped`: the stored gateway is the one in use, or one that was typed over it;
* `Typing.Step` and `Typing.Run`: what happens to a console, with the gateway that was typed since
  a start last read the settings or a switch last wrote them;
* `Typing.Late`: controls that are behind, and when a gateway was typed over one in use;
* `Typing.gateway_parted_by_text` puts these together.
-/

namespace TunnelSession

namespace Session

/-- The stored gateway is the one that a start in flight goes by, or that the engine of an active
session uses, unless another one was typed over it. -/
structure Overtyped {ε ι : Type} (s : Session (Recorded.Engine ε) ι) (text : Option String) :
    Prop where
  starting : ∀ descriptor params, s.flight = some (.start descriptor params) →
    s.store.get? .gateway = some (text.getD params.gateway)
  running : s.phase = .active →
    ∃ g, s.engine.gateway? = some g ∧ s.store.get? .gateway = some (text.getD g)

section

variable {ε ι : Type} {s t : Session (Recorded.Engine ε) ι} {text : Option String}

theorem InUse.overtyped (uses : InUse s) : Overtyped s none := by
  refine ⟨uses.starting, fun active => uses.running ?_⟩
  rw [active]
  rfl

theorem Overtyped.congr (overtyped : Overtyped s text) (phase : t.phase = s.phase)
    (flight : t.flight = s.flight) (used : t.engine.gateway? = s.engine.gateway?)
    (stored : t.store.get? .gateway = s.store.get? .gateway) : Overtyped t text := by
  constructor
  · intro descriptor params taken
    rw [stored]
    exact overtyped.starting descriptor params (flight ▸ taken)
  · intro active
    rw [used, stored]
    exact overtyped.running (phase ▸ active)

/-- A gateway that is typed is stored, whatever is in use. -/
theorem Overtyped.type (overtyped : Overtyped s text) {value : String} (phase : t.phase = s.phase)
    (used : t.engine.gateway? = s.engine.gateway?)
    (stored : t.store.get? .gateway = some value) : Overtyped t (some value) := by
  constructor
  · intro descriptor params taken
    exact stored
  · intro active
    obtain ⟨g, before, _⟩ := overtyped.running (phase ▸ active)
    exact ⟨g, used.trans before, stored⟩

variable [TunnelInterface ι]

/-- A start that goes into flight has read the settings; no other request touches a gateway before
its engine call. -/
theorem enters_overtyped {r : Request} {ended : Option Verdict} (h : Enters s r ended t)
    (overtyped : Overtyped s text) :
    Overtyped t (if r = .start ∧ ended = none then none else text) := by
  cases h with
  | starting free idle plan answer =>
    exact (enters_start_inUse (.starting free idle plan answer)).overtyped
  | busy | startOutOfPhase | unplanned | denied | stopIdle | stopOutOfPhase | switchAway =>
    rw [if_neg (by simp)]
    exact overtyped.congr rfl rfl rfl rfl
  | raised free =>
    constructor
    · intro descriptor params taken
      simp [free] at taken
    · nofun
  | stopping => exact ⟨nofun, nofun⟩
  | switching free active => exact ⟨nofun, fun _ => overtyped.running active⟩

variable [Engine ε]

theorem finishes_overtyped {flight : Flight} {v : Verdict} (h : Finishes s flight v t)
    (taken : s.flight = some flight) (overtyped : Overtyped s text) :
    Overtyped t (if (Event.finish flight.request v).updated?.isSome then none else text) := by
  constructor
  · intro descriptor params starting
    rw [finishes_flight h] at starting
    cases starting
  · intro active
    cases h with
    | @started d p answer =>
      have used := Recorded.Engine.gateway?_append (Recorded.Engine.calls_start answer)
      exact ⟨p.gateway, used, overtyped.starting d p taken⟩
    | startFailed | startRaised | stopped => cases active
    | @switched target answer =>
      have used := Recorded.Engine.gateway?_append (Recorded.Engine.calls_redirect answer)
      exact ⟨target.address.text, used, Store.get?_save _ _ _⟩
    | switchFailed answer | switchRaised answer =>
      have used := Recorded.Engine.gateway?_append (Recorded.Engine.calls_redirect answer)
      obtain ⟨g, before, stored⟩ := overtyped.running active
      exact ⟨g, used.trans before, stored⟩

end

section

variable {ε ι : Type} {s t : Session ε ι}

/-- What is open to a gateway that is typed over it: a start in flight, or an active session. -/
def IsUp (s : Session ε ι) : Prop :=
  s.phase = .active ∨ s.flight.map Flight.request = some .start

variable [TunnelInterface ι]

/-- Only a start that goes into flight brings a session up. -/
theorem enters_isUp {r : Request} {ended : Option Verdict} (h : Enters s r ended t)
    (up : IsUp t) : IsUp s ∨ r = .start ∧ ended = none := by
  cases h with
  | starting => exact .inr ⟨rfl, rfl⟩
  | busy | startOutOfPhase | unplanned | denied | stopIdle | stopOutOfPhase | switchAway =>
    exact .inl up
  | raised free => simp [IsUp, free] at up
  | stopping => simp [IsUp, Flight.request] at up
  | switching free active => exact .inl (.inl active)

theorem enters_active {r : Request} {ended : Option Verdict} (h : Enters s r ended t)
    (free : s.flight = none) (active : t.phase = .active) : s.phase = .active ∧ r ≠ .stop := by
  cases h with
  | busy taken => exact absurd free taken
  | startOutOfPhase | unplanned | denied | switching | switchAway => exact ⟨active, nofun⟩
  | raised | starting | stopping => cases active
  | stopIdle _ idle => simp [idle] at active
  | stopOutOfPhase _ _ notActive => exact absurd active notActive

variable [Engine ε]

theorem finishes_isUp {flight : Flight} {v : Verdict} (h : Finishes s flight v t)
    (taken : s.flight = some flight) (up : IsUp t) : IsUp s := by
  have active : t.phase = .active := by
    rcases up with active | starting
    · exact active
    · rw [finishes_flight h] at starting
      cases starting
  cases h with
  | started =>
    right
    rw [taken]
    rfl
  | startFailed | startRaised | stopped => cases active
  | switched | switchFailed | switchRaised => exact .inl active

end

end Session

namespace Console

open Session

section Lines

variable {ε ι : Type} [Engine ε] [TunnelInterface ι] {c next : Console ε ι} {line : String}

omit [Engine ε] [TunnelInterface ι] in
/-- The row takes text for the gateway only while stop is disabled. -/
theorem Sets.stop_disabled {i : Nat} {value : List Char}
    (names : Sets c line i .gateway value) : c.controls.stop = false := by
  cases enabled : c.controls.stop with
  | false => rfl
  | true =>
    have editor := names.editor
    simp [Menu.Row.kind, Menu.Kind.editor, Controls.isRunning, enabled] at editor

/-- A line that does not type a gateway stores none. -/
theorem Acts.gateway (acts : Acts c line next)
    (untyped : ∀ i value, ¬ Sets c line i .gateway value) :
    next.store.get? .gateway = c.store.get? .gateway := by
  cases acts with
  | @sets i key value names =>
    have other : key ≠ .gateway := by
      rintro rfl
      exact untyped i value names
    change (c.withStore _).store.settings.get? .gateway = _
    rw [withStore_save_settings, Settings.get?_set, if_neg other]
    rfl
  | commits names =>
    change (c.store.saveExcluded _).settings.get? .gateway = _
    rw [Store.saveExcluded, Store.persist_settings]
    rfl
  | @asks r _ dispatcher _ names dispatched =>
    have same := dispatch_store c.dispatcher r
    rw [dispatched] at same
    exact congrArg (Store.get? · .gateway) same
  | redraws | idle => rfl

end Lines

/-- A console, with the gateway that was typed since a start last read the settings or a switch last
wrote them, and the console that it was typed on. -/
structure Typing (ε ι : Type) where
  console : Console ε ι
  typed : Option (Console ε ι × String)

namespace Typing

variable {ε ι : Type}

def session (t : Typing ε ι) : Session ε ι := t.console.dispatcher.session

def text (t : Typing ε ι) : Option String := t.typed.map (·.2)

def connect [Engine ε] (session : Session ε ι) (installed : List InstalledApp) : Typing ε ι :=
  ⟨.connect session installed, none⟩

/-- What was typed has been read by a start that goes into flight. -/
def entered [TunnelInterface ι] (t : Typing ε ι) (r : Request) : Option (Console ε ι × String) :=
  if r = .start ∧ (t.session.enter r).1 = none then none else t.typed

/-- A start is in flight, or has ended well and waits to be handled. -/
def StartUnhandled (c : Console ε ι) : Prop :=
  c.dispatcher.session.flight.map Flight.request = some .start ∨ .started ∈ c.dispatcher.outcomes

section Runs

variable [Engine ε] [TunnelInterface ι] (u : Surroundings ε ι)

/-- What happens to a console that nothing else makes requests beside, and that alone saves
settings. -/
inductive Step (t : Typing ε ι) : Typing ε ι → Prop
  | types {line i value} (names : Sets t.console line i .gateway value) :
      Step t ⟨(t.console.handle line).console,
        some (t.console, String.ofList (Console.typed value))⟩
  | line (line : String) (untyped : ∀ i value, ¬ Sets t.console line i .gateway value) :
      Step t ⟨(t.console.handle line).console,
        (t.console.accepted? (.parse line)).elim t.typed t.entered⟩
  | settle {r v session} (ended : t.session.finish = (some (r, v), session)) :
      Step t ⟨t.console.settle,
        if (Event.finish r v).updated?.isSome then none else t.typed⟩
  | outcome {o outcomes} (first : t.console.dispatcher.outcomes = o :: outcomes) :
      Step t ⟨({ t.console with dispatcher.outcomes := outcomes }.onOutcome o).2, t.typed⟩
  | folder (dir : Folder) :
      Step t ⟨t.console.withStore { t.console.store with dir }, t.typed⟩
  | engine (engine : ε) (h : u.engine t.session.engine engine) :
      Step t ⟨{ t.console with dispatcher.session.engine := engine }, t.typed⟩
  | interface (interface : ι) (h : u.interface t.session.interface interface) :
      Step t ⟨{ t.console with dispatcher.session.interface := interface }, t.typed⟩

inductive Run (start : Typing ε ι) : Typing ε ι → Prop
  | start : Run start start
  | next {t t'} : Run start t → Step u t t' → Run start t'

variable {u} {t t' : Typing (Recorded.Engine ε) ι}

end Runs

section Invariant

variable {ε ι : Type} {t t' : Typing (Recorded.Engine ε) ι}

/-- What is typed over a gateway in use, and why it could be. -/
structure Late (t : Typing (Recorded.Engine ε) ι) : Prop where
  overtyped : Overtyped t.session t.text
  shown : t.session.phase = .active →
    t.console.controls.stop = true ∨ .started ∈ t.console.dispatcher.outcomes
  typed : IsUp t.session → ∀ c text, t.typed = some (c, text) → StartUnhandled c

variable [Engine ε] [TunnelInterface ι]

omit [Engine ε] in
/-- The first half of a request that a line makes. -/
theorem Late.dispatch (late : Late t) {r : Request} {c : Console (Recorded.Engine ε) ι}
    (free : t.session.flight = none)
    (dispatcher : c.dispatcher = (t.console.dispatcher.dispatch r).2)
    (stop : r ≠ .stop → c.controls.stop = t.console.controls.stop) : Late ⟨c, t.entered r⟩ := by
  have enters := enter_enters t.session r
  rw [t.console.dispatcher.dispatch_free r free] at dispatcher
  have session : Typing.session ⟨c, t.entered r⟩ = (t.session.enter r).2 := by
    rw [Typing.session, dispatcher]
    rfl
  refine ⟨?_, ?_, ?_⟩
  · have after := enters_overtyped enters late.overtyped
    rw [session, text, entered]
    by_cases reads : r = .start ∧ (t.session.enter r).1 = none
    · rwa [if_pos reads] at after ⊢
    · rwa [if_neg reads] at after ⊢
  · intro active
    rw [session] at active
    obtain ⟨before, other⟩ := enters_active enters free active
    rcases late.shown before with enabled | waits
    · exact .inl ((stop other).trans enabled)
    · right
      simp only [dispatcher]
      exact List.mem_append_left _ waits
  · intro up c' text was
    rw [session] at up
    rw [entered] at was
    rcases enters_isUp enters up with before | reads
    · split at was
      · cases was
      · exact late.typed before c' text was
    · rw [if_pos reads] at was
      cases was

theorem Late.line (late : Late t) {line : String}
    (untyped : ∀ i value, ¬ Sets t.console line i .gateway value) :
    Late ⟨(t.console.handle line).console,
      (t.console.accepted? (.parse line)).elim t.typed t.entered⟩ := by
  have stored := (handle_acts t.console line).gateway untyped
  have lands := t.console.handle_lands line
  generalize (t.console.handle line).console = c at *
  generalize t.console.accepted? (.parse line) = accepted at *
  cases lands with
  | settings dispatcher controls =>
    have session : c.dispatcher.session.phase = t.session.phase ∧
        c.dispatcher.session.flight = t.session.flight ∧
        c.dispatcher.session.engine = t.session.engine := by
      rw [dispatcher]
      exact ⟨rfl, rfl, rfl⟩
    obtain ⟨phase, flight, engine⟩ := session
    refine ⟨late.overtyped.congr phase flight (congrArg _ engine) stored, ?_, ?_⟩
    · intro active
      rw [controls, dispatcher]
      exact late.shown (phase ▸ active)
    · rintro (active | starting)
      · exact late.typed (.inl (phase ▸ active))
      · exact late.typed (.inr (flight ▸ starting))
  | start free enabled dispatcher controls =>
    apply late.dispatch free dispatcher
    intro _
    rw [controls]
  | stop free enabled dispatcher controls =>
    apply late.dispatch free dispatcher
    intro other
    exact absurd rfl other
  | switch free dispatcher controls =>
    apply late.dispatch free dispatcher
    intro _
    rw [controls]

theorem Late.types (late : Late t) {line : String} {i : Nat} {value : List Char}
    (names : Sets t.console line i .gateway value) :
    Late ⟨(t.console.handle line).console,
      some (t.console, String.ofList (Console.typed value))⟩ := by
  rw [names.handle_eq.1]
  refine ⟨?_, late.shown, ?_⟩
  · exact late.overtyped.type rfl rfl (Store.get?_save _ _ _)
  · -- the row takes text only while stop is disabled, so the start is in flight or its outcome waits
    rintro up c text ⟨⟩
    rcases up with active | starting
    · rcases late.shown active with enabled | waits
      · rw [names.stop_disabled] at enabled
        cases enabled
      · exact .inr waits
    · exact .inl starting

theorem Late.settle (late : Late t) {r : Request} {v : Verdict}
    {session : Session (Recorded.Engine ε) ι} (ended : t.session.finish = (some (r, v), session)) :
    Late ⟨t.console.settle, if (Event.finish r v).updated?.isSome then none else t.typed⟩ := by
  obtain ⟨flight, taken, rfl, finishes⟩ := finishes_of_eq ended
  have settled : t.console.settle.dispatcher = ⟨session,
      t.console.dispatcher.outcomes ++ (Outcome.of? flight.request v).toList⟩ := by
    have eq : t.console.dispatcher.session.finish = (some (flight.request, v), session) := ended
    simp [Console.settle, Dispatcher.settle_eq, eq]
  refine ⟨?_, ?_, ?_⟩
  · have after := finishes_overtyped finishes taken late.overtyped
    rw [Typing.session, text, settled]
    by_cases updated : (Event.finish flight.request v).updated?.isSome
    · rwa [if_pos updated] at after ⊢
    · rwa [if_neg updated] at after ⊢
  · intro active
    rw [Typing.session, settled] at active
    rw [settled]
    cases finishes with
    | started =>
      -- stop is not enabled yet: that takes the outcome which is reported here
      exact .inr (List.mem_append_right _ List.mem_cons_self)
    | startFailed | startRaised | stopped => cases active
    | switched | switchFailed | switchRaised =>
      rcases late.shown active with enabled | waits
      · exact .inl enabled
      · exact .inr (List.mem_append_left _ waits)
  · intro up c text was
    rw [Typing.session, settled] at up
    split at was
    · cases was
    · exact late.typed (finishes_isUp finishes taken up) c text was

omit [Engine ε] in
theorem onOutcome_session (c : Console (Recorded.Engine ε) ι) (o : Outcome) :
    (c.onOutcome o).2.dispatcher.session.engine = c.dispatcher.session.engine ∧
    (c.onOutcome o).2.store = c.store := by
  unfold onOutcome
  split <;> exact ⟨rfl, rfl⟩

omit [Engine ε] in
theorem Late.outcome (late : Late t) {o : Outcome} {outcomes : List Outcome}
    (first : t.console.dispatcher.outcomes = o :: outcomes) :
    Late ⟨({ t.console with dispatcher.outcomes := outcomes }.onOutcome o).2, t.typed⟩ := by
  obtain ⟨controls, rest, phase, flight⟩ :=
    Watch.onOutcome_keeps { t.console with dispatcher.outcomes := outcomes } o
  obtain ⟨engine, store⟩ := onOutcome_session { t.console with dispatcher.outcomes := outcomes } o
  generalize ({ t.console with dispatcher.outcomes := outcomes }.onOutcome o).2 = c at *
  change c.dispatcher.session.phase = t.session.phase at phase
  change c.dispatcher.session.flight = t.session.flight at flight
  refine ⟨?_, ?_, ?_⟩
  · exact late.overtyped.congr phase flight (congrArg _ engine)
      (congrArg (Store.get? · .gateway) store)
  · intro active
    rw [controls, rest]
    rcases late.shown (phase ▸ active) with enabled | waits
    · left
      cases o <;> simp [Controls.onOutcome, enabled]
    · rw [first] at waits
      rcases List.mem_cons.mp waits with rfl | later
      · exact .inl rfl
      · exact .inr later
  · rintro (active | starting)
    · exact late.typed (.inl (phase ▸ active))
    · exact late.typed (.inr (flight ▸ starting))

omit [Engine ε] [TunnelInterface ι] in
theorem Late.folder (late : Late t) (dir : Folder) :
    Late ⟨t.console.withStore { t.console.store with dir }, t.typed⟩ :=
  ⟨late.overtyped.congr rfl rfl rfl rfl, late.shown, late.typed⟩

end Invariant

section Result

variable {ε ι : Type} [Engine ε] [TunnelInterface ι] {u : Surroundings ε ι}
  {t t' : Typing (Recorded.Engine ε) (Recorded.Interface ι)}

theorem step_late (step : Step (Recorded.surroundings u) t t') (late : Late t) : Late t' := by
  cases step with
  | types names => exact late.types names
  | line line untyped => exact late.line untyped
  | settle ended => exact late.settle ended
  | outcome first => exact late.outcome first
  | folder dir => exact late.folder dir
  | engine engine h =>
    have used : engine.gateway? = t.session.engine.gateway? := by
      rw [Recorded.Engine.gateway?, h.2, Recorded.Engine.gateway?]
    exact ⟨late.overtyped.congr rfl rfl used rfl, late.shown, late.typed⟩
  | interface => exact ⟨late.overtyped.congr rfl rfl rfl rfl, late.shown, late.typed⟩

theorem run_late {start : Typing (Recorded.Engine ε) (Recorded.Interface ι)}
    (run : Run (Recorded.surroundings u) start t) (late : Late start) : Late t := by
  induction run with
  | start => exact late
  | next _ step ih => exact step_late step ih

omit [TunnelInterface ι] in
theorem connect_late {session : Session (Recorded.Engine ε) ι} {installed : List InstalledApp}
    (settled : Settled session)
    (same : session.phase = .active →
      ∃ g, session.engine.gateway? = some g ∧ session.store.get? .gateway = some g) :
    Late (.connect session installed) := by
  obtain ⟨free, phase⟩ := settled
  have uses : InUse session := by
    constructor
    · intro descriptor params taken
      rw [free] at taken
      cases taken
    · intro isOpen
      rcases phase with idle | active
      · rw [idle] at isOpen
        cases isOpen
      · exact same active
  refine ⟨?_, ?_, ?_⟩
  · change Overtyped session.reconcile.2 none
    exact (reconcile_inUse uses).overtyped
  · intro active
    left
    change decide (session.reconcile.2.phase = .active) = true
    exact decide_eq_true active
  · intro _ c text typed
    cases typed

/-- **What parts the stored gateway from the one in use.** Take any run of a console from a session
that is idle, or active with the gateway stored that its engine uses, with any lines, each outcome
handled at any later moment, each request held as long as may be, and an engine and an interface
that fail, raise or change by themselves; nothing but the console makes requests or saves settings.
While the session is active, the stored gateway is the one that the engine uses, unless another one
was typed as text since the start in force read the settings, with no switch accepted after that;
then it is the one typed. Such a text was typed on a console with a start in flight or with the
outcome of one waiting, and while the session is active no other console takes one: a console that
has handled every outcome parts nothing. -/
theorem gateway_parted_by_text
    {session : Session (Recorded.Engine ε) (Recorded.Interface ι)} {installed : List InstalledApp}
    (settled : Settled session)
    (same : session.phase = .active →
      ∃ g, session.engine.gateway? = some g ∧ session.store.get? .gateway = some g)
    (run : Run (Recorded.surroundings u) (.connect session installed) t)
    (active : t.session.phase = .active) :
    (∃ g, t.session.engine.gateway? = some g ∧
      t.session.store.get? .gateway = some (t.text.getD g) ∧
      (t.session.store.get? .gateway = t.session.engine.gateway? ↔
        ∀ text, t.text = some text → text = g)) ∧
    (∀ c text, t.typed = some (c, text) → StartUnhandled c) ∧
    (∀ line i value, Sets t.console line i .gateway value →
      .started ∈ t.console.dispatcher.outcomes) := by
  have late := run_late run (connect_late settled same)
  obtain ⟨g, used, stored⟩ := late.overtyped.running active
  refine ⟨⟨g, used, stored, ?_⟩, late.typed (.inl active), ?_⟩
  · rw [used, stored]
    cases t.text <;> simp
  · intro line i value names
    rcases late.shown active with enabled | waits
    · rw [names.stop_disabled] at enabled
      cases enabled
    · exact waits

/-- A console over an engine with one neighbor. -/
def overNeighbor :
    Session (Recorded.Engine Scripted.Engine) (Recorded.Interface Scripted.Interface) :=
  (Recorded.overScript
    { plain := { neighbors := ⟨[⟨⟨172, 20, 0, 8⟩, "router"⟩]⟩ } } (.knowing none)).session

omit [Engine ε] [TunnelInterface ι] in
theorem untyped_start (c : Console ε ι) (i : Nat) (value : List Char) :
    ¬ Sets c "start" i .gateway value := by
  intro names
  exact absurd names.command (by decide)

omit [Engine ε] [TunnelInterface ι] in
theorem types_gateway {c : Console ε ι} (disabled : c.controls.stop = false) :
    Sets c "edit 3 172.20.0.9" 2 .gateway "172.20.0.9".toList where
  command := by decide
  row := Text.position?_eq_some_iff.mp (by decide)
  place := rfl
  editor := by simp [Menu.Row.kind, Menu.Kind.editor, Controls.isRunning, disabled]
  given := by decide
  notBlank := by decide

/-- A gateway typed while the outcome of the start waits is stored over the one in use. -/
theorem typed_over_running : ∃ t, Run (Recorded.surroundings Scripted.surroundings)
      (.connect overNeighbor []) t ∧
    t.session.phase = .active ∧ t.session.engine.gateway? = some "172.20.0.1" ∧
    t.session.store.get? .gateway = some "172.20.0.9" := by
  have begun : Run (Recorded.surroundings Scripted.surroundings) (.connect overNeighbor []) _ :=
    .start
  have starting := begun.next (.line "start" (untyped_start _))
  have active := starting.next (.settle rfl)
  have typed := active.next (.types (types_gateway rfl))
  exact ⟨_, typed, rfl, rfl, rfl⟩

/-- A gateway that is typed while a start is held, and a switch that takes its place. -/
theorem gateway_parted_until_switch : ∃ parted joined,
    Run (Recorded.surroundings Scripted.surroundings) (.connect overNeighbor []) parted ∧
    parted.session.store.get? .gateway ≠ parted.session.engine.gateway? ∧
    Run (Recorded.surroundings Scripted.surroundings) (.connect overNeighbor []) joined ∧
    joined.session.store.get? .gateway = some "172.20.0.8" ∧
    joined.session.store.get? .gateway = joined.session.engine.gateway? := by
  have settled : Settled overNeighbor := ⟨rfl, .inl rfl⟩
  have begun : Run (Recorded.surroundings Scripted.surroundings) (.connect overNeighbor []) _ :=
    .start
  have starting := begun.next (.line "start" (untyped_start _))
  have typed := starting.next (.types (types_gateway rfl))
  have active := typed.next (.settle rfl)
  have handled := active.next (.outcome rfl)
  have switching := handled.next (.line "edit 3 1" fun _ _ names => nomatch names.stop_disabled)
  have switched := switching.next (.settle rfl)
  obtain ⟨⟨g, used, _, parted⟩, _⟩ := gateway_parted_by_text settled nofun active rfl
  obtain ⟨⟨_, _, _, joined⟩, _⟩ := gateway_parted_by_text settled nofun switched rfl
  refine ⟨_, _, active, ?_, switched, by decide, joined.mpr nofun⟩
  intro same
  have equal := parted.mp same _ rfl
  cases used
  exact absurd equal (by decide)

end Result

end Typing

end Console

end TunnelSession
