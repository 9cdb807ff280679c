import TunnelSession.Proofs.Address
import TunnelSession.Proofs.Session.Agreement
import TunnelSession.Proofs.Session.Calls
import TunnelSession.Proofs.Session.Descriptors
import TunnelSession.Proofs.Session.Plan
import TunnelSession.Proofs.Settings.Store

/-!
The stored gateway and the one in use. There are two copies of the gateway: the engine has one, from
its start on and changed by each switch that it accepts, and one is stored.

* `Session.Event.stores`: what an event does to the settings, and `step_settings`, that a step does
  this and nothing else;
* `Session.run_gateway`: the gateway that is stored is the last one that an event stored;
* `Session.run_switches`: the engine accepted what the switches were answered;
* `Session.InUse`: both copies are the same, as long as no one saves another gateway over them;
* `Dispatcher.gateway_recorded` puts these together.
-/

namespace TunnelSession

namespace Recorded

/-- The address that the engine was switched to. -/
def EngineCall.switched? : EngineCall → Option Address
  | .redirect target (.ok ()) => some target
  | _ => none

/-- The gateway that a call has left the engine with. -/
def EngineCall.gateway? : EngineCall → Option String
  | .start _ params _ (.ok ()) => some params.gateway
  | .redirect target (.ok ()) => some target.text
  | _ => none

namespace Engine

variable {ε : Type} (e : Engine ε)

/-- The addresses that the engine accepted, in their order. -/
def switches : List Address := e.calls.filterMap EngineCall.switched?

/-- The gateway that the engine uses: the one it was started with, or the last one that it accepted
since. -/
def gateway? : Option String := (e.calls.filterMap EngineCall.gateway?).getLast?

variable {e} {e' : Engine ε} {call : EngineCall}

theorem switches_append (made : e'.calls = e.calls ++ [call]) :
    e'.switches = e.switches ++ call.switched?.toList := by
  cases h : call.switched? <;> simp [switches, made, h]

theorem gateway?_append (made : e'.calls = e.calls ++ [call]) :
    e'.gateway? = call.gateway?.or e.gateway? := by
  cases h : call.gateway? <;> simp [gateway?, made, h]

end Engine

end Recorded

/-- The value that an edit saves as the gateway. -/
def Edit.gateway? : Edit → Option String
  | .save .gateway value => some value
  | _ => none

theorem Edit.gateway?_eq_none (e : Edit) (unsaved : ∀ value, e ≠ .save .gateway value) :
    e.gateway? = none := by
  cases e with
  | save key value =>
    cases key with
    | gateway => exact absurd rfl (unsaved value)
    | name | localAddress | dnsServer | links => rfl
  | saveExcluded | folder => rfl

theorem Edit.change_gateway (e : Edit) (settings : Settings) :
    (e.change settings).get? .gateway = e.gateway?.or (settings.get? .gateway) := by
  cases e with
  | save key value =>
    rw [Edit.change, Settings.get?_set]
    cases key <;> rfl
  | saveExcluded | folder => rfl

namespace Session

/-- The address that the request that ended at an event was answered with. -/
def Event.updated? (e : Event) : Option Address :=
  match e.ending? with
  | some (_, .updated target) => some target
  | _ => none

/-- The value that an event stores as the gateway. -/
def Event.gateway? : Event → Option String
  | .edit e => e.gateway?
  | e => e.updated?.map Address.text

/-- What an event does to the settings. -/
def Event.stores (e : Event) (settings : Settings) : Settings :=
  match e.updated? with
  | some target => settings.set .gateway target.text
  | none => e.change settings

theorem Event.stores_gateway (e : Event) (settings : Settings) :
    (e.stores settings).get? .gateway = e.gateway?.or (settings.get? .gateway) := by
  cases e with
  | edit e => exact e.change_gateway settings
  | enter | finish | reconcile | drift | poll =>
    simp only [stores, gateway?]
    split
    · rename_i target updated
      rw [updated]
      exact Settings.get?_set_self settings .gateway target.text
    · rename_i not_updated
      rw [not_updated]
      rfl

/-- Without an edit, nothing but the gateway is stored. -/
theorem Event.stores_others {e : Event} (unedited : ∀ edit, e ≠ .edit edit) (settings : Settings) :
    (∀ name, name ≠ Settings.Key.gateway.text →
      (e.stores settings).values[name]? = settings.values[name]?) ∧
    (e.stores settings).excluded = settings.excluded := by
  unfold stores
  split
  · rename_i target _
    refine ⟨?_, rfl⟩
    intro name other
    rw [Settings.getElem?_set, if_neg (Ne.symm other)]
  · cases e with
    | edit edit => exact absurd rfl (unedited edit)
    | enter | finish | reconcile | drift | poll => exact ⟨fun _ _ => rfl, rfl⟩

section Stored

variable {ε ι : Type} [Engine ε] [TunnelInterface ι] {u : Surroundings ε ι} {s t : Session ε ι}

omit [Engine ε] in
theorem enters_store {r : Request} {ended : Option Verdict} (h : Enters s r ended t) :
    t.store = s.store := by
  cases h <;> rfl

omit [Engine ε] in
/-- No request is answered with an address before its engine call. -/
theorem enters_updated {r : Request} {ended : Option Verdict} (h : Enters s r ended t) :
    (Event.enter r ended).updated? = none := by
  cases h <;> rfl

theorem finishes_settings {flight : Flight} {r : Request} {v : Verdict} (h : Finishes s flight v t) :
    t.store.settings = (Event.finish r v).stores s.store.settings := by
  cases h with
  | switched => exact Store.persist_settings _
  | started | startFailed | startRaised | stopped | switchFailed | switchRaised => rfl

theorem step_settings {e : Event} (h : Step u s e t) :
    t.store.settings = e.stores s.store.settings := by
  cases h with
  | enter h =>
    have enters := enters_of_eq h
    rw [enters_store enters, Event.stores, enters_updated enters]
    rfl
  | finish h =>
    obtain ⟨_, _, _, finishes⟩ := finishes_of_eq h
    exact finishes_settings finishes
  | reconcile =>
    rcases s.reconcile_cases with same | ⟨_, _, _, dropped⟩
    · rw [same]
      rfl
    · rw [dropped]
      rfl
  | edit e => exact e.apply_settings s.store
  | engine | interface | poll => rfl

/-- The gateway that is stored is the last one that an event stored, or the first one of all. -/
theorem run_gateway {history : List Event} (run : Run u s history t) :
    t.store.get? .gateway =
      ((history.filterMap Event.gateway?).getLast?).or (s.store.get? .gateway) := by
  induction run with
  | start => rfl
  | @next _ _ e _ _ step ih =>
    rw [Store.get?, step_settings step, Event.stores_gateway, ← Store.get?, ih]
    cases saved : e.gateway? <;> simp [saved]

/-- Only a switch is answered with an address, and with its own. -/
theorem step_updated {e : Event} {a : Address} (h : Step u s e t) (updated : e.updated? = some a) :
    ∃ target : Candidate, e = .finish (.switch target) (.updated target.address) ∧
      target.address = a := by
  cases h with
  | finish h =>
    obtain ⟨_, _, rfl, finishes⟩ := finishes_of_eq h
    cases finishes with
    | switched =>
      cases updated
      exact ⟨_, rfl, rfl⟩
    | started | startFailed | startRaised | stopped | switchFailed | switchRaised => cases updated
  | enter h =>
    rw [enters_updated (enters_of_eq h)] at updated
    cases updated
  | reconcile | edit | engine | interface | poll => cases updated

theorem run_updated {history : List Event} (run : Run u s history t) :
    ∀ e ∈ history, ∀ a, e.updated? = some a →
      ∃ target : Candidate, e = .finish (.switch target) (.updated target.address) ∧
        target.address = a := by
  induction run with
  | start =>
    intro e mem
    cases mem
  | next _ step ih =>
    intro e mem a updated
    rcases List.mem_append.mp mem with earlier | last
    · exact ih e earlier a updated
    · rw [List.mem_singleton.mp last] at updated ⊢
      exact step_updated step updated

end Stored

section Copies

variable {ε ι : Type} [Engine ε] [TunnelInterface ι] {s t : Session (Recorded.Engine ε) ι}

theorem finishes_switches {flight : Flight} {r : Request} {v : Verdict}
    (h : Finishes s flight v t) :
    t.engine.switches = s.engine.switches ++ (Event.finish r v).updated?.toList := by
  cases h with
  | started answer | startFailed answer | startRaised answer =>
    exact Recorded.Engine.switches_append (Recorded.Engine.calls_start answer)
  | stopped => exact Recorded.Engine.switches_append Recorded.Engine.calls_stop
  | switched answer | switchFailed answer | switchRaised answer =>
    exact Recorded.Engine.switches_append (Recorded.Engine.calls_redirect answer)

/-- The two copies of the gateway: what is stored is what a start in flight goes by, and what the
engine of an open session uses. -/
structure InUse (s : Session (Recorded.Engine ε) ι) : Prop where
  starting : ∀ descriptor params, s.flight = some (.start descriptor params) →
    s.store.get? .gateway = some params.gateway
  running : s.phase.isOpen = true →
    ∃ g, s.engine.gateway? = some g ∧ s.store.get? .gateway = some g

omit [Engine ε] in
/-- A start goes by the gateway that is stored when it enters. -/
theorem enters_start_inUse (h : Enters s .start none t) : InUse t := by
  cases h with
  | starting free idle plan answer =>
    refine ⟨?_, nofun⟩
    intro descriptor params taken
    cases taken
    exact plan_gateway plan

omit [Engine ε] in
theorem enters_inUse {r : Request} {ended : Option Verdict} (h : Enters s r ended t)
    (uses : InUse s) : InUse t := by
  cases h with
  | busy | startOutOfPhase | unplanned | denied | stopIdle | stopOutOfPhase | switchAway =>
    exact ⟨uses.starting, uses.running⟩
  | raised => exact ⟨uses.starting, nofun⟩
  | starting free idle plan answer => exact enters_start_inUse (.starting free idle plan answer)
  | stopping free active | switching free active =>
    refine ⟨nofun, fun _ => uses.running ?_⟩
    rw [active]
    rfl

theorem finishes_inUse {flight : Flight} {v : Verdict} (h : Finishes s flight v t)
    (taken : s.flight = some flight) (uses : InUse s) : InUse t := by
  refine ⟨?_, ?_⟩
  · intro _ _ taken
    rw [finishes_flight h] at taken
    cases taken
  · intro isOpen
    cases h with
    | @started d p answer =>
      have used := Recorded.Engine.gateway?_append (Recorded.Engine.calls_start answer)
      exact ⟨p.gateway, used, uses.starting d p taken⟩
    | startFailed | startRaised | stopped => cases isOpen
    | @switched target answer =>
      have used := Recorded.Engine.gateway?_append (Recorded.Engine.calls_redirect answer)
      exact ⟨target.address.text, used, Store.get?_save _ _ _⟩
    | switchFailed answer | switchRaised answer =>
      have used := Recorded.Engine.gateway?_append (Recorded.Engine.calls_redirect answer)
      obtain ⟨g, before, stored⟩ := uses.running isOpen
      exact ⟨g, used.trans before, stored⟩

omit [TunnelInterface ι] in
theorem reconcile_inUse (uses : InUse s) : InUse s.reconcile.2 := by
  rcases s.reconcile_cases with same | ⟨_, _, _, dropped⟩
  · rwa [same]
  · rw [dropped]
    exact ⟨uses.starting, nofun⟩

end Copies

section Runs

variable {ε ι : Type} [Engine ε] [TunnelInterface ι] {u : Surroundings ε ι}
  {s t : Session (Recorded.Engine ε) (Recorded.Interface ι)}

theorem step_switches {e : Event} (h : Step (Recorded.surroundings u) s e t) :
    t.engine.switches = s.engine.switches ++ e.updated?.toList := by
  cases h with
  | enter h =>
    have enters := enters_of_eq h
    simp [(enters_frame enters).1, enters_updated enters]
  | finish h =>
    obtain ⟨_, _, _, finishes⟩ := finishes_of_eq h
    exact finishes_switches finishes
  | reconcile =>
    rcases s.reconcile_cases with same | ⟨_, _, _, dropped⟩
    · simp [same, Event.updated?, Event.ending?]
    · simp [dropped, Event.updated?, Event.ending?]
  | engine _ h => simp [Recorded.Engine.switches, h.2, Event.updated?, Event.ending?]
  | edit | interface | poll => simp [Event.updated?, Event.ending?]

/-- The engine accepted the addresses that the switches were answered with. -/
theorem run_switches {history : List Event} (run : Run (Recorded.surroundings u) s history t) :
    t.engine.switches = s.engine.switches ++ history.filterMap Event.updated? := by
  induction run with
  | start => simp
  | @next _ _ e _ _ step ih =>
    rw [step_switches step, ih, List.append_assoc, List.filterMap_append]
    cases updated : e.updated? <;> simp [updated]

/-- Only a gateway saved by hand parts the two copies. -/
theorem step_inUse {e : Event} (h : Step (Recorded.surroundings u) s e t)
    (unsaved : ∀ value, e ≠ .edit (.save .gateway value)) (uses : InUse s) : InUse t := by
  cases h with
  | enter h => exact enters_inUse (enters_of_eq h) uses
  | finish h =>
    obtain ⟨_, taken, _, finishes⟩ := finishes_of_eq h
    exact finishes_inUse finishes taken uses
  | reconcile => exact reconcile_inUse uses
  | edit e =>
    have kept : e.gateway? = none := e.gateway?_eq_none fun value eq => unsaved value (by rw [eq])
    have stored : (e.apply s.store).get? .gateway = s.store.get? .gateway := by
      rw [Store.get?, e.apply_settings, e.change_gateway, kept]
      rfl
    refine ⟨?_, ?_⟩
    · intro descriptor params taken
      exact stored.trans (uses.starting descriptor params taken)
    · intro isOpen
      obtain ⟨g, used, before⟩ := uses.running isOpen
      exact ⟨g, used, stored.trans before⟩
  | engine engine h =>
    have same : engine.gateway? = s.engine.gateway? := by
      rw [Recorded.Engine.gateway?, h.2, Recorded.Engine.gateway?]
    refine ⟨uses.starting, ?_⟩
    intro isOpen
    obtain ⟨g, used, stored⟩ := uses.running isOpen
    exact ⟨g, same.trans used, stored⟩
  | interface | poll => exact ⟨uses.starting, uses.running⟩

theorem run_inUse {history : List Event} (run : Run (Recorded.surroundings u) s history t)
    (unsaved : ∀ value, .edit (.save .gateway value) ∉ history) (uses : InUse s) : InUse t := by
  induction run with
  | start => exact uses
  | next _ step ih =>
    simp only [List.mem_append, List.mem_singleton, not_or] at unsaved
    exact step_inUse step (fun value => Ne.symm (unsaved value).2) (ih fun value => (unsaved value).1)

/-- Since a start read its settings, only a gateway saved by hand parts the two copies. -/
theorem run_inUse_from_start {earlier later : List Event}
    (run : Run (Recorded.surroundings u) s (earlier ++ .enter .start none :: later) t)
    (unsaved : ∀ value, .edit (.save .gateway value) ∉ later) : InUse t := by
  rw [List.append_cons] at run
  obtain ⟨_, first, second⟩ := run_split run
  obtain ⟨_, _, step⟩ := run_concat first
  cases step with
  | enter h => exact run_inUse second unsaved (enters_start_inUse (enters_of_eq h))

end Runs

end Session

namespace Dispatcher

open Session

variable {ε ι : Type} [Engine ε] [TunnelInterface ι]

/-- **The stored gateway records what was accepted.** Take any run of a session, by direct calls and
through a front end, with any settings saved directly, over any engine and any interface. What is
stored as the gateway is what was last saved as one directly, or the text of the address that a
switch was last answered with, whichever came later, and what was there at first without either;
such a text is read back as its address. These addresses are those that the engine accepted, in the
same order. Whatever is not an edit changes no other setting and no excluded application. If no
gateway was saved directly since a start read its settings, the stored gateway is the one in use. -/
theorem gateway_recorded {u : Surroundings ε ι} {store : Store} {engine : ε} {interface : ι}
    {host storage : String} {history : List Event}
    {d : Dispatcher (Recorded.Engine ε) (Recorded.Interface ι)}
    (run : Run (Recorded.surroundings u)
      (Recorded.fresh store engine interface host storage) history d) :
    d.session.store.get? .gateway =
      ((history.filterMap Event.gateway?).getLast?).or (store.get? .gateway) ∧
    (∀ e ∈ history, ∀ a, e.updated? = some a →
      (∃ target : Candidate, e = .finish (.switch target) (.updated target.address) ∧
        target.address = a) ∧ Address.parse? a.text = some a) ∧
    d.session.engine.switches = history.filterMap Event.updated? ∧
    (∀ e d', Step (Recorded.surroundings u) d e d' → (∀ edit, e ≠ .edit edit) →
      (∀ name, name ≠ Settings.Key.gateway.text →
        d'.session.store.settings.values[name]? = d.session.store.settings.values[name]?) ∧
      d'.session.store.settings.excluded = d.session.store.settings.excluded) ∧
    (∀ earlier later, history = earlier ++ .enter .start none :: later →
      (∀ value, .edit (.save .gateway value) ∉ later) → InUse d.session) := by
  have switches := run_switches run.session
  refine ⟨run_gateway run.session, ?_, switches, ?_, ?_⟩
  · intro e mem a updated
    exact ⟨run_updated run.session e mem a updated, a.parse?_text⟩
  · intro e d' step unedited
    rw [step_settings step.session]
    exact Event.stores_others unedited _
  · intro earlier later same unsaved
    subst same
    exact run_inUse_from_start run.session unsaved

/-- A start that is held while the user types another name, a switch that the engine accepts and one
that it rejects: the accepted one is stored, and in use. -/
theorem gateway_recorded_over_rejection : ∃ history d,
    Run (Recorded.surroundings Scripted.surroundings)
      (Recorded.overScript {} (.knowing none)) history d ∧
    d.session.store.get? .gateway = some "172.20.0.8" ∧
    d.session.engine.switches = [⟨172, 20, 0, 8⟩] ∧
    d.session.engine.gateway? = d.session.store.get? .gateway := by
  have begun : Run (Recorded.surroundings Scripted.surroundings)
      (Recorded.overScript {} (.knowing none)) [] _ := .start
  have held := begun.next (.dispatch (r := .start) rfl)
  have named := held.next (.direct (.edit _ (.save .name "laptop")))
  have active := named.next (.settle rfl)
  have asked := active.next (.dispatch (r := .switch ⟨0, "router", ⟨172, 20, 0, 8⟩⟩) rfl)
  have switched := asked.next (.settle rfl)
  have rejecting := switched.next (.direct (.engine
    ⟨{ plain := { running := true, rejection := some "unreachable" } }, _⟩ ⟨trivial, rfl⟩))
  have again := rejecting.next (.dispatch (r := .switch ⟨0, "router", ⟨172, 20, 0, 9⟩⟩) rfl)
  have last := again.next (.settle rfl)
  obtain ⟨stored, _, switches, _, since⟩ := gateway_recorded last
  have unsaved := since [] _ rfl (by simp)
  obtain ⟨g, used, same⟩ := unsaved.running rfl
  have text : Address.text ⟨172, 20, 0, 8⟩ = "172.20.0.8" := by decide +kernel
  exact ⟨_, _, last, stored.trans (congrArg some text), switches, used.trans same.symm⟩

end Dispatcher

end TunnelSession
