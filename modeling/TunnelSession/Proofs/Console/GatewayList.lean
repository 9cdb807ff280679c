import TunnelSession.Proofs.Console.GatewayRow
import TunnelSession.Proofs.Console.Run
import TunnelSession.Proofs.Neighbors

/-!
The list of gateways, and the pick from it. While stop is enabled, a line to edit the gateway's row
lists the neighbors by number, or switches to the one of a number. The numbers are not kept from the
one line to the other: a pick counts through the neighbors of its own moment.

* `NamesGateway`: the line is one to edit the gateway's row, with `lists_eq`, `pick_unknown` and
  `pick_known` for what it does;
* `run_unstirred`: no more than its own doings and the calls on it change an engine;
* `gateway_picked_by_place` puts these together, and `picked_beside_shown` is a pick that goes to
  another neighbor than the one that was listed under its number.
-/

namespace TunnelSession

open Session

/-- The engine is called, or may change by itself. -/
def Session.Event.stirs : Session.Event → Bool
  | .finish _ _ | .drift => true
  | _ => false

section Neighbors

variable {ε ι : Type} [Engine ε] {s : Session ε ι} {k : Nat} {target : Candidate}

theorem Session.neighbors_active (active : s.phase = .active) :
    s.neighbors = Engine.neighbors s.engine := by
  simp only [neighbors, isRunning, active, decide_true, ↓reduceIte]

/-- Only an active session has candidates. -/
theorem Session.active_of_candidate (known : s.neighbors.candidates[k]? = some target) :
    s.phase = .active := by
  by_contra inactive
  simp [neighbors, isRunning, inactive, Snapshot.empty, Snapshot.candidates] at known

end Neighbors

namespace Console

/-- The line is one to edit the gateway's row. -/
def NamesGateway (line : String) : Prop :=
  commandWord line = "edit".toList ∧
    ∃ i, Text.Denotes (rowWord line) (i + 1) ∧ Menu.Row.all[i]? = some (.key .gateway)

/-- The engine is called, or may change by itself. -/
def Event.stirs : Event → Bool
  | .settle _ _ => true
  | .direct e => e.stirs
  | _ => false

section Lines

variable {ε ι : Type} [Engine ε] [TunnelInterface ι] {c : Console ε ι} {line : String} {k : Nat}

theorem NamesGateway.handle_eq (names : NamesGateway line) (enabled : c.controls.stop = true) :
    (c.handle line).lines = (c.chooseGateway (givenValue line)).1 ∧
    (c.handle line).console = (c.chooseGateway (givenValue line)).2 := by
  obtain ⟨command, i, row, place⟩ := names
  simp only [handle, run_gateway command row place enabled, and_self]

/-- Without a value, the line prints the candidates and changes nothing. -/
theorem NamesGateway.lists_eq (names : NamesGateway line) (enabled : c.controls.stop = true)
    (blank : givenValue line = []) :
    (c.handle line).lines = c.dispatcher.session.neighbors.candidates.mapIdx candidateLine ∧
    (c.handle line).console = c := by
  obtain ⟨lines, console⟩ := names.handle_eq enabled
  rw [lines, console]
  simp only [chooseGateway, blank, ↓reduceIte, and_self]

theorem NamesGateway.pick_unknown (names : NamesGateway line) (enabled : c.controls.stop = true)
    (number : Text.Denotes (givenValue line) (k + 1))
    (unknown : c.dispatcher.session.neighbors.candidates[k]? = none) :
    (c.handle line).lines = ["no such neighbor: " ++ String.ofList (givenValue line)] ∧
    (c.handle line).console = c := by
  obtain ⟨lines, console⟩ := names.handle_eq enabled
  rw [lines, console]
  simp only [chooseGateway, number.ne_nil, ↓reduceIte, number.bind_position?, unknown, and_self]

/-- A pick puts the switch to a candidate of its own moment in flight. -/
theorem NamesGateway.pick_known (names : NamesGateway line) (enabled : c.controls.stop = true)
    (number : Text.Denotes (givenValue line) (k + 1)) {target : Candidate}
    (known : c.dispatcher.session.neighbors.candidates[k]? = some target)
    (free : c.dispatcher.session.flight = none) :
    (c.handle line).console.dispatcher.session.flight = some (.switch target) := by
  obtain ⟨command, i, row, place⟩ := names
  have asks : Asks c line (.switch target) := .switch command row place enabled number known
  rw [asks.dispatcher_eq, Dispatcher.dispatch_session]
  have active := active_of_candidate known
  simp [enter, free, enterSwitch, isRunning, active]

end Lines

section Runs

variable {ε ι : Type} [Engine ε] [TunnelInterface ι] {u : Surroundings ε ι}
  {c t next : Console ε ι} {e : Event} {history : List Event}

theorem step_unstirred (step : Step u c e next) (calm : e.stirs = false) :
    next.dispatcher.session.engine = c.dispatcher.session.engine := by
  cases step with
  | line text =>
    have acts := handle_acts c text
    generalize (c.handle text).console = next at *
    cases acts with
    | asks names dispatched =>
      have session := c.dispatcher.dispatch_session ‹_›
      rw [dispatched] at session
      change _ = c.dispatcher.session.engine
      rw [session]
      exact (enters_frame (enter_enters _ _)).1
    | sets | commits | redraws | idle => rfl
  | settle => cases calm
  | outcome first =>
    unfold onOutcome
    split <;> rfl
  | direct h =>
    cases h with
    | enter h => exact (enters_frame (enters_of_eq h)).1
    | finish | engine | interface => cases calm
    | reconcile =>
      rcases c.dispatcher.session.reconcile_cases with same | ⟨_, _, _, dropped⟩
      · rw [same]
      · rw [dropped]
    | edit | poll => rfl
  | installs => rfl

theorem run_unstirred (run : Run u c history t) (calm : ∀ e ∈ history, e.stirs = false) :
    t.dispatcher.session.engine = c.dispatcher.session.engine := by
  induction run with
  | start => rfl
  | @next history d e t _ step ih =>
    have last := step_unstirred step (calm e (by simp))
    exact last.trans (ih fun e mem => calm e (List.mem_append_left _ mem))

/-- **A gateway is picked by its place at the moment of the pick.** Take any console, a line that
lists the gateways on it, any run from there, and a line that picks number `k + 1` while the session
is active and no request is in flight. The listing has the candidate in place `k` under that number.
The pick asks for the neighbor that is in place `k` by then, if there is one, and is refused
otherwise. So it asks for an address that was listed under its number exactly if the lower addresses
among the neighbors are not more than `k` by then, and those not higher are more than `k`. If the
engine was not called and did not change by itself in between, the gateway picked is the one
listed. -/
theorem gateway_picked_by_place {listing pick : String} {k : Nat}
    (lists : NamesGateway listing) (blank : givenValue listing = [])
    (enabled : c.controls.stop = true) (run : Run u (c.handle listing).console history t)
    (picks : NamesGateway pick) (number : Text.Denotes (givenValue pick) (k + 1))
    (enabled' : t.controls.stop = true) (active : t.dispatcher.session.phase = .active)
    (free : t.dispatcher.session.flight = none)
    (ascending : t.dispatcher.session.neighbors.Ascending) :
    let before := c.dispatcher.session.neighbors
    let now := t.dispatcher.session.neighbors
    let asked := (t.handle pick).console.dispatcher.session.flight
    (∀ shown, before.candidates[k]? = some shown →
      (c.handle listing).lines[k]? = some (candidateLine k shown)) ∧
    (∀ target, now.candidates[k]? = some target → asked = some (.switch target)) ∧
    (now.candidates[k]? = none → (t.handle pick).console = t ∧
      (t.handle pick).lines = ["no such neighbor: " ++ String.ofList (givenValue pick)]) ∧
    ∀ shown, before.candidates[k]? = some shown →
      ((∃ target, asked = some (.switch target) ∧ target.address = shown.address) ↔
        now.below shown.address ≤ k ∧ k < now.upTo shown.address) ∧
      ((∀ e ∈ history, e.stirs = false) → asked = some (.switch shown)) := by
  intro before now asked
  obtain ⟨lines, console⟩ := lists.lists_eq enabled blank
  have known {target : Candidate} (there : now.candidates[k]? = some target) :
      asked = some (.switch target) := picks.pick_known enabled' number there free
  refine ⟨?_, fun target => known, ?_, fun shown was => ⟨?_, fun calm => ?_⟩⟩
  · intro shown was
    rw [lines, List.getElem?_mapIdx, was]
    rfl
  · intro unknown
    exact (picks.pick_unknown enabled' number unknown).symm
  · cases there : now.get? k with
    | none =>
      have unknown : now.candidates[k]? = none := by
        rw [Snapshot.getElem?_candidates, there]
        rfl
      have refused : asked = none := by
        change (t.handle pick).console.dispatcher.session.flight = none
        rw [(picks.pick_unknown enabled' number unknown).2, free]
      have short : now.upTo shown.address ≤ k :=
        Nat.le_trans List.countP_le_length (List.getElem?_eq_none_iff.mp there)
      simp only [refused, reduceCtorEq, false_and, exists_false, false_iff]
      omega
    | some n =>
      have target : asked = some (.switch ⟨k, n.name, n.address⟩) := by
        apply known
        rw [Snapshot.getElem?_candidates, there]
        rfl
      rw [← ascending.address_iff there, target]
      simp
  · have engine := run_unstirred run calm
    rw [console] at engine
    apply known
    rw [← was]
    change t.dispatcher.session.neighbors.candidates[k]? =
      c.dispatcher.session.neighbors.candidates[k]?
    rw [neighbors_active active, neighbors_active (active_of_candidate was), engine]

end Runs

section Newcomer

variable {c : Console (Recorded.Engine Scripted.Engine) (Recorded.Interface Scripted.Interface)}

/-- The engine has found another neighbor, before the one that it had. -/
def withNewcomer
    (c : Console (Recorded.Engine Scripted.Engine) (Recorded.Interface Scripted.Interface)) :
    Console (Recorded.Engine Scripted.Engine) (Recorded.Interface Scripted.Interface) :=
  { c with dispatcher.session.engine :=
    { c.dispatcher.session.engine with
      inner := c.dispatcher.session.engine.inner.mapPlain fun e => { e with
        neighbors := ⟨[⟨⟨172, 20, 0, 2⟩, "desktop"⟩, ⟨⟨172, 20, 0, 8⟩, "router"⟩]⟩ } } }

theorem newcomer_run : Run (Recorded.surroundings Scripted.surroundings) c [.direct .drift]
    (withNewcomer c) :=
  Run.start.next (.direct (.engine _ ⟨trivial, rfl⟩))

/-- A console whose session was started, over an engine with one neighbor. -/
def overRouter :
    Console (Recorded.Engine Scripted.Engine) (Recorded.Interface Scripted.Interface) :=
  let c := ((connect Typing.overNeighbor []).handle "start").console.settle
  ({ c with dispatcher.outcomes := [] }.onOutcome .started).2

theorem overRouter_run : Run (Recorded.surroundings Scripted.surroundings)
    (connect Typing.overNeighbor []) [.line "start", .settle .start .done, .outcome .started]
    overRouter :=
  ((Run.start.next (.line "start")).next (.settle rfl)).next (.outcome rfl)

/-- A neighbor that turns up between listing and pick is picked in the place of the one listed,
which is still there. -/
theorem picked_beside_shown : ∃ history t,
    Run (Recorded.surroundings Scripted.surroundings) (connect Typing.overNeighbor []) history
      overRouter ∧
    (overRouter.handle "edit 3").lines = ["  [1] router  172.20.0.8"] ∧
    Run (Recorded.surroundings Scripted.surroundings) (overRouter.handle "edit 3").console
      [.direct .drift] t ∧
    t.dispatcher.session.phase = .active ∧
    t.dispatcher.session.neighbors.get? 1 = some ⟨⟨172, 20, 0, 8⟩, "router"⟩ ∧
    (t.handle "edit 3 1").console.dispatcher.session.flight =
      some (.switch ⟨0, "desktop", ⟨172, 20, 0, 2⟩⟩) :=
  ⟨_, _, overRouter_run, by decide, newcomer_run, by decide, by decide,
    by decide⟩

theorem namesGateway_of_position {line : String} (command : commandWord line = "edit".toList)
    (row : Text.position? (rowWord line) = some 2) : NamesGateway line :=
  ⟨command, 2, Text.position?_eq_some_iff.mp row, rfl⟩

/-- The one listed is not picked, since there is a lower address by then. -/
theorem gateway_picked_by_place_over_newcomer : ∃ t,
    Run (Recorded.surroundings Scripted.surroundings) (overRouter.handle "edit 3").console
      [.direct .drift] t ∧
    t.dispatcher.session.neighbors.below ⟨172, 20, 0, 8⟩ = 1 ∧
    ¬ ∃ target, (t.handle "edit 3 1").console.dispatcher.session.flight =
      some (.switch target) ∧ target.address = ⟨172, 20, 0, 8⟩ := by
  have names : NamesGateway "edit 3" :=
    namesGateway_of_position (by decide) (by decide)
  have picks : NamesGateway "edit 3 1" :=
    namesGateway_of_position (by decide) (by decide)
  have number : Text.Denotes (givenValue "edit 3 1") 1 :=
    Text.position?_eq_some_iff.mp (by decide)
  have ascending : Snapshot.Ascending
      (withNewcomer (overRouter.handle "edit 3").console).dispatcher.session.neighbors := by
    have two : (withNewcomer (overRouter.handle "edit 3").console).dispatcher.session.neighbors =
        ⟨[⟨⟨172, 20, 0, 2⟩, "desktop"⟩, ⟨⟨172, 20, 0, 8⟩, "router"⟩]⟩ := by decide
    rw [two]
    exact List.pairwise_pair.mpr (by decide)
  obtain ⟨_, _, _, exact⟩ := gateway_picked_by_place names (by decide) (by decide)
    newcomer_run picks number (by decide) (by decide) (by decide) ascending
  obtain ⟨iff, _⟩ := exact ⟨0, "router", ⟨172, 20, 0, 8⟩⟩ (by decide)
  refine ⟨_, newcomer_run, by decide, fun asked => ?_⟩
  obtain ⟨below, _⟩ := iff.mp asked
  exact absurd below (by decide)

end Newcomer

end Console

end TunnelSession
