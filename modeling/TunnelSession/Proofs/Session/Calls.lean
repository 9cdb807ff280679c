import TunnelSession.Proofs.Session.Run

/-!
Whole requests. A request may be held in the engine while other things happen to its session:

* `Session.Meanwhile`: what can happen to a session while a request is held, and `run_held`: nothing
  moves it, and its settings change by edits only;
* `Session.Call`: a request made directly, with what happened meanwhile, how it ended and what it
  left; `call_nil_iff`: with nothing in between it is `perform`;
* `Dispatcher.Attempt`: a request that was dispatched, with the outcome that it reported;
  `Attempt.call`: it does what the direct call does.
-/

namespace TunnelSession

/-- What an edit does to the settings. -/
def Edit.change : Edit → Settings → Settings
  | .save key value, settings => settings.set key value
  | .saveExcluded apps, settings => { settings with excluded := some apps }
  | .folder _, settings => settings

theorem Edit.apply_settings (e : Edit) (s : Store) :
    (e.apply s).settings = e.change s.settings := by
  cases e with
  | save key value => exact Store.persist_settings _
  | saveExcluded apps => exact Store.persist_settings _
  | folder dir => rfl

namespace Session

/-- Whether the request in flight ended at an event. -/
def Event.isLanding : Event → Bool
  | .finish _ _ => true
  | _ => false

def Event.change : Event → Settings → Settings
  | .edit e => e.change
  | _ => id

/-- The settings after all edits of a history. -/
def edited (history : List Event) (settings : Settings) : Settings :=
  history.foldl (fun settings e => e.change settings) settings

@[simp] theorem edited_nil (settings : Settings) : edited [] settings = settings := rfl

@[simp] theorem edited_append (history : List Event) (e : Event) (settings : Settings) :
    edited (history ++ [e]) settings = e.change (edited history settings) := by
  simp [edited]

section Held

variable {ε ι : Type} [Engine ε] [TunnelInterface ι]

/-- What can happen while a request is held. -/
inductive Meanwhile (u : Surroundings ε ι) (s : Session ε ι) : Event → Session ε ι → Prop
  | busy (r) : Meanwhile u s (.enter r (some (.refused .busy))) s
  | reconcile : Meanwhile u s (.reconcile false) s
  | edit (e : Edit) : Meanwhile u s (.edit e) { s with store := e.apply s.store }
  | engine {engine} (h : u.engine s.engine engine) : Meanwhile u s .drift { s with engine }
  | interface {interface} (h : u.interface s.interface interface) :
      Meanwhile u s .drift { s with interface }
  | poll : Meanwhile u s .poll s

variable {u : Surroundings ε ι} {s t : Session ε ι}

theorem step_meanwhile {e : Event} (h : Step u s e t) (taken : s.flight ≠ none)
    (waits : e.isLanding = false) : Meanwhile u s e t := by
  cases h with
  | enter h =>
    cases enters_of_eq h with
    | busy => exact .busy _
    | _ => contradiction
  | finish => simp [Event.isLanding] at waits
  | reconcile =>
    rcases s.reconcile_cases with same | ⟨free, _⟩
    · rw [same, Bool.and_not_self]
      exact .reconcile
    · contradiction
  | edit e => exact .edit e
  | engine _ h => exact .engine h
  | interface _ h => exact .interface h
  | poll => exact .poll

/-- While a request is held, only its own end moves the session. -/
theorem step_held {e : Event} (h : Step u s e t) (taken : s.flight ≠ none)
    (waits : e.isLanding = false) :
    t.flight = s.flight ∧ t.phase = s.phase ∧ t.store.settings = e.change s.store.settings := by
  cases step_meanwhile h taken waits with
  | edit e => exact ⟨rfl, rfl, e.apply_settings _⟩
  | busy | reconcile | engine | interface | poll => exact ⟨rfl, rfl, rfl⟩

theorem run_held {history : List Event} (run : Run u s history t) (taken : s.flight ≠ none)
    (waits : ∀ e ∈ history, e.isLanding = false) :
    t.flight = s.flight ∧ t.phase = s.phase ∧
      t.store.settings = edited history s.store.settings := by
  induction run with
  | start => exact ⟨rfl, rfl, rfl⟩
  | next _ step ih =>
    simp only [List.mem_append, List.mem_singleton] at waits
    obtain ⟨flight, phase, settings⟩ := ih fun e mem => waits e (.inl mem)
    have still := step_held step (by rwa [flight]) (waits _ (.inr rfl))
    refine ⟨still.1.trans flight, still.2.1.trans phase, ?_⟩
    rw [still.2.2, settings, edited_append]

theorem run_nil (run : Run u s [] t) : t = s := by
  generalize eq : ([] : List Event) = history at run
  cases run with
  | start => rfl
  | next => simp at eq

end Held

section Calls

variable {ε ι : Type} [Engine ε] [TunnelInterface ι] (u : Surroundings ε ι)

/-- A request made on `s` directly, with what happened while it was held, its verdict and the
session that it left. -/
inductive Call (s : Session ε ι) (r : Request) : List Event → Verdict → Session ε ι → Prop
  | atOnce {v t} (ended : s.enter r = (some v, t)) : Call s r [] v t
  | held {s₁ s₂ meanwhile v t} (entered : s.enter r = (none, s₁))
      (between : Run u s₁ meanwhile s₂) (waits : ∀ e ∈ meanwhile, e.isLanding = false)
      (ended : s₂.finish = (some (r, v), t)) : Call s r meanwhile v t

variable {u} {s t : Session ε ι} {r : Request} {v : Verdict} {meanwhile : List Event}

/-- A request that nothing comes in between of is both its halves at once. -/
theorem call_nil_iff : Call u s r [] v t ↔ s.perform r = (v, t) := by
  constructor
  · intro call
    generalize eq : ([] : List Event) = meanwhile at call
    cases call with
    | atOnce ended => simp only [perform, ended]
    | held entered between _ ended =>
      subst eq
      rw [run_nil between] at ended
      simp only [perform, entered, ended]
  · intro performed
    rcases first : s.enter r with ⟨_ | w, s₁⟩
    · obtain ⟨flight, taken, same⟩ := enters_flight (enters_of_eq first)
      obtain ⟨w, t', second, _⟩ := finish_finishes taken
      simp only [perform, first, second, Prod.mk.injEq] at performed
      obtain ⟨rfl, rfl⟩ := performed
      rw [same] at second
      exact .held first .start nofun second
    · simp only [perform, first, Prod.mk.injEq] at performed
      obtain ⟨rfl, rfl⟩ := performed
      exact .atOnce first

/-- A request that has ended has freed the slot. -/
theorem Call.frees (call : Call u s r meanwhile v t) (free : s.flight = none) :
    t.flight = none := by
  cases call with
  | atOnce ended => exact enters_free (enters_of_eq ended) free
  | held _ _ _ ended =>
    obtain ⟨_, _, _, finishes⟩ := finishes_of_eq ended
    cases finishes <;> rfl

end Calls

end Session

namespace Dispatcher

open Session

variable {ε ι : Type} [Engine ε] [TunnelInterface ι] (u : Surroundings ε ι)

/-- A request that a front end dispatched on `d`, with what happened while it was held, the outcome
that it put at the end of the queue, and what it left. -/
inductive Attempt (d : Dispatcher ε ι) (r : Request) :
    List Event → Outcome → Dispatcher ε ι → Prop
  | atOnce {d' o} (accepted : d.dispatch r = (none, d'))
      (reported : d'.outcomes = d.outcomes ++ [o]) : Attempt d r [] o d'
  | held {d₁ d₂ meanwhile o} (accepted : d.dispatch r = (none, d₁))
      (inFlight : d₁.session.flight ≠ none) (between : Run u d₁ meanwhile d₂)
      (waits : ∀ e ∈ meanwhile, e.isLanding = false)
      (reported : d₂.settle.outcomes = d₂.outcomes ++ [o]) : Attempt d r meanwhile o d₂.settle

variable {u} {d d' : Dispatcher ε ι} {r : Request}

omit [Engine ε] in
/-- Only a request that finds the slot free is accepted. -/
theorem free_of_accepted (accepted : d.dispatch r = (none, d')) : d.session.flight = none := by
  rcases d.dispatch_cases r with ⟨_, busy⟩ | ⟨free, _⟩
  · rw [busy] at accepted
    simp at accepted
  · exact free

omit [Engine ε] in
theorem eq_of_accepted (accepted : d.dispatch r = (none, d')) : d' = ⟨(d.session.enter r).2,
    d.outcomes ++ ((d.session.enter r).1.bind (Outcome.of? r)).toList⟩ := by
  rw [dispatch_free d r (free_of_accepted accepted)] at accepted
  exact (congrArg Prod.snd accepted).symm

omit [Engine ε] in
/-- A request that is in flight once it was accepted has not ended yet. -/
theorem enter_of_inFlight (accepted : d.dispatch r = (none, d'))
    (inFlight : d'.session.flight ≠ none) : d.session.enter r = (none, d'.session) := by
  have eq := eq_of_accepted accepted
  rcases first : d.session.enter r with ⟨_ | v, s⟩
  · rw [eq, first]
  · have free := enters_free (enters_of_eq first) (free_of_accepted accepted)
    rw [eq, first] at inFlight
    contradiction

/-- An attempt is a direct call on the session, and reports the outcome of its verdict. -/
theorem Attempt.call {meanwhile : List Event} {o : Outcome} (h : Attempt u d r meanwhile o d') :
    d.session.flight = none ∧ ∃ v, Call u d.session r meanwhile v d'.session ∧
      Outcome.of? r v = some o := by
  cases h with
  | atOnce accepted reported =>
    refine ⟨free_of_accepted accepted, ?_⟩
    rw [eq_of_accepted accepted] at reported ⊢
    rcases first : d.session.enter r with ⟨_ | v, s⟩
    · simp [first] at reported
    · have outcome : Outcome.of? r v = some o := by simpa [first] using reported
      exact ⟨v, .atOnce first, outcome⟩
  | held accepted inFlight between waits reported =>
    refine ⟨free_of_accepted accepted, ?_⟩
    have entered := enter_of_inFlight accepted inFlight
    obtain ⟨flight, taken, same⟩ := enters_flight (enters_of_eq entered)
    have still := (run_held between.session inFlight waits).1.trans taken
    obtain ⟨v, t, ended, _⟩ := finish_finishes still
    rw [same] at ended
    rw [settle_eq, ended] at reported ⊢
    have outcome : Outcome.of? r v = some o := by simpa using reported
    exact ⟨v, .held entered between.session waits ended, outcome⟩

end Dispatcher

end TunnelSession
