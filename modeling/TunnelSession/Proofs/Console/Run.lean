import TunnelSession.Proofs.Console.Scope

/-!
Runs of a console. What happens to a console is a line that it handles, an end of the request in
flight, an outcome that it handles, or anything done beside it: to the session directly, or to the
installed applications.

* `Run`: these events in any order;
* `step_excluded`: only a line that commits a draft changes the excluded set, if nothing beside the
  console saves one.
-/

namespace TunnelSession

/-- An edit saves a set of excluded applications. -/
def Edit.excludes : Edit → Bool
  | .saveExcluded _ => true
  | _ => false

def Session.Event.excludes : Session.Event → Bool
  | .edit e => e.excludes
  | _ => false

theorem Session.Event.stores_excluded {e : Session.Event} (other : e.excludes = false)
    (settings : Settings) : (e.stores settings).excluded = settings.excluded := by
  cases e with
  | edit edit =>
    cases edit with
    | save | folder => rfl
    | saveExcluded => cases other
  | enter r ended => exact (Session.Event.stores_others (by simp) settings).2
  | finish r verdict => exact (Session.Event.stores_others (by simp) settings).2
  | reconcile | drift | poll => rfl

namespace Console

/-- `direct` is what happens to the session other than through the console. -/
inductive Event where
  | line (text : String)
  | settle (r : Session.Request) (verdict : Session.Verdict)
  | outcome (o : Outcome)
  | direct (e : Session.Event)
  | installs (apps : List InstalledApp)

/-- Another than the console saves a set of excluded applications. -/
def Event.excludes : Event → Bool
  | .direct e => e.excludes
  | _ => false

section Runs

variable {ε ι : Type} [Engine ε] [TunnelInterface ι] (u : Surroundings ε ι)

inductive Step (c : Console ε ι) : Event → Console ε ι → Prop
  | line (text : String) : Step c (.line text) (c.handle text).console
  | settle {r verdict session} (h : c.dispatcher.session.finish = (some (r, verdict), session)) :
      Step c (.settle r verdict) c.settle
  | outcome {o outcomes} (first : c.dispatcher.outcomes = o :: outcomes) :
      Step c (.outcome o) ({ c with dispatcher.outcomes := outcomes }.onOutcome o).2
  | direct {e session} (h : Session.Step u c.dispatcher.session e session) :
      Step c (.direct e) { c with dispatcher.session := session }
  | installs (apps : List InstalledApp) : Step c (.installs apps) { c with installed := apps }

/-- The events of a run, the oldest first, and the console that they lead to. -/
inductive Run (start : Console ε ι) : List Event → Console ε ι → Prop
  | start : Run start [] start
  | next {history c e next} : Run start history c → Step u c e next →
      Run start (history ++ [e]) next

end Runs

section Excluded

variable {ε ι : Type}

/-- The excluded applications that are saved. -/
def excluded (c : Console ε ι) : Option AppSet := c.store.settings.excluded

variable [TunnelInterface ι]

theorem onOutcome_others (c : Console ε ι) (o : Outcome) :
    (c.onOutcome o).2.store = c.store ∧ (c.onOutcome o).2.dialog = c.dialog := by
  unfold onOutcome
  split <;> exact ⟨rfl, rfl⟩

variable [Engine ε] {u : Surroundings ε ι} {c next : Console ε ι} {e : Event}

/-- Lines apart, nothing changes the dialog, and nothing through the console the excluded set. -/
theorem step_others (step : Step u c e next) (other : ∀ text, e ≠ .line text)
    (alone : e.excludes = false) :
    next.dialog = c.dialog ∧ next.excluded = c.excluded := by
  cases step with
  | line text => exact absurd rfl (other text)
  | settle h =>
    have finishes := Session.step_settings (Dispatcher.Step.settle (u := u) h).session
    refine ⟨rfl, ?_⟩
    rw [excluded, store, settle, finishes, Session.Event.stores_excluded rfl]
    rfl
  | outcome first =>
    obtain ⟨store, dialog⟩ := onOutcome_others { c with dispatcher.outcomes := _ } _
    exact ⟨dialog, congrArg (·.settings.excluded) store⟩
  | direct h =>
    refine ⟨rfl, ?_⟩
    change _ = c.dispatcher.session.store.settings.excluded
    rw [← Session.Event.stores_excluded alone, ← Session.step_settings h]
    rfl
  | installs => exact ⟨rfl, rfl⟩

/-- Only a line that commits the open dialog changes the excluded set. -/
theorem step_excluded (step : Step u c e next) (alone : e.excludes = false) :
    next.excluded = c.excluded ∨ ∃ text dialog, e = .line text ∧ Commits c text dialog := by
  by_cases isLine : ∃ text, e = .line text
  · obtain ⟨text, rfl⟩ := isLine
    cases step
    by_cases same : (c.handle text).console.store.settings.excluded = c.store.settings.excluded
    · exact .inl same
    · obtain ⟨dialog, commits⟩ := excluded_changed same
      exact .inr ⟨text, dialog, rfl, commits⟩
  · exact .inl (step_others step (by simpa using isLine) alone).2

end Excluded

end Console

end TunnelSession
