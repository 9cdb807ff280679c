import TunnelSession.Proofs.Session.Halves
import TunnelSession.Session.Dispatcher
import TunnelSession.Settings.Draft

/-!
Runs of a session. Whatever is done to a session, by direct calls or through a front end, is one of
a few events:

* `Session.Step` and `Session.Run`: the events, in any order, with the engine and the interface
  changing by themselves in between, and `Session.run_split`, that a run can be taken up at each of
  its moments;
* `Dispatcher.Step` and `Dispatcher.Run`: the same with a front end connected, whose requests wait
  for outcomes;
* `Dispatcher.Run.session`: what the front end does to its session is a run of the session.
-/

namespace TunnelSession

/-- What the engine and the interface may do by themselves, between the calls made on them. -/
structure Surroundings (ε ι : Type) where
  engine : ε → ε → Prop
  interface : ι → ι → Prop

/-- A change of the settings, or of the storage folder by someone else. A draft that is committed
saves its set. -/
inductive Edit where
  | save (key : Settings.Key) (value : String)
  | saveExcluded (apps : AppSet)
  | folder (dir : Folder)

def Edit.apply (s : Store) : Edit → Store
  | .save key value => s.save key value
  | .saveExcluded apps => s.saveExcluded apps
  | .folder dir => { s with dir }

namespace Session

/-- `enter` and `finish` are the two halves of a request; the first one says with what verdict the
request ended there, if it did. A request made in one go is both halves, one after the other. A
reconciliation `dropped` the session if it took it from active to idle. -/
inductive Event where
  | enter (r : Request) (ended : Option Verdict)
  | finish (r : Request) (verdict : Verdict)
  | reconcile (dropped : Bool)
  | edit (e : Edit)
  | drift
  | poll

/-- The request that ended at an event, and how. -/
def Event.ending? : Event → Option (Request × Verdict)
  | .enter r (some verdict) => some (r, verdict)
  | .finish r verdict => some (r, verdict)
  | _ => none

def Event.isDrop : Event → Bool
  | .reconcile dropped => dropped
  | _ => false

/-- How many reconciliations dropped the session. -/
def drops (history : List Event) : Nat := history.countP Event.isDrop

variable {ε ι : Type} [Engine ε] [TunnelInterface ι] (u : Surroundings ε ι)

inductive Step : Session ε ι → Event → Session ε ι → Prop
  | enter {s t r ended} (h : s.enter r = (ended, t)) : Step s (.enter r ended) t
  | finish {s t r verdict} (h : s.finish = (some (r, verdict), t)) : Step s (.finish r verdict) t
  | reconcile (s) : Step s (.reconcile (s.isRunning && !s.reconcile.1)) s.reconcile.2
  | edit (s) (e : Edit) : Step s (.edit e) { s with store := e.apply s.store }
  | engine {s} (engine) (h : u.engine s.engine engine) : Step s .drift { s with engine }
  | interface {s} (interface) (h : u.interface s.interface interface) :
      Step s .drift { s with interface }
  | poll (s) : Step s .poll s

/-- The events of a run, the oldest first, and the session that they lead to. -/
inductive Run (start : Session ε ι) : List Event → Session ε ι → Prop
  | start : Run start [] start
  | next {history s e t} : Run start history s → Step u s e t → Run start (history ++ [e]) t

variable {u} {s t : Session ε ι}

theorem run_concat {history : List Event} {e : Event} (run : Run u s (history ++ [e]) t) :
    ∃ m, Run u s history m ∧ Step u m e t := by
  generalize eq : history ++ [e] = whole at run
  cases run with
  | start => simp at eq
  | next before step =>
    obtain ⟨rfl, last⟩ := List.append_inj' eq rfl
    cases last
    exact ⟨_, before, step⟩

/-- A run can be taken up at each of its moments. -/
theorem run_split {earlier later : List Event} (run : Run u s (earlier ++ later) t) :
    ∃ m, Run u s earlier m ∧ Run u m later t := by
  generalize eq : earlier ++ later = whole at run
  induction run generalizing later with
  | start =>
    obtain ⟨rfl, rfl⟩ := List.append_eq_nil_iff.mp eq
    exact ⟨s, .start, .start⟩
  | next before step ih =>
    rcases later.eq_nil_or_concat with rfl | ⟨later, e, rfl⟩
    · rw [List.append_nil] at eq
      subst eq
      exact ⟨_, before.next step, .start⟩
    · rw [List.concat_eq_append] at eq ⊢
      rw [← List.append_assoc] at eq
      obtain ⟨same, last⟩ := List.append_inj' eq rfl
      cases last
      obtain ⟨m, first, second⟩ := ih same
      exact ⟨m, first, second.next step⟩

end Session

namespace Dispatcher

open Session

section Answers

variable {ε ι : Type} [TunnelInterface ι] (d : Dispatcher ε ι) (r : Request)

theorem dispatch_busy (taken : d.session.flight ≠ none) : d.dispatch r = (some .busy, d) := by
  have h : d.session.flight.isSome = true := Option.isSome_iff_ne_none.mpr taken
  simp only [dispatch, h, ↓reduceIte]

theorem dispatch_free (free : d.session.flight = none) :
    d.dispatch r = (none, ⟨(d.session.enter r).2,
      d.outcomes ++ ((d.session.enter r).1.bind (Outcome.of? r)).toList⟩) := by
  simp only [dispatch, free, Option.isSome_none, Bool.false_eq_true, ↓reduceIte]
  rcases d.session.enter r with ⟨_ | verdict, s⟩ <;> simp [report]

theorem dispatch_cases : d.session.flight.isSome = true ∧ d.dispatch r = (some .busy, d) ∨
    d.session.flight = none ∧ ∃ d', d.dispatch r = (none, d') := by
  cases taken : d.session.flight with
  | some flight => exact .inl ⟨rfl, dispatch_busy d r (by simp [taken])⟩
  | none => exact .inr ⟨rfl, _, dispatch_free d r taken⟩

/-- A request that is dispatched does to the session what its first half does. -/
theorem dispatch_session : (d.dispatch r).2.session = (d.session.enter r).2 := by
  cases taken : d.session.flight with
  | none => rw [dispatch_free d r taken]
  | some flight =>
    rw [dispatch_busy d r (by simp [taken])]
    simp [enter, taken]

variable [Engine ε]

theorem settle_eq : d.settle = ⟨d.session.finish.2,
    d.outcomes ++ (d.session.finish.1.bind fun (r, verdict) => Outcome.of? r verdict).toList⟩ := by
  unfold settle
  rcases d.session.finish with ⟨_ | ⟨r, verdict⟩, s⟩ <;> simp [report]

end Answers

variable {ε ι : Type} [Engine ε] [TunnelInterface ι] (u : Surroundings ε ι)

/-- What happens with a front end connected. `direct` is all that does not go through it. -/
inductive Step : Dispatcher ε ι → Event → Dispatcher ε ι → Prop
  | direct {d e session} (h : Session.Step u d.session e session) : Step d e { d with session }
  | dispatch {d r ended session} (h : d.session.enter r = (ended, session)) :
      Step d (.enter r ended) (d.dispatch r).2
  | settle {d r verdict session} (h : d.session.finish = (some (r, verdict), session)) :
      Step d (.finish r verdict) d.settle
  | connect (d) : Step d (.reconcile (d.session.isRunning && !d.session.reconcile.1))
      (.connect d.session)
  | poll (d) : Step d .poll d.take.2

inductive Run (start : Dispatcher ε ι) : List Event → Dispatcher ε ι → Prop
  | start : Run start [] start
  | next {history d e d'} : Run start history d → Step u d e d' → Run start (history ++ [e]) d'

variable {u} {d d' : Dispatcher ε ι}

theorem Step.session {e : Event} (h : Step u d e d') : Session.Step u d.session e d'.session := by
  cases h with
  | direct h => exact h
  | dispatch h =>
    rw [dispatch_session, h]
    exact .enter h
  | settle h =>
    rw [settle_eq, h]
    exact .finish h
  | connect => exact .reconcile _
  | poll => exact .poll _

theorem Run.session {history : List Event} (h : Run u d history d') :
    Session.Run u d.session history d'.session := by
  induction h with
  | start => exact .start
  | next _ step ih => exact .next ih step.session

end Dispatcher

end TunnelSession
