import Mathlib.Data.List.Forall2
import TunnelSession.Console.Controls
import TunnelSession.Session.Outcome

/-!
What the controls of a console, the outcomes that wait for it and the request in flight have to do
with each other. `Tracks` says it, and whatever happens to a console keeps it: a request is accepted
(`accept_lifecycle`, `accept_switch`), it ends (`report`), and its outcome is handled (`handle`).
-/

namespace TunnelSession

namespace Session

/-- Starts and stops. -/
def Request.isLifecycle : Request → Bool
  | .start | .stop => true
  | .switch _ => false

end Session

namespace Console

open Session

/-- The outcomes that can end a request of a console. -/
inductive Answers : Request → Outcome → Prop
  | started : Answers .start .started
  | startFailed {message permission} : Answers .start (.startFailed message permission)
  | stopped : Answers .stop .stopped
  | updated {target address} : Answers (.switch target) (.gatewayUpdated address)
  | notRunning {target} : Answers (.switch target) .notRunning
  | switchFailed {target message} : Answers (.switch target) (.failed message)

def Controls.off : Controls := ⟨false, false⟩

theorem Controls.ne_off {controls : Controls}
    (enabled : controls.start = true ∨ controls.stop = true) : controls ≠ .off := by
  rintro rfl
  simp [off] at enabled

/-- The controls once every outcome that waits has been handled. -/
def due (inFlight : Option Request) (running : Bool) : Controls :=
  match inFlight with
  | some .start | some .stop => .off
  | _ => .connected running

/-- The requests that are awaited are those whose outcomes wait and the one in flight. At most one
of them is a start or a stop, and the controls are off while one is. -/
structure Tracks (inFlight : Option Request) (running : Bool) (outcomes : List Outcome)
    (controls : Controls) (awaited : List Request) : Prop where
  answered : ∃ answered, awaited = answered ++ inFlight.toList ∧
    List.Forall₂ Answers answered outcomes
  single : awaited.countP Request.isLifecycle ≤ 1
  off : (∃ r ∈ awaited, r.isLifecycle = true) → controls = .off
  shown : outcomes.foldl Controls.onOutcome controls = due inFlight running

section

variable {running running' : Bool} {outcomes : List Outcome} {controls : Controls}
  {awaited answered : List Request} {inFlight : Option Request} {r : Request} {o : Outcome}

/-- The outcome of a switch enables nothing. -/
theorem onOutcome_switch (h : Answers r o) (switch : r.isLifecycle = false) :
    controls.onOutcome o = controls := by
  cases h with
  | started | startFailed | stopped => simp [Request.isLifecycle] at switch
  | updated | notRunning | switchFailed => rfl

theorem foldl_switches (h : List.Forall₂ Answers answered outcomes)
    (switches : ∀ r ∈ answered, r.isLifecycle = false) :
    outcomes.foldl Controls.onOutcome controls = controls := by
  induction h with
  | nil => rfl
  | cons first _ ih =>
    rw [List.foldl_cons, onOutcome_switch first (switches _ List.mem_cons_self)]
    exact ih fun r later => switches r (List.mem_cons_of_mem _ later)

theorem Tracks.inFlight_awaited (tracks : Tracks (some r) running outcomes controls awaited) :
    r ∈ awaited := by
  obtain ⟨answered, rfl, _⟩ := tracks.answered
  simp

/-- With no start or stop awaited, the controls show whether the session runs. -/
theorem Tracks.controls_eq (tracks : Tracks inFlight running outcomes controls awaited)
    (switches : ∀ r ∈ awaited, r.isLifecycle = false) : controls = .connected running := by
  have shown := tracks.shown
  obtain ⟨answered, rfl, answers⟩ := tracks.answered
  rw [foldl_switches answers fun r mem => switches r (List.mem_append_left _ mem)] at shown
  cases inFlight with
  | none => exact shown
  | some r =>
    have switch := switches r tracks.inFlight_awaited
    cases r with
    | start | stop => simp [Request.isLifecycle] at switch
    | switch => exact shown

/-- An enabled control means that no start or stop is awaited. -/
theorem Tracks.switches (tracks : Tracks inFlight running outcomes controls awaited)
    (enabled : controls ≠ .off) : ∀ r ∈ awaited, r.isLifecycle = false := by
  intro r mem
  by_contra lifecycle
  exact enabled (tracks.off ⟨r, mem, by simpa using lifecycle⟩)

theorem Tracks.accept_lifecycle (tracks : Tracks none running outcomes controls awaited)
    (enabled : controls ≠ .off) (lifecycle : r.isLifecycle = true) :
    Tracks (some r) running' outcomes .off (awaited ++ [r]) := by
  have switches := tracks.switches enabled
  obtain ⟨answered, rfl, answers⟩ := tracks.answered
  rw [Option.toList_none, List.append_nil] at switches ⊢
  refine ⟨⟨answered, rfl, answers⟩, ?_, fun _ => rfl, ?_⟩
  · have none : answered.countP Request.isLifecycle = 0 := by
      rw [List.countP_eq_zero]
      intro r mem
      simp [switches r mem]
    simp [none, lifecycle]
  · rw [foldl_switches answers switches]
    cases r with
    | start | stop => rfl
    | switch => simp [Request.isLifecycle] at lifecycle

theorem Tracks.accept_switch (tracks : Tracks none running outcomes controls awaited)
    (target : Candidate) :
    Tracks (some (.switch target)) running outcomes controls (awaited ++ [.switch target]) := by
  obtain ⟨answered, rfl, answers⟩ := tracks.answered
  obtain ⟨_, single, off, shown⟩ := tracks
  rw [Option.toList_none, List.append_nil] at single off ⊢
  refine ⟨⟨answered, rfl, answers⟩, ?_, ?_, shown⟩
  · simpa [Request.isLifecycle] using single
  · simpa [or_imp, Request.isLifecycle] using off

/-- A request ends, and its outcome waits. -/
theorem Tracks.report (tracks : Tracks (some r) running outcomes controls awaited)
    (answers : Answers r o) (next : (due (some r) running).onOutcome o = .connected running') :
    Tracks none running' (outcomes ++ [o]) controls awaited := by
  obtain ⟨answered, rfl, before⟩ := tracks.answered
  refine ⟨⟨answered ++ [r], by simp, ?_⟩, tracks.single, tracks.off, ?_⟩
  · exact List.rel_append before (.cons answers .nil)
  · rw [List.foldl_append, tracks.shown, List.foldl_cons, List.foldl_nil, next]
    rfl

/-- The outcome that has waited longest is handled. -/
theorem Tracks.handle (tracks : Tracks inFlight running (o :: outcomes) controls awaited) :
    Tracks inFlight running outcomes (controls.onOutcome o) awaited.tail := by
  obtain ⟨answered, rfl, answers⟩ := tracks.answered
  obtain ⟨_, single, off, shown⟩ := tracks
  cases answers with
  | @cons r _ later _ first rest =>
    simp only [List.cons_append, List.tail_cons] at single off ⊢
    refine ⟨⟨later, rfl, rest⟩, ?_, ?_, shown⟩
    · exact Nat.le_trans (List.Sublist.countP_le (List.sublist_cons_self _ _)) single
    · rintro ⟨pending, mem, lifecycle⟩
      have one : 0 < (later ++ inFlight.toList).countP Request.isLifecycle :=
        List.countP_pos_iff.mpr ⟨pending, mem, lifecycle⟩
      have switch : r.isLifecycle = false := by
        by_contra both
        rw [List.countP_cons, if_pos (by simpa using both)] at single
        omega
      rw [onOutcome_switch first switch]
      exact off ⟨pending, List.mem_cons_of_mem _ mem, lifecycle⟩

end

end Console

end TunnelSession
