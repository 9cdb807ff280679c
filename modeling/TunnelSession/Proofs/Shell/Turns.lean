import TunnelSession.Proofs.Console.Controls
import TunnelSession.Proofs.Console.Scope
import TunnelSession.Proofs.DryRun.Engine
import TunnelSession.Proofs.DryRun.Interface
import TunnelSession.Shell.Basic

/-!
Runs of a shell. A shell takes turns: an event, or the clock going on.

* `Takes`: what a turn comes to (`turn_takes`), and `Moves`, what it can do to the session of the
  shell (`takes_moves`);
* `Aligned`: session and dry run tell the same story, whatever turns are taken (`play_aligned`);
* `Attended`: and so do the controls of the console (`play_attended`).
-/

namespace TunnelSession

abbrev DryRun.Session := TunnelSession.Session DryRun.Engine DryRun.Interface

namespace Shell

open Session

inductive Turn where
  | event (e : Event)
  | clock (now : Moment)
  deriving DecidableEq

def turn (s : Shell) : Turn → Shell
  | .event e => (s.step e).2
  | .clock now => s.advance now

def play (s : Shell) (turns : List Turn) : Shell := turns.foldl turn s

/-- The shell that a launch opens. -/
def opened (c : Config) (dir : Folder) (now : Moment) : Shell := (launch c dir now).2

def tunnel (s : Shell) : DryRun.Session := s.console.dispatcher.session

def outcomes (s : Shell) : List Outcome := s.console.dispatcher.outcomes

/-- What a turn can do to a session. -/
inductive Moves (s : DryRun.Session) : DryRun.Session → Prop
  | same : Moves s s
  | save (key : Settings.Key) (value : String) : Moves s { s with store := s.store.save key value }
  | saveExcluded (apps : AppSet) : Moves s { s with store := s.store.saveExcluded apps }
  | enter {r v t} (enters : Enters s r v t)
      (named : ∀ target, r = .switch target → target ∈ s.neighbors.candidates) : Moves s t
  | finish {flight v t} (taken : s.flight = some flight) (finishes : Finishes s flight v t) :
      Moves s t
  | permit : Moves s { s with interface := { s.interface with permission := true } }
  | clock (now : Moment) : Moves s { s with
      engine := (s.engine.advance s.store.dir now).1
      store := { s.store with dir := (s.engine.advance s.store.dir now).2 } }

theorem handle_moves (c : Console DryRun.Engine DryRun.Interface) (line : String) :
    Moves c.dispatcher.session (c.handle line).console.dispatcher.session := by
  have acts := Console.handle_acts c line
  generalize (c.handle line).console = next at acts
  cases acts with
  | @sets _ key value => exact .save key _
  | @commits dialog => exact .saveExcluded dialog.draft.apps
  | @asks r _ dispatcher _ names dispatched =>
    have entered := c.dispatcher.dispatch_session r
    rw [dispatched] at entered
    change Moves c.dispatcher.session dispatcher.session
    rw [entered]
    refine .enter (enter_enters _ r) ?_
    rintro target rfl
    cases names with
    | switch _ _ _ _ _ known => exact List.mem_of_getElem? known
  | redraws | idle => exact .same

theorem settle_moves (c : Console DryRun.Engine DryRun.Interface) :
    Moves c.dispatcher.session c.settle.dispatcher.session := by
  change Moves c.dispatcher.session c.dispatcher.settle.session
  rw [Dispatcher.settle_eq]
  cases taken : c.dispatcher.session.flight with
  | none =>
    rw [finish_idle taken]
    exact .same
  | some flight =>
    obtain ⟨v, t, ended, finishes⟩ := finish_finishes taken
    rw [ended]
    exact .finish taken finishes

theorem onOutcome_moves (c : Console DryRun.Engine DryRun.Interface) (o : Outcome) :
    Moves c.dispatcher.session (c.onOutcome o).2.dispatcher.session := by
  unfold Console.onOutcome
  split
  · exact .permit
  · exact .same
  · exact .same

section Turns

variable {s : Shell}

theorem turn_ended (ended : s.ended = true) (e : Event) : s.turn (.event e) = s := by
  simp only [turn, step, ended, ↓reduceIte]

variable (live : s.ended = false)

include live

theorem turn_line (text : String) : s.turn (.event (.line text)) =
    ⟨(s.console.handle text).console, !(s.console.handle text).goesOn⟩ := by
  simp only [turn, step, live, Bool.false_eq_true, ↓reduceIte]

theorem turn_inputEnd : s.turn (.event .inputEnd) = { s with ended := true } := by
  simp only [turn, step, live, Bool.false_eq_true, ↓reduceIte]

theorem turn_work : s.turn (.event .work) = { s with console := s.console.settle } := by
  simp only [turn, step, live, Bool.false_eq_true, ↓reduceIte]

theorem turn_deliver_nothing (none : s.outcomes = []) : s.turn (.event .deliver) = s := by
  have none : s.console.dispatcher.outcomes = [] := none
  simp only [turn, step, live, Bool.false_eq_true, ↓reduceIte, deliver, none]

theorem turn_deliver {o : Outcome} {later : List Outcome} (first : s.outcomes = o :: later) :
    s.turn (.event .deliver) = { s with
      console := ({ s.console with dispatcher.outcomes := later }.onOutcome o).2 } := by
  have first : s.console.dispatcher.outcomes = o :: later := first
  simp only [turn, step, live, Bool.false_eq_true, ↓reduceIte, deliver, first]

end Turns

/-- What an event comes to, by what the shell finds. -/
inductive Takes (s : Shell) : Turn → Shell → Prop
  | clock (now : Moment) : Takes s (.clock now) (s.advance now)
  | ended (ended : s.ended = true) (e : Event) : Takes s (.event e) s
  | line (live : s.ended = false) (text : String) : Takes s (.event (.line text))
      ⟨(s.console.handle text).console, !(s.console.handle text).goesOn⟩
  | inputEnd (live : s.ended = false) : Takes s (.event .inputEnd) { s with ended := true }
  | work (live : s.ended = false) :
      Takes s (.event .work) { s with console := s.console.settle }
  | nothing (live : s.ended = false) (none : s.outcomes = []) : Takes s (.event .deliver) s
  | deliver {o later} (live : s.ended = false) (first : s.outcomes = o :: later) :
      Takes s (.event .deliver) { s with
        console := ({ s.console with dispatcher.outcomes := later }.onOutcome o).2 }

theorem turn_takes (s : Shell) (t : Turn) : Takes s t (s.turn t) := by
  cases t with
  | clock now => exact .clock now
  | event e =>
    cases state : s.ended with
    | true =>
      rw [turn_ended state]
      exact .ended state e
    | false =>
      cases e with
      | line text =>
        rw [turn_line state]
        exact .line state text
      | inputEnd =>
        rw [turn_inputEnd state]
        exact .inputEnd state
      | work =>
        rw [turn_work state]
        exact .work state
      | deliver =>
        cases waiting : s.outcomes with
        | nil =>
          rw [turn_deliver_nothing state waiting]
          exact .nothing state waiting
        | cons o later =>
          rw [turn_deliver state waiting]
          exact .deliver state waiting

theorem takes_moves {s s' : Shell} {t : Turn} (takes : Takes s t s') :
    Moves s.tunnel s'.tunnel := by
  cases takes with
  | clock now => exact .clock now
  | ended | inputEnd | nothing => exact .same
  | line live text =>
    -- the line itself stays folded: what it can do to the session is in `moves`
    have moves := handle_moves s.console text
    generalize s.console.handle text = handled at *
    exact moves
  | work => exact settle_moves s.console
  | @deliver o later =>
    exact onOutcome_moves { s.console with dispatcher.outcomes := later } o

section Aligned

/-- Session and dry run tell the same story: the engine runs while the session is open, the gateway
of a switch in flight is a configured one, and no setting is missing. -/
structure Aligned (c : Config) (s : DryRun.Session) : Prop where
  coherent : Coherent s
  steady : ¬ Stranded s
  up : s.engine.running.isSome = s.phase.isOpen
  known : s.engine.known = c.neighbors
  target : ∀ target, s.flight = some (.switch target) →
    ∃ n ∈ c.neighbors, n.address = target.address
  complete : s.store.settings.isComplete = true

variable {c : Config} {s t : DryRun.Session}

theorem enters_calm {r : Request} {v : Option Verdict} (h : Enters s r v t)
    (payload : Option String) : v ≠ some (.raised payload) := by
  cases h with
  | raised _ _ _ answer => cases DryRun.Interface.establishes_of_eq answer
  | _ => simp

theorem enters_switch {r : Request} {v : Option Verdict} (h : Enters s r v t) {target : Candidate}
    (taken : t.flight = some (.switch target)) :
    s.flight = some (.switch target) ∨ r = .switch target := by
  cases h with
  | starting | stopping => cases taken
  | switching =>
    cases taken
    exact .inr rfl
  | _ => exact .inl taken

/-- Every candidate that is offered is one of the neighbors. -/
theorem candidate_known {ns : List Neighbor} {target : Candidate}
    (mem : target ∈ (Snapshot.ofList ns).candidates) : ∃ n ∈ ns, n.address = target.address := by
  obtain ⟨i, bound, rfl⟩ := List.mem_mapIdx.mp mem
  have mem := List.getElem_mem bound
  exact ⟨_, List.mem_mergeSort.mp mem, rfl⟩

theorem neighbors_known {target : Candidate} (mem : target ∈ s.neighbors.candidates) :
    ∃ n ∈ s.engine.known, n.address = target.address := by
  unfold neighbors at mem
  split at mem
  · change target ∈ (if s.engine.running.isSome then Snapshot.ofList s.engine.known
      else .empty).candidates at mem
    split at mem
    · exact candidate_known mem
    · cases mem
  · cases mem

theorem enters_aligned {r : Request} {v : Option Verdict} (h : Enters s r v t)
    (named : ∀ target, r = .switch target → target ∈ s.neighbors.candidates)
    (aligned : Aligned c s) : Aligned c t := by
  obtain ⟨engine, isOpen⟩ := enters_frame h
  refine ⟨enters_coherent h aligned.coherent, enters_steady h aligned.steady (enters_calm h),
    ?_, ?_, ?_, ?_⟩
  · rw [engine, isOpen]
    exact aligned.up
  · rw [engine]
    exact aligned.known
  · intro target taken
    rcases enters_switch h taken with before | asked
    · exact aligned.target target before
    · rw [← aligned.known]
      exact neighbors_known (named target asked)
  · rw [enters_store h]
    exact aligned.complete

/-- The engine call of a request leaves the engine up while the session is open. -/
theorem finishes_up {flight : Flight} {v : Verdict} (h : Finishes s flight v t)
    (phase : s.phase = flight.phase) (up : s.engine.running.isSome = s.phase.isOpen) :
    t.engine.running.isSome = t.phase.isOpen ∧ t.engine.known = s.engine.known := by
  cases h with
  | @started d p answer =>
    obtain ⟨known, taken_up, _⟩ := s.engine.start_keeps s.store.dir d p
    exact ⟨taken_up answer, known⟩
  | @startFailed d p _ answer | @startRaised d p _ answer =>
    obtain ⟨known, _, same⟩ := s.engine.start_keeps s.store.dir d p
    have unanswered : (s.engine.start s.store.dir d p).ending ≠ .ok () := by
      intro answered
      cases answer.symm.trans answered
    refine ⟨?_, known⟩
    rw [landed_engine]
    change (s.engine.start s.store.dir d p).engine.running.isSome = false
    rw [same unanswered, up, phase]
    rfl
  | stopped =>
    obtain ⟨known, down⟩ := s.engine.stop_keeps s.store.dir
    exact ⟨congrArg Option.isSome down, known⟩
  | @switched target | @switchFailed target | @switchRaised target =>
    obtain ⟨known, same⟩ := s.engine.redirect_keeps s.store.dir target.address
    exact ⟨same.trans up, known⟩

theorem finishes_complete {flight : Flight} {v : Verdict} (h : Finishes s flight v t)
    (complete : s.store.settings.isComplete = true) : t.store.settings.isComplete = true := by
  cases h with
  | @switched target =>
    have saved := Settings.set_isComplete complete .gateway target.address.text
    exact (congrArg Settings.isComplete (Store.persist_settings _)).trans saved
  | started | startFailed | startRaised | stopped | switchFailed | switchRaised => exact complete

theorem finishes_aligned {flight : Flight} {v : Verdict} (taken : s.flight = some flight)
    (h : Finishes s flight v t) (aligned : Aligned c s) : Aligned c t := by
  have phase := aligned.coherent.phase_of_flight taken
  obtain ⟨up, known⟩ := finishes_up h phase aligned.up
  refine ⟨finishes_coherent h aligned.coherent taken, finishes_steady h phase, up,
    known.trans aligned.known, ?_, finishes_complete h aligned.complete⟩
  intro target taken
  rw [finishes_flight h] at taken
  cases taken

theorem moves_aligned (move : Moves s t) (aligned : Aligned c s) : Aligned c t := by
  have kept := aligned.complete
  cases move with
  | same => exact aligned
  | save key value =>
    refine { aligned with complete := ?_ }
    rw [Store.save, Store.persist_settings]
    exact Settings.set_isComplete kept key value
  | saveExcluded apps =>
    refine { aligned with complete := ?_ }
    rw [Store.saveExcluded, Store.persist_settings]
    exact Settings.withExcluded_isComplete kept apps
  | enter enters named => exact enters_aligned enters named aligned
  | finish taken finishes => exact finishes_aligned taken finishes aligned
  | permit => exact { aligned with }
  | clock now =>
    obtain ⟨known, up⟩ := s.engine.advance_keeps s.store.dir now
    exact { aligned with up := up.trans aligned.up, known := known.trans aligned.known }

theorem play_aligned {s : Shell} (aligned : Aligned c s.tunnel) (turns : List Turn) :
    Aligned c (s.play turns).tunnel := by
  induction turns generalizing s with
  | nil => exact aligned
  | cons t turns ih => exact ih (moves_aligned (takes_moves (s.turn_takes t)) aligned)

/-- An engine does not run while the session is not open. -/
theorem Aligned.down (aligned : Aligned c s) (shut : s.phase.isOpen = false) :
    s.engine.running = none := by
  have up := aligned.up
  rw [shut] at up
  exact Option.isNone_iff_eq_none.mp (Option.isSome_eq_false_iff.mp up)

end Aligned

section Attended

/-- The controls of the console, the outcomes that wait for it and the session tell the same story,
with the requests whose outcomes have not been handled. -/
def Attended (s : Shell) : Prop := ∃ awaited, Console.Watch.Consistent ⟨s.console, awaited⟩

variable {s : Shell}

theorem redirect_calm (e : DryRun.Engine) (dir : Folder) (target : Address)
    (payload : Option String) : (Engine.redirect e dir target).ending ≠ .raised payload := by
  change (DryRun.Engine.redirect e dir target).ending ≠ .raised payload
  unfold DryRun.Engine.redirect
  split
  · simp
  · split <;> simp

theorem finishes_calm {s t : DryRun.Session} {flight : Flight} {v : Verdict}
    (h : Finishes s flight v t) (payload : Option String) : v ≠ .raised payload := by
  cases h with
  | switchRaised answer => exact absurd answer (redirect_calm _ _ _ _)
  | _ => simp

theorem line_attended (attended : Attended s) (text : String) :
    ∃ awaited, Console.Watch.Consistent ⟨(s.console.handle text).console, awaited⟩ := by
  obtain ⟨awaited, consistent⟩ := attended
  refine ⟨_, Console.Watch.line_consistent (s.console.handle_lands text) ?_ consistent⟩
  intro r payload _
  exact enters_calm (enter_enters _ r) payload

theorem work_attended (attended : Attended s) :
    ∃ awaited, Console.Watch.Consistent ⟨s.console.settle, awaited⟩ := by
  obtain ⟨awaited, consistent⟩ := attended
  refine ⟨awaited, (consistent.settle_frees ?_).1⟩
  intro r payload raised
  have ended : s.tunnel.finish = (some (r, .raised payload), s.tunnel.finish.2) :=
    Prod.ext raised rfl
  obtain ⟨_, _, _, finishes⟩ := finishes_of_eq ended
  exact absurd rfl (finishes_calm finishes payload)

theorem takes_attended {s' : Shell} {t : Turn} (takes : Takes s t s') (attended : Attended s) :
    Attended s' := by
  cases takes with
  | ended | inputEnd | nothing => exact attended
  | line live text =>
    have attended := line_attended attended text
    generalize s.console.handle text = handled at *
    exact attended
  | work => exact work_attended attended
  | clock now =>
    obtain ⟨awaited, consistent⟩ := attended
    exact ⟨awaited, consistent.congr rfl rfl rfl rfl rfl⟩
  | deliver live first =>
    obtain ⟨awaited, consistent⟩ := attended
    exact ⟨awaited.tail, Console.Watch.outcome_consistent first consistent⟩

theorem play_attended (attended : Attended s) (turns : List Turn) : Attended (s.play turns) := by
  induction turns generalizing s with
  | nil => exact attended
  | cons t turns ih => exact ih (takes_attended (s.turn_takes t) attended)

end Attended

end Shell

end TunnelSession
