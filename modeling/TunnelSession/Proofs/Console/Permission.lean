import TunnelSession.Proofs.Console.Run
import TunnelSession.Proofs.Session.Outcomes

/-!
Permission is asked for once for each denial, and no start is tried again by itself.

* `Trace`: a run of a console, event by event, with the half of a request that each one gives the
  session (`Transition.half?`), and the outcomes that it reports and handles;
* `Trace.session`: what happens to the session is those halves, and nothing else that is a request;
* `Trace.books`: outcomes are handled in the order in which they were reported, and prompts and
  denials are counted by them;
* `isDenied_of_lacks`: an outcome that lacks permission comes from a start that was denied;
* `permission_asked_once` puts these together.
-/

namespace TunnelSession

namespace Recorded

/-- The user was asked for permission. -/
def InterfaceCall.isPrompt : InterfaceCall → Bool
  | .askPermission _ => true
  | _ => false

/-- An interface was asked for, and permission was denied. -/
def InterfaceCall.isDenial : InterfaceCall → Bool
  | .establish _ (.error .permissionDenied) => true
  | _ => false

namespace Interface

variable {ι : Type}

def prompts (i : Interface ι) : Nat := i.calls.countP InterfaceCall.isPrompt

def denials (i : Interface ι) : Nat := i.calls.countP InterfaceCall.isDenial

variable {i j : Interface ι} {made : List InterfaceCall}

theorem prompts_of_calls (h : j.calls = i.calls ++ made) :
    j.prompts = i.prompts + made.countP InterfaceCall.isPrompt := by
  rw [prompts, h, List.countP_append, prompts]

theorem denials_of_calls (h : j.calls = i.calls ++ made) :
    j.denials = i.denials + made.countP InterfaceCall.isDenial := by
  rw [denials, h, List.countP_append, denials]

theorem calls_askPermission [TunnelInterface ι] (i : Interface ι) :
    (TunnelInterface.askPermission i).2.calls =
      i.calls ++ [.askPermission (TunnelInterface.askPermission i).1] := rfl

theorem prompts_askPermission [TunnelInterface ι] (i : Interface ι) :
    (TunnelInterface.askPermission i).2.prompts = i.prompts + 1 :=
  prompts_of_calls (calls_askPermission i)

theorem denials_askPermission [TunnelInterface ι] (i : Interface ι) :
    (TunnelInterface.askPermission i).2.denials = i.denials :=
  denials_of_calls (calls_askPermission i)

theorem releases_counts [TunnelInterface ι] (dropped : List Descriptor) (i : Interface ι) :
    (dropped.foldl TunnelInterface.release i).prompts = i.prompts ∧
    (dropped.foldl TunnelInterface.release i).denials = i.denials := by
  have calls := calls_releases dropped i
  have none_such (p : InterfaceCall → Bool) (other : ∀ d, p (.release d) = false) :
      (dropped.map InterfaceCall.release).countP p = 0 := by
    simp [List.countP_eq_zero, other]
  rw [prompts_of_calls calls, denials_of_calls calls, none_such _ fun _ => rfl,
    none_such _ fun _ => rfl]
  exact ⟨rfl, rfl⟩

end Interface

end Recorded

/-- The same surroundings, and the user may be asked for permission. -/
def Surroundings.asking {ε ι : Type} [TunnelInterface ι] (u : Surroundings ε ι) :
    Surroundings ε ι where
  engine := u.engine
  interface i i' := u.interface i i' ∨ i' = (TunnelInterface.askPermission i).2

namespace Session

/-- A half of a request. -/
def Event.isHalf : Event → Bool
  | .enter _ _ | .finish _ _ => true
  | _ => false

/-- An attempt to start, which was not turned away as busy. -/
def Event.isAttempt : Event → Bool
  | .enter .start ended => ended ≠ some (.refused .busy)
  | _ => false

/-- What a front end is told about a request that ended at an event. -/
def Event.outcome? (e : Event) : Option Outcome :=
  e.ending?.bind fun (r, verdict) => Outcome.of? r verdict

theorem Event.outcome?_enter (r : Request) (ended : Option Verdict) :
    (Event.enter r ended).outcome? = ended.bind (Outcome.of? r) := by
  cases ended <;> rfl

section Halves

variable {ε ι : Type} [Engine ε] [TunnelInterface ι] {u : Surroundings ε ι} {s t : Session ε ι}
  {e : Event}

theorem Step.asking (step : Step u s e t) : Step u.asking s e t := by
  cases step with
  | enter h => exact .enter h
  | finish h => exact .finish h
  | reconcile => exact .reconcile s
  | edit e => exact .edit s e
  | engine engine h => exact .engine engine h
  | interface interface h => exact .interface interface (.inl h)
  | poll => exact .poll s

omit [Engine ε] in
theorem enters_not_busy {r : Request} {ended : Option Verdict} (h : Enters s r ended t)
    (free : s.flight = none) : ended ≠ some (.refused .busy) := by
  cases h with
  | busy taken => exact absurd free taken
  | @denied _ _ cause => cases cause <;> simp [Error.ofInterface]
  | _ => simp

/-- A start that came to its engine call did not lack permission. -/
theorem finishes_permitted {flight : Flight} {v : Verdict} {o : Outcome} (h : Finishes s flight v t)
    (outcome : Outcome.of? flight.request v = some o) : o.lacksPermission = false := by
  cases h with
  | switchRaised => cases outcome
  | _ =>
    cases outcome
    rfl

end Halves

section Counts

variable {ε ι : Type} [TunnelInterface ι]
  {s t : Session (Recorded.Engine ε) (Recorded.Interface ι)} {r : Request}
  {ended : Option Verdict}

theorem enters_prompts (h : Enters s r ended t) : t.interface.prompts = s.interface.prompts := by
  cases h with
  | denied _ _ _ answer | raised _ _ _ answer | starting _ _ _ answer =>
    exact Recorded.Interface.prompts_of_calls (Recorded.Interface.calls_establish answer)
  | _ => rfl

/-- An outcome of a first half lacks permission if that was denied. -/
theorem enters_denials (h : Enters s r ended t) : t.interface.denials =
    s.interface.denials + (ended.bind (Outcome.of? r)).toList.countP Outcome.lacksPermission := by
  cases h with
  | @denied _ _ cause _ _ _ _ answer =>
    have calls := Recorded.Interface.calls_establish answer
    rw [Option.bind_some, Outcome.of?_ofInterface, Recorded.Interface.denials_of_calls calls]
    cases cause <;> rfl
  | raised _ _ _ answer | starting _ _ _ answer =>
    exact Recorded.Interface.denials_of_calls (Recorded.Interface.calls_establish answer)
  | @busy r => cases r <;> rfl
  | _ => rfl

/-- An outcome of a first half that lacks permission is that of a start, to which the interface
answered that permission was denied. The engine was not called. -/
theorem enters_lacks {o : Outcome} (h : Enters s r ended t)
    (outcome : ended.bind (Outcome.of? r) = some o) (lacks : o.lacksPermission = true) :
    r = .start ∧ t.engine = s.engine ∧ ∃ config, t.interface.calls =
      s.interface.calls ++ [.establish config (.error .permissionDenied)] := by
  cases h with
  | @denied config _ cause _ _ _ _ answer =>
    have calls := Recorded.Interface.calls_establish answer
    rw [Option.bind_some, Outcome.of?_ofInterface] at outcome
    cases outcome
    obtain rfl : cause = .permissionDenied := by simpa [Outcome.lacksPermission] using lacks
    exact ⟨rfl, rfl, config, calls⟩
  | @busy r => cases r <;> cases outcome <;> cases lacks
  | startOutOfPhase | unplanned | stopIdle | stopOutOfPhase | switchAway =>
    cases outcome
    cases lacks
  | raised | starting | stopping | switching => cases outcome

variable [Engine ε] {flight : Flight} {v : Verdict}

theorem finishes_counts (h : Finishes s flight v t) :
    t.interface.prompts = s.interface.prompts ∧ t.interface.denials = s.interface.denials := by
  cases h <;> exact Recorded.Interface.releases_counts _ _

end Counts

end Session

namespace Console

open Session

/-- Another than the console makes a request of the session, or lets one end. -/
def Event.isHalf : Event → Bool
  | .direct e => e.isHalf
  | _ => false

section Lines

variable {ε ι : Type} [Engine ε] [TunnelInterface ι] {c : Console ε ι} {line : String}

omit [TunnelInterface ι] in
theorem Asks.request?_eq {r : Request} (asks : Asks c line r) :
    c.request? (.parse line) = some r := by
  cases asks with
  | start command enabled =>
    rw [parse_eq, command]
    exact if_pos enabled
  | stop command enabled =>
    rw [parse_eq, command]
    exact if_pos enabled
  | @switch i k target command row place enabled choice known =>
    have named : c.named? (givenValue line) = some target := by
      rw [named?, if_neg choice.ne_nil, choice.bind_position?, known]
    rw [parse_edit command, request?, row.bind_position?, place, Option.bind_some,
      if_pos (editor_gateway enabled), named]
    rfl

omit [TunnelInterface ι] in
theorem accepted?_free (free : c.dispatcher.session.flight = none) (command : Command) :
    c.accepted? command = c.request? command := by
  simp only [accepted?, free, Option.isSome_none, Bool.false_eq_true, ↓reduceIte]

/-- The line is one to start, start is enabled, and the dispatcher accepts. -/
def startsBy (c : Console ε ι) (line : String) : Bool :=
  commandWord line = "start".toList && c.controls.start && (c.dispatcher.dispatch .start).1.isNone

theorem accepted?_start_iff :
    c.accepted? (.parse line) = some .start ↔ c.startsBy line = true := by
  have dispatched : (c.dispatcher.dispatch .start).1.isNone = true ↔
      c.dispatcher.session.flight = none := by
    rcases c.dispatcher.dispatch_cases .start with ⟨taken, busy⟩ | ⟨free, _, accepted⟩
    · rw [busy]
      simp [Option.isSome_iff_ne_none.mp taken]
    · rw [accepted]
      simp [free]
  simp only [startsBy, Bool.and_eq_true, decide_eq_true_eq, dispatched]
  constructor
  · intro accepted
    have lands := c.handle_lands line
    have reads := parse_reads line
    rw [accepted] at lands
    cases lands with
    | start free enabled =>
      refine ⟨⟨?_, enabled⟩, free⟩
      rw [accepted?_free free] at accepted
      generalize Command.parse line = parsed at *
      cases reads with
      | start command => exact command
      | edit =>
        obtain ⟨_, _, switches⟩ := Option.bind_eq_some_iff.mp accepted
        split at switches
        · obtain ⟨_, _, other⟩ := Option.map_eq_some_iff.mp switches
          cases other
        · cases switches
      | stop =>
        simp only [request?] at accepted
        split at accepted <;> cases accepted
      | check | uncheck | ok | cancel | quit | nothing | help | list | unknown => cases accepted
  · rintro ⟨⟨command, enabled⟩, free⟩
    rw [accepted?_free free]
    exact (Asks.start command enabled).request?_eq

variable (c line)

/-- A line that has no request accepted edits settings, or does nothing to the session. -/
theorem unaccepted_session (unaccepted : c.accepted? (.parse line) = none) :
    (∃ edit : Edit, (c.handle line).console.dispatcher.session =
      { c.dispatcher.session with store := edit.apply c.store }) ∨
    (c.handle line).console.dispatcher.session = c.dispatcher.session := by
  have acts := handle_acts c line
  generalize (c.handle line).console = next at *
  cases acts with
  | sets => exact .inl ⟨.save _ _, rfl⟩
  | commits => exact .inl ⟨.saveExcluded _, rfl⟩
  | asks asks dispatched =>
    rcases c.dispatcher.dispatch_cases ‹_› with ⟨_, busy⟩ | ⟨free, _⟩
    · rw [busy] at dispatched
      cases dispatched
      exact .inr rfl
    · rw [accepted?_free free] at unaccepted
      cases asks.request?_eq.symm.trans unaccepted
  | redraws | idle => exact .inr rfl

/-- The outcomes that wait are added to by the request that a line has accepted. -/
theorem handle_outcomes : (c.handle line).console.dispatcher.outcomes = c.dispatcher.outcomes ++
    ((c.accepted? (.parse line)).bind fun r =>
      (c.dispatcher.session.enter r).1.bind (Outcome.of? r)).toList := by
  have lands := c.handle_lands line
  generalize c.accepted? (.parse line) = accepted at *
  cases lands with
  | settings dispatcher =>
    rw [dispatcher]
    exact (List.append_nil _).symm
  | start free _ dispatcher | stop free _ dispatcher | switch free dispatcher =>
    rw [dispatcher, Dispatcher.dispatch_free _ _ free]
    rfl

theorem accepted_session (r : Request) (accepted : c.accepted? (.parse line) = some r) :
    (c.handle line).console.dispatcher.session = (c.dispatcher.session.enter r).2 := by
  have lands := c.handle_lands line
  rw [accepted] at lands
  cases lands with
  | start _ _ dispatcher | stop _ _ dispatcher | switch _ dispatcher =>
    rw [dispatcher, Dispatcher.dispatch_session]

end Lines

section Handling

variable {ε ι : Type} [TunnelInterface ι]

/-- Handling an outcome asks for permission if that is lacking, and does nothing else to the session
or to the outcomes that wait. -/
theorem onOutcome_dispatcher (c : Console ε ι) (o : Outcome) : (c.onOutcome o).2.dispatcher =
    if o.lacksPermission then { c.dispatcher with session.interface :=
      (TunnelInterface.askPermission c.dispatcher.session.interface).2 }
    else c.dispatcher := by
  unfold onOutcome
  split
  · rfl
  · rfl
  · rename_i permitted _
    cases o with
    | startFailed message permission =>
      cases permission with
      | true => exact absurd rfl (permitted message)
      | false => rfl
    | _ => rfl

end Handling

/-- An event of a run, with the console that it found and the one that it left. -/
structure Transition (ε ι : Type) where
  before : Console ε ι
  event : Event
  after : Console ε ι

section Runs

variable {ε ι : Type} [Engine ε] [TunnelInterface ι] (u : Surroundings ε ι)

/-- The transitions of a run, the oldest first, and the console that they lead to. -/
inductive Trace (start : Console ε ι) : List (Transition ε ι) → Console ε ι → Prop
  | start : Trace start [] start
  | next {transitions c e next} : Trace start transitions c → Step u c e next →
      Trace start (transitions ++ [⟨c, e, next⟩]) next

namespace Transition

/-- The half of a request that the session is given: the first one by a line that has a request
accepted, the second one when the request in flight ends. -/
def half? (a : Transition ε ι) : Option Session.Event :=
  match a.event with
  | .line text => (a.before.accepted? (.parse text)).map fun r =>
      .enter r (a.before.dispatcher.session.enter r).1
  | .settle r verdict => some (.finish r verdict)
  | .outcome _ | .direct _ | .installs _ => none

/-- The outcome that is put at the end of those that wait. -/
def reported? (a : Transition ε ι) : Option Outcome := a.half?.bind Session.Event.outcome?

/-- The outcome that is handled. -/
def handled? (a : Transition ε ι) : Option Outcome :=
  match a.event with
  | .outcome o => some o
  | _ => none

/-- A line to start is accepted while start is enabled. -/
def isStart (a : Transition ε ι) : Bool :=
  match a.event with
  | .line text => a.before.startsBy text
  | _ => false

end Transition

variable {u} {start c next : Console ε ι} {e : Event} {transitions : List (Transition ε ι)}

/-- Each run has its trace. -/
theorem Run.trace {history : List Event} (run : Run u start history c) :
    ∃ transitions, transitions.map (·.event) = history ∧ Trace u start transitions c := by
  induction run with
  | start => exact ⟨[], rfl, .start⟩
  | @next history c e next _ step ih =>
    obtain ⟨transitions, events, trace⟩ := ih
    refine ⟨transitions ++ [⟨c, e, next⟩], ?_, trace.next step⟩
    rw [List.map_append, events]
    rfl

theorem Trace.step (trace : Trace u start transitions c) :
    ∀ a ∈ transitions, Step u a.before a.event a.after := by
  induction trace with
  | start => exact fun _ mem => absurd mem List.not_mem_nil
  | next _ step ih =>
    intro a mem
    rcases List.mem_append.mp mem with earlier | last
    · exact ih a earlier
    · rw [List.mem_singleton.mp last]
      exact step

/-- A trace can be taken up at each of its transitions. -/
theorem Trace.upTo {earlier later : List (Transition ε ι)} {a : Transition ε ι}
    (trace : Trace u start (earlier ++ a :: later) c) : Trace u start earlier a.before := by
  generalize eq : earlier ++ a :: later = whole at trace
  induction trace generalizing later with
  | start => simp at eq
  | @next transitions d e next before step ih =>
    rcases later.eq_nil_or_concat with rfl | ⟨later, last, rfl⟩
    · obtain ⟨rfl, same⟩ := List.append_inj' eq rfl
      obtain rfl := List.singleton_inj.mp same
      exact before
    · rw [List.concat_eq_append, ← List.cons_append, ← List.append_assoc] at eq
      exact ih (List.append_inj' eq rfl).1

/-- A step is an event of the session: the half of a request that it names, or no request. -/
theorem step_session (step : Step u c e next) (alone : e.isHalf = false) :
    ∃ call, Session.Step u.asking c.dispatcher.session call next.dispatcher.session ∧
      [call].filter Session.Event.isHalf = (Transition.half? ⟨c, e, next⟩).toList := by
  cases step with
  | line text =>
    cases accepted : c.accepted? (.parse text) with
    | none =>
      simp only [Transition.half?, accepted]
      rcases c.unaccepted_session text accepted with ⟨edit, edited⟩ | same
      · rw [edited]
        exact ⟨_, .edit _ edit, rfl⟩
      · rw [same]
        exact ⟨_, .poll _, rfl⟩
    | some r =>
      simp only [Transition.half?, accepted]
      rw [c.accepted_session text r accepted]
      exact ⟨_, .enter rfl, rfl⟩
  | settle h => exact ⟨_, (Dispatcher.Step.settle h).session, rfl⟩
  | @outcome o _ first =>
    rw [onOutcome_dispatcher]
    cases o.lacksPermission with
    | true => exact ⟨.drift, .interface _ (.inr rfl), rfl⟩
    | false => exact ⟨.poll, .poll _, rfl⟩
  | @direct e session h =>
    refine ⟨e, h.asking, ?_⟩
    exact List.filter_cons_of_neg (Bool.eq_false_iff.mp alone)
  | installs => exact ⟨.poll, .poll _, rfl⟩

/-- An outcome is handled in its turn. -/
theorem step_outcome {o : Outcome} (step : Step u c (.outcome o) next) :
    c.dispatcher.outcomes = o :: next.dispatcher.outcomes ∧ next.dispatcher.session =
      if o.lacksPermission then { c.dispatcher.session with
        interface := (TunnelInterface.askPermission c.dispatcher.session.interface).2 }
      else c.dispatcher.session := by
  cases step with
  | outcome first =>
    rw [onOutcome_dispatcher, first]
    split <;> exact ⟨rfl, rfl⟩

/-- What happens to the session is the halves that the transitions name, and nothing else that is a
request. -/
theorem Trace.session (trace : Trace u start transitions c)
    (alone : ∀ a ∈ transitions, a.event.isHalf = false) :
    ∃ calls, Session.Run u.asking start.dispatcher.session calls c.dispatcher.session ∧
      calls.filter Session.Event.isHalf = transitions.filterMap Transition.half? := by
  induction trace with
  | start => exact ⟨[], .start, rfl⟩
  | @next transitions c e next _ step ih =>
    obtain ⟨calls, run, halves⟩ := ih fun a mem => alone a (List.mem_append_left _ mem)
    obtain ⟨call, called, half⟩ := step_session step (alone ⟨c, e, next⟩ (by simp))
    refine ⟨calls ++ [call], run.next called, ?_⟩
    rw [List.filter_append, halves, half, List.filterMap_append]
    rfl

/-- The attempts to start are the lines that start. -/
theorem Transition.isAttempt_eq (a : Transition ε ι) :
    (a.half?.map Session.Event.isAttempt).getD false = a.isStart := by
  obtain ⟨before, event, after⟩ := a
  cases event with
  | line text =>
    rw [Bool.eq_iff_iff]
    change _ ↔ before.startsBy text = true
    rw [← accepted?_start_iff]
    have lands := before.handle_lands text
    simp only [half?]
    generalize before.accepted? (.parse text) = accepted at *
    cases lands with
    | settings | stop | switch => simp [Session.Event.isAttempt]
    | start free =>
      have attempt := enters_not_busy (enter_enters before.dispatcher.session .start) free
      simpa [Session.Event.isAttempt] using attempt
  | settle | outcome | direct | installs => rfl

theorem attempts_eq (transitions : List (Transition ε ι)) :
    (transitions.filterMap Transition.half?).countP Session.Event.isAttempt =
      transitions.countP Transition.isStart := by
  rw [List.countP_filterMap]
  simp only [Transition.isAttempt_eq]

theorem Transition.reported?_line (text : String) : Transition.reported? ⟨c, .line text, next⟩ =
    (c.accepted? (.parse text)).bind fun r =>
      (c.dispatcher.session.enter r).1.bind (Outcome.of? r) := by
  cases accepted : c.accepted? (.parse text) with
  | none => simp [reported?, half?, accepted]
  | some r => simp [reported?, half?, accepted, Session.Event.outcome?_enter]

end Runs

section Books

variable {ε ι : Type} [Engine ε] [TunnelInterface ι] {u : Surroundings ε ι}
  {start c next : Console (Recorded.Engine ε) (Recorded.Interface ι)} {e : Event}
  {transitions : List (Transition (Recorded.Engine ε) (Recorded.Interface ι))}

/-- What has been handled, and what the interface was asked, by what was reported. -/
structure Books (start : Console (Recorded.Engine ε) (Recorded.Interface ι))
    (transitions : List (Transition (Recorded.Engine ε) (Recorded.Interface ι)))
    (c : Console (Recorded.Engine ε) (Recorded.Interface ι)) : Prop where
  outcomes : transitions.filterMap Transition.handled? ++ c.dispatcher.outcomes =
    start.dispatcher.outcomes ++ transitions.filterMap Transition.reported?
  prompts : c.dispatcher.session.interface.prompts = start.dispatcher.session.interface.prompts +
    (transitions.filterMap Transition.handled?).countP Outcome.lacksPermission
  denials : c.dispatcher.session.interface.denials = start.dispatcher.session.interface.denials +
    (transitions.filterMap Transition.reported?).countP Outcome.lacksPermission

/-- The books of one transition. -/
theorem Books.single (a : Transition (Recorded.Engine ε) (Recorded.Interface ι))
    (outcomes : a.handled?.toList ++ a.after.dispatcher.outcomes =
      a.before.dispatcher.outcomes ++ a.reported?.toList)
    (prompts : a.after.dispatcher.session.interface.prompts =
      a.before.dispatcher.session.interface.prompts +
        a.handled?.toList.countP Outcome.lacksPermission)
    (denials : a.after.dispatcher.session.interface.denials =
      a.before.dispatcher.session.interface.denials +
        a.reported?.toList.countP Outcome.lacksPermission) : Books a.before [a] a.after :=
  ⟨outcomes, prompts, denials⟩

theorem line_books (text : String) :
    Books c [⟨c, .line text, (c.handle text).console⟩] (c.handle text).console := by
  have outcomes := c.handle_outcomes text
  have unaccepted := c.unaccepted_session text
  have session := c.accepted_session text
  generalize (c.handle text).console = next at *
  have reported : Transition.reported? ⟨c, .line text, next⟩ = _ := Transition.reported?_line text
  rw [← reported] at outcomes
  cases accepted : c.accepted? (.parse text) with
  | none =>
    have same : next.dispatcher.session.interface = c.dispatcher.session.interface := by
      rcases unaccepted accepted with ⟨_, edited⟩ | same
      · rw [edited]
      · rw [same]
    rw [accepted] at reported
    refine .single ⟨c, .line text, next⟩ outcomes (congrArg _ same) ?_
    rw [reported]
    exact congrArg _ same
  | some r =>
    have enters := enter_enters c.dispatcher.session r
    rw [← session r accepted] at enters
    rw [accepted] at reported
    refine .single ⟨c, .line text, next⟩ outcomes (enters_prompts enters) ?_
    rw [reported]
    exact enters_denials enters

theorem settle_books {r : Request} {v : Verdict}
    {s : Session (Recorded.Engine ε) (Recorded.Interface ι)}
    (h : c.dispatcher.session.finish = (some (r, v), s)) :
    Books c [⟨c, .settle r v, c.settle⟩] c.settle := by
  obtain ⟨flight, _, rfl, finishes⟩ := finishes_of_eq h
  obtain ⟨prompts, denials⟩ := finishes_counts finishes
  have settled : c.settle.dispatcher =
      ⟨s, c.dispatcher.outcomes ++ (Outcome.of? flight.request v).toList⟩ := by
    rw [settle, Dispatcher.settle_eq, h]
    rfl
  generalize c.settle = next at *
  have permitted : (Outcome.of? flight.request v).toList.countP Outcome.lacksPermission = 0 := by
    simpa [List.countP_eq_zero] using fun o => finishes_permitted (o := o) finishes
  refine .single ⟨c, .settle flight.request v, next⟩ ?_ ?_ ?_
  · rw [settled]
    rfl
  · rw [settled]
    exact prompts
  · rw [settled]
    change _ = _ + (Outcome.of? flight.request v).toList.countP Outcome.lacksPermission
    rw [permitted]
    exact denials

theorem outcome_books {o : Outcome} {outcomes : List Outcome}
    (first : c.dispatcher.outcomes = o :: outcomes) :
    let next := ({ c with dispatcher.outcomes := outcomes }.onOutcome o).2
    Books c [⟨c, .outcome o, next⟩] next := by
  intro next
  have dispatcher : next.dispatcher = _ :=
    onOutcome_dispatcher { c with dispatcher.outcomes := outcomes } o
  generalize next = next at *
  refine .single ⟨c, .outcome o, next⟩ ?_ ?_ ?_
  · rw [dispatcher, first]
    split <;> simp [Transition.handled?, Transition.reported?, Transition.half?]
  · rw [dispatcher]
    cases lacks : o.lacksPermission with
    | true => simp [Transition.handled?, lacks, Recorded.Interface.prompts_askPermission]
    | false => simp [Transition.handled?, lacks]
  · rw [dispatcher]
    cases lacks : o.lacksPermission with
    | true =>
      simp [Transition.reported?, Transition.half?, Recorded.Interface.denials_askPermission]
    | false => simp [Transition.reported?, Transition.half?]

/-- What others do to the session, short of requests, is written in no record. -/
theorem direct_interface {call : Session.Event} {s : Session _ _}
    (h : Session.Step (Recorded.surroundings u) c.dispatcher.session call s)
    (alone : call.isHalf = false) : s.interface.calls = c.dispatcher.session.interface.calls := by
  cases h with
  | enter | finish => cases alone
  | reconcile =>
    rcases c.dispatcher.session.reconcile_cases with same | ⟨_, _, _, dropped⟩
    · rw [same]
    · rw [dropped]
  | interface _ h => exact h.2
  | edit | engine | poll => rfl

theorem step_books (step : Step (Recorded.surroundings u) c e next) (alone : e.isHalf = false) :
    Books c [⟨c, e, next⟩] next := by
  cases step with
  | line text => exact line_books text
  | settle h => exact settle_books h
  | outcome first => exact outcome_books first
  | @direct call session h =>
    have calls := (direct_interface h alone).trans (List.append_nil _).symm
    exact .single ⟨c, .direct call, { c with dispatcher.session := session }⟩
      (List.append_nil _).symm (Recorded.Interface.prompts_of_calls calls)
      (Recorded.Interface.denials_of_calls calls)
  | installs apps =>
    exact .single ⟨c, .installs apps, { c with installed := apps }⟩ (List.append_nil _).symm rfl rfl

theorem Books.append {first second : List (Transition (Recorded.Engine ε) (Recorded.Interface ι))}
    (books : Books start first c) (more : Books c second next) :
    Books start (first ++ second) next := by
  refine ⟨?_, ?_, ?_⟩
  · rw [List.filterMap_append, List.filterMap_append, List.append_assoc, more.outcomes,
      ← List.append_assoc, books.outcomes, List.append_assoc]
  · rw [more.prompts, books.prompts, List.filterMap_append, List.countP_append, Nat.add_assoc]
  · rw [more.denials, books.denials, List.filterMap_append, List.countP_append, Nat.add_assoc]

theorem Trace.books (trace : Trace (Recorded.surroundings u) start transitions c)
    (alone : ∀ a ∈ transitions, a.event.isHalf = false) : Books start transitions c := by
  induction trace with
  | start => exact ⟨(List.append_nil _).symm, rfl, rfl⟩
  | @next transitions c e next _ step ih =>
    have before := ih fun a mem => alone a (List.mem_append_left _ mem)
    exact before.append (step_books step (alone ⟨c, e, next⟩ (by simp)))

/-- A line to start, which was denied and did not come to its engine call. -/
structure Transition.IsDenied (a : Transition (Recorded.Engine ε) (Recorded.Interface ι)) :
    Prop where
  start : a.isStart = true
  interface : ∃ config, a.after.dispatcher.session.interface.calls =
    a.before.dispatcher.session.interface.calls ++
      [.establish config (.error .permissionDenied)]
  engine : a.after.dispatcher.session.engine = a.before.dispatcher.session.engine

/-- An outcome that lacks permission comes from a start that was denied. -/
theorem isDenied_of_lacks (step : Step (Recorded.surroundings u) c e next) {o : Outcome}
    (reported : Transition.reported? ⟨c, e, next⟩ = some o) (lacks : o.lacksPermission = true) :
    Transition.IsDenied ⟨c, e, next⟩ := by
  cases step with
  | line text =>
    have session := c.accepted_session text
    generalize (c.handle text).console = next at *
    rw [Transition.reported?_line] at reported
    obtain ⟨r, accepted, ended⟩ := Option.bind_eq_some_iff.mp reported
    have enters := enter_enters c.dispatcher.session r
    obtain ⟨rfl, engine, config, calls⟩ := enters_lacks enters ended lacks
    rw [← session _ accepted] at engine calls
    exact ⟨accepted?_start_iff.mp accepted, ⟨config, calls⟩, engine⟩
  | settle h =>
    obtain ⟨flight, _, rfl, finishes⟩ := finishes_of_eq h
    cases (finishes_permitted finishes reported).symm.trans lacks
  | outcome | direct | installs => cases reported

/-- **Permission is asked for once for each denial, and no start is tried again by itself.** Take
any console, over any engine, any interface and any answers of the user, on whatever session it was
connected to, and any run in which nobody else makes requests of the session; each outcome may be
handled at any later moment. The outcomes that were handled, with those that wait, are those that
were reported, in their order. The user was asked as often as outcomes were handled that lack
permission, and permission was denied as often as that, and once more for each of these that waits.
Each one that was handled comes from an earlier line to start, which had the interface answer that
permission is denied, and did not come to its engine call. The requests that were made of the
session are those that lines have had accepted: it was tried to start as often as a line to start
was accepted while start was enabled. To handle an outcome makes no request: it takes the outcome
from those that wait, and of the session it changes nothing, but that the interface asks the user if
permission was lacking. -/
theorem permission_asked_once {session : Session (Recorded.Engine ε) (Recorded.Interface ι)}
    {installed : List InstalledApp}
    (trace : Trace (Recorded.surroundings u) (.connect session installed) transitions c)
    (alone : ∀ a ∈ transitions, a.event.isHalf = false) :
    let handled := transitions.filterMap Transition.handled?
    let halves := transitions.filterMap Transition.half?
    let interface := c.dispatcher.session.interface
    handled ++ c.dispatcher.outcomes = transitions.filterMap Transition.reported? ∧
    interface.prompts = session.interface.prompts + handled.countP Outcome.lacksPermission ∧
    interface.denials = session.interface.denials + handled.countP Outcome.lacksPermission +
      c.dispatcher.outcomes.countP Outcome.lacksPermission ∧
    (∀ earlier a later o, transitions = earlier ++ a :: later → a.event = .outcome o →
      o.lacksPermission = true → ∃ n ∈ earlier, n.reported? = some o ∧ n.IsDenied) ∧
    (∃ calls, Session.Run (Recorded.surroundings u).asking session.reconcile.2 calls
        c.dispatcher.session ∧
      calls.filter Session.Event.isHalf = halves) ∧
    halves.countP Session.Event.isAttempt = transitions.countP Transition.isStart ∧
    ∀ a ∈ transitions, ∀ o, a.event = .outcome o → a.half? = none ∧
      a.before.dispatcher.outcomes = o :: a.after.dispatcher.outcomes ∧
      a.after.dispatcher.session =
        if o.lacksPermission then { a.before.dispatcher.session with
          interface := (TunnelInterface.askPermission a.before.dispatcher.session.interface).2 }
        else a.before.dispatcher.session := by
  intro handled halves interface
  have books := trace.books alone
  have reported : transitions.filterMap Transition.reported? = handled ++ c.dispatcher.outcomes :=
    books.outcomes.symm
  have same : (connect session installed).dispatcher.session.interface = session.interface := by
    change session.reconcile.2.interface = _
    rcases session.reconcile_cases with same | ⟨_, _, _, dropped⟩
    · rw [same]
    · rw [dropped]
  refine ⟨books.outcomes, ?_, ?_, ?_, trace.session alone, attempts_eq transitions, ?_⟩
  · rw [← same]
    exact books.prompts
  · rw [Nat.add_assoc, ← List.countP_append, ← reported, ← same]
    exact books.denials
  · intro earlier a later o split handles lacks
    subst split
    have before := trace.upTo.books fun a mem => alone a (List.mem_append_left _ mem)
    have step := trace.step a (by simp)
    rw [handles] at step
    have mem : o ∈ earlier.filterMap Transition.reported? := by
      have queue := before.outcomes
      rw [(step_outcome step).1] at queue
      change _ = [] ++ _ at queue
      rw [List.nil_append] at queue
      rw [← queue]
      simp
    obtain ⟨n, mem, reports⟩ := List.mem_filterMap.mp mem
    exact ⟨n, mem, reports, isDenied_of_lacks (trace.step n (List.mem_append_left _ mem)) reports
      lacks⟩
  · intro a mem o handles
    have step := trace.step a mem
    rw [handles] at step
    obtain ⟨queue, session⟩ := step_outcome step
    refine ⟨?_, queue, session⟩
    rw [Transition.half?, handles]

end Books

section Denied

/-- A session over an interface that has no permission. -/
def withoutPermission :
    Session (Recorded.Engine Scripted.Engine) (Recorded.Interface Scripted.Interface) :=
  (Recorded.overScript {} { permission := false }).session

def denial : Outcome := .startFailed "VPN permission required" true

/-- The user is asked when the first denial is handled; the start that is typed then is denied too,
and that waits. -/
theorem permission_asked_once_over_denials : ∃ transitions c,
    Trace (Recorded.surroundings Scripted.surroundings) (.connect withoutPermission [])
      transitions c ∧
    transitions.map (·.event) = [.line "start", .outcome denial, .line "start"] ∧
    c.dispatcher.session.interface.prompts = 1 ∧ c.dispatcher.session.interface.denials = 2 ∧
    (transitions.filterMap Transition.half?).countP Session.Event.isAttempt = 2 := by
  have trace : Trace (Recorded.surroundings Scripted.surroundings) (.connect withoutPermission [])
      _ _ :=
    ((Trace.start.next (.line "start")).next (.outcome rfl)).next (.line "start")
  obtain ⟨_, prompts, denials, _, _, attempts, _⟩ :=
    permission_asked_once trace (by simp [Event.isHalf])
  refine ⟨_, _, trace, rfl, ?_, ?_, ?_⟩
  · rw [prompts]
    rfl
  · rw [denials]
    decide +kernel
  · rw [attempts]
    decide +kernel

end Denied

end Console

end TunnelSession
