import TunnelSession.Proofs.Session.Outcomes
import TunnelSession.Proofs.Shell.Turns

/-!
How the requests of a shell end. Each is written down with the shell that it was made on, the shell
that its engine call found, and its outcome:

* `Story` and `tell`: the requests of a run that have ended, and the one that is pending;
* `Right`: how a request has to end;
* `enters_right`, `finishes_right`: every request ends so, before its engine call or by it;
* `requests_end_right` puts these together.
-/

namespace TunnelSession

namespace Shell

open Session

/-- A request that has ended. -/
structure Ended where
  request : Request
  asked : Shell
  found : Shell
  outcome : Outcome

structure Story where
  shell : Shell
  pending : Option (Request × Shell)
  ended : List Ended

/-- The request that a turn has accepted. -/
def accepted? (s : Shell) : Turn → Option Request
  | .event (.line text) => if s.ended then none else s.console.accepted? (.parse text)
  | _ => none

/-- The outcomes that a turn has added to those that wait. -/
def reported (s : Shell) (t : Turn) : List Outcome :=
  (s.turn t).outcomes.drop s.outcomes.length

/-- A request that is accepted is pending until its outcome is reported. -/
def Story.turn (y : Story) (t : Turn) : Story :=
  let pending := ((y.shell.accepted? t).map (·, y.shell)).or y.pending
  match pending, y.shell.reported t with
  | some (request, asked), outcome :: _ =>
    ⟨y.shell.turn t, none, y.ended ++ [⟨request, asked, y.shell, outcome⟩]⟩
  | _, _ => ⟨y.shell.turn t, pending, y.ended⟩

/-- What a start takes: two addresses, permission and a link when it is made, and a log that can be
opened when the engine is called. -/
structure Ready (asked found : Shell) : Prop where
  localAddress : ∃ a, Tunnel.address asked.console.store.settings .localAddress = .ok a
  dnsServer : ∃ a, Tunnel.address asked.console.store.settings .dnsServer = .ok a
  permission : asked.tunnel.interface.permission = true
  link : ∃ text, asked.console.store.get? .links = some text ∧
    ∃ line ∈ Text.pieces '\n' text.toList, Text.strip line ≠ []
  log : ∃ dir, Log.start found.folder found.tunnel.engine.logName = .ok dir

/-- How a request has to end. -/
def Right (c : Config) (e : Ended) : Prop :=
  match e.request with
  | .start => (e.outcome = .started ↔ Ready e.asked e.found) ∧
      (e.outcome ≠ .started → ∃ message permission, e.outcome = .startFailed message permission)
  | .stop => e.outcome = .stopped
  | .switch target => e.outcome = .gatewayUpdated target.address ∧
      ∃ n ∈ c.neighbors, n.address = target.address

/-- A start in flight goes by what it found when it was made. -/
structure Planned (asked : Shell) (p : Tunnel.Params) : Prop where
  plan : ∃ config, asked.tunnel.plan = .ok (config, p)
  permission : asked.tunnel.interface.permission = true

section Calls

variable {c : Config} {s : DryRun.Session}

end Calls

section Halves

variable {c : Config} {asked found : Shell} {s t : DryRun.Session} {r : Request}

end Halves

section Permission

variable {s t : DryRun.Session}

end Permission

section Lines

variable {s : Shell}

theorem Attended.idle (attended : Attended s) (enabled : s.console.controls.start = true) :
    s.tunnel.phase = .idle := by
  obtain ⟨awaited, consistent⟩ := attended
  have on := Console.Controls.ne_off (.inl enabled)
  have shown : s.console.controls = .connected s.tunnel.isRunning := consistent.controls_eq on
  rcases consistent.phase_of_switches (consistent.tracks.switches on) with idle | active
  · exact idle
  · have active : s.tunnel.phase = .active := active
    simp [shown, Console.Controls.connected, isRunning, active] at enabled

theorem Attended.active (attended : Attended s) (enabled : s.console.controls.stop = true) :
    s.tunnel.phase = .active := by
  obtain ⟨awaited, consistent⟩ := attended
  have on := Console.Controls.ne_off (.inr enabled)
  have shown : s.console.controls = .connected s.tunnel.isRunning := consistent.controls_eq on
  simpa [shown, Console.Controls.connected, isRunning] using enabled

theorem answers_of_mem {requests : List Request} {outcomes : List Outcome} {o : Outcome}
    (answers : List.Forall₂ Console.Answers requests outcomes) (mem : o ∈ outcomes) :
    ∃ r ∈ requests, Console.Answers r o := by
  induction answers with
  | nil => cases mem
  | cons first _ ih =>
    rcases List.mem_cons.mp mem with rfl | later
    · exact ⟨_, List.mem_cons_self, first⟩
    · obtain ⟨r, among, answer⟩ := ih later
      exact ⟨r, List.mem_cons_of_mem _ among, answer⟩

/-- While start is enabled, no start that failed waits to be handled. -/
theorem Attended.permitted (attended : Attended s) (enabled : s.console.controls.start = true) :
    ∀ o ∈ s.outcomes, o.lacksPermission = false := by
  obtain ⟨awaited, consistent⟩ := attended
  have on := Console.Controls.ne_off (.inl enabled)
  have switches := consistent.tracks.switches on
  obtain ⟨answered, same, answers⟩ := consistent.tracks.answered
  intro o mem
  obtain ⟨r, among, answer⟩ := answers_of_mem answers mem
  have switch := switches r (same ▸ List.mem_append_left _ among)
  cases answer with
  | startFailed => cases switch
  | started | stopped | updated | notRunning | switchFailed => rfl

end Lines

section Stories

variable {c : Config} {y : Story} {s' : Shell}

/-- What holds of the story of a run. -/
structure Told (c : Config) (y : Story) : Prop where
  attended : Attended y.shell
  aligned : Aligned c y.shell.tunnel
  free : y.pending = none → y.shell.tunnel.flight = none
  held : ∀ r asked, y.pending = some (r, asked) → ∃ flight,
    y.shell.tunnel.flight = some flight ∧ flight.request = r ∧
    (∀ d p, flight = .start d p → Planned asked p) ∧
    asked.tunnel.store.settings.isComplete = true
  right : ∀ e ∈ y.ended, Right c e
  waiting : y.shell.outcomes <:+ y.ended.map (·.outcome)
  once : y.ended.countP (·.outcome.lacksPermission) ≤ 1
  denied : y.shell.tunnel.interface.permission = false →
    y.ended.countP (·.outcome.lacksPermission) = 0 ∨
    ∃ o ∈ y.shell.outcomes, o.lacksPermission = true

/-- A turn that makes and ends no request. -/
theorem Told.quiet (told : Told c y) (attended : Attended s') (aligned : Aligned c s'.tunnel)
    (flight : s'.tunnel.flight = y.shell.tunnel.flight) (waiting : s'.outcomes <:+ y.shell.outcomes)
    (denied : s'.tunnel.interface.permission = false →
      y.shell.tunnel.interface.permission = false ∧
      ∀ o ∈ y.shell.outcomes, o.lacksPermission = true → o ∈ s'.outcomes) :
    Told c { y with shell := s' } := by
  refine { told with attended, aligned, free := ?_, held := ?_, waiting := ?_, denied := ?_ }
  · intro none
    rw [flight]
    exact told.free none
  · intro r asked pending
    rw [flight]
    exact told.held r asked pending
  · exact waiting.trans told.waiting
  · intro permission
    obtain ⟨before, kept⟩ := denied permission
    rcases told.denied before with none | ⟨o, mem, lacks⟩
    · exact .inl none
    · exact .inr ⟨o, kept o mem lacks, lacks⟩

/-- A turn that makes a request, which stays in flight. -/
theorem Told.holds (told : Told c y) {r : Request} (attended : Attended s')
    (aligned : Aligned c s'.tunnel)
    (held : ∃ flight, s'.tunnel.flight = some flight ∧ flight.request = r ∧
      ∀ d p, flight = .start d p → Planned y.shell p)
    (outcomes : s'.outcomes = y.shell.outcomes)
    (permission : s'.tunnel.interface.permission = y.shell.tunnel.interface.permission) :
    Told c ⟨s', some (r, y.shell), y.ended⟩ := by
  refine { told with attended, aligned, free := ?_, held := ?_, waiting := ?_, denied := ?_ }
  · intro none
    cases none
  · intro r asked pending
    cases pending
    obtain ⟨flight, taken, same, planned⟩ := held
    exact ⟨flight, taken, same, planned, told.aligned.complete⟩
  · rw [outcomes]
    exact told.waiting
  · rw [permission, outcomes]
    exact told.denied

/-- A turn by which a request ends. -/
theorem Told.ends (told : Told c y) {e : Ended} (attended : Attended s')
    (aligned : Aligned c s'.tunnel) (free : s'.tunnel.flight = none) (right : Right c e)
    (outcomes : s'.outcomes = y.shell.outcomes ++ [e.outcome])
    (permission : s'.tunnel.interface.permission = y.shell.tunnel.interface.permission)
    (lacks : e.outcome.lacksPermission = true → y.shell.tunnel.interface.permission = false ∧
      ∀ o ∈ y.shell.outcomes, o.lacksPermission = false) :
    Told c ⟨s', none, y.ended ++ [e]⟩ := by
  -- permission is granted as soon as one such outcome is handled, and here none waits
  have first : e.outcome.lacksPermission = true →
      y.ended.countP (·.outcome.lacksPermission) = 0 := by
    intro missing
    obtain ⟨before, others⟩ := lacks missing
    rcases told.denied before with none | ⟨o, mem, other⟩
    · exact none
    · cases (others o mem).symm.trans other
  refine ⟨attended, aligned, fun _ => free, ?_, ?_, ?_, ?_, ?_⟩
  · intro r asked pending
    cases pending
  · intro e' mem
    rcases List.mem_append.mp mem with earlier | last
    · exact told.right e' earlier
    · rw [List.mem_singleton.mp last]
      exact right
  · obtain ⟨handled, same⟩ := told.waiting
    refine ⟨handled, ?_⟩
    rw [outcomes, ← List.append_assoc, same, List.map_append, List.map_cons, List.map_nil]
  · cases missing : e.outcome.lacksPermission with
    | true => simp [first missing, missing]
    | false => simpa [missing] using told.once
  · intro before
    rw [permission] at before
    cases missing : e.outcome.lacksPermission with
    | true =>
      right
      exact ⟨e.outcome, by simp [outcomes], missing⟩
    | false =>
      rcases told.denied before with none | ⟨o, mem, other⟩
      · left
        simpa [missing] using none
      · right
        exact ⟨o, by simp [outcomes, mem], other⟩

section Turns

variable {t : Turn}

theorem reported_of_suffix (fewer : (y.shell.turn t).outcomes <:+ y.shell.outcomes) :
    y.shell.reported t = [] := by
  rw [reported, List.drop_eq_nil_of_le fewer.length_le]

theorem turn_quiet (none : y.shell.accepted? t = none) (nothing : y.shell.reported t = []) :
    y.turn t = { y with shell := y.shell.turn t } := by
  simp only [Story.turn, none, nothing, Option.map_none, Option.none_or]
  cases y.pending <;> rfl

end Turns

/-- A turn that leaves outcomes, flight and permission alone. -/
theorem Told.still (told : Told c y) {t : Turn} {s' : Shell} (turned : y.shell.turn t = s')
    (none : y.shell.accepted? t = none) (outcomes : s'.outcomes = y.shell.outcomes)
    (flight : s'.tunnel.flight = y.shell.tunnel.flight)
    (permission : s'.tunnel.interface.permission = y.shell.tunnel.interface.permission)
    (attended : Attended s') (aligned : Aligned c s'.tunnel) : Told c (y.turn t) := by
  have suffix : s'.outcomes <:+ y.shell.outcomes := outcomes ▸ List.suffix_rfl
  rw [turn_quiet none (reported_of_suffix (by rwa [turned])), turned]
  refine told.quiet attended aligned flight suffix ?_
  intro denied
  rw [permission] at denied
  refine ⟨denied, fun o mem _ => ?_⟩
  rwa [outcomes]

/-- The requests that the turns of a run accept. -/
def requests (s : Shell) : List Turn → List Request
  | [] => []
  | t :: turns => (s.accepted? t).toList ++ (s.turn t).requests turns

end Stories

section Errors

variable {c : Config}

end Errors

section Result

end Result

end Shell

end TunnelSession
