import TunnelSession.Proofs.DryRun.Engine
import TunnelSession.Proofs.Log.Names
import TunnelSession.Proofs.Neighbors

/-!
Sequences of calls on a dry run, over storage folders whose logs can be written, with no heartbeat
becoming due.

* `World.step`: what a call leaves, and `Trace`, a sequence of calls with the worlds that they find;
* `World.accepts` and `Call.texts`: which calls are accepted, and what an accepted one logs;
* `World.reply_comes`: the ends of each call, and `World.comes_adds`, what it adds to its log;
* `Trace.runs`, `Trace.descriptors`, `Trace.held` and `Trace.aged`: what has become of the session,
  the descriptors, the files and the order of their lines after a sequence of calls;
* `calls_logged` puts these together.
-/

namespace TunnelSession.DryRun

/-- A call on the engine, or some time that passes between two. -/
inductive Call where
  | start (d : Descriptor) (p : Tunnel.Params)
  | stop
  | redirect (target : Address)
  | neighbors
  | wait (nanoseconds : Nat)

/-- What a call that is accepted adds to the log. -/
def Call.texts : Call → List String
  | .start d p =>
    "hello" ::
    ("name=" ++ p.localName ++ " address=" ++ p.localAddress.text ++ " gateway=" ++ p.gateway ++
      " fd=" ++ toString d.fd) ::
    p.links.map ("link " ++ ·)
  | .stop => ["bye"]
  | .redirect target => ["gateway -> " ++ target.text]
  | .neighbors | .wait _ => []

theorem Call.texts_start (d : Descriptor) (p : Tunnel.Params) :
    (Call.start d p).texts = Engine.greeting d p := rfl

/-- An engine over storage folders. `storage` is the folder that a path leads to, and `place` the
one with the log of the session that runs. -/
structure World (κ : Type) where
  engine : Engine
  storage : String → κ
  folders : κ → Folder
  place : κ

/-- The log that is written, or the one that would be opened. -/
def Engine.log (e : Engine) : FileName := (e.running.map (·.log)).getD e.logName

section

variable {e : Engine}

theorem Engine.log_up {r : Running} (up : e.running = some r) : e.log = r.log := by
  rw [log, up, Option.map_some, Option.getD_some]

theorem Engine.log_down (down : e.running = none) : e.log = e.logName := by
  rw [log, down, Option.map_none, Option.getD_none]

end

/-- A line of a log, with the folder that the log is in. -/
structure Written (κ : Type) where
  place : κ
  log : FileName
  moment : Moment
  text : String

def Written.line {κ : Type} (e : Written κ) : String := Log.line e.moment e.text

namespace World

variable {κ : Type} (w : World κ)

/-- The folder that a call may write to. -/
def target : Call → κ
  | .start _ p => if w.engine.running.isSome then w.place else w.storage p.storage
  | _ => w.place

def reply (c : Call) : Reply Engine :=
  let dir := w.folders (w.target c)
  match c with
  | .start d p => w.engine.start dir d p
  | .stop => w.engine.stop dir
  | .redirect target => w.engine.redirect dir target
  | .neighbors => ⟨.ok (), w.engine, dir, []⟩
  | .wait nanoseconds =>
    let (engine, dir) := w.engine.advance dir (w.engine.now.after nanoseconds)
    ⟨.ok (), engine, dir, []⟩

def step [DecidableEq κ] (c : Call) : World κ :=
  { w with
    engine := (w.reply c).engine
    folders := fun k => if k = w.target c then (w.reply c).dir else w.folders k
    place := w.target c }

/-- A start is accepted while nothing runs, if there are links; a new gateway while the engine runs,
if it is a neighbor; and a stop takes leave of what runs. -/
def accepts : Call → Bool
  | .start _ p => w.engine.running.isNone && p.links ≠ []
  | .redirect target => w.engine.running.isSome && w.engine.known.any (·.address = target)
  | .stop => w.engine.running.isSome
  | .neighbors | .wait _ => false

/-- A start that is accepted can open its log, and no heartbeat becomes due. -/
def Ready : Call → Prop
  | .start d p => w.accepts (.start d p) = true →
      (w.folders (w.target (.start d p))).Writable w.engine.logName
  | .wait nanoseconds => ∀ r, w.engine.running = some r →
      w.engine.now.nanoseconds + nanoseconds < r.due.nanoseconds
  | .stop | .redirect _ | .neighbors => True

/-- What a call writes. -/
def writes (c : Call) : List (Written κ) :=
  if w.accepts c then c.texts.map (⟨w.target c, w.engine.log, w.engine.now, ·⟩) else []

variable {w}

theorem accepts_start_iff {d : Descriptor} {p : Tunnel.Params} :
    w.accepts (.start d p) = true ↔ w.engine.running = none ∧ p.links ≠ [] := by
  simp [accepts, Option.isNone_iff_eq_none]

theorem accepts_redirect_iff {a : Address} : w.accepts (.redirect a) = true ↔
    w.engine.running ≠ none ∧ ∃ n ∈ w.engine.known, n.address = a := by
  simp [accepts, Option.isSome_iff_ne_none]

theorem accepts_stop_iff : w.accepts .stop = true ↔ w.engine.running ≠ none := by
  simp [accepts, Option.isSome_iff_ne_none]

/-- The session that a start opens. -/
def opened (w : World κ) (d : Descriptor) (p : Tunnel.Params) : Running :=
  ⟨d, p.gateway, w.engine.logName, w.engine.now.after w.engine.period⟩

/-- What a call comes to, where a log can be opened. -/
inductive Comes (w : World κ) : Call → Reply Engine → Prop
  | started {d p dir} (accepted : w.accepts (.start d p) = true)
      (log : Log.start (w.folders (w.target (.start d p))) w.engine.logName = .ok dir) :
      Comes w (.start d p) ⟨.ok (), { w.engine with running := some (w.opened d p) },
        Engine.write dir w.engine.logName w.engine.now (Engine.greeting d p), []⟩
  | notStarted {d p cause} (refused : w.accepts (.start d p) = false) :
      Comes w (.start d p) ⟨.error cause, w.engine, w.folders (w.target (.start d p)), [d]⟩
  | stopped {r} (up : w.engine.running = some r) : Comes w .stop ⟨.ok (),
        { w.engine with running := none },
        Engine.write (w.folders w.place) r.log w.engine.now ["bye"], [r.descriptor]⟩
  | notStopped (down : w.engine.running = none) :
      Comes w .stop ⟨.ok (), w.engine, w.folders w.place, []⟩
  | redirected {a r} (accepted : w.accepts (.redirect a) = true) (up : w.engine.running = some r) :
      Comes w (.redirect a) ⟨.ok (),
        { w.engine with running := some { r with gateway := a.text } },
        Engine.write (w.folders w.place) r.log w.engine.now ["gateway -> " ++ a.text], []⟩
  | notRedirected {a cause} (refused : w.accepts (.redirect a) = false) :
      Comes w (.redirect a) ⟨.error cause, w.engine, w.folders w.place, []⟩
  | answered : Comes w .neighbors ⟨.ok (), w.engine, w.folders w.place, []⟩
  | waited {n} : Comes w (.wait n)
      ⟨.ok (), { w.engine with now := w.engine.now.after n }, w.folders w.place, []⟩

theorem advance_ready {n : Nat} (ready : w.Ready (.wait n)) (dir : Folder) :
    w.engine.advance dir (w.engine.now.after n) =
      ({ w.engine with now := w.engine.now.after n }, dir) := by
  cases up : w.engine.running with
  | none => exact Engine.advance_down up _
  | some r =>
    have none_due : w.engine.beatsBy (w.engine.now.after n) r = 0 := if_pos (ready r up)
    simp only [Engine.advance, up, none_due, Engine.beat]

theorem redirect_refused {a : Address} (refused : w.accepts (.redirect a) = false) (dir : Folder) :
    ∃ cause, w.engine.redirect dir a = ⟨.error cause, w.engine, dir, []⟩ := by
  cases up : w.engine.running with
  | none => exact ⟨.notRunning, by simp only [Engine.redirect, up]⟩
  | some r =>
    have unknown : w.engine.known.any (·.address = a) = false := by
      simpa only [accepts, up, Option.isSome_some, Bool.true_and] using refused
    refine ⟨.gatewayRejected (a.text ++ " is not a neighbor"), ?_⟩
    simp only [Engine.redirect, up, unknown, Bool.false_eq_true, ↓reduceIte]

theorem reply_comes {c : Call} (ready : w.Ready c) : Comes w c (w.reply c) := by
  cases c with
  | start d p =>
    have starts := w.engine.start_starts (w.folders (w.target (.start d p))) d p
    change Comes w _ (w.engine.start _ d p)
    generalize w.engine.start _ d p = reply at *
    cases starts with
    | running up => exact .notStarted (by simp [accepts, up])
    | linkless down linkless => exact .notStarted (by simp [accepts, linkless])
    | unlogged down linked log =>
      have able := ready (accepts_start_iff.mpr ⟨down, linked⟩)
      obtain ⟨dir, opens⟩ := Folder.Writable.modify_ok able id
      cases log.symm.trans opens
    | started down linked log => exact .started (accepts_start_iff.mpr ⟨down, linked⟩) log
  | stop =>
    change Comes w _ (w.engine.stop (w.folders w.place))
    cases up : w.engine.running with
    | none =>
      rw [Engine.stop_down up]
      exact .notStopped up
    | some r =>
      rw [Engine.stop_up up]
      exact .stopped up
  | redirect a =>
    change Comes w _ (w.engine.redirect (w.folders w.place) a)
    cases accepted : w.accepts (.redirect a) with
    | true =>
      obtain ⟨up, known⟩ := accepts_redirect_iff.mp accepted
      obtain ⟨r, up⟩ := Option.ne_none_iff_exists'.mp up
      rw [Engine.redirect_known up known]
      exact .redirected accepted up
    | false =>
      obtain ⟨cause, rejects⟩ := redirect_refused accepted (w.folders w.place)
      rw [rejects]
      exact .notRedirected accepted
  | neighbors => exact .answered
  | wait n =>
    change Comes w _ ⟨.ok (), (w.engine.advance (w.folders w.place) _).1,
      (w.engine.advance (w.folders w.place) _).2, []⟩
    rw [advance_ready ready]
    exact .waited

theorem lines_accepted {c : Call} (accepted : w.accepts c = true) :
    (w.writes c).map Written.line = c.texts.map (Log.line w.engine.now) := by
  rw [writes, if_pos accepted, List.map_map]
  rfl

theorem writes_refused {c : Call} (refused : w.accepts c = false) : w.writes c = [] := by
  rw [writes, refused]
  rfl

/-- What a call adds to its log: all that it writes, and nothing to another one. -/
theorem comes_adds {c : Call} {reply : Reply Engine} (comes : Comes w c reply)
    (able : ∀ r, w.engine.running = some r → (w.folders w.place).Writable r.log) :
    Log.Adds (w.folders (w.target c)) reply.dir w.engine.log ((w.writes c).map Written.line) := by
  cases comes with
  | @started d p dir accepted log =>
    obtain ⟨same, writable⟩ := Log.start_eq_ok log
    have down := (accepts_start_iff.mp accepted).1
    rw [lines_accepted accepted, Engine.log_down down, Call.texts_start]
    exact same.trans (Engine.write_adds writable w.engine.now _)
  | @stopped r up =>
    rw [lines_accepted (accepts_stop_iff.mpr (by simp [up])), Engine.log_up up]
    exact Engine.write_adds (able r up) w.engine.now _
  | @redirected a r accepted up =>
    rw [lines_accepted accepted, Engine.log_up up]
    exact Engine.write_adds (able r up) w.engine.now _
  | notStarted refused | notRedirected refused =>
    rw [writes_refused refused]
    exact Log.adds_nil _ _
  | notStopped down =>
    rw [writes_refused (by simp [accepts, down])]
    exact Log.adds_nil _ _
  | answered | waited =>
    rw [writes_refused rfl]
    exact Log.adds_nil _ _

end World

/-- A call, with the world that it finds. -/
structure Made (κ : Type) where
  before : World κ
  call : Call

namespace Made

variable {κ : Type} (x : Made κ)

def reply : Reply Engine := x.before.reply x.call

def writes : List (Written κ) := x.before.writes x.call

/-- What a stop releases. -/
def released : List Descriptor :=
  match x.call with
  | .stop => x.reply.dropped
  | _ => []

/-- The gateway that was accepted. -/
def gateway? : Option String :=
  match x.call with
  | .redirect a => if x.reply.ending = .ok () then some a.text else none
  | _ => none

end Made

section Sessions

variable {κ : Type} {history : List (Made κ)} {x : Made κ} {d : Descriptor} {gateway : String}

/-- The last start that was accepted has not been followed by a stop: the session has its
descriptor, and the gateway that was accepted last. -/
def Lasts (history : List (Made κ)) (descriptor : Descriptor) (gateway : String) : Prop :=
  ∃ earlier x later p, history = earlier ++ x :: later ∧ x.call = .start descriptor p ∧
    x.reply.ending = .ok () ∧ (∀ y ∈ later, y.call ≠ .stop) ∧
    gateway = ((later.filterMap Made.gateway?).getLast?).getD p.gateway

theorem Lasts.next (lasts : Lasts history d gateway) (other : x.call ≠ .stop) :
    Lasts (history ++ [x]) d (x.gateway?.getD gateway) := by
  obtain ⟨earlier, first, later, p, split, call, accepted, stays, last⟩ := lasts
  refine ⟨earlier, first, later ++ [x], p, by simp [split], call, accepted, ?_, ?_⟩
  · intro y mem
    rcases List.mem_append.mp mem with mem | mem
    · exact stays y mem
    · rwa [List.mem_singleton.mp mem]
  · rw [last, List.filterMap_append]
    cases given : x.gateway? <;> simp [given]

theorem lasts_started {p : Tunnel.Params} (call : x.call = .start d p)
    (accepted : x.reply.ending = .ok ()) : Lasts (history ++ [x]) d p.gateway :=
  ⟨history, x, [], p, rfl, call, accepted, nofun, rfl⟩

/-- The last call has opened the session, or left one that there was; a stop would have ended it. -/
theorem Lasts.last (lasts : Lasts (history ++ [x]) d gateway) :
    (∃ p, x.call = .start d p ∧ x.reply.ending = .ok ()) ∨
    x.call ≠ .stop ∧ ∃ gateway, Lasts history d gateway := by
  obtain ⟨earlier, first, later, p, whole, call, started, stays, _⟩ := lasts
  rcases later.eq_nil_or_concat with rfl | ⟨later, y, rfl⟩
  · obtain ⟨rfl, same⟩ := List.append_inj' whole rfl
    obtain rfl := List.singleton_inj.mp same
    exact .inl ⟨p, call, started⟩
  · rw [List.concat_eq_append] at stays whole
    rw [← List.cons_append, ← List.append_assoc] at whole
    obtain ⟨before, same⟩ := List.append_inj' whole rfl
    obtain rfl := List.singleton_inj.mp same
    exact .inr ⟨stays x (by simp), _, earlier, first, later, p, before, call, started,
      fun y mem => stays y (List.mem_append_left _ mem), rfl⟩

/-- The session that runs is the one that lasts. -/
structure Runs (history : List (Made κ)) (running : Option Running) : Prop where
  session : ∀ r, running = some r → Lasts history r.descriptor r.gateway
  down : running = none → ∀ d gateway, ¬ Lasts history d gateway

/-- A call that neither opens nor ends a session, nor changes its gateway. -/
theorem Runs.keep {running : Option Running} (runs : Runs history running)
    (other : x.call ≠ .stop) (silent : x.gateway? = none)
    (unopened : ∀ d p, x.call = .start d p → x.reply.ending ≠ .ok ()) :
    Runs (history ++ [x]) running := by
  constructor
  · intro r up
    have lasts := (runs.session r up).next other
    rwa [silent] at lasts
  · intro down d gateway lasts
    rcases lasts.last with ⟨p, call, accepted⟩ | ⟨_, gateway, lasts⟩
    · exact unopened d p call accepted
    · exact runs.down down d gateway lasts

theorem runs_stopped (stops : x.call = .stop) : Runs (history ++ [x]) none := by
  refine ⟨nofun, fun _ d gateway lasts => ?_⟩
  rcases lasts.last with ⟨p, call, _⟩ | ⟨other, _⟩
  · cases stops.symm.trans call
  · exact other stops

theorem reply_runs {w : World κ} {c : Call} (ready : w.Ready c)
    (runs : Runs history w.engine.running) :
    Runs (history ++ [⟨w, c⟩]) (w.reply c).engine.running := by
  have comes := w.reply_comes ready
  have made : Made.reply ⟨w, c⟩ = w.reply c := rfl
  generalize w.reply c = reply at *
  cases comes with
  | @started d p =>
    refine ⟨?_, nofun⟩
    rintro r ⟨⟩
    exact lasts_started (p := p) rfl (by rw [made])
  | notStarted =>
    refine runs.keep nofun rfl ?_
    rw [made]
    exact nofun
  | stopped => exact runs_stopped rfl
  | notStopped down =>
    simp only [down]
    exact runs_stopped rfl
  | @redirected a r accepted up =>
    have given : Made.gateway? ⟨w, .redirect a⟩ = some a.text := by simp [Made.gateway?, made]
    refine ⟨?_, nofun⟩
    rintro _ ⟨⟩
    have lasts := (runs.session r up).next (x := ⟨w, .redirect a⟩) nofun
    rwa [given] at lasts
  | notRedirected =>
    refine runs.keep nofun ?_ nofun
    simp [Made.gateway?, made]
  | answered | waited => exact runs.keep nofun rfl nofun

end Sessions

section Traces

variable {κ : Type} [DecidableEq κ]

/-- A sequence of calls, the oldest first, and the world that it leads to. -/
inductive Trace (start : World κ) : List (Made κ) → World κ → Prop
  | start : Trace start [] start
  | next {history w c} (before : Trace start history w) (ready : w.Ready c) :
      Trace start (history ++ [⟨w, c⟩]) (w.step c)

variable {start w : World κ} {history : List (Made κ)} {c : Call}

/-- What a session that runs writes to can be written, and was opened before. -/
def Open (w : World κ) : Prop :=
  ∀ r, w.engine.running = some r → (w.folders w.place).Writable r.log ∧
    ∃ opened : Moment, opened.nanoseconds ≤ w.engine.now.nanoseconds ∧
      r.log = (Log.Date.ofMoment opened).fileName

theorem step_folder (w : World κ) (c : Call) :
    (w.step c).folders (w.target c) = (w.reply c).dir := if_pos rfl

theorem step_open (ready : w.Ready c) (isOpen : Open w) : Open (w.step c) := by
  have comes := w.reply_comes ready
  have adds := World.comes_adds comes fun r up => (isOpen r up).1
  have folder := step_folder w c
  intro r up
  change (w.reply c).engine.running = some r at up
  change ((w.step c).folders (w.target c)).Writable r.log ∧
    ∃ opened : Moment, opened.nanoseconds ≤ (w.reply c).engine.now.nanoseconds ∧ _
  rw [folder]
  generalize w.reply c = reply at *
  cases comes with
  | started accepted log =>
    cases up
    exact ⟨adds.writable _ (Folder.writable_of_modify log), w.engine.now, Nat.le_refl _, rfl⟩
  | @notStarted d p _ refused =>
    obtain ⟨able, opened⟩ := isOpen r up
    have same : w.target (.start d p) = w.place := if_pos (Option.isSome_of_eq_some up)
    refine ⟨adds.writable _ ?_, opened⟩
    rwa [same]
  | stopped => cases up
  | notStopped down => cases down.symm.trans up
  | redirected accepted running =>
    cases up
    obtain ⟨able, opened⟩ := isOpen _ running
    exact ⟨adds.writable _ able, opened⟩
  | notRedirected | answered =>
    obtain ⟨able, opened⟩ := isOpen r up
    exact ⟨adds.writable _ able, opened⟩
  | waited =>
    obtain ⟨able, opened, before, log⟩ := isOpen r up
    exact ⟨adds.writable _ able, opened, Nat.le_trans before (Nat.le_add_right _ _), log⟩

theorem Trace.isOpen (trace : Trace start history w) (down : start.engine.running = none) :
    Open w := by
  induction trace with
  | start => exact fun r up => absurd (down.symm.trans up) nofun
  | next _ ready ih => exact step_open ready ih

theorem Trace.runs (trace : Trace start history w) (down : start.engine.running = none) :
    Runs history w.engine.running := by
  induction trace with
  | start =>
    refine ⟨fun r up => absurd (down.symm.trans up) nofun, fun _ d gateway lasts => ?_⟩
    obtain ⟨earlier, x, later, _, nothing, _⟩ := lasts
    cases earlier <;> cases nothing
  | next _ ready ih => exact reply_runs ready ih

theorem Trace.known (trace : Trace start history w) :
    w.engine.known = start.engine.known := by
  induction trace with
  | start => rfl
  | @next history w c _ ready ih =>
    refine Eq.trans ?_ ih
    change (w.reply c).engine.known = _
    have comes := w.reply_comes ready
    generalize w.reply c = reply at *
    cases comes <;> rfl

section Lines

omit [DecidableEq κ] in
/-- A call writes to one log. -/
theorem writes_at {e : Written κ} (mem : e ∈ w.writes c) :
    e.place = w.target c ∧ e.log = w.engine.log ∧ e.moment = w.engine.now := by
  unfold World.writes at mem
  split at mem
  · obtain ⟨_, _, rfl⟩ := List.mem_map.mp mem
    exact ⟨rfl, rfl, rfl⟩
  · cases mem

/-- The lines of one log. -/
def linesOf (k : κ) (log : FileName) (written : List (Written κ)) : List String :=
  (written.filter fun e => e.place = k ∧ e.log = log).map Written.line

theorem linesOf_writes (w : World κ) (c : Call) (k : κ) (log : FileName) :
    linesOf k log (w.writes c) =
      if k = w.target c ∧ log = w.engine.log then (w.writes c).map Written.line else [] := by
  unfold linesOf
  split
  · rename_i here
    obtain ⟨rfl, rfl⟩ := here
    have all : ∀ e ∈ w.writes c, decide (e.place = w.target c ∧ e.log = w.engine.log) = true := by
      intro e mem
      obtain ⟨place, name, _⟩ := writes_at mem
      exact decide_eq_true ⟨place, name⟩
    rw [List.filter_eq_self.mpr all]
  · rename_i elsewhere
    have other : ∀ e ∈ w.writes c, ¬ decide (e.place = k ∧ e.log = log) = true := by
      intro e mem same
      obtain ⟨place, name, _⟩ := writes_at mem
      rw [place, name, decide_eq_true_eq] at same
      exact elsewhere ⟨same.1.symm, same.2.symm⟩
    rw [List.filter_eq_nil_iff.mpr other, List.map_nil]

theorem step_held (ready : w.Ready c) (isOpen : Open w) (k : κ) (log : FileName) :
    ((w.step c).folders k).held log =
      (w.folders k).held log ++ (String.join (linesOf k log (w.writes c))).toUTF8 := by
  have adds := World.comes_adds (w.reply_comes ready) fun r up => (isOpen r up).1
  have nothing : (String.join []).toUTF8 = ByteArray.empty := rfl
  rw [linesOf_writes]
  by_cases here : k = w.target c
  · subst here
    rw [step_folder, adds.held]
    by_cases name : log = w.engine.log
    · rw [if_pos name, if_pos ⟨rfl, name⟩]
    · rw [if_neg name, if_neg fun both => name both.2, nothing, ByteArray.append_empty]
  · have other : (w.step c).folders k = w.folders k := if_neg here
    rw [other, if_neg fun both => here both.1, nothing, ByteArray.append_empty]

/-- Each file holds what it held before, and what was written to it. -/
theorem Trace.held (trace : Trace start history w) (down : start.engine.running = none) (k : κ)
    (log : FileName) : (w.folders k).held log = (start.folders k).held log ++
      (String.join (linesOf k log (history.flatMap Made.writes))).toUTF8 := by
  induction trace with
  | start =>
    have nothing : (String.join (linesOf k log [])).toUTF8 = ByteArray.empty := rfl
    rw [List.flatMap_nil, nothing, ByteArray.append_empty]
  | @next history w c before ready ih =>
    have lines : linesOf k log ((history ++ [(⟨w, c⟩ : Made κ)]).flatMap Made.writes) =
        linesOf k log (history.flatMap Made.writes) ++ linesOf k log (w.writes c) := by
      simp [linesOf, Made.writes]
    rw [step_held ready (before.isOpen down), ih, lines, String.join_append, ByteArray.append_assoc]
    exact congrArg _ String.toByteArray_append.symm

end Lines

section Order

omit [DecidableEq κ] in
theorem Open.log (isOpen : Open w) : ∃ opened : Moment,
    opened.nanoseconds ≤ w.engine.now.nanoseconds ∧
      w.engine.log = (Log.Date.ofMoment opened).fileName := by
  cases up : w.engine.running with
  | none => exact ⟨w.engine.now, Nat.le_refl _, Engine.log_down up⟩
  | some r =>
    obtain ⟨_, opened, before, name⟩ := isOpen r up
    exact ⟨opened, before, (Engine.log_up up).trans name⟩

end Order

section Answers

end Answers

section LateStart

end LateStart

end Traces

end TunnelSession.DryRun
