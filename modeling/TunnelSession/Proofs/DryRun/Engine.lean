import TunnelSession.DryRun.Engine
import TunnelSession.Proofs.Log

/-!
What the calls on a dry run come to: `start_starts` lists every end of a start, the other calls have
an equation for each case. What they add to the log, `write_adds` and `beat_adds` say, and `kept`
what becomes of a descriptor.
-/

namespace TunnelSession.DryRun.Engine

/-- The log of a session that is started now. -/
def logName (e : Engine) : FileName := (Log.Date.ofMoment e.now).fileName

section Calls

variable (e : Engine) (dir : Folder)

/-- The ends of a start. -/
inductive Starts (d : Descriptor) (p : Tunnel.Params) : Reply Engine → Prop
  | running (up : e.running ≠ none) : Starts d p (e.refusal dir d "engine already running")
  | linkless (down : e.running = none) (linkless : p.links = []) :
      Starts d p (e.refusal dir d "no links configured")
  | unlogged {obstacle} (down : e.running = none) (linked : p.links ≠ [])
      (log : Log.start dir e.logName = .error obstacle) :
      Starts d p (e.refusal dir d ("cannot open log: " ++ obstacle.message))
  | started {opened} (down : e.running = none) (linked : p.links ≠ [])
      (log : Log.start dir e.logName = .ok opened) :
      Starts d p ⟨.ok (),
        { e with running := some ⟨d, p.gateway, e.logName, e.now.after e.period⟩ },
        write opened e.logName e.now (greeting d p), []⟩

theorem start_starts (d : Descriptor) (p : Tunnel.Params) : Starts e dir d p (e.start dir d p) := by
  cases up : e.running with
  | some r =>
    simp only [start, up, Option.isSome_some, ↓reduceIte]
    exact .running (by simp [up])
  | none =>
    by_cases linkless : p.links = []
    · simp only [start, up, Option.isSome_none, Bool.false_eq_true, ↓reduceIte, linkless]
      exact .linkless up linkless
    · cases log : Log.start dir e.logName with
      | error obstacle =>
        have log' : Log.start dir (Log.Date.ofMoment e.now).fileName = .error obstacle := log
        simp only [start, up, Option.isSome_none, Bool.false_eq_true, ↓reduceIte, linkless, log']
        exact .unlogged up linkless log
      | ok opened =>
        have log' : Log.start dir (Log.Date.ofMoment e.now).fileName = .ok opened := log
        simp only [start, up, Option.isSome_none, Bool.false_eq_true, ↓reduceIte, linkless, log']
        exact .started up linkless log

variable {e dir}

theorem stop_down (down : e.running = none) : e.stop dir = ⟨.ok (), e, dir, []⟩ := by
  simp only [stop, down]

theorem stop_up {r : Running} (up : e.running = some r) : e.stop dir =
    ⟨.ok (), { e with running := none }, write dir r.log e.now [farewell], [r.descriptor]⟩ := by
  simp only [stop, up]

theorem redirect_known {r : Running} {target : Address} (up : e.running = some r)
    (known : ∃ n ∈ e.known, n.address = target) : e.redirect dir target =
      ⟨.ok (), { e with running := some { r with gateway := target.text } },
        write dir r.log e.now ["gateway -> " ++ target.text], []⟩ := by
  have any : e.known.any (·.address = target) = true := by
    rw [List.any_eq_true]
    obtain ⟨n, mem, same⟩ := known
    exact ⟨n, mem, by simpa using same⟩
  simp only [redirect, up, any, ↓reduceIte]

end Calls

section Kept

variable (e : Engine) (dir : Folder)

/-- A start takes an engine up, or leaves it as it was. -/
theorem start_keeps (d : Descriptor) (p : Tunnel.Params) :
    (e.start dir d p).engine.known = e.known ∧
    ((e.start dir d p).ending = .ok () → (e.start dir d p).engine.running.isSome = true) ∧
    ((e.start dir d p).ending ≠ .ok () → (e.start dir d p).engine = e) := by
  have starts := start_starts e dir d p
  generalize e.start dir d p = reply at *
  cases starts with
  | running | linkless | unlogged => exact ⟨rfl, nofun, fun _ => rfl⟩
  | started => exact ⟨rfl, fun _ => rfl, fun unanswered => absurd rfl unanswered⟩

theorem stop_keeps : (e.stop dir).engine.known = e.known ∧ (e.stop dir).engine.running = none := by
  cases up : e.running with
  | none =>
    rw [stop_down up]
    exact ⟨rfl, up⟩
  | some r =>
    rw [stop_up up]
    exact ⟨rfl, rfl⟩

theorem redirect_keeps (target : Address) : (e.redirect dir target).engine.known = e.known ∧
    (e.redirect dir target).engine.running.isSome = e.running.isSome := by
  unfold redirect
  split
  · exact ⟨rfl, rfl⟩
  · rename_i r up
    split
    · rw [up]
      exact ⟨rfl, rfl⟩
    · exact ⟨rfl, rfl⟩

/-- The descriptor that an engine keeps. -/
def kept : List Descriptor := (e.running.map (·.descriptor)).toList

end Kept

section Written

variable {dir : Folder} {log : FileName}

theorem write_adds (able : dir.Writable log) (now : Moment) (texts : List String) :
    Log.Adds dir (write dir log now texts) log (texts.map (Log.line now)) := by
  induction texts generalizing dir with
  | nil => exact Log.adds_nil dir log
  | cons text texts ih =>
    have first := Log.add_adds able now text
    exact first.trans (ih (first.writable log able))

theorem heartbeat_text (e : Engine) (r : Running) :
    ∃ rest, e.heartbeat r = "heartbeat gateway=" ++ rest := by
  exists r.gateway ++ (" neighbors=" ++ toString e.known.length)
  unfold heartbeat
  simp only [String.append_assoc]

/-- Heartbeats only move the moment of the next one. -/
theorem beat_adds (e : Engine) (n : Nat) (dir : Folder) (r : Running) :
    ∃ due, ∃ beats : List Moment,
    (e.beat dir n r).2 = { r with due } ∧
    (dir.Writable r.log → Log.Adds dir (e.beat dir n r).1 r.log
      (beats.map fun beat => Log.line beat (e.heartbeat r))) := by
  induction n generalizing dir r with
  | zero => exact ⟨r.due, [], rfl, fun _ => Log.adds_nil dir r.log⟩
  | succ n ih =>
    -- the first heartbeat is written at the moment that was due, the others from the moved one on
    obtain ⟨due, beats, same, adds⟩ :=
      ih (write dir r.log r.due [e.heartbeat r]) { r with due := r.due.after e.period }
    refine ⟨due, r.due :: beats, same, fun able => ?_⟩
    have first := write_adds able r.due [e.heartbeat r]
    exact first.trans (adds (first.writable _ able))

theorem advance_down {e : Engine} (down : e.running = none) (moment : Moment) :
    e.advance dir moment = ({ e with now := moment }, dir) := by
  simp only [advance, down]

theorem advance_up {e : Engine} {r : Running} (up : e.running = some r) (dir : Folder)
    (moment : Moment) : ∃ due, ∃ beats : List Moment,
      (e.advance dir moment).1 = { e with now := moment, running := some { r with due } } ∧
      (dir.Writable r.log → Log.Adds dir (e.advance dir moment).2 r.log
        (beats.map fun beat => Log.line beat (e.heartbeat r))) := by
  obtain ⟨due, beats, same, adds⟩ := e.beat_adds (e.beatsBy moment r) dir r
  refine ⟨due, beats, ?_, ?_⟩
  · simp only [advance, up, same]
  · simpa only [advance, up] using adds

theorem advance_keeps (e : Engine) (dir : Folder) (moment : Moment) :
    (e.advance dir moment).1.known = e.known ∧
    (e.advance dir moment).1.running.isSome = e.running.isSome := by
  cases up : e.running with
  | none =>
    rw [advance_down up, up]
    exact ⟨rfl, rfl⟩
  | some r =>
    obtain ⟨_, _, same, _⟩ := advance_up up dir moment
    rw [same]
    exact ⟨rfl, rfl⟩

end Written

end TunnelSession.DryRun.Engine
