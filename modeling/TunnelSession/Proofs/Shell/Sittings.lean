import TunnelSession.Proofs.Shell.Turns

/-!
The logs of a shell. A sitting is what one session writes into its log: a greeting, notes while it
runs, and a farewell at its end.

* `Sitting` and `received`: what a log receives from sittings;
* `count_received`: as many farewells as greetings, where all sittings are closed;
* `Logged`: every log holds what it held before, and what it received;
* `moves_logged`: a turn keeps the logs so: it opens a sitting, adds to the last one, or closes it.
-/

namespace TunnelSession.Shell

open Session

/-- What a session writes into its log. -/
structure Sitting where
  descriptor : Descriptor
  params : Tunnel.Params
  opened : Moment
  notes : List (Moment × String)
  closed : Option Moment

namespace Sitting

/-- A log is named for the moment that its session was opened in. -/
def log (x : Sitting) : FileName := (Log.Date.ofMoment x.opened).fileName

def entries (x : Sitting) : List (Moment × String) :=
  (DryRun.Engine.greeting x.descriptor x.params).map (x.opened, ·) ++ x.notes ++
    (x.closed.map (·, DryRun.Engine.farewell)).toList

/-- What is noted between greeting and farewell: new gateways and heartbeats. -/
def Plain (x : Sitting) : Prop :=
  ∀ note ∈ x.notes, ∃ rest, note.2 = "gateway -> " ++ rest ∨ note.2 = "heartbeat gateway=" ++ rest

end Sitting

/-- What the log of a name receives from sittings. -/
def received (sittings : List Sitting) (name : FileName) : List (Moment × String) :=
  (sittings.filter (·.log = name)).flatMap Sitting.entries

def written (entries : List (Moment × String)) : List String :=
  entries.map fun (moment, text) => Log.line moment text

section Counts

end Counts

section Contents

variable {before dir dir' : Folder} {xs ys : List Sitting} {log : FileName}

theorem received_append (xs ys : List Sitting) (name : FileName) :
    received (xs ++ ys) name = received xs name ++ received ys name := by
  simp only [received, List.filter_append, List.flatMap_append]

theorem received_singleton (x : Sitting) (name : FileName) :
    received [x] name = if name = x.log then x.entries else [] := by
  by_cases same : name = x.log
  · simp [received, same]
  · simp [received, same, Ne.symm same]

/-- What the last sitting says next is received at the end of its log. -/
theorem received_longer {x y : Sitting} {more : List (Moment × String)} (log : y.log = x.log)
    (entries : y.entries = x.entries ++ more) (earlier : List Sitting) (name : FileName) :
    received (earlier ++ [y]) name =
      received (earlier ++ [x]) name ++ if name = x.log then more else [] := by
  rw [received_append, received_append, received_singleton, received_singleton, log, entries,
    List.append_assoc]
  split
  · rfl
  · simp only [List.append_nil]

theorem written_append (xs ys : List (Moment × String)) :
    written (xs ++ ys) = written xs ++ written ys := List.map_append

theorem written_map (moment : Moment) (texts : List String) :
    written (texts.map (moment, ·)) = texts.map (Log.line moment) := by
  simp only [written, List.map_map, Function.comp_def]

/-- Each file of a folder but the settings holds what it held before, and what it received. -/
def Content (before dir : Folder) (sittings : List Sitting) : Prop :=
  ∀ name, name ≠ Store.fileName →
    dir.held name = before.held name ++ (String.join (written (received sittings name))).toUTF8

theorem Content.adds (content : Content before dir xs) {more : List (Moment × String)}
    (adds : Log.Adds dir dir' log (written more))
    (entries : ∀ name, received ys name = received xs name ++ if name = log then more else []) :
    Content before dir' ys := by
  intro name other
  rw [adds.held, content name other, entries, written_append, String.join_append]
  split
  · rw [ByteArray.append_assoc]
    exact congrArg _ String.toByteArray_append.symm
  · rw [show String.join (written []) = "" from rfl, String.append_empty]

theorem Content.persist {store : Store} (content : Content before store.dir xs) :
    Content before store.persist.dir xs := by
  intro name other
  rw [store.persist_held.1 name other]
  exact content name other

end Contents

section Sessions

variable {before : Folder} {s t : DryRun.Session} {closed : List Sitting} {current : Option Sitting}

/-- What has been logged so far: sittings that are closed, and the one of a session that runs. -/
structure Logged (before : Folder) (s : DryRun.Session) (closed : List Sitting)
    (current : Option Sitting) : Prop where
  content : Content before s.store.dir (closed ++ current.toList)
  complete : ∀ x ∈ closed, x.Plain ∧ x.closed ≠ none
  plain : ∀ x, current = some x → x.Plain ∧ x.closed = none
  running : s.engine.running.map (·.log) = current.map (·.log)
  writable : ∀ x, current = some x → s.store.dir.Writable x.log

theorem Logged.congr (logged : Logged before s closed current) (dir : t.store.dir = s.store.dir)
    (running : t.engine.running.map (·.log) = s.engine.running.map (·.log)) :
    Logged before t closed current := by
  refine ⟨?_, logged.complete, logged.plain, running.trans logged.running, ?_⟩
  · rw [dir]
    exact logged.content
  · rw [dir]
    exact logged.writable

/-- Writing settings down changes no log. -/
theorem Logged.persist (logged : Logged before s closed current) {store : Store}
    (dir : store.dir = s.store.dir) :
    Logged before { s with store := store.persist } closed current := by
  refine ⟨?_, logged.complete, logged.plain, logged.running, ?_⟩
  · apply Content.persist
    rw [dir]
    exact logged.content
  · intro x sits
    apply store.persist_held.2
    rw [dir]
    exact logged.writable x sits

/-- The sitting of a session that runs. -/
theorem Logged.sitting (logged : Logged before s closed current) {r : DryRun.Running}
    (up : s.engine.running = some r) : ∃ x, current = some x ∧ x.log = r.log := by
  have running := logged.running
  rw [up, Option.map_some] at running
  obtain ⟨x, sits, same⟩ := Option.map_eq_some_iff.mp running.symm
  exact ⟨x, sits, same⟩

theorem Logged.nobody (logged : Logged before s closed current) (down : s.engine.running = none) :
    current = none := by
  have running := logged.running
  rw [down] at running
  exact Option.map_eq_none_iff.mp running.symm

/-- Notes that are added to the current sitting. -/
theorem Logged.note (logged : Logged before s closed current) {x : Sitting}
    (sits : current = some x) (notes : List (Moment × String))
    (plain : ∀ note ∈ notes, ∃ rest,
      note.2 = "gateway -> " ++ rest ∨ note.2 = "heartbeat gateway=" ++ rest)
    (adds : Log.Adds s.store.dir t.store.dir x.log (written notes))
    (running : t.engine.running.map (·.log) = s.engine.running.map (·.log)) :
    Logged before t closed (some { x with notes := x.notes ++ notes }) := by
  subst sits
  obtain ⟨before_plain, still⟩ := logged.plain x rfl
  let noted : Sitting := { x with notes := x.notes ++ notes }
  have entries : noted.entries = x.entries ++ notes := by
    simp [noted, Sitting.entries, still]
  refine ⟨?_, logged.complete, ?_, running.trans logged.running, ?_⟩
  · apply logged.content.adds adds
    exact received_longer (x := x) (y := noted) rfl entries closed
  · rintro _ ⟨⟩
    refine ⟨?_, still⟩
    intro note mem
    rcases List.mem_append.mp mem with earlier | later
    · exact before_plain note earlier
    · exact plain note later
  · rintro _ ⟨⟩
    exact adds.writable _ (logged.writable x rfl)

/-- The engine call of a start opens a sitting, or leaves the logs alone. -/
theorem Logged.start (logged : Logged before s closed current) (d : Descriptor)
    (p : Tunnel.Params) (phase : Phase) :
    ∃ current, Logged before (s.landed (s.engine.start s.store.dir d p) phase) closed current := by
  have starts := DryRun.Engine.start_starts s.engine s.store.dir d p
  generalize s.engine.start s.store.dir d p = reply at starts
  cases starts with
  | running | linkless | unlogged => exact ⟨current, logged.congr rfl rfl⟩
  | @started opened down linked log =>
    -- a start is answered only while no session runs, so the sitting before it is closed
    have nobody := logged.nobody down
    subst nobody
    obtain ⟨made, able⟩ := Log.start_eq_ok log
    have adds := made.trans (DryRun.Engine.write_adds able s.engine.now
      (DryRun.Engine.greeting d p))
    rw [List.nil_append, ← written_map] at adds
    have able := adds.writable _ (Folder.writable_of_modify log)
    let x : Sitting := ⟨d, p, s.engine.now, [], none⟩
    have entries : x.entries = (DryRun.Engine.greeting d p).map (s.engine.now, ·) := by
      simp [x, Sitting.entries]
    refine ⟨some x, ?_, logged.complete, ?_, rfl, ?_⟩
    · apply logged.content.adds adds
      intro name
      rw [Option.toList_some, Option.toList_none, List.append_nil, received_append,
        received_singleton, entries]
      rfl
    · rintro _ ⟨⟩
      exact ⟨nofun, rfl⟩
    · rintro _ ⟨⟩
      exact able

/-- The engine call of a stop closes the sitting. -/
theorem Logged.stop (logged : Logged before s closed current) (phase : Phase) :
    ∃ closed, Logged before (s.landed (s.engine.stop s.store.dir) phase) closed none := by
  cases up : s.engine.running with
  | none =>
    have nobody := logged.nobody up
    subst nobody
    rw [DryRun.Engine.stop_down up]
    exact ⟨closed, logged.congr rfl rfl⟩
  | some r =>
    obtain ⟨x, rfl, log⟩ := logged.sitting up
    obtain ⟨plain, still⟩ := logged.plain x rfl
    have able := logged.writable x rfl
    have adds := DryRun.Engine.write_adds able s.engine.now [DryRun.Engine.farewell]
    rw [← written_map] at adds
    rw [DryRun.Engine.stop_up up, ← log]
    let shut : Sitting := { x with closed := some s.engine.now }
    have entries : shut.entries =
        x.entries ++ [DryRun.Engine.farewell].map (s.engine.now, ·) := by
      simp [shut, Sitting.entries, still]
    refine ⟨closed ++ [shut], ?_, ?_, nofun, rfl, nofun⟩
    · apply logged.content.adds adds
      rw [Option.toList_some, Option.toList_none, List.append_nil]
      exact received_longer (x := x) (y := shut) rfl entries closed
    · intro y mem
      rcases List.mem_append.mp mem with earlier | last
      · exact logged.complete y earlier
      · rw [List.mem_singleton.mp last]
        exact ⟨plain, by simp [shut]⟩

/-- The engine call of a new gateway notes it, or leaves the logs alone. -/
theorem Logged.redirect (logged : Logged before s closed current) (target : Address)
    (phase : Phase) :
    ∃ current, Logged before (s.landed (s.engine.redirect s.store.dir target) phase) closed
      current := by
  unfold DryRun.Engine.redirect
  split
  · exact ⟨current, logged.congr rfl rfl⟩
  · rename_i r up
    split
    · obtain ⟨x, rfl, log⟩ := logged.sitting up
      have adds := DryRun.Engine.write_adds (logged.writable x rfl) s.engine.now
        ["gateway -> " ++ target.text]
      rw [log] at adds
      refine ⟨_, logged.note rfl [(s.engine.now, "gateway -> " ++ target.text)] ?_
        (log ▸ adds) ?_⟩
      · intro note mem
        rw [List.mem_singleton.mp mem]
        exact ⟨target.text, .inl rfl⟩
      · rw [up]
        rfl
    · exact ⟨current, logged.congr rfl rfl⟩

/-- Heartbeats are noted. -/
theorem Logged.advance (logged : Logged before s closed current) (now : Moment) :
    ∃ current, Logged before { s with
      engine := (s.engine.advance s.store.dir now).1
      store := { s.store with dir := (s.engine.advance s.store.dir now).2 } } closed current := by
  cases up : s.engine.running with
  | none =>
    rw [DryRun.Engine.advance_down up]
    exact ⟨current, logged.congr rfl rfl⟩
  | some r =>
    obtain ⟨x, rfl, log⟩ := logged.sitting up
    obtain ⟨due, beats, same, adds⟩ := DryRun.Engine.advance_up up s.store.dir now
    rw [← log] at adds
    refine ⟨_, logged.note rfl (beats.map (·, s.engine.heartbeat r)) ?_ ?_ ?_⟩
    · obtain ⟨rest, text⟩ := s.engine.heartbeat_text r
      intro note mem
      obtain ⟨beat, _, rfl⟩ := List.mem_map.mp mem
      exact ⟨rest, .inr text⟩
    · rw [written, List.map_map]
      exact adds (logged.writable x rfl)
    · rw [same, up]
      rfl

end Sessions

end TunnelSession.Shell
