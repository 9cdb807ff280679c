import TunnelSession.Folder

/-!
What is written to a folder is found there. A file that was changed holds what the change made of
it (`find?_modify`), so a text that was written is read back: `text?_write`. Whether a file can be
written does not depend on what is written: `write_of_write`, and what is written twice is written
once: `write_write`. A change of one file leaves what the
others hold (`held_modify`), and those that could be written still can: `Writable.modify`.
-/

namespace TunnelSession.Folder

theorem fromUTF8?_toUTF8 (s : String) : String.fromUTF8? s.toUTF8 = some s := by
  have valid : s.toUTF8.IsValidUTF8 := s.isValidUTF8
  rw [String.fromUTF8?, dif_pos valid]
  rfl

theorem lookup_put {α : Type} (name : FileName) (entry : α) (es : List (FileName × α)) :
    (put name entry es).lookup name = some entry := by
  induction es with
  | nil => simp [put]
  | cons e es ih =>
    obtain ⟨other, _⟩ := e
    unfold put
    split
    · simp
    · rename_i differs
      have differs : (name == other) = false := by simpa using Ne.symm differs
      simp only [List.lookup_cons, differs, ih]

/-- Where no two entries have one name, each is found by its own. -/
theorem lookup_of_mem {α : Type} {name : FileName} {entry : α} {es : List (FileName × α)}
    (distinct : (es.map Prod.fst).Nodup) (mem : (name, entry) ∈ es) :
    es.lookup name = some entry := by
  obtain ⟨front, back, rfl⟩ := List.append_of_mem mem
  refine List.lookup_eq_some_iff.mpr ⟨front, back, rfl, fun f before => ?_⟩
  simp only [List.map_append, List.map_cons] at distinct
  have apart := (List.nodup_append.mp distinct).2.2 f.1 (List.mem_map_of_mem before) name
    List.mem_cons_self
  simpa using Ne.symm apart

variable {room : Option Nat} {name : FileName} {f : ByteArray → ByteArray}

theorem change_ok {es es' : List (FileName × Entry)} (ok : change room name f es = .ok es') :
    fits room name = true ∧ ∃ content, es'.lookup name = some (.file (f content)) := by
  unfold change at ok
  split at ok
  · rename_i fit
    refine ⟨fit, ?_⟩
    split at ok
    · cases ok
      exact ⟨_, lookup_put ..⟩
    · cases ok
      exact ⟨_, lookup_put ..⟩
    · cases ok
  · cases ok

theorem modify_state_ok {state state' : State} (ok : state.modify room name f = .ok state') :
    fits room name = true ∧ ∃ content, state'.entries.lookup name = some (.file (f content)) := by
  cases state with
  | blocked => cases ok
  | missing | present es | unreached es | unlisted es =>
    simp only [State.modify, Functor.map, Except.map] at ok
    split at ok
    · cases ok
    · rename_i changed
      cases ok
      exact change_ok changed

/-- A file that was changed is found as the change left it. -/
theorem find?_modify {dir dir' : Folder} (ok : dir.modify name f = .ok dir') :
    ∃ content, dir'.find? name = some (.file (f content)) := by
  simp only [modify, Functor.map, Except.map] at ok
  split at ok
  · cases ok
  · rename_i changed
    cases ok
    obtain ⟨fit, content, found⟩ := modify_state_ok changed
    refine ⟨content, ?_⟩
    rw [find?, if_pos fit]
    exact found

/-- A text that was written is read back. -/
theorem text?_write {dir dir' : Folder} {t : String} (ok : dir.write name t.toUTF8 = .ok dir') :
    dir'.text? name = some t := by
  obtain ⟨_, found⟩ := find?_modify ok
  rw [text?, found, Option.bind_some, textOf, fromUTF8?_toUTF8]

section Held

theorem lookup_put_ne {α : Type} {name other : FileName} (differs : other ≠ name) (entry : α)
    (es : List (FileName × α)) : (put name entry es).lookup other = es.lookup other := by
  have apart : (other == name) = false := by simpa using differs
  induction es with
  | nil => simp [put, List.lookup_cons, apart]
  | cons e es ih =>
    obtain ⟨first, _⟩ := e
    unfold put
    split
    · rename_i same
      subst same
      simp only [List.lookup_cons, apart]
    · simp only [List.lookup_cons, ih]

/-- What the file of a name holds; nothing where there is none. -/
def heldIn (es : List (FileName × Entry)) (name : FileName) : ByteArray :=
  match es.lookup name with
  | some (.file content) => content
  | _ => .empty

/-- What a folder's file holds, once the folder is made. -/
def held (dir : Folder) (name : FileName) : ByteArray := heldIn dir.made.entries name

variable {dir dir' : Folder} {other : FileName} {f : ByteArray → ByteArray}

theorem made_made (dir : Folder) : dir.made.made = dir.made := by
  obtain ⟨state, room⟩ := dir
  cases state <;> rfl

theorem held_made (dir : Folder) (name : FileName) : dir.made.held name = dir.held name := by
  rw [held, made_made, held]

/-- A change is one of the entries that a folder has once it is made. -/
theorem modify_eq_ok (ok : dir.modify name f = .ok dir') :
    (∀ obstacle, dir.state ≠ .blocked obstacle) ∧ dir'.room = dir.room ∧
      (∀ obstacle, dir'.state ≠ .blocked obstacle) ∧
      change dir.room name f dir.made.entries = .ok dir'.made.entries := by
  obtain ⟨state, room⟩ := dir
  cases state with
  | blocked => cases ok
  | missing | present es | unreached es | unlisted es =>
    simp only [modify, State.modify, Functor.map, Except.map] at ok
    split at ok
    · cases ok
    · rename_i changed
      cases ok
      split at changed
      · cases changed
      · rename_i changed'
        cases changed
        exact ⟨nofun, rfl, nofun, changed'⟩

/-- Only a file can be changed, and only a name that fits can be reached. -/
structure Changeable (room : Option Nat) (name : FileName) (es : List (FileName × Entry)) :
    Prop where
  fits : fits room name = true
  file : ∀ entry, es.lookup name = some entry → ∃ content, entry = .file content

section

variable {room : Option Nat} {es es' : List (FileName × Entry)}

theorem change_eq_ok (ok : change room name f es = .ok es') :
    Changeable room name es ∧ es' = put name (.file (f (heldIn es name))) es := by
  unfold change at ok
  split at ok
  · rename_i fit
    split at ok
    · rename_i none
      cases ok
      exact ⟨⟨fit, by simp [none]⟩, by rw [heldIn, none]⟩
    · rename_i content found
      cases ok
      exact ⟨⟨fit, by simp [found]⟩, by rw [heldIn, found]⟩
    · cases ok
  · cases ok

theorem Changeable.change (able : Changeable room name es) (f : ByteArray → ByteArray) :
    ∃ es', change room name f es = .ok es' := by
  unfold Folder.change
  rw [if_pos able.fits]
  split
  · exact ⟨_, rfl⟩
  · exact ⟨_, rfl⟩
  · rename_i other found
    obtain ⟨content, rfl⟩ := able.file _ found
    exact absurd rfl (other content)

theorem Changeable.put (able : Changeable room name es) (other : FileName) (content : ByteArray) :
    Changeable room name (put other (.file content) es) := by
  refine ⟨able.fits, ?_⟩
  intro entry found
  by_cases same : name = other
  · subst same
    rw [lookup_put] at found
    cases found
    exact ⟨content, rfl⟩
  · rw [lookup_put_ne same] at found
    exact able.file entry found

end

/-- A file that can be written, whatever is written. -/
structure Writable (dir : Folder) (name : FileName) : Prop where
  unblocked : ∀ obstacle, dir.state ≠ .blocked obstacle
  able : Changeable dir.room name dir.made.entries

theorem writable_of_modify (ok : dir.modify name f = .ok dir') : Writable dir name := by
  obtain ⟨unblocked, _, _, changed⟩ := modify_eq_ok ok
  exact ⟨unblocked, (change_eq_ok changed).1⟩

theorem Writable.modify_ok (able : Writable dir name) (f : ByteArray → ByteArray) :
    ∃ dir', dir.modify name f = .ok dir' := by
  obtain ⟨unblocked, able⟩ := able
  obtain ⟨es', changed⟩ := able.change f
  obtain ⟨state, room⟩ := dir
  cases state with
  | blocked obstacle => exact absurd rfl (unblocked obstacle)
  | missing | present es | unreached es | unlisted es =>
    simp only [Folder.made, Folder.entries, State.made, State.entries] at changed
    simp only [Folder.modify, State.modify, Functor.map, Except.map, changed]
    exact ⟨_, rfl⟩

/-- Where one content can be written, any other one can be. -/
theorem write_of_write {content : ByteArray} (ok : dir.write name content = .ok dir')
    (other : ByteArray) : ∃ made, dir.write name other = .ok made :=
  (writable_of_modify ok).modify_ok _

/-- What one file is made to hold changes no other. -/
theorem held_modify (ok : dir.modify name f = .ok dir') (other : FileName) :
    dir'.held other = if other = name then f (dir.held name) else dir.held other := by
  obtain ⟨_, _, _, changed⟩ := modify_eq_ok ok
  obtain ⟨_, entries⟩ := change_eq_ok changed
  rw [held, heldIn, entries]
  by_cases same : other = name
  · subst same
    rw [lookup_put, if_pos rfl, held]
  · rw [lookup_put_ne same, if_neg same, held, heldIn]

theorem Writable.modify (able : Writable dir other) (ok : dir.modify name f = .ok dir') :
    Writable dir' other := by
  obtain ⟨_, room, unblocked, changed⟩ := modify_eq_ok ok
  obtain ⟨_, entries⟩ := change_eq_ok changed
  refine ⟨unblocked, ?_⟩
  rw [room, entries]
  exact able.able.put name _

theorem put_put {α : Type} (name : FileName) (entry : α) (es : List (FileName × α)) :
    Folder.put name entry (Folder.put name entry es) = Folder.put name entry es := by
  induction es with
  | nil => simp [Folder.put]
  | cons e es ih =>
    by_cases same : e.1 = name <;> simp [Folder.put, same, ih]

/-- To write the same again changes nothing. -/
theorem write_write {content : ByteArray} (ok : dir.write name content = .ok dir') :
    dir'.write name content = .ok dir' := by
  have again : ∀ {room es es'}, change room name (fun _ => content) es = .ok es' →
      change room name (fun _ => content) es' = .ok es' := by
    intro room es es' changed
    obtain ⟨able, rfl⟩ := change_eq_ok changed
    simp only [change, able.fits, ↓reduceIte, lookup_put, put_put]
  obtain ⟨state, room⟩ := dir
  cases state with
  | blocked => cases ok
  | missing | present es | unreached es | unlisted es =>
    simp only [write, modify, State.modify, Functor.map, Except.map] at ok
    split at ok
    · cases ok
    · rename_i changed
      cases ok
      split at changed
      · cases changed
      · rename_i changed'
        cases changed
        simp only [write, modify, State.modify, Functor.map, Except.map, again changed']

theorem Writable.made (able : Writable dir name) : Writable dir.made name := by
  refine ⟨?_, ?_⟩
  · obtain ⟨state, room⟩ := dir
    cases state with
    | blocked obstacle => exact absurd rfl (able.unblocked obstacle)
    | missing | present es | unreached es | unlisted es => exact nofun
  · rw [made_made]
    exact able.able

theorem Writable.of_made (able : Writable dir.made name) : Writable dir name := by
  refine ⟨?_, ?_⟩
  · intro obstacle blocked
    exact able.unblocked obstacle (by rw [Folder.made, blocked]; rfl)
  · have files := able.able
    rw [made_made] at files
    exact files

/-- What could not be written still cannot once the folder is made. -/
theorem write_made_error {content : ByteArray} {obstacle : Obstacle}
    (failed : dir.write name content = .error obstacle) :
    ∃ obstacle', dir.made.write name content = .error obstacle' := by
  cases retried : dir.made.write name content with
  | error obstacle' => exact ⟨obstacle', rfl⟩
  | ok dir' =>
    obtain ⟨dir', ok⟩ := (writable_of_modify retried).of_made.modify_ok fun _ => content
    rw [write, ok] at failed
    cases failed

end Held

end TunnelSession.Folder
