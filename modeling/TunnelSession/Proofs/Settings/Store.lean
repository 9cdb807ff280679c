import TunnelSession.Proofs.Folder
import TunnelSession.Proofs.Settings.Document
import TunnelSession.Settings.Store

/-!
What a store has in memory and what is in its file.

* `Settings.getElem?_seeded`: completing settings gives initial values to the keys without one, and
  changes nothing else; what is complete stays as it is, and stays complete under every edit;
* `Store.file?`: the settings that a folder's file decodes to, which are those written last;
* `Store.load_settings`: a store that is opened starts from what was found, completed;
* `Store.Reachable`: the stores that there can be, none of which lacks a value.
-/

namespace TunnelSession

namespace Settings

variable (s : Settings)

theorem getElem?_set (k : Key) (value name : String) :
    (s.set k value).values[name]? = if k.text = name then some value else s.values[name]? := by
  simp [set, Std.ExtTreeMap.getElem?_insert]

theorem get?_set (k l : Key) (value : String) :
    (s.set k value).get? l = if k = l then some value else s.get? l := by
  have same_key : k.text = l.text ↔ k = l := ⟨Key.text_injective, congrArg Key.text⟩
  simp only [get?, getElem?_set, same_key]

theorem set_set (k : Key) (value : String) : (s.set k value).set k value = s.set k value := by
  have values : ((s.set k value).set k value).values = (s.set k value).values := by
    refine Std.ExtTreeMap.ext_getElem? fun {name} => ?_
    rw [getElem?_set, getElem?_set]
    split <;> rfl
  exact congrArg (Settings.mk · s.excluded) values

theorem getElem?_seed (k : Key) (name : String) :
    (s.seed k).values[name]? =
      s.values[name]?.or (if k.text = name then some k.initial else none) := by
  unfold seed
  split
  · rename_i there
    have there : k.text ∈ s.values := by simpa using there
    split
    · rename_i same
      subst same
      simp [Std.ExtTreeMap.getElem?_eq_some_getElem there]
    · simp
  · rename_i missing
    have missing : s.values[k.text]? = none := by simpa using missing
    rw [getElem?_set]
    by_cases same : k.text = name
    · subst same
      simp [missing]
    · simp [same]

theorem getElem?_seeds (keys : List Key) (name : String) :
    (keys.foldl seed s).values[name]? =
      s.values[name]?.or ((keys.find? (·.text = name)).map Key.initial) := by
  induction keys generalizing s with
  | nil => simp
  | cons k keys ih =>
    rw [List.foldl_cons, ih, getElem?_seed, Option.or_assoc, List.find?_cons]
    by_cases same : k.text = name <;> simp [same]

/-- What has a value keeps it, and what has none gets the initial value of its key, if there is a
key of that name. -/
theorem getElem?_seeded (name : String) :
    s.seeded.values[name]? =
      s.values[name]?.or ((Key.all.find? (·.text = name)).map Key.initial) :=
  getElem?_seeds s Key.all name

theorem get?_seeded (k : Key) : s.seeded.get? k = some ((s.get? k).getD k.initial) := by
  have found : Key.all.find? (·.text = k.text) = some k := by
    cases k <;> rfl
  rw [get?, getElem?_seeded, found, get?]
  cases s.values[k.text]? <;> rfl

theorem getElem?_seeded_unknown {name : String} (unknown : ∀ k : Key, k.text ≠ name) :
    s.seeded.values[name]? = s.values[name]? := by
  have none_such : Key.all.find? (·.text = name) = none := by
    simp [unknown]
  rw [getElem?_seeded, none_such, Option.map_none, Option.or_none]

theorem isComplete_iff :
    s.isComplete = true ↔ (∀ k, (s.get? k).isSome = true) ∧ s.excluded.isSome = true := by
  simp [isComplete, get?, Key.mem_all]

theorem seeded_isComplete : s.seeded.isComplete = true := by
  rw [isComplete_iff]
  exact ⟨fun k => by simp [get?_seeded], rfl⟩

variable {s}

theorem seeded_of_isComplete (complete : s.isComplete = true) : s.seeded = s := by
  obtain ⟨keys, apps⟩ := (isComplete_iff s).mp complete
  obtain ⟨set, apps⟩ := Option.isSome_iff_exists.mp apps
  have there (k : Key) : s.seed k = s := by
    rw [seed, if_pos (by simpa [get?] using keys k)]
  have unchanged (ks : List Key) : ks.foldl seed s = s := by
    induction ks with
    | nil => rfl
    | cons k ks ih => rw [List.foldl_cons, there, ih]
  rw [seeded, unchanged, Settings.apps, apps, Option.getD_some, ← apps]

theorem set_isComplete (complete : s.isComplete = true) (k : Key) (value : String) :
    (s.set k value).isComplete = true := by
  rw [isComplete_iff] at complete ⊢
  refine ⟨fun l => ?_, complete.2⟩
  rw [get?_set]
  split
  · rfl
  · exact complete.1 l

theorem withExcluded_isComplete (complete : s.isComplete = true) (apps : AppSet) :
    { s with excluded := some apps }.isComplete = true := by
  rw [isComplete_iff] at complete ⊢
  exact ⟨complete.1, rfl⟩

end Settings

namespace Store

/-- The settings that the folder's file decodes to, if it does. -/
def file? (dir : Folder) : Option Settings :=
  (dir.text? fileName).bind Settings.ofText?

theorem file?_write {s : Settings} {dir made : Folder}
    (ok : dir.write fileName s.text.toUTF8 = .ok made) : file? made = some s := by
  rw [file?, Folder.text?_write ok, Option.bind_some, Settings.ofText?_text]

theorem decoded_of_file? {s : Settings} {dir : Folder} (found : file? dir = some s) :
    decoded dir = s := by
  rw [decoded, ← file?, found, Option.getD_some]

@[simp] theorem persist_persistent (s : Store) : s.persist.persistent = s.persistent := by
  unfold persist
  split
  · split <;> rfl
  · rfl

/-- To write the same down again changes nothing, whether the first time succeeded or not. -/
theorem persist_persist (s : Store) : s.persist.persist = s.persist := by
  cases persistent : s.persistent with
  | false => simp only [persist, persistent, Bool.false_eq_true, ↓reduceIte]
  | true =>
    cases written : s.dir.write fileName s.settings.text.toUTF8 with
    | ok dir =>
      simp only [persist, persistent, ↓reduceIte, written, Folder.write_write written]
    | error obstacle =>
      obtain ⟨_, again⟩ := Folder.write_made_error written
      simp only [persist, persistent, ↓reduceIte, written, again, Folder.made_made]

/-- To save the same value again changes nothing. -/
theorem save_save (s : Store) (k : Settings.Key) (value : String) :
    (s.save k value).save k value = s.save k value := by
  have same : (s.save k value).settings.set k value = (s.save k value).settings := by
    rw [save, persist_settings, Settings.set_set]
  rw [save, same]
  exact persist_persist _

theorem get?_save (s : Store) (k : Settings.Key) (value : String) :
    (s.save k value).get? k = some value := by
  rw [get?, save, persist_settings, Settings.get?_set_self]

theorem get?_save_other (s : Store) {k l : Settings.Key} (other : k ≠ l) (value : String) :
    (s.save k value).get? l = s.get? l := by
  rw [get?, save, persist_settings, Settings.get?_set, if_neg other, get?]

theorem persist_of_write {s : Settings} {dir made : Folder}
    (ok : dir.write fileName s.text.toUTF8 = .ok made) :
    persist ⟨s, dir, true⟩ = ⟨s, made, true⟩ := by
  rw [persist, if_pos rfl]
  simp only [ok]

theorem load_of_isComplete {dir : Folder} (complete : (decoded dir).isComplete = true) :
    load dir = ⟨decoded dir, dir, true⟩ := by
  rw [load, if_pos complete]

theorem load_of_incomplete {dir : Folder} (incomplete : ¬(decoded dir).isComplete = true) :
    load dir = persist ⟨(decoded dir).seeded, dir, true⟩ := by
  rw [load, if_neg incomplete]

theorem load_of_file? {s : Settings} {dir : Folder} (found : file? dir = some s)
    (complete : s.isComplete = true) : load dir = ⟨s, dir, true⟩ := by
  have same := decoded_of_file? found
  rw [load_of_isComplete (by rwa [same]), same]

/-- A store starts from the settings found in its folder, completed. -/
theorem load_settings (dir : Folder) : (load dir).settings = (decoded dir).seeded := by
  by_cases complete : (decoded dir).isComplete = true
  · rw [load_of_isComplete complete, Settings.seeded_of_isComplete complete]
  · rw [load_of_incomplete complete, persist_settings]

theorem load_isComplete (dir : Folder) : (load dir).settings.isComplete = true := by
  rw [load_settings]
  exact Settings.seeded_isComplete _

@[simp] theorem load_persistent (dir : Folder) : (load dir).persistent = true := by
  by_cases complete : (decoded dir).isComplete = true
  · rw [load_of_isComplete complete]
  · rw [load_of_incomplete complete, persist_persistent]

/-- Nothing is missing only where a file was read. -/
theorem file?_of_isComplete {dir : Folder} (complete : (decoded dir).isComplete = true) :
    file? dir = some (decoded dir) := by
  cases found : file? dir with
  | some s => rw [decoded_of_file? found]
  | none =>
    rw [decoded, ← file?, found] at complete
    exact absurd complete (by simp [Settings.isComplete_iff, Settings.empty])

/-- The settings that a store starts from are in its file, if a file can be written. -/
theorem file?_load {dir made : Folder}
    (ok : dir.write fileName (load dir).settings.text.toUTF8 = .ok made) :
    file? (load dir).dir = some (load dir).settings := by
  by_cases complete : (decoded dir).isComplete = true
  · rw [load_of_isComplete complete]
    exact file?_of_isComplete complete
  · rw [load_settings] at ok
    rw [load_of_incomplete complete, persist_of_write ok]
    exact file?_write ok

/-- Opening a store again gives the same store, if a file can be written. -/
theorem load_load {dir made : Folder}
    (ok : dir.write fileName (load dir).settings.text.toUTF8 = .ok made) :
    load (load dir).dir = load dir := by
  rw [load_of_file? (file?_load ok) (load_isComplete dir)]
  exact congrArg (Store.mk _ _) (load_persistent dir).symm

/-- The stores that there can be: one is opened from a folder or kept in memory, and saved to, while
others may change the folder. -/
inductive Reachable : Store → Prop
  | load (dir : Folder) : Reachable (load dir)
  | inMemory (dir : Folder) : Reachable (inMemory dir)
  | save {s} (k : Settings.Key) (value : String) : Reachable s → Reachable (s.save k value)
  | saveExcluded {s} (apps : AppSet) : Reachable s → Reachable (s.saveExcluded apps)
  | folder {s} (dir : Folder) : Reachable s → Reachable { s with dir }

theorem Reachable.isComplete {s : Store} (reachable : Reachable s) :
    s.settings.isComplete = true := by
  induction reachable with
  | load dir => exact load_isComplete dir
  | inMemory => exact Settings.seeded_isComplete _
  | save k value _ ih =>
    rw [Store.save, persist_settings]
    exact Settings.set_isComplete ih k value
  | saveExcluded apps _ ih =>
    rw [Store.saveExcluded, persist_settings]
    exact Settings.withExcluded_isComplete ih apps
  | folder _ _ ih => exact ih

end Store

end TunnelSession
