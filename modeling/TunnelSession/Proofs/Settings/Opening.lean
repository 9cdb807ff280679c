import TunnelSession.Proofs.Settings.Desk

/-!
What a store finds when it is opened. After a save that could be written, it is all that was in
memory then, with what earlier writes had failed to bring into the file: `settings_read_back`. Of
any other file, it is what could be read of it, with what is missing added: `opening_repairs`.
-/

namespace TunnelSession.Desk

/-- **What is written is read back.** The text of any settings decodes to these settings. Take a
store that was opened on any folder, and any history of it, with its folder changed from outside at
will and writes failing because of that. Once a save can be written, the file decodes to all that is
in memory then, and a store opened on it has the same settings. If the store was not opened anew in
between, these are the settings of a store in memory on which the same calls were made: nothing is
lost that earlier writes have failed to bring into the file. -/
theorem settings_read_back :
    (∀ s : Settings, Settings.ofText? s.text = some s) ∧
    ∀ (dir : Folder) (history : List Event) (s : Step) (saved : Settings) (made : Folder),
      ((opened dir).after history).saved? s = some saved →
      ((opened dir).after history).store.dir.write Store.fileName saved.text.toUTF8 = .ok made →
        ((opened dir).after (history ++ [.step s])).store = ⟨saved, made, true⟩ ∧
        Store.file? made = some saved ∧
        Store.load made = ⟨saved, made, true⟩ ∧
        ((∀ e ∈ history, e ≠ .step .reopen) → ∀ other : Folder,
          (after ⟨⟨(Store.load dir).settings, other, false⟩, []⟩
            (history.filter Event.isCall)).saved? s = some saved) := by
  refine ⟨Settings.ofText?_text, ?_⟩
  intro dir history s saved made saves ok
  have complete := saved_isComplete saves (opened_after_isComplete dir history)
  have file := Store.file?_write ok
  have again := Store.load_of_file? file complete
  refine ⟨?_, file, again, ?_⟩
  · rw [after_append]
    exact step_store_of_write saves (opened_after_persistent dir history) ok
  · intro kept other
    have same := after_unwritten (d := opened dir) other kept
    calc (after ⟨⟨(Store.load dir).settings, other, false⟩, []⟩
            (history.filter Event.isCall)).saved? s
      _ = (((opened dir).unwritten other).after (history.filter Event.isCall)).saved? s := rfl
      _ = ((opened dir).after history).saved? s := by rw [same, saved?_unwritten]
      _ = some saved := saves

/-- A name is saved where nothing can be written, which then changes. -/
def failing : List Event :=
  [.outside (.blocked .fileInPlace), .step (.save .name "laptop"), .outside .missing]

theorem settings_read_back_after_failure : ∃ saved made,
    ((opened .missing).after failing).saved? (.save .gateway "172.20.0.7") = some saved ∧
    Store.file? made = some saved ∧ Store.load made = ⟨saved, made, true⟩ ∧
    (after ⟨⟨(Store.load .missing).settings, .missing, false⟩, []⟩
      [.step (.save .name "laptop")]).saved? (.save .gateway "172.20.0.7") = some saved ∧
    saved.get? .name = some "laptop" ∧ saved.get? .gateway = some "172.20.0.7" := by
  obtain ⟨_, file, again, all⟩ := settings_read_back.2 .missing failing
    (.save .gateway "172.20.0.7") _ _ rfl rfl
  refine ⟨_, _, rfl, file, again, all (by simp [failing]) .missing, ?_, ?_⟩
  · simp [failing, after, next, step, withFolder, Store.save, Settings.get?_set]
  · simp

/-- **Opening makes up for what is missing, once.** Whatever a folder's file holds, and whether or
not there is one, a store that is opened has the values that were found, with the initial value for
each key without one, and the excluded set that was found, or none of the applications; and none of
these goes missing later. If the file can be written at all, it then decodes to what the store has,
and opening it again changes neither the file nor what is read. Where nothing was missing, nothing
is written. -/
theorem opening_repairs (dir : Folder) :
    let found := (Store.file? dir).getD ⟨∅, none⟩
    let s := Store.load dir
    (∀ k : Settings.Key, s.get? k = some ((found.get? k).getD k.initial)) ∧
    (∀ name : String, (∀ k : Settings.Key, k.text ≠ name) →
      s.settings.values[name]? = found.values[name]?) ∧
    s.settings.excluded = some (found.excluded.getD ∅) ∧
    (∀ history : List Event,
      (∀ k, (((opened dir).after history).store.get? k).isSome = true) ∧
      ((opened dir).after history).store.settings.excluded.isSome = true) ∧
    (∀ content made, dir.write Store.fileName content = .ok made →
      Store.file? s.dir = some s.settings ∧ Store.load s.dir = s) ∧
    ((∀ k, (found.get? k).isSome = true) → found.excluded.isSome = true → s.dir = dir) := by
  intro found s
  have start : s.settings = found.seeded := Store.load_settings dir
  refine ⟨?_, ?_, ?_, ?_, ?_, ?_⟩
  · intro k
    rw [Store.get?, start, Settings.get?_seeded]
  · intro name unknown
    rw [start, Settings.getElem?_seeded_unknown _ unknown]
  · rw [start]
    rfl
  · intro history
    exact (Settings.isComplete_iff _).mp (opened_after_isComplete dir history)
  · intro content made ok
    obtain ⟨_, ok⟩ := Folder.write_of_write ok (Store.load dir).settings.text.toUTF8
    exact ⟨Store.file?_load ok, Store.load_load ok⟩
  · intro keys apps
    have complete : (Store.decoded dir).isComplete = true :=
      (Settings.isComplete_iff _).mpr ⟨keys, apps⟩
    exact congrArg Store.dir (Store.load_of_isComplete complete)

/-- Settings with one known value, and one that is not known. -/
def partly : Settings :=
  Settings.set ⟨(∅ : Std.ExtTreeMap String String).insert "color" "red", none⟩ .name "laptop"

/-- A folder whose file holds them. -/
def partlySaved : Folder := .present [(Store.fileName, .file partly.text.toUTF8)]

theorem opening_repairs_partly :
    Store.file? partlySaved = some partly ∧
    (Store.load partlySaved).get? .name = some "laptop" ∧
    (Store.load partlySaved).get? .gateway = some "172.20.0.1" ∧
    (Store.load partlySaved).settings.values["color"]? = some "red" ∧
    (Store.load partlySaved).settings.excluded = some ∅ ∧
    Store.load (Store.load partlySaved).dir = Store.load partlySaved := by
  have made : Folder.missing.write Store.fileName partly.text.toUTF8 = .ok partlySaved := rfl
  have file := Store.file?_write made
  obtain ⟨keys, others, apps, _, written, _⟩ := opening_repairs partlySaved
  rw [file, Option.getD_some] at keys others apps
  have rewritten : partlySaved.write Store.fileName .empty =
      .ok (.present [(Store.fileName, .file .empty)]) := by
    simp [partlySaved, Folder.write, Folder.modify, Folder.State.modify, Folder.change, Folder.fits,
      Folder.put, Folder.present, Functor.map, Except.map]
  refine ⟨file, ?_, ?_, ?_, apps, (written _ _ rewritten).2⟩
  · rw [keys .name]
    simp [partly]
  · have absent : partly.get? .gateway = none := by
      simp [partly, Settings.get?, Settings.getElem?_set, Settings.Key.text]
    rw [keys .gateway, absent]
    rfl
  · rw [others "color" (by intro k; cases k <;> decide)]
    simp [partly, Settings.getElem?_set, Settings.Key.text]

end TunnelSession.Desk
