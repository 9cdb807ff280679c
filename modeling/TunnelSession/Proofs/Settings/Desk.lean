import TunnelSession.Proofs.Settings.Store
import TunnelSession.Settings.Desk

/-!
What happens at a desk over time. `Desk.Event` is a step, or any change of the folder that someone
else makes; since a write goes by what it finds, such changes make the writes of a store succeed and
fail in any order.

* `Desk.saved?`: the settings that a step saves, and `step_store_of_saved`, that it does write them;
* `after_isComplete`: nothing that was there ever goes missing;
* `Desk.unwritten`: the same desk over a store that is never written down. It goes the same way
  (`after_unwritten`), and `persistence_unnoticed` says that its answers are the same.
-/

namespace TunnelSession.Desk

/-- Whether a step is a call on the store or on a draft, and no look at the folder. -/
def Step.isCall : Step → Bool
  | .get _ | .save _ _ | .all | .saveExcluded _ => true
  | .openDraft _ | .set _ _ _ | .contains _ _ | .commit _ | .discard _ => true
  | .reopen | .showFile | .writeFile _ | .removeFolder => false

/-- A step, or a change of the folder from outside, of what is in it or of what can be written. -/
inductive Event where
  | step (s : Step)
  | outside (dir : Folder)

def Event.isCall : Event → Bool
  | .step s => s.isCall
  | .outside _ => false

/-- A desk over the store of a folder, with no drafts. -/
def opened (dir : Folder) : Desk := ⟨.load dir, []⟩

variable (d : Desk)

def next : Event → Desk
  | .step s => (d.step s).2
  | .outside dir => d.withFolder dir

def after (history : List Event) : Desk := history.foldl next d

/-- What a call is answered. -/
def answer? : Event → Option Answer
  | .step s => if s.isCall then some (d.step s).1 else none
  | .outside _ => none

/-- The answers to the calls of a history, in their order. -/
def answers (d : Desk) : List Event → List Answer
  | [] => []
  | e :: history => (d.answer? e).toList ++ answers (d.next e) history

/-- The settings that a step saves. -/
def saved? : Step → Option Settings
  | .save key value => some (d.store.settings.set key value)
  | .saveExcluded apps => some { d.store.settings with excluded := some apps }
  | .commit name =>
    (d.draft? name).map fun draft => { d.store.settings with excluded := some draft.apps }
  | _ => none

/-- The desk with a store that is not written down, wherever that would be. -/
def unwritten (other : Folder) : Desk :=
  ⟨⟨d.store.settings, other, false⟩, d.drafts⟩

theorem after_cons (e : Event) (history : List Event) :
    d.after (e :: history) = (d.next e).after history := rfl

@[simp] theorem after_append (history : List Event) (e : Event) :
    d.after (history ++ [e]) = (d.after history).next e := by
  simp [after]

section Saves

variable {d} {s : Step} {saved : Settings}

theorem step_store_of_saved (saves : d.saved? s = some saved) :
    (d.step s).2.store = Store.persist ⟨saved, d.store.dir, d.store.persistent⟩ := by
  cases s with
  | save | saveExcluded =>
    cases saves
    rfl
  | commit name =>
    obtain ⟨draft, there, same⟩ := Option.map_eq_some_iff.mp saves
    subst same
    simp [step, there, Store.commit, Store.saveExcluded]
  | get | all | openDraft | set | contains | discard | reopen | showFile | writeFile
  | removeFolder => cases saves

theorem step_store_of_write {made : Folder} (saves : d.saved? s = some saved)
    (persistent : d.store.persistent = true)
    (ok : d.store.dir.write Store.fileName saved.text.toUTF8 = .ok made) :
    (d.step s).2.store = ⟨saved, made, true⟩ := by
  rw [step_store_of_saved saves, persistent, Store.persist_of_write ok]

theorem saved_isComplete (saves : d.saved? s = some saved)
    (complete : d.store.settings.isComplete = true) : saved.isComplete = true := by
  cases s with
  | save key value =>
    cases saves
    exact Settings.set_isComplete complete key value
  | saveExcluded apps =>
    cases saves
    exact Settings.withExcluded_isComplete complete apps
  | commit name =>
    obtain ⟨draft, _, same⟩ := Option.map_eq_some_iff.mp saves
    subst same
    exact Settings.withExcluded_isComplete complete draft.apps
  | get | all | openDraft | set | contains | discard | reopen | showFile | writeFile
  | removeFolder => cases saves

/-- Only a step that saves changes more of the store than its folder, or one that opens it anew. -/
theorem step_store_of_not_saved (saves : d.saved? s = none) (kept : s ≠ .reopen) :
    ∃ dir, (d.step s).2.store = { d.store with dir } := by
  cases s with
  | save | saveExcluded => cases saves
  | reopen => exact absurd rfl kept
  | commit name =>
    have absent : d.draft? name = none := Option.map_eq_none_iff.mp saves
    exact ⟨d.store.dir, by simp [step, absent]⟩
  | set name | contains name =>
    simp only [step]
    split <;> exact ⟨d.store.dir, rfl⟩
  | writeFile | removeFolder =>
    simp only [step]
    split <;> exact ⟨_, rfl⟩
  | get | all | openDraft | discard | showFile => exact ⟨d.store.dir, rfl⟩

end Saves

section Invariants

variable {d}

theorem next_isComplete (complete : d.store.settings.isComplete = true) (e : Event) :
    (d.next e).store.settings.isComplete = true := by
  cases e with
  | outside => exact complete
  | step s =>
    cases saves : d.saved? s with
    | some saved =>
      simp only [next, step_store_of_saved saves, Store.persist_settings]
      exact saved_isComplete saves complete
    | none =>
      by_cases anew : s = .reopen
      · subst anew
        simp only [next, step]
        split
        · exact Store.load_isComplete _
        · exact Settings.seeded_isComplete _
      · obtain ⟨dir, same⟩ := step_store_of_not_saved saves anew
        rw [next, same]
        exact complete

/-- Nothing that was there ever goes missing. -/
theorem after_isComplete (complete : d.store.settings.isComplete = true) (history : List Event) :
    (d.after history).store.settings.isComplete = true := by
  induction history generalizing d with
  | nil => exact complete
  | cons e history ih => exact ih (next_isComplete complete e)

/-- A desk over a folder's store never lacks a value. -/
theorem opened_after_isComplete (dir : Folder) (history : List Event) :
    ((opened dir).after history).store.settings.isComplete = true := by
  have start : (opened dir).store.settings.isComplete = true := Store.load_isComplete dir
  exact after_isComplete start history

theorem next_persistent (e : Event) : (d.next e).store.persistent = d.store.persistent := by
  cases e with
  | outside => rfl
  | step s =>
    cases saves : d.saved? s with
    | some saved => rw [next, step_store_of_saved saves, Store.persist_persistent]
    | none =>
      by_cases anew : s = .reopen
      · subst anew
        simp only [next, step]
        split
        · rename_i persistent
          rw [Store.load_persistent, persistent]
        · rename_i memory
          exact (Bool.eq_false_iff.mpr memory).symm
      · obtain ⟨dir, same⟩ := step_store_of_not_saved saves anew
        rw [next, same]

theorem after_persistent (history : List Event) :
    (d.after history).store.persistent = d.store.persistent := by
  induction history generalizing d with
  | nil => rfl
  | cons e history ih => rw [after_cons, ih, next_persistent]

theorem opened_after_persistent (dir : Folder) (history : List Event) :
    ((opened dir).after history).store.persistent = true := by
  rw [after_persistent]
  exact Store.load_persistent dir

end Invariants

section Unwritten

variable {d} (other : Folder)

@[simp] theorem saved?_unwritten (s : Step) : (d.unwritten other).saved? s = d.saved? s := by
  cases s <;> rfl

/-- A call looks at the settings and the drafts only. -/
theorem step_unwritten {s : Step} (call : s.isCall = true) :
    (d.unwritten other).step s = ((d.step s).1, (d.step s).2.unwritten other) := by
  cases s with
  | save key value =>
    simp only [step, unwritten, Store.save, Store.persist_settings]
    rfl
  | saveExcluded apps =>
    simp only [step, unwritten, Store.saveExcluded, Store.persist_settings]
    rfl
  | commit name =>
    have drafts : (d.unwritten other).draft? name = d.draft? name := rfl
    simp only [step, drafts]
    split
    · rfl
    · simp only [unwritten, committed, Store.commit, Store.saveExcluded, Store.persist_settings]
      rfl
  | set name id | contains name id =>
    have drafts : (d.unwritten other).draft? name = d.draft? name := rfl
    simp only [step, drafts]
    split <;> rfl
  | get | all | openDraft | discard => rfl
  | reopen | showFile | writeFile | removeFolder => cases call

theorem next_unwritten {e : Event} (call : e.isCall = true) :
    (d.unwritten other).next e = (d.next e).unwritten other := by
  cases e with
  | step s => rw [next, step_unwritten other call, next]
  | outside => cases call

theorem answer?_unwritten {e : Event} (call : e.isCall = true) :
    (d.unwritten other).answer? e = d.answer? e := by
  cases e with
  | step s =>
    have call : s.isCall = true := call
    rw [answer?, if_pos call, step_unwritten other call, answer?, if_pos call]
  | outside => cases call

theorem answer?_of_passed {e : Event} (passed : e.isCall = false) : d.answer? e = none := by
  cases e with
  | step s =>
    have passed : s.isCall = false := passed
    simp [answer?, passed]
  | outside => rfl

/-- What is done to the folder is not noticed by a store that goes on. -/
theorem next_unnoticed {e : Event} (passed : e.isCall = false) (kept : e ≠ .step .reopen) :
    (d.next e).unwritten other = d.unwritten other := by
  cases e with
  | outside => rfl
  | step s =>
    cases s with
    | showFile => rfl
    | writeFile | removeFolder =>
      simp only [next, step]
      split <;> rfl
    | reopen => exact absurd rfl kept
    | get | save | all | saveExcluded | openDraft | set | contains | commit | discard => cases passed

variable {history : List Event}

theorem after_unwritten (kept : ∀ e ∈ history, e ≠ .step .reopen) :
    (d.unwritten other).after (history.filter Event.isCall) = (d.after history).unwritten other := by
  induction history generalizing d with
  | nil => rfl
  | cons e history ih =>
    obtain ⟨first, rest⟩ := List.forall_mem_cons.mp kept
    rw [after_cons, ← ih rest]
    cases call : e.isCall with
    | true => rw [List.filter_cons_of_pos call, after_cons, next_unwritten other call]
    | false => rw [List.filter_cons_of_neg (by simp [call]), next_unnoticed other call first]

theorem answers_unwritten (kept : ∀ e ∈ history, e ≠ .step .reopen) :
    d.answers history = (d.unwritten other).answers (history.filter Event.isCall) := by
  induction history generalizing d with
  | nil => rfl
  | cons e history ih =>
    obtain ⟨first, rest⟩ := List.forall_mem_cons.mp kept
    rw [answers, ih rest]
    cases call : e.isCall with
    | true =>
      rw [List.filter_cons_of_pos call, answers, next_unwritten other call,
        answer?_unwritten other call]
    | false =>
      rw [List.filter_cons_of_neg (by simp [call]), next_unnoticed other call first,
        answer?_of_passed call]
      rfl

/-- **Writing down is never noticed.** However the writes of a store go, and whatever is done to its
folder in the meantime, the calls on it and on its drafts are answered as they are by a store in
memory that starts from the same settings, as long as it is not opened anew. -/
theorem persistence_unnoticed (dir : Folder) (kept : ∀ e ∈ history, e ≠ .step .reopen) :
    (opened dir).answers history =
      answers ⟨⟨(Store.load dir).settings, other, false⟩, []⟩ (history.filter Event.isCall) :=
  answers_unwritten other kept

end Unwritten

/-- A value is saved, its file is taken away, another is saved where nothing can be, and both are
read. -/
def interrupted : List Event :=
  [.step (.save .name "laptop"), .step .removeFolder, .outside (.blocked .fileInPlace),
    .step (.save .gateway "172.20.0.7"), .step (.get .name), .step (.get .gateway)]

theorem persistence_unnoticed_while_blocked :
    (opened .missing).answers interrupted =
      answers ⟨⟨(Store.load .missing).settings, .missing, false⟩, []⟩
        (interrupted.filter Event.isCall) ∧
    ((opened .missing).answers interrupted).drop 2 =
      [.value (some "laptop"), .value (some "172.20.0.7")] := by
  have kept : ∀ e ∈ interrupted, e ≠ .step .reopen := by simp [interrupted]
  have same := persistence_unnoticed .missing .missing kept
  refine ⟨same, ?_⟩
  have calls : interrupted.filter Event.isCall =
      [.step (.save .name "laptop"), .step (.save .gateway "172.20.0.7"), .step (.get .name),
        .step (.get .gateway)] := rfl
  rw [same, calls]
  simp [answers, answer?, Step.isCall, next, step, Store.get?, Store.save, Settings.get?_set]

end TunnelSession.Desk
