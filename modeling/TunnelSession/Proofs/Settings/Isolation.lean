import TunnelSession.Proofs.Settings.Desk
import TunnelSession.Proofs.Settings.Draft

/-!
Drafts side by side. A step on one draft leaves the others alone, and all but a commit leave the
store alone too (`step_others`, `step_uncommitted`); so a draft goes by its own edits, whatever else
happens in the meantime (`after_kept`). `Desk.Opened` reads off a history what a draft was made of
and how it was edited, and `drafts_isolated` says that this is all there is to a draft and to its
commit.
-/

namespace TunnelSession.Desk

/-- The draft that a step is on. -/
def Step.named? : Step → Option String
  | .openDraft name | .set name _ _ | .contains name _ | .commit name | .discard name => some name
  | .get _ | .save _ _ | .all | .saveExcluded _ => none
  | .reopen | .showFile | .writeFile _ | .removeFolder => none

/-- The draft of a name stays open, and none is opened in its place. -/
def Event.keeps (name : String) : Event → Prop
  | .step (.openDraft other) | .step (.commit other) | .step (.discard other) => other ≠ name
  | _ => True

/-- What an event edits in the draft of a name. -/
def Event.toggle? (name : String) : Event → Option Draft.Toggle
  | .step (.set other id excluded) => if other = name then some ⟨id, excluded⟩ else none
  | _ => none

/-- The edits of the draft of a name, in their order. -/
def edits (name : String) (history : List Event) : List Draft.Toggle :=
  history.filterMap (Event.toggle? name)

section Steps

variable {d : Desk} {name other : String}

theorem lookup_without (d : Desk) (name other : String) :
    (d.without name).lookup other = if other = name then none else d.draft? other := by
  rw [without, draft?]
  induction d.drafts with
  | nil => simp
  | cons entry rest ih =>
    obtain ⟨first, draft⟩ := entry
    by_cases dropped : first = name
    · subst dropped
      rw [List.filter_cons_of_neg (by simp), ih]
      by_cases same : other = first
      · rw [if_pos same, if_pos same]
      · have apart : (other == first) = false := by simpa using same
        rw [if_neg same, if_neg same, List.lookup_cons, apart]
    · rw [List.filter_cons_of_pos (by simpa using dropped), List.lookup_cons, List.lookup_cons, ih]
      by_cases same : other = first
      · subst same
        simp [dropped]
      · have apart : (other == first) = false := by simpa using same
        rw [apart]

theorem draft?_withDraft (d : Desk) (name : String) (draft : Draft) (other : String) :
    (d.withDraft name draft).draft? other =
      if other = name then some draft else d.draft? other := by
  rw [withDraft, draft?, List.lookup_cons, lookup_without]
  by_cases same : other = name
  · simp [same]
  · have apart : (other == name) = false := by simpa using same
    simp only [apart, same, ↓reduceIte]

/-- A step on one draft leaves the others as they are. -/
theorem step_others {s : Step} (elsewhere : s.named? ≠ some other) :
    (d.step s).2.draft? other = d.draft? other := by
  have differs {name : String} (named : s.named? = some name) : other ≠ name := by
    rintro rfl
    exact elsewhere named
  cases s with
  | openDraft name => exact (draft?_withDraft ..).trans (if_neg (differs rfl))
  | set name id excluded =>
    simp only [step]
    split
    · rfl
    · exact (draft?_withDraft ..).trans (if_neg (differs rfl))
  | commit name =>
    simp only [step]
    split
    · rfl
    · exact (lookup_without ..).trans (if_neg (differs rfl))
  | discard name => exact (lookup_without ..).trans (if_neg (differs rfl))
  | contains | writeFile | removeFolder =>
    simp only [step]
    split <;> rfl
  | get | save | all | saveExcluded | reopen | showFile => rfl

/-- Of the steps on drafts, only a commit changes the store. -/
theorem step_uncommitted {s : Step} (named : s.named? = some name) (edits : s ≠ .commit name) :
    (d.step s).2.store = d.store := by
  cases s with
  | commit =>
    cases named
    exact absurd rfl edits
  | set | contains =>
    simp only [step]
    split <;> rfl
  | openDraft | discard => rfl
  | get | save | all | saveExcluded | reopen | showFile | writeFile | removeFolder => cases named

theorem step_commit {draft : Draft} (there : d.draft? name = some draft) :
    (d.step (.commit name)).2.store.settings =
      { d.store.settings with excluded := some draft.apps } := by
  simp [step, there, Store.commit, Store.saveExcluded]

/-- A draft is gone once it was committed or discarded. -/
theorem step_ends (name : String) : (d.step (.commit name)).2.draft? name = none ∧
    (d.step (.discard name)).2.draft? name = none := by
  have gone := lookup_without d name name
  rw [if_pos rfl] at gone
  refine ⟨?_, gone⟩
  simp only [step]
  split
  · assumption
  · exact gone

end Steps

section Histories

variable {d : Desk} {name : String} {e : Event} {history during : List Event}

/-- While a draft is kept, only its own edits change it. -/
theorem next_kept (kept : e.keeps name) : (d.next e).draft? name =
    (d.draft? name).map (·.edited (e.toggle? name).toList) := by
  cases e with
  | outside => exact Option.map_id'.symm
  | step s =>
    by_cases named : s.named? = some name
    · cases s with
      | openDraft | commit | discard => exact absurd (Option.some.inj named) kept
      | contains =>
        simp only [next, step]
        split <;> exact Option.map_id'.symm
      | set other id excluded =>
        cases named
        cases there : d.draft? name with
        | none => simp [next, step, there]
        | some draft => simp [next, step, there, draft?_withDraft, Event.toggle?, Draft.edited]
      | get | save | all | saveExcluded | reopen | showFile | writeFile | removeFolder =>
        cases named
    · have unedited : Event.toggle? name (.step s) = none := by
        cases s with
        | set other => exact if_neg fun same => named (congrArg some same)
        | get | save | all | saveExcluded | reopen | showFile | writeFile | removeFolder | openDraft
        | contains | commit | discard => rfl
      rw [next, step_others named, unedited]
      exact Option.map_id'.symm

theorem after_kept (kept : ∀ e ∈ during, e.keeps name) : (d.after during).draft? name =
    (d.draft? name).map (·.edited (edits name during)) := by
  induction during generalizing d with
  | nil => exact Option.map_id'.symm
  | cons e during ih =>
    obtain ⟨first, later⟩ := List.forall_mem_cons.mp kept
    have all : edits name (e :: during) = (e.toggle? name).toList ++ edits name during := by
      cases toggled : e.toggle? name <;> simp [edits, toggled]
    rw [after_cons, ih later, next_kept first, Option.map_map, all]
    simp only [Function.comp_def, Draft.edited_append]

/-- In the history, the draft of a name was opened over a set and edited, and it is still open. -/
def Drafted (d : Desk) (history : List Event) (name : String) (origin : AppSet)
    (toggles : List Draft.Toggle) : Prop :=
  ∃ before during, history = before ++ .step (.openDraft name) :: during ∧
    origin = (d.after before).committed ∧ (∀ e ∈ during, e.keeps name) ∧
    toggles = edits name during

theorem Drafted.draft?_eq {origin : AppSet} {toggles : List Draft.Toggle}
    (drafted : Drafted d history name origin toggles) :
    (d.after history).draft? name = some ((⟨origin⟩ : Draft).edited toggles) := by
  obtain ⟨before, during, rfl, rfl, kept, rfl⟩ := drafted
  have whole : d.after (before ++ .step (.openDraft name) :: during) =
      ((d.after before).next (.step (.openDraft name))).after during := by
    simp [after]
  have start : ((d.after before).next (.step (.openDraft name))).draft? name =
      some ⟨(d.after before).committed⟩ := (draft?_withDraft ..).trans (if_pos rfl)
  rw [whole, after_kept kept, start, Option.map_some]

/-- What is not kept is opened anew or gone. -/
theorem not_keeps (ends : ¬ e.keeps name) :
    e = .step (.openDraft name) ∨ (d.next e).draft? name = none := by
  cases e with
  | outside => exact absurd trivial ends
  | step s =>
    cases s with
    | openDraft other =>
      obtain rfl := not_not.mp ends
      exact .inl rfl
    | commit other =>
      obtain rfl := not_not.mp ends
      exact .inr (step_ends other).1
    | discard other =>
      obtain rfl := not_not.mp ends
      exact .inr (step_ends other).2
    | get | save | all | saveExcluded | set | contains | reopen | showFile | writeFile
    | removeFolder => exact absurd trivial ends

/-- Every draft there is was opened at some time, and kept since. -/
theorem exists_drafted {store : Store} (isOpen : (draft? (after ⟨store, []⟩ history) name).isSome) :
    ∃ origin toggles, Drafted ⟨store, []⟩ history name origin toggles := by
  induction history using List.reverseRecOn with
  | nil => cases isOpen
  | append_singleton history e ih =>
    rw [after_append] at isOpen
    by_cases kept : e.keeps name
    · rw [next_kept kept, Option.isSome_map] at isOpen
      obtain ⟨_, _, before, during, rfl, rfl, kept_before, rfl⟩ := ih isOpen
      refine ⟨_, _, before, during ++ [e], by simp, rfl, ?_, rfl⟩
      simpa [or_imp, forall_and] using ⟨kept_before, kept⟩
    · rcases not_keeps kept with rfl | gone
      · exact ⟨_, _, history, [], rfl, rfl, by simp, rfl⟩
      · rw [gone] at isOpen
        cases isOpen

/-- **Drafts are isolated, and commits are exact.** Take any store, and any history of drafts being
opened, edited, asked, committed and discarded under any names, of direct saves and of changes from
outside. There is a draft of a name exactly if one was opened that was neither committed, discarded
nor replaced since. Such a draft has the applications that were excluded when it was opened, changed
by its own edits in their order: of each application it says what its last edit of it said, or else
what the set said that it was opened over. A commit makes exactly this the excluded set, whatever
was committed or saved in between, and changes no other setting; every other step on a draft leaves
the store as it is. A step leaves every draft as it is but the one that it is on, and a draft that
was committed or discarded is gone. -/
theorem drafts_isolated (store : Store) (history : List Event) (name : String) :
    let d := after ⟨store, []⟩ history
    ((d.draft? name).isSome = true ↔
      ∃ origin toggles, Drafted ⟨store, []⟩ history name origin toggles) ∧
    (∀ origin toggles, Drafted ⟨store, []⟩ history name origin toggles →
      let apps := ((⟨origin⟩ : Draft).edited toggles).apps
      (∀ id, apps.contains id = (Draft.last? toggles id).getD (origin.contains id)) ∧
      (∀ id, (d.step (.contains name id)).1 = .flag (apps.contains id)) ∧
      (d.step (.commit name)).2.store.settings = { d.store.settings with excluded := some apps }) ∧
    (∀ s : Step, s.named? = some name → s ≠ .commit name → (d.step s).2.store = d.store) ∧
    (∀ (s : Step) (other : String), s.named? ≠ some other →
      (d.step s).2.draft? other = d.draft? other) ∧
    (d.step (.commit name)).2.draft? name = none ∧
    (d.step (.discard name)).2.draft? name = none := by
  intro d
  refine ⟨⟨exists_drafted, ?_⟩, ?_, fun s => step_uncommitted, fun s other => step_others,
    step_ends name⟩
  · rintro ⟨origin, toggles, drafted⟩
    rw [drafted.draft?_eq]
    rfl
  · intro origin toggles drafted apps
    have there : d.draft? name = some ((⟨origin⟩ : Draft).edited toggles) := drafted.draft?_eq
    refine ⟨Draft.contains_edited ⟨origin⟩ toggles, fun id => ?_, step_commit there⟩
    simp only [step, there]
    rfl

end Histories

/-- Two drafts are opened over the same set, each is edited, and the second is committed. -/
def overlapping : List Event :=
  [.step (.openDraft "work"), .step (.openDraft "home"), .step (.set "work" "org.mail" true),
    .step (.set "home" "org.maps" true), .step (.commit "home")]

/-- The commit of the first one does not know of the second. -/
theorem drafts_isolated_while_overlapping :
    let d := after ⟨.inMemory .missing, []⟩ overlapping
    d.committed.contains "org.maps" = true ∧
    ∃ apps, (d.step (.commit "work")).2.store.settings.excluded = some apps ∧
      apps.contains "org.mail" = true ∧ apps.contains "org.maps" = false := by
  intro d
  have home : Drafted ⟨.inMemory .missing, []⟩ overlapping.dropLast "home" ∅
      [⟨"org.maps", true⟩] :=
    ⟨[.step (.openDraft "work")], [.step (.set "work" "org.mail" true),
      .step (.set "home" "org.maps" true)], rfl, rfl, by simp [Event.keeps], by decide⟩
  have work : Drafted ⟨.inMemory .missing, []⟩ overlapping "work" ∅ [⟨"org.mail", true⟩] :=
    ⟨[], overlapping.tail, rfl, rfl, by simp [overlapping, Event.keeps], by decide⟩
  obtain ⟨_, of_home, _⟩ := drafts_isolated (.inMemory .missing) overlapping.dropLast "home"
  obtain ⟨_, of_work, _⟩ := drafts_isolated (.inMemory .missing) overlapping "work"
  obtain ⟨contained', _, commits'⟩ := of_home _ _ home
  obtain ⟨contained, _, commits⟩ := of_work _ _ work
  refine ⟨?_, _, congrArg Settings.excluded commits, ?_, ?_⟩
  · have committed : d.committed = ((⟨∅⟩ : Draft).edited [⟨"org.maps", true⟩]).apps :=
      congrArg Settings.apps commits'
    rw [committed, contained']
    decide
  · rw [contained]
    decide
  · rw [contained]
    simp [Draft.last?]

end TunnelSession.Desk
