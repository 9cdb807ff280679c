import TunnelSession.Proofs.Console.Run
import TunnelSession.Proofs.Settings.Draft

/-!
The dialog of excluded applications, from the line that opens it to the one that closes it.

* `Opens`, `toggle?` and `Stays` say in terms of a line's words what it does to an open dialog;
* `Editing`: the dialog shows the listing it was opened with, with a draft;
* `run_editing` and `run_closed`: what happens while the dialog is open, and while it is not;
* `dialog_commits_toggles` puts these together.
-/

namespace TunnelSession.Console

section Words

/-- The line opens the dialog. -/
def Opens (line : String) : Prop :=
  commandWord line = "edit".toList ∧
    ∃ i, Text.Denotes (rowWord line) (i + 1) ∧ Menu.Row.all[i]? = some .excludedApps

theorem opens_iff {line : String} : Opens line ↔ commandWord line = "edit".toList ∧
    (Text.position? (rowWord line)).bind (Menu.Row.all[·]?) = some .excludedApps := by
  simp only [Opens, Option.bind_eq_some_iff, Text.position?_eq_some_iff]

instance (line : String) : Decidable (Opens line) := decidable_of_iff _ opens_iff.symm

/-- What a line ticks or unticks in a listing: the application whose place its argument is a numeral
of, counted from one. -/
def toggle? (listing : List EligibleApp) (line : String) : Option Draft.Toggle :=
  let listed := (Text.position? (argument line)).bind (listing[·]?)
  if commandWord line = "check".toList then listed.map (⟨·.id, true⟩)
  else if commandWord line = "uncheck".toList then listed.map (⟨·.id, false⟩)
  else none

/-- The line leaves an open dialog open, and does not open it anew. -/
structure Stays (line : String) : Prop where
  opens : ¬ Opens line
  confirms : commandWord line ≠ "ok".toList
  cancels : commandWord line ≠ "cancel".toList

instance (line : String) : Decidable (Stays line) :=
  decidable_of_iff (¬ Opens line ∧ commandWord line ≠ "ok".toList ∧
    commandWord line ≠ "cancel".toList)
    ⟨fun ⟨opens, confirms, cancels⟩ => ⟨opens, confirms, cancels⟩,
      fun ⟨opens, confirms, cancels⟩ => ⟨opens, confirms, cancels⟩⟩

variable {listing : List EligibleApp} {line : String}

theorem toggle?_check (command : commandWord line = "check".toList) : toggle? listing line =
    ((Text.position? (argument line)).bind (listing[·]?)).map (⟨·.id, true⟩) := by
  rw [toggle?, if_pos command]

theorem toggle?_uncheck (command : commandWord line = "uncheck".toList) : toggle? listing line =
    ((Text.position? (argument line)).bind (listing[·]?)).map (⟨·.id, false⟩) := by
  rw [toggle?, if_neg (by rw [command]; decide), if_pos command]

theorem toggle?_other (check : commandWord line ≠ "check".toList)
    (uncheck : commandWord line ≠ "uncheck".toList) : toggle? listing line = none := by
  rw [toggle?, if_neg check, if_neg uncheck]

/-- Only a listed application is ticked or unticked. -/
theorem toggle?_listed {t : Draft.Toggle} (toggles : toggle? listing line = some t) :
    ∃ app ∈ listing, app.id = t.id := by
  have listed {excluded : Bool} (found : ((Text.position? (argument line)).bind
      (listing[·]?)).map (⟨·.id, excluded⟩) = some t) : ∃ app ∈ listing, app.id = t.id := by
    obtain ⟨app, named, rfl⟩ := Option.map_eq_some_iff.mp found
    obtain ⟨k, _, there⟩ := Option.bind_eq_some_iff.mp named
    exact ⟨app, List.mem_of_getElem? there, rfl⟩
  unfold toggle? at toggles
  split at toggles
  · exact listed toggles
  · split at toggles
    · exact listed toggles
    · cases toggles

end Words

def Event.toggle? (listing : List EligibleApp) : Event → Option Draft.Toggle
  | .line text => Console.toggle? listing text
  | _ => none

/-- What the lines of a history tick and untick in a listing. -/
def toggles (listing : List EligibleApp) (history : List Event) : List Draft.Toggle :=
  history.filterMap (Event.toggle? listing)

theorem toggles_listed {listing : List EligibleApp} {history : List Event} {t : Draft.Toggle}
    (mem : t ∈ toggles listing history) : ∃ app ∈ listing, app.id = t.id := by
  obtain ⟨e, _, toggles⟩ := List.mem_filterMap.mp mem
  cases e with
  | line text => exact toggle?_listed toggles
  | settle | outcome | direct | installs => cases toggles

section Lines

variable {ε ι : Type} [Engine ε] [TunnelInterface ι] {c : Console ε ι} {line : String}
  {listing : List EligibleApp} {draft : Draft}

theorem Opens.handle_eq (opens : Opens line) :
    let dialog : Dialog := ⟨eligibleApps c.installed c.store.settings.apps, c.store.draft⟩
    c.handle line = ⟨dialog.lines, { c with dialog := some dialog }, true⟩ := by
  obtain ⟨command, i, row, place⟩ := opens
  have found : (Text.position? (rowWord line)).bind (Menu.Row.all[·]?) = some .excludedApps := by
    rw [row.bind_position?, place]
  rw [handle, parse_edit command, Console.run, edit, found]
  rfl

theorem handle_cancel (command : commandWord line = "cancel".toList) :
    (c.handle line).console = { c with dialog := none } := by
  rw [handle_console, parse_eq, command]
  rfl

theorem handle_quit (quits : Command.parse line = .quit) : (c.handle line).console = c := by
  rw [handle_console, quits]
  rfl

omit [Engine ε] [TunnelInterface ι] in
theorem check_dialog (isOpen : c.dialog = some ⟨listing, draft⟩) (entry : List Char)
    (excluded : Bool) : (c.check entry excluded).2.dialog = some ⟨listing, draft.edited
      (((Text.position? entry).bind (listing[·]?)).map (⟨·.id, excluded⟩)).toList⟩ := by
  simp only [check, isOpen]
  split
  · rename_i unlisted
    rw [unlisted]
    exact isOpen
  · rename_i app listed
    rw [listed]
    rfl

/-- A line that leaves the dialog open edits its draft, or leaves that too. -/
theorem Stays.dialog (stays : Stays line) (isOpen : c.dialog = some ⟨listing, draft⟩) :
    (c.handle line).console.dialog =
      some ⟨listing, draft.edited (toggle? listing line).toList⟩ := by
  by_cases check : commandWord line = "check".toList
  · rw [toggle?_check check, handle_console, parse_eq, check]
    exact check_dialog isOpen _ true
  by_cases uncheck : commandWord line = "uncheck".toList
  · rw [toggle?_uncheck uncheck, handle_console, parse_eq, uncheck]
    exact check_dialog isOpen _ false
  rw [toggle?_other check uncheck]
  have acts := handle_acts c line
  generalize (c.handle line).console = next at *
  cases acts with
  | sets | asks | idle => exact isOpen
  | commits names => exact absurd names.command stays.confirms
  | redraws names =>
    cases names with
    | opens command row place => exact absurd ⟨command, _, row, place⟩ stays.opens
    | toggles command => exact absurd command (not_or.mpr ⟨check, uncheck⟩)
    | closes command => exact absurd command stays.cancels

/-- No line but the one that opens the dialog has a dialog to do anything to. -/
theorem closed_line (isClosed : c.dialog = none) (other : ¬ Opens line) :
    (c.handle line).console.dialog = none := by
  by_cases cancel : commandWord line = "cancel".toList
  · rw [handle_cancel cancel]
  have acts := handle_acts c line
  generalize (c.handle line).console = next at *
  cases acts with
  | sets | asks | idle => exact isClosed
  | commits => rfl
  | redraws names =>
    cases names with
    | opens command row place => exact absurd ⟨command, _, row, place⟩ other
    | toggles _ isOpen => simp [isClosed] at isOpen
    | closes command => exact absurd command cancel

end Lines

section Runs

variable {ε ι : Type} [Engine ε] [TunnelInterface ι] {u : Surroundings ε ι}
  {c next t : Console ε ι} {e : Event} {history : List Event} {saved : Option AppSet}
  {listing : List EligibleApp} {draft : Draft}

/-- The dialog is open with a listing and a draft, over the set that is saved. -/
structure Editing (c : Console ε ι) (saved : Option AppSet) (listing : List EligibleApp)
    (draft : Draft) : Prop where
  excluded : c.excluded = saved
  dialog : c.dialog = some ⟨listing, draft⟩

theorem step_editing (step : Step u c e next) (alone : e.excludes = false)
    (stays : ∀ text, e = .line text → Stays text) (editing : Editing c saved listing draft) :
    Editing next saved listing (draft.edited (e.toggle? listing).toList) := by
  constructor
  · rcases step_excluded step alone with same | ⟨text, _, rfl, commits⟩
    · exact same.trans editing.excluded
    · exact absurd commits.command (stays text rfl).confirms
  · by_cases isLine : ∃ text, e = .line text
    · obtain ⟨text, rfl⟩ := isLine
      cases step
      exact (stays text rfl).dialog editing.dialog
    · have others := step_others step (by simpa using isLine) alone
      have none_such : e.toggle? listing = none := by
        cases e with
        | line text => exact absurd ⟨text, rfl⟩ isLine
        | settle | outcome | direct | installs => rfl
      rw [others.1, none_such]
      exact editing.dialog

theorem run_editing (run : Run u c history t) (alone : ∀ e ∈ history, e.excludes = false)
    (stays : ∀ text, .line text ∈ history → Stays text) (editing : Editing c saved listing draft) :
    Editing t saved listing (draft.edited (toggles listing history)) := by
  induction run with
  | start => exact editing
  | @next history c e t _ step ih =>
    have before := ih (fun e mem => alone e (List.mem_append_left _ mem))
      fun text mem => stays text (List.mem_append_left _ mem)
    have after := step_editing step (alone e (by simp))
      (fun text last => stays text (by simp [last])) before
    have last : toggles listing [e] = (e.toggle? listing).toList := by
      cases toggled : e.toggle? listing <;> simp [toggles, toggled]
    rwa [← Draft.edited_append, ← last, toggles, toggles, ← List.filterMap_append] at after

/-- Without a dialog, nothing changes the excluded set until one is opened. -/
theorem run_closed (run : Run u c history t) (alone : ∀ e ∈ history, e.excludes = false)
    (unopened : ∀ text, .line text ∈ history → ¬ Opens text) (isClosed : c.dialog = none) :
    t.dialog = none ∧ t.excluded = c.excluded := by
  induction run with
  | start => exact ⟨isClosed, rfl⟩
  | @next history d e t _ step ih =>
    obtain ⟨before, same⟩ := ih (fun e mem => alone e (List.mem_append_left _ mem))
      fun text mem => unopened text (List.mem_append_left _ mem)
    have alone := alone e (by simp)
    constructor
    · by_cases isLine : ∃ text, e = .line text
      · obtain ⟨text, rfl⟩ := isLine
        cases step
        exact closed_line before (unopened text (by simp))
      · rw [(step_others step (by simpa using isLine) alone).1, before]
    · rcases step_excluded step alone with unchanged | ⟨_, _, _, commits⟩
      · rw [unchanged, same]
      · exact nomatch before.symm.trans commits.isOpen

/-- The run goes on after its last line, as it does once the console has quit. -/
theorem run_lineless (run : Run u c history t) (alone : ∀ e ∈ history, e.excludes = false)
    (lineless : ∀ text, .line text ∉ history) : t.excluded = c.excluded := by
  induction run with
  | start => rfl
  | @next history d e t _ step ih =>
    have before := ih (fun e mem => alone e (List.mem_append_left _ mem))
      fun text mem => lineless text (List.mem_append_left _ mem)
    have other : ∀ text, e ≠ .line text := by
      rintro text rfl
      exact lineless text (by simp)
    rw [(step_others step other (alone e (by simp))).2, before]

/-- What a commit leaves: the draft is the excluded set, and no other setting has changed. -/
theorem commit_settings (s : Store) (draft : Draft) :
    (s.commit draft).settings = { s.settings with excluded := some draft.apps } :=
  Store.persist_settings _

/-- **The dialog commits exactly the toggles made.** Take any console, with any applications
installed and any set excluded, and a line that opens the dialog. It prints a listing with its
marks. Take any run from there with nothing but the console saving excluded applications and with no
line that opens the dialog anew, confirms or cancels. Until then the excluded set is what it was,
and the dialog keeps its listing, with a draft where an application is excluded as the last line
that ticked or unticked it says, or else as it was before; one that is not listed stays as it was.
To confirm makes the draft the excluded set and changes no other setting. To cancel or to open the
dialog anew saves nothing; the new dialog starts from what is saved. Once the dialog is closed,
nothing changes the excluded set until it is opened again, and neither does anything after the
console has quit. -/
theorem dialog_commits_toggles {opening : String} (opens : Opens opening)
    (run : Run u (c.handle opening).console history t)
    (alone : ∀ e ∈ history, e.excludes = false)
    (stays : ∀ text, .line text ∈ history → Stays text) :
    let listing := eligibleApps c.installed c.store.settings.apps
    let ticked (id : String) : Bool := (Draft.last? (toggles listing history) id).getD
      (c.store.settings.apps.contains id)
    (c.handle opening).lines = listing.mapIdx (appLine c.store.draft) ∧
    t.excluded = c.excluded ∧
    (∃ draft, t.dialog = some ⟨listing, draft⟩ ∧ ∀ id, draft.contains id = ticked id) ∧
    (∀ id, (∀ app ∈ listing, app.id ≠ id) → ticked id = c.store.settings.apps.contains id) ∧
    (∀ line, commandWord line = "ok".toList →
      ∃ apps, (t.handle line).console.store.settings =
          { t.store.settings with excluded := some apps } ∧
        ∀ id, apps.contains id = ticked id) ∧
    (∀ line, commandWord line = "cancel".toList →
      (t.handle line).console.store = t.store) ∧
    (∀ line, Opens line → (t.handle line).console.store = t.store ∧
      (t.handle line).console.dialog =
        some ⟨eligibleApps t.installed c.store.settings.apps, c.store.draft⟩) ∧
    (∀ line, commandWord line = "ok".toList ∨ commandWord line = "cancel".toList →
      ∀ later t', Run u (t.handle line).console later t' →
        (∀ e ∈ later, e.excludes = false) → (∀ text, .line text ∈ later → ¬ Opens text) →
        t'.excluded = (t.handle line).console.excluded) ∧
    (∀ line, (t.handle line).goesOn = false →
      ∀ later t', Run u (t.handle line).console later t' →
        (∀ e ∈ later, e.excludes = false) → (∀ text, .line text ∉ later) →
        t'.excluded = c.excluded) := by
  intro listing ticked
  have opened : Editing (c.handle opening).console c.excluded listing c.store.draft := by
    rw [opens.handle_eq]
    exact ⟨rfl, rfl⟩
  obtain ⟨excluded, isOpen⟩ := run_editing run alone stays opened
  have membership (id : String) :
      (c.store.draft.edited (toggles listing history)).contains id = ticked id :=
    Draft.contains_edited _ _ _
  have apps : t.store.settings.apps = c.store.settings.apps :=
    congrArg (Option.getD · ∅) excluded
  have commits {line : String} (command : commandWord line = "ok".toList) :
      Commits t line ⟨listing, c.store.draft.edited (toggles listing history)⟩ :=
    ⟨command, isOpen⟩
  refine ⟨?_, excluded, ⟨_, isOpen, membership⟩, ?_, ?_, ?_, ?_, ?_, ?_⟩
  · rw [opens.handle_eq]
    rfl
  · intro id unlisted
    have other : ∀ toggle ∈ toggles listing history, toggle.id ≠ id := by
      rintro toggle mem rfl
      obtain ⟨app, listed, same⟩ := toggles_listed mem
      exact unlisted app listed same
    rw [← membership id, Draft.contains_edited_other _ other]
    rfl
  · intro line command
    rw [(commits command).handle_eq]
    exact ⟨_, commit_settings _ _, membership⟩
  · intro line command
    rw [handle_cancel command]
    rfl
  · intro line reopens
    rw [reopens.handle_eq, apps]
    exact ⟨rfl, congrArg (fun apps => some (Dialog.mk _ ⟨apps⟩)) apps⟩
  · intro line closes later t' run' alone' unopened
    have isClosed : (t.handle line).console.dialog = none := by
      rcases closes with command | command
      · rw [(commits command).handle_eq]
      · rw [handle_cancel command]
    exact (run_closed run' alone' unopened isClosed).2
  · intro line quits later t' run' alone' lineless
    rw [handle_quit ((parse_quit_iff line).mpr (goesOn_iff.mp quits))] at run'
    rw [run_lineless run' alone' lineless, excluded]

/-- A console with two names for one application, over settings that exclude one that is not
installed. -/
def overLeftovers :
    Console (Recorded.Engine Scripted.Engine) (Recorded.Interface Scripted.Interface) :=
  let store := (Store.inMemory .missing).saveExcluded (.ofList ["org.gone", "org.mail"])
  connect (Recorded.fresh store {} (.knowing none) Tunnel.defaultHost "/data").session
    [⟨"Mail", "org.mail", false⟩, ⟨"Post", "org.mail", false⟩, ⟨"Clock", "org.clock", true⟩,
      ⟨"Maps", "org.maps", false⟩]

theorem overLeftovers_apps :
    overLeftovers.store.settings.apps = .ofList ["org.gone", "org.mail"] := rfl

theorem overLeftovers_listing : eligibleApps overLeftovers.installed
    overLeftovers.store.settings.apps =
      [⟨"Mail", "org.mail"⟩, ⟨"Post", "org.mail"⟩, ⟨"Maps", "org.maps"⟩] := by
  rw [overLeftovers_apps]
  apply List.mergeSort_of_pairwise
  change List.Pairwise _
    [EligibleApp.mk "Mail" "org.mail", ⟨"Post", "org.mail"⟩, ⟨"Maps", "org.maps"⟩]
  simp [EligibleApp.before]

/-- The last line about an application counts, by whichever name, and what is not listed stays. -/
theorem dialog_commits_toggles_by_either_name : ∃ history t,
    Run (Recorded.surroundings Scripted.surroundings) (overLeftovers.handle "edit 6").console
      history t ∧
    ∃ apps, (t.handle "ok").console.excluded = some apps ∧ apps.contains "org.gone" = true ∧
      apps.contains "org.mail" = false ∧ apps.contains "org.maps" = true := by
  have run : Run (Recorded.surroundings Scripted.surroundings)
      (overLeftovers.handle "edit 6").console
      [.line "check 1", .line "start", .line "check 9", .line "uncheck 2", .line "check 3"] _ :=
    ((((Run.start.next (.line "check 1")).next (.line "start")).next (.line "check 9")).next
      (.line "uncheck 2")).next (.line "check 3")
  have stays : ∀ text ∈ ["check 1", "start", "check 9", "uncheck 2", "check 3"], Stays text := by
    decide +kernel
  have opens : Opens "edit 6" := by decide +kernel
  obtain ⟨_, _, _, _, confirmed, _⟩ :=
    dialog_commits_toggles opens run (by simp [Event.excludes]) (by simpa using stays)
  obtain ⟨apps, settings, ticked⟩ := confirmed "ok" (by decide +kernel)
  beta_reduce at ticked
  have edits : toggles (eligibleApps overLeftovers.installed overLeftovers.store.settings.apps)
      [.line "check 1", .line "start", .line "check 9", .line "uncheck 2", .line "check 3"] =
      [⟨"org.mail", true⟩, ⟨"org.mail", false⟩, ⟨"org.maps", true⟩] := by
    rw [overLeftovers_listing]
    decide +kernel
  refine ⟨_, _, run, apps, congrArg Settings.excluded settings, ?_, ?_, ?_⟩ <;>
    rw [ticked, edits] <;> simp [overLeftovers_apps, Draft.last?]

end Runs

end TunnelSession.Console
