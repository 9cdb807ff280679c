import TunnelSession.Proofs.Console.Lines
import TunnelSession.Proofs.Session.Gateway
import TunnelSession.Proofs.Text.Numeral

/-!
What a line names and what it changes. A line can name four things, said here in terms of its words:
a setting that it gives a value (`Sets`), the draft that it commits (`Commits`), the request that it
makes (`Asks`), and the dialog that it opens, edits or closes (`Redraws`).

* `handle_acts`: a line does one of these, or nothing at all;
* `Sets.handle_eq`, `Commits.handle_eq` and `Asks.dispatcher_eq`: a line that names one does it;
* `line_changes_what_it_names` puts these together.
-/

namespace TunnelSession.Console

section Words

/-- The first word of a line without the blanks around it. -/
def commandWord (line : String) : List Char := (word (Text.strip line.toList)).1

/-- What follows the first word. -/
def argument (line : String) : List Char := (word (Text.strip line.toList)).2

/-- The row that a line to edit names. -/
def rowWord (line : String) : List Char := (word (argument line)).1

/-- The value that a line to edit gives. -/
def givenValue (line : String) : List Char := (word (argument line)).2

theorem parse_eq (line : String) :
    Command.parse line = .ofWord (String.ofList (commandWord line)) (argument line) := rfl

/-- The commands that a line can be read as, by its first word. -/
inductive Reads (line : String) : Command → Prop
  | edit (command : commandWord line = "edit".toList) :
      Reads line (.edit (rowWord line) (givenValue line))
  | check (command : commandWord line = "check".toList) : Reads line (.check (argument line) true)
  | uncheck (command : commandWord line = "uncheck".toList) :
      Reads line (.check (argument line) false)
  | ok (command : commandWord line = "ok".toList) : Reads line .ok
  | cancel (command : commandWord line = "cancel".toList) : Reads line .cancel
  | start (command : commandWord line = "start".toList) : Reads line .start
  | stop (command : commandWord line = "stop".toList) : Reads line .stop
  | quit (command : commandWord line = "quit".toList ∨ commandWord line = "exit".toList) :
      Reads line .quit
  | nothing : Reads line .nothing
  | help : Reads line .help
  | list : Reads line .list
  | unknown : Reads line (.unknown (commandWord line))

theorem parse_reads (line : String) : Reads line (.parse line) := by
  have named {name : String} (h : String.ofList (commandWord line) = name) :
      commandWord line = name.toList := by
    rw [← h, String.toList_ofList]
  rw [parse_eq]
  unfold Command.ofWord
  split
  · exact .nothing
  · exact .help
  · exact .list
  · exact .edit (named ‹_›)
  · exact .check (named ‹_›)
  · exact .uncheck (named ‹_›)
  · exact .ok (named ‹_›)
  · exact .cancel (named ‹_›)
  · exact .start (named ‹_›)
  · exact .stop (named ‹_›)
  · exact .quit (.inl (named ‹_›))
  · exact .quit (.inr (named ‹_›))
  · rw [String.toList_ofList]
    exact .unknown

theorem parse_edit {line : String} (command : commandWord line = "edit".toList) :
    Command.parse line = .edit (rowWord line) (givenValue line) := by
  rw [parse_eq, command]
  rfl

theorem parse_quit_iff (line : String) : Command.parse line = .quit ↔
    commandWord line = "quit".toList ∨ commandWord line = "exit".toList := by
  constructor
  · intro quits
    have reads := parse_reads line
    rw [quits] at reads
    cases reads with
    | quit command => exact command
  · rintro (command | command)
    · rw [parse_eq, command]
      rfl
    · rw [parse_eq, command]
      rfl

end Words

section Named

variable {ε ι : Type} [Engine ε]

/-- The line gives `value` to the setting in the row in place `i`: it is one to edit, its row is a
numeral of that place, the row has a text editor as things are, and the value is not blank. -/
structure Sets (c : Console ε ι) (line : String) (i : Nat) (key : Settings.Key)
    (value : List Char) : Prop where
  command : commandWord line = "edit".toList
  row : Text.Denotes (rowWord line) (i + 1)
  place : Menu.Row.all[i]? = some (.key key)
  editor : (Menu.Row.key key).kind.editor c.controls.isRunning = .text ∨
    (Menu.Row.key key).kind.editor c.controls.isRunning = .multilineText
  given : givenValue line = value
  notBlank : value ≠ []

/-- The line confirms the open dialog. -/
structure Commits (c : Console ε ι) (line : String) (dialog : Dialog) : Prop where
  command : commandWord line = "ok".toList
  isOpen : c.dialog = some dialog

/-- The line makes a request: it presses an enabled control, or picks the gateway candidate in one
of the places that there are. -/
inductive Asks (c : Console ε ι) (line : String) : Session.Request → Prop
  | start (command : commandWord line = "start".toList) (enabled : c.controls.start = true) :
      Asks c line .start
  | stop (command : commandWord line = "stop".toList) (enabled : c.controls.stop = true) :
      Asks c line .stop
  | switch {i k : Nat} {target : Candidate} (command : commandWord line = "edit".toList)
      (row : Text.Denotes (rowWord line) (i + 1))
      (place : Menu.Row.all[i]? = some (.key .gateway)) (enabled : c.controls.stop = true)
      (choice : Text.Denotes (givenValue line) (k + 1))
      (known : c.dispatcher.session.neighbors.candidates[k]? = some target) :
      Asks c line (.switch target)

/-- The line opens the dialog, ticks or unticks a listed application in the open one, or closes
it. -/
inductive Redraws (c : Console ε ι) (line : String) : Prop
  | opens {i : Nat} (command : commandWord line = "edit".toList)
      (row : Text.Denotes (rowWord line) (i + 1)) (place : Menu.Row.all[i]? = some .excludedApps)
  | toggles {k : Nat} {dialog : Dialog} {app : EligibleApp}
      (command : commandWord line = "check".toList ∨ commandWord line = "uncheck".toList)
      (isOpen : c.dialog = some dialog) (entry : Text.Denotes (argument line) (k + 1))
      (listed : dialog.listing[k]? = some app)
  | closes (command : commandWord line = "cancel".toList)

variable [TunnelInterface ι]

/-- What a line can do to a console. -/
inductive Acts (c : Console ε ι) (line : String) : Console ε ι → Prop
  | sets {i key value} (names : Sets c line i key value) :
      Acts c line (c.withStore (c.store.save key (String.ofList (typed value))))
  | commits {dialog} (names : Commits c line dialog) :
      Acts c line { c.withStore (c.store.commit dialog.draft) with dialog := none }
  | asks {r answer dispatcher controls} (names : Asks c line r)
      (dispatched : c.dispatcher.dispatch r = (answer, dispatcher))
      (refused : answer ≠ none → controls = c.controls) :
      Acts c line { c with dispatcher, controls }
  | redraws {dialog} (names : Redraws c line) : Acts c line { c with dialog }
  | idle : Acts c line c

variable {c : Console ε ι} {line : String}

/-- Only the gateway's row has a choice of gateways for its editor, while stop is enabled. -/
theorem editor_gatewayChoice {row : Menu.Row} {controls : Controls}
    (choice : row.kind.editor controls.isRunning = .gatewayChoice) :
    row = .key .gateway ∧ controls.stop = true := by
  cases enabled : controls.stop with
  | false => cases row with
    | key key =>
      cases key <;> simp [Menu.Row.kind, Menu.Kind.editor, Controls.isRunning, enabled] at choice
    | excludedApps | logViewer => cases choice
  | true => cases row with
    | key key => cases key <;> simp_all [Menu.Row.kind, Menu.Kind.editor]
    | excludedApps | logViewer => cases choice

theorem editor_gateway {controls : Controls} (enabled : controls.stop = true) :
    (Menu.Row.key .gateway).kind.editor controls.isRunning = .gatewayChoice := by
  simp [Menu.Row.kind, Menu.Kind.editor, Controls.isRunning, enabled]

theorem editor_appChoice {row : Menu.Row} {running : Bool}
    (choice : row.kind.editor running = .appChoice) : row = .excludedApps := by
  cases row with
  | key key => cases key <;> cases running <;> cases choice
  | excludedApps => rfl
  | logViewer => cases choice

theorem editText_acts {i : Nat} {key : Settings.Key} {value : List Char}
    (names : value ≠ [] → Sets c line i key value) : Acts c line (c.editText key value).2 := by
  unfold editText
  split
  · exact .idle
  · rename_i notBlank
    exact .sets (names notBlank)

theorem chooseGateway_acts (asks : ∀ k target, Text.Denotes (givenValue line) (k + 1) →
      c.dispatcher.session.neighbors.candidates[k]? = some target → Asks c line (.switch target)) :
    Acts c line (c.chooseGateway (givenValue line)).2 := by
  by_cases blank : givenValue line = []
  · simp only [chooseGateway, blank, ↓reduceIte]
    exact .idle
  · simp only [chooseGateway, blank, ↓reduceIte]
    split
    · exact .idle
    · rename_i target known
      obtain ⟨k, choice, known⟩ := Option.bind_eq_some_iff.mp known
      exact .asks (asks k target (Text.position?_eq_some_iff.mp choice) known) rfl fun _ => rfl

theorem edit_acts (command : commandWord line = "edit".toList) :
    Acts c line (c.edit (rowWord line) (givenValue line)).2 := by
  unfold edit
  split
  · exact .idle
  · rename_i row named
    obtain ⟨i, named, place⟩ := Option.bind_eq_some_iff.mp named
    have row_word := Text.position?_eq_some_iff.mp named
    unfold editRow
    split
    · rename_i key text
      exact editText_acts fun notBlank => ⟨command, row_word, place, .inl text, rfl, notBlank⟩
    · rename_i key text
      exact editText_acts fun notBlank => ⟨command, row_word, place, .inr text, rfl, notBlank⟩
    · rename_i choice
      obtain ⟨rfl, enabled⟩ := editor_gatewayChoice choice
      exact chooseGateway_acts fun k target choice known =>
        .switch command row_word place enabled choice known
    · rename_i choice
      obtain rfl := editor_appChoice choice
      exact .redraws (.opens command row_word place)
    · exact .idle
    · exact .idle

theorem check_acts (excluded : Bool)
    (command : commandWord line = "check".toList ∨ commandWord line = "uncheck".toList) :
    Acts c line (c.check (argument line) excluded).2 := by
  unfold check
  split
  · exact .idle
  · rename_i dialog isOpen
    split
    · exact .idle
    · rename_i app listed
      obtain ⟨k, entry, listed⟩ := Option.bind_eq_some_iff.mp listed
      exact .redraws (.toggles command isOpen (Text.position?_eq_some_iff.mp entry) listed)

theorem start_acts (command : commandWord line = "start".toList) : Acts c line c.start.2 := by
  cases enabled : c.controls.start with
  | false =>
    simp only [start, Controls.pressStart, enabled, Bool.false_eq_true, ↓reduceIte]
    exact .idle
  | true =>
    have names : Asks c line .start := .start command enabled
    rcases dispatched : c.dispatcher.dispatch .start with ⟨_ | refusal, dispatcher⟩
    · simp only [start, Controls.pressStart, enabled, ↓reduceIte, dispatched]
      exact .asks names dispatched fun refused => absurd rfl refused
    · simp only [start, Controls.pressStart, enabled, ↓reduceIte, dispatched]
      exact .asks names dispatched fun _ => by rw [← enabled]

theorem stop_acts (command : commandWord line = "stop".toList) : Acts c line c.stop.2 := by
  cases enabled : c.controls.stop with
  | false =>
    simp only [stop, Controls.pressStop, enabled, Bool.false_eq_true, ↓reduceIte]
    exact .idle
  | true =>
    have names : Asks c line .stop := .stop command enabled
    rcases dispatched : c.dispatcher.dispatch .stop with ⟨_ | refusal, dispatcher⟩
    · simp only [stop, Controls.pressStop, enabled, ↓reduceIte, dispatched]
      exact .asks names dispatched fun refused => absurd rfl refused
    · simp only [stop, Controls.pressStop, enabled, ↓reduceIte, dispatched]
      exact .asks names dispatched fun _ => by rw [← enabled]

theorem confirm_acts (command : commandWord line = "ok".toList) : Acts c line c.confirm.2 := by
  unfold confirm
  split
  · exact .idle
  · rename_i dialog isOpen
    exact .commits ⟨command, isOpen⟩

theorem handle_console (c : Console ε ι) (line : String) :
    (c.handle line).console = (c.run (.parse line)).2 := by
  unfold handle
  rfl

/-- A line does what it names, or nothing. -/
theorem handle_acts (c : Console ε ι) (line : String) : Acts c line (c.handle line).console := by
  have reads := parse_reads line
  rw [handle_console]
  generalize Command.parse line = parsed at *
  cases reads with
  | edit command => exact edit_acts command
  | check command => exact check_acts true (.inl command)
  | uncheck command => exact check_acts false (.inr command)
  | ok command => exact confirm_acts command
  | cancel command => exact .redraws (.closes command)
  | start command => exact start_acts command
  | stop command => exact stop_acts command
  | quit | nothing | help | list | unknown => exact .idle

theorem edit_text {i : Nat} {key : Settings.Key} {row : List Char}
    (denotes : Text.Denotes row (i + 1)) (place : Menu.Row.all[i]? = some (.key key))
    (editor : (Menu.Row.key key).kind.editor c.controls.isRunning = .text ∨
      (Menu.Row.key key).kind.editor c.controls.isRunning = .multilineText) (value : List Char) :
    c.edit row value = c.editText key value := by
  have found : (Text.position? row).bind (Menu.Row.all[·]?) = some (.key key) := by
    rw [denotes.bind_position?, place]
  rcases editor with editor | editor <;> simp only [edit, found, editRow, editor]

theorem Sets.handle_eq {i : Nat} {key : Settings.Key} {value : List Char}
    (names : Sets c line i key value) :
    (c.handle line).console = c.withStore (c.store.save key (String.ofList (typed value))) ∧
    (c.handle line).lines = settingLines (c.handle line).console.store.settings := by
  obtain ⟨command, row, place, editor, rfl, notBlank⟩ := names
  have run : c.run (.parse line) = c.editText key (givenValue line) := by
    rw [parse_edit command]
    exact edit_text row place editor _
  simp only [handle, run, editText, notBlank, ↓reduceIte, and_self]

theorem Commits.handle_eq {dialog : Dialog} (names : Commits c line dialog) :
    (c.handle line).console =
      { c.withStore (c.store.commit dialog.draft) with dialog := none } := by
  have parsed : Command.parse line = .ok := by
    rw [parse_eq, names.command]
    rfl
  simp only [handle, parsed, Console.run, confirm, names.isOpen]

omit [Engine ε] in
theorem start_dispatcher (enabled : c.controls.start = true) :
    c.start.2.dispatcher = (c.dispatcher.dispatch .start).2 := by
  simp only [start, Controls.pressStart, enabled, ↓reduceIte]
  split <;> simp [*]

omit [Engine ε] in
theorem stop_dispatcher (enabled : c.controls.stop = true) :
    c.stop.2.dispatcher = (c.dispatcher.dispatch .stop).2 := by
  simp only [stop, Controls.pressStop, enabled, ↓reduceIte]
  split <;> simp [*]

theorem chooseGateway_dispatcher {value : List Char} {k : Nat} {target : Candidate}
    (choice : Text.Denotes value (k + 1))
    (known : c.dispatcher.session.neighbors.candidates[k]? = some target) :
    (c.chooseGateway value).2.dispatcher = (c.dispatcher.dispatch (.switch target)).2 := by
  have found : (Text.position? value).bind (c.dispatcher.session.neighbors.candidates[·]?) =
      some target := by
    rw [choice.bind_position?, known]
  simp only [chooseGateway, choice.ne_nil, ↓reduceIte, found]

/-- While stop is enabled, a line to edit the gateway's row chooses among the neighbors. -/
theorem run_gateway {i : Nat} (command : commandWord line = "edit".toList)
    (row : Text.Denotes (rowWord line) (i + 1)) (place : Menu.Row.all[i]? = some (.key .gateway))
    (enabled : c.controls.stop = true) :
    c.run (.parse line) = c.chooseGateway (givenValue line) := by
  have found : (Text.position? (rowWord line)).bind (Menu.Row.all[·]?) =
      some (.key .gateway) := by
    rw [row.bind_position?, place]
  rw [parse_edit command]
  simp only [Console.run, edit, found, editRow, editor_gateway enabled]

theorem Asks.dispatcher_eq {r : Session.Request} (names : Asks c line r) :
    (c.handle line).console.dispatcher = (c.dispatcher.dispatch r).2 := by
  rw [handle_console]
  cases names with
  | start command enabled =>
    have parsed : Command.parse line = .start := by
      rw [parse_eq, command]
      rfl
    rw [parsed]
    exact start_dispatcher enabled
  | stop command enabled =>
    have parsed : Command.parse line = .stop := by
      rw [parse_eq, command]
      rfl
    rw [parsed]
    exact stop_dispatcher enabled
  | @switch i k target command row place enabled choice known =>
    rw [run_gateway command row place enabled]
    exact chooseGateway_dispatcher choice known

end Named

section Printed

variable (s : Settings)

theorem getElem?_settingLines (j : Nat) : (settingLines s)[j]? =
    (Menu.Row.all[j]?).map fun row => settingLine j (row, row.value? s) := by
  simp only [settingLines, Menu.items, List.getElem?_mapIdx, List.getElem?_map, Option.map_map]
  rfl

theorem value?_set (key : Settings.Key) (text : String) (row : Menu.Row) :
    row.value? (s.set key text) =
      if row = .key key ∧ row.showsValue = true then some text else row.value? s := by
  cases row with
  | key other =>
    simp only [Menu.Row.value?, Settings.get?_set, Menu.Row.key.injEq, eq_comm (a := key)]
    by_cases shows : (Menu.Row.key other).showsValue = true <;> simp [shows]
  | excludedApps | logViewer => simp [Menu.Row.value?]

theorem all_place_unique {i j : Nat} {row : Menu.Row} (first : Menu.Row.all[i]? = some row)
    (second : Menu.Row.all[j]? = some row) : j = i := by
  have distinct : Menu.Row.all.Nodup := by decide
  obtain ⟨bound, _⟩ := List.getElem?_eq_some_iff.mp second
  exact (List.getElem?_inj bound distinct).mp (second.trans first.symm)

/-- A setting that is given a value changes the line of its own row, if that shows it, and no other
line of the menu. -/
theorem getElem?_settingLines_set {i : Nat} {key : Settings.Key}
    (place : Menu.Row.all[i]? = some (.key key)) (text : String) (j : Nat) :
    (settingLines (s.set key text))[j]? =
      if j = i ∧ (Menu.Row.key key).showsValue = true then
        some (settingLine i (.key key, some text))
      else (settingLines s)[j]? := by
  rw [getElem?_settingLines, getElem?_settingLines]
  by_cases same : j = i
  · subst same
    rw [place, Option.map_some, value?_set]
    by_cases shows : (Menu.Row.key key).showsValue = true <;> simp [shows]
  · have other : ∀ row, Menu.Row.all[j]? = some row → row ≠ .key key := by
      intro row there eq
      rw [eq] at there
      exact same (all_place_unique place there)
    cases there : Menu.Row.all[j]? with
    | none => simp [same]
    | some row => simp [same, value?_set, other row there]

end Printed

section Result

variable {ε ι : Type} [Engine ε] [TunnelInterface ι] {c : Console ε ι} {line : String}

omit [TunnelInterface ι] in
/-- A line makes one request at most. -/
theorem Asks.unique {r r' : Session.Request} (first : Asks c line r) (second : Asks c line r') :
    r' = r := by
  cases first with
  | start command =>
    cases second with
    | start => rfl
    | stop other | switch other => simp [command] at other
  | stop command =>
    cases second with
    | stop => rfl
    | start other | switch other => simp [command] at other
  | switch command row place enabled choice known =>
    cases second with
    | start other | stop other => simp [command] at other
    | switch _ _ _ _ other_choice other_known =>
      have same := (Text.position?_eq_some_iff.mpr choice).symm.trans
        (Text.position?_eq_some_iff.mpr other_choice)
      cases same
      cases known.symm.trans other_known
      rfl

omit [Engine ε] in
theorem dispatch_store (d : Dispatcher ε ι) (r : Session.Request) :
    (d.dispatch r).2.session.store = d.session.store := by
  rw [Dispatcher.dispatch_session]
  exact Session.enters_store (Session.enter_enters d.session r)

variable {next : Console ε ι}

/-- Only a line that names a setting or commits a draft changes the store. -/
theorem Acts.store_changed (acts : Acts c line next) (changed : next.store ≠ c.store) :
    (∃ i key value, Sets c line i key value) ∨ ∃ dialog, Commits c line dialog := by
  cases acts with
  | sets names => exact .inl ⟨_, _, _, names⟩
  | commits names => exact .inr ⟨_, names⟩
  | asks names dispatched =>
    apply absurd _ changed
    have same := dispatch_store c.dispatcher ‹_›
    rw [dispatched] at same
    exact same
  | redraws | idle => exact absurd rfl changed

/-- A line that makes no request leaves the controls, and of the dispatcher all but the settings. -/
theorem Acts.unasked (acts : Acts c line next) (unasked : ∀ r, ¬ Asks c line r) :
    next.controls = c.controls ∧ next.dispatcher = (c.withStore next.store).dispatcher := by
  cases acts with
  | asks names => exact absurd names (unasked _)
  | sets | commits | redraws | idle => exact ⟨rfl, rfl⟩

theorem Acts.dialog_changed (acts : Acts c line next) (changed : next.dialog ≠ c.dialog) :
    Redraws c line ∨ ∃ dialog, Commits c line dialog := by
  cases acts with
  | commits names => exact .inr ⟨_, names⟩
  | redraws names => exact .inl names
  | sets | asks | idle => exact absurd rfl changed

theorem Acts.unnamed (acts : Acts c line next)
    (unset : ∀ i key value, ¬ Sets c line i key value)
    (uncommitted : ∀ dialog, ¬ Commits c line dialog)
    (unasked : ∀ r, ¬ Asks c line r) (undrawn : ¬ Redraws c line) : next = c := by
  cases acts with
  | sets names => exact absurd names (unset _ _ _)
  | commits names => exact absurd names (uncommitted _)
  | asks names => exact absurd names (unasked _)
  | redraws names => exact absurd names undrawn
  | idle => rfl

omit [Engine ε] [TunnelInterface ι] in
theorem withStore_save_settings (c : Console ε ι) (key : Settings.Key) (text : String) :
    (c.withStore (c.store.save key text)).store.settings = c.store.settings.set key text :=
  Store.persist_settings _

/-- What a line that gives a setting a value leaves, and prints. -/
theorem Sets.leaves {i : Nat} {key : Settings.Key} {value : List Char}
    (names : Sets c line i key value) :
    (c.handle line).console.store.settings =
      c.store.settings.set key (String.ofList (typed value)) ∧
    ∀ j, (c.handle line).lines[j]? =
      if j = i ∧ (Menu.Row.key key).showsValue = true then
        some (settingLine i (.key key, some (String.ofList (typed value))))
      else (settingLines c.store.settings)[j]? := by
  obtain ⟨console, lines⟩ := names.handle_eq
  have settings : (c.handle line).console.store.settings =
      c.store.settings.set key (String.ofList (typed value)) := by
    rw [console]
    exact withStore_save_settings c key _
  refine ⟨settings, fun j => ?_⟩
  rw [lines, settings]
  exact getElem?_settingLines_set _ names.place _ j

theorem excluded_changed (changed : (c.handle line).console.store.settings.excluded ≠
    c.store.settings.excluded) : ∃ dialog, Commits c line dialog := by
  have written : (c.handle line).console.store ≠ c.store := by
    intro same
    rw [same] at changed
    exact changed rfl
  rcases (handle_acts c line).store_changed written with ⟨i, key, value, names⟩ | commits
  · rw [names.leaves.1] at changed
    exact absurd rfl changed
  · exact commits

theorem goesOn_iff : (c.handle line).goesOn = false ↔
    commandWord line = "quit".toList ∨ commandWord line = "exit".toList := by
  rw [← parse_quit_iff]
  simp [handle]

/-- **A line changes only what it names.** Take any console and any line. If the line is one to
edit, its row a numeral from 1 to 7 of a row that has a text editor as things are, and its value not
blank, then that row's key becomes the value, with every typed newline turned into one, and no other
value and no excluded application changes; the menu is printed, with the value in the same row, if
that row shows it, and with all other rows as they were. If it confirms the open dialog, the draft
is committed. Other lines change no setting, and no line but that one changes the excluded
applications. A request is dispatched by start and by stop while these are enabled, and by the
gateway's row with the number of a candidate while stop is enabled; by one line one at most, and by
no other line. The dialog changes by lines to open, edit, close or confirm it, and the console ends
at the words quit and exit. A line that names none of this changes nothing at all. -/
theorem line_changes_what_it_names (c : Console ε ι) (line : String) :
    let next := (c.handle line).console
    (∀ i key value, Sets c line i key value →
      let text := String.ofList (typed value)
      next = c.withStore (c.store.save key text) ∧
      next.store.settings.excluded = c.store.settings.excluded ∧
      (∀ name, next.store.settings.values[name]? =
        if key.text = name then some text else c.store.settings.values[name]?) ∧
      (c.handle line).lines = settingLines next.store.settings ∧
      ∀ j, (c.handle line).lines[j]? =
        if j = i ∧ (Menu.Row.key key).showsValue = true then
          some (settingLine i (.key key, some text))
        else (settingLines c.store.settings)[j]?) ∧
    (∀ dialog, Commits c line dialog →
      next = { c.withStore (c.store.commit dialog.draft) with dialog := none }) ∧
    (next.store ≠ c.store →
      (∃ i key value, Sets c line i key value) ∨ ∃ dialog, Commits c line dialog) ∧
    (next.store.settings.excluded ≠ c.store.settings.excluded →
      ∃ dialog, Commits c line dialog) ∧
    (∀ r, Asks c line r → next.dispatcher = (c.dispatcher.dispatch r).2 ∧
      ∀ r', Asks c line r' → r' = r) ∧
    ((∀ r, ¬ Asks c line r) → next.controls = c.controls ∧
      next.dispatcher = (c.withStore next.store).dispatcher) ∧
    (next.dialog ≠ c.dialog → Redraws c line ∨ ∃ dialog, Commits c line dialog) ∧
    ((c.handle line).goesOn = false ↔
      commandWord line = "quit".toList ∨ commandWord line = "exit".toList) ∧
    ((∀ i key value, ¬ Sets c line i key value) → (∀ dialog, ¬ Commits c line dialog) →
      (∀ r, ¬ Asks c line r) → ¬ Redraws c line → next = c) := by
  have acts := handle_acts c line
  refine ⟨?_, ?_, acts.store_changed, excluded_changed, ?_, acts.unasked,
    acts.dialog_changed, goesOn_iff, acts.unnamed⟩
  · intro i key value names
    obtain ⟨console, lines⟩ := names.handle_eq
    obtain ⟨settings, rows⟩ := names.leaves
    refine ⟨console, ?_, ?_, lines, rows⟩
    · rw [settings]
      rfl
    · intro name
      rw [settings, Settings.getElem?_set]
  · intro dialog names
    exact names.handle_eq
  · intro r names
    exact ⟨names.dispatcher_eq, fun r' => names.unique⟩

end Result

end TunnelSession.Console
