import TunnelSession.Apps
import TunnelSession.Console.Command
import TunnelSession.Console.Controls
import TunnelSession.Log.Basic
import TunnelSession.Menu
import TunnelSession.Session.Dispatcher
import TunnelSession.Settings.Draft
import TunnelSession.Text.Column

/-!
The console: a front end that takes one line at a time. A line prints lines and may dispatch one
request, whose outcome is handled later, between lines.
-/
namespace TunnelSession

namespace Console

def help : List String := [
  "commands:",
  "  list                 show settings",
  "  edit <row> [value]   edit a setting (links: separate lines with \\n)",
  "  check <n> / uncheck <n>, ok, cancel   excluded-apps dialog",
  "  start / stop         control the tunnel",
  "  help / quit"]

/-- The open dialog of excluded applications. The listing stays as it was when it was opened. -/
structure Dialog where
  listing : List EligibleApp
  draft : Draft

end Console

structure Console (ε ι : Type) where
  dispatcher : Dispatcher ε ι
  installed : List InstalledApp
  controls : Console.Controls
  dialog : Option Console.Dialog

namespace Console

variable {ε ι : Type} [Engine ε] [TunnelInterface ι]

def connect (session : Session ε ι) (installed : List InstalledApp) : Console ε ι :=
  let dispatcher := Dispatcher.connect session
  ⟨dispatcher, installed, .connected dispatcher.session.isRunning, none⟩

def store (c : Console ε ι) : Store := c.dispatcher.session.store

def withStore (c : Console ε ι) (store : Store) : Console ε ι :=
  { c with dispatcher := { c.dispatcher with session := { c.dispatcher.session with store } } }

/-- A place in a list, counted from one and set to two columns. -/
def ordinal (i : Nat) : String :=
  Text.inColumn .right 2 (toString (i + 1))

def settingLine (i : Nat) : Menu.Row × Option String → String
  | (row, some value) => ordinal i ++ ". " ++ Text.inColumn .left 14 row.title ++ " " ++ value
  | (row, none) => ordinal i ++ ". " ++ row.title

def settingLines (s : Settings) : List String :=
  (Menu.items s).mapIdx settingLine

def appLine (draft : Draft) (i : Nat) (app : EligibleApp) : String :=
  "  [" ++ (if draft.contains app.id then "x" else " ") ++ "] " ++ ordinal i ++ ". " ++ app.name

def Dialog.lines (d : Dialog) : List String :=
  d.listing.mapIdx (appLine d.draft)

def candidateLine (i : Nat) (c : Candidate) : String :=
  "  [" ++ toString (i + 1) ++ "] " ++ c.label

/-- Text typed for a key: a blank value shows the current one, any other replaces it. -/
def editText (c : Console ε ι) (key : Settings.Key) (value : List Char) :
    List String × Console ε ι :=
  if value = [] then
    let current := (c.store.get? key).getD ""
    ([key.title ++ ": " ++ String.ofList (shown current.toList)], c)
  else
    let c := c.withStore (c.store.save key (String.ofList (typed value)))
    (settingLines c.store.settings, c)

/-- A blank value lists the gateways, any other is the place of the one to switch to. -/
def chooseGateway (c : Console ε ι) (value : List Char) : List String × Console ε ι :=
  let candidates := c.dispatcher.session.neighbors.candidates
  if value = [] then (candidates.mapIdx candidateLine, c)
  else
    match (Text.position? value).bind (candidates[·]?) with
    | none => (["no such neighbor: " ++ String.ofList value], c)
    | some candidate =>
      let (refusal, dispatcher) := c.dispatcher.dispatch (.switch candidate)
      ((refusal.map (·.message)).toList, { c with dispatcher })

def openApps (c : Console ε ι) : List String × Console ε ι :=
  let draft := c.store.draft
  let dialog : Dialog := ⟨eligibleApps c.installed draft.apps, draft⟩
  (dialog.lines, { c with dialog := some dialog })

def editRow (c : Console ε ι) (row : Menu.Row) (value : List Char) : List String × Console ε ι :=
  match row, row.kind.editor c.controls.isRunning with
  | .key key, .text | .key key, .multilineText => c.editText key value
  | _, .gatewayChoice => c.chooseGateway value
  | _, .appChoice => c.openApps
  | _, .log => ([Log.newestText c.store.dir], c)
  | _, _ => ([], c)

def edit (c : Console ε ι) (row value : List Char) : List String × Console ε ι :=
  match (Text.position? row).bind (Menu.Row.all[·]?) with
  | none => (["no such row: " ++ String.ofList row], c)
  | some row => c.editRow row value

def check (c : Console ε ι) (entry : List Char) (excluded : Bool) : List String × Console ε ι :=
  match c.dialog with
  | none => (["open the excluded apps dialog first"], c)
  | some dialog =>
    match (Text.position? entry).bind (dialog.listing[·]?) with
    | none => (["no such app: " ++ String.ofList entry], c)
    | some app =>
      let dialog := { dialog with draft := dialog.draft.set app.id excluded }
      (dialog.lines, { c with dialog := some dialog })

def confirm (c : Console ε ι) : List String × Console ε ι :=
  match c.dialog with
  | none => (["no open dialog"], c)
  | some dialog =>
    (["excluded apps saved (applied on next start)"],
      { c.withStore (c.store.commit dialog.draft) with dialog := none })

/-- A request that is refused leaves its control enabled. -/
def start (c : Console ε ι) : List String × Console ε ι :=
  let (counted, controls) := c.controls.pressStart
  if counted then
    match c.dispatcher.dispatch .start with
    | (none, dispatcher) => ([], { c with dispatcher, controls })
    | (some refusal, dispatcher) =>
      ([refusal.message], { c with dispatcher, controls := { controls with start := true } })
  else (["start is disabled"], c)

def stop (c : Console ε ι) : List String × Console ε ι :=
  let (counted, controls) := c.controls.pressStop
  if counted then
    match c.dispatcher.dispatch .stop with
    | (none, dispatcher) => ([], { c with dispatcher, controls })
    | (some refusal, dispatcher) =>
      ([refusal.message], { c with dispatcher, controls := { controls with stop := true } })
  else (["stop is disabled"], c)

def run (c : Console ε ι) : Command → List String × Console ε ι
  | .nothing | .quit => ([], c)
  | .help => (help, c)
  | .list => (settingLines c.store.settings, c)
  | .edit row value => c.edit row value
  | .check entry excluded => c.check entry excluded
  | .ok => c.confirm
  | .cancel => (["cancelled"], { c with dialog := none })
  | .start => c.start
  | .stop => c.stop
  | .unknown word => (["unknown command: " ++ String.ofList word], c)

/-- What a line prints and leaves. The console goes on unless the line was to quit. -/
structure Handled (ε ι : Type) where
  lines : List String
  console : Console ε ι
  goesOn : Bool

def handle (c : Console ε ι) (line : String) : Handled ε ι :=
  let command := Command.parse line
  let (lines, console) := c.run command
  ⟨lines, console, command ≠ .quit⟩

def askPermission (c : Console ε ι) : Bool × Console ε ι :=
  let s := c.dispatcher.session
  let (granted, interface) := TunnelInterface.askPermission s.interface
  (granted, { c with dispatcher := { c.dispatcher with session := { s with interface } } })

/-- Shows an outcome and enables what it allows. A start that lacked permission asks for it, but is
not tried again; a new gateway shows the settings. -/
def onOutcome (c : Console ε ι) (o : Outcome) : List String × Console ε ι :=
  let c := { c with controls := c.controls.onOutcome o }
  match o with
  | .startFailed _ true =>
    let (granted, c) := c.askPermission
    (o.text :: if granted then ["permission granted, run \x60start\x60 again"] else [], c)
  | .gatewayUpdated _ => (o.text :: settingLines c.store.settings, c)
  | _ => ([o.text], c)

def onOutcomes (c : Console ε ι) : List Outcome → List String × Console ε ι
  | [] => ([], c)
  | o :: os =>
    let (first, c) := c.onOutcome o
    let (rest, c) := c.onOutcomes os
    (first ++ rest, c)

/-- Handles the outcomes that wait, in the order in which they came. -/
def drain (c : Console ε ι) : List Outcome × List String × Console ε ι :=
  let (outcomes, dispatcher) := c.dispatcher.take
  (outcomes, { c with dispatcher }.onOutcomes outcomes)

def settle (c : Console ε ι) : Console ε ι :=
  { c with dispatcher := c.dispatcher.settle }

/-- The lines as they are printed. -/
def printed (lines : List String) : String :=
  lines.foldl (fun text line => text ++ line ++ "\n") ""

end Console

end TunnelSession
