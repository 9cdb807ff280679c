import TunnelSession.Settings.Basic

/-!
The settings menu: its rows, which of them show a value, and the editor that a row opens. The
gateway is picked from the live neighbors while a session runs and typed as text otherwise.
-/
namespace TunnelSession.Menu

inductive Row where
  | key (key : Settings.Key)
  | excludedApps
  | logViewer
  deriving DecidableEq, Repr

/-- What kind of thing a row edits. -/
inductive Kind where
  | text
  | multilineText
  | gatewayList
  | excludedApps
  | logView
  deriving DecidableEq, Repr

inductive Editor where
  | text
  | multilineText
  | gatewayChoice
  | appChoice
  | log
  deriving DecidableEq, Repr

namespace Row

def all : List Row :=
  [.key .name, .key .localAddress, .key .gateway, .key .links, .key .dnsServer, .excludedApps,
    .logViewer]

def title : Row → String
  | .key k => k.title
  | .excludedApps => "Excluded Apps"
  | .logViewer => "Log Viewer"

def kind : Row → Kind
  | .key .gateway => .gatewayList
  | .key .links => .multilineText
  | .key _ => .text
  | .excludedApps => .excludedApps
  | .logViewer => .logView

def showsValue : Row → Bool
  | .key .links => false
  | .key _ => true
  | _ => false

end Row

def Kind.editor (running : Bool) : Kind → Editor
  | .text => .text
  | .multilineText => .multilineText
  | .gatewayList => if running then .gatewayChoice else .text
  | .excludedApps => .appChoice
  | .logView => .log

/-- The value that a row shows. -/
def Row.value? (s : Settings) (row : Row) : Option String :=
  match row with
  | .key k => if row.showsValue then s.get? k else none
  | _ => none

def items (s : Settings) : List (Row × Option String) :=
  Row.all.map fun row => (row, row.value? s)

end TunnelSession.Menu
