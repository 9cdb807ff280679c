import TunnelSession.Json.Printer
import TunnelSession.Json.Reader
import TunnelSession.Settings.Basic

/-!
Settings as a JSON document: an object with the members `values` and `excluded_apps`, both of which
may be missing. A list of the two in that order, which may be short, is read as well. Values and
applications are written in ascending order.
-/
namespace TunnelSession.Settings

def valuesJson (values : Std.ExtTreeMap String String) : Json :=
  .object (values.toList.map fun (k, v) => (some k, .ofString v))

def appsJson : Option AppSet → Json
  | none => .null
  | some apps => .array (apps.toList.map .ofString)

def toJson (s : Settings) : Json :=
  .object [(some "values", valuesJson s.values), (some "excluded_apps", appsJson s.excluded)]

/-- Adds members whose keys and values are texts. The last of two members with one key counts. -/
def valuesOnto? (values : Std.ExtTreeMap String String) :
    List (Option String × Json) → Option (Std.ExtTreeMap String String)
  | [] => some values
  | (some key, .text (some value)) :: rest => valuesOnto? (values.insert key value) rest
  | _ => none

def values? : Json → Option (Std.ExtTreeMap String String)
  | .object members => valuesOnto? ∅ members
  | _ => none

/-- Adds items that are texts. -/
def appsOnto? (apps : AppSet) : List Json → Option AppSet
  | [] => some apps
  | .text (some id) :: rest => appsOnto? (apps.insert id) rest
  | _ => none

def apps? : Json → Option (Option AppSet)
  | .null => some none
  | .array items => (appsOnto? ∅ items).map some
  | _ => none

/-- The two members as they are met, each at most once. Members with other keys are passed over. -/
def members? : List (Option String × Json) →
    Option (Option (Std.ExtTreeMap String String) × Option (Option AppSet))
  | [] => some (none, none)
  | (key, v) :: rest => do
    let key ← key
    let (values, apps) ← members? rest
    if key = "values" then
      if values.isSome then none else return (some (← values? v), apps)
    else if key = "excluded_apps" then
      if apps.isSome then none else return (values, some (← apps? v))
    else
      return (values, apps)

def ofJson? : Json → Option Settings
  | .object members => do
    let (values, apps) ← members? members
    return ⟨values.getD ∅, apps.getD none⟩
  | .array [] => some .empty
  | .array [v] => do return ⟨← values? v, none⟩
  | .array [v, a] => do return ⟨← values? v, ← apps? a⟩
  | _ => none

def text (s : Settings) : String :=
  s.toJson.pretty

def ofText? (t : String) : Option Settings :=
  (Json.parse? t).bind ofJson?

end TunnelSession.Settings
