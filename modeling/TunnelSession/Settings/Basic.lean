import Std.Data.ExtTreeMap
import Std.Data.ExtTreeSet
import TunnelSession.Settings.Key

/-!
Settings: values under names, known keys or not, and the set of applications that are excluded
from the tunnel. Settings are complete once every known key has a value and the set is there;
`seeded` completes them and changes nothing that is there already.
-/
namespace TunnelSession

/-- A set of application ids, listed by code point. -/
abbrev AppSet := Std.ExtTreeSet String

structure Settings where
  values : Std.ExtTreeMap String String
  excluded : Option AppSet

namespace Settings

def empty : Settings := ⟨∅, none⟩

def get? (s : Settings) (k : Key) : Option String :=
  s.values[k.text]?

def set (s : Settings) (k : Key) (value : String) : Settings :=
  { s with values := s.values.insert k.text value }

@[simp] theorem get?_set_self (s : Settings) (k : Key) (value : String) :
    (s.set k value).get? k = some value := by
  simp [get?, set]

/-- The excluded applications; none of them while the set is missing. -/
def apps (s : Settings) : AppSet :=
  s.excluded.getD ∅

def isComplete (s : Settings) : Bool :=
  Key.all.all (fun k => s.values.contains k.text) && s.excluded.isSome

/-- Gives a key its initial value where it has none. -/
def seed (s : Settings) (k : Key) : Settings :=
  if s.values.contains k.text then s else s.set k k.initial

def seeded (s : Settings) : Settings :=
  { Key.all.foldl seed s with excluded := some s.apps }

end Settings

end TunnelSession
