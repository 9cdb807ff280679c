import TunnelSession.Settings.Store

/-!
Drafts: private copies of the excluded set. Editing a draft leaves the store alone; a commit
replaces the store's set whole.
-/
namespace TunnelSession

structure Draft where
  apps : AppSet

namespace Draft

def set (d : Draft) (id : String) (excluded : Bool) : Draft :=
  ⟨if excluded then d.apps.insert id else d.apps.erase id⟩

def contains (d : Draft) (id : String) : Bool :=
  d.apps.contains id

end Draft

namespace Store

def draft (s : Store) : Draft :=
  ⟨s.settings.apps⟩

def commit (s : Store) (d : Draft) : Store :=
  s.saveExcluded d.apps

end Store

end TunnelSession
