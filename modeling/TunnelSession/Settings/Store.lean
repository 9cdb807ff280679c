import TunnelSession.Folder
import TunnelSession.Settings.Document

/-!
A store of settings: a copy in memory that answers every read, and the storage folder, whose
settings file a persistent store rewrites whole after each change. A write that fails changes
nothing in memory, so the store goes on, and the next one that succeeds makes up for it.
-/
namespace TunnelSession

/-- `dir` is the storage folder. A store that is not persistent leaves it alone. -/
structure Store where
  settings : Settings
  dir : Folder
  persistent : Bool

namespace Store

def fileName : FileName := .ofString "settings.json"

/-- The settings that the folder's file holds; none at all when there is no file, or it cannot be
read. -/
def decoded (dir : Folder) : Settings :=
  ((dir.text? fileName).bind Settings.ofText?).getD .empty

/-- Writes the settings file, if the store is persistent and the file can be written. The folder is
made in any case, where it can be. -/
def persist (s : Store) : Store :=
  if s.persistent then
    match s.dir.write fileName s.settings.text.toUTF8 with
    | .ok dir => { s with dir }
    | .error _ => { s with dir := s.dir.made }
  else s

/-- Writing down changes nothing in memory. -/
@[simp] theorem persist_settings (s : Store) : s.persist.settings = s.settings := by
  unfold persist
  split
  · split <;> rfl
  · rfl

/-- Opens the store of a folder. The file is written only if something was missing from it. -/
def load (dir : Folder) : Store :=
  let found := decoded dir
  if found.isComplete then ⟨found, dir, true⟩ else persist ⟨found.seeded, dir, true⟩

/-- A store that is never written down. -/
def inMemory (dir : Folder) : Store :=
  ⟨Settings.empty.seeded, dir, false⟩

def get? (s : Store) (k : Settings.Key) : Option String :=
  s.settings.get? k

def save (s : Store) (k : Settings.Key) (value : String) : Store :=
  persist { s with settings := s.settings.set k value }

def saveExcluded (s : Store) (apps : AppSet) : Store :=
  persist { s with settings := { s.settings with excluded := some apps } }

end Store

end TunnelSession
