import TunnelSession.Settings.Draft

/-!
A desk: a store with any number of drafts open by name, and what can happen to it. Besides the
calls on the store and its drafts, the folder may change from outside, and the store may be opened
anew.
-/
namespace TunnelSession

structure Desk where
  store : Store
  drafts : List (String × Draft)

namespace Desk

inductive Step where
  | get (key : Settings.Key)
  | save (key : Settings.Key) (value : String)
  | all
  | saveExcluded (apps : AppSet)
  | openDraft (name : String)
  | set (name id : String) (excluded : Bool)
  | contains (name id : String)
  | commit (name : String)
  | discard (name : String)
  | reopen
  | showFile
  | writeFile (content : ByteArray)
  | removeFolder

inductive Answer where
  | value (text : Option String)
  | settings (s : Settings)
  | apps (set : AppSet)
  | edited (draft committed : AppSet)
  | flag (yes : Bool)
  | noDraft

def draft? (d : Desk) (name : String) : Option Draft :=
  d.drafts.lookup name

/-- The drafts without the one of a name. -/
def without (d : Desk) (name : String) : List (String × Draft) :=
  d.drafts.filter (·.1 != name)

def withDraft (d : Desk) (name : String) (draft : Draft) : Desk :=
  { d with drafts := (name, draft) :: d.without name }

def committed (d : Desk) : AppSet := d.store.settings.apps

def withFolder (d : Desk) (dir : Folder) : Desk :=
  { d with store := { d.store with dir } }

/-- Someone else writes the settings file. The folder has to be there. -/
def overwrite (content : ByteArray) (dir : Folder) : Option Folder :=
  match dir.state with
  | .present _ => (dir.write Store.fileName content).toOption
  | _ => none

def step (d : Desk) : Step → Answer × Desk
  | .get key => (.value (d.store.get? key), d)
  | .save key value =>
    let d := { d with store := d.store.save key value }
    (.settings d.store.settings, d)
  | .all => (.settings d.store.settings, d)
  | .saveExcluded apps =>
    let d := { d with store := d.store.saveExcluded apps }
    (.settings d.store.settings, d)
  | .openDraft name => (.apps d.store.draft.apps, d.withDraft name d.store.draft)
  | .set name id excluded =>
    match d.draft? name with
    | none => (.noDraft, d)
    | some draft =>
      let draft := draft.set id excluded
      (.edited draft.apps d.committed, d.withDraft name draft)
  | .contains name id =>
    match d.draft? name with
    | none => (.noDraft, d)
    | some draft => (.flag (draft.contains id), d)
  | .commit name =>
    match d.draft? name with
    | none => (.noDraft, d)
    | some draft =>
      let d := { store := d.store.commit draft, drafts := d.without name }
      (.apps d.committed, d)
  | .discard name =>
    let d := { d with drafts := d.without name }
    (.apps d.committed, d)
  | .reopen =>
    let store := if d.store.persistent then .load d.store.dir else .inMemory d.store.dir
    (.settings store.settings, { d with store })
  | .showFile => (.value (d.store.dir.text? Store.fileName), d)
  | .writeFile content =>
    match overwrite content d.store.dir with
    | none => (.flag false, d)
    | some dir => (.flag true, d.withFolder dir)
  | .removeFolder =>
    match d.store.dir.state with
    | .present _ => (.flag true, d.withFolder { d.store.dir with state := .missing })
    | _ => (.flag false, d)

end Desk

end TunnelSession
