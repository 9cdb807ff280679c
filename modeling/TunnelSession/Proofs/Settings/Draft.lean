import Mathlib.Data.List.Induction
import TunnelSession.Settings.Draft

/-!
Drafts that are edited. Of each application a draft says what the last edit of it said, or else what
the set said that the draft was made of: `Draft.contains_edited`.
-/

namespace TunnelSession.Draft

/-- An edit: an application is excluded, or no longer. -/
structure Toggle where
  id : String
  excluded : Bool
  deriving DecidableEq

def edited (d : Draft) (toggles : List Toggle) : Draft :=
  toggles.foldl (fun d t => d.set t.id t.excluded) d

/-- What the last edit of an application says; nothing if none is of it. -/
def last? (toggles : List Toggle) (id : String) : Option Bool :=
  (toggles.filter (·.id = id)).getLast?.map Toggle.excluded

variable (d : Draft)

theorem contains_set (id other : String) (excluded : Bool) :
    (d.set id excluded).contains other = if id = other then excluded else d.contains other := by
  cases excluded <;> by_cases same : id = other <;> simp [set, contains, same]

theorem edited_append (earlier later : List Toggle) :
    d.edited (earlier ++ later) = (d.edited earlier).edited later := by
  simp [edited]

theorem contains_edited (toggles : List Toggle) (id : String) :
    (d.edited toggles).contains id = (last? toggles id).getD (d.contains id) := by
  induction toggles using List.reverseRecOn with
  | nil => rfl
  | append_singleton earlier t ih =>
    rw [edited_append, edited, List.foldl_cons, List.foldl_nil, contains_set, ih]
    by_cases same : t.id = id <;> simp [last?, same]

/-- An application that no edit is of keeps its place. -/
theorem contains_edited_other {toggles : List Toggle} {id : String}
    (other : ∀ t ∈ toggles, t.id ≠ id) : (d.edited toggles).contains id = d.contains id := by
  have none_such : toggles.filter (·.id = id) = [] := by simpa using other
  rw [contains_edited, last?, none_such]
  rfl

end TunnelSession.Draft
