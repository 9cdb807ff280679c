import TunnelSession.Proofs.Json.RoundTrip
import TunnelSession.Settings.Document

/-!
Settings written and read back. The document of any settings is legible, and its two members decode
to what they were made from: `ofText?_text`.
-/

namespace TunnelSession.Settings

theorem valuesOnto?_map (entries : List (String × String)) (values : Std.ExtTreeMap String String) :
    valuesOnto? values (entries.map fun (k, v) => (some k, .ofString v)) =
      some (values.insertMany entries) := by
  induction entries generalizing values with
  | nil => rfl
  | cons e entries ih =>
    rw [Std.ExtTreeMap.insertMany_cons]
    exact ih _

theorem appsOnto?_map (ids : List String) (apps : AppSet) :
    appsOnto? apps (ids.map .ofString) = some (apps.insertMany ids) := by
  induction ids generalizing apps with
  | nil => rfl
  | cons id ids ih =>
    rw [Std.ExtTreeSet.insertMany_cons]
    exact ih _

/-- A map's own entries make it up again: no two of them have one key. -/
theorem insertMany_toList_values (values : Std.ExtTreeMap String String) :
    (∅ : Std.ExtTreeMap String String).insertMany values.toList = values := by
  rw [← Std.ExtTreeMap.ofList_eq_insertMany_empty]
  refine Std.ExtTreeMap.ext_getElem? fun k => ?_
  cases found : values[k]? with
  | some v =>
    have listed := Std.ExtTreeMap.mem_toList_iff_getElem?_eq_some.mpr found
    exact Std.ExtTreeMap.getElem?_ofList_of_mem Std.ReflCmp.compare_self
      Std.ExtTreeMap.distinct_keys_toList listed
  | none =>
    have absent : k ∉ values := by simpa using found
    exact Std.ExtTreeMap.getElem?_ofList_of_contains_eq_false (by simpa using absent)

theorem insertMany_toList_apps (apps : AppSet) : (∅ : AppSet).insertMany apps.toList = apps := by
  rw [← Std.ExtTreeSet.ofList_eq_insertMany_empty]
  refine Std.ExtTreeSet.ext_mem fun id => ?_
  rw [Std.ExtTreeSet.mem_ofList]
  simp

theorem values?_valuesJson (values : Std.ExtTreeMap String String) :
    values? (valuesJson values) = some values := by
  rw [valuesJson, values?, valuesOnto?_map, insertMany_toList_values]

theorem apps?_appsJson (apps : Option AppSet) : apps? (appsJson apps) = some apps := by
  cases apps with
  | none => rfl
  | some apps =>
    rw [appsJson, apps?, appsOnto?_map, insertMany_toList_apps]
    rfl

theorem ofJson?_toJson (s : Settings) : ofJson? s.toJson = some s := by
  simp [toJson, ofJson?, members?, values?_valuesJson, apps?_appsJson]

theorem valuesJson_legible (values : Std.ExtTreeMap String String) :
    (valuesJson values).Legible := by
  refine .object ?_ ?_
  all_goals
    simp only [List.mem_map]
    rintro _ ⟨e, _, rfl⟩
  · rfl
  · exact .text _

theorem appsJson_legible (apps : Option AppSet) : (appsJson apps).Legible := by
  cases apps with
  | none => exact .null
  | some apps =>
    refine .array ?_
    simp only [List.mem_map]
    rintro _ ⟨id, _, rfl⟩
    exact .text _

theorem toJson_legible (s : Settings) : s.toJson.Legible := by
  refine .object (by simp) ?_
  simp [valuesJson_legible, appsJson_legible]

/-- Settings are read back from their text as they are, whatever their values and their excluded
applications are, and whether or not anything is missing. -/
theorem ofText?_text (s : Settings) : ofText? s.text = some s := by
  rw [ofText?, text, Json.parse?_pretty s.toJson_legible, Option.bind_some, ofJson?_toJson]

end TunnelSession.Settings
