import TunnelSession.Log.Basic
import TunnelSession.Proofs.Folder
import TunnelSession.Settings.Store

/-!
What a log holds. Lines are added at the end of one log, and nothing else in the folder changes
(`Adds`); the settings file is not a log, so writing it leaves every log alone (`persist_held`).
-/

namespace TunnelSession

section Bytes

theorem FileName.loop_eq (bs : ByteArray) (i : Nat) (r : List UInt8) :
    ByteArray.toList.loop bs i r = r.reverse ++ bs.data.toList.drop i := by
  fun_induction ByteArray.toList.loop bs i r with
  | case1 i r more ih =>
    have next := List.drop_eq_getElem_cons (l := bs.data.toList) (i := i) (by simpa using more)
    rw [ih, next]
    simp [ByteArray.get!, getElem!_pos bs.data i more]
  | case2 i r done =>
    rw [List.drop_eq_nil_of_le (by simpa using done), List.append_nil]

theorem FileName.ofString_eq (s : String) : FileName.ofString s = s.toByteArray.data.toList := by
  change s.toByteArray.toList = _
  rw [ByteArray.toList, FileName.loop_eq]
  rfl

theorem FileName.ofString_append (s t : String) :
    FileName.ofString (s ++ t) = FileName.ofString s ++ FileName.ofString t := by
  simp only [ofString_eq, String.toByteArray_append, ByteArray.data_append, Array.toList_append]

/-- The text of a name is the one that it is the bytes of. -/
theorem FileName.text?_eq_some_iff {name : FileName} {s : String} :
    name.text? = some s ↔ name = .ofString s := by
  rw [ofString_eq]
  constructor
  · intro found
    unfold text? String.fromUTF8? at found
    split at found
    · cases found
      rfl
    · cases found
  · rintro rfl
    exact Folder.fromUTF8?_toUTF8 s

theorem FileName.text?_ofString (s : String) : (FileName.ofString s).text? = some s :=
  text?_eq_some_iff.mpr rfl

end Bytes

namespace Log

/-- A folder with lines added to a log. -/
structure Adds (dir dir' : Folder) (log : FileName) (lines : List String) : Prop where
  held : ∀ name, dir'.held name =
    if name = log then dir.held name ++ (String.join lines).toUTF8 else dir.held name
  writable : ∀ name, dir.Writable name → dir'.Writable name

section

variable {dir dir' dir'' : Folder} {log : FileName} {lines later : List String}

theorem adds_nil (dir : Folder) (log : FileName) : Adds dir dir log [] := by
  constructor
  · intro name
    have nothing : (String.join []).toUTF8 = ByteArray.empty := rfl
    rw [nothing, ByteArray.append_empty, ite_self]
  · intro name able
    exact able

theorem Adds.trans (first : Adds dir dir' log lines) (second : Adds dir' dir'' log later) :
    Adds dir dir'' log (lines ++ later) := by
  constructor
  · intro name
    have joined : (String.join (lines ++ later)).toUTF8 =
        (String.join lines).toUTF8 ++ (String.join later).toUTF8 := by
      rw [String.join_append]
      exact String.toByteArray_append
    rw [second.held, first.held, joined]
    split
    · exact ByteArray.append_assoc
    · rfl
  · intro name able
    exact second.writable name (first.writable name able)

theorem add_adds (able : dir.Writable log) (now : Moment) (text : String) :
    Adds dir (add dir log now text) log [line now text] := by
  obtain ⟨dir', ok⟩ := able.modify_ok (· ++ (line now text).toUTF8)
  have added : add dir log now text = dir' := by
    have ok : dir.append log (line now text) = .ok dir' := ok
    rw [add, ok]
  have joined : String.join [line now text] = line now text := by
    simp [String.join]
  rw [added]
  constructor
  · intro name
    rw [Folder.held_modify ok, joined]
    split
    · rename_i same
      rw [same]
    · rfl
  · intro name able
    exact able.modify ok

/-- A log that was started can be added to. -/
theorem start_eq_ok (ok : start dir log = .ok dir') :
    Adds dir dir' log [] ∧ dir'.Writable log := by
  have able := Folder.writable_of_modify ok
  refine ⟨⟨?_, fun name able => able.modify ok⟩, able.modify ok⟩
  intro name
  have nothing : (String.join []).toUTF8 = ByteArray.empty := rfl
  rw [Folder.held_modify ok, nothing, ByteArray.append_empty]
  split
  · rename_i same
    rw [same]
    rfl
  · rfl

end

end Log

namespace Store

/-- Writing the settings down changes no file but theirs. -/
theorem persist_held (s : Store) :
    (∀ name, name ≠ fileName → s.persist.dir.held name = s.dir.held name) ∧
    ∀ name, s.dir.Writable name → s.persist.dir.Writable name := by
  unfold persist
  split
  · split
    · rename_i dir ok
      constructor
      · intro name other
        exact (Folder.held_modify ok name).trans (if_neg other)
      · intro name able
        exact able.modify ok
    · constructor
      · intro name _
        exact Folder.held_made s.dir name
      · intro name able
        exact able.made
  · exact ⟨fun _ _ => rfl, fun _ able => able⟩

end Store

end TunnelSession
