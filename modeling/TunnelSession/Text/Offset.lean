/-!
Places in a text, counted in bytes of its UTF-8 form. A cut is made between two characters only.
-/
namespace TunnelSession.Text

/-- The bytes that a text takes. -/
def byteLength : List Char → Nat
  | [] => 0
  | c :: cs => c.utf8Size + byteLength cs

/-- A text in two, the first part of a given number of bytes; none when the place is inside a
character or past the end. -/
def splitAt? : Nat → List Char → Option (List Char × List Char)
  | 0, cs => some ([], cs)
  | _ + 1, [] => none
  | n + 1, c :: cs =>
    if c.utf8Size ≤ n + 1 then
      (splitAt? (n + 1 - c.utf8Size) cs).map fun (before, after) => (c :: before, after)
    else none

/-- A cut loses nothing, and is where it was asked for. -/
theorem append_of_splitAt? {n : Nat} {cs before after : List Char}
    (h : splitAt? n cs = some (before, after)) : before ++ after = cs ∧ byteLength before = n := by
  fun_induction splitAt? n cs generalizing before after with
  | case1 => simp_all [byteLength]
  | case2 => simp at h
  | case3 n c cs fits ih =>
    obtain ⟨⟨front, back⟩, found, eq⟩ := Option.map_eq_some_iff.1 h
    obtain ⟨rfl, rfl⟩ := Prod.mk.inj eq
    obtain ⟨joined, size⟩ := ih found
    exact ⟨by rw [List.cons_append, joined], by rw [byteLength]; omega⟩
  | case4 => simp at h

/-- What follows a place. -/
def after? (start : Nat) (cs : List Char) : Option (List Char) :=
  (splitAt? start cs).map (·.2)

/-- What stands between two places. -/
def between? (start stop : Nat) (cs : List Char) : Option (List Char) := do
  let (before, _) ← splitAt? (stop - start) (← after? start cs)
  return before

end TunnelSession.Text
