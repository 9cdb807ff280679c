import TunnelSession.Text.Split

/-!
Pieces put together with separators between them are cut into the same pieces, and a text is its
first piece and the rest of them put together: `pieces_eq_cons`. A text that is cut once is cut
after the part without a separator: `cut_append_sep`.
-/

namespace TunnelSession.Text

variable {α : Type} [DecidableEq α] {sep : α} {part : List α}

theorem pieces_ne_nil (cs : List α) : pieces sep cs ≠ [] := by
  cases cs with
  | nil => nofun
  | cons c cs =>
    unfold pieces
    split
    · nofun
    · split <;> nofun

theorem pieces_of_notMem (unbroken : sep ∉ part) : pieces sep part = [part] := by
  induction part with
  | nil => rfl
  | cons c cs ih =>
    rw [List.mem_cons, not_or] at unbroken
    simp [pieces, Ne.symm unbroken.1, ih unbroken.2]

/-- Texts with a separator between them are cut into the pieces of the one and of the other. -/
theorem pieces_append (cs rest : List α) :
    pieces sep (cs ++ sep :: rest) = pieces sep cs ++ pieces sep rest := by
  induction cs with
  | nil => simp [pieces]
  | cons c cs ih =>
    by_cases same : c = sep
    · simp [pieces, same, ih]
    · obtain ⟨first, others, found⟩ : ∃ first others, pieces sep cs = first :: others :=
        List.exists_cons_of_ne_nil (pieces_ne_nil cs)
      rw [found, List.cons_append] at ih
      simp [pieces, same, ih, found]

theorem pieces_append_sep (unbroken : sep ∉ part) (rest : List α) :
    pieces sep (part ++ sep :: rest) = part :: pieces sep rest := by
  rw [pieces_append, pieces_of_notMem unbroken, List.singleton_append]

theorem sep_notMem_of_mem_pieces {cs piece : List α} (mem : piece ∈ pieces sep cs) :
    sep ∉ piece := by
  induction cs generalizing piece with
  | nil => simp_all [pieces]
  | cons c cs ih =>
    obtain ⟨first, others, found⟩ : ∃ first others, pieces sep cs = first :: others :=
      List.exists_cons_of_ne_nil (pieces_ne_nil cs)
    by_cases same : c = sep
    · rw [pieces, if_pos same] at mem
      rcases List.mem_cons.mp mem with rfl | later
      · exact List.not_mem_nil
      · exact ih later
    · simp only [pieces, if_neg same, found] at mem
      rw [found] at ih
      rcases List.mem_cons.mp mem with rfl | later
      · simp [Ne.symm same, ih List.mem_cons_self]
      · exact ih (List.mem_cons_of_mem _ later)

/-- The first piece ends at the first separator, or with the text. -/
theorem pieces_eq_cons {cs first : List α} {ps : List (List α)}
    (cut : pieces sep cs = first :: ps) : sep ∉ first ∧
      (cs = first ∧ ps = [] ∨ ∃ rest, cs = first ++ sep :: rest ∧ pieces sep rest = ps) := by
  induction cs generalizing first with
  | nil =>
    cases cut
    exact ⟨List.not_mem_nil, .inl ⟨rfl, rfl⟩⟩
  | cons c cs ih =>
    by_cases same : c = sep
    · subst same
      rw [pieces, if_pos rfl] at cut
      cases cut
      exact ⟨List.not_mem_nil, .inr ⟨cs, rfl, rfl⟩⟩
    · rw [pieces, if_neg same] at cut
      split at cut
      · rename_i none
        exact absurd none (pieces_ne_nil cs)
      · rename_i found
        cases cut
        obtain ⟨absent, shape⟩ := ih found
        refine ⟨by simp [absent, Ne.symm same], ?_⟩
        rcases shape with ⟨rfl, rfl⟩ | ⟨rest, rfl, later⟩
        · exact .inl ⟨rfl, rfl⟩
        · exact .inr ⟨rest, rfl, later⟩

section Cut

variable {sep : Char} {part : List Char}

theorem ne_sep (unbroken : sep ∉ part) : ∀ c ∈ part, (c != sep) = true := by
  intro c mem
  have differs : c ≠ sep := by
    rintro rfl
    exact unbroken mem
  simpa using differs

theorem cut_of_notMem (unbroken : sep ∉ part) : cut sep part = (part, []) := by
  have apart := ne_sep unbroken
  have whole : part.takeWhile (· != sep) = part := by
    rw [← List.append_nil part, List.takeWhile_append_of_pos apart, List.takeWhile_nil]
  have none_left : part.dropWhile (· != sep) = [] := by
    rw [← List.append_nil part, List.dropWhile_append_of_pos apart, List.dropWhile_nil]
  rw [cut, whole, none_left, List.drop_nil]

theorem cut_append_sep (unbroken : sep ∉ part) (rest : List Char) :
    cut sep (part ++ sep :: rest) = (part, rest) := by
  have apart := ne_sep unbroken
  rw [cut, List.takeWhile_append_of_pos apart, List.dropWhile_append_of_pos apart]
  simp

end Cut

end TunnelSession.Text
