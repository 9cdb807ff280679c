import TunnelSession.Text.Blank

/-!
Texts without blanks at either end. Stripping makes such a text of any (`strip_trimmed`), leaves one
as it is (`Trimmed.strip_eq`), and does not see the blanks that others end with
(`strip_append_blanks`).
-/

namespace TunnelSession.Text

/-- A text that neither starts nor ends with a blank. -/
structure Trimmed (cs : List Char) : Prop where
  head : ∀ c, cs.head? = some c → isBlank c = false
  last : ∀ c, cs.getLast? = some c → isBlank c = false

variable {cs : List Char}

theorem dropBlanks_of_head (head : ∀ c, cs.head? = some c → isBlank c = false) :
    dropBlanks cs = cs := by
  cases cs with
  | nil => rfl
  | cons c cs => simp [dropBlanks, head c rfl]

theorem head?_dropBlanks (cs : List Char) (c : Char) (first : (dropBlanks cs).head? = some c) :
    isBlank c = false := by
  have kept := List.head?_dropWhile_not isBlank cs
  rw [dropBlanks] at first
  simpa [first] using kept

theorem Trimmed.strip_eq (trimmed : Trimmed cs) : strip cs = cs := by
  have reversed : dropBlanks cs.reverse = cs.reverse :=
    dropBlanks_of_head fun c first => trimmed.last c (by rwa [List.head?_reverse] at first)
  rw [strip, dropBlanks_of_head trimmed.head, reversed, List.reverse_reverse]

theorem strip_trimmed (cs : List Char) : Trimmed (strip cs) := by
  constructor
  · intro c first
    -- what is left starts as the text does without its first blanks
    have front : strip cs <+: dropBlanks cs := by
      rw [strip, ← List.reverse_suffix, List.reverse_reverse]
      exact List.dropWhile_suffix _
    obtain ⟨rest, whole⟩ := front
    apply head?_dropBlanks cs
    rw [← whole, List.head?_append, first, Option.some_or]
  · intro c last
    rw [strip, List.getLast?_reverse] at last
    exact head?_dropBlanks _ c last

theorem dropBlanks_of_blank {end_ : List Char} (blank : ∀ c ∈ end_, isBlank c = true)
    (rest : List Char) : dropBlanks (end_ ++ rest) = dropBlanks rest :=
  List.dropWhile_append_of_pos blank

theorem strip_append_blanks {blanks : List Char} (blank : ∀ c ∈ blanks, isBlank c = true)
    (cs : List Char) : strip (cs ++ blanks) = strip cs := by
  have reversed : ∀ c ∈ blanks.reverse, isBlank c = true := by simpa using blank
  have front : dropBlanks (cs ++ blanks) =
      if dropBlanks cs = [] then [] else dropBlanks cs ++ blanks := by
    have none_left : dropBlanks blanks = [] := by
      rw [← List.append_nil blanks, dropBlanks_of_blank blank]
      rfl
    simp only [dropBlanks, List.dropWhile_append, List.isEmpty_iff]
    split <;> simp_all [dropBlanks]
  rw [strip, front, strip]
  split
  · rename_i empty
    rw [empty]
  · rw [List.reverse_append, dropBlanks_of_blank reversed]

theorem mem_of_mem_strip {c : Char} (mem : c ∈ strip cs) : c ∈ cs := by
  rw [strip, List.mem_reverse] at mem
  have inner := (List.dropWhile_suffix _).mem mem
  rw [List.mem_reverse] at inner
  exact (List.dropWhile_suffix _).mem inner

theorem blank_return : ∀ c ∈ ['\r'], isBlank c = true :=
  List.forall_mem_singleton.mpr rfl

/-- A text is one that does not end with a blank, and blanks after it. -/
theorem exists_append_blanks (cs : List Char) : ∃ front blanks, cs = front ++ blanks ∧
    (∀ c, front.getLast? = some c → isBlank c = false) ∧ ∀ c ∈ blanks, isBlank c = true := by
  refine ⟨(dropBlanks cs.reverse).reverse, (cs.reverse.takeWhile isBlank).reverse, ?_, ?_, ?_⟩
  · rw [← List.reverse_append, dropBlanks, List.takeWhile_append_dropWhile, List.reverse_reverse]
  · intro c last
    rw [List.getLast?_reverse] at last
    exact head?_dropBlanks _ c last
  · intro c mem
    exact List.all_eq_true.mp List.all_takeWhile c (List.mem_reverse.mp mem)

end TunnelSession.Text
