import TunnelSession.Proofs.Text.Blank
import TunnelSession.Proofs.Text.Split
import TunnelSession.Tunnel.Links

/-!
The links setting as a list. `IsLink` says which texts can be links. Texts with a newline between
them have the links of the one and of the other (`links_append`), and links with a line's end
between them are read as these links, with a carriage return at the lines' ends or without
(`linkChars_intercalate`); `links_split_cleanly` puts these together.
-/

namespace TunnelSession.Tunnel

/-- A text that can be a link: it has a letter, is one line, and has no blanks at its ends. -/
structure IsLink (link : String) : Prop where
  some_letter : link ≠ ""
  oneLine : '\n' ∉ link.toList
  trimmed : Text.Trimmed link.toList

section Chars

variable {cs : List Char}

theorem linkChars_append (cs rest : List Char) :
    linkChars (cs ++ '\n' :: rest) = linkChars cs ++ linkChars rest := by
  rw [linkChars, Text.pieces_append, List.map_append, List.filter_append, linkChars, linkChars]

theorem linkChars_of_oneLine (oneLine : '\n' ∉ cs) :
    linkChars cs = [Text.strip cs].filter (· ≠ []) := by
  rw [linkChars, Text.pieces_of_notMem oneLine, List.map_singleton]

theorem strip_withoutReturn (line : List Char) :
    Text.strip (Text.withoutReturn line) = Text.strip line := by
  unfold Text.withoutReturn
  split
  · rename_i last
    obtain ⟨front, rfl⟩ := List.getLast?_eq_some_iff.mp last
    rw [List.dropLast_concat, Text.strip_append_blanks Text.blank_return]
  · rfl

/-- The lines of a text, stripped, with the empty ones left out. A carriage return at a line's end
is stripped in any case, and so is what a final newline makes a piece of. -/
theorem linkChars_eq_lines (cs : List Char) :
    linkChars cs = ((Text.lines cs).map Text.strip).filter (· ≠ []) := by
  obtain ⟨front, last, shape⟩ :=
    (List.eq_nil_or_concat (Text.pieces '\n' cs)).resolve_left (Text.pieces_ne_nil cs)
  rw [List.concat_eq_append] at shape
  have same : front.map (Text.strip ∘ Text.withoutReturn) = front.map Text.strip :=
    List.map_congr_left fun line _ => strip_withoutReturn line
  rw [linkChars, Text.lines, shape, List.dropLast_concat, List.getLast?_concat]
  simp only [List.map_append, List.map_map, same, List.filter_append]
  cases last with
  | nil => rfl
  | cons c last => rfl

/-- Links with a line's end between them, which may have blanks before its newline, are read as
these links. -/
theorem linkChars_intercalate {blanks : List Char} (blank : ∀ c ∈ blanks, Text.isBlank c = true)
    (oneLine : '\n' ∉ blanks) {ls : List (List Char)}
    (links : ∀ l ∈ ls, l ≠ [] ∧ '\n' ∉ l ∧ Text.Trimmed l) :
    linkChars ((blanks ++ ['\n']).intercalate ls) = ls := by
  induction ls with
  | nil => rfl
  | cons l ls ih =>
    obtain ⟨⟨some_letter, unbroken, trimmed⟩, later⟩ := List.forall_mem_cons.mp links
    cases ls with
    | nil =>
      rw [List.intercalate_singleton, linkChars_of_oneLine unbroken, trimmed.strip_eq]
      simp [some_letter]
    | cons l' ls =>
      have line : '\n' ∉ l ++ blanks := by simp [unbroken, oneLine]
      have whole : (blanks ++ ['\n']).intercalate (l :: l' :: ls) =
          (l ++ blanks) ++ '\n' :: (blanks ++ ['\n']).intercalate (l' :: ls) := by
        rw [List.intercalate_cons_cons]
        simp
      rw [whole, linkChars_append, linkChars_of_oneLine line, Text.strip_append_blanks blank,
        trimmed.strip_eq, ih later]
      simp [some_letter]

end Chars

theorem links_append (a b : String) : links (a ++ "\n" ++ b) = links a ++ links b := by
  have whole : (a ++ "\n" ++ b).toList = a.toList ++ '\n' :: b.toList := by
    simp [String.toList_append]
  rw [links, whole, linkChars_append, List.map_append, links, links]

theorem isLink_of_mem {text link : String} (mem : link ∈ links text) : IsLink link := by
  obtain ⟨chars, kept, rfl⟩ := List.mem_map.mp mem
  obtain ⟨stripped, some_letter⟩ := List.mem_filter.mp kept
  obtain ⟨piece, cut, rfl⟩ := List.mem_map.mp stripped
  have oneLine := Text.sep_notMem_of_mem_pieces cut
  constructor
  · simpa using some_letter
  · rw [String.toList_ofList]
    exact fun inside => oneLine (Text.mem_of_mem_strip inside)
  · rw [String.toList_ofList]
    exact Text.strip_trimmed piece

/-- A list is read back from its links joined by a line's end exactly if it is of links. -/
theorem links_intercalate_iff {blanks : List Char} (blank : ∀ c ∈ blanks, Text.isBlank c = true)
    (oneLine : '\n' ∉ blanks) {ending : String} (ends : ending.toList = blanks ++ ['\n'])
    (ls : List String) : links (ending.intercalate ls) = ls ↔ ∀ link ∈ ls, IsLink link := by
  constructor
  · intro same link mem
    rw [← same] at mem
    exact isLink_of_mem mem
  · intro are
    have chars : ∀ l ∈ ls.map String.toList, l ≠ [] ∧ '\n' ∉ l ∧ Text.Trimmed l := by
      intro l mem
      obtain ⟨link, there, rfl⟩ := List.mem_map.mp mem
      obtain ⟨some_letter, oneLine, trimmed⟩ := are link there
      exact ⟨by simpa using some_letter, oneLine, trimmed⟩
    rw [links, String.toList_intercalate, ends, linkChars_intercalate blank oneLine chars]
    simp

/-- **Links are split cleanly.** The links of a text are its lines, stripped of blanks, but for
those with nothing left; a carriage return before a newline and a newline at the text's end make no
difference. Texts with a newline between them have the links of the first and then those of the
second. Each link has a letter, is one line, and neither starts nor ends with a blank. A list is
read back from its members joined by newlines, or by carriage returns and newlines, exactly if each
of them is so; so joining what was read and reading it again gives the same links. -/
theorem links_split_cleanly :
    (∀ text, links text =
      (((Text.lines text.toList).map Text.strip).filter (· ≠ [])).map String.ofList) ∧
    (∀ a b, links (a ++ "\n" ++ b) = links a ++ links b) ∧
    (∀ text, ∀ link ∈ links text, IsLink link) ∧
    (∀ ls, links ("\n".intercalate ls) = ls ↔ ∀ link ∈ ls, IsLink link) ∧
    (∀ ls, links ("\r\n".intercalate ls) = ls ↔ ∀ link ∈ ls, IsLink link) ∧
    ∀ text, links ("\n".intercalate (links text)) = links text ∧
      links ("\r\n".intercalate (links text)) = links text := by
  have newline (ls : List String) :
      links ("\n".intercalate ls) = ls ↔ ∀ link ∈ ls, IsLink link :=
    links_intercalate_iff (List.forall_mem_nil _) List.not_mem_nil (by rfl) ls
  have return_newline (ls : List String) :
      links ("\r\n".intercalate ls) = ls ↔ ∀ link ∈ ls, IsLink link :=
    links_intercalate_iff Text.blank_return (by decide) (by rfl) ls
  refine ⟨fun text => ?_, links_append, fun text link => isLink_of_mem, newline, return_newline,
    fun text => ⟨?_, ?_⟩⟩
  · rw [links, linkChars_eq_lines]
  · exact (newline _).mpr fun link => isLink_of_mem
  · exact (return_newline _).mpr fun link => isLink_of_mem

end TunnelSession.Tunnel
