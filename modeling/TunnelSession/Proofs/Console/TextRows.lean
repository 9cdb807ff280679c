import TunnelSession.Proofs.Console.Scope
import TunnelSession.Proofs.Text.Blank
import TunnelSession.Proofs.Text.Split

/-!
Texts that are typed into a row and shown by it. Newlines are typed and shown as a backslash and an
`n`, by two replacements that do not know of each other: `shown_typed` and `typed_shown` say how
they go together, and `word_strip` how a line falls into its words. From these comes
`text_row_reads_back`: what a row prints can be typed back into it.
-/

namespace TunnelSession.Console

section Newlines

theorem shown_newline (cs : List Char) : shown ('\n' :: cs) = '\\' :: 'n' :: shown cs := rfl

theorem shown_cons {c : Char} (other : c ≠ '\n') (cs : List Char) :
    shown (c :: cs) = c :: shown cs := by
  rw [shown]
  exact other

theorem typed_escape (cs : List Char) : typed ('\\' :: 'n' :: cs) = '\n' :: typed cs := rfl

theorem typed_cons {c : Char} {cs : List Char}
    (plain : ∀ rest, c = '\\' → cs = 'n' :: rest → False) : typed (c :: cs) = c :: typed cs := by
  rw [typed]
  exact plain

/-- Only a text that starts with an `n` is shown starting with one. -/
theorem head?_shown_eq_n {cs : List Char} (first : (shown cs).head? = some 'n') :
    cs.head? = some 'n' := by
  cases cs with
  | nil => cases first
  | cons c cs =>
    by_cases newline : c = '\n'
    · subst newline
      rw [shown_newline] at first
      exact absurd (Option.some.inj first) (by decide)
    · rwa [shown_cons newline] at first

/-- Only a text that starts with an `n` is typed starting with one. -/
theorem head?_typed_eq_n {cs : List Char} (first : (typed cs).head? = some 'n') :
    cs.head? = some 'n' := by
  by_cases escape : ∃ rest, cs = '\\' :: 'n' :: rest
  · obtain ⟨rest, rfl⟩ := escape
    rw [typed_escape] at first
    exact absurd (Option.some.inj first) (by decide)
  · cases cs with
    | nil => cases first
    | cons c cs =>
      have plain : ∀ rest, c = '\\' → cs = 'n' :: rest → False :=
        fun rest backslash follows => escape ⟨rest, by rw [backslash, follows]⟩
      rwa [typed_cons plain] at first

theorem shown_typed (value : List Char) : shown (typed value) = shown value := by
  fun_induction typed value with
  | case1 cs ih =>
    rw [shown_newline, shown_cons (by decide), shown_cons (by decide), ih]
  | case2 c cs _ ih =>
    by_cases newline : c = '\n'
    · subst newline
      rw [shown_newline, shown_newline, ih]
    · rw [shown_cons newline, shown_cons newline, ih]
  | case3 => rfl

theorem typed_shown (value : List Char) : typed (shown value) = typed value := by
  fun_induction typed value with
  | case1 cs ih =>
    rw [shown_cons (by decide), shown_cons (by decide), typed_escape, ih]
  | case2 c cs plain ih =>
    by_cases newline : c = '\n'
    · subst newline
      rw [shown_newline, typed_escape, ih]
    · rw [shown_cons newline, typed_cons, ih]
      intro rest backslash follows
      obtain ⟨rest, rfl⟩ := List.head?_eq_some_iff.mp (head?_shown_eq_n (by rw [follows]; rfl))
      exact plain rest backslash rfl
  | case3 => rfl

/-- What is typed holds no backslash with an `n` after it. -/
theorem not_infix_typed (value : List Char) : ¬ ['\\', 'n'] <:+: typed value := by
  fun_induction typed value with
  | case1 cs ih => simp [List.infix_cons_iff, ih]
  | case2 c cs plain ih =>
    rw [List.infix_cons_iff, not_or]
    refine ⟨?_, ih⟩
    intro front
    obtain ⟨backslash, rest, follows⟩ := List.cons_prefix_cons.mp front
    obtain ⟨rest, rfl⟩ := List.head?_eq_some_iff.mp (head?_typed_eq_n (by rw [← follows]; rfl))
    exact plain rest backslash.symm rfl
  | case3 => simp

theorem newline_notMem_shown (value : List Char) : '\n' ∉ shown value := by
  induction value with
  | nil => exact List.not_mem_nil
  | cons c cs ih =>
    by_cases newline : c = '\n'
    · subst newline
      simp [shown_newline, ih]
    · simp [shown_cons newline, ih, Ne.symm newline]

theorem shown_append (first second : List Char) :
    shown (first ++ second) = shown first ++ shown second := by
  induction first with
  | nil => rfl
  | cons c cs ih =>
    by_cases newline : c = '\n'
    · subst newline
      rw [List.cons_append, shown_newline, shown_newline, ih, List.cons_append, List.cons_append]
    · rw [List.cons_append, shown_cons newline, shown_cons newline, ih, List.cons_append]

theorem ne_newline_of_not_blank {c : Char} (letter : Text.isBlank c = false) : c ≠ '\n' := by
  rintro rfl
  exact absurd letter (by decide)

/-- A text without blanks at its ends is shown from its first letter to its last. -/
theorem shown_trimmed {value : List Char} (trimmed : Text.Trimmed value) :
    Text.Trimmed (shown value) := by
  constructor
  · intro c first
    cases value with
    | nil => cases first
    | cons d rest =>
      have letter := trimmed.head d rfl
      rw [shown_cons (ne_newline_of_not_blank letter)] at first
      cases first
      exact letter
  · intro c last
    rcases List.eq_nil_or_concat value with rfl | ⟨front, d, rfl⟩
    · cases last
    · rw [List.concat_eq_append] at *
      have letter := trimmed.last d List.getLast?_concat
      rw [shown_append, shown_cons (ne_newline_of_not_blank letter)] at last
      simp only [shown, List.getLast?_concat, Option.some.injEq] at last
      rwa [← last]

theorem shown_ne_nil {value : List Char} (notBlank : value ≠ []) : shown value ≠ [] := by
  obtain ⟨c, cs, rfl⟩ := List.exists_cons_of_ne_nil notBlank
  by_cases newline : c = '\n'
  · subst newline
    exact List.cons_ne_nil _ _
  · rw [shown_cons newline]
    exact List.cons_ne_nil _ _

end Newlines

section Words

/-- A word is not empty and has no blanks. -/
structure IsWord (cs : List Char) : Prop where
  some_letter : cs ≠ []
  unbroken : ∀ c ∈ cs, Text.isBlank c = false

variable {first : List Char}

theorem IsWord.space_notMem (isWord : IsWord first) : ' ' ∉ first := by
  intro mem
  exact absurd (isWord.unbroken ' ' mem) (by decide)

theorem IsWord.trimmed (isWord : IsWord first) : Text.Trimmed first where
  head _ there := isWord.unbroken _ (List.mem_of_head? there)
  last _ there := isWord.unbroken _ (List.mem_of_getLast? there)

theorem word_strip_word (isWord : IsWord first) : word (Text.strip first) = (first, []) := by
  rw [isWord.trimmed.strip_eq, word, Text.cut_of_notMem isWord.space_notMem]
  rfl

/-- A line that starts with a word has what follows it for its argument. -/
theorem word_strip (isWord : IsWord first) (rest : List Char) :
    word (Text.strip (first ++ ' ' :: rest)) = (first, Text.strip rest) := by
  obtain ⟨front, blanks, rfl, last, blank⟩ := Text.exists_append_blanks rest
  rw [Text.strip_append_blanks blank]
  by_cases empty : front = []
  · subst empty
    have spaces : ∀ c ∈ ' ' :: blanks, Text.isBlank c = true := by
      simpa using ⟨by decide, blank⟩
    rw [List.nil_append, Text.strip_append_blanks spaces, word_strip_word isWord]
    rfl
  · have trimmed : Text.Trimmed (first ++ ' ' :: front) := by
      constructor
      · intro c head
        obtain ⟨d, rest, rfl⟩ := List.exists_cons_of_ne_nil isWord.some_letter
        exact isWord.trimmed.head c head
      · intro c there
        obtain ⟨rest, d, rfl⟩ := (List.eq_nil_or_concat front).resolve_left empty
        have whole : first ++ ' ' :: (rest.concat d) = first ++ ' ' :: rest ++ [d] := by simp
        rw [whole, List.getLast?_concat] at there
        exact last c (by rw [List.concat_eq_append, List.getLast?_concat, there])
    rw [← List.cons_append, ← List.append_assoc, Text.strip_append_blanks blank, trimmed.strip_eq,
      word, Text.cut_append_sep isWord.space_notMem]

theorem isBlank_of_isDigit {c : Char} (digit : c.isDigit = true) : Text.isBlank c = false := by
  have range := Text.digit_range digit
  simp [Text.isBlank]
  omega

theorem denotes_isWord {cs : List Char} {n : Nat} (denotes : Text.Denotes cs n) : IsWord cs := by
  obtain ⟨ds, shape, some_digit, digits, _⟩ := denotes
  have unblank : ∀ c ∈ ds, Text.isBlank c = false :=
    fun c mem => isBlank_of_isDigit (digits c mem)
  rcases shape with rfl | rfl
  · exact ⟨some_digit, unblank⟩
  · exact ⟨List.cons_ne_nil _ _, by simpa using ⟨by decide, unblank⟩⟩

/-- The line that asks for the value of a row, which a numeral names. -/
def askLine (row : List Char) : String := String.ofList ("edit".toList ++ ' ' :: row)

theorem toList_askLine (row : List Char) :
    (askLine row).toList = "edit".toList ++ ' ' :: row := String.toList_ofList

/-- The line that gives a row a value. -/
def typeLine (row value : List Char) : String :=
  String.ofList ("edit".toList ++ ' ' :: (row ++ ' ' :: value))

theorem toList_typeLine (row value : List Char) :
    (typeLine row value).toList = "edit".toList ++ ' ' :: (row ++ ' ' :: value) :=
  String.toList_ofList

theorem edit_isWord : IsWord "edit".toList := ⟨by decide, by simp [Text.isBlank]⟩

theorem askLine_words {row : List Char} (isWord : IsWord row) :
    commandWord (askLine row) = "edit".toList ∧ rowWord (askLine row) = row ∧
      givenValue (askLine row) = [] := by
  have words : word (Text.strip (askLine row).toList) = ("edit".toList, row) := by
    rw [toList_askLine, word_strip edit_isWord, isWord.trimmed.strip_eq]
  have inner : word row = (row, []) := by
    rw [← isWord.trimmed.strip_eq, word_strip_word isWord, isWord.trimmed.strip_eq]
  simp only [commandWord, rowWord, givenValue, argument, words, inner, and_self]

theorem typeLine_words {row : List Char} (isWord : IsWord row) (value : List Char) :
    commandWord (typeLine row value) = "edit".toList ∧ rowWord (typeLine row value) = row ∧
      givenValue (typeLine row value) = Text.strip value := by
  have words : word (Text.strip (typeLine row value).toList) =
      ("edit".toList, Text.strip (row ++ ' ' :: value)) := by
    rw [toList_typeLine, word_strip edit_isWord]
  simp only [commandWord, rowWord, givenValue, argument, words, word_strip isWord, and_self]

theorem givenValue_trimmed (line : String) : Text.Trimmed (givenValue line) := by
  have second : ∀ cs, (word cs).2 = Text.strip (Text.cut ' ' cs).2 := fun _ => rfl
  rw [givenValue, second]
  exact Text.strip_trimmed _

end Words

section Rows

variable {ε ι : Type} [Engine ε]

/-- The row in place `i` is edited as text, as things are, and gives `key` its value. -/
structure TextRow (c : Console ε ι) (i : Nat) (key : Settings.Key) : Prop where
  place : Menu.Row.all[i]? = some (.key key)
  editor : (Menu.Row.key key).kind.editor c.controls.isRunning = .text ∨
    (Menu.Row.key key).kind.editor c.controls.isRunning = .multilineText

variable {c : Console ε ι} {i : Nat} {key : Settings.Key} {line : String} {value : List Char}

omit [Engine ε] in
theorem TextRow.sets (text : TextRow c i key) {row : List Char}
    (denotes : Text.Denotes row (i + 1)) (notBlank : Text.strip value ≠ []) :
    Sets c (typeLine row value) i key (Text.strip value) := by
  obtain ⟨command, named, given⟩ := typeLine_words (denotes_isWord denotes) value
  exact ⟨command, by rwa [named], text.place, text.editor, given, notBlank⟩

variable [TunnelInterface ι]

/-- A row that is asked for its value shows it in one line. -/
theorem TextRow.asked (text : TextRow c i key) {row : List Char}
    (denotes : Text.Denotes row (i + 1)) {stored : List Char}
    (there : c.store.get? key = some (String.ofList stored)) : c.handle (askLine row) =
      ⟨[key.title ++ ": " ++ String.ofList (shown stored)], c, true⟩ := by
  obtain ⟨command, named, given⟩ := askLine_words (denotes_isWord denotes)
  have run : c.run (.edit row []) = c.editText key [] :=
    edit_text denotes text.place text.editor []
  rw [handle, parse_edit command, named, given, run]
  simp only [editText, ↓reduceIte, there, Option.getD_some, String.toList_ofList]
  rfl

theorem Sets.stored (names : Sets c line i key value) :
    (c.handle line).console.store.get? key = some (String.ofList (typed value)) := by
  rw [names.handle_eq.1]
  exact Store.get?_save _ _ _

/-- A row that was given a value is still edited as text. -/
theorem Sets.textRow_after (names : Sets c line i key value) :
    TextRow (c.handle line).console i key := by
  rw [names.handle_eq.1]
  exact ⟨names.place, names.editor⟩

omit [Engine ε] [TunnelInterface ι] in
theorem Sets.trimmed (names : Sets c line i key value) : Text.Trimmed value := by
  rw [← names.given]
  exact givenValue_trimmed line

/-- To give a row the value it has just been given changes nothing. -/
theorem Sets.again (names : Sets c line i key value) {line' : String} {value' : List Char}
    (repeats : Sets (c.handle line).console line' i key value')
    (same : typed value' = typed value) :
    ((c.handle line).console.handle line').console = (c.handle line).console := by
  rw [repeats.handle_eq.1, same, names.handle_eq.1]
  exact congrArg c.withStore (Store.save_save _ _ _)

/-- **What a row prints can be typed back.** Take any console and any row of it that is edited as
text, as things are. Whatever is typed after the row's number, if it is not all blank, is given to
the row, stripped. Then the row holds no backslash with an `n` after it. Asked for its value it
prints one line, and if that value is typed after the number, nothing changes at all: neither the
settings nor their file. Two consoles whose row was given values print the same only if the row
holds the same. -/
theorem text_row_reads_back {c : Console ε ι} {i : Nat} {key : Settings.Key}
    (text : TextRow c i key) :
    (∀ row value, Text.Denotes row (i + 1) → Text.strip value ≠ [] →
      Sets c (typeLine row value) i key (Text.strip value)) ∧
    (∀ line value, Sets c line i key value →
      let next := (c.handle line).console
      next.store.get? key = some (String.ofList (typed value)) ∧
      ¬ ['\\', 'n'] <:+: typed value ∧ '\n' ∉ shown value ∧
      ∀ row, Text.Denotes row (i + 1) →
        next.handle (askLine row) =
          ⟨[key.title ++ ": " ++ String.ofList (shown value)], next, true⟩ ∧
        (next.handle (typeLine row (shown value))).console = next) ∧
    ∀ line value c' line' value' row, Sets c line i key value →
      Sets (c' : Console ε ι) line' i key value' → Text.Denotes row (i + 1) →
      let next := (c.handle line).console
      let next' := (c'.handle line').console
      (next.handle (askLine row)).lines = (next'.handle (askLine row)).lines →
      next.store.get? key = next'.store.get? key := by
  have asked {c : Console ε ι} {line : String} {value row : List Char}
      (names : Sets c line i key value) (denotes : Text.Denotes row (i + 1)) :
      (c.handle line).console.handle (askLine row) =
        ⟨[key.title ++ ": " ++ String.ofList (shown value)], (c.handle line).console, true⟩ := by
    rw [names.textRow_after.asked denotes names.stored, shown_typed]
  refine ⟨fun row value denotes => text.sets denotes, ?_, ?_⟩
  · intro line value names
    refine ⟨names.stored, not_infix_typed value, newline_notMem_shown value, ?_⟩
    intro row denotes
    have whole : Text.strip (shown value) = shown value :=
      (shown_trimmed names.trimmed).strip_eq
    have notBlank : Text.strip (shown value) ≠ [] := by
      rw [whole]
      exact shown_ne_nil names.notBlank
    have repeats := names.textRow_after.sets denotes notBlank
    rw [whole] at repeats
    exact ⟨asked names denotes, names.again repeats (typed_shown value)⟩
  · intro line value c' line' value' row names names' denotes next next' same
    rw [asked names denotes, asked names' denotes] at same
    have texts : shown value = shown value' := by
      simpa [String.ofList_inj] using same
    rw [names.stored, names'.stored, ← typed_shown, texts, typed_shown]

/-- A value of backslashes and typed newlines, with one at its end. -/
theorem text_row_reads_back_over_backslashes :
    let c := connect (Recorded.fresh (.load .missing) ({} : Scripted.Engine)
      (.knowing none : Scripted.Interface) Tunnel.defaultHost "/data").session []
    let next := (c.handle "edit 4  \\\\nb\\n ").console
    next.store.get? .links = some "\\\nb\n" ∧
    (next.handle "edit 4").lines = ["Links: \\\\nb\\n"] ∧
    (next.handle "edit 4 \\\\nb\\n").console = next := by
  intro c next
  have row : Text.Denotes ['4'] 4 := Text.position?_eq_some_iff.mp (by decide +kernel)
  obtain ⟨sets, reads, _⟩ := text_row_reads_back (c := c) (i := 3) ⟨rfl, .inr rfl⟩
  have names := sets ['4'] " \\\\nb\\n ".toList row (by decide)
  obtain ⟨stored, _, _, again⟩ := reads _ _ names
  obtain ⟨asked, back⟩ := again ['4'] row
  exact ⟨stored, congrArg Handled.lines asked, back⟩

end Rows

end TunnelSession.Console
