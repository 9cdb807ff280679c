import TunnelSession.Proofs.Text.Numeral

/-!
Quoted texts. A text is read back from its quotes (`unquote?_quote`), so no two texts are quoted
alike (`quote_injective`). All that a quoted text is written with can be seen, so it is one line,
whatever line ends and controls the text itself has (`oneLine_quote`).
-/

namespace TunnelSession.Text

/-- The code points of the general category control, line ends among them. -/
def IsControl (c : Char) : Prop :=
  c.toNat < 0x20 ∨ 0x7F ≤ c.toNat ∧ c.toNat < 0xA0
  deriving Decidable

/-- A text with no controls in it. -/
def OneLine (s : String) : Prop :=
  ∀ c ∈ s.toList, ¬ IsControl c

instance (s : String) : Decidable (OneLine s) :=
  List.decidableBAll (¬ IsControl ·) s.toList

theorem OneLine.append {s t : String} (first : OneLine s) (second : OneLine t) :
    OneLine (s ++ t) := by
  intro c mem
  rw [String.toList_append, List.mem_append] at mem
  exact mem.elim (first c) (second c)

section Hidden

variable {c : Char}

theorem isHidden_of_isControl (control : IsControl c) : isHidden c = true := by
  refine List.any_eq_true.mpr ?_
  rcases control with low | ⟨lower, upper⟩
  · exact ⟨(0x0, 0x1F), .head _, by simp; omega⟩
  · exact ⟨(0x7F, 0xA0), .tail _ (.head _), by simp; omega⟩

/-- No range of hidden characters reaches into the printed part of ASCII. -/
theorem hiddenRanges_apart : ∀ r ∈ hiddenRanges, r.2 < 0x20 ∨ 0x7F ≤ r.1 := by
  have apart : hiddenRanges.all (fun r => r.2 < 0x20 || 0x7F ≤ r.1) = true := by decide +kernel
  simpa using apart

/-- From the space to the tilde nothing is hidden. -/
theorem notHidden_of_ascii (ascii : 0x20 ≤ c.toNat ∧ c.toNat < 0x7F) : isHidden c = false := by
  refine List.any_eq_false.mpr fun r mem => ?_
  rcases hiddenRanges_apart r mem with below | above
  · simp; omega
  · simp; omega

end Hidden

/-- The letters that stand for a character after a backslash, each with that character. -/
def named : List (Char × Char) :=
  [('"', '"'), ('\\', '\\'), ('n', '\n'), ('r', '\r'), ('t', '\t'), ('0', '\x00')]

/-- A character is written by its name, by its number, or as it is. -/
theorem escape_cases (c : Char) :
    (∃ name, (name, c) ∈ named ∧ escape c = ['\\', name]) ∨
    (isHidden c = true ∧ escape c = ['\\', 'u', '\x7b'] ++ hexDigits c.toNat ++ ['\x7d']) ∨
    (isHidden c = false ∧ escape c = [c] ∧ c ≠ '"' ∧ c ≠ '\\') := by
  grind [escape, named]

section Digits

variable {n m d : Nat} {c : Char} {ds : List Char}

theorem hexValue?_range (value : hexValue? c = some d) : 0x30 ≤ c.toNat ∧ c.toNat ≤ 0x66 := by
  have le {a b : Char} : a ≤ b ↔ a.toNat ≤ b.toNat := by
    rw [Char.le_def, UInt32.le_iff_toNat_le]
    rfl
  unfold hexValue? at value
  simp only [le] at value
  grind

theorem hexOver?_cons_eq_some : hexOver? n (c :: ds) = some m ↔
    ∃ d, hexValue? c = some d ∧ hexOver? (16 * n + d) ds = some m := by
  simp [hexOver?, Option.bind_eq_some_iff]

theorem hexValue?_of_mem (number : hexOver? n ds = some m) (mem : c ∈ ds) :
    ∃ d, hexValue? c = some d := by
  induction ds generalizing n with
  | nil => cases mem
  | cons b ds ih =>
    obtain ⟨d, value, later⟩ := hexOver?_cons_eq_some.mp number
    rcases List.mem_cons.mp mem with rfl | mem
    · exact ⟨d, value⟩
    · exact ih later mem

theorem unescape_brace (n : Nat) (cs : List Char) :
    unescape (some n) ('\x7d' :: cs) = (unescape none cs).map (Char.ofNat n :: ·) := rfl

theorem unescape_digit (value : hexValue? c = some d) (cs : List Char) :
    unescape (some n) (c :: cs) = unescape (some (16 * n + d)) cs := by
  have digit : c ≠ '\x7d' := by
    rintro rfl
    exact absurd (hexValue?_range value).2 (by decide)
  simp [unescape, value]

/-- A numbered escape is read digit by digit, up to its closing brace. -/
theorem unescape_number (number : hexOver? n ds = some m) (cs : List Char) :
    unescape (some n) (ds ++ '\x7d' :: cs) = (unescape none cs).map (Char.ofNat m :: ·) := by
  induction ds generalizing n with
  | nil =>
    obtain rfl : n = m := by simpa [hexOver?] using number
    exact unescape_brace n cs
  | cons c ds ih =>
    obtain ⟨d, value, later⟩ := hexOver?_cons_eq_some.mp number
    rw [List.cons_append, unescape_digit value, ih later]

end Digits

theorem unescape_named (cs : List Char) : ∀ p ∈ named,
    unescape none ('\\' :: p.1 :: cs) = (unescape none cs).map (p.2 :: ·) := by
  simp only [named, List.forall_mem_cons]
  exact ⟨rfl, rfl, rfl, rfl, rfl, rfl, List.forall_mem_nil _⟩

theorem unescape_plain {c : Char} (quote : c ≠ '"') (backslash : c ≠ '\\') (cs : List Char) :
    unescape none (c :: cs) = (unescape none cs).map (c :: ·) := by
  simp [unescape, quote, backslash]

theorem unescape_escape (c : Char) (cs : List Char) :
    unescape none (escape c ++ cs) = (unescape none cs).map (c :: ·) := by
  rcases escape_cases c with ⟨name, known, short⟩ | ⟨_, numbered⟩ | ⟨_, plain, quote, backslash⟩
  · rw [short]
    exact unescape_named cs _ known
  · have number := unescape_number (hexOver?_hexDigits c.toNat) cs
    rw [Char.ofNat_toNat] at number
    rw [numbered, List.append_assoc, List.append_assoc]
    exact number
  · rw [plain]
    exact unescape_plain quote backslash cs

theorem unescape_escaped (cs : List Char) :
    unescape none (cs.flatMap escape ++ ['"']) = some cs := by
  induction cs with
  | nil => rfl
  | cons c cs ih => rw [List.flatMap_cons, List.append_assoc, unescape_escape, ih, Option.map_some]

theorem unquote?_quote (s : String) : unquote? (quote s) = some s := by
  simp [unquote?, quote, unescape_escaped]

theorem quote_injective {s t : String} (same : quote s = quote t) : s = t := by
  rw [← Option.some_inj, ← unquote?_quote s, same, unquote?_quote]

section Shown

variable {b c : Char}

theorem notHidden_of_mem_hexDigits {n : Nat} (mem : c ∈ hexDigits n) : isHidden c = false := by
  obtain ⟨d, value⟩ := hexValue?_of_mem (hexOver?_hexDigits n) mem
  have range := hexValue?_range value
  exact notHidden_of_ascii (by omega)

theorem notHidden_of_mem_escape (mem : b ∈ escape c) : isHidden b = false := by
  rcases escape_cases c with ⟨name, known, short⟩ | ⟨_, numbered⟩ | ⟨shown, plain, _⟩
  · have ascii : ∀ p ∈ named, ∀ b ∈ ['\\', p.1], 0x20 ≤ b.toNat ∧ b.toNat < 0x7F := by
      simp [named]
    rw [short] at mem
    exact notHidden_of_ascii (ascii _ known b mem)
  · have ascii : ∀ b ∈ ['\\', 'u', '\x7b', '\x7d'], 0x20 ≤ b.toNat ∧ b.toNat < 0x7F := by simp
    rw [numbered, List.mem_append, List.mem_append] at mem
    rcases mem with (front | digit) | back
    · exact notHidden_of_ascii (ascii b (List.mem_append_left ['\x7d'] front))
    · exact notHidden_of_mem_hexDigits digit
    · exact notHidden_of_ascii (ascii b (List.mem_append_right ['\\', 'u', '\x7b'] back))
  · rw [plain, List.mem_singleton] at mem
    rwa [mem]

theorem notHidden_of_mem_quote {s : String} (mem : c ∈ (quote s).toList) :
    isHidden c = false := by
  simp only [quote, String.toList_ofList, List.mem_append, List.mem_singleton,
    List.mem_flatMap] at mem
  rcases mem with (rfl | ⟨_, _, inside⟩) | rfl
  · exact notHidden_of_ascii (by decide)
  · exact notHidden_of_mem_escape inside
  · exact notHidden_of_ascii (by decide)

theorem oneLine_quote (s : String) : OneLine (quote s) := by
  intro c mem control
  have shown := notHidden_of_mem_quote mem
  rw [isHidden_of_isControl control] at shown
  cases shown

end Shown

end TunnelSession.Text
