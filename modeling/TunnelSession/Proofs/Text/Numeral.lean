import Mathlib.Algebra.Group.Nat.Defs
import Mathlib.Data.List.Induction
import TunnelSession.Text.Numeral
import TunnelSession.Text.Quoted

/-!
Numbers read back from their digits, decimal or hexadecimal, digits written back from their number
(`toDigits_ofDigitChars`), and what is read as a number at all: `numeral?_eq_some_iff`.
-/

namespace TunnelSession.Text

/-- Digits in a base up to sixteen read back as the number that they write. -/
theorem foldlM_toDigits {base : Nat} (large : 1 < base) {value? : Char → Option Nat}
    (values : ∀ d < base, value? (Nat.digitChar d) = some d) (n : Nat) :
    (Nat.toDigits base n).foldlM (fun n c => (value? c).map (base * n + ·)) 0 = some n := by
  induction n using Nat.strongRecOn with
  | ind n ih =>
    rw [Nat.toDigits_eq_if large]
    split
    · rename_i small
      simp [values n small]
    · rename_i notSmall
      have smaller : n / base < n := Nat.div_lt_self (by omega) large
      have last := values (n % base) (Nat.mod_lt n (by omega))
      simp [ih _ smaller, last, Nat.div_add_mod]

theorem hexValue?_digitChar : ∀ d < 16, hexValue? (Nat.digitChar d) = some d := by decide

theorem hexOver?_hexDigits (n : Nat) : hexOver? 0 (hexDigits n) = some n :=
  foldlM_toDigits (by decide) hexValue?_digitChar n

theorem digit?_digitChar : ∀ d < 10, digit? (Nat.digitChar d) = some d := by decide

theorem digits?_toDigits (n : Nat) : digits? (Nat.toDigits 10 n) = some n := by
  have read := foldlM_toDigits (by decide) digit?_digitChar n
  cases digits : Nat.toDigits 10 n with
  | nil => exact absurd digits Nat.toDigits_ne_nil
  | cons c cs => rwa [digits] at read

/-- The digits of a number start with a zero only if it is zero. -/
theorem head?_toDigits_ne_zero {n : Nat} (positive : 0 < n) :
    (Nat.toDigits 10 n).head? ≠ some '0' := by
  induction n using Nat.strongRecOn with
  | ind n ih =>
    rw [Nat.toDigits_eq_if (by decide)]
    split
    · rename_i small
      have single : ∀ d < 10, 0 < d → [Nat.digitChar d].head? ≠ some '0' := by decide
      exact single n small positive
    · rename_i notSmall
      have front := ih (n / 10) (by omega) (by omega)
      cases digits : Nat.toDigits 10 (n / 10) with
      | nil => exact absurd digits Nat.toDigits_ne_nil
      | cons c cs => rwa [digits] at front

theorem digit?_eq_some_iff {c : Char} {d : Nat} :
    digit? c = some d ↔ c.isDigit = true ∧ c.toNat - '0'.toNat = d := by
  have same : ('0' ≤ c ∧ c ≤ '9') ↔ c.isDigit = true := by
    simp [Char.isDigit, Char.le_def]
  unfold digit?
  split
  · rename_i digit
    simp [same.mp digit]
  · rename_i other
    have other : c.isDigit ≠ true := fun digit => other (same.mpr digit)
    simp [other]

theorem foldlM_digits_iff {ds : List Char} {a n : Nat} :
    ds.foldlM (fun n c => (digit? c).map (10 * n + ·)) a = some n ↔
      (∀ c ∈ ds, c.isDigit = true) ∧ Nat.ofDigitChars 10 ds a = n := by
  induction ds generalizing a with
  | nil => simp
  | cons c ds ih =>
    rw [List.foldlM_cons, List.forall_mem_cons, Nat.ofDigitChars_cons]
    cases read : digit? c with
    | none =>
      have other : c.isDigit ≠ true := by
        intro digit
        have known := digit?_eq_some_iff.mpr ⟨digit, rfl⟩
        simp [read] at known
      simp [other]
    | some d =>
      obtain ⟨digit, rfl⟩ := digit?_eq_some_iff.mp read
      simp only [Option.map_some, Option.bind_eq_bind, Option.bind_some, digit, true_and]
      exact ih

theorem digits?_eq_some_iff {ds : List Char} {n : Nat} :
    digits? ds = some n ↔
      ds ≠ [] ∧ (∀ c ∈ ds, c.isDigit = true) ∧ Nat.ofDigitChars 10 ds 0 = n := by
  cases ds with
  | nil => simp [digits?]
  | cons c ds =>
    rw [digits?, foldlM_digits_iff]
    · simp
    · simp

theorem digit_range {c : Char} (digit : c.isDigit = true) : 48 ≤ c.toNat ∧ c.toNat ≤ 57 := by
  simpa [Char.isDigit, UInt32.le_iff_toNat_le] using digit

theorem digitChar_value {c : Char} (digit : c.isDigit = true) :
    c.toNat - '0'.toNat < 10 ∧ Nat.digitChar (c.toNat - '0'.toNat) = c := by
  have range := digit_range digit
  have known : ∀ d < 10, Nat.digitChar d = Char.ofNat (48 + d) := by decide
  have value : c.toNat - '0'.toNat < 10 := by
    change c.toNat - 48 < 10
    omega
  refine ⟨value, ?_⟩
  rw [known _ value]
  change Char.ofNat (48 + (c.toNat - 48)) = c
  rw [Nat.add_sub_cancel' range.1, Char.ofNat_toNat]

/-- Digits that do not start with a zero, or are just one digit, are those of the number that they
write. -/
theorem toDigits_ofDigitChars {ds : List Char} (some_digit : ds ≠ [])
    (digits : ∀ c ∈ ds, c.isDigit = true) (plain : 1 < ds.length → ds.head? ≠ some '0') :
    Nat.toDigits 10 (Nat.ofDigitChars 10 ds 0) = ds := by
  induction ds using List.reverseRecOn with
  | nil => exact absurd rfl some_digit
  | append_singleton front c ih =>
    obtain ⟨small, last⟩ := digitChar_value (digits c (by simp))
    have value : Nat.ofDigitChars 10 (front ++ [c]) 0 =
        10 * Nat.ofDigitChars 10 front 0 + (c.toNat - '0'.toNat) := by
      rw [Nat.ofDigitChars_append, Nat.ofDigitChars_cons, Nat.ofDigitChars_nil]
    cases front with
    | nil =>
      rw [value, Nat.ofDigitChars_nil, Nat.mul_zero, Nat.zero_add,
        Nat.toDigits_of_lt_base small, last]
      rfl
    | cons first rest =>
      have notZero : (first :: rest).head? ≠ some '0' := by simpa using plain (by simp)
      have before := ih (by simp) (fun c mem => digits c (List.mem_append_left _ mem))
        fun _ => notZero
      have positive : 0 < Nat.ofDigitChars 10 (first :: rest) 0 := by
        refine Nat.pos_of_ne_zero fun zero => notZero ?_
        rw [zero, Nat.toDigits_zero] at before
        rw [← before]
        rfl
      rw [value, ← Nat.toDigits_append_toDigits (by decide) positive small, before,
        Nat.toDigits_of_lt_base small, last]

/-- The text is a decimal numeral of `n`: digits, with or without a plus sign before them. The
number fits into 64 bits. -/
def Denotes (cs : List Char) (n : Nat) : Prop :=
  ∃ ds, (cs = ds ∨ cs = '+' :: ds) ∧ ds ≠ [] ∧ (∀ c ∈ ds, c.isDigit = true) ∧
    Nat.ofDigitChars 10 ds 0 = n ∧ n < 2 ^ 64

theorem numeral?_eq_some_iff {cs : List Char} {n : Nat} :
    numeral? cs = some n ↔ Denotes cs n := by
  have fits : decide (n < UInt64.size) = true ↔ n < 2 ^ 64 := by simp [UInt64.size]
  constructor
  · intro read
    unfold numeral? at read
    split at read
    · rename_i rest
      obtain ⟨read, bound⟩ := Option.filter_eq_some_iff.mp read
      obtain ⟨some_digit, digits, value⟩ := digits?_eq_some_iff.mp read
      exact ⟨rest, .inr rfl, some_digit, digits, value, fits.mp bound⟩
    · obtain ⟨read, bound⟩ := Option.filter_eq_some_iff.mp read
      obtain ⟨some_digit, digits, value⟩ := digits?_eq_some_iff.mp read
      exact ⟨cs, .inl rfl, some_digit, digits, value, fits.mp bound⟩
  · rintro ⟨ds, shape, some_digit, digits, value, bound⟩
    have read : (digits? ds).filter (· < UInt64.size) = some n := by
      rw [Option.filter_eq_some_iff]
      exact ⟨digits?_eq_some_iff.mpr ⟨some_digit, digits, value⟩, fits.mpr bound⟩
    rcases shape with rfl | rfl
    · unfold numeral?
      split
      · -- A plus sign is no digit, so the digits do not start with one.
        exact absurd (digits '+' List.mem_cons_self) (by decide)
      · exact read
    · exact read

/-- A numeral names a place by the number after it. -/
theorem position?_eq_some_iff {cs : List Char} {i : Nat} :
    position? cs = some i ↔ Denotes cs (i + 1) := by
  rw [← numeral?_eq_some_iff]
  unfold position?
  split
  · rename_i n read
    simp [read]
  · rename_i other
    constructor
    · intro h
      cases h
    · intro read
      exact absurd read (other i)

namespace Denotes

variable {cs : List Char} {n : Nat}

theorem ne_nil (number : Denotes cs n) : cs ≠ [] := by
  rintro rfl
  obtain ⟨ds, shape, some_digit, _⟩ := number
  rcases shape with rfl | shape
  · exact some_digit rfl
  · cases shape

/-- What is looked up by a numeral is what stands in its place. -/
theorem bind_position? {α : Type} (number : Denotes cs (n + 1)) (f : Nat → Option α) :
    (position? cs).bind f = f n := by
  rw [position?_eq_some_iff.mpr number, Option.bind_some]

end Denotes

end TunnelSession.Text
