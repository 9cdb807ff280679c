import TunnelSession.Json.Printer
import TunnelSession.Json.Reader
import TunnelSession.Proofs.Text.Numeral

/-!
A text reads back from its string literal, whatever characters it has: `literalBody_escaped`.
-/

namespace TunnelSession.Json

/-- A character below the space is written by its number, in two digits. -/
theorem hexDigits_control {n : Nat} (control : n < 0x20) :
    ∃ d e, ['\\', 'u', '0', '0'] ++ (if n < 0x10 then ['0'] else []) ++ Text.hexDigits n =
      ['\\', 'u', '0', '0', d, e] ∧ four? '0' '0' d e = some n := by
  have read := Text.hexOver?_hexDigits n
  by_cases low : n < 0x10
  · have digits : Text.hexDigits n = [Nat.digitChar n] := Nat.toDigits_of_lt_base low
    rw [digits] at read ⊢
    rw [if_pos low]
    exact ⟨_, _, rfl, read⟩
  · have digits : Text.hexDigits n = [Nat.digitChar (n / 16), Nat.digitChar (n % 16)] := by
      have first : n / 16 < 16 := by omega
      rw [Text.hexDigits, Nat.toDigits_eq_if (by decide), if_neg low,
        Nat.toDigits_of_lt_base first]
      rfl
    rw [digits] at read ⊢
    rw [if_neg low]
    exact ⟨_, _, rfl, read⟩

/-- A character is written by its name, by its number, or as it is. -/
theorem escape_cases (c : Char) :
    (∃ e, escape c = ['\\', e] ∧ e ≠ 'u' ∧ pieces.simple? e = some c) ∨
    (∃ d e, escape c = ['\\', 'u', '0', '0', d, e] ∧ four? '0' '0' d e = some c.toNat ∧
      c.toNat < 0x20) ∨
    (escape c = [c] ∧ c ≠ '"' ∧ c ≠ '\\' ∧ ¬ c.toNat < 0x20) := by
  by_cases control : c.toNat < 0x20
  · obtain ⟨d, e, digits, read⟩ := hexDigits_control control
    grind [escape, pieces.simple?]
  · grind [escape, pieces.simple?]

theorem ofUnit_toNat {c : Char} (control : c.toNat < 0x20) : Piece.ofUnit c.toNat = .char c := by
  have whole : ¬ (0xD800 ≤ c.toNat ∧ c.toNat < 0xE000) := by omega
  rw [Piece.ofUnit, if_neg whole, Char.ofNat_toNat]

theorem pieces_escape {c : Char} {cs rest : List Char} {ps : List Piece}
    (read : pieces cs = some (ps, rest)) :
    pieces (escape c ++ cs) = some (.char c :: ps, rest) := by
  rcases escape_cases c with ⟨e, named, short, name⟩ | ⟨d, e, numbered, number, control⟩ |
    ⟨plain, quote, backslash, control⟩
  · simp [named, pieces, short, name, read]
  · simp [numbered, pieces, number, ofUnit_toNat control, read]
  · simp [plain, pieces, backslash, control, read]

/-- An escaped text is read up to the closing quote, one piece for each character. -/
theorem pieces_escaped (cs rest : List Char) :
    pieces (cs.flatMap escape ++ '"' :: rest) = some (cs.map .char, rest) := by
  induction cs with
  | nil => rfl
  | cons c cs ih =>
    rw [List.flatMap_cons, List.append_assoc]
    exact pieces_escape ih

theorem join_chars (cs : List Char) : join (cs.map .char) = some cs := by
  induction cs with
  | nil => rfl
  | cons c cs ih => simp [join, ih]

theorem literalBody_escaped (s : String) (rest : List Char) :
    literalBody (s.toList.flatMap escape ++ '"' :: rest) = some (some s, rest) := by
  simp [literalBody, pieces_escaped, join_chars]

end TunnelSession.Json
