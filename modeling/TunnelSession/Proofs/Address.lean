import TunnelSession.Address
import TunnelSession.Proofs.Text.Numeral
import TunnelSession.Proofs.Text.Split

/-!
An address reads back from its text (`parse?_text`), and nothing but its text is read as the address
(`ofChars?_eq_some_iff`). `IsQuad` says by the letters what the text of an address is, and
`isQuad_iff` that each such text is the text of one.
-/

namespace TunnelSession.Address

open Text

/-- How an octet is written: in decimal digits, the first of several no zero, as a number below
256. -/
structure IsOctet (cs : List Char) : Prop where
  some_digit : cs ≠ []
  digits : ∀ c ∈ cs, c.isDigit = true
  plain : 1 < cs.length → cs.head? ≠ some '0'
  bound : Nat.ofDigitChars 10 cs 0 < 256

theorem isOctet_toDigits (b : UInt8) : IsOctet (Nat.toDigits 10 b.toNat) := by
  refine ⟨Nat.toDigits_ne_nil, ?_, ?_, ?_⟩
  · intro c mem
    exact Nat.isDigit_of_mem_toDigits (by decide) (by decide) mem
  · intro several
    by_cases positive : 0 < b.toNat
    · exact head?_toDigits_ne_zero positive
    · have none : b.toNat = 0 := by omega
      simp [none] at several
  · rw [Nat.ofDigitChars_ten_toDigits]
    exact b.toNat_lt

theorem octet?_toDigits (b : UInt8) : octet? (Nat.toDigits 10 b.toNat) = some b := by
  have octet := isOctet_toDigits b
  have short : (Nat.toDigits 10 b.toNat).length ≤ 3 :=
    (Nat.length_toDigits_le_iff (by decide) (by decide)).mpr (Nat.lt_trans b.toNat_lt (by decide))
  have plain : ¬ ((Nat.toDigits 10 b.toNat).length > 3 ∨
      (Nat.toDigits 10 b.toNat).length > 1 ∧ (Nat.toDigits 10 b.toNat).head? = some '0') := by
    rintro (long | ⟨several, zero⟩)
    · omega
    · exact octet.plain several zero
  rw [octet?, if_neg plain, digits?_toDigits, Option.filter_some,
    if_pos (by simpa using b.toNat_lt), Option.map_some, UInt8.ofNat_toNat]

theorem dot_notMem_toDigits (n : Nat) : '.' ∉ Nat.toDigits 10 n := by
  intro mem
  exact absurd (Nat.isDigit_of_mem_toDigits (by decide) (by decide) mem) (by decide)

theorem text_toList (a : Address) : a.text.toList = Nat.toDigits 10 a.first.toNat ++ '.' ::
    (Nat.toDigits 10 a.second.toNat ++ '.' ::
      (Nat.toDigits 10 a.third.toNat ++ '.' :: Nat.toDigits 10 a.fourth.toNat)) := by
  simp [text]

theorem parse?_text (a : Address) : parse? a.text = some a := by
  have unbroken := dot_notMem_toDigits
  simp [parse?, ofChars?, text_toList, pieces_append_sep, pieces_of_notMem, unbroken,
    octet?_toDigits]

/-- Only the digits of an octet are read as the octet. -/
theorem octet?_eq_some_iff {cs : List Char} {b : UInt8} :
    octet? cs = some b ↔ cs = Nat.toDigits 10 b.toNat := by
  constructor
  · intro read
    unfold octet? at read
    split at read
    · cases read
    · rename_i plain
      obtain ⟨n, found, rfl⟩ := Option.map_eq_some_iff.mp read
      obtain ⟨found, bound⟩ := Option.filter_eq_some_iff.mp found
      obtain ⟨some_digit, digits, rfl⟩ := digits?_eq_some_iff.mp found
      have bound : Nat.ofDigitChars 10 cs 0 < 256 := by simpa using bound
      rw [UInt8.toNat_ofNat_of_lt' bound]
      exact (toDigits_ofDigitChars some_digit digits fun several zero =>
        plain (.inr ⟨several, zero⟩)).symm
  · rintro rfl
    exact octet?_toDigits b

/-- Only the text of an address is read as the address. -/
theorem ofChars?_eq_some_iff {cs : List Char} {a : Address} :
    ofChars? cs = some a ↔ cs = a.text.toList := by
  constructor
  · intro read
    unfold ofChars? at read
    split at read
    · rename_i first second third fourth cut
      -- of the four pieces only the last one ends with the text
      simp only [Option.bind_eq_bind, Option.pure_def, Option.bind_eq_some_iff,
        Option.some.injEq] at read
      obtain ⟨_, one, _, two, _, three, _, four, rfl⟩ := read
      obtain ⟨_, ⟨_, none⟩ | ⟨rest, rfl, cut₂⟩⟩ := pieces_eq_cons cut
      · cases none
      obtain ⟨_, ⟨_, none⟩ | ⟨rest, rfl, cut₃⟩⟩ := pieces_eq_cons cut₂
      · cases none
      obtain ⟨_, ⟨_, none⟩ | ⟨rest, rfl, cut₄⟩⟩ := pieces_eq_cons cut₃
      · cases none
      obtain ⟨_, ⟨rfl, _⟩ | ⟨rest, _, more⟩⟩ := pieces_eq_cons cut₄
      · rw [text_toList, octet?_eq_some_iff.mp one, octet?_eq_some_iff.mp two,
          octet?_eq_some_iff.mp three, octet?_eq_some_iff.mp four]
      · exact absurd more (pieces_ne_nil rest)
    · cases read
  · rintro rfl
    exact a.parse?_text

/-- A dotted quad: four octets with a dot between each two, and nothing else. -/
def IsQuad (cs : List Char) : Prop :=
  ∃ a b c d, IsOctet a ∧ IsOctet b ∧ IsOctet c ∧ IsOctet d ∧
    cs = a ++ '.' :: (b ++ '.' :: (c ++ '.' :: d))

theorem IsOctet.exists_toDigits {cs : List Char} (octet : IsOctet cs) :
    ∃ b : UInt8, cs = Nat.toDigits 10 b.toNat := by
  refine ⟨UInt8.ofNat (Nat.ofDigitChars 10 cs 0), ?_⟩
  rw [UInt8.toNat_ofNat_of_lt' octet.bound]
  exact (toDigits_ofDigitChars octet.some_digit octet.digits octet.plain).symm

/-- The dotted quads are the texts of the addresses. -/
theorem isQuad_iff {cs : List Char} : IsQuad cs ↔ ∃ a : Address, cs = a.text.toList := by
  constructor
  · rintro ⟨_, _, _, _, one, two, three, four, rfl⟩
    obtain ⟨first, rfl⟩ := one.exists_toDigits
    obtain ⟨second, rfl⟩ := two.exists_toDigits
    obtain ⟨third, rfl⟩ := three.exists_toDigits
    obtain ⟨fourth, rfl⟩ := four.exists_toDigits
    exact ⟨⟨first, second, third, fourth⟩, (text_toList ⟨first, second, third, fourth⟩).symm⟩
  · rintro ⟨a, rfl⟩
    exact ⟨_, _, _, _, isOctet_toDigits _, isOctet_toDigits _, isOctet_toDigits _,
      isOctet_toDigits _, a.text_toList⟩

theorem isQuad_iff_isSome {cs : List Char} : IsQuad cs ↔ (ofChars? cs).isSome = true := by
  simp only [isQuad_iff, Option.isSome_iff_exists, ofChars?_eq_some_iff]

instance (cs : List Char) : Decidable (IsQuad cs) :=
  decidable_of_iff _ isQuad_iff_isSome.symm

end TunnelSession.Address
