import ImageChain.Proofs.Text.Numeral

/-!
# Numerals that stand for zero

A numeral has the value zero if all its digits are zeros, however many there
are, and the reader of numbers adds only the sign to that.
-/

namespace ImageChain

theorem toNat_sub_eq_zero_iff {c : Char} (hc : c.isDigit) :
    c.toNat - '0'.toNat = 0 ↔ c = '0' := by
  constructor
  · intro hzero
    simp only [Char.isDigit, Bool.and_eq_true, decide_eq_true_eq, UInt32.le_iff_toNat_le] at hc
    have hle : c.toNat ≤ 48 := Nat.sub_eq_zero_iff_le.mp hzero
    exact Char.ext (UInt32.toNat_inj.mp (Nat.le_antisymm hle hc.1))
  · rintro rfl
    rfl

theorem ofDigitChars_eq_zero_iff {numeral : List Char} (hdigits : ∀ c ∈ numeral, c.isDigit)
    {start : Nat} :
    Nat.ofDigitChars 10 numeral start = 0 ↔ start = 0 ∧ ∀ c ∈ numeral, c = '0' := by
  induction numeral generalizing start with
  | nil => simp
  | cons c rest ih =>
      obtain ⟨hc, hrest⟩ := List.forall_mem_cons.mp hdigits
      rw [Nat.ofDigitChars_cons, ih hrest, List.forall_mem_cons, ← toNat_sub_eq_zero_iff hc,
        ← and_assoc, Nat.add_eq_zero_iff, Nat.mul_eq_zero]
      simp

/-- One or more zeros. -/
def IsZeros (numeral : List Char) : Prop :=
  numeral ≠ [] ∧ ∀ c ∈ numeral, c = '0'

theorem isZeros_iff {numeral : List Char} :
    IsZeros numeral ↔ IsDigits numeral ∧ 0 = decimalValue numeral := by
  constructor
  · rintro ⟨hne, hzeros⟩
    have hdigits : ∀ c ∈ numeral, c.isDigit := by
      intro c hc
      rw [hzeros c hc]
      rfl
    exact ⟨⟨hne, hdigits⟩, ((ofDigitChars_eq_zero_iff hdigits).mpr ⟨rfl, hzeros⟩).symm⟩
  · rintro ⟨⟨hne, hdigits⟩, hvalue⟩
    exact ⟨hne, ((ofDigitChars_eq_zero_iff hdigits).mp hvalue.symm).2⟩

/-- A number that is written as zero: one or more zeros, with or without a plus sign. -/
def IsZero (text : List Char) : Prop :=
  IsZeros text ∨ ∃ numeral, text = '+' :: numeral ∧ IsZeros numeral

theorem readNat_eq_zero_iff {greatest : Nat} {text : List Char} :
    readNat greatest text = some 0 ↔ IsZero text := by
  rw [readNat_eq_some_iff, IsZero, isZeros_iff]
  simp only [isZeros_iff, Nat.zero_le, and_true]
  constructor
  · rintro ⟨numeral, rfl | rfl, hzero⟩
    · exact Or.inl hzero
    · exact Or.inr ⟨numeral, rfl, hzero⟩
  · rintro (hzero | ⟨numeral, rfl, hzero⟩)
    · exact ⟨text, Or.inl rfl, hzero⟩
    · exact ⟨numeral, Or.inr rfl, hzero⟩

end ImageChain
