import Mathlib.Algebra.Group.Nat.Defs
import Mathlib.Data.List.Basic
import ImageChain.Text.Number

/-!
# What a numeral stands for

`Numeral` says which texts are numerals and what they stand for, without any
bound: digits, with or without a sign.  The readers of numbers are then
numerals with a bound, and `Lenient` is the way the tasks of a chain take their
arguments, in which everything that is no number in range stands for zero.

The value of a row of digits is the library's `Nat.ofDigitChars`, so the digits
that the library writes for a number are read as that number.
-/

namespace ImageChain

/-! ## Rows of digits -/

/-- A row of one or more decimal digits. -/
def IsDigits (numeral : List Char) : Prop :=
  numeral ≠ [] ∧ ∀ c ∈ numeral, c.isDigit

/-- The value of a row of decimal digits. -/
def decimalValue (numeral : List Char) : Nat :=
  Nat.ofDigitChars 10 numeral 0

theorem digitValue_eq_some_iff {c : Char} {digit : Nat} :
    digitValue c = some digit ↔ c.isDigit ∧ digit = c.toNat - '0'.toNat := by
  have hdigit : ('0' ≤ c && c ≤ '9') = c.isDigit := by
    simp only [Char.isDigit, Char.le_def]
  unfold digitValue
  rw [hdigit]
  split
  · next hc => simp [hc, eq_comm]
  · next hc => simp [hc]

theorem readDigitsFrom_eq_some_iff {numeral : List Char} {start value : Nat} :
    readDigitsFrom start numeral = some value ↔
      (∀ c ∈ numeral, c.isDigit) ∧ value = Nat.ofDigitChars 10 numeral start := by
  induction numeral generalizing start with
  | nil =>
      rw [readDigitsFrom, Option.some_inj, Nat.ofDigitChars_nil]
      exact ⟨fun heq => ⟨List.forall_mem_nil _, heq.symm⟩, fun heq => heq.2.symm⟩
  | cons c rest ih =>
      rw [readDigitsFrom, Option.bind_eq_some_iff, List.forall_mem_cons, Nat.ofDigitChars_cons]
      constructor
      · rintro ⟨digit, hdigit, hrest⟩
        obtain ⟨hc, rfl⟩ := digitValue_eq_some_iff.mp hdigit
        obtain ⟨hall, rfl⟩ := ih.mp hrest
        exact ⟨⟨hc, hall⟩, rfl⟩
      · rintro ⟨⟨hc, hall⟩, rfl⟩
        exact ⟨_, digitValue_eq_some_iff.mpr ⟨hc, rfl⟩, ih.mpr ⟨hall, rfl⟩⟩

theorem readDigits_eq_some_iff {numeral : List Char} {value : Nat} :
    readDigits numeral = some value ↔ IsDigits numeral ∧ value = decimalValue numeral := by
  cases numeral with
  | nil => simp [readDigits, IsDigits]
  | cons c rest =>
      have hread : readDigits (c :: rest) = readDigitsFrom 0 (c :: rest) := rfl
      rw [hread, readDigitsFrom_eq_some_iff, IsDigits, decimalValue]
      simp

/-- The digits of a number are a row of digits with its value. -/
theorem isDigits_toDigits (n : Nat) : IsDigits (Nat.toDigits 10 n) :=
  ⟨Nat.toDigits_ne_nil, fun _ hc => Nat.isDigit_of_mem_toDigits (by decide) (by decide) hc⟩

@[simp] theorem decimalValue_toDigits (n : Nat) : decimalValue (Nat.toDigits 10 n) = n :=
  Nat.ofDigitChars_ten_toDigits

/-! ## Signs -/

/-- The number that a numeral stands for. -/
inductive Numeral : List Char → Int → Prop where
  /-- Digits. -/
  | unsigned {numeral : List Char} (hdigits : IsDigits numeral) :
      Numeral numeral (decimalValue numeral)
  /-- Digits after a plus sign. -/
  | plus {numeral : List Char} (hdigits : IsDigits numeral) :
      Numeral ('+' :: numeral) (decimalValue numeral)
  /-- Digits after a minus sign. -/
  | minus {numeral : List Char} (hdigits : IsDigits numeral) :
      Numeral ('-' :: numeral) (-(decimalValue numeral))

/-- Whether a number is one of 64 bits with a sign. -/
def IsInt64 (value : Int) : Prop :=
  Int64.minValue.toInt ≤ value ∧ value ≤ Int64.maxValue.toInt

theorem IsDigits.head_isDigit {c : Char} {rest : List Char} (hdigits : IsDigits (c :: rest)) :
    c.isDigit :=
  hdigits.2 c List.mem_cons_self

theorem readNat_eq_some_iff {greatest : Nat} {text : List Char} {value : Nat} :
    readNat greatest text = some value ↔
      (∃ numeral, (text = numeral ∨ text = '+' :: numeral) ∧ IsDigits numeral ∧
        value = decimalValue numeral) ∧ value ≤ greatest := by
  unfold readNat
  dsimp only
  rw [Option.filter_eq_some_iff, decide_eq_true_eq, readDigits_eq_some_iff, and_congr_left_iff]
  intro _
  split
  case h_1 rest =>
    constructor
    · rintro ⟨hdigits, hvalue⟩
      exact ⟨rest, Or.inr rfl, hdigits, hvalue⟩
    · rintro ⟨numeral, rfl | heq, hdigits, hvalue⟩
      · -- the sign is no digit
        exact absurd hdigits.head_isDigit (by decide)
      · cases heq
        exact ⟨hdigits, hvalue⟩
  case h_2 hsign =>
    constructor
    · rintro ⟨hdigits, hvalue⟩
      exact ⟨text, Or.inl rfl, hdigits, hvalue⟩
    · rintro ⟨numeral, rfl | heq, hdigits, hvalue⟩
      · exact ⟨hdigits, hvalue⟩
      · exact absurd heq (hsign numeral)

theorem isInt64_iff {value : Int} :
    IsInt64 value ↔ -(greatestInt64 + 1) ≤ value ∧ value ≤ greatestInt64 := by
  have hmin : Int64.minValue.toInt = -(greatestInt64 + 1) := by decide
  have hmax : Int64.maxValue.toInt = greatestInt64 := by decide
  rw [IsInt64, hmin, hmax]

theorem readInt64_eq_some_iff {text : List Char} {value : Int} :
    readInt64 text = some value ↔ Numeral text value ∧ IsInt64 value := by
  rw [isInt64_iff]
  unfold readInt64
  split
  case h_1 rest =>
    rw [Option.map_eq_some_iff]
    simp only [Option.bind_eq_bind, Option.bind_eq_some_iff, Option.pure_def, Option.some_inj,
      Option.filter_eq_some_iff, readDigits_eq_some_iff, decide_eq_true_eq]
    constructor
    · rintro ⟨_, ⟨magnitude, ⟨⟨hdigits, rfl⟩, hle⟩, rfl⟩, rfl⟩
      exact ⟨.minus hdigits, by omega⟩
    · rintro ⟨hnumeral, hrange⟩
      cases hnumeral with
      | unsigned hdigits => exact absurd hdigits.head_isDigit (by decide)
      | minus hdigits => exact ⟨_, ⟨_, ⟨⟨hdigits, rfl⟩, by omega⟩, rfl⟩, rfl⟩
  case h_2 hsign =>
    rw [Option.map_eq_some_iff]
    simp only [readNat_eq_some_iff, Int.ofNat_eq_natCast]
    constructor
    · rintro ⟨magnitude, ⟨⟨numeral, rfl | rfl, hdigits, rfl⟩, hle⟩, rfl⟩
      · exact ⟨.unsigned hdigits, by omega⟩
      · exact ⟨.plus hdigits, by omega⟩
    · rintro ⟨hnumeral, hrange⟩
      cases hnumeral with
      | unsigned hdigits => exact ⟨_, ⟨⟨_, Or.inl rfl, hdigits, rfl⟩, by omega⟩, rfl⟩
      | plus hdigits => exact ⟨_, ⟨⟨_, Or.inr rfl, hdigits, rfl⟩, by omega⟩, rfl⟩
      | @minus numeral hdigits => exact absurd rfl (hsign numeral)

/-! ## Arguments that are numbers -/

/-- The number that an argument is taken for: a number of 64 bits, but at least zero, and zero for
everything else. -/
inductive Lenient : Option String → Nat → Prop where
  /-- The argument is a number. -/
  | numeral {text : String} {value : Int} (hnumeral : Numeral text.toList value)
      (hrange : IsInt64 value) : Lenient (some text) value.toNat
  /-- The argument is not a number. -/
  | other {text : String} (hnone : ∀ value, Numeral text.toList value → ¬ IsInt64 value) :
      Lenient (some text) 0
  /-- There is no argument. -/
  | missing : Lenient none 0

theorem lenient_iff {argument : Option String} {value : Nat} :
    Lenient argument value ↔ (intOrZero argument).toNat = value := by
  constructor
  · intro hlenient
    cases hlenient with
    | @numeral text value hnumeral hrange =>
        have hread : readInt64 text.toList = some value :=
          readInt64_eq_some_iff.mpr ⟨hnumeral, hrange⟩
        rw [intOrZero, Option.bind_some, hread, Option.getD_some]
    | @other text hnone =>
        have hread : readInt64 text.toList = none := by
          rw [Option.eq_none_iff_forall_ne_some]
          intro value hvalue
          obtain ⟨hnumeral, hrange⟩ := readInt64_eq_some_iff.mp hvalue
          exact hnone value hnumeral hrange
        rw [intOrZero, Option.bind_some, hread]
        rfl
    | missing => rfl
  · rintro rfl
    cases argument with
    | none => exact .missing
    | some text =>
        rw [intOrZero, Option.bind_some]
        cases hread : readInt64 text.toList with
        | none =>
            refine .other fun value hnumeral hrange => ?_
            rw [readInt64_eq_some_iff.mpr ⟨hnumeral, hrange⟩] at hread
            cases hread
        | some value =>
            obtain ⟨hnumeral, hrange⟩ := readInt64_eq_some_iff.mp hread
            exact .numeral hnumeral hrange

/-- Every argument is taken for a number. -/
theorem exists_lenient (argument : Option String) : ∃ value, Lenient argument value :=
  ⟨_, lenient_iff.mpr rfl⟩

/-- A row of digits stands for its value and nothing else. -/
theorem Numeral.eq_decimalValue {numeral : List Char} {value : Int}
    (hnumeral : Numeral numeral value) (hdigits : IsDigits numeral) :
    value = decimalValue numeral := by
  cases hnumeral with
  | unsigned _ => rfl
  | plus _ => exact absurd hdigits.head_isDigit (by decide)
  | minus _ => exact absurd hdigits.head_isDigit (by decide)

theorem isInt64_natCast_iff {value : Nat} : IsInt64 (value : Int) ↔ value < 2 ^ 63 := by
  have hgreatest : greatestInt64 + 1 = 2 ^ 63 := rfl
  rw [isInt64_iff]
  omega

/-- The number that a row of digits is taken for, by its value. -/
def takenFor (value : Nat) : Nat :=
  if value < 2 ^ 63 then value else 0

theorem lenient_of_isDigits {text : String} (hdigits : IsDigits text.toList) :
    Lenient (some text) (takenFor (decimalValue text.toList)) := by
  unfold takenFor
  split
  · next hvalue =>
      have hrange : IsInt64 (decimalValue text.toList : Int) := isInt64_natCast_iff.mpr hvalue
      exact .numeral (.unsigned hdigits) hrange
  · next hvalue =>
      refine .other fun value hnumeral hrange => hvalue ?_
      rw [hnumeral.eq_decimalValue hdigits] at hrange
      exact isInt64_natCast_iff.mp hrange

/-- A number that is written out is taken for itself. -/
theorem lenient_toString {n : Nat} (hn : n ≤ greatestInt64) : Lenient (some (toString n)) n := by
  have hnumeral : Numeral (toString n).toList (n : Int) := by
    have hdigits := Numeral.unsigned (isDigits_toDigits n)
    rwa [decimalValue_toDigits, ← String.toList_ofList (l := Nat.toDigits 10 n),
      ← Nat.toString_eq_ofList_toDigits] at hdigits
  have hrange : IsInt64 (n : Int) := isInt64_iff.mpr (by omega)
  exact .numeral hnumeral hrange

end ImageChain
