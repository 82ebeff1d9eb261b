import Mathlib.Algebra.Group.Nat.Defs
import ImageChain.Optimizer.Wire

/-!
# Fields of messages as bytes

A number is spelled seven bits at a time, and nothing says that it has to be
spelled with as few bytes as possible.  So what is read back is stated of
`Spelling`, which any writer may have written; `spelling_writeVarint` says that
the numbers written here are among them.  `Holds` is the same for a field, and
`Row` for fields behind one another.

The reader is given more bytes than it takes.  Each of its lemmas has the bytes
that are left as `rest`, and the lemma for a row of fields follows by induction
along the row.
-/

namespace ImageChain.Wire

/-! ## Numbers -/

/-- Bytes that spell a number: seven bits each, the lowest ones first.  All bytes but the last one are
at least 128. -/
inductive Spells : List UInt8 → Nat → Prop where
  | last {byte : UInt8} (hlast : byte.toNat < 128) : Spells [byte] byte.toNat
  | more {byte : UInt8} {rest : List UInt8} {value : Nat} (hmore : 128 ≤ byte.toNat)
      (hrest : Spells rest value) : Spells (byte :: rest) (byte.toNat - 128 + 128 * value)

/-- A spelling of a number of 64 bits, which takes at most ten bytes. -/
structure Spelling (bytes : List UInt8) (value : Nat) : Prop where
  /-- The bytes spell the number. -/
  spells : Spells bytes value
  /-- There are at most ten of them. -/
  short : bytes.length ≤ 10
  /-- The number has at most 64 bits. -/
  fits : value < UInt64.size

theorem Spells.ne_nil {bytes : List UInt8} {value : Nat} (hspells : Spells bytes value) :
    bytes ≠ [] := by
  cases hspells <;> exact List.cons_ne_nil _ _

theorem readVarintFrom_spells {bytes : List UInt8} {value : Nat} (hspells : Spells bytes value)
    (rest : List UInt8) {count shift : Nat} (hcount : bytes.length ≤ count)
    (hfits : value * 2 ^ shift < UInt64.size) :
    readVarintFrom count shift (bytes ++ rest) = some (value * 2 ^ shift, rest) := by
  induction hspells generalizing count shift with
  | @last byte hlast =>
      obtain ⟨count, rfl⟩ := Nat.exists_eq_add_one_of_ne_zero (Nat.ne_of_gt hcount)
      have hbyte : byte < 128 := UInt8.lt_iff_toNat_lt.mpr hlast
      simp only [List.singleton_append, readVarintFrom, if_pos hbyte, Nat.shiftLeft_eq,
        if_pos hfits]
  | @more byte others value hmore _ ih =>
      have hpositive : 0 < count := Nat.lt_of_lt_of_le (Nat.succ_pos _) hcount
      obtain ⟨count, rfl⟩ := Nat.exists_eq_add_one_of_ne_zero (Nat.ne_of_gt hpositive)
      have hbyte : ¬ byte < 128 := fun hless =>
        absurd (UInt8.lt_iff_toNat_lt.mp hless) (Nat.not_lt.mpr hmore)
      -- the bits of the byte lie below those of the others
      have hsum : (byte.toNat - 128) * 2 ^ shift + value * 2 ^ (shift + 7) =
          (byte.toNat - 128 + 128 * value) * 2 ^ shift := by
        rw [Nat.pow_add, Nat.add_mul, Nat.mul_comm (2 ^ shift), ← Nat.mul_assoc,
          Nat.mul_comm value]
      rw [← hsum] at hfits
      have hothers : readVarintFrom count (shift + 7) (others ++ rest) =
          some (value * 2 ^ (shift + 7), rest) :=
        ih (Nat.le_of_succ_le_succ hcount) (Nat.lt_of_le_of_lt (Nat.le_add_left _ _) hfits)
      simp only [List.cons_append, readVarintFrom, if_neg hbyte, hothers, Option.map_some,
        Nat.shiftLeft_eq, hsum]

theorem readVarint_spelling {bytes : List UInt8} {value : Nat} (hspelling : Spelling bytes value)
    (rest : List UInt8) : readVarint (bytes ++ rest) = some (value, rest) := by
  have hfits : value * 2 ^ 0 < UInt64.size := by
    rw [Nat.pow_zero, Nat.mul_one]
    exact hspelling.fits
  have hread := readVarintFrom_spells hspelling.spells rest hspelling.short hfits
  rwa [Nat.pow_zero, Nat.mul_one] at hread

theorem spells_writeVarintFrom {fuel value : Nat} (hvalue : value < 128 ^ (fuel + 1)) :
    Spells (writeVarintFrom fuel value) value := by
  induction fuel generalizing value with
  | zero =>
      have hbyte : (value % 128).toUInt8.toNat = value := by
        rw [Nat.toUInt8_eq, UInt8.toNat_ofNat']
        omega
      have hlast : Spells [(value % 128).toUInt8] (value % 128).toUInt8.toNat := .last (by omega)
      rwa [hbyte] at hlast
  | succ fuel ih =>
      rw [writeVarintFrom]
      split
      · next hsmall =>
          have hbyte : value.toUInt8.toNat = value := by
            rw [Nat.toUInt8_eq, UInt8.toNat_ofNat']
            omega
          have hlast : Spells [value.toUInt8] value.toUInt8.toNat := .last (by omega)
          rwa [hbyte] at hlast
      · have hbyte : (value % 128 + 128).toUInt8.toNat = value % 128 + 128 := by
          rw [Nat.toUInt8_eq, UInt8.toNat_ofNat']
          omega
        have hsmaller : value / 128 < 128 ^ (fuel + 1) := by
          rw [Nat.pow_succ] at hvalue
          omega
        have hhigh : 128 ≤ (value % 128 + 128).toUInt8.toNat := by
          rw [hbyte]
          exact Nat.le_add_left _ _
        have hmore := Spells.more hhigh (ih hsmaller)
        rwa [hbyte, Nat.add_sub_cancel, Nat.mod_add_div] at hmore

theorem length_writeVarintFrom_le (fuel value : Nat) :
    (writeVarintFrom fuel value).length ≤ fuel + 1 := by
  induction fuel generalizing value with
  | zero => exact Nat.le_refl 1
  | succ fuel ih =>
      rw [writeVarintFrom]
      split
      · exact Nat.succ_le_succ (Nat.zero_le _)
      · exact Nat.succ_le_succ (ih _)

theorem spelling_writeVarint {value : Nat} (hvalue : value < UInt64.size) :
    Spelling (writeVarint value) value where
  spells := spells_writeVarintFrom (Nat.lt_trans hvalue (by decide))
  short := length_writeVarintFrom_le 9 value
  fits := hvalue

/-! ## Fields -/

/-- A number that a field can have. -/
def IsNumber (number : Nat) : Prop := 0 < number ∧ number < 2 ^ 29

instance : DecidablePred IsNumber := fun _ => inferInstanceAs (Decidable (_ ∧ _))

/-- Bytes that hold a field.  They begin with its number and the type of its content. -/
inductive Holds : List UInt8 → Field → Prop where
  /-- A number of variable length. -/
  | varint {number value : Nat} {key content : List UInt8} (hnumber : IsNumber number)
      (hkey : Spelling key (8 * number)) (hcontent : Spelling content value) :
      Holds (key ++ content) ⟨number, .varint value⟩
  /-- Eight bytes. -/
  | eight {number : Nat} {key content : List UInt8} (hnumber : IsNumber number)
      (hkey : Spelling key (8 * number + 1)) (hlength : content.length = 8) :
      Holds (key ++ content) ⟨number, .other⟩
  /-- Bytes behind their number. -/
  | bytes {number : Nat} {key length content : List UInt8} (hnumber : IsNumber number)
      (hkey : Spelling key (8 * number + 2)) (hlength : Spelling length content.length) :
      Holds (key ++ (length ++ content)) ⟨number, .bytes content⟩
  /-- Four bytes. -/
  | four {number : Nat} {key content : List UInt8} (hnumber : IsNumber number)
      (hkey : Spelling key (8 * number + 5)) (hlength : content.length = 4) :
      Holds (key ++ content) ⟨number, .other⟩

theorem Holds.ne_nil {bytes : List UInt8} {field : Field} (hholds : Holds bytes field) :
    bytes ≠ [] := by
  cases hholds with
  | varint _ hkey | eight _ hkey | bytes _ hkey | four _ hkey =>
      exact List.append_ne_nil_of_left_ne_nil hkey.spells.ne_nil _

theorem readKey_spelling {number kind : Nat} {key : List UInt8} (hnumber : IsNumber number)
    (hkind : kind < 6) (hkey : Spelling key (8 * number + kind)) (rest : List UInt8) :
    readKey (key ++ rest) = some ((number, kind), rest) := by
  have hlower := hnumber.1
  have hupper := hnumber.2
  have hsize : UInt32.size = 2 ^ 32 := rfl
  have hdiv : (8 * number + kind) / 8 = number := by omega
  have hmod : (8 * number + kind) % 8 = kind := by omega
  have hvalid : 8 * number + kind < UInt32.size ∧ 8 ≤ 8 * number + kind ∧
      (8 * number + kind) % 8 < 6 := by omega
  rw [readKey, readVarint_spelling hkey rest]
  dsimp only
  rw [if_pos hvalid, hdiv, hmod]

theorem skipBytes_append {count : Nat} {content : List UInt8} (hlength : content.length = count)
    (rest : List UInt8) : skipBytes count (content ++ rest) = some rest := by
  subst hlength
  have henough : ¬ (content ++ rest).length < content.length := by
    rw [List.length_append]
    omega
  rw [skipBytes, if_neg henough, List.drop_left]

theorem readBytes_append {length content : List UInt8} (hlength : Spelling length content.length)
    (rest : List UInt8) : readBytes (length ++ (content ++ rest)) = some (content, rest) := by
  have henough : ¬ (content ++ rest).length < content.length := by
    rw [List.length_append]
    omega
  rw [readBytes, readVarint_spelling hlength]
  dsimp only
  rw [if_neg henough, List.take_left, List.drop_left]

theorem readField_holds {bytes : List UInt8} {field : Field} (hholds : Holds bytes field)
    (rest : List UInt8) : readField (bytes ++ rest) = some (field, rest) := by
  cases hholds with
  | varint hnumber hkey hcontent =>
      have hkind : Spelling _ (8 * _ + 0) := hkey
      rw [readField, List.append_assoc, readKey_spelling hnumber (by decide) hkind]
      dsimp only
      rw [readVarint_spelling hcontent]
      rfl
  | eight hnumber hkey hlength =>
      rw [readField, List.append_assoc, readKey_spelling hnumber (by decide) hkey]
      dsimp only
      rw [skipBytes_append hlength]
      rfl
  | bytes hnumber hkey hlength =>
      rw [readField, List.append_assoc, List.append_assoc,
        readKey_spelling hnumber (by decide) hkey]
      dsimp only
      rw [readBytes_append hlength]
      rfl
  | four hnumber hkey hlength =>
      rw [readField, List.append_assoc, readKey_spelling hnumber (by decide) hkey]
      dsimp only
      rw [skipBytes_append hlength]
      rfl

/-! ## Fields behind one another -/

/-- Bytes that hold fields, one behind the other. -/
inductive Row : List UInt8 → List Field → Prop where
  | nil : Row [] []
  | cons {part rest : List UInt8} {field : Field} {fields : List Field}
      (hfirst : Holds part field) (hrest : Row rest fields) :
      Row (part ++ rest) (field :: fields)

theorem Row.append {first second : List UInt8} {before after : List Field}
    (hfirst : Row first before) (hsecond : Row second after) :
    Row (first ++ second) (before ++ after) := by
  induction hfirst with
  | nil => exact hsecond
  | cons hhead _ ih =>
      rw [List.append_assoc]
      exact .cons hhead ih

theorem Holds.row {bytes : List UInt8} {field : Field} (hholds : Holds bytes field) :
    Row bytes [field] := by
  have hrow := Row.cons hholds .nil
  rwa [List.append_nil] at hrow

theorem readFieldsFrom_of_readField {bytes rest : List UInt8} {field : Field}
    (hread : readField bytes = some (field, rest)) (fuel : Nat) :
    readFieldsFrom (fuel + 1) bytes = (readFieldsFrom fuel rest).map (field :: ·) := by
  cases bytes with
  | nil => cases hread
  | cons byte others =>
      rw [readFieldsFrom.eq_def]
      dsimp only
      rw [hread]

theorem readFieldsFrom_row {bytes : List UInt8} {fields : List Field} (hrow : Row bytes fields)
    {fuel : Nat} (hfuel : bytes.length ≤ fuel) : readFieldsFrom fuel bytes = some fields := by
  induction hrow generalizing fuel with
  | nil => rw [readFieldsFrom]
  | @cons part rest field fields hfirst _ ih =>
      -- every field takes at least one byte, so the fuel is enough for the rest
      have hpart := List.length_pos_iff.mpr hfirst.ne_nil
      rw [List.length_append] at hfuel
      obtain ⟨fuel, rfl⟩ := Nat.exists_eq_add_one_of_ne_zero (n := fuel) (by omega)
      rw [readFieldsFrom_of_readField (readField_holds hfirst rest), ih (by omega),
        Option.map_some]

theorem readFields_row {bytes : List UInt8} {fields : List Field} (hrow : Row bytes fields) :
    readFields bytes = some fields :=
  readFieldsFrom_row hrow (Nat.le_refl _)

/-! ## What is written -/

theorem row_writeNumber {number value : Nat} (hnumber : IsNumber number)
    (hvalue : value < UInt64.size) :
    Row (writeNumber number value) (if value = 0 then [] else [⟨number, .varint value⟩]) := by
  have hkey : 8 * number < UInt64.size := by
    have hupper := hnumber.2
    have hsize : UInt64.size = 2 ^ 64 := rfl
    omega
  unfold writeNumber
  split
  · exact .nil
  · exact (Holds.varint hnumber (spelling_writeVarint hkey) (spelling_writeVarint hvalue)).row

theorem row_writeBytes {number : Nat} {value : List UInt8} (hnumber : IsNumber number)
    (hlength : value.length < UInt64.size) :
    Row (writeBytes number value) (if value = [] then [] else [⟨number, .bytes value⟩]) := by
  have hkey : 8 * number + 2 < UInt64.size := by
    have hupper := hnumber.2
    have hsize : UInt64.size = 2 ^ 64 := rfl
    omega
  unfold writeBytes
  split
  · exact .nil
  · rw [List.append_assoc]
    exact (Holds.bytes hnumber (spelling_writeVarint hkey) (spelling_writeVarint hlength)).row

end ImageChain.Wire
