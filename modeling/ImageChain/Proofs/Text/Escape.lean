import ImageChain.Text.Escape

/-!
# What a query-escaped text stands for

`Unescapes` says which bytes query-escaped bytes stand for.  Bytes with an
incomplete escape stand for none.  A text stands for another one when the bytes
that it stands for encode that one, and there is at most one such text, because
no two texts are encoded alike.

A text is read in two passes: a check of the escapes as they are written, and a
lenient decoder that is given a copy with spaces for the plus signs.
`unescapeBytes` does both at once, and the two passes come to the same because
they agree on where an escape begins: a plus sign is no digit of a complete
escape, and what becomes of it begins none.

`queryEscape` goes the other way.  It writes an escape for every byte but those
that are safe everywhere, so what it writes has no separator in it and stands
for the text that was written.
-/

namespace ImageChain

/-! ## Texts and their bytes -/

namespace Utf8

theorem encode_injective {first second : String} (heq : encode first = encode second) :
    first = second := by
  unfold encode at heq
  rw [String.toUTF8_eq_toByteArray, String.toUTF8_eq_toByteArray, Array.toList_inj] at heq
  exact String.toByteArray_inj.mp (ByteArray.ext heq)

theorem decode_eq_ok_iff {bytes : List UInt8} {text : String} :
    decode bytes = .ok text ↔ encode text = bytes := by
  have hencode : ∀ hvalid, encode (String.fromUTF8 ⟨bytes.toArray⟩ hvalid) = bytes :=
    fun _ => rfl
  unfold decode String.fromUTF8?
  constructor
  · intro hdecode
    split at hdecode
    · next hfrom =>
        split at hfrom
        · next hvalid =>
            cases hfrom
            cases hdecode
            exact hencode hvalid
        · cases hfrom
    · cases hdecode
  · rintro rfl
    have hvalid : ByteArray.IsValidUTF8 ⟨(encode text).toArray⟩ := text.isValidUTF8
    rw [dif_pos hvalid]
    exact congrArg Except.ok (encode_injective (hencode hvalid))

theorem encode_ofList (characters : List Char) :
    encode (String.ofList characters) = characters.flatMap String.utf8EncodeChar := by
  have hbytes : encode (String.ofList characters) = (List.utf8Encode characters).data.toList := rfl
  rw [hbytes, List.utf8Encode]
  simp

/-- A character is encoded as one byte below 128 or as several bytes from 128 on. -/
theorem utf8EncodeChar_cases (c : Char) :
    String.utf8EncodeChar c = [c.toNat.toUInt8] ∧ c.toNat < 0x80 ∨
      ∀ b ∈ String.utf8EncodeChar c, 0x80 ≤ b := by
  have hlarge (n : Nat) (hleast : 0x80 ≤ n) (hbound : n < 256) : (0x80 : UInt8) ≤ UInt8.ofNat n := by
    rw [UInt8.le_iff_toNat_le, UInt8.toNat_ofNat', Nat.mod_eq_of_lt hbound]
    exact hleast
  by_cases hsmall : c.val.toNat ≤ 0x7f
  · left
    refine ⟨?_, Nat.lt_succ_of_le hsmall⟩
    rw [String.utf8EncodeChar]
    exact if_pos hsmall
  · right
    rw [String.utf8EncodeChar]
    simp only [if_neg hsmall]
    split
    · simp only [List.mem_cons, List.not_mem_nil, or_false, forall_eq_or_imp, forall_eq]
      refine ⟨?_, ?_⟩ <;> exact hlarge _ (by omega) (by omega)
    split
    · simp only [List.mem_cons, List.not_mem_nil, or_false, forall_eq_or_imp, forall_eq]
      refine ⟨?_, ?_, ?_⟩ <;> exact hlarge _ (by omega) (by omega)
    · simp only [List.mem_cons, List.not_mem_nil, or_false, forall_eq_or_imp, forall_eq]
      refine ⟨?_, ?_, ?_, ?_⟩ <;> exact hlarge _ (by omega) (by omega)

/-- A byte below 128 encodes no character but the one with its number. -/
theorem toNat_eq_of_mem_utf8EncodeChar {c : Char} {b : UInt8}
    (hb : b ∈ String.utf8EncodeChar c) (hsmall : b < 0x80) : c.toNat = b.toNat := by
  rcases utf8EncodeChar_cases c with ⟨hbytes, hc⟩ | hlarge
  · have hbyte : c.toNat < 256 := Nat.lt_trans hc (by decide)
    rw [hbytes, List.mem_singleton] at hb
    rw [hb, Nat.toUInt8_eq, UInt8.toNat_ofNat', Nat.mod_eq_of_lt hbyte]
  · exact absurd hsmall (UInt8.not_lt.mpr (hlarge b hb))

end Utf8

/-! ## Escapes -/

/-- A byte that is a hexadecimal digit, in either case, and its value. -/
def HexDigit (b : UInt8) (value : Nat) : Prop :=
  value < 16 ∧ (Char.ofNat b.toNat).toLower = Nat.digitChar value

instance (b : UInt8) (value : Nat) : Decidable (HexDigit b value) :=
  inferInstanceAs (Decidable (_ ∧ _))

/-- The bytes that query-escaped bytes stand for. -/
inductive Unescapes : List UInt8 → List UInt8 → Prop where
  | nil : Unescapes [] []
  /-- A percent sign and two hexadecimal digits. -/
  | escape {high low : UInt8} {first second : Nat} {rest bytes : List UInt8}
      (hhigh : HexDigit high first) (hlow : HexDigit low second) (hrest : Unescapes rest bytes) :
      Unescapes (0x25 :: high :: low :: rest) (UInt8.ofNat (16 * first + second) :: bytes)
  /-- A plus sign stands for a space. -/
  | space {rest bytes : List UInt8} (hrest : Unescapes rest bytes) :
      Unescapes (0x2B :: rest) (0x20 :: bytes)
  /-- Every other byte stands for itself. -/
  | plain {b : UInt8} {rest bytes : List UInt8} (hpercent : b ≠ 0x25) (hplus : b ≠ 0x2B)
      (hrest : Unescapes rest bytes) : Unescapes (b :: rest) (b :: bytes)

/-! ### Digits -/

/-- A table of all bytes is checked row by row. -/
theorem forall_byte {P : UInt8 → Prop}
    (hrows : ∀ high < 16, ∀ low < 16, P (UInt8.ofNat (16 * high + low))) (b : UInt8) : P b := by
  have hlt := b.toNat_lt
  have hrow := hrows (b.toNat / 16) (by omega) (b.toNat % 16) (by omega)
  rwa [Nat.div_add_mod, UInt8.ofNat_toNat] at hrow

theorem hexDigit_iff (b : UInt8) : ∀ value < 16,
    HexDigit b value ↔ hexValue b = some (UInt8.ofNat value) := by
  revert b
  exact forall_byte (by decide +kernel)

theorem hexValue_lt (b : UInt8) : ∀ value ∈ hexValue b, value.toNat < 16 := by
  revert b
  exact forall_byte (by decide +kernel)

theorem HexDigit.hexValue_eq {b : UInt8} {value : Nat} (hdigit : HexDigit b value) :
    hexValue b = some (UInt8.ofNat value) :=
  (hexDigit_iff b value hdigit.1).mp hdigit

theorem hexDigit_of_hexValue {b value : UInt8} (hvalue : hexValue b = some value) :
    HexDigit b value.toNat := by
  have hdigit := hexDigit_iff b value.toNat (hexValue_lt b value hvalue)
  rw [UInt8.ofNat_toNat] at hdigit
  exact hdigit.mpr hvalue

theorem escapedByte_eq_some_iff {high low value : UInt8} :
    escapedByte high low = some value ↔
      ∃ first second, HexDigit high first ∧ HexDigit low second ∧
        value = UInt8.ofNat (16 * first + second) := by
  unfold escapedByte
  constructor
  · intro hvalue
    split at hvalue
    · next h l hhigh hlow =>
        cases hvalue
        refine ⟨h.toNat, l.toNat, hexDigit_of_hexValue hhigh, hexDigit_of_hexValue hlow, ?_⟩
        rw [UInt8.ofNat_add, UInt8.ofNat_mul, UInt8.ofNat_toNat, UInt8.ofNat_toNat]
        rfl
    · cases hvalue
  · rintro ⟨first, second, hhigh, hlow, rfl⟩
    rw [hhigh.hexValue_eq, hlow.hexValue_eq, UInt8.ofNat_add, UInt8.ofNat_mul]
    rfl

/-! ### Rows of bytes -/

/-- The bytes that query-escaped bytes stand for, unless an escape is incomplete. -/
def unescapeBytes : List UInt8 → Option (List UInt8)
  | [] => some []
  | b :: rest =>
    if b = 0x25 then
      match rest with
      | high :: low :: rest =>
        match escapedByte high low with
        | some value => (unescapeBytes rest).map (value :: ·)
        | none => none
      | _ => none
    else (unescapeBytes rest).map (plainByte b :: ·)

theorem unescapeBytes_escape {high low value : UInt8} (hvalue : escapedByte high low = some value)
    (rest : List UInt8) :
    unescapeBytes (0x25 :: high :: low :: rest) = (unescapeBytes rest).map (value :: ·) := by
  rw [unescapeBytes, if_pos rfl, hvalue]

theorem unescapeBytes_plain {b : UInt8} (hb : b ≠ 0x25) (rest : List UInt8) :
    unescapeBytes (b :: rest) = (unescapeBytes rest).map (plainByte b :: ·) := by
  rw [unescapeBytes.eq_def]
  exact if_neg hb

theorem unescapes_of_unescapeBytes {written bytes : List UInt8}
    (hread : unescapeBytes written = some bytes) : Unescapes written bytes := by
  induction written using unescapeBytes.induct generalizing bytes with
  | case1 =>
      cases hread
      exact .nil
  | case2 high low rest value hvalue ih =>
      obtain ⟨first, second, hhigh, hlow, rfl⟩ := escapedByte_eq_some_iff.mp hvalue
      rw [unescapeBytes_escape hvalue, Option.map_eq_some_iff] at hread
      obtain ⟨others, hothers, rfl⟩ := hread
      exact .escape hhigh hlow (ih hothers)
  | case3 high low rest hnone =>
      rw [unescapeBytes, if_pos rfl, hnone] at hread
      cases hread
  | case4 rest hshort =>
      -- fewer than two bytes follow the percent sign
      rw [unescapeBytes.eq_def] at hread
      simp only [if_pos] at hread
      cases hread
  | case5 b rest hb ih =>
      rw [unescapeBytes_plain hb, Option.map_eq_some_iff] at hread
      obtain ⟨others, hothers, rfl⟩ := hread
      by_cases hplus : b = 0x2B
      · subst hplus
        exact .space (ih hothers)
      · rw [plainByte, if_neg hplus]
        exact .plain hb hplus (ih hothers)

theorem unescapeBytes_eq_some_iff {written bytes : List UInt8} :
    unescapeBytes written = some bytes ↔ Unescapes written bytes := by
  refine ⟨unescapes_of_unescapeBytes, fun hunescapes => ?_⟩
  induction hunescapes with
  | nil => rfl
  | escape hhigh hlow _ ih =>
      have hvalue := escapedByte_eq_some_iff.mpr ⟨_, _, hhigh, hlow, rfl⟩
      rw [unescapeBytes_escape hvalue, ih, Option.map_some]
  | space _ ih =>
      rw [unescapeBytes_plain (by decide), ih]
      rfl
  | plain hpercent hplus _ ih =>
      rw [unescapeBytes_plain hpercent, ih, plainByte, if_neg hplus, Option.map_some]

/-- Something stands for something. -/
theorem Unescapes.eq_nil_iff {written bytes : List UInt8} (hunescapes : Unescapes written bytes) :
    bytes = [] ↔ written = [] := by
  cases hunescapes <;> simp

/-! ### Two passes -/

theorem isSome_unescapeBytes (written : List UInt8) :
    (unescapeBytes written).isSome = escapesComplete written := by
  induction written using unescapeBytes.induct with
  | case1 => rfl
  | case2 high low rest value hvalue ih =>
      rw [unescapeBytes_escape hvalue, Option.isSome_map, ih, escapesComplete, if_pos rfl, hvalue]
      rfl
  | case3 high low rest hnone =>
      rw [unescapeBytes, escapesComplete, if_pos rfl, if_pos rfl, hnone]
      rfl
  | case4 rest hshort =>
      rw [unescapeBytes.eq_def, escapesComplete.eq_def]
      simp only [if_pos]
      rfl
  | case5 b rest hb ih =>
      have hrest : escapesComplete (b :: rest) = escapesComplete rest := by
        rw [escapesComplete.eq_def]
        exact if_neg hb
      rw [unescapeBytes_plain hb, Option.isSome_map, ih, hrest]

theorem percentDecode_escape {high low value : UInt8} (hvalue : escapedByte high low = some value)
    (rest : List UInt8) :
    percentDecode (0x25 :: high :: low :: rest) = value :: percentDecode rest := by
  rw [percentDecode, if_pos rfl, hvalue]

theorem percentDecode_plain {b : UInt8} (hb : b ≠ 0x25) (rest : List UInt8) :
    percentDecode (b :: rest) = b :: percentDecode rest := by
  rw [percentDecode.eq_def]
  exact if_neg hb

/-- A byte that is written for a byte outside an escape does not begin an escape. -/
theorem plainByte_ne {b : UInt8} (hb : b ≠ 0x25) : plainByte b ≠ 0x25 := by
  unfold plainByte
  split
  · decide
  · exact hb

theorem plainByte_of_hexDigit {b : UInt8} {value : Nat} (hdigit : HexDigit b value) :
    plainByte b = b := by
  refine if_neg fun hplus => ?_
  have hvalue := hdigit.hexValue_eq
  rw [hplus] at hvalue
  cases hvalue

theorem percentDecode_map_plainByte {written bytes : List UInt8}
    (hunescapes : Unescapes written bytes) : percentDecode (written.map plainByte) = bytes := by
  induction hunescapes with
  | nil => rfl
  | escape hhigh hlow _ ih =>
      have hvalue := escapedByte_eq_some_iff.mpr ⟨_, _, hhigh, hlow, rfl⟩
      have hpercent : plainByte 0x25 = 0x25 := rfl
      rw [List.map_cons, List.map_cons, List.map_cons, hpercent, plainByte_of_hexDigit hhigh,
        plainByte_of_hexDigit hlow, percentDecode_escape hvalue, ih]
  | space _ ih =>
      have hspace : plainByte 0x2B = 0x20 := rfl
      rw [List.map_cons, hspace, percentDecode_plain (by decide), ih]
  | plain hpercent hplus _ ih =>
      rw [List.map_cons, percentDecode_plain (plainByte_ne hpercent), ih, plainByte, if_neg hplus]

/-- The two passes do what one pass does that decodes while it checks. -/
theorem queryUnescape_eq (text : String) :
    queryUnescape text =
      match unescapeBytes (Utf8.encode text) with
      | none => .error (.argument ("invalid URL escape in " ++ quote text))
      | some bytes =>
        match Utf8.decode bytes with
        | .ok decoded => .ok decoded
        | .error fault =>
          .error (.argument ("invalid URL escape in " ++ quote text ++ ": " ++ fault.message)) := by
  unfold queryUnescape
  dsimp only
  rw [← isSome_unescapeBytes]
  cases hbytes : unescapeBytes (Utf8.encode text) with
  | none => rfl
  | some bytes =>
      rw [percentDecode_map_plainByte (unescapes_of_unescapeBytes hbytes)]
      rfl

/-! ### Texts -/

theorem queryUnescape_eq_ok_iff {text decoded : String} :
    queryUnescape text = .ok decoded ↔ Unescapes (Utf8.encode text) (Utf8.encode decoded) := by
  rw [← unescapeBytes_eq_some_iff, queryUnescape_eq]
  constructor
  · intro hread
    split at hread
    · cases hread
    · next bytes hbytes =>
        split at hread
        · next found hfound =>
            cases hread
            rw [hbytes, Utf8.decode_eq_ok_iff.mp hfound]
        · cases hread
  · intro hbytes
    have hdecode : Utf8.decode (Utf8.encode decoded) = .ok decoded :=
      Utf8.decode_eq_ok_iff.mpr rfl
    simp only [hbytes, hdecode]

/-! ## Writing escapes -/

/-- Whether a byte is a letter, a digit or one of the marks that are safe everywhere. -/
def isUnreserved (b : UInt8) : Bool :=
  let c := Char.ofNat b.toNat
  c.isAlphanum || c ∈ ['-', '.', '_', '~']

/-- The upper-case hexadecimal digit of a number. -/
def upperHexDigit (n : Nat) : Char :=
  (Nat.digitChar n).toUpper

/-- A byte as it is written. -/
def escapeByte (b : UInt8) : List Char :=
  if isUnreserved b then [Char.ofNat b.toNat]
  else ['%', upperHexDigit (b.toNat / 16), upperHexDigit (b.toNat % 16)]

/-- A text with an escape for every byte that is not safe everywhere. -/
def queryEscape (text : String) : String :=
  String.ofList ((Utf8.encode text).flatMap escapeByte)

theorem utf8EncodeChar_of_isUnreserved (b : UInt8) (hsafe : isUnreserved b) :
    String.utf8EncodeChar (Char.ofNat b.toNat) = [b] := by
  revert b
  exact forall_byte (by decide +kernel)

theorem upperHexDigit_of_lt : ∀ value < 16,
    String.utf8EncodeChar (upperHexDigit value) = [(upperHexDigit value).toNat.toUInt8] ∧
      HexDigit (upperHexDigit value).toNat.toUInt8 value := by
  decide +kernel

theorem upperHexDigit_notMem : ∀ value < 16, upperHexDigit value ∉ ['/', '|'] := by
  decide +kernel

/-- A byte as it is written stands for the byte. -/
theorem unescapes_escapeByte (b : UInt8) {rest bytes : List UInt8} (hrest : Unescapes rest bytes) :
    Unescapes ((escapeByte b).flatMap String.utf8EncodeChar ++ rest) (b :: bytes) := by
  unfold escapeByte
  split
  · next hsafe =>
      rw [List.flatMap_singleton, utf8EncodeChar_of_isUnreserved b hsafe]
      refine .plain ?_ ?_ hrest
      · rintro rfl
        exact absurd hsafe (by decide)
      · rintro rfl
        exact absurd hsafe (by decide)
  · have hb := b.toNat_lt
    obtain ⟨hhigh, hhighDigit⟩ := upperHexDigit_of_lt (b.toNat / 16) (by omega)
    obtain ⟨hlow, hlowDigit⟩ := upperHexDigit_of_lt (b.toNat % 16) (by omega)
    have hescape := Unescapes.escape hhighDigit hlowDigit hrest
    rw [Nat.div_add_mod, UInt8.ofNat_toNat] at hescape
    rw [List.flatMap_cons, List.flatMap_cons, List.flatMap_singleton, hhigh, hlow]
    exact hescape

theorem unescapes_flatMap_escapeByte (bytes : List UInt8) :
    Unescapes ((bytes.flatMap escapeByte).flatMap String.utf8EncodeChar) bytes := by
  induction bytes with
  | nil => exact .nil
  | cons b rest ih =>
      rw [List.flatMap_cons, List.flatMap_append]
      exact unescapes_escapeByte b ih

/-- A text as it is written stands for the text. -/
theorem unescapes_queryEscape (text : String) :
    Unescapes (Utf8.encode (queryEscape text)) (Utf8.encode text) := by
  rw [queryEscape, Utf8.encode_ofList]
  exact unescapes_flatMap_escapeByte (Utf8.encode text)

theorem notMem_escapeByte {b : UInt8} {c : Char} (hc : c ∈ escapeByte b) : c ∉ ['/', '|'] := by
  unfold escapeByte at hc
  split at hc
  · next hsafe =>
      intro hseparator
      rw [isUnreserved, ← List.mem_singleton.mp hc] at hsafe
      simp only [List.mem_cons, List.not_mem_nil, or_false] at hseparator
      rcases hseparator with rfl | rfl
      · exact absurd hsafe (by decide)
      · exact absurd hsafe (by decide)
  · have hb := b.toNat_lt
    simp only [List.mem_cons, List.not_mem_nil, or_false] at hc
    rcases hc with rfl | rfl | rfl
    · decide
    · exact upperHexDigit_notMem _ (by omega)
    · exact upperHexDigit_notMem _ (by omega)

theorem notMem_queryEscape {text : String} {c : Char} (hc : c ∈ (queryEscape text).toList) :
    c ∉ ['/', '|'] := by
  rw [queryEscape, String.toList_ofList] at hc
  obtain ⟨b, -, hc⟩ := List.mem_flatMap.mp hc
  exact notMem_escapeByte hc

end ImageChain
