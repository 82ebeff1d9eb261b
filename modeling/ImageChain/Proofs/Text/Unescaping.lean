import ImageChain.Proofs.Text.Escape
import Mathlib.Data.List.Forall2

/-!
# Strict query decoding

A text is rejected for one of two reasons only.  Scanned from the left, with
every complete escape left behind as a whole, it comes to a percent sign that
starts none (`EscapesAreComplete` says that this does not happen), or the bytes
that it stands for encode no text.  In every other case it stands for exactly
one text.

Where an escape starts depends on all that stands before it: the second percent
sign of `%25%` starts one, and that of `%2%5` none.  So completeness is stated of
every percent sign with what stands before it, and the scan is an induction
along the bytes that moves what has been read to the front.

`Writes` collects all ways to write a text.  A digit is written in either case,
and each character is written as itself, as an escape for each of its bytes, or,
if it is a space, as a plus sign; no choice depends on another one.
-/

namespace ImageChain

/-! ## Escapes that are complete -/

/-- Every percent sign is followed by two hexadecimal digits, if it is not part of an escape that
starts before it. -/
def EscapesAreComplete (written : List UInt8) : Prop :=
  ∀ before after, written = before ++ 0x25 :: after → (∃ bytes, Unescapes before bytes) →
    ∃ high low rest first second, after = high :: low :: rest ∧ HexDigit high first ∧
      HexDigit low second

theorem Unescapes.append {first second bytes others : List UInt8} (hfirst : Unescapes first bytes)
    (hsecond : Unescapes second others) : Unescapes (first ++ second) (bytes ++ others) := by
  induction hfirst with
  | nil => exact hsecond
  | escape hhigh hlow _ ih => exact .escape hhigh hlow ih
  | space _ ih => exact .space ih
  | plain hpercent hplus _ ih => exact .plain hpercent hplus ih

theorem Unescapes.tail {b : UInt8} {rest bytes : List UInt8} (hb : b ≠ 0x25)
    (hunescapes : Unescapes (b :: rest) bytes) : ∃ others, Unescapes rest others := by
  cases hunescapes with
  | escape _ _ _ => exact (hb rfl).elim
  | space hrest => exact ⟨_, hrest⟩
  | plain _ _ hrest => exact ⟨_, hrest⟩

/-- Where bytes that stand for something end, nothing is left of an escape. -/
theorem Unescapes.of_append {before after bytes others : List UInt8}
    (hbefore : Unescapes before bytes) (hall : Unescapes (before ++ after) others) :
    ∃ rest, Unescapes after rest := by
  induction hbefore generalizing others with
  | nil => exact ⟨others, hall⟩
  | escape _ _ _ ih =>
      cases hall with
      | escape _ _ hrest => exact ih hrest
      | plain hpercent _ _ => exact (hpercent rfl).elim
  | space _ ih =>
      obtain ⟨rest, hrest⟩ := Unescapes.tail (by decide) hall
      exact ih hrest
  | plain hpercent _ _ ih =>
      obtain ⟨rest, hrest⟩ := Unescapes.tail hpercent hall
      exact ih hrest

theorem escapesAreComplete_of_unescapes {written bytes : List UInt8}
    (hunescapes : Unescapes written bytes) : EscapesAreComplete written := by
  rintro before after rfl ⟨scanned, hbefore⟩
  obtain ⟨rest, hrest⟩ := hbefore.of_append hunescapes
  cases hrest with
  | escape hhigh hlow _ => exact ⟨_, _, _, _, _, rfl, hhigh, hlow⟩
  | plain hpercent _ _ => exact (hpercent rfl).elim

/-- The scan: what has been read moves to the front, up to the next place where an escape can
start. -/
theorem unescapes_of_escapesAreComplete {written scanned bytes rest : List UInt8}
    (hcomplete : EscapesAreComplete written) (hscanned : Unescapes scanned bytes)
    (hwritten : written = scanned ++ rest) : ∃ others, Unescapes rest others := by
  match rest with
  | [] => exact ⟨[], .nil⟩
  | b :: rest =>
      by_cases hpercent : b = 0x25
      · subst hpercent
        obtain ⟨high, low, more, first, second, rfl, hhigh, hlow⟩ :=
          hcomplete scanned rest hwritten ⟨bytes, hscanned⟩
        have hmoved : written = (scanned ++ [0x25, high, low]) ++ more := by
          rw [hwritten, List.append_assoc]
          rfl
        obtain ⟨others, hothers⟩ := unescapes_of_escapesAreComplete hcomplete
          (hscanned.append (.escape hhigh hlow .nil)) hmoved
        exact ⟨_, .escape hhigh hlow hothers⟩
      · have hmoved : written = (scanned ++ [b]) ++ rest := by
          rw [hwritten, List.append_assoc]
          rfl
        by_cases hplus : b = 0x2B
        · subst hplus
          obtain ⟨others, hothers⟩ := unescapes_of_escapesAreComplete hcomplete
            (hscanned.append (.space .nil)) hmoved
          exact ⟨_, .space hothers⟩
        · obtain ⟨others, hothers⟩ := unescapes_of_escapesAreComplete hcomplete
            (hscanned.append (.plain hpercent hplus .nil)) hmoved
          exact ⟨_, .plain hpercent hplus hothers⟩
termination_by rest.length

/-- Bytes stand for something exactly if their escapes are complete. -/
theorem exists_unescapes_iff {written : List UInt8} :
    (∃ bytes, Unescapes written bytes) ↔ EscapesAreComplete written :=
  ⟨fun ⟨_, hunescapes⟩ => escapesAreComplete_of_unescapes hunescapes,
    fun hcomplete => unescapes_of_escapesAreComplete hcomplete .nil rfl⟩

/-- Bytes stand for one row of bytes at most. -/
theorem Unescapes.unique {written bytes others : List UInt8} (hbytes : Unescapes written bytes)
    (hothers : Unescapes written others) : bytes = others := by
  rw [← unescapeBytes_eq_some_iff] at hbytes hothers
  exact Option.some_inj.mp (hbytes.symm.trans hothers)

/-! ## Every way to write a text -/

/-- The characters that are a hexadecimal digit with a value. -/
def digitSpellings (value : Nat) : List Char :=
  [Nat.digitChar value, upperHexDigit value]

/-- A byte is written as an escape. -/
inductive WritesByte : UInt8 → List Char → Prop where
  | mk {b : UInt8} {high low : Char} (hhigh : high ∈ digitSpellings (b.toNat / 16))
      (hlow : low ∈ digitSpellings (b.toNat % 16)) : WritesByte b ['%', high, low]

/-- A character is written in one of the ways there are. -/
inductive WritesChar : Char → List Char → Prop where
  /-- As itself, unless it is one of the two that stand for something else. -/
  | itself {c : Char} (hpercent : c ≠ '%') (hplus : c ≠ '+') : WritesChar c [c]
  /-- A space as a plus sign. -/
  | space : WritesChar ' ' ['+']
  /-- As an escape for each byte. -/
  | escaped {c : Char} (escapes : List (List Char))
      (hescapes : List.Forall₂ WritesByte (String.utf8EncodeChar c) escapes) :
      WritesChar c escapes.flatten

/-- A text is written character by character. -/
def Writes (text written : String) : Prop :=
  ∃ pieces, List.Forall₂ WritesChar text.toList pieces ∧ written = String.ofList pieces.flatten

theorem digitChar_of_lt : ∀ value < 16,
    String.utf8EncodeChar (Nat.digitChar value) = [(Nat.digitChar value).toNat.toUInt8] ∧
      HexDigit (Nat.digitChar value).toNat.toUInt8 value := by
  decide +kernel

theorem hexDigit_of_mem_digitSpellings {value : Nat} (hvalue : value < 16) {c : Char}
    (hc : c ∈ digitSpellings value) :
    String.utf8EncodeChar c = [c.toNat.toUInt8] ∧ HexDigit c.toNat.toUInt8 value := by
  obtain rfl | rfl := List.mem_pair.mp hc
  · exact digitChar_of_lt value hvalue
  · exact upperHexDigit_of_lt value hvalue

/-- Pieces that stand for something, each for itself, do so in a row. -/
theorem unescapes_flatten {α : Type} {writes : α → List Char → Prop} {bytesOf : α → List UInt8}
    {items : List α} {pieces : List (List Char)} (hwrites : List.Forall₂ writes items pieces)
    (hpiece : ∀ item piece, writes item piece →
      Unescapes (piece.flatMap String.utf8EncodeChar) (bytesOf item)) :
    Unescapes (pieces.flatten.flatMap String.utf8EncodeChar) (items.flatMap bytesOf) := by
  induction hwrites with
  | nil => exact .nil
  | cons hfirst _ ih =>
      rw [List.flatten_cons, List.flatMap_append, List.flatMap_cons]
      exact (hpiece _ _ hfirst).append ih

theorem WritesByte.unescapes {b : UInt8} {written : List Char} (hwrites : WritesByte b written) :
    Unescapes (written.flatMap String.utf8EncodeChar) [b] := by
  obtain ⟨hhigh, hlow⟩ := hwrites
  have hb := b.toNat_lt
  obtain ⟨hhighBytes, hhighDigit⟩ := hexDigit_of_mem_digitSpellings (by omega) hhigh
  obtain ⟨hlowBytes, hlowDigit⟩ := hexDigit_of_mem_digitSpellings (by omega) hlow
  have hescape := Unescapes.escape hhighDigit hlowDigit .nil
  rw [Nat.div_add_mod, UInt8.ofNat_toNat] at hescape
  rw [List.flatMap_cons, List.flatMap_cons, List.flatMap_singleton, hhighBytes, hlowBytes]
  exact hescape

/-- Bytes without percent and plus signs stand for themselves. -/
theorem unescapes_self {bytes : List UInt8} (hpercent : 0x25 ∉ bytes) (hplus : 0x2B ∉ bytes) :
    Unescapes bytes bytes := by
  induction bytes with
  | nil => exact .nil
  | cons b rest ih =>
      rw [List.mem_cons, not_or] at hpercent hplus
      exact .plain (Ne.symm hpercent.1) (Ne.symm hplus.1) (ih hpercent.2 hplus.2)

/-- No byte of a character other than an ASCII one is that of the ASCII one. -/
theorem notMem_utf8EncodeChar {c ascii : Char} {b : UInt8} (hne : c ≠ ascii) (hsmall : b < 0x80)
    (hbyte : ascii.toNat = b.toNat) : b ∉ String.utf8EncodeChar c := by
  intro hmem
  have hnumber : c.toNat = ascii.toNat := by
    rw [hbyte, Utf8.toNat_eq_of_mem_utf8EncodeChar hmem hsmall]
  exact hne (Char.toNat_inj.mp hnumber)

theorem WritesChar.unescapes {c : Char} {written : List Char} (hwrites : WritesChar c written) :
    Unescapes (written.flatMap String.utf8EncodeChar) (String.utf8EncodeChar c) := by
  cases hwrites with
  | itself hpercent hplus =>
      rw [List.flatMap_singleton]
      exact unescapes_self (notMem_utf8EncodeChar hpercent (by decide) rfl)
        (notMem_utf8EncodeChar hplus (by decide) rfl)
  | space => exact .space .nil
  | escaped escapes hescapes =>
      have hbytes := unescapes_flatten hescapes fun _ _ => WritesByte.unescapes
      rwa [List.flatMap_singleton'] at hbytes

theorem Writes.unescapes {text written : String} (hwrites : Writes text written) :
    Unescapes (Utf8.encode written) (Utf8.encode text) := by
  obtain ⟨pieces, hpieces, rfl⟩ := hwrites
  have htext : Utf8.encode text = text.toList.flatMap String.utf8EncodeChar := by
    rw [← Utf8.encode_ofList, String.ofList_toList]
  rw [Utf8.encode_ofList, htext]
  exact unescapes_flatten hpieces fun _ _ => WritesChar.unescapes

/-! ## Decoding -/

/-- Bytes decode exactly if they encode some text. -/
theorem Utf8.isValidUTF8_iff {bytes : List UInt8} :
    ByteArray.IsValidUTF8 ⟨bytes.toArray⟩ ↔ ∃ text, Utf8.encode text = bytes := by
  constructor
  · intro hvalid
    exact ⟨String.fromUTF8 ⟨bytes.toArray⟩ hvalid, rfl⟩
  · rintro ⟨text, rfl⟩
    exact text.isValidUTF8

theorem queryUnescape_of_incomplete {text : String}
    (hincomplete : ¬ EscapesAreComplete (Utf8.encode text)) :
    queryUnescape text = .error (.argument ("invalid URL escape in " ++ quote text)) := by
  rw [queryUnescape_eq]
  cases hbytes : unescapeBytes (Utf8.encode text) with
  | none => rfl
  | some bytes =>
      exact (hincomplete (escapesAreComplete_of_unescapes (unescapes_of_unescapeBytes hbytes))).elim

theorem queryUnescape_of_notText {text : String} {bytes : List UInt8}
    (hbytes : Unescapes (Utf8.encode text) bytes)
    (hinvalid : ¬ ByteArray.IsValidUTF8 ⟨bytes.toArray⟩) :
    ∃ fault, Utf8.decode bytes = .error fault ∧ queryUnescape text =
      .error (.argument ("invalid URL escape in " ++ quote text ++ ": " ++ fault.message)) := by
  cases hdecode : Utf8.decode bytes with
  | ok decoded =>
      exact (hinvalid (Utf8.isValidUTF8_iff.mpr ⟨decoded, Utf8.decode_eq_ok_iff.mp hdecode⟩)).elim
  | error fault =>
      refine ⟨fault, rfl, ?_⟩
      rw [queryUnescape_eq, unescapeBytes_eq_some_iff.mpr hbytes]
      dsimp only
      rw [hdecode]

theorem queryUnescape_eq_ok_empty_iff {text : String} :
    queryUnescape text = .ok "" ↔ text = "" := by
  rw [queryUnescape_eq_ok_iff]
  constructor
  · intro hunescapes
    exact Utf8.encode_injective (hunescapes.eq_nil_iff.mp rfl)
  · rintro rfl
    exact .nil

theorem exists_queryUnescape_eq_ok_iff {text : String} :
    (∃ decoded, queryUnescape text = .ok decoded) ↔
      EscapesAreComplete (Utf8.encode text) ∧
        ∃ bytes, Unescapes (Utf8.encode text) bytes ∧ ByteArray.IsValidUTF8 ⟨bytes.toArray⟩ := by
  constructor
  · rintro ⟨decoded, hread⟩
    have hunescapes := queryUnescape_eq_ok_iff.mp hread
    exact ⟨escapesAreComplete_of_unescapes hunescapes, _, hunescapes, decoded.isValidUTF8⟩
  · rintro ⟨-, bytes, hbytes, hvalid⟩
    obtain ⟨decoded, rfl⟩ := Utf8.isValidUTF8_iff.mp hvalid
    exact ⟨decoded, queryUnescape_eq_ok_iff.mpr hbytes⟩

/-- **Query decoding is strict and exact.**  It succeeds exactly if all escapes are complete and the
bytes encode a text, it then gives that text and nothing else, and otherwise it names the argument.
However a text is written, it is read back. -/
theorem queryUnescape_strict (text : String) :
    ((∃ decoded, queryUnescape text = .ok decoded) ↔
      EscapesAreComplete (Utf8.encode text) ∧
        ∃ bytes, Unescapes (Utf8.encode text) bytes ∧ ByteArray.IsValidUTF8 ⟨bytes.toArray⟩) ∧
    (∀ bytes others, Unescapes (Utf8.encode text) bytes → Unescapes (Utf8.encode text) others →
      bytes = others) ∧
    (∀ decoded, queryUnescape text = .ok decoded ↔
      Unescapes (Utf8.encode text) (Utf8.encode decoded)) ∧
    (¬ EscapesAreComplete (Utf8.encode text) →
      queryUnescape text = .error (.argument ("invalid URL escape in " ++ quote text))) ∧
    (∀ bytes, Unescapes (Utf8.encode text) bytes → ¬ ByteArray.IsValidUTF8 ⟨bytes.toArray⟩ →
      ∃ fault, Utf8.decode bytes = .error fault ∧ queryUnescape text =
        .error (.argument ("invalid URL escape in " ++ quote text ++ ": " ++ fault.message))) ∧
    (queryUnescape text = .ok "" ↔ text = "") ∧
    ∀ written, Writes text written → queryUnescape written = .ok text := by
  refine ⟨exists_queryUnescape_eq_ok_iff, ?_, ?_, queryUnescape_of_incomplete, ?_,
    queryUnescape_eq_ok_empty_iff, ?_⟩
  · intro bytes others hbytes hothers
    exact hbytes.unique hothers
  · intro decoded
    exact queryUnescape_eq_ok_iff
  · intro bytes hbytes hinvalid
    exact queryUnescape_of_notText hbytes hinvalid
  · intro written hwrites
    exact queryUnescape_eq_ok_iff.mpr hwrites.unescapes

/-- A percent sign and a letter of two bytes, with digits in both cases, next to a plus sign. -/
theorem queryUnescape_strict_letter :
    Writes "%é 2" "%25%c3%A9+2" ∧ queryUnescape "%25%c3%A9+2" = .ok "%é 2" ∧
      ¬ EscapesAreComplete (Utf8.encode "%2%5") ∧
      queryUnescape "%2%5" = .error (.argument ("invalid URL escape in " ++ quote "%2%5")) := by
  have hpercent : WritesChar '%' ['%', '2', '5'] :=
    .escaped [['%', '2', '5']] (.cons (.mk (by decide) (by decide)) .nil)
  have hletter : WritesChar 'é' ['%', 'c', '3', '%', 'A', '9'] :=
    .escaped [['%', 'c', '3'], ['%', 'A', '9']]
      (.cons (.mk (by decide) (by decide)) (.cons (.mk (by decide) (by decide)) .nil))
  have hdigit : WritesChar '2' ['2'] := .itself (by decide) (by decide)
  have hwrites : Writes "%é 2" "%25%c3%A9+2" :=
    ⟨_, .cons hpercent (.cons hletter (.cons .space (.cons hdigit .nil))), rfl⟩
  have hincomplete : ¬ EscapesAreComplete (Utf8.encode "%2%5") := by
    intro hcomplete
    obtain ⟨bytes, hbytes⟩ := exists_unescapes_iff.mpr hcomplete
    have hnone : unescapeBytes (Utf8.encode "%2%5") = none := rfl
    rw [← unescapeBytes_eq_some_iff, hnone] at hbytes
    cases hbytes
  obtain ⟨-, -, -, -, -, -, hback⟩ := queryUnescape_strict "%é 2"
  obtain ⟨-, -, -, hrefused, -⟩ := queryUnescape_strict "%2%5"
  exact ⟨hwrites, hback _ hwrites, hincomplete, hrefused hincomplete⟩

end ImageChain
