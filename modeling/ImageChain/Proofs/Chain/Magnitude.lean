import ImageChain.Proofs.Chain.Grammar

/-!
# Numbers of any length

An argument that is a row of digits passes through a signed number of 64 bits
before it is brought into the range of 32 bits.  The second step keeps the order
of numbers and leaves the large ones large.  The first one has no number for a
row of digits that is too long, and such a row counts as one that is no number:
as zero.

So the numbers below 2⁶³ are taken in order, and a side past the limit is
refused; from 2⁶³ on, every number is taken for the least one.
-/

namespace ImageChain.Chain

theorem numberArgument_of_isDigits {text : String} (hdigits : IsDigits text.toList) :
    numberArgument (some text) = saturated (takenFor (decimalValue text.toList)) :=
  numberArgument_of_lenient (lenient_of_isDigits hdigits)

theorem numberArgument_of_le {text : String} (hdigits : IsDigits text.toList)
    (hvalue : 2 ^ 63 ≤ decimalValue text.toList) : numberArgument (some text) = 0 := by
  rw [numberArgument_of_isDigits hdigits, takenFor, if_neg (Nat.not_lt.mpr hvalue)]
  rfl

/-! ## Order -/

/-- The greater one of two numbers is not taken for the smaller one. -/
def StaysInOrder (first second : Nat) : Prop :=
  second < 2 ^ 63 ∨ 2 ^ 63 ≤ first ∨ first = 0

theorem saturated_takenFor_le_iff {first second : Nat} (hle : first ≤ second) :
    saturated (takenFor first) ≤ saturated (takenFor second) ↔ StaysInOrder first second := by
  have hsize : UInt32.size = 2 ^ 32 := rfl
  -- saturation keeps the order, so it is lost where only the second one is taken for zero
  unfold saturated takenFor StaysInOrder
  split <;> split <;> omega

theorem numberArgument_lt (argument : Option String) : numberArgument argument < UInt32.size := by
  obtain ⟨value, hlenient⟩ := exists_lenient argument
  rw [numberArgument_of_lenient hlenient]
  exact saturated_lt value

theorem toNat_qualityArgument (address quality : String) (others : List String) :
    (qualityArgument (address :: quality :: others)).toNat = numberArgument (some quality) :=
  UInt32.toNat_ofNat_of_lt (numberArgument_lt (some quality))

/-! ## Sides of a box -/

/-- Of a side only its number counts. -/
theorem parseWords_congr_side {σ : Type} (registry : Registry σ) (accept : String)
    (mode : ResizeMode) {side substitute : String}
    (hsame : numberArgument (some side) = numberArgument (some substitute)) (other : String) :
    parseWords registry accept mode.taskWord [side, other] =
        parseWords registry accept mode.taskWord [substitute, other] ∧
      parseWords registry accept mode.taskWord [other, side] =
        parseWords registry accept mode.taskWord [other, substitute] := by
  simp only [parseWords_resize, parseResize, parseBox, hsame, and_self]

/-! ## The main statement -/

/-- **Digits are taken in the order of their values as long as these are below 2⁶³.**  A side past
the limit is then refused.  From 2⁶³ on a side is taken for zero, so it depends on the other one
whether the box is refused. -/
theorem digits_in_order {σ : Type} (registry : Registry σ) (accept : String) :
    (∀ first second : String, IsDigits first.toList → IsDigits second.toList →
      decimalValue first.toList ≤ decimalValue second.toList →
      (numberArgument (some first) ≤ numberArgument (some second) ↔
        StaysInOrder (decimalValue first.toList) (decimalValue second.toList)) ∧
      ∀ address others, qualityArgument (address :: first :: others) ≤
          qualityArgument (address :: second :: others) ↔
        StaysInOrder (decimalValue first.toList) (decimalValue second.toList)) ∧
    (∀ chain before after mode width height, ∀ side ∈ [width, height],
      HasTask chain before [ResizeMode.taskWord mode, width, height] after →
      (∀ earlier ∈ before, ∃ step, parseTask registry accept earlier = .ok step) →
      IsDigits side.toList → 16384 < decimalValue side.toList →
      decimalValue side.toList < 2 ^ 63 →
      ∃ reason, parse registry accept chain = .error (.argument reason)) ∧
    (∀ side : String, IsDigits side.toList → 2 ^ 63 ≤ decimalValue side.toList →
      ∀ mode other,
        parseWords registry accept (ResizeMode.taskWord mode) [side, other] =
            parseWords registry accept mode.taskWord ["0", other] ∧
          parseWords registry accept mode.taskWord [other, side] =
            parseWords registry accept mode.taskWord [other, "0"]) := by
  refine ⟨?order, ?refused, ?zero⟩
  case order =>
    intro first second hfirst hsecond hle
    have horder : numberArgument (some first) ≤ numberArgument (some second) ↔
        StaysInOrder (decimalValue first.toList) (decimalValue second.toList) := by
      rw [numberArgument_of_isDigits hfirst, numberArgument_of_isDigits hsecond]
      exact saturated_takenFor_le_iff hle
    refine ⟨horder, fun address others => ?_⟩
    rw [UInt32.le_iff_toNat_le, toNat_qualityArgument, toNat_qualityArgument, horder]
  case refused =>
    intro chain before after mode width height side hside htask hbefore hdigits hlimit hvalue
    have hlenient := lenient_of_isDigits hdigits
    rw [takenFor, if_pos hvalue] at hlenient
    obtain ⟨reason, hrefused⟩ :=
      parseWords_of_large_side registry accept mode hside hlenient hlimit
    exact ⟨reason, htask.parse_eq_error hbefore hrefused⟩
  case zero =>
    intro side hdigits hvalue mode other
    have hzero : numberArgument (some side) = numberArgument (some "0") :=
      numberArgument_of_le hdigits hvalue
    exact parseWords_congr_side registry accept mode hzero other

/-- Zeros in front, a side past the limit next to one that is no number, and a side of 2⁶³. -/
theorem digits_in_order_leading_zeros :
    numberArgument (some "007") ≤ numberArgument (some "16385") ∧
      (∃ reason, parse (.empty : Registry Nat) "" "fillResize/1/1|fitResize/x/16385" =
        .error (.argument reason)) ∧
      parseWords (.empty : Registry Nat) "" ResizeMode.fit.taskWord ["9223372036854775808", "10"] =
        parseWords .empty "" ResizeMode.fit.taskWord ["0", "10"] := by
  obtain ⟨horder, hrefused, hzero⟩ := digits_in_order (.empty : Registry Nat) ""
  have htask : HasTask "fillResize/1/1|fitResize/x/16385" ["fillResize/1/1"]
      [ResizeMode.fit.taskWord, "x", "16385"] [] := ⟨"fitResize/x/16385", rfl, rfl⟩
  have hbefore : ∀ earlier ∈ ["fillResize/1/1"],
      ∃ step, parseTask (.empty : Registry Nat) "" earlier = .ok step := by
    intro earlier hmem
    rw [List.mem_singleton.mp hmem]
    exact ⟨_, rfl⟩
  have hseven : IsDigits "007".toList := by simp [IsDigits]
  have hside : IsDigits "16385".toList := by simp [IsDigits]
  have hlong : IsDigits "9223372036854775808".toList := by simp [IsDigits]
  refine ⟨?_, ?_, ?_⟩
  · exact (horder "007" "16385" hseven hside (by decide)).1.mpr (Or.inl (by decide))
  · exact hrefused _ _ _ .fit "x" "16385" "16385" (by decide) htask hbefore hside (by decide)
      (by decide)
  · exact (hzero "9223372036854775808" hlong (by decide) .fit "10").1

/-- The number after the greatest one of 64 bits, as an argument and as a side that is accepted. -/
theorem digits_out_of_order :
    IsDigits "9223372036854775807".toList ∧ IsDigits "9223372036854775808".toList ∧
      decimalValue "9223372036854775807".toList ≤ decimalValue "9223372036854775808".toList ∧
      ¬ numberArgument (some "9223372036854775807") ≤
        numberArgument (some "9223372036854775808") ∧
      parse (.empty : Registry Nat) "" "fitResize/9223372036854775808/10" =
        .ok [.resize ⟨.fit, ⟨0, 10⟩⟩] :=
  ⟨by simp [IsDigits], by simp [IsDigits], by decide, by decide, rfl⟩

end ImageChain.Chain
