import Mathlib.Data.List.Infix
import ImageChain.Proofs.Text.Blank
import ImageChain.Proofs.Text.Fields

/-!
# Texts inside of texts

A text that occurs in another one may lie across the borders of its parts.  It
does not if it has no character that stands at the border: a text without the
separator occurs in a field or not at all, and a text without blanks occurs in
what trimming leaves or not at all.
-/

namespace ImageChain

theorem not_infix_of_disjoint {needle text : List Char} (hne : needle ≠ [])
    (hdisjoint : needle.Disjoint text) : ¬ needle <:+: text := by
  intro hinfix
  obtain ⟨c, hc⟩ := List.exists_mem_of_ne_nil needle hne
  have hmem : c ∈ text := hinfix.subset hc
  exact hdisjoint hc hmem

/-- A text without the character at the border of two others does not lie across it. -/
theorem infix_append_iff_of_border {needle first rest : List Char}
    (hborder : (∀ c ∈ first.getLast?, c ∉ needle) ∨ ∀ c ∈ rest.head?, c ∉ needle) :
    needle <:+: first ++ rest ↔ needle <:+: first ∨ needle <:+: rest := by
  rw [List.infix_append_iff_ne_nil, ← or_assoc, or_iff_left]
  -- across the border, it has the last character of one text and the first of the other
  rintro ⟨front, back, hfront, hback, rfl, ⟨earlier, rfl⟩, ⟨later, rfl⟩⟩
  rcases hborder with hlast | hhead
  · have hmem : front.getLast hfront ∈ (earlier ++ front).getLast? := by
      simp [hfront, List.getLast?_eq_some_getLast]
    exact hlast _ hmem (List.mem_append_left back (List.getLast_mem hfront))
  · have hmem : back.head hback ∈ (back ++ later).head? := by
      simp [hback, List.head?_eq_some_head]
    exact hhead _ hmem (List.mem_append_right front (List.head_mem hback))

/-! ## Fields -/

theorem infix_intercalate_iff {separator : Char} {needle : List Char} (hne : needle ≠ [])
    (hseparator : separator ∉ needle) (pieces : List (List Char)) :
    needle <:+: [separator].intercalate pieces ↔ ∃ piece ∈ pieces, needle <:+: piece := by
  have hnot : ¬ needle <:+: [separator] := by
    refine not_infix_of_disjoint hne fun c hc hmem => hseparator ?_
    rwa [List.mem_singleton.mp hmem] at hc
  have hlast : ∀ c ∈ [separator].getLast?, c ∉ needle := by
    rintro c ⟨rfl⟩
    exact hseparator
  have hhead (others : List Char) : ∀ c ∈ ([separator] ++ others).head?, c ∉ needle := by
    rintro c ⟨rfl⟩
    exact hseparator
  induction pieces with
  | nil => simpa using hne
  | cons piece rest ih =>
      cases rest with
      | nil => simp
      | cons next others =>
          -- a separator is a border on both of its sides
          rw [List.intercalate_cons_cons, List.append_assoc,
            infix_append_iff_of_border (Or.inr (hhead _)),
            infix_append_iff_of_border (Or.inl hlast), or_iff_right hnot,
            List.exists_mem_cons_iff]
          exact or_congr_right ih

/-- A text without the separator occurs in a text if it occurs in one of the fields. -/
theorem infix_iff_exists_mem_splitChars {separator : Char} {needle : List Char} (hne : needle ≠ [])
    (hseparator : separator ∉ needle) (text : List Char) :
    needle <:+: text ↔ ∃ field ∈ splitChars separator text, needle <:+: field := by
  rw [← infix_intercalate_iff hne hseparator, splitChars_eq_splitOn,
    List.intercalate_splitOn separator]

/-! ## Blanks -/

theorem Trims.infix_iff {needle text name : List Char} (htrims : Trims text name)
    (hne : needle ≠ []) (hneedle : ∀ c ∈ needle, isBlank c = false) :
    needle <:+: text ↔ needle <:+: name := by
  obtain @⟨before, _, after, hbefore, hafter, -, -⟩ := htrims
  have hdisjoint {blank : List Char} (hblank : ∀ c ∈ blank, isBlank c = true) :
      needle.Disjoint blank := by
    intro c hc hmem
    have hboth := (hneedle c hc).symm.trans (hblank c hmem)
    cases hboth
  have hfront : ∀ c ∈ before.getLast?, c ∉ needle := fun c hc hmem =>
    hdisjoint hbefore hmem (List.mem_of_getLast? hc)
  have hback : ∀ c ∈ after.head?, c ∉ needle := fun c hc hmem =>
    hdisjoint hafter hmem (List.mem_of_head? hc)
  rw [infix_append_iff_of_border (Or.inr hback), infix_append_iff_of_border (Or.inl hfront),
    or_iff_left (not_infix_of_disjoint hne (hdisjoint hafter)),
    or_iff_right (not_infix_of_disjoint hne (hdisjoint hbefore))]

end ImageChain
