import ImageChain.Text.Blank
import Mathlib.Data.List.DropRight

/-!
# What is left of a text without the blanks around it

Trimming drops blank characters from both ends of a text, one end after the
other.  `Trims` says the same of the whole text at once: it is what is left, with
blank characters in front and behind, and what is left has no blank end.  There
is exactly one such part, so this may stand in place of the two passes.
-/

namespace ImageChain

/-- No printed ASCII character is blank. -/
theorem isBlank_of_printed {c : Char} (hleast : 0x20 < c.toNat) (hgreatest : c.toNat < 0x7F) :
    isBlank c = false := by
  have hspans : ∀ span ∈ blanks, span.last ≤ 0x20 ∨ 0x7F ≤ span.first := by decide
  rw [isBlank, Unicode.inTable, List.any_eq_false]
  intro span hmem
  have hspan := hspans span hmem
  rw [Unicode.Span.covers, Bool.and_eq_true, decide_eq_true_eq, decide_eq_true_eq]
  omega

/-! ## Trimming -/

/-- A part of a text is left when the blank characters around it are dropped.  It may have blank
characters inside, but not at its ends, and it is empty if all characters are blank. -/
inductive Trims : List Char → List Char → Prop where
  | mk {before name after : List Char} (hbefore : ∀ c ∈ before, isBlank c)
      (hafter : ∀ c ∈ after, isBlank c) (hfirst : ∀ c ∈ name.head?, isBlank c = false)
      (hlast : ∀ c ∈ name.getLast?, isBlank c = false) : Trims (before ++ name ++ after) name

theorem trimChars_eq_rdropWhile (text : List Char) :
    trimChars text = (text.dropWhile isBlank).rdropWhile isBlank :=
  rfl

theorem trims_trimChars (text : List Char) : Trims text (trimChars text) := by
  have hfront := List.takeWhile_append_dropWhile (p := isBlank) (l := text)
  have hback := List.rdropWhile_append_rtakeWhile (p := isBlank)
    (l := text.dropWhile isBlank)
  rw [← trimChars_eq_rdropWhile] at hback
  rw [← hback, ← List.append_assoc] at hfront
  have htrims : Trims (text.takeWhile isBlank ++ trimChars text ++
      (text.dropWhile isBlank).rtakeWhile isBlank) (trimChars text) := by
    refine .mk (fun c hc => List.mem_takeWhile_imp hc) (fun c hc => List.mem_rtakeWhile_imp hc)
      ?first ?last
    case first =>
      intro c hc
      -- what is left begins where the first pass has stopped
      obtain ⟨rest, hrest⟩ := List.head?_eq_some_iff.mp hc
      have hdropped : (text.dropWhile isBlank).head? = some c := by
        rw [← hback, hrest]
        rfl
      have hstopped := List.head?_dropWhile_not isBlank text
      rwa [hdropped] at hstopped
    case last =>
      intro c hc
      obtain ⟨hne, rfl⟩ := List.mem_getLast?_eq_getLast hc
      have hstopped := List.rdropWhile_last_not isBlank (text.dropWhile isBlank) hne
      rwa [Bool.not_eq_true] at hstopped
  rwa [hfront] at htrims

theorem Trims.eq_trimChars {text name : List Char} (htrims : Trims text name) :
    trimChars text = name := by
  obtain @⟨before, _, after, hbefore, hafter, hfirst, hlast⟩ := htrims
  rw [trimChars_eq_rdropWhile, List.append_assoc, List.dropWhile_append_of_pos hbefore]
  cases name with
  | nil => rw [List.nil_append, List.dropWhile_eq_nil_iff.mpr hafter, List.rdropWhile_nil]
  | cons c rest =>
      have hc : ¬ isBlank c = true := by simp [hfirst c rfl]
      have hend : (c :: rest).rdropWhile isBlank = c :: rest := by
        refine List.rdropWhile_eq_self_iff.mpr fun hne => ?_
        simp [hlast _ (List.getLast?_eq_some_getLast hne)]
      have hafter : ∀ c ∈ after.reverse, isBlank c = true := by simpa using hafter
      rw [List.cons_append, List.dropWhile_cons_of_neg hc, ← List.cons_append, List.rdropWhile,
        List.reverse_append, List.dropWhile_append_of_pos hafter]
      exact hend

theorem trims_iff {text name : List Char} : Trims text name ↔ trimChars text = name := by
  constructor
  · exact Trims.eq_trimChars
  · rintro rfl
    exact trims_trimChars text

end ImageChain
