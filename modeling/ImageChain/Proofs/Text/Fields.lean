import ImageChain.Text.Fields

/-!
# Cutting a text at a separator

`splitChars` is the library's `List.splitOn`, so what is known about that holds
here: a text without the separator is its own only field, the fields of two
texts with a separator between them are the fields of both, and cutting undoes
joining as long as no piece has the separator in it.
-/

namespace ImageChain

theorem splitChars_eq_splitOn (separator : Char) (text : List Char) :
    splitChars separator text = text.splitOn separator := by
  induction text with
  | nil => rfl
  | cons c rest ih =>
      rw [List.splitOn_cons_eq_if_modifyHead, ← ih]
      by_cases hc : c = separator
      · simp [splitChars, hc]
      · simp only [splitChars, if_neg hc, beq_eq_false_iff_ne.mpr hc]
        -- a cut text has at least one field, so there is one to put the character on
        have hne : splitChars separator rest ≠ [] := by
          rw [ih]
          exact List.splitOn_ne_nil _ _
        cases hrest : splitChars separator rest with
        | nil => exact absurd hrest hne
        | cons first others => simp

theorem notMem_of_mem_splitChars {separator : Char} {text field : List Char}
    (hfield : field ∈ splitChars separator text) : separator ∉ field := by
  induction text generalizing field with
  | nil => simp_all [splitChars]
  | cons c rest ih =>
      by_cases hc : c = separator
      · rw [splitChars, if_pos hc] at hfield
        rcases List.mem_cons.mp hfield with rfl | hfield
        · exact List.not_mem_nil
        · exact ih hfield
      · rw [splitChars, if_neg hc] at hfield
        cases hrest : splitChars separator rest with
        | nil =>
            rw [hrest, List.mem_singleton] at hfield
            rw [hfield, List.mem_singleton]
            exact fun h => hc h.symm
        | cons first others =>
            rw [hrest] at hfield ih
            rcases List.mem_cons.mp hfield with rfl | hfield
            · rw [List.mem_cons, not_or]
              exact ⟨fun h => hc h.symm, ih List.mem_cons_self⟩
            · exact ih (List.mem_cons_of_mem _ hfield)

theorem subset_of_mem_splitChars {separator : Char} {text field : List Char}
    (hfield : field ∈ splitChars separator text) : field ⊆ text := by
  induction text generalizing field with
  | nil =>
      rw [List.mem_singleton.mp hfield]
      exact List.nil_subset _
  | cons c rest ih =>
      by_cases hc : c = separator
      · rw [splitChars, if_pos hc] at hfield
        rcases List.mem_cons.mp hfield with rfl | hfield
        · exact List.nil_subset _
        · exact List.subset_cons_of_subset c (ih hfield)
      · rw [splitChars, if_neg hc] at hfield
        cases hrest : splitChars separator rest with
        | nil =>
            rw [hrest, List.mem_singleton] at hfield
            rw [hfield]
            exact List.cons_subset_cons c (List.nil_subset _)
        | cons first others =>
            rw [hrest] at hfield ih
            rcases List.mem_cons.mp hfield with rfl | hfield
            · exact List.cons_subset_cons c (ih List.mem_cons_self)
            · exact List.subset_cons_of_subset c (ih (List.mem_cons_of_mem _ hfield))

theorem fields_eq_splitOn (separator : Char) (text : String) :
    fields separator text = (text.toList.splitOn separator).map String.ofList := by
  rw [fields, splitChars_eq_splitOn]

theorem fields_ne_nil (separator : Char) (text : String) : fields separator text ≠ [] := by
  rw [fields_eq_splitOn]
  simp [List.splitOn_ne_nil]

theorem notMem_of_mem_fields {separator : Char} {text field : String}
    (hfield : field ∈ fields separator text) : separator ∉ field.toList := by
  obtain ⟨characters, hmem, rfl⟩ := List.mem_map.mp hfield
  rw [String.toList_ofList]
  exact notMem_of_mem_splitChars hmem

/-- A field has no characters but those of the text. -/
theorem mem_of_mem_fields {separator c : Char} {text field : String}
    (hfield : field ∈ fields separator text) (hc : c ∈ field.toList) : c ∈ text.toList := by
  obtain ⟨characters, hmem, rfl⟩ := List.mem_map.mp hfield
  rw [String.toList_ofList] at hc
  exact subset_of_mem_splitChars hmem hc

theorem fields_of_notMem {separator : Char} {text : String} (hmem : separator ∉ text.toList) :
    fields separator text = [text] := by
  rw [fields_eq_splitOn, List.splitOn_eq_singleton hmem]
  simp

theorem fields_append (separator : Char) (first rest : String) :
    fields separator (first ++ separator.toString ++ rest) =
      fields separator first ++ fields separator rest := by
  have htext : (first ++ separator.toString ++ rest).toList =
      first.toList ++ separator :: rest.toList := by
    simp [String.toList_append, Char.toString]
  rw [fields_eq_splitOn, htext, List.splitOn_append_cons_self, List.map_append,
    ← fields_eq_splitOn, ← fields_eq_splitOn]

/-! ## Joining -/

theorem fields_intercalate {separator : Char} {pieces : List String} (hne : pieces ≠ [])
    (hpieces : ∀ piece ∈ pieces, separator ∉ piece.toList) :
    fields separator (separator.toString.intercalate pieces) = pieces := by
  have hlists : ∀ piece ∈ pieces.map String.toList, separator ∉ piece := by
    simpa using hpieces
  have htext : (separator.toString.intercalate pieces).toList =
      [separator].intercalate (pieces.map String.toList) := by
    rw [String.toList_intercalate, Char.toString, String.toList_singleton]
  rw [fields_eq_splitOn, htext, List.splitOn_intercalate separator hlists (by simpa using hne)]
  simp

theorem mem_intercalate {separator : String} {pieces : List String} {c : Char}
    (hc : c ∈ (separator.intercalate pieces).toList) :
    c ∈ separator.toList ∨ ∃ piece ∈ pieces, c ∈ piece.toList := by
  induction pieces with
  | nil => simp at hc
  | cons piece rest ih =>
      cases rest with
      | nil =>
          rw [String.intercalate_singleton] at hc
          exact Or.inr ⟨piece, List.mem_singleton_self _, hc⟩
      | cons next others =>
          rw [String.intercalate_cons_cons, String.toList_append, String.toList_append,
            List.mem_append, List.mem_append] at hc
          rcases hc with (hc | hc) | hc
          · exact Or.inr ⟨piece, List.mem_cons_self, hc⟩
          · exact Or.inl hc
          · rcases ih hc with hseparator | ⟨found, hfound, hc⟩
            · exact Or.inl hseparator
            · exact Or.inr ⟨found, List.mem_cons_of_mem _ hfound, hc⟩

end ImageChain
