import ImageChain.Registry

/-!
# What a registry answers

A registry is known by what `find?` answers, and the two lemmas on `insert` and
`erase` say how a change shows there: the name that was changed answers anew,
every other name answers as before.  Nothing else about the list of entries is
used elsewhere.
-/

namespace ImageChain.Registry

variable {σ : Type}

@[simp] theorem find?_empty (name : String) : (empty : Registry σ).find? name = none := rfl

/-- `List.lookup_cons` with an equation of keys instead of a test. -/
theorem lookup_cons_eq_ite {κ : Type} [DecidableEq κ] [BEq κ] [LawfulBEq κ] (name key : κ)
    (value : σ) (rest : List (κ × σ)) :
    ((key, value) :: rest).lookup name = if name = key then some value else rest.lookup name := by
  rw [List.lookup_cons]
  by_cases h : name = key
  · rw [if_pos h, beq_iff_eq.mpr h]
  · rw [if_neg h, beq_eq_false_iff_ne.mpr h]

theorem lookup_setValue (name other : String) (value : σ) (entries : List (String × σ)) :
    (setValue name value entries).lookup other =
      if other = name then some value else entries.lookup other := by
  induction entries with
  | nil => rw [setValue, lookup_cons_eq_ite]
  | cons entry rest ih =>
      obtain ⟨key, old⟩ := entry
      by_cases hkey : key = name
      · rw [setValue, if_pos hkey, lookup_cons_eq_ite, lookup_cons_eq_ite, hkey]
        split <;> rfl
      · rw [setValue, if_neg hkey, lookup_cons_eq_ite, lookup_cons_eq_ite, ih]
        by_cases h : other = key
        · have hname : other ≠ name := h ▸ hkey
          rw [if_pos h, if_neg hname, if_pos h]
        · rw [if_neg h, if_neg h]

theorem lookup_filter_ne (name other : String) (entries : List (String × σ)) :
    (entries.filter fun entry => entry.1 != name).lookup other =
      if other = name then none else entries.lookup other := by
  induction entries with
  | nil => simp
  | cons entry rest ih =>
      obtain ⟨key, value⟩ := entry
      by_cases hkey : key = name
      · rw [List.filter_cons_of_neg (by simp [hkey]), ih, lookup_cons_eq_ite, hkey]
        split <;> rfl
      · rw [List.filter_cons_of_pos (by simp [hkey]), lookup_cons_eq_ite, lookup_cons_eq_ite, ih]
        by_cases h : other = key
        · have hname : other ≠ name := h ▸ hkey
          rw [if_pos h, if_neg hname, if_pos h]
        · rw [if_neg h, if_neg h]

theorem mem_iff_lookup {entries : List (String × σ)} (hdistinct : (entries.map Prod.fst).Nodup)
    {name : String} {value : σ} : (name, value) ∈ entries ↔ entries.lookup name = some value := by
  induction entries with
  | nil => simp
  | cons entry rest ih =>
      obtain ⟨key, first⟩ := entry
      obtain ⟨hkey, hrest⟩ := List.nodup_cons.mp hdistinct
      rw [List.mem_cons, lookup_cons_eq_ite, Prod.mk.injEq, ih hrest]
      by_cases hname : name = key
      · -- the first entry is the only one under its name
        have hnone : ¬ rest.lookup name = some value := fun hfound =>
          hkey (hname ▸ List.mem_map.mpr ⟨_, (ih hrest).mpr hfound, rfl⟩)
        rw [if_pos hname, Option.some.injEq, or_iff_left hnone, and_iff_right hname, eq_comm]
      · rw [if_neg hname, or_iff_right fun hsame => hname hsame.1]

theorem mem_entries_iff {registry : Registry σ} {name : String} {value : σ} :
    (name, value) ∈ registry.entries ↔ registry.find? name = some value :=
  mem_iff_lookup registry.distinct

theorem find?_insert (registry : Registry σ) (name other : String) (value : σ) :
    (registry.insert name value).find? other =
      if other = name then some value else registry.find? other :=
  lookup_setValue name other value registry.entries

/-- A new name takes nothing away. -/
theorem find?_insert_of_new {registry : Registry σ} {name other : String} {old value : σ}
    (hnew : registry.find? name = none) (hold : registry.find? other = some old) :
    (registry.insert name value).find? other = some old := by
  rw [find?_insert]
  split
  · next h => rw [h, hnew] at hold; cases hold
  · exact hold

theorem find?_erase (registry : Registry σ) (name other : String) :
    (registry.erase name).find? other =
      if other = name then none else registry.find? other :=
  lookup_filter_ne name other registry.entries

/-- A registry that answers nothing is the one without any name. -/
theorem eq_empty_of_find? {registry : Registry σ}
    (hnone : ∀ name, registry.find? name = none) : registry = empty := by
  obtain ⟨entries, distinct⟩ := registry
  cases entries with
  | nil => rfl
  | cons entry rest =>
      have hfirst := hnone entry.1
      rw [find?, lookup_cons_eq_ite, if_pos rfl] at hfirst
      cases hfirst

end ImageChain.Registry
