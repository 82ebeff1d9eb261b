import Mathlib.Data.List.Forall2

/-!
# Actions in a row

Actions that may fail are done one after another, up to the first one that
fails.  So a row of them gives results if each one gives one, and else the
failure of the first one that fails, and nothing is known of those after it.
-/

namespace ImageChain

variable {ε α β : Type} {f : α → Except ε β}

theorem bind_eq_ok_iff {γ : Type} {action : Except ε α} {next : α → Except ε γ} {result : γ} :
    action >>= next = .ok result ↔ ∃ value, action = .ok value ∧ next value = .ok result := by
  cases action <;> simp [bind, Except.bind]

theorem mapM_eq_ok_iff {items : List α} {results : List β} :
    items.mapM f = .ok results ↔
      List.Forall₂ (fun item result => f item = .ok result) items results := by
  induction items generalizing results with
  | nil =>
      rw [List.mapM_nil, List.forall₂_nil_left_iff]
      exact ⟨fun heq => (Except.ok.inj heq).symm, fun heq => congrArg Except.ok heq.symm⟩
  | cons item rest ih =>
      rw [List.mapM_cons, List.forall₂_cons_left_iff, bind_eq_ok_iff]
      constructor
      · rintro ⟨first, hfirst, hrest⟩
        obtain ⟨others, hothers, heq⟩ := bind_eq_ok_iff.mp hrest
        cases heq
        exact ⟨first, others, hfirst, ih.mp hothers, rfl⟩
      · rintro ⟨first, others, hfirst, hothers, rfl⟩
        exact ⟨first, hfirst, bind_eq_ok_iff.mpr ⟨others, ih.mpr hothers, rfl⟩⟩

theorem mapM_append_of_error {before after : List α} {item : α} {failure : ε}
    (hbefore : ∀ earlier ∈ before, ∃ result, f earlier = .ok result)
    (hitem : f item = .error failure) : (before ++ item :: after).mapM f = .error failure := by
  induction before with
  | nil =>
      rw [List.nil_append, List.mapM_cons, hitem]
      rfl
  | cons earlier rest ih =>
      obtain ⟨⟨result, hresult⟩, hrest⟩ := List.forall_mem_cons.mp hbefore
      rw [List.cons_append, List.mapM_cons, hresult, ih hrest]
      rfl

/-- The failure of a row of actions is that of the first one that fails. -/
theorem mapM_eq_error_iff {items : List α} {failure : ε} :
    items.mapM f = .error failure ↔
      ∃ before item after, items = before ++ item :: after ∧
        (∀ earlier ∈ before, ∃ result, f earlier = .ok result) ∧ f item = .error failure := by
  constructor
  · intro hfailure
    induction items with
    | nil => cases hfailure
    | cons item rest ih =>
        rw [List.mapM_cons] at hfailure
        cases hitem : f item with
        | error found =>
            rw [hitem] at hfailure
            cases hfailure
            exact ⟨[], item, rest, rfl, List.forall_mem_nil _, hitem⟩
        | ok first =>
            cases hrest : rest.mapM f with
            | ok others =>
                rw [hitem, hrest] at hfailure
                cases hfailure
            | error found =>
                rw [hitem, hrest] at hfailure
                cases hfailure
                obtain ⟨before, last, after, rfl, hbefore, hlast⟩ := ih hrest
                refine ⟨item :: before, last, after, rfl, ?_, hlast⟩
                exact List.forall_mem_cons.mpr ⟨⟨first, hitem⟩, hbefore⟩
  · rintro ⟨before, item, after, rfl, hbefore, hitem⟩
    exact mapM_append_of_error hbefore hitem

theorem exists_forall₂_iff {R : α → β → Prop} {items : List α} :
    (∃ results, List.Forall₂ R items results) ↔ ∀ item ∈ items, ∃ result, R item result := by
  induction items with
  | nil => exact ⟨fun _ => List.forall_mem_nil _, fun _ => ⟨[], .nil⟩⟩
  | cons item rest ih =>
      rw [List.forall_mem_cons, ← ih]
      constructor
      · rintro ⟨results, hresults⟩
        obtain ⟨result, others, hresult, hothers, rfl⟩ := List.forall₂_cons_left_iff.mp hresults
        exact ⟨⟨result, hresult⟩, others, hothers⟩
      · rintro ⟨⟨result, hresult⟩, others, hothers⟩
        exact ⟨result :: others, .cons hresult hothers⟩

end ImageChain
