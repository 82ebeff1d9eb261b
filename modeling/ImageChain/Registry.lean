import ImageChain.Failure

/-!
# Registries

A registry holds values under names, one value a name.  Registering a name again replaces its value.
-/

namespace ImageChain

/-- Values under distinct names, in the order in which the names were first registered. -/
structure Registry (σ : Type) where
  /-- The names and their values. -/
  entries : List (String × σ)
  /-- No name occurs twice. -/
  distinct : (entries.map Prod.fst).Nodup

namespace Registry

variable {σ : Type}

/-- The registry without any name. -/
def empty : Registry σ := ⟨[], List.nodup_nil⟩

/-- The registered names. -/
def names (registry : Registry σ) : List String :=
  registry.entries.map Prod.fst

/-- The number of registered names. -/
def size (registry : Registry σ) : Nat :=
  registry.entries.length

/-- The value of a name. -/
def find? (registry : Registry σ) (name : String) : Option σ :=
  registry.entries.lookup name

/-- The value of a name that has to be registered. -/
def lookup (registry : Registry σ) (name : String) : Except Failure σ :=
  match registry.find? name with
  | some value => .ok value
  | none => .error (.notFound name)

/-- The registry without a name. -/
def erase (registry : Registry σ) (name : String) : Registry σ where
  entries := registry.entries.filter fun entry => entry.1 != name
  distinct := List.Nodup.sublist (List.Sublist.map _ List.filter_sublist) registry.distinct

/-- The entries with another value for a name that may be among them. -/
def setValue (name : String) (value : σ) : List (String × σ) → List (String × σ)
  | [] => [(name, value)]
  | entry :: rest =>
    if entry.1 = name then (name, value) :: rest else entry :: setValue name value rest

/-- The names after a value has been set: a new name comes last. -/
theorem map_fst_setValue (name : String) (value : σ) (entries : List (String × σ)) :
    (setValue name value entries).map Prod.fst =
      if name ∈ entries.map Prod.fst then entries.map Prod.fst
      else entries.map Prod.fst ++ [name] := by
  induction entries with
  | nil => simp [setValue]
  | cons entry rest ih =>
    by_cases h : entry.1 = name
    · simp [setValue, h]
    · have h' : name ≠ entry.1 := fun e => h e.symm
      simp only [setValue, if_neg h, List.map_cons, ih, List.mem_cons, h', false_or]
      split <;> simp

/-- The registry with a value for a name, which may have had another one. -/
def insert (registry : Registry σ) (name : String) (value : σ) : Registry σ where
  entries := setValue name value registry.entries
  distinct := by
    rw [map_fst_setValue]
    split
    · exact registry.distinct
    · next h =>
      refine List.nodup_append.2 ⟨registry.distinct, by simp, ?_⟩
      intro a ha b hb hab
      simp only [List.mem_singleton] at hb
      exact h (hb ▸ hab ▸ ha)

/-- Registers a value under a name; the result also holds the value that was there before. -/
def register (registry : Registry σ) (name : String) (value : σ) : Option σ × Registry σ :=
  (registry.find? name, registry.insert name value)

/-- Removes a name; the result also holds its value. -/
def remove (registry : Registry σ) (name : String) : Option σ × Registry σ :=
  (registry.find? name, registry.erase name)

/-- Visits every entry that is there at the start, in order.  A visit may change the registry, which
has no effect on the entries that are still to be visited. -/
def enumerate {m : Type → Type} [Monad m] (visit : String → σ → StateT (Registry σ) m Unit) :
    StateT (Registry σ) m Unit := do
  let snapshot := (← get).entries
  snapshot.forM fun entry => visit entry.1 entry.2

/-- Closes the value of every name once.  A failure does not keep the other values from being
closed. -/
def closeAll {m : Type → Type} [Monad m] (close : σ → m (Except Failure Unit))
    (registry : Registry σ) : m Unit :=
  registry.entries.forM fun entry => do
    let _ ← close entry.2
    return

end Registry

end ImageChain
