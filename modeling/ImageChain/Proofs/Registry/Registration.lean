import Mathlib
import ImageChain.Offline
import ImageChain.Program
import ImageChain.Proofs.Config.Validity
import ImageChain.Proofs.Registry.Lookup

/-!
# Registering what has been built

A name is only bound once its source has been built, and building may ask
servers in between.  So building is any action that may fail, in any monad, and
what it gave is written down: `recorded` does that, and `addAll_recorded` says
that it changes nothing else.

`Registers` tells from the outcomes alone what a list of entries does to a
registry.  There are two ways: all entries are built, or one fails after those
in front of it have been built.  `registers_run` is the induction along the
entries that finds one of the two.

Names that differ come one behind the other, so a registry that was empty has
exactly the names of the entries in the end.
-/

namespace ImageChain.Registry

variable {σ : Type} {m : Type → Type} [Monad m]

/-! ## Writing down what is built -/

/-- A source that was to be built. -/
structure Building (σ : Type) where
  /-- The address that describes it. -/
  uri : String
  /-- What was built, or why it could not be. -/
  outcome : Except Failure σ

/-- The same way of building; every outcome is written down. -/
def recorded (build : String → ExceptT Failure m σ) (uri : String) :
    ExceptT Failure (StateT (List (Building σ)) m) σ := ExceptT.mk do
  let outcome ← StateT.lift (build uri).run
  modify (· ++ [⟨uri, outcome⟩])
  return outcome

/-! ## One entry -/

/-- What is left of adding a name once its source has been built. -/
def adding (registry : Registry σ) (name : String) :
    Except Failure σ → Except Failure Unit × Registry σ
  | .error failure => (.error failure, registry)
  | .ok value => (.ok (), registry.insert name value)

/-- What adding a name does to a registry, where building its source gave `outcome`. -/
structure Adds (registry : Registry σ) (name : String) (outcome : Except Failure σ)
    (result : Except Failure Unit) (after : Registry σ) : Prop where
  /-- If it fails, it is because building did, and nothing changes. -/
  failed : ∀ failure, result = .error failure → outcome = .error failure ∧ after = registry
  /-- Else the name is bound to what was built, and every other name to what it was bound to. -/
  added : result = .ok () → ∃ value, outcome = .ok value ∧ after = registry.insert name value ∧
    after.find? name = some value ∧
    ∀ other, other ≠ name → after.find? other = registry.find? other

theorem adds_adding (registry : Registry σ) (name : String) (outcome : Except Failure σ) :
    Adds registry name outcome (registry.adding name outcome).1
      (registry.adding name outcome).2 := by
  cases outcome with
  | error failure =>
      constructor
      case failed =>
        intro other hother
        cases hother
        exact ⟨rfl, rfl⟩
      case added =>
        intro hok
        cases hok
  | ok value =>
      constructor
      case failed =>
        intro failure hfailure
        cases hfailure
      case added =>
        intro _
        refine ⟨value, rfl, rfl, ?_, fun other hother => ?_⟩
        · exact (find?_insert registry name name value).trans (if_pos rfl)
        · exact (find?_insert registry name other value).trans (if_neg hother)

section Running

variable [LawfulMonad m] (build : String → ExceptT Failure m σ)

theorem run_recorded (uri : String) (earlier : List (Building σ)) :
    (recorded build uri).run.run earlier =
      (fun outcome => (outcome, earlier ++ [⟨uri, outcome⟩])) <$> (build uri).run := by
  simp [recorded]

theorem run_add (registry : Registry σ) (name uri : String) :
    (add build name uri).run.run registry = registry.adding name <$> (build uri).run := by
  rw [add, ExceptT.run_mk, StateT.run_bind, StateT.run_lift, bind_assoc, map_eq_pure_bind]
  refine bind_congr fun outcome => ?_
  rw [pure_bind]
  cases outcome with
  | error failure => rfl
  | ok value => simp [adding]

theorem run_addAll_cons (registry : Registry σ) (entry : SourceEntry) (rest : List SourceEntry) :
    (addAll build (entry :: rest)).run.run registry =
      (build entry.uri).run >>= fun outcome =>
        match outcome with
        | .error failure => pure (.error failure, registry)
        | .ok value => (addAll build rest).run.run (registry.insert entry.name value) := by
  rw [addAll, ExceptT.run_bind, StateT.run_bind, run_add, bind_map_left]
  refine bind_congr fun outcome => ?_
  cases outcome <;> rfl

/-! ## Many entries -/

/-- The registry with every value that was built under the name of its entry. -/
def insertAll (registry : Registry σ) (built : List (SourceEntry × σ)) : Registry σ :=
  built.foldl (fun registry entry => registry.insert entry.1.name entry.2) registry

/-- Entries that were built, one after the other. -/
def buildings (built : List (SourceEntry × σ)) : List (Building σ) :=
  built.map fun entry => ⟨entry.1.uri, .ok entry.2⟩

/-- What entries do to a registry, and what is built for that. -/
inductive Registers (entries : List SourceEntry) (registry : Registry σ) :
    List (Building σ) → Except Failure Unit → Registry σ → Prop where
  /-- Every entry is built. -/
  | all (built : List (SourceEntry × σ)) (hentries : entries = built.map Prod.fst) :
      Registers entries registry (buildings built) (.ok ()) (registry.insertAll built)
  /-- An entry fails after those in front of it have been built, and none behind it is tried. -/
  | upTo (built : List (SourceEntry × σ)) {entry : SourceEntry} {rest : List SourceEntry}
      {failure : Failure} (hentries : entries = built.map Prod.fst ++ entry :: rest) :
      Registers entries registry (buildings built ++ [⟨entry.uri, .error failure⟩])
        (.error failure) (registry.insertAll built)

theorem Registers.cons {rest : List SourceEntry} {registry after : Registry σ}
    {written : List (Building σ)} {result : Except Failure Unit} (entry : SourceEntry) (value : σ)
    (hrest : Registers rest (registry.insert entry.name value) written result after) :
    Registers (entry :: rest) registry (⟨entry.uri, .ok value⟩ :: written) result after := by
  cases hrest with
  | all built hentries =>
      exact .all ((entry, value) :: built) (by rw [hentries]; rfl)
  | upTo built hentries =>
      exact .upTo ((entry, value) :: built) (by rw [hentries]; rfl)

theorem registers_run (entries : List SourceEntry) (registry : Registry σ)
    (earlier : List (Building σ)) :
    SatisfiesM (fun after : (Except Failure Unit × Registry σ) × List (Building σ) =>
        ∃ written, after.2 = earlier ++ written ∧
          Registers entries registry written after.1.1 after.1.2)
      (((addAll (recorded build) entries).run.run registry).run earlier) := by
  induction entries generalizing registry earlier with
  | nil => exact .pure ⟨[], (List.append_nil earlier).symm, .all [] rfl⟩
  | cons entry rest ih =>
      rw [run_addAll_cons, StateT.run_bind, run_recorded, bind_map_left]
      refine SatisfiesM.bind .trivial fun outcome _ => ?_
      cases outcome with
      | error failure => exact .pure ⟨_, rfl, .upTo [] rfl⟩
      | ok value =>
          -- what the rest is built from is written behind this entry
          refine (ih (registry.insert entry.name value) _).imp ?_
          rintro ⟨⟨result, after⟩, log⟩ ⟨written, rfl, hrest⟩
          exact ⟨_, List.append_assoc _ _ _, hrest.cons entry value⟩

theorem addAll_recorded (entries : List SourceEntry) (registry : Registry σ)
    (earlier : List (Building σ)) :
    Prod.fst <$> ((addAll (recorded build) entries).run.run registry).run earlier =
      (addAll build entries).run.run registry := by
  induction entries generalizing registry earlier with
  | nil => exact map_pure _ _
  | cons entry rest ih =>
      rw [run_addAll_cons, run_addAll_cons, StateT.run_bind, run_recorded, bind_map_left, map_bind]
      refine bind_congr fun outcome => ?_
      cases outcome with
      | error failure => exact map_pure _ _
      | ok value => exact ih _ _

/-! ## Names that differ -/

theorem setValue_of_notMem {name : String} (value : σ) {entries : List (String × σ)}
    (hnew : name ∉ entries.map Prod.fst) :
    setValue name value entries = entries ++ [(name, value)] := by
  induction entries with
  | nil => rfl
  | cons entry rest ih =>
      rw [List.map_cons, List.mem_cons, not_or] at hnew
      rw [setValue, if_neg (Ne.symm hnew.1), ih hnew.2, List.cons_append]

theorem entries_insertAll (registry : Registry σ) {built : List (SourceEntry × σ)}
    (hdistinct : (registry.names ++ built.map fun entry => entry.1.name).Nodup) :
    (registry.insertAll built).entries =
      registry.entries ++ built.map fun entry => (entry.1.name, entry.2) := by
  induction built generalizing registry with
  | nil => exact (List.append_nil _).symm
  | cons entry rest ih =>
      have hnew : entry.1.name ∉ registry.names := by
        intro hmem
        exact (List.disjoint_of_nodup_append hdistinct) hmem List.mem_cons_self
      have hentries : (registry.insert entry.1.name entry.2).entries =
          registry.entries ++ [(entry.1.name, entry.2)] := setValue_of_notMem entry.2 hnew
      have hsplit : (registry.insert entry.1.name entry.2).names ++
            rest.map (fun entry => entry.1.name) =
          registry.names ++ (entry :: rest).map fun entry => entry.1.name := by
        rw [names, hentries, List.map_append, List.append_assoc]
        rfl
      have hrest := ih (registry.insert entry.1.name entry.2) (hsplit ▸ hdistinct)
      rw [hentries, List.append_assoc] at hrest
      exact hrest

theorem names_insertAll (registry : Registry σ) {built : List (SourceEntry × σ)}
    (hdistinct : (registry.names ++ built.map fun entry => entry.1.name).Nodup) :
    (registry.insertAll built).names = registry.names ++ built.map fun entry => entry.1.name := by
  rw [names, entries_insertAll registry hdistinct, List.map_append, List.map_map]
  rfl

theorem Registers.names_of_ok {entries : List SourceEntry} {written : List (Building σ)}
    {after : Registry σ} (hregisters : Registers entries .empty written (.ok ()) after)
    (hdistinct : (entries.map (·.name)).Nodup) : after.names = entries.map (·.name) := by
  cases hregisters with
  | all built hentries =>
      have hnames : entries.map (·.name) = built.map fun entry => entry.1.name := by
        rw [hentries, List.map_map]
        rfl
      rw [hnames] at hdistinct ⊢
      exact names_insertAll empty hdistinct

theorem names_addAll {config : Config} (hvalid : config.validate = .ok ()) :
    SatisfiesM (fun after : Except Failure Unit × Registry σ => after.1 = .ok () →
        after.2.names.Nodup ∧ after.2.names.Perm (config.sources.map (·.name)))
      ((addAll build config.sources).run.run .empty) := by
  have hdistinct := (Config.validate_eq_ok_iff.mp hvalid).distinct
  rw [← addAll_recorded build config.sources .empty []]
  refine SatisfiesM.map_pre ((registers_run build config.sources .empty []).imp ?_)
  rintro ⟨⟨result, after⟩, log⟩ ⟨written, -, hregisters⟩ hok
  dsimp only at hok hregisters
  rw [hok] at hregisters
  have hnames := hregisters.names_of_ok hdistinct
  rw [hnames]
  exact ⟨hdistinct, List.Perm.refl _⟩

/-! ## The main statement -/

/-- **A source is registered wholly or not at all, and a list of sources up to the first that can not
be built.**  If all sources of settings that passed the check are registered, the registry has their
names and no others. -/
theorem registers_up_to_failure :
    (∀ (registry : Registry σ) (name uri : String),
      (add build name uri).run.run registry = registry.adding name <$> (build uri).run ∧
      ∀ outcome, Adds registry name outcome (registry.adding name outcome).1
        (registry.adding name outcome).2) ∧
    (∀ (entries : List SourceEntry) (registry : Registry σ),
      SatisfiesM (fun after : (Except Failure Unit × Registry σ) × List (Building σ) =>
          Registers entries registry after.2 after.1.1 after.1.2)
        (((addAll (recorded build) entries).run.run registry).run []) ∧
      Prod.fst <$> ((addAll (recorded build) entries).run.run registry).run [] =
        (addAll build entries).run.run registry) ∧
    ∀ {κ : Type} (system : System κ m) (config : Config) (catalog : Catalog),
      config.validate = .ok () →
        SatisfiesM (fun after : (Except Failure Unit × Registry Nat) × Catalog =>
            after.1.1 = .ok () →
              after.1.2.names.Nodup ∧ after.1.2.names.Perm (config.sources.map (·.name)))
          (((Program.registerSources system config).run .empty).run catalog) := by
  refine ⟨fun registry name uri => ⟨run_add build registry name uri, adds_adding registry name⟩,
    fun entries registry => ⟨?_, addAll_recorded build entries registry []⟩, ?_⟩
  · refine (registers_run build entries registry []).imp ?_
    rintro after ⟨written, hwritten, hregisters⟩
    rw [List.nil_append] at hwritten
    rwa [hwritten]
  · intro κ system config catalog hvalid
    have hnames := names_addAll (Catalog.build system.backends config.healthCheckInterval) hvalid
    exact SatisfiesM_StateT_eq.mp hnames catalog

end Running

/-- Two directories are registered without a network. -/
theorem registers_up_to_failure_images :
    let system : System Unit Id := {
      backends := .offline fun _ => .error "No such file or directory"
      carrier := .offline
      environment := fun _ => none
      writeFile := fun _ _ => .error "Permission denied"
      within := fun _ action => some action
      rounding := id }
    let images : Config := ⟨[⟨"images", "/srv/images"⟩, ⟨"more", "/srv/more"⟩], 10, none⟩
    images.validate = .ok () ∧
      ∃ registry catalog, ((Program.registerSources system images).run .empty).run .empty =
          ((.ok (), registry), catalog) ∧
        registry.names.Nodup ∧ registry.names.Perm ["images", "more"] := by
  intro system images
  have hvalid : images.validate = .ok () := by decide +kernel
  have hnames := (registers_up_to_failure (σ := Nat) (m := Id)
    fun _ => throw .abortNext).2.2 system images .empty hvalid
  exact ⟨hvalid, _, _, rfl, SatisfiesM_Id_eq.mp hnames rfl⟩

end ImageChain.Registry
