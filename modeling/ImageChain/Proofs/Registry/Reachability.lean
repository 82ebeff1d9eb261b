import ImageChain.Proofs.Chain.RoundTrip
import ImageChain.Proofs.Registry.Registration

/-!
# Sources that a chain can name

The check of the settings asks of a name that it is not empty and differs from
the others.  The reader of chains asks for more: a name is a word between
slashes and bars, and five words mean a kind of task.  A source whose name is
none of these words and has neither of the two signs in it is reached by any
chain that begins with the name; the other sources are registered all the same,
and no chain reaches them.

Both directions need that a place in the catalog belongs to one name only.  A
list of entries that is registered in full binds the names to the places in the
order of the list, which is where `insertAll` of the numbered entries comes from.
-/

namespace ImageChain

/-! ## Names in chains -/

namespace Chain

variable {σ : Type}

/-- A word that is taken for the name of a source. -/
def IsSourceWord (name : String) : Prop :=
  IsWord name ∧ name ∉ keywords

instance (name : String) : Decidable (IsSourceWord name) :=
  inferInstanceAs (Decidable (_ ∧ _))

/-- Some chain looks something up in the source. -/
def Reaches (registry : Registry σ) (source : σ) : Prop :=
  ∃ accept chain steps name parameters, parse registry accept chain = .ok steps ∧
    .find name source parameters ∈ steps

theorem isSourceWord_of_mem {registry : Registry σ} {accept chain : String} {steps : List (Step σ)}
    (hparse : parse registry accept chain = .ok steps) {name : String} {source : σ}
    {parameters : List String} (hmem : .find name source parameters ∈ steps) :
    IsSourceWord name ∧ registry.find? name = some source := by
  obtain ⟨task, htask, hdescribed⟩ := exists_described_of_mem hparse hmem
  have hbar : '|' ∉ task.toList := notMem_of_mem_fields htask
  have hwords : ∀ word ∈ fields '/' task, IsWord word := fun word hword =>
    ⟨notMem_of_mem_fields hword, fun hc => hbar (mem_of_mem_fields hword hc)⟩
  generalize fields '/' task = words at hdescribed hwords
  cases hdescribed with
  | find hkeyword hsource => exact ⟨⟨hwords _ List.mem_cons_self, hkeyword⟩, hsource⟩

/-- A source with one name is reached exactly if a chain can have the name. -/
theorem reaches_iff {registry : Registry σ} {name : String} {source : σ}
    (hsource : registry.find? name = some source)
    (honly : ∀ other, registry.find? other = some source → other = name) :
    Reaches registry source ↔ IsSourceWord name := by
  constructor
  · rintro ⟨accept, chain, steps, other, parameters, hparse, hmem⟩
    obtain ⟨hword, hother⟩ := isSourceWord_of_mem hparse hmem
    rwa [honly other hother] at hword
  · rintro ⟨hword, hkeyword⟩
    have hparse := parse_find hsource hword hkeyword (List.forall_mem_nil _) ""
    exact ⟨_, _, _, _, _, hparse, List.mem_singleton_self _⟩

end Chain

/-! ## Places in order -/

namespace Registry

/-- The registry in which the entries have the places from a number on. -/
def insertFrom (registry : Registry Nat) (first : Nat) (entries : List SourceEntry) :
    Registry Nat :=
  registry.insertAll (entries.zipIdx first)

theorem find?_insertFrom_empty {entries : List SourceEntry}
    (hdistinct : (entries.map (·.name)).Nodup) {name : String} {place : Nat} :
    (empty.insertFrom 0 entries).find? name = some place ↔
      ∃ entry, entries[place]? = some entry ∧ entry.name = name := by
  have hnames : (entries.zipIdx.map fun entry => entry.1.name) = entries.map (·.name) := by
    have hmap := congrArg (List.map (·.name)) (List.zipIdx_map_fst 0 entries)
    rwa [List.map_map] at hmap
  have hentries : (empty.insertFrom 0 entries).entries =
      entries.zipIdx.map fun entry => (entry.1.name, entry.2) := by
    refine (entries_insertAll empty ?_).trans (List.nil_append _)
    rw [hnames]
    exact hdistinct
  rw [← mem_entries_iff, hentries, List.mem_map]
  constructor
  · rintro ⟨⟨entry, other⟩, hmem, hsame⟩
    cases hsame
    exact ⟨entry, List.mem_zipIdx_iff_getElem?.mp hmem, rfl⟩
  · rintro ⟨entry, hentry, rfl⟩
    exact ⟨(entry, place), List.mem_zipIdx_iff_getElem?.mpr hentry, rfl⟩

variable {m : Type → Type} [Monad m] [LawfulMonad m]

/-- What one source that is built does to the catalog. -/
theorem run_catalog_build (backends : Backends m) (interval : Duration) (uri : String)
    (catalog : Catalog) :
    (Catalog.build backends interval uri).run.run catalog =
      (fun outcome => match outcome with
        | .error failure => (.error failure, catalog)
        | .ok source => (.ok catalog.sources.size, ⟨catalog.sources.push source⟩)) <$>
      (Source.build backends.ping interval uri).run := by
  rw [Catalog.build, ExceptT.run_mk, StateT.run_bind, StateT.run_lift, bind_assoc,
    map_eq_pure_bind]
  refine bind_congr fun outcome => ?_
  rw [pure_bind]
  cases outcome <;> simp

/-- Entries that are registered in full have consecutive places, and each place holds what its entry
was built from. -/
theorem addAll_build (backends : Backends m) (interval : Duration)
    {built : String → Source → Prop} (hbuilt : ∀ uri, SatisfiesM
      (fun outcome => ∀ source, outcome = .ok source → built uri source)
      (Source.build backends.ping interval uri).run)
    (entries : List SourceEntry) (registry : Registry Nat) (catalog : Catalog) :
    SatisfiesM (fun after : (Except Failure Unit × Registry Nat) × Catalog => after.1.1 = .ok () →
        after.1.2 = registry.insertFrom catalog.sources.size entries ∧
          ∃ sources : List Source, after.2.sources.toList = catalog.sources.toList ++ sources ∧
            List.Forall₂ (fun entry source => built entry.uri source) entries sources)
      (((addAll (Catalog.build backends interval) entries).run.run registry).run catalog) := by
  induction entries generalizing registry catalog with
  | nil => exact .pure fun _ => ⟨rfl, [], (List.append_nil _).symm, .nil⟩
  | cons entry rest ih =>
      rw [run_addAll_cons, StateT.run_bind, run_catalog_build, bind_map_left]
      refine SatisfiesM.bind (hbuilt entry.uri) fun outcome hsource => ?_
      cases outcome with
      | error failure => exact .pure fun hok => by cases hok
      | ok source =>
          -- the rest begins with the place behind the one of this entry
          have hsize : (catalog.sources.push source).size = catalog.sources.size + 1 :=
            Array.size_push _
          refine (ih (registry.insert entry.name catalog.sources.size)
            ⟨catalog.sources.push source⟩).imp ?_
          rintro ⟨⟨result, after⟩, changed⟩ hrest hok
          obtain ⟨hafter, sources, hsources, hall⟩ := hrest hok
          refine ⟨?_, source :: sources, ?_, .cons (hsource source rfl) hall⟩
          · rw [hafter, hsize]
            rfl
          · rw [hsources, Array.toList_push, List.append_assoc]
            rfl

/-- A registry in which every entry has its place, and the catalog with the places. -/
structure Numbers (entries : List SourceEntry) (built : String → Source → Prop)
    (registry : Registry Nat) (catalog : Catalog) : Prop where
  /-- The names are those of the entries, and each is bound to the place of its entry. -/
  find?_iff : ∀ {name : String} {place : Nat}, registry.find? name = some place ↔
    ∃ entry, entries[place]? = some entry ∧ entry.name = name
  /-- The place holds what was built for the entry. -/
  source : ∀ {place : Nat} {entry : SourceEntry}, entries[place]? = some entry →
    ∃ source, catalog.sources[place]? = some source ∧ built entry.uri source

theorem numbers_registerSources {κ : Type} (system : System κ m) {config : Config}
    (hvalid : config.validate = .ok ()) {built : String → Source → Prop}
    (hbuilt : ∀ uri, SatisfiesM (fun outcome => ∀ source, outcome = .ok source → built uri source)
      (Source.build system.backends.ping config.healthCheckInterval uri).run) :
    SatisfiesM (fun after : (Except Failure Unit × Registry Nat) × Catalog => after.1.1 = .ok () →
        Numbers config.sources built after.1.2 after.2)
      (((Program.registerSources system config).run .empty).run .empty) := by
  have hdistinct := (Config.validate_eq_ok_iff.mp hvalid).distinct
  refine (addAll_build system.backends config.healthCheckInterval hbuilt config.sources .empty
    .empty).imp ?_
  rintro ⟨⟨result, registry⟩, catalog⟩ hall hok
  obtain ⟨hregistry, sources, hsources, hbuiltAll⟩ := hall hok
  constructor
  case find?_iff =>
    intro name place
    dsimp only at hregistry
    rw [hregistry]
    exact find?_insertFrom_empty hdistinct
  case source =>
    intro place entry hentry
    have hcatalog : catalog.sources.toList = sources := hsources
    obtain ⟨hlength, hget⟩ := List.forall₂_iff_get.mp hbuiltAll
    obtain ⟨hplace, rfl⟩ := List.getElem?_eq_some_iff.mp hentry
    have hsource : place < sources.length := hlength ▸ hplace
    refine ⟨sources[place], ?_, hget place hplace hsource⟩
    rw [← Array.getElem?_toList, hcatalog]
    exact List.getElem?_eq_getElem hsource

/-! ## Which sources are reached -/

theorem Numbers.reaches_iff {entries : List SourceEntry} {built : String → Source → Prop}
    {registry : Registry Nat} {catalog : Catalog}
    (hnumbers : Numbers entries built registry catalog) {place : Nat} {entry : SourceEntry} (hentry : entries[place]? = some entry) :
    Chain.Reaches registry place ↔ Chain.IsSourceWord entry.name := by
  refine Chain.reaches_iff (hnumbers.find?_iff.mpr ⟨entry, hentry, rfl⟩) fun other hother => ?_
  obtain ⟨found, hfound, rfl⟩ := hnumbers.find?_iff.mp hother
  rw [hentry] at hfound
  cases hfound
  rfl

/-- A system with neither files nor a network. -/
def bareSystem : System Unit Id where
  backends := .offline fun _ => .error "No such file or directory"
  carrier := .offline
  environment := fun _ => none
  writeFile := fun _ _ => .error "Permission denied"
  within := fun _ action => some action
  rounding := id

/-- The sources that the bare system builds. -/
def BareBuilt (uri : String) (source : Source) : Prop :=
  (Source.build bareSystem.backends.ping (.ofSeconds 10) uri).run = .ok source

theorem bareBuilt_build (uri : String) :
    SatisfiesM (fun outcome => ∀ source, outcome = .ok source → BareBuilt uri source)
      (Source.build bareSystem.backends.ping (.ofSeconds 10) uri).run :=
  SatisfiesM_Id_eq.mpr fun _ hsource => hsource

end Registry

end ImageChain
