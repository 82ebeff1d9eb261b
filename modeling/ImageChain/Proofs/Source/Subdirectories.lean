import ImageChain.Proofs.Chain.Composition
import ImageChain.Proofs.Chain.RoundTrip
import ImageChain.Proofs.Image.Session
import ImageChain.Proofs.Source.Parameters

/-!
# Files that a chain can name

A chain cuts a task at every slash, so a path behind the name of a source comes
to as many parameters as it has segments.  A directory takes the first parameter
for the path, and has no use for the others.  So a path of one segment names the
file of that name in the directory, and a longer one does not name the file that
it would lead to but the place where it would set out.

Such a place is mostly a directory itself and can not be read.  The file is still
found by a lookup that is not written as a chain, where the path is one
parameter.
-/

namespace ImageChain

/-! ## Paths of names -/

namespace Path

theorem resolveWithin_of_isName (base : String) {segment : String} (hname : IsName segment) :
    resolveWithin base segment = .ok (extend base [segment]) := by
  have hskip : ¬ (segment = "" || segment = ".") = true := by
    simp [hname.nonempty, hname.not_here]
  have hfollow : follow [] (fields '/' segment) = some [segment] := by
    rw [fields_of_notMem hname.no_slash, follow_of_name hskip hname.not_up]
    rfl
  rw [resolveWithin, hfollow]
  rfl

/-- Different names lead to different places. -/
theorem extend_inj (base : String) {segments others : List String}
    (hsegments : ∀ segment ∈ segments, IsName segment)
    (hothers : ∀ segment ∈ others, IsName segment) :
    extend base segments = extend base others ↔ segments = others := by
  constructor
  · intro hpaths
    have hcomponents :
        components base ++ segments.map .name = components base ++ others.map .name := by
      rw [← components_extend base hsegments, ← components_extend base hothers, hpaths]
    have hinjective : Function.Injective Component.name := fun _ _ hname => by cases hname; rfl
    exact List.map_injective_iff.mpr hinjective (List.append_cancel_left hcomponents)
  · rintro rfl
    rfl

end Path

/-! ## Reading a file -/

/-- The image that comes of the answer to reading a file. -/
def Image.ofFile [Codecs] (path : String) : Except String ByteArray → Except Failure Image
  | .ok bytes => decode bytes
  | .error reason => .error (.backend ("Failed to read " ++ path ++ ": " ++ reason))

theorem Image.ofBackend_ofFile [Codecs] (path : String) (answer : Except String ByteArray) :
    OfBackend (ofFile path answer) := by
  cases answer with
  | ok bytes => exact ofBackend_decode bytes
  | error reason => exact ofBackend_backend _

/-- It fails only if the file can not be read or what it holds can not be decoded. -/
theorem Image.ofFile_eq_error_iff [Codecs] {path : String} {answer : Except String ByteArray}
    {failure : Failure} :
    ofFile path answer = .error failure ↔
      (∃ reason, answer = .error reason ∧
        failure = .backend ("Failed to read " ++ path ++ ": " ++ reason)) ∨
      ∃ bytes, answer = .ok bytes ∧ decode bytes = .error failure := by
  cases answer with
  | ok bytes => simp [ofFile]
  | error reason => simp [ofFile, eq_comm]

section Running

variable {m : Type → Type} [Monad m] [LawfulMonad m] {κ : Type}

theorem Request.readFile_run (backends : Backends m) (path : String) :
    (Request.readFile backends path).run =
      (fun answer => match answer with
        | .ok bytes => .ok bytes
        | .error reason => .error (.backend ("Failed to read " ++ path ++ ": " ++ reason))) <$>
      backends.readFile path := by
  unfold Request.readFile
  rw [ExceptT.run_bind, ExceptT.run_lift, bind_map_left, map_eq_pure_bind]
  refine bind_congr fun answer => ?_
  cases answer <;> rfl

/-- A lookup in a directory reads one file and leaves the sources as they are. -/
theorem Catalog.find_directory [Codecs] (backends : Backends m) {catalog : Catalog} {place : Nat}
    {base first path : String} (hsource : catalog.sources[place]? = some (.directory base))
    (hpath : Path.resolveWithin base first = .ok path) (rest : List String) :
    (find backends place (first :: rest)).run.run catalog =
      (fun answer => (Image.ofFile path answer, catalog)) <$> backends.readFile path := by
  have hrequest : (Source.directory base).request (first :: rest) =
      .ok (.file path, .directory base) := by
    rw [Source.directory_request, hpath]
    rfl
  have hkept : catalog.sources.setIfInBounds place (.directory base) = catalog.sources := by
    obtain ⟨hlt, hget⟩ := Array.getElem?_eq_some_iff.mp hsource
    rw [← hget, Array.setIfInBounds_def, dif_pos hlt, Array.set_getElem_self]
  unfold find
  simp only [ExceptT.run_mk, StateT.run_bind, StateT.run_get, pure_bind, hsource, hrequest]
  simp only [StateT.run_modify, pure_bind, hkept]
  have hperform : (Request.file path).perform backends = Request.readFile backends path := rfl
  rw [hperform, Request.readFile_run, StateT.run_lift, map_eq_pure_bind, map_eq_pure_bind]
  simp only [bind_assoc, pure_bind]
  refine bind_congr fun answer => ?_
  cases answer <;> rfl

/-- A step that looks a file up does so whatever the image is, and leaves the workspace as it is. -/
theorem Step.run_find_directory [Codecs] (backends : Backends m) (carrier : Carrier κ m)
    (rounding : Rounding) {workspace : Workspace κ} {place : Nat} {base first path : String}
    (hsource : workspace.catalog.sources[place]? = some (.directory base))
    (hpath : Path.resolveWithin base first = .ok path) (name : String) (rest : List String)
    (image : Image) :
    (Step.run (Workspace.services backends carrier rounding) (.find name place (first :: rest))
      image).run.run workspace =
      (fun answer => (Image.ofFile path answer, workspace)) <$> backends.readFile path := by
  have hfind := Catalog.find_directory backends hsource hpath rest
  show (Workspace.withCatalog (Catalog.find backends place (first :: rest))).run.run workspace = _
  rw [Workspace.withCatalog, ExceptT.run_mk]
  show (do
    let (result, catalog) ← (Catalog.find backends place (first :: rest)).run.run workspace.catalog
    return (result, { workspace with catalog := catalog })) = _
  rw [hfind, bind_map_left, map_eq_pure_bind]

/-- A chain of one job that is never told to stop does what the job does. -/
theorem Chain.execute_singleton {ι α : Type} {n : Type → Type} [Monad n] [LawfulMonad n]
    (run : α → ι → ExceptT Failure n ι) (job : α) (start : ι) :
    (Chain.execute run [job] start).run =
      (fun result => match result with
        | .ok next => .ok next
        | .error failure => if failure.isAbort then .ok start else .error failure) <$>
      (run job start).run := by
  rw [Chain.execute, ExceptT.run_mk, map_eq_pure_bind]
  refine bind_congr fun result => ?_
  cases result <;> rfl

/-- The task that looks a path up is read, and what it reads is what the first segment leads to. -/
theorem Chain.run_find_directory [Codecs] (backends : Backends m) (carrier : Carrier κ m)
    (rounding : Rounding) {workspace : Workspace κ} {place : Nat} {base first : String}
    (hdirectory : workspace.catalog.sources[place]? = some (.directory base))
    (hfirst : Path.IsName first) (name : String) (rest : List String) (start : Image) :
    (Chain.execute (Step.run (Workspace.services backends carrier rounding))
      [.find name place (first :: rest)] start).run.run workspace =
      (fun answer => (Image.ofFile (Path.extend base [first]) answer, workspace)) <$>
        backends.readFile (Path.extend base [first]) := by
  have hpath := Path.resolveWithin_of_isName base hfirst
  rw [Chain.execute_singleton, StateT.run_map,
    Step.run_find_directory backends carrier rounding hdirectory hpath, Functor.map_map]
  refine map_congr fun answer => ?_
  have hbackend := Image.ofBackend_ofFile (Path.extend base [first]) answer
  cases hfile : Image.ofFile (Path.extend base [first]) answer with
  | ok image => rfl
  | error failure =>
      obtain ⟨reason, rfl⟩ := hbackend failure hfile
      rfl

/-- **A chain reads the file that the first segment of a path names.**  The path behind the name of
a directory is read as one parameter for each segment, and running the chain reads one file, which
is the first segment below the directory.  That is the file the path leads to exactly if there is no
other segment.  The chain fails only if the file can not be read or decoded. -/
theorem Chain.finds_first_segment [Codecs] (backends : Backends m) (carrier : Carrier κ m)
    (rounding : Rounding) {registry : Registry Nat} {workspace : Workspace κ} {name base : String}
    {place : Nat} (hplace : registry.find? name = some place)
    (hdirectory : workspace.catalog.sources[place]? = some (.directory base))
    (hname : IsWord name) (hkeyword : name ∉ keywords) {first : String} {rest : List String}
    (hsegments : ∀ segment ∈ first :: rest, Path.IsName segment ∧ '|' ∉ segment.toList)
    (accept : String) (start : Image) :
    parse registry accept (name ++ "/" ++ "/".intercalate (first :: rest)) =
      .ok [.find name place (first :: rest)] ∧
    Path.Resolved base [first] (Path.extend base [first]) ∧
    (Path.extend base [first] = Path.extend base (first :: rest) ↔ rest = []) ∧
    (Chain.execute (Step.run (Workspace.services backends carrier rounding))
      [.find name place (first :: rest)] start).run.run workspace =
      (fun answer => (Image.ofFile (Path.extend base [first]) answer, workspace)) <$>
        backends.readFile (Path.extend base [first]) ∧
    ∀ answer failure, Image.ofFile (Path.extend base [first]) answer = .error failure ↔
      (∃ reason, answer = .error reason ∧ failure =
        .backend ("Failed to read " ++ Path.extend base [first] ++ ": " ++ reason)) ∨
      ∃ bytes, answer = .ok bytes ∧ Image.decode bytes = .error failure := by
  have hnames : ∀ segment ∈ first :: rest, Path.IsName segment :=
    fun segment hmem => (hsegments segment hmem).1
  have hwords : ∀ segment ∈ first :: rest, IsWord segment :=
    fun segment hmem => ⟨(hnames segment hmem).no_slash, (hsegments segment hmem).2⟩
  have hfirst : Path.IsName first := hnames first List.mem_cons_self
  have honly : ∀ segment ∈ [first], Path.IsName segment := List.forall_mem_singleton.mpr hfirst
  refine ⟨?_, Path.resolved_extend base (List.cons_ne_nil _ _) honly, ?_,
    Chain.run_find_directory backends carrier rounding hdirectory hfirst name rest start, ?_⟩
  · rw [← String.intercalate_cons_cons]
    exact Chain.parse_find hplace hname hkeyword hwords accept
  · rw [Path.extend_inj base honly hnames]
    constructor
    · intro hall
      exact (List.cons_eq_cons.mp hall).2.symm
    · rintro rfl
      rfl
  · intro answer failure
    exact Image.ofFile_eq_error_iff

end Running

/-! ## A file in a subdirectory -/

/-- A file system with one picture, which is not directly below the directory of the source. -/
def nestedPicture : Backends Id :=
  .offline fun path =>
    if path = "/srv/images/a/b.png" then .ok Session.onePixel
    else .error "Is a directory (os error 21)"

/-- A workspace whose only source is the directory. -/
def imagesWorkspace : Workspace Unit :=
  ⟨⟨#[.directory "/srv/images"]⟩, .empty⟩

/-- The registry with the directory. -/
def imagesRegistry : Registry Nat :=
  Registry.empty.insert "local" 0

theorem find?_imagesRegistry : imagesRegistry.find? "local" = some 0 := rfl

theorem sources_imagesWorkspace :
    imagesWorkspace.catalog.sources[0]? = some (.directory "/srv/images") := rfl

theorem isName_a : Path.IsName "a" := by
  constructor <;> decide

/-- The chain reads the directory that the picture is in. -/
theorem Chain.finds_first_segment_nested :
    parse imagesRegistry "" "local/a/b.png" = .ok [.find "local" 0 ["a", "b.png"]] ∧
    (Chain.execute (Step.run (Workspace.services nestedPicture .offline id))
      [.find "local" 0 ["a", "b.png"]] .blank).run.run imagesWorkspace =
      (.error (.backend "Failed to read /srv/images/a: Is a directory (os error 21)"),
        imagesWorkspace) := by
  have hsegments : ∀ segment ∈ ["a", "b.png"], Path.IsName segment ∧ '|' ∉ segment.toList := by
    simp only [List.forall_mem_cons]
    exact ⟨⟨isName_a, by decide⟩, ⟨⟨by decide, by decide, by decide, by decide⟩, by decide⟩,
      List.forall_mem_nil _⟩
  obtain ⟨hparse, -, -, hrun, -⟩ := Chain.finds_first_segment nestedPicture .offline id
    find?_imagesRegistry sources_imagesWorkspace (by decide) (by decide) hsegments "" .blank
  exact ⟨hparse, hrun⟩

/-- The picture can be read and decoded where the path leads to, and the chain still fails. -/
theorem Chain.misses_nested_picture :
    Path.extend "/srv/images" ["a", "b.png"] = "/srv/images/a/b.png" ∧
    (∃ image, Image.ofFile "/srv/images/a/b.png"
      (nestedPicture.readFile "/srv/images/a/b.png") = .ok image) ∧
    parse imagesRegistry "" "local/a/b.png" = .ok [.find "local" 0 ["a", "b.png"]] ∧
    (Chain.execute (Step.run (Workspace.services nestedPicture .offline id))
      [.find "local" 0 ["a", "b.png"]] .blank).run.run imagesWorkspace =
      (.error (.backend "Failed to read /srv/images/a: Is a directory (os error 21)"),
        imagesWorkspace) := by
  refine ⟨rfl, ?_, rfl, ?_⟩
  · obtain ⟨image, hdecode, -⟩ := Session.decode_onePixel
    exact ⟨image, hdecode⟩
  · exact Chain.run_find_directory nestedPicture .offline id sources_imagesWorkspace isName_a
      "local" ["b.png"] .blank

end ImageChain
