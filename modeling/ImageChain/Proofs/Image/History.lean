import ImageChain.Proofs.Image.Session

/-!
# What an image remembers

An image holds the images before its pixel changes, each holding the one before
it.  The kinds of steps treat this differently: a fetch forgets everything, new
pixels make the current image the nearest one, and a reply takes the place of the
current image without becoming its successor.

`Runs` keeps a book of its own: every step with the image it was run on and with
what happened to that.  `lineage_of_runs` reads the history of the current image,
its original size, and whether it has a format off the book.
-/

namespace ImageChain

/-! ## Walking back -/

/-- The images that are met on the way back from an image, the nearest one first. -/
inductive Image.Walks : Image → List Image → Prop where
  /-- There is nothing before the image. -/
  | first {image : Image} (hprevious : image.previous = none) : Walks image []
  /-- There is an image before it. -/
  | back {image before : Image} {ancestors : List Image}
      (hprevious : image.previous = some before) (hwalks : Walks before ancestors) :
      Walks image (before :: ancestors)

/-- Where a way back goes only depends on where it starts. -/
theorem Image.Walks.unique {image : Image} {ancestors others : List Image}
    (hwalks : image.Walks ancestors) (hothers : image.Walks others) : ancestors = others := by
  induction hwalks generalizing others with
  | first hprevious =>
      cases hothers with
      | first => rfl
      | back hother => cases hprevious.symm.trans hother
  | back hprevious _ ih =>
      cases hothers with
      | first hother => cases hprevious.symm.trans hother
      | back hother hrest =>
          cases hprevious.symm.trans hother
          rw [ih hrest]

theorem Image.Walks.iff_eq {image : Image} {ancestors : List Image}
    (hwalks : image.Walks ancestors) (others : List Image) :
    image.Walks others ↔ others = ancestors :=
  ⟨fun hothers => hothers.unique hwalks, fun hsame => hsame ▸ hwalks⟩

/-- A reply is not met on the way back, and neither is the image that it replaces. -/
theorem Image.Walks.withEncoded {image : Image} {ancestors : List Image}
    (hwalks : image.Walks ancestors) (bytes : ByteArray) (format : Format) :
    (image.withEncoded bytes format).Walks ancestors := by
  cases hwalks with
  | first hprevious => exact .first hprevious
  | back hprevious hrest => exact .back hprevious hrest

theorem Image.previous_withGrid (image : Image) (grid : Grid) :
    (image.withGrid grid).previous = some image := rfl

/-! ## The book of a run -/

namespace Event

/-- The bytes that are fetched in an event. -/
def fetched? : Event → Option ByteArray
  | fetched bytes => some bytes
  | _ => none

/-- Whether an event changes pixels. -/
def redraws : Event → Bool
  | redrawn => true
  | _ => false

/-- Whether an image has a format after an event whatever it had before. -/
def setsFormat : Event → Bool
  | fetched _ | optimized _ => true
  | redrawn | kept => false

end Event

/-- A step that has been run. -/
structure Entry where
  /-- The step. -/
  step : Step Nat
  /-- The image that was current just before. -/
  before : Image
  /-- What happened to it. -/
  event : Event

namespace Book

/-- The images that were current just before the pixel changes since the last fetch, in a run whose
latest step comes first. -/
def replaced (book : List Entry) : List Image :=
  ((book.takeWhile (·.event.fetched?.isNone)).filter (·.event.redraws)).map (·.before)

/-- The number of bytes that were fetched last, or zero if none were. -/
def fetchedSize (book : List Entry) : Nat :=
  (book.findSome? (·.event.fetched?)).elim 0 ByteArray.size

end Book

section Steps

variable [Codecs] {κ ω : Type} (backends : Backends (StateM ω)) (carrier : Carrier κ (StateM ω))
  (rounding : Rounding)

/-- A run of steps from the empty image, the latest one first, and the image it leads to.  The
workspace and the world outside may change in any way between two steps. -/
inductive Runs : List Entry → Image → Prop where
  /-- No step has been run. -/
  | start : Runs [] .blank
  /-- One more step is run. -/
  | step {book : List Entry} {image next : Image} {step : Step Nat} {event : Event}
      {workspace after : Workspace κ} {world outside : ω} (hruns : Runs book image)
      (hrun : step.runAt backends carrier rounding image workspace world =
        ((.ok next, after), outside))
      (hevent : Happens backends carrier image workspace world step event) :
      Runs (⟨step, image, event⟩ :: book) next

/-- A step may answer an image with the signal to stop. -/
def Step.Aborts (step : Step Nat) (image : Image) : Prop :=
  ∃ (workspace : Workspace κ) (world : ω) (failure : Failure),
    (step.runAt backends carrier rounding image workspace world).1.1 = .error failure ∧
      failure.isAbort = true

variable {backends carrier rounding}

/-- A chain that gives an image has run all its steps, or those before one that aborts. -/
theorem exists_runs_of_completes {book : List Entry} {image finish : Image}
    (hruns : Runs backends carrier rounding book image) {steps : List (Step Nat)}
    {workspace after : Workspace κ} {world outside : ω}
    (hrun : Session.Completes backends carrier rounding finish after outside steps image workspace
      world) :
    ∃ (more : List Entry) (rest : List (Step Nat)),
      (more.map (·.step)).reverse ++ rest = steps ∧
      Runs backends carrier rounding (more ++ book) finish ∧
      ∀ next ∈ rest.head?, next.Aborts backends carrier rounding finish := by
  induction hrun generalizing book with
  | done => exact ⟨[], [], rfl, hruns, nofun⟩
  | @aborts step rest workspace world failure hstep habort =>
      refine ⟨[], step :: rest, rfl, hruns, ?_⟩
      intro next hnext
      cases Option.mem_some.mp hnext
      exact ⟨workspace, world, failure, by rw [hstep], habort⟩
  | @step step _ image _ _ _ _ _ hstep _ ih =>
      obtain ⟨event, hevent⟩ := exists_happens hstep
      obtain ⟨more, left, rfl, hmore, haborts⟩ := ih (.step hruns hstep hevent)
      refine ⟨more ++ [⟨step, image, event⟩], left, ?_, ?_, haborts⟩
      · simp
      · simpa using hmore

/-! ## The invariant -/

/-- What an image has to do with the run that has led to it. -/
structure Lineage (book : List Entry) (image : Image) : Prop where
  /-- The way back goes over the images that were current before the pixel changes since the last
  fetch, and nothing else. -/
  walks : ∀ ancestors, image.Walks ancestors ↔ ancestors = Book.replaced book
  /-- Each of them, and the image itself, has the size of what was fetched last. -/
  size : ∀ node ∈ image :: Book.replaced book, node.originalSize = Book.fetchedSize book
  /-- The image has no format if and only if nothing was fetched and no optimizer replied. -/
  unformatted : image.format = none ↔ ∀ entry ∈ book, entry.event.setsFormat = false

omit [Codecs] in
theorem lineage_blank : Lineage [] .blank where
  walks := Image.Walks.iff_eq (.first rfl)
  size := by simp [Book.replaced, Book.fetchedSize, Image.blank, Image.originalSize]
  unformatted := by simp [Image.blank, Image.format]

omit [Codecs] in
/-- What does not set a format does not count. -/
theorem Book.unformatted_cons {book : List Entry} {latest : Entry}
    (hlatest : latest.event.setsFormat = false) :
    (∀ entry ∈ latest :: book, entry.event.setsFormat = false) ↔
      ∀ entry ∈ book, entry.event.setsFormat = false := by
  rw [List.forall_mem_cons]
  exact and_iff_right hlatest

/-- What happens in a step keeps the book right. -/
theorem Event.Gives.lineage {event : Event} {image next : Image} (hgives : event.Gives image next)
    {book : List Entry} (hlineage : Lineage book image) (step : Step Nat) :
    Lineage (⟨step, image, event⟩ :: book) next := by
  have hsize := hlineage.size
  have hwalks : image.Walks (Book.replaced book) := (hlineage.walks _).mpr rfl
  cases hgives with
  | @fetched bytes next hdecode =>
      obtain ⟨format, grid, -, rfl⟩ := Image.decode_cases hdecode
      constructor
      case walks => exact Image.Walks.iff_eq (.first rfl)
      case size => simp [Book.replaced, Book.fetchedSize, Event.fetched?, Image.originalSize]
      case unformatted => simp [Image.format, Event.setsFormat]
  | optimized reply format =>
      constructor
      -- a reply has the links of the image that it replaces
      case walks => exact (hwalks.withEncoded _ format).iff_eq
      case size =>
        intro node hnode
        rcases List.mem_cons.mp hnode with rfl | hnode
        · exact hsize image List.mem_cons_self
        · exact hsize node (List.mem_cons_of_mem image hnode)
      case unformatted => simp [Image.format, Image.withEncoded, Event.setsFormat]
  | redrawn grid =>
      constructor
      case walks => exact Image.Walks.iff_eq (.back (image.previous_withGrid grid) hwalks)
      case size =>
        intro node hnode
        rcases List.mem_cons.mp hnode with rfl | hnode
        · exact hsize image List.mem_cons_self
        · exact hsize node hnode
      case unformatted => exact hlineage.unformatted.trans (Book.unformatted_cons rfl).symm
  | kept =>
      constructor
      case walks => exact hlineage.walks
      case size => exact hsize
      case unformatted => exact hlineage.unformatted.trans (Book.unformatted_cons rfl).symm

theorem Runs.lineage {book : List Entry} {image : Image}
    (hruns : Runs backends carrier rounding book image) : Lineage book image := by
  induction hruns with
  | start => exact lineage_blank
  | step _ hrun hevent ih => exact (gives_of_runAt hrun hevent).lineage ih _

/-! ## The main statement -/

/-- **An image remembers the images before the pixel changes since the last fetch, the size of what
was fetched, and whether it ever got a format.**  A chain that gives an image is a run. -/
theorem lineage_of_runs {book : List Entry} {image : Image}
    (hruns : Runs backends carrier rounding book image) :
    Lineage book image ∧
      ∀ (steps : List (Step Nat)) (finish : Image) (workspace after : Workspace κ)
        (world outside : ω),
        Session.executeAt backends carrier rounding steps image workspace world =
          ((.ok finish, after), outside) →
        ∃ (more : List Entry) (rest : List (Step Nat)),
          (more.map (·.step)).reverse ++ rest = steps ∧
          Runs backends carrier rounding (more ++ book) finish ∧
          ∀ next ∈ rest.head?, next.Aborts backends carrier rounding finish :=
  ⟨hruns.lineage, fun _ _ _ _ _ _ hrun =>
    exists_runs_of_completes hruns (Session.completes_of_executeAt hrun)⟩

end Steps

/-- A picture is fetched, fits already, and is filled into another box. -/
theorem lineage_of_runs_onePixel :
    ∃ (fetched filled : Image) (book : List Entry),
      Runs (κ := Unit) Session.onePixelBackends .offline id book filled ∧
      Book.replaced book = [fetched] ∧ Book.fetchedSize book = Session.onePixel.size ∧
      Lineage book filled := by
  obtain ⟨image, hdecode, -, hsize⟩ := Session.decode_onePixel
  have hfits : image.size.fitsIn ⟨9, 9⟩ := by
    rw [hsize]
    rfl
  have hfetched := Runs.start.step (Session.runAt_proxy_onePixel hdecode) (.proxy rfl)
  have hkept := hfetched.step (runAt_fit_of_fitsIn hfits .empty ()) (.fits rfl hfits)
  have hruns := hkept.step (runAt_resize ⟨.fill, ⟨2, 2⟩⟩ image .empty ()) (.resize nofun)
  exact ⟨image, _, _, hruns, rfl, rfl, (lineage_of_runs hruns).1⟩

end ImageChain
