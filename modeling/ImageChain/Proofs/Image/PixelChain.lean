import ImageChain.Chain.Execute
import ImageChain.Codec.Plain
import ImageChain.Proofs.Chain.Grammar
import ImageChain.Proofs.Pixel.Trapping

/-!
# Chains that only change pixels

A resize that a chain asks for and a watermark need nothing from outside, so the
only thing that could end a chain of them is arithmetic that leaves its type.
`Trapping.run` runs such steps with the arithmetic that traps, and where it does
the step fails.  It never does: a chain of these steps gives the same images
whichever of the two arithmetics is used.

What one step hands to the next is that the image is storable, that is, that its
sides have 32 bits.  A box that a chain asks for is, and a step leaves the image
as it is, makes nothing of it, brings it inside its box or to the size of its
box.
-/

namespace ImageChain

variable {σ : Type}

/-! ## Steps -/

namespace Trapping

/-- An image brought to a box. -/
def applyResize (rounding : Rounding) (box : Resize) (image : Image) : Option Image :=
  if box.keeps image then some image
  else (resize rounding image.grid box.mode box.box).map image.withGrid

/-- An image with a mark over it. -/
def applyWatermark (watermark : Watermark) (image : Image) : Option Image :=
  (layOver watermark image.grid).map image.withGrid

variable {m : Type → Type} [Monad m]

/-- The image that was computed.  A computation that was stopped is a failure. -/
def rescue (stopped : Failure) : Option Image → ExceptT Failure m Image
  | some image => pure image
  | none => throw stopped

/-- Runs a step on an image, with arithmetic that traps. -/
def run [Codecs] (services : Services σ m) (stopped : Failure) :
    Step σ → Image → ExceptT Failure m Image
  | .resize box, image => rescue stopped (applyResize services.rounding box image)
  | .watermark mark, image => rescue stopped (applyWatermark mark image)
  | step, image => step.run services image

end Trapping

/-- A step that only changes pixels: a resize that a task asks for, or any watermark. -/
inductive IsPixelStep (registry : Registry σ) : Step σ → Prop where
  | resize {accept task : String} {resize : Resize}
      (hparse : Chain.parseTask registry accept task = .ok (.resize resize)) :
      IsPixelStep registry (.resize resize)
  | watermark {watermark : Watermark} (hmark : watermark.mark.size.IsStorable) :
      IsPixelStep registry (.watermark watermark)

namespace Step

/-- The image after a step that only changes pixels. -/
def redraw : Step σ → Image → Image
  | resize box, image => box.apply id image
  | watermark mark, image => mark.apply image
  | _, image => image

/-- The size of an image after a step that only changes pixels. -/
def sizeAfter : Step σ → Size → Size
  | resize box, size => box.sizeAfter size
  | _, size => size

/-- The grid that a box is cut out of is in memory, if one has to be made. -/
def FitsMemory (step : Step σ) (size : Size) : Prop :=
  ∀ box, step = .resize ⟨.fill, box⟩ → (box.isEmpty || size.isEmpty) = false →
    (scaledSize id .fill size box).IsStorable

end Step

/-- Every grid that a box is cut out of is in memory. -/
def FitMemory : List (Step σ) → Size → Prop
  | [], _ => True
  | step :: rest, size => step.FitsMemory size ∧ FitMemory rest (step.sizeAfter size)

/-! ## One step -/

theorem isStorable_of_parseTask {registry : Registry σ} {accept task : String} {resize : Resize}
    (hparse : Chain.parseTask registry accept task = .ok (.resize resize)) :
    resize.box.IsStorable := by
  have hdescribed := Chain.parseTask_eq_ok_iff.mp hparse
  generalize fields '/' task = words at hdescribed
  cases hdescribed with
  | resize _ _ hwide hhigh =>
      exact ⟨Nat.lt_of_le_of_lt hwide (by decide), Nat.lt_of_le_of_lt hhigh (by decide)⟩

theorem Trapping.applyResize_eq_some {box : Resize} {image : Image} (hbox : box.box.IsStorable)
    (hmemory : (Step.resize box : Step σ).FitsMemory image.size) :
    applyResize id box image = some (box.apply id image) := by
  obtain ⟨mode, target⟩ := box
  unfold applyResize Resize.apply
  split
  · rfl
  · have hresize : Trapping.resize id image.grid mode target =
        some (image.grid.resize id mode target) := by
      cases hpixels : target.isEmpty || image.grid.size.isEmpty with
      | true => exact resize_of_isEmpty id hpixels
      | false =>
          cases mode with
          | fit => exact resize_fit hpixels hbox
          | fill => exact resize_fill hpixels (hmemory target rfl hpixels)
    rw [hresize, Option.map_some]

theorem Resize.isStorable_sizeAfter {resize : Resize} {size : Size}
    (hbox : resize.box.IsStorable) (hsize : size.IsStorable) :
    (resize.sizeAfter size).IsStorable := by
  obtain ⟨mode, box⟩ := resize
  cases mode with
  | fit =>
      dsimp only [sizeAfter]
      split
      · exact hsize
      · split
        · exact Size.isStorable_zero
        · next hpixels =>
            obtain ⟨hbelow, hgrid⟩ := Bool.or_eq_false_iff.mp (Bool.eq_false_iff.mpr hpixels)
            exact hbox.of_fitsIn (scaledSize_fit_fitsIn hgrid hbelow)
  | fill =>
      dsimp only [sizeAfter]
      split
      · exact Size.isStorable_zero
      · exact hbox

/-- What a pixel step does to a storable image, with either arithmetic. -/
structure Redraws [Codecs] {m : Type → Type} [Monad m] (services : Services σ m)
    (stopped : Failure) (step : Step σ) (image : Image) : Prop where
  /-- The step runs. -/
  runs : step.run services image = pure (step.redraw image)
  /-- No arithmetic traps. -/
  runs_trapping : Trapping.run services stopped step image = pure (step.redraw image)
  /-- The size follows the rule of the step. -/
  size_eq : (step.redraw image).size = step.sizeAfter image.size
  /-- The sides have 32 bits again. -/
  storable : (step.redraw image).size.IsStorable

section Running

variable {m : Type → Type} [Monad m] (services : Services σ m)
  (hexact : services.rounding = id) (stopped : Failure) {registry : Registry σ}

include hexact

theorem IsPixelStep.redraws [Codecs] {step : Step σ} (hstep : IsPixelStep registry step)
    {image : Image} (himage : image.size.IsStorable) (hmemory : step.FitsMemory image.size) :
    Redraws services stopped step image := by
  cases hstep with
  | @resize accept task resize hparse =>
      have hbox := isStorable_of_parseTask hparse
      have hsize := resize.size_apply image
      constructor
      case runs =>
        rw [Step.run, hexact]
        rfl
      case runs_trapping =>
        rw [Trapping.run, hexact, Trapping.applyResize_eq_some hbox hmemory]
        rfl
      case size_eq => exact hsize
      case storable =>
        show (resize.apply id image).size.IsStorable
        rw [hsize]
        exact Resize.isStorable_sizeAfter hbox himage
  | @watermark watermark hmark =>
      constructor
      case runs => rfl
      case runs_trapping =>
        rw [Trapping.run, Trapping.applyWatermark, Trapping.layOver_eq_some himage hmark]
        rfl
      case size_eq => exact watermark.size_apply image
      case storable => exact himage

/-! ## Many steps -/

omit hexact in
theorem Chain.execute_cons_of_pure [LawfulMonad m] {α ι : Type} {run : α → ι → ExceptT Failure m ι}
    {job : α} {current next : ι} (hjob : run job current = pure next) (rest : List α) :
    execute run (job :: rest) current = execute run rest next := by
  rw [execute, hjob, ExceptT.run_pure, pure_bind]
  rfl

/-- The image after several steps that only change pixels. -/
def redrawn (steps : List (Step σ)) (image : Image) : Image :=
  steps.foldl (fun image step => step.redraw image) image

/-- The size after several steps that only change pixels. -/
def sizeAfterAll (steps : List (Step σ)) (size : Size) : Size :=
  steps.foldl (fun size step => step.sizeAfter size) size

theorem execute_pixelSteps [Codecs] [LawfulMonad m] {steps : List (Step σ)}
    (hsteps : ∀ step ∈ steps, IsPixelStep registry step) {image : Image}
    (himage : image.size.IsStorable) (hmemory : FitMemory steps image.size) :
    Chain.execute (Step.run services) steps image = pure (redrawn steps image) ∧
      Chain.execute (Trapping.run services stopped) steps image = pure (redrawn steps image) ∧
      (redrawn steps image).size = sizeAfterAll steps image.size := by
  induction steps generalizing image with
  | nil => exact ⟨rfl, rfl, rfl⟩
  | cons step rest ih =>
      obtain ⟨hfirst, hrest⟩ := List.forall_mem_cons.mp hsteps
      obtain ⟨hfits, hothers⟩ := hmemory
      have hredraws := hfirst.redraws services hexact stopped himage hfits
      rw [← hredraws.size_eq] at hothers
      obtain ⟨hrun, htrapping, hsize⟩ := ih hrest hredraws.storable hothers
      refine ⟨?_, ?_, ?_⟩
      · rw [Chain.execute_cons_of_pure hredraws.runs, hrun]
        rfl
      · rw [Chain.execute_cons_of_pure hredraws.runs_trapping, htrapping]
        rfl
      · rw [hredraws.size_eq] at hsize
        exact hsize

omit hexact in
theorem FitMemory.take {steps : List (Step σ)} {size : Size} (hmemory : FitMemory steps size)
    (n : Nat) : FitMemory (steps.take n) size := by
  induction steps generalizing size n with
  | nil => rw [List.take_nil]; exact hmemory
  | cons step rest ih =>
      cases n with
      | zero => trivial
      | succ n => exact ⟨hmemory.1, ih hmemory.2 n⟩

omit hexact in
theorem IsPixelStep.sizeAfter_zero {step : Step σ} (hstep : IsPixelStep registry step) :
    step.sizeAfter .zero = .zero := by
  cases hstep with
  | resize _ => exact Resize.sizeAfter_zero _
  | watermark _ => rfl

omit hexact in
/-- Once there is nothing, there is nothing after any further steps. -/
theorem sizeAfterAll_zero {steps : List (Step σ)}
    (hsteps : ∀ step ∈ steps, IsPixelStep registry step) : sizeAfterAll steps .zero = .zero := by
  induction steps with
  | nil => rfl
  | cons step rest ih =>
      obtain ⟨hfirst, hrest⟩ := List.forall_mem_cons.mp hsteps
      rw [sizeAfterAll, List.foldl_cons, hfirst.sizeAfter_zero]
      exact ih hrest

omit hexact in
/-- A chain that is cut off later goes on from the size at which it was cut off earlier. -/
theorem sizeAfterAll_take {steps : List (Step σ)} {first last : Nat} (hle : first ≤ last)
    (size : Size) :
    sizeAfterAll (steps.take last) size =
      sizeAfterAll ((steps.take last).drop first) (sizeAfterAll (steps.take first) size) := by
  have hsplit : steps.take last = steps.take first ++ (steps.take last).drop first := by
    calc steps.take last
        = (steps.take last).take first ++ (steps.take last).drop first :=
          (List.take_append_drop first _).symm
      _ = steps.take first ++ (steps.take last).drop first := by
          rw [List.take_take, Nat.min_eq_left hle]
  conv_lhs => rw [hsplit]
  exact List.foldl_append

/-! ## The main statement -/

/-- **A chain that only changes pixels never fails, and its sizes follow the rules of its steps.**
With exact arithmetic for sizes, and if the grids that boxes are cut out of are in memory, the chain
runs up to every step, and gives the same with arithmetic that traps.  The sizes of its images are
computed step by step; a watermark keeps the size, and once there is nothing, nothing follows. -/
theorem runs_pixelChain [Codecs] [LawfulMonad m] {steps : List (Step σ)}
    (hsteps : ∀ step ∈ steps, IsPixelStep registry step) {image : Image}
    (himage : image.size.IsStorable) (hmemory : FitMemory steps image.size) :
    ∃ trace : Nat → Image,
      (∀ n, Chain.execute (Step.run services) (steps.take n) image = pure (trace n) ∧
        Chain.execute (Trapping.run services stopped) (steps.take n) image = pure (trace n) ∧
        (trace n).size = sizeAfterAll (steps.take n) image.size) ∧
      (Chain.execute (Step.run services) steps image = pure (trace steps.length) ∧
        Chain.execute (Trapping.run services stopped) steps image = pure (trace steps.length) ∧
        (trace steps.length).size = sizeAfterAll steps image.size) ∧
      (∀ n watermark, steps[n]? = some (.watermark watermark) →
        (trace (n + 1)).size = (trace n).size) ∧
      ∀ n later, n ≤ later → (trace n).size = .zero → (trace later).size = .zero := by
  have htaken (n : Nat) : ∀ step ∈ steps.take n, IsPixelStep registry step :=
    fun step hmem => hsteps step (List.mem_of_mem_take hmem)
  have htrace (n : Nat) := execute_pixelSteps services hexact stopped (htaken n) himage
    (hmemory.take n)
  have hsize (n : Nat) : (redrawn (steps.take n) image).size =
      sizeAfterAll (steps.take n) image.size := (htrace n).2.2
  refine ⟨fun n => redrawn (steps.take n) image, htrace, ?_, ?_, ?_⟩
  · have hall := htrace steps.length
    rw [List.take_length] at hall
    dsimp only
    rwa [List.take_length]
  · intro n watermark hwatermark
    rw [hsize, hsize, List.take_add_one, hwatermark]
    exact List.foldl_append
  · intro n later hle hzero
    rw [hsize] at hzero
    rw [hsize, sizeAfterAll_take hle, hzero]
    exact sizeAfterAll_zero fun step hmem => htaken later step (List.mem_of_mem_drop hmem)

end Running

/-! ## A chain with a mark -/

/-- Services that nobody answers. -/
def deafServices : Services Nat Id where
  find _ _ := throw (.notFound "")
  fetch _ := throw (.backend "closed")
  optimize _ _ := throw (.backend "closed")
  rounding := id

/-- A mark that is wider than the image and less high. -/
def wideMark : Watermark := ⟨.generate 9 1 fun _ _ => .transparent, .center⟩

/-- A mark, two resizes and one that leaves nothing. -/
def markedSteps : List (Step Nat) :=
  [.watermark wideMark, .resize ⟨.fill, ⟨4, 2⟩⟩, .resize ⟨.fit, ⟨2, 2⟩⟩, .resize ⟨.fit, ⟨0, 7⟩⟩]

/-- An image of five columns and three rows. -/
def plainImage : Image :=
  Image.blank.withGrid ⟨.rgba8, .generate 5 3 fun _ _ => .transparent⟩

/-- The chain comes to an image of two columns and one row before nothing is left. -/
theorem runs_pixelChain_marked :
    (∃ image, Chain.execute (Step.run deafServices) (markedSteps.take 3) plainImage = pure image ∧
      Chain.execute (Trapping.run deafServices (.backend "Task panicked")) (markedSteps.take 3)
        plainImage = pure image ∧ image.size = ⟨2, 1⟩) ∧
      ∃ image, Chain.execute (Step.run deafServices) markedSteps plainImage = pure image ∧
        image.size = .zero := by
  have hmark : wideMark.mark.size.IsStorable := ⟨by decide, by decide⟩
  have hfill : Chain.parseTask (.empty : Registry Nat) "" "fillResize/4/2" =
      .ok (.resize ⟨.fill, ⟨4, 2⟩⟩) := rfl
  have hfit : Chain.parseTask (.empty : Registry Nat) "" "fitResize/2/2" =
      .ok (.resize ⟨.fit, ⟨2, 2⟩⟩) := rfl
  have hnothing : Chain.parseTask (.empty : Registry Nat) "" "fitResize/none/7" =
      .ok (.resize ⟨.fit, ⟨0, 7⟩⟩) := rfl
  have hsteps : ∀ step ∈ markedSteps, IsPixelStep .empty step := by
    simp only [markedSteps, List.forall_mem_cons]
    exact ⟨.watermark hmark, .resize hfill, .resize hfit, .resize hnothing, List.forall_mem_nil _⟩
  have himage : plainImage.size.IsStorable := ⟨by decide, by decide⟩
  have hmemory : FitMemory markedSteps plainImage.size := by
    refine ⟨fun _ hstep => ?_, fun _ hstep _ => ?_, fun _ hstep => ?_, fun _ hstep => ?_, trivial⟩
      <;> cases hstep
    exact ⟨by decide, by decide⟩
  obtain ⟨trace, htaken, hall, -, -⟩ := runs_pixelChain deafServices rfl
    (.backend "Task panicked") hsteps himage hmemory
  refine ⟨⟨trace 3, (htaken 3).1, (htaken 3).2.1, ?_⟩, trace 4, hall.1, ?_⟩
  · rw [(htaken 3).2.2]
    decide
  · exact hall.2.2.trans (by decide)

end ImageChain
