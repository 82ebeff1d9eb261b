import Mathlib
import ImageChain.Codec.Plain
import ImageChain.Proofs.Chain.Composition
import ImageChain.Proofs.Codec.Recognition

/-!
# What an optimizer is asked

An optimize step sends at most one request, and what is in it comes from four
places: the step, the accept hint, the format that the image has by then, and
the bytes at hand, which may be the reply that an earlier step got.  `Asks` says
what the request of one step is, and `Optimizes` what the step makes of the
answer.

Requests are counted by services that write down what optimizers are asked.
What a chain writes down falls into parts, one for each step that is run:
`chainRun_execute` is the induction along the chain, and `execute_recording` says
that writing down changes nothing else.  The services may do anything in any
monad, so both are about all results that an action may have.
-/

namespace ImageChain

/-! ## What is asked for -/

/-- The format that a step wants for an image of a format. -/
inductive FormatChoice.Wants : FormatChoice → Option Format → Option Format → Prop where
  | given (format : Format) (current : Option Format) :
      Wants (.given (some format)) current (some format)
  | current (current : Option Format) : Wants (.given none) current current
  | avif {accept : String} (havif : "image/avif".toList <:+: accept.toList)
      (current : Option Format) : Wants (.accepted accept) current (some .avif)
  | webp {accept : String} (havif : ¬ "image/avif".toList <:+: accept.toList)
      (hwebp : "image/webp".toList <:+: accept.toList) (current : Option Format) :
      Wants (.accepted accept) current (some .webp)
  | neither {accept : String} (havif : ¬ "image/avif".toList <:+: accept.toList)
      (hwebp : ¬ "image/webp".toList <:+: accept.toList) (current : Option Format) :
      Wants (.accepted accept) current current

theorem Format.mentions_iff {needle text : List Char} :
    mentions needle text = true ↔ needle <:+: text := by
  induction text with
  | nil => simp [mentions]
  | cons c rest ih =>
      rw [mentions, Bool.or_eq_true, ih, List.isPrefixOf_iff_prefix, List.infix_cons_iff]

theorem Optimization.wants_chosen (optimization : Optimization) (current : Option Format) :
    optimization.choice.Wants current (optimization.chosen current) := by
  obtain ⟨address, quality, choice⟩ := optimization
  cases choice with
  | given format =>
      cases format with
      | none => exact .current current
      | some format => exact .given format current
  | accepted accept =>
      have havif : Format.avif.acceptedBy accept = true ↔
          "image/avif".toList <:+: accept.toList := Format.mentions_iff
      have hwebp : Format.webp.acceptedBy accept = true ↔
          "image/webp".toList <:+: accept.toList := Format.mentions_iff
      simp only [chosen, Format.negotiate]
      split
      · next hmentions => exact .avif (havif.mp hmentions) current
      · next hnot =>
        rw [havif] at hnot
        split
        · next hmentions => exact .webp hnot (hwebp.mp hmentions) current
        · next hneither => exact .neither hnot (by rwa [hwebp] at hneither) current

/-- The PNG of an image, or why there is none: its bytes at hand, if it is a PNG and there are any,
and else what the encoder makes of its pixels. -/
inductive Image.Png [Codecs] (image : Image) : Except Failure ByteArray → Prop where
  | atHand {bytes : ByteArray} (hformat : image.format = some .png)
      (hencoded : image.encoded = some bytes) (hsome : bytes.size ≠ 0) : Png image (.ok bytes)
  | fresh (hnone : ∀ bytes, image.format = some .png → image.encoded = some bytes →
      bytes.size = 0) : Png image (Codec.encode image.grid .png)

theorem Image.png_spec [Codecs] (image : Image) : image.Png image.png := by
  rw [png, encodeIn]
  cases hbytes : image.encodedIn .png with
  | some bytes =>
      simp only [encodedIn, Option.ite_none_right_eq_some, Option.filter_eq_some_iff,
        decide_eq_true_eq] at hbytes
      exact .atHand hbytes.1 hbytes.2.1 (by simpa using hbytes.2.2)
  | none =>
      refine .fresh fun bytes hformat hencoded => ?_
      simpa [encodedIn, hformat, hencoded] using hbytes

/-- The format that an image comes back in if a format is wanted.  Optimizers do not write GIF. -/
def Format.orJpeg : Option Format → Format
  | none => .jpeg
  | some .gif => .jpeg
  | some format => format

theorem Optimization.output_eq (optimization : Optimization) (current : Option Format) :
    optimization.output current = Format.orJpeg (optimization.chosen current) := by
  rw [output]
  cases optimization.chosen current with
  | none => rfl
  | some format => cases format <;> rfl

theorem Format.formatCode_orJpeg_ne (wanted : Option Format) :
    Wire.formatCode (orJpeg wanted) ≠ Wire.formatCode .gif := by
  cases wanted with
  | none => decide
  | some format => cases format <;> decide

/-- What a step that wants a format asks an optimizer for an image whose PNG it has. -/
structure Optimization.Asks (optimization : Optimization) (image : Image) (png : ByteArray)
    (wanted : Option Format) (request : Wire.Request) : Prop where
  /-- The format is the one that the step wants for this image. -/
  wants : optimization.choice.Wants image.format wanted
  /-- The image goes out as PNG. -/
  data : request.data = png.toList ∧ request.source = Wire.formatCode .png
  /-- It comes back in the format that is wanted, or as JPEG if that is GIF or none. -/
  output : request.output = Wire.formatCode (Format.orJpeg wanted)
  /-- GIF is never asked for. -/
  notGif : request.output ≠ Wire.formatCode .gif
  /-- A step asks for its own quality, unless a PNG becomes WebP on account of an accept hint. -/
  quality : request.quality = match optimization.choice with
    | .given _ => optimization.quality
    | .accepted _ =>
      if wanted = some .webp ∧ image.format = some .png then 0 else optimization.quality

theorem Optimization.request_cases [Codecs] (optimization : Optimization) (image : Image) :
    (∃ failure, image.Png (.error failure) ∧ optimization.request image = .error failure) ∨
      ∃ png request, image.Png (.ok png) ∧ optimization.request image = .ok request ∧
        optimization.Asks image png (optimization.chosen image.format) request := by
  have hspec := image.png_spec
  unfold request
  cases hpng : image.png with
  | error failure =>
      rw [hpng] at hspec
      exact .inl ⟨failure, hspec, rfl⟩
  | ok png =>
      rw [hpng] at hspec
      refine .inr ⟨png, _, hspec, rfl, ?_⟩
      constructor
      case wants => exact optimization.wants_chosen image.format
      case data => exact ⟨rfl, rfl⟩
      case output => rw [← output_eq]
      case notGif =>
        rw [output_eq]
        exact Format.formatCode_orJpeg_ne _
      case quality => rfl

/-! ## Writing down what is asked -/

/-- A request to an optimizer, and what came back. -/
structure OptimizerCall where
  /-- Where the optimizer is. -/
  address : String
  /-- What it was sent. -/
  request : Wire.Request
  /-- The encoded image that it sent back, or why there is none. -/
  answer : Except Failure (List UInt8)

section Recording

variable [Codecs] {σ : Type} {m : Type → Type} [Monad m]

/-- The same services; what optimizers are asked is written down. -/
def Services.recording (services : Services σ m) : Services σ (StateT (List OptimizerCall) m) where
  find source parameters := ExceptT.mk (StateT.lift (services.find source parameters).run)
  fetch url := ExceptT.mk (StateT.lift (services.fetch url).run)
  optimize address request := ExceptT.mk do
    let answer ← StateT.lift (services.optimize address request).run
    modify (· ++ [⟨address, request, answer⟩])
    return answer
  rounding := services.rounding

/-- A step that is run. -/
structure StepRun (σ : Type) where
  /-- The step. -/
  step : Step σ
  /-- The image that it is given. -/
  image : Image
  /-- The next image, or why there is none. -/
  result : Except Failure Image
  /-- What it asks optimizers. -/
  calls : List OptimizerCall

/-- What an optimize step makes of an image.  Without a PNG nothing is asked, and else one request
is sent to the address of the step.  A reply is the encoded form of the next image, in the format that
was asked for, and everything else stays as it is. -/
inductive Optimization.Optimizes (optimization : Optimization) (image : Image) :
    Except Failure Image → List OptimizerCall → Prop where
  | unsent {failure : Failure} (hpng : image.Png (.error failure)) :
      Optimizes optimization image (.error failure) []
  | sent {png : ByteArray} {wanted : Option Format} {request : Wire.Request}
      (hpng : image.Png (.ok png)) (hasks : optimization.Asks image png wanted request)
      (answer : Except Failure (List UInt8)) :
      Optimizes optimization image
        (answer.map fun reply => ⟨⟨image.grid, some (Format.orJpeg wanted), some ⟨reply.toArray⟩,
          image.originalSize⟩, image.earlier⟩)
        [⟨optimization.address, request, answer⟩]

/-- Optimizers are asked nothing, unless the step is one of optimizing. -/
def StepRun.AsksRightly (stepRun : StepRun σ) : Prop :=
  match stepRun.step with
  | .optimize optimization =>
    optimization.Optimizes stepRun.image stepRun.result stepRun.calls
  | _ => stepRun.calls = []

/-- The steps of a chain that are run, and what comes of it.  Each is given the image of the one
before it, up to the first that gives none.  Its failure is that of the chain, but the signal to stop
leaves the image that was there. -/
inductive ChainRun : List (Step σ) → Image → List (StepRun σ) → Except Failure Image → Prop where
  | finished (image : Image) : ChainRun [] image [] (.ok image)
  | goesOn {rest : List (Step σ)} {next : Image} {others : List (StepRun σ)}
      {result : Except Failure Image} (step : Step σ) (image : Image) (calls : List OptimizerCall)
      (hrest : ChainRun rest next others result) :
      ChainRun (step :: rest) image (⟨step, image, .ok next, calls⟩ :: others) result
  | stops (step : Step σ) (rest : List (Step σ)) (image : Image) (failure : Failure)
      (calls : List OptimizerCall) :
      ChainRun (step :: rest) image [⟨step, image, .error failure, calls⟩]
        (if failure = .abortNext then .ok image else .error failure)

variable [LawfulMonad m] (services : Services σ m)

omit [Codecs] in
theorem run_recording_optimize (address : String) (request : Wire.Request)
    (earlier : List OptimizerCall) :
    (services.recording.optimize address request).run.run earlier =
      (fun answer => (answer, earlier ++ [⟨address, request, answer⟩])) <$>
        (services.optimize address request).run := by
  simp [Services.recording]

/-- What a step writes down, behind what is written already. -/
theorem asksRightly_run (step : Step σ) (image : Image) (earlier : List OptimizerCall) :
    SatisfiesM (fun after : Except Failure Image × List OptimizerCall => ∃ calls,
        after.2 = earlier ++ calls ∧ StepRun.AsksRightly ⟨step, image, after.1, calls⟩)
      ((step.run services.recording image).run.run earlier) := by
  cases step with
  | resize box => exact .pure ⟨[], by simp, rfl⟩
  | watermark mark => exact .pure ⟨[], by simp, rfl⟩
  | proxy url => exact SatisfiesM.bind .trivial fun result _ => .pure ⟨[], by simp, rfl⟩
  | find name source parameters =>
      exact SatisfiesM.bind .trivial fun result _ => .pure ⟨[], by simp, rfl⟩
  | optimize optimization =>
      simp only [Step.run, Step.runOptimize, ExceptT.run_bind, ExceptT.run_mk, pure_bind]
      rcases optimization.request_cases image with ⟨failure, hpng, hrequest⟩ |
        ⟨png, request, hpng, hrequest, hasks⟩
      · rw [hrequest]
        exact .pure ⟨[], by simp, .unsent hpng⟩
      · rw [hrequest]
        simp only
        rw [StateT.run_bind, run_recording_optimize, bind_map_left]
        refine SatisfiesM.bind .trivial fun answer _ => ?_
        cases answer with
        | error failure => exact .pure ⟨_, rfl, .sent hpng hasks (.error failure)⟩
        | ok reply =>
            refine .pure ⟨_, rfl, ?_⟩
            -- the tag that is stored is the one that was sent
            have hsent := Optimization.Optimizes.sent hpng hasks (.ok reply)
            rw [← Optimization.output_eq] at hsent
            exact hsent

theorem chainRun_execute (steps : List (Step σ)) (start : Image) (earlier : List OptimizerCall) :
    SatisfiesM (fun after : Except Failure Image × List OptimizerCall => ∃ stepRuns,
        ChainRun steps start stepRuns after.1 ∧ (∀ stepRun ∈ stepRuns, stepRun.AsksRightly) ∧
          after.2 = earlier ++ stepRuns.flatMap (·.calls))
      ((Chain.execute (Step.run services.recording) steps start).run.run earlier) := by
  induction steps generalizing start earlier with
  | nil => exact .pure ⟨[], .finished start, by simp, by simp⟩
  | cons step rest ih =>
      rw [Chain.execute, ExceptT.run_mk, StateT.run_bind]
      refine SatisfiesM.bind (asksRightly_run services step start earlier) ?_
      rintro ⟨result, after⟩ ⟨calls, rfl, hasks⟩
      cases result with
      | error failure =>
          simp only [Chain.isAbort_iff]
          refine .pure ⟨_, .stops step rest start failure calls, ?_, by simp⟩
          simpa using hasks
      | ok next =>
          -- what the rest writes down comes behind what this step has written down
          refine (ih next (earlier ++ calls)).imp ?_
          rintro ⟨finish, written⟩ ⟨stepRuns, hruns, hothers, rfl⟩
          refine ⟨_, .goesOn step start calls hruns, ?_, by simp⟩
          exact List.forall_mem_cons.mpr ⟨hasks, hothers⟩

/-! ## Writing down changes nothing -/

theorem run_recording (step : Step σ) (image : Image) (earlier : List OptimizerCall) :
    Prod.fst <$> (step.run services.recording image).run.run earlier =
      (step.run services image).run := by
  cases step with
  | resize box => simp [Step.run, Services.recording]
  | watermark mark => simp [Step.run]
  | proxy url => simp [Step.run, Services.recording]
  | find name source parameters => simp [Step.run, Services.recording]
  | optimize optimization =>
      simp only [Step.run, Step.runOptimize, ExceptT.run_bind, ExceptT.run_mk, pure_bind]
      cases optimization.request image with
      | error failure => simp
      | ok request =>
          simp only
          rw [StateT.run_bind, run_recording_optimize, bind_map_left, map_bind]
          refine bind_congr fun answer => ?_
          cases answer <;> simp

theorem execute_recording (steps : List (Step σ)) (start : Image) (earlier : List OptimizerCall) :
    Prod.fst <$> (Chain.execute (Step.run services.recording) steps start).run.run earlier =
      (Chain.execute (Step.run services) steps start).run := by
  induction steps generalizing start earlier with
  | nil => simp [Chain.execute]
  | cons step rest ih =>
      -- with the plain step put as the recording one, both sides go on from the same result
      rw [Chain.execute, Chain.execute, ExceptT.run_mk, ExceptT.run_mk, StateT.run_bind, map_bind,
        ← run_recording services step start earlier, bind_map_left]
      refine bind_congr fun after => ?_
      obtain ⟨result, written⟩ := after
      cases result with
      | error failure => simp
      | ok next => exact ih next written

/-! ## The main statement -/

/-- **In every chain, each step of optimizing that is run sends one request to its optimizer, if the
image has a PNG, and nothing else is sent.**  `Optimization.Asks` says what the request is, and
`Optimization.Optimizes` what becomes of the answer.  If the codecs are lawful, an image without
pixels has no PNG, unless its bytes are at hand. -/
theorem optimizes_of_execute (steps : List (Step σ)) (start : Image) :
    SatisfiesM (fun after : Except Failure Image × List OptimizerCall => ∃ stepRuns,
        ChainRun steps start stepRuns after.1 ∧ (∀ stepRun ∈ stepRuns, stepRun.AsksRightly) ∧
          after.2 = stepRuns.flatMap (·.calls))
      ((Chain.execute (Step.run services.recording) steps start).run.run []) ∧
    Prod.fst <$> (Chain.execute (Step.run services.recording) steps start).run.run [] =
      (Chain.execute (Step.run services) steps start).run ∧
    ∀ [LawfulCodecs] (grid : Grid), grid.size.isEmpty = true →
      ∃ reason, Codec.encode grid .png = .error (.codec reason) := by
  refine ⟨?_, execute_recording services steps start [], fun grid hempty => ?_⟩
  · exact chainRun_execute services steps start []
  · exact Codec.encode_of_isEmpty hempty (by decide)

end Recording

/-- Services in which every optimizer sends back one byte. -/
def oneByteServices : Services Nat Id where
  find _ _ := throw .abortNext
  fetch _ := throw .abortNext
  optimize _ _ := pure [9]
  rounding := id

/-- The first step is sent the bytes at hand and leaves WebP, so there is no PNG for the second. -/
theorem optimizes_two_steps :
    ∃ stepRuns : List (StepRun Nat),
      ChainRun [.optimize ⟨"a:1", 80, .accepted "image/webp,*/*"⟩,
          .optimize ⟨"b:2", 70, .given none⟩]
        (Image.blank.withEncoded ⟨#[1, 2, 3]⟩ .png) stepRuns
        (.error (.codec "Format error encoding PNG")) ∧
      (∀ stepRun ∈ stepRuns, stepRun.AsksRightly) ∧
      stepRuns.flatMap (·.calls) = [⟨"a:1",
        { data := [1, 2, 3], source := 1, output := 2, quality := 0 }, .ok [9]⟩] := by
  have hruns := (optimizes_of_execute oneByteServices
    [.optimize ⟨"a:1", 80, .accepted "image/webp,*/*"⟩, .optimize ⟨"b:2", 70, .given none⟩]
    (Image.blank.withEncoded ⟨#[1, 2, 3]⟩ .png)).1
  obtain ⟨stepRuns, hchain, hasks, hcalls⟩ := SatisfiesM_Id_eq.mp hruns
  have hbytes : ByteArray.toList ⟨#[1, 2, 3]⟩ = [1, 2, 3] := by decide +kernel
  refine ⟨stepRuns, hchain, hasks, hcalls.symm.trans ?_⟩
  show [OptimizerCall.mk "a:1" ⟨ByteArray.toList ⟨#[1, 2, 3]⟩, 1, 2, 0⟩ (.ok [9])] = _
  rw [hbytes]

end ImageChain
