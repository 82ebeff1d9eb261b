import Mathlib.Logic.Relation
import ImageChain.Chain.Execute
import ImageChain.Codec.Plain
import ImageChain.Offline
import ImageChain.Workspace
import ImageChain.Proofs.Image.Reading
import ImageChain.Proofs.Source.Recording

/-!
# Images in use

What a step does to an image is one of four things, however many services it has
asked: the image is fetched anew, gets the reply of an optimizer or new pixels,
or is handed on as it is.  `Happens` says which, and `Event.Gives` which image
comes next; what is proved about events holds of every step.

`Arises` describes the images that come about in this way, and a `Session` keeps
all images of a run with the workspace in which they were made.  A chain makes
its image in one of three ways, `Completes`, and its steps are moves of a session.
-/

namespace ImageChain

/-- A decoded image has no history, and its bytes are its encoded form. -/
theorem Image.decode_cases [Codecs] {bytes : ByteArray} {image : Image}
    (hdecode : decode bytes = .ok image) :
    ∃ format grid, Codec.decode bytes = .ok (format, grid) ∧
      image = ⟨⟨grid, some format, some bytes, bytes.size⟩, []⟩ := by
  unfold decode at hdecode
  split at hdecode
  · next format grid hfound =>
      cases hdecode
      exact ⟨format, grid, hfound, rfl⟩
  · cases hdecode

/-! ## What happens to an image -/

/-- What a step does to an image. -/
inductive Event where
  /-- It is replaced by the image that some bytes hold. -/
  | fetched (bytes : ByteArray)
  /-- It gets the reply of an optimizer as its encoded form. -/
  | optimized (reply : List UInt8)
  /-- It gets new pixels. -/
  | redrawn
  /-- Nothing. -/
  | kept

/-- The last event that did not keep the image, of a history whose latest event comes first. -/
def lastChange : List Event → Option Event
  | [] => none
  | .kept :: earlier => lastChange earlier
  | event :: _ => some event

section Steps

variable [Codecs] {κ ω : Type} (backends : Backends (StateM ω)) (carrier : Carrier κ (StateM ω))
  (rounding : Rounding)

/-- What a step does to an image when it is run in a workspace, and the world outside. -/
def Step.runAt (step : Step Nat) (image : Image) (workspace : Workspace κ) (world : ω) :
    (Except Failure Image × Workspace κ) × ω :=
  ((step.run (Workspace.services backends carrier rounding) image).run.run workspace).run world

/-- What happens to an image in a step.  The bytes of a fetch are those that the backends deliver,
and a reply is the one that the optimizer gives. -/
inductive Happens (image : Image) (workspace : Workspace κ) (world : ω) :
    Step Nat → Event → Prop where
  | proxy {url : String} {bytes : ByteArray}
      (hfetch : ((Request.fetch backends url).run.run world).1 = .ok bytes) :
      Happens image workspace world (.proxy url) (.fetched bytes)
  | find {name : String} {place : Nat} {parameters : List String} {source after : Source}
      {request : Request} {bytes : ByteArray}
      (hsource : workspace.catalog.sources[place]? = some source)
      (hrequest : source.request parameters = .ok (request, after))
      (hperform : ((request.perform backends).run.run world).1 = .ok bytes) :
      Happens image workspace world (.find name place parameters) (.fetched bytes)
  | fits {resize : Resize} (hmode : resize.mode = .fit) (hfits : image.size.fitsIn resize.box) :
      Happens image workspace world (.resize resize) .kept
  | resize {resize : Resize} (hkeeps : ¬ (resize.mode = .fit ∧ image.size.fitsIn resize.box)) :
      Happens image workspace world (.resize resize) .redrawn
  | watermark {watermark : Watermark} :
      Happens image workspace world (.watermark watermark) .redrawn
  | optimize {optimization : Optimization} {request : Wire.Request} {reply : List UInt8}
      (hrequest : optimization.request image = .ok request)
      (hreply : (((carrier.optimize optimization.address request).run.run
        workspace.connections).run world).1.1 = .ok reply) :
      Happens image workspace world (.optimize optimization) (.optimized reply)

/-- The image after an event. -/
inductive Event.Gives (image : Image) : Event → Image → Prop where
  | fetched {bytes : ByteArray} {next : Image} (hdecode : Image.decode bytes = .ok next) :
      Gives image (.fetched bytes) next
  | optimized (reply : List UInt8) (format : Format) :
      Gives image (.optimized reply) (image.withEncoded ⟨reply.toArray⟩ format)
  | redrawn (grid : Grid) : Gives image .redrawn (image.withGrid grid)
  | kept : Gives image .kept image

variable {backends carrier rounding}

theorem decoded_of_runAt_proxy {url : String} {image next : Image} {workspace : Workspace κ}
    {world : ω}
    (hrun : (Step.runAt backends carrier rounding (.proxy url) image workspace world).1.1 =
      .ok next) :
    ∃ bytes, ((Request.fetch backends url).run.run world).1 = .ok bytes ∧
      Image.decode bytes = .ok next := by
  have hfetch : ((Catalog.fetch backends url).run.run world).1 = .ok next := hrun
  rw [Catalog.fetch, ExceptT.run_mk, StateT.run_bind] at hfetch
  rcases hanswer : (Request.fetch backends url).run.run world with ⟨answer, after⟩
  rw [hanswer] at hfetch
  cases answer with
  | error failure => cases hfetch
  | ok bytes => exact ⟨bytes, rfl, hfetch⟩

theorem decoded_of_runAt_find {name : String} {place : Nat} {parameters : List String}
    {image next : Image} {workspace : Workspace κ} {world : ω}
    (hrun : (Step.runAt backends carrier rounding (.find name place parameters) image workspace
      world).1.1 = .ok next) :
    ∃ source request after bytes, workspace.catalog.sources[place]? = some source ∧
      source.request parameters = .ok (request, after) ∧
      ((request.perform backends).run.run world).1 = .ok bytes ∧ Image.decode bytes = .ok next := by
  have hfind :
      (((Catalog.find backends place parameters).run.run workspace.catalog).run world).1.1 =
        .ok next := hrun
  unfold Catalog.find at hfind
  simp only [ExceptT.run_mk, StateT.run_bind, StateT.run_get, pure_bind] at hfind
  cases hsource : workspace.catalog.sources[place]? with
  | none =>
      rw [hsource] at hfind
      cases hfind
  | some source =>
      rw [hsource] at hfind
      dsimp only at hfind
      cases hrequest : source.request parameters with
      | error failure =>
          rw [hrequest] at hfind
          cases hfind
      | ok made =>
          obtain ⟨request, changed⟩ := made
          rw [hrequest] at hfind
          dsimp only at hfind
          rw [Catalog.run_modify_lift] at hfind
          cases hanswer : ((request.perform backends).run.run world).1 with
          | error failure =>
              rw [hanswer] at hfind
              cases hfind
          | ok bytes =>
              rw [hanswer] at hfind
              exact ⟨source, request, changed, bytes, rfl, hrequest, hanswer, hfind⟩

/-- The connections are all that a call to an optimizer changes in a workspace. -/
theorem run_services_optimize (address : String) (request : Wire.Request) (workspace : Workspace κ)
    (world : ω) {result : Except Failure (List UInt8)} {connections : ConnectionCache κ} {after : ω}
    (hanswer : ((carrier.optimize address request).run.run workspace.connections).run world =
      ((result, connections), after)) :
    (((Workspace.services backends carrier rounding).optimize address request).run.run
      workspace).run world = ((result, { workspace with connections := connections }), after) := by
  show ((Workspace.withConnections (carrier.optimize address request)).run.run workspace).run
    world = _
  rw [Workspace.withConnections, ExceptT.run_mk]
  show (StateT.run (do
    let (result, connections) ← (carrier.optimize address request).run.run workspace.connections
    return (result, { workspace with connections := connections })) world) = _
  rw [StateT.run_bind, hanswer]
  rfl

theorem replied_of_runAt_optimize {optimization : Optimization} {image next : Image}
    {workspace : Workspace κ} {world : ω}
    (hrun : (Step.runAt backends carrier rounding (.optimize optimization) image workspace
      world).1.1 = .ok next) :
    ∃ request reply, optimization.request image = .ok request ∧
      (((carrier.optimize optimization.address request).run.run workspace.connections).run
        world).1.1 = .ok reply ∧ next = optimization.finish image reply := by
  unfold Step.runAt Step.run Step.runOptimize at hrun
  simp only [ExceptT.run_bind, ExceptT.run_mk, pure_bind] at hrun
  cases hrequest : optimization.request image with
  | error failure =>
      rw [hrequest] at hrun
      cases hrun
  | ok request =>
      rw [hrequest] at hrun
      dsimp only at hrun
      rcases hanswer : ((carrier.optimize optimization.address request).run.run
        workspace.connections).run world with ⟨⟨result, connections⟩, after⟩
      rw [StateT.run_bind, StateT.run_bind, run_services_optimize _ _ _ _ hanswer] at hrun
      cases result with
      | error failure => cases hrun
      | ok reply =>
          cases hrun
          exact ⟨request, reply, rfl, by rw [hanswer], rfl⟩

omit [Codecs] in
theorem Resize.keeps_iff {resize : Resize} {image : Image} :
    resize.keeps image = true ↔ resize.mode = .fit ∧ image.size.fitsIn resize.box := by
  simp [Resize.keeps]

theorem runAt_resize (resize : Resize) (image : Image) (workspace : Workspace κ) (world : ω) :
    Step.runAt backends carrier rounding (.resize resize) image workspace world =
      ((.ok (resize.apply rounding image), workspace), world) := rfl

theorem runAt_fit_of_fitsIn {image : Image} {box : Size} (hfits : image.size.fitsIn box)
    (workspace : Workspace κ) (world : ω) :
    Step.runAt backends carrier rounding (.resize ⟨.fit, box⟩) image workspace world =
      ((.ok image, workspace), world) := by
  rw [runAt_resize, Resize.apply, if_pos (Resize.keeps_iff.mpr ⟨rfl, hfits⟩)]

/-- What happens to an image decides which image comes next. -/
theorem gives_of_runAt {step : Step Nat} {image next : Image} {workspace after : Workspace κ}
    {world outside : ω} {event : Event}
    (hrun : Step.runAt backends carrier rounding step image workspace world =
      ((.ok next, after), outside))
    (hevent : Happens backends carrier image workspace world step event) :
    event.Gives image next := by
  have hnext : (step.runAt backends carrier rounding image workspace world).1.1 = .ok next := by
    rw [hrun]
  cases hevent with
  | proxy hfetch =>
      obtain ⟨bytes, hbytes, hdecode⟩ := decoded_of_runAt_proxy hnext
      cases hfetch.symm.trans hbytes
      exact .fetched hdecode
  | find hsource hrequest hperform =>
      obtain ⟨_, _, _, bytes, hfound, hmade, hbytes, hdecode⟩ := decoded_of_runAt_find hnext
      cases hsource.symm.trans hfound
      cases hrequest.symm.trans hmade
      cases hperform.symm.trans hbytes
      exact .fetched hdecode
  | @fits resize hmode hfits =>
      have happly : resize.apply rounding image = next := Except.ok.inj hnext
      rw [Resize.apply, if_pos (Resize.keeps_iff.mpr ⟨hmode, hfits⟩)] at happly
      exact happly ▸ .kept
  | @resize resize hkeeps =>
      have happly : resize.apply rounding image = next := Except.ok.inj hnext
      rw [Resize.apply, if_neg (mt Resize.keeps_iff.mp hkeeps)] at happly
      exact happly ▸ .redrawn _
  | @watermark watermark =>
      have happly : watermark.apply image = next := Except.ok.inj hnext
      exact happly ▸ .redrawn _
  | optimize hrequest hreply =>
      obtain ⟨request, reply, hmade, hanswer, rfl⟩ := replied_of_runAt_optimize hnext
      cases hrequest.symm.trans hmade
      cases hreply.symm.trans hanswer
      exact .optimized _ _

/-- Something happens in every step that gives an image. -/
theorem exists_happens {step : Step Nat} {image next : Image} {workspace after : Workspace κ}
    {world outside : ω}
    (hrun : Step.runAt backends carrier rounding step image workspace world =
      ((.ok next, after), outside)) :
    ∃ event, Happens backends carrier image workspace world step event := by
  have hnext : (step.runAt backends carrier rounding image workspace world).1.1 = .ok next := by
    rw [hrun]
  cases step with
  | resize resize =>
      by_cases hkeeps : resize.mode = .fit ∧ image.size.fitsIn resize.box
      · exact ⟨_, .fits hkeeps.1 hkeeps.2⟩
      · exact ⟨_, .resize hkeeps⟩
  | watermark watermark => exact ⟨_, .watermark⟩
  | proxy url =>
      obtain ⟨bytes, hbytes, -⟩ := decoded_of_runAt_proxy hnext
      exact ⟨_, .proxy hbytes⟩
  | find name place parameters =>
      obtain ⟨_, _, _, _, hsource, hrequest, hperform, -⟩ := decoded_of_runAt_find hnext
      exact ⟨_, .find hsource hrequest hperform⟩
  | optimize optimization =>
      obtain ⟨_, _, hrequest, hreply, -⟩ := replied_of_runAt_optimize hnext
      exact ⟨_, .optimize hrequest hreply⟩

end Steps

/-! ## Sessions -/

/-- An image of a session, and what has happened to it, latest first. -/
structure Traced where
  /-- The image. -/
  image : Image
  /-- What has happened to it. -/
  history : List Event

section Sessions

variable [Codecs]

/-- The image after it has been read. -/
def Traced.afterReading (reading : Reading) (traced : Traced) : Traced :=
  { traced with image := traced.image.afterReading reading }

/-- An image that comes about from the empty one.  It may have been read at any time. -/
inductive Arises : Traced → Prop where
  /-- The empty image. -/
  | blank : Arises ⟨.blank, []⟩
  /-- An image that something has happened to. -/
  | change {traced : Traced} {event : Event} {next : Image} (hbefore : Arises traced)
      (hgives : event.Gives traced.image next) : Arises ⟨next, event :: traced.history⟩
  /-- An image that has been read. -/
  | read {traced : Traced} (hbefore : Arises traced) (reading : Reading) :
      Arises (traced.afterReading reading)

namespace Arises

theorem decoded {bytes : ByteArray} {image : Image} (hdecode : Image.decode bytes = .ok image) :
    Arises ⟨image, [.fetched bytes]⟩ :=
  .change .blank (.fetched hdecode)

theorem withGrid {traced : Traced} (hbefore : Arises traced) (grid : Grid) :
    Arises ⟨traced.image.withGrid grid, .redrawn :: traced.history⟩ :=
  .change hbefore (.redrawn grid)

theorem withEncoded {traced : Traced} (hbefore : Arises traced) (bytes : ByteArray)
    (format : Format) :
    Arises ⟨traced.image.withEncoded bytes format,
      .optimized bytes.data.toList :: traced.history⟩ :=
  .change hbefore (.optimized bytes.data.toList format)

end Arises

/-- A run of steps. -/
structure Session (κ ω : Type) where
  /-- The sources and the connections. -/
  workspace : Workspace κ
  /-- What is outside. -/
  world : ω
  /-- The images there have been, the current one first. -/
  images : List Traced

namespace Session

variable {κ ω : Type}

/-- A session begins with the empty image, or with one that is decoded from bytes. -/
inductive Begins (session : Session κ ω) : Prop where
  | blank (himages : session.images = [⟨.blank, []⟩])
  | decoded {bytes : ByteArray} {image : Image} (hdecode : Image.decode bytes = .ok image)
      (himages : session.images = [⟨image, [.fetched bytes]⟩])

/-- What can happen in a session. -/
inductive Moves (backends : Backends (StateM ω)) (carrier : Carrier κ (StateM ω))
    (rounding : Rounding) : Session κ ω → Session κ ω → Prop where
  /-- A step makes another image of the current one. -/
  | step {step : Step Nat} {event : Event} {workspace after : Workspace κ} {world outside : ω}
      {current : Traced} {older : List Traced} {next : Image}
      (hrun : step.runAt backends carrier rounding current.image workspace world =
        ((.ok next, after), outside))
      (hevent : Happens backends carrier current.image workspace world step event)
      (hchange : event ≠ .kept) :
      Moves backends carrier rounding ⟨workspace, world, current :: older⟩
        ⟨after, outside, ⟨next, event :: current.history⟩ :: current :: older⟩
  /-- A step hands the current image on. -/
  | keep {step : Step Nat} {workspace after : Workspace κ} {world outside : ω}
      {current : Traced} {older : List Traced} {next : Image}
      (hrun : step.runAt backends carrier rounding current.image workspace world =
        ((.ok next, after), outside))
      (hevent : Happens backends carrier current.image workspace world step .kept) :
      Moves backends carrier rounding ⟨workspace, world, current :: older⟩
        ⟨after, outside, ⟨next, .kept :: current.history⟩ :: older⟩
  /-- A step fails. -/
  | fail {step : Step Nat} {workspace after : Workspace κ} {world outside : ω}
      {current : Traced} {older : List Traced} {failure : Failure}
      (hrun : step.runAt backends carrier rounding current.image workspace world =
        ((.error failure, after), outside)) :
      Moves backends carrier rounding ⟨workspace, world, current :: older⟩
        ⟨after, outside, current :: older⟩
  /-- One of the images is read. -/
  | read (session : Session κ ω) (place : Nat) (reading : Reading) :
      Moves backends carrier rounding session
        { session with images := session.images.modify place (·.afterReading reading) }
  /-- Something else goes on. -/
  | outside (session : Session κ ω) (workspace : Workspace κ) (world : ω) :
      Moves backends carrier rounding session ⟨workspace, world, session.images⟩

variable {backends : Backends (StateM ω)} {carrier : Carrier κ (StateM ω)} {rounding : Rounding}

theorem Begins.arises {session : Session κ ω} (hbegins : session.Begins) :
    ∀ traced ∈ session.images, Arises traced := by
  intro traced hmem
  cases hbegins with
  | blank himages =>
      rw [himages, List.mem_singleton] at hmem
      exact hmem ▸ .blank
  | decoded hdecode himages =>
      rw [himages, List.mem_singleton] at hmem
      exact hmem ▸ .decoded hdecode

theorem Moves.arises {session after : Session κ ω}
    (hmove : Moves backends carrier rounding session after)
    (harises : ∀ traced ∈ session.images, Arises traced) :
    ∀ traced ∈ after.images, Arises traced := by
  intro traced hmem
  cases hmove with
  | step hrun hevent _ =>
      rcases List.mem_cons.mp hmem with rfl | hmem
      · exact .change (harises _ List.mem_cons_self) (gives_of_runAt hrun hevent)
      · exact harises traced hmem
  | keep hrun hevent =>
      rcases List.mem_cons.mp hmem with rfl | hmem
      · exact .change (harises _ List.mem_cons_self) (gives_of_runAt hrun hevent)
      · exact harises traced (List.mem_cons_of_mem _ hmem)
  | fail _ => exact harises traced hmem
  | read _ place reading =>
      obtain ⟨i, hi, rfl⟩ := List.mem_iff_getElem.mp hmem
      rw [List.length_modify] at hi
      rw [List.getElem_modify]
      split
      · exact (harises _ (List.getElem_mem hi)).read reading
      · exact harises _ (List.getElem_mem hi)
  | outside => exact harises traced hmem

/-- Every image of a session comes about from the empty one. -/
theorem arises_of_moves {start session : Session κ ω} (hbegins : start.Begins)
    (hmoves : Relation.ReflTransGen (Moves backends carrier rounding) start session) :
    ∀ traced ∈ session.images, Arises traced := by
  induction hmoves with
  | refl => exact hbegins.arises
  | tail _ hmove ih => exact hmove.arises ih

/-! ## Chains in a session -/

/-- What a chain does to an image when it is run in a workspace, and the world outside. -/
def executeAt (backends : Backends (StateM ω)) (carrier : Carrier κ (StateM ω))
    (rounding : Rounding) (steps : List (Step Nat)) (image : Image) (workspace : Workspace κ)
    (world : ω) : (Except Failure Image × Workspace κ) × ω :=
  ((Chain.execute (Step.run (Workspace.services backends carrier rounding)) steps image).run.run
    workspace).run world

theorem executeAt_cons (step : Step Nat) (rest : List (Step Nat)) (image : Image)
    (workspace : Workspace κ) (world : ω) :
    executeAt backends carrier rounding (step :: rest) image workspace world =
      match step.runAt backends carrier rounding image workspace world with
      | ((.ok next, after), outside) =>
        executeAt backends carrier rounding rest next after outside
      | ((.error failure, after), outside) =>
        ((if failure.isAbort then .ok image else .error failure, after), outside) := by
  rw [executeAt, Chain.execute, ExceptT.run_mk, StateT.run_bind, StateT.run_bind, Step.runAt]
  rcases ((step.run (Workspace.services backends carrier rounding) image).run.run workspace).run
    world with ⟨⟨result, after⟩, outside⟩
  cases result <;> rfl

/-- How a chain gives an image, and what is left of the workspace and the world then. -/
inductive Completes (backends : Backends (StateM ω)) (carrier : Carrier κ (StateM ω))
    (rounding : Rounding) (finish : Image) (after : Workspace κ) (outside : ω) :
    List (Step Nat) → Image → Workspace κ → ω → Prop where
  /-- There is no step left. -/
  | done : Completes backends carrier rounding finish after outside [] finish after outside
  /-- The next step signals to stop, which leaves the current image. -/
  | aborts {step : Step Nat} {rest : List (Step Nat)} {workspace : Workspace κ} {world : ω}
      {failure : Failure}
      (hstep : step.runAt backends carrier rounding finish workspace world =
        ((.error failure, after), outside))
      (habort : failure.isAbort = true) :
      Completes backends carrier rounding finish after outside (step :: rest) finish workspace
        world
  /-- The next step gives an image, and the others go on with it. -/
  | step {step : Step Nat} {rest : List (Step Nat)} {image next : Image}
      {workspace between : Workspace κ} {world meanwhile : ω}
      (hstep : step.runAt backends carrier rounding image workspace world =
        ((.ok next, between), meanwhile))
      (hrest : Completes backends carrier rounding finish after outside rest next between
        meanwhile) :
      Completes backends carrier rounding finish after outside (step :: rest) image workspace world

theorem completes_of_executeAt {steps : List (Step Nat)} {image finish : Image}
    {workspace after : Workspace κ} {world outside : ω}
    (hrun : executeAt backends carrier rounding steps image workspace world =
      ((.ok finish, after), outside)) :
    Completes backends carrier rounding finish after outside steps image workspace world := by
  induction steps generalizing image workspace world with
  | nil =>
      cases hrun
      exact .done
  | cons step rest ih =>
      rw [executeAt_cons] at hrun
      rcases hstep : step.runAt backends carrier rounding image workspace world with
        ⟨⟨result, between⟩, meanwhile⟩
      rw [hstep] at hrun
      cases result with
      | error failure =>
          -- no other failure than the signal to stop leaves an image
          cases habort : failure.isAbort with
          | false => simp [habort] at hrun
          | true =>
              simp only [habort, if_true, Prod.mk.injEq, Except.ok.injEq] at hrun
              obtain ⟨⟨rfl, rfl⟩, rfl⟩ := hrun
              exact .aborts hstep habort
      | ok next => exact .step hstep (ih hrun)

/-- A session can take every step of a chain, and the result is its current image. -/
theorem exists_moves_of_executeAt (current : Traced) (older : List Traced)
    {steps : List (Step Nat)} {workspace after : Workspace κ} {world outside : ω} {finish : Image}
    (hrun : executeAt backends carrier rounding steps current.image workspace world =
      ((.ok finish, after), outside)) :
    ∃ history others, Relation.ReflTransGen (Moves backends carrier rounding)
      ⟨workspace, world, current :: older⟩ ⟨after, outside, ⟨finish, history⟩ :: others⟩ := by
  have hcompletes := completes_of_executeAt hrun
  clear hrun
  generalize hcurrent : current.image = image at hcompletes
  induction hcompletes generalizing current older with
  | done =>
      subst hcurrent
      exact ⟨current.history, older, .refl⟩
  | aborts hstep =>
      subst hcurrent
      exact ⟨current.history, older, .single (.fail hstep)⟩
  | @step step rest image next workspace between world meanwhile hstep _ ih =>
      subst hcurrent
      obtain ⟨event, hevent⟩ := exists_happens hstep
      by_cases hkept : event = .kept
      · subst hkept
        obtain ⟨history, others, hmoves⟩ := ih ⟨next, .kept :: current.history⟩ older rfl
        exact ⟨history, others, .head (.keep hstep hevent) hmoves⟩
      · obtain ⟨history, others, hmoves⟩ :=
          ih ⟨next, event :: current.history⟩ (current :: older) rfl
        exact ⟨history, others, .head (.step hstep hevent hkept) hmoves⟩

end Session

end Sessions

/-! ## A world with one picture -/

namespace Session

/-- A GIF of one pixel. -/
def onePixel : ByteArray :=
  ⟨#[0x47, 0x49, 0x46, 0x38, 0x39, 0x61, 1, 0, 1, 0, 0x80, 0, 0, 0, 0, 0, 0xFF, 0xFF, 0xFF, 0x2C, 0,
    0, 0, 0, 1, 0, 1, 0, 0, 2, 2, 0x44, 1, 0, 0x3B]⟩

theorem decode_onePixel :
    ∃ image, Image.decode onePixel = .ok image ∧ image.format = some .gif ∧
      image.size = ⟨1, 1⟩ := by
  have hdecodes : (Image.decode onePixel).toOption.map (fun image => (image.format, image.size)) =
      some (some .gif, ⟨1, 1⟩) := by decide +kernel
  cases hdecode : Image.decode onePixel with
  | error failure =>
      rw [hdecode] at hdecodes
      cases hdecodes
  | ok image =>
      rw [hdecode] at hdecodes
      exact ⟨image, rfl, by simpa [Except.toOption] using hdecodes⟩

/-- Backends that know one picture. -/
def onePixelBackends : Backends (StateM Unit) :=
  { Backends.offline fun _ => pure (.error "closed") with
    get := fun _ => pure (.ok ⟨200, onePixel⟩) }

theorem runAt_proxy_onePixel {image : Image} (hdecode : Image.decode onePixel = .ok image) :
    Step.runAt onePixelBackends .offline id (.proxy "http://a/x.gif") .blank
      (.empty : Workspace Unit) () = ((.ok image, .empty), ()) := by
  rw [← hdecode]
  rfl

end Session

end ImageChain
