import ImageChain.Proofs.Chain.Composition
import ImageChain.Proofs.Codec.Plain
import ImageChain.Proofs.Codec.Recognition
import ImageChain.Proofs.Image.Session
import ImageChain.Proofs.Program.Operations
import ImageChain.Proofs.Simulation.FileTree
import ImageChain.Simulation.Machine

/-!
# All or nothing

The program writes one file, once, and only after everything else has gone well.
Before that it may read files and ask servers and optimizers for as long as it
likes, and a time limit may cut it off anywhere in the middle.  `Quiet` is what
survives all of this: an action leaves the files alone, and comes to an end
unless a deadline cuts it off.  It holds of every request and of reading, so it
holds of making the image by what is known of the program's operations.

`Course` describes how the making of an image goes, stage by stage, and why it
ends where it ends.
-/

namespace ImageChain

namespace Timed

variable {ω α β : Type}

/-- What comes of an action that begins at a moment and may have a deadline. -/
def runAt (action : Timed ω α) (deadline : Option Duration) (moment : Moment ω) :
    Except Unit α × Moment ω :=
  (action deadline).run moment

theorem runAt_bind (action : Timed ω α) (next : α → Timed ω β) (deadline : Option Duration)
    (moment : Moment ω) :
    (action >>= next).runAt deadline moment =
      match action.runAt deadline moment with
      | (.ok a, after) => (next a).runAt deadline after
      | (.error (), after) => (.error (), after) := by
  show ((action deadline >>= fun a => next a deadline : ExceptT Unit _ _).run).run moment = _
  rw [ExceptT.run_bind, StateT.run_bind]
  rcases haction : (action deadline).run.run moment with ⟨result, after⟩
  have hrun : action.runAt deadline moment = (result, after) := haction
  rw [hrun]
  cases result <;> rfl

theorem runAt_sleep (duration : Duration) (deadline : Option Duration) (moment : Moment ω) :
    (sleep duration : Timed ω Unit).runAt deadline moment =
      if deadline.all (moment.now + duration).atMost then
        (.ok (), { moment with now := moment.now + duration })
      else (.error (), { moment with now := deadline.getD moment.now }) := by
  cases deadline with
  | none => rfl
  | some deadline =>
      rw [Option.all_some, Option.getD_some]
      show ((if (moment.now + duration).atMost deadline then _ else _ : Timed ω Unit)
        (some deadline)).run moment = _
      by_cases hlimit : (moment.now + duration).atMost deadline
      · rw [if_pos hlimit, if_pos hlimit]
        rfl
      · rw [if_neg hlimit, if_neg hlimit]
        rfl

/-- An action with a limit has a deadline, which is that of the surroundings if it comes earlier. -/
theorem runAt_within (limit : Duration) (action : Timed ω α) (outer : Option Duration)
    (moment : Moment ω) :
    (within limit action).runAt outer moment =
      match action.runAt
        (some (outer.elim (moment.now + limit) (·.shorter (moment.now + limit)))) moment with
      | (.ok a, after) => (.ok (some a), after)
      | (.error (), after) =>
        if outer.elim (moment.now + limit) (·.shorter (moment.now + limit)) = moment.now + limit
        then (.ok none, after) else (.error (), after) := by
  cases outer <;> rfl

end Timed

namespace Machine

variable {κ ω α : Type}

/-- An action that leaves the files alone, and ends unless a deadline cuts it off. -/
def Quiet (action : Timed (Machine ω) α) : Prop :=
  ∀ deadline moment, (action.runAt deadline moment).2.world.files = moment.world.files ∧
    (deadline = none → ∃ a, (action.runAt deadline moment).1 = .ok a)

theorem closed_quiet : Closed (m := Timed (Machine ω)) (@Quiet ω) where
  pure a _ _ := ⟨rfl, fun _ => ⟨a, rfl⟩⟩
  bind := by
    intro α β action next haction hnext deadline moment
    obtain ⟨hfiles, hends⟩ := haction deadline moment
    rw [Timed.runAt_bind]
    rcases hrun : action.runAt deadline moment with ⟨result, after⟩
    rw [hrun] at hfiles hends
    cases result with
    | error cut => exact ⟨hfiles, fun hnone => by simpa using hends hnone⟩
    | ok a =>
        obtain ⟨hrest, hlast⟩ := hnext a deadline after
        exact ⟨hrest.trans hfiles, hlast⟩

theorem quiet_sleep (duration : Duration) :
    Quiet (Timed.sleep duration : Timed (Machine ω) Unit) := by
  intro deadline moment
  rw [Timed.runAt_sleep]
  constructor
  · split <;> rfl
  · rintro rfl
    exact ⟨(), rfl⟩

theorem quiet_world : Quiet (Timed.world : Timed (Machine ω) (Machine ω)) :=
  fun _ moment => ⟨rfl, fun _ => ⟨moment.world, rfl⟩⟩

theorem quiet_perform (effect : Effect ω α) : Quiet (perform effect) := by
  refine closed_quiet.bind quiet_world fun machine => ?_
  refine closed_quiet.bind (fun _ _ => ⟨rfl, fun _ => ⟨(), rfl⟩⟩) fun _ => ?_
  exact closed_quiet.bind (quiet_sleep _) fun _ => closed_quiet.pure _

theorem quiet_readFile (delay : Duration) (path : String) :
    Quiet (readFile delay path : Timed (Machine ω) _) := by
  refine closed_quiet.bind (quiet_sleep delay) fun _ => ?_
  exact closed_quiet.bind quiet_world fun _ => closed_quiet.pure _

theorem quiet_within (limit : Duration) {action : Timed (Machine ω) α} (haction : Quiet action) :
    Quiet (Timed.within limit action) := by
  intro outer moment
  obtain ⟨hfiles, -⟩ :=
    haction (some (outer.elim (moment.now + limit) (·.shorter (moment.now + limit)))) moment
  rw [Timed.runAt_within]
  rcases hrun : action.runAt
    (some (outer.elim (moment.now + limit) (·.shorter (moment.now + limit)))) moment with
    ⟨result, after⟩
  rw [hrun] at hfiles
  cases result with
  | ok a => exact ⟨hfiles, fun _ => ⟨some a, rfl⟩⟩
  | error cut =>
      constructor
      · dsimp only
        split <;> exact hfiles
      · -- with no deadline around it, the action was cut off by the limit itself
        rintro rfl
        exact ⟨none, by simp⟩

theorem obey_quiet (surroundings : Surroundings κ ω) : (system surroundings).Obey (@Quiet ω) where
  backends :=
    { readFile := fun path => quiet_readFile _ path
      get := fun _ => quiet_perform _
      getObject := fun _ _ _ _ => quiet_perform _
      download := fun _ _ _ => quiet_perform _ }
  carrier :=
    { connect := fun _ => quiet_perform _
      call := fun _ _ => quiet_perform _ }
  within limit _ haction := quiet_within limit haction

theorem Quiet.ends {action : Timed (Machine ω) α} (haction : Quiet action)
    (moment : Moment (Machine ω)) :
    ∃ a after, action.runAt none moment = (.ok a, after) ∧
      after.world.files = moment.world.files := by
  obtain ⟨hfiles, hends⟩ := haction none moment
  obtain ⟨a, ha⟩ := hends rfl
  exact ⟨a, _, Prod.ext ha rfl, hfiles⟩

end Machine

namespace Program

section AnyCodecs

variable [Codecs] {κ ω : Type} (surroundings : Surroundings κ ω) (line : CommandLine)
  (start : Moment (Machine ω))

/-! ## How an image is made -/

/-- The settings have been loaded and all sources registered. -/
structure Ready (config : Config) (registry : Registry Nat) (catalog : Catalog)
    (ready : Moment (Machine ω)) : Prop where
  /-- All sources have been registered with the settings that have been loaded. -/
  registered : ∃ loaded,
    (loadConfig (Machine.system surroundings) line.config).runAt none start =
        (.ok (.ok config), loaded) ∧
      (((registerSources (Machine.system surroundings) config).run .empty).run .empty).runAt none
        loaded = (.ok ((.ok (), registry), catalog), ready)

/-- The steps of a chain, run from the empty image. -/
def execution (steps : List (Step Nat)) :
    ExceptT Failure (StateT (Workspace κ) (Timed (Machine ω))) Image :=
  let system := Machine.system surroundings
  Chain.execute (Step.run (Workspace.services system.backends system.carrier system.rounding))
    steps .blank

/-- What comes of the steps of a chain, within the time that the settings allow. -/
def runSteps (config : Config) (catalog : Catalog) (steps : List (Step Nat))
    (ready : Moment (Machine ω)) :
    Except Unit (Except Failure Image × Workspace κ) × Moment (Machine ω) :=
  ((execution surroundings steps).run.run ⟨catalog, .empty⟩).runAt
    (config.timeout.map (ready.now + ·)) ready

/-- How the image that a command line asks for is made: one of the stages fails, or all go well. -/
inductive Course : Except Fault ByteArray → Moment (Machine ω) → Prop where
  | unloaded {failure : Failure} {after : Moment (Machine ω)}
      (hload : (loadConfig (Machine.system surroundings) line.config).runAt none start =
        (.ok (.error failure), after)) :
      Course (.error ⟨some ("Failed to load " ++ line.config), failure.message⟩) after
  | unregistered {config : Config} {registry : Registry Nat} {catalog : Catalog}
      {failure : Failure} {loaded after : Moment (Machine ω)}
      (hload : (loadConfig (Machine.system surroundings) line.config).runAt none start =
        (.ok (.ok config), loaded))
      (hregister : (((registerSources (Machine.system surroundings) config).run .empty).run
        .empty).runAt none loaded = (.ok ((.error failure, registry), catalog), after)) :
      Course (.error (.ofFailure failure)) after
  | unparsed {config : Config} {registry : Registry Nat} {catalog : Catalog} {failure : Failure}
      {ready : Moment (Machine ω)}
      (hready : Ready surroundings line start config registry catalog ready)
      (hparse : Chain.parse registry line.accept line.chain = .error failure) :
      Course (.error (.ofFailure failure)) ready
  | late {config : Config} {registry : Registry Nat} {catalog : Catalog} {steps : List (Step Nat)}
      {limit : Duration} {ready after : Moment (Machine ω)}
      (hready : Ready surroundings line start config registry catalog ready)
      (hparse : Chain.parse registry line.accept line.chain = .ok steps)
      (htimeout : config.timeout = some limit)
      (hsteps : runSteps surroundings config catalog steps ready = (.error (), after)) :
      Course (.error (.ofFailure (.timeout limit))) after
  | failed {config : Config} {registry : Registry Nat} {catalog : Catalog}
      {steps : List (Step Nat)} {failure : Failure} {workspace : Workspace κ}
      {ready after : Moment (Machine ω)}
      (hready : Ready surroundings line start config registry catalog ready)
      (hparse : Chain.parse registry line.accept line.chain = .ok steps)
      (hsteps : runSteps surroundings config catalog steps ready =
        (.ok (.error failure, workspace), after)) :
      Course (.error (.ofFailure failure)) after
  | unencoded {config : Config} {registry : Registry Nat} {catalog : Catalog}
      {steps : List (Step Nat)} {image : Image} {failure : Failure} {workspace : Workspace κ}
      {ready after : Moment (Machine ω)}
      (hready : Ready surroundings line start config registry catalog ready)
      (hparse : Chain.parse registry line.accept line.chain = .ok steps)
      (hsteps : runSteps surroundings config catalog steps ready =
        (.ok (.ok image, workspace), after))
      (hbytes : image.bytes = .error failure) :
      Course (.error (.ofFailure failure)) after
  | made {config : Config} {registry : Registry Nat} {catalog : Catalog}
      {steps : List (Step Nat)} {image : Image} {bytes : ByteArray} {format : Format}
      {workspace : Workspace κ} {ready after : Moment (Machine ω)}
      (hready : Ready surroundings line start config registry catalog ready)
      (hparse : Chain.parse registry line.accept line.chain = .ok steps)
      (hsteps : runSteps surroundings config catalog steps ready =
        (.ok (.ok image, workspace), after))
      (hbytes : image.bytes = .ok (bytes, format)) :
      Course (.ok bytes) after

variable {surroundings line start}

omit [Codecs] in
theorem runAt_cutOff_of_ok (surroundings : Surroundings κ ω) {α : Type} {limit : Duration} {a : α}
    {action : StateT (Workspace κ) (Timed (Machine ω)) α} {workspace after : Workspace κ}
    {moment later : Moment (Machine ω)}
    (hrun : (action.run workspace).runAt (some (moment.now + limit)) moment =
      (.ok (a, after), later)) :
    ((cutOff (Machine.system surroundings) limit action).run workspace).runAt none moment =
      (.ok (some a, after), later) := by
  show (Timed.within limit (action.run workspace) >>= _).runAt none moment = _
  rw [Timed.runAt_bind, Timed.runAt_within, Option.elim_none, hrun]
  rfl

omit [Codecs] in
theorem runAt_cutOff_of_error (surroundings : Surroundings κ ω) {α : Type} {limit : Duration}
    {action : StateT (Workspace κ) (Timed (Machine ω)) α} {workspace : Workspace κ}
    {moment later : Moment (Machine ω)}
    (hrun : (action.run workspace).runAt (some (moment.now + limit)) moment =
      (.error (), later)) :
    ((cutOff (Machine.system surroundings) limit action).run workspace).runAt none moment =
      (.ok (none, workspace), later) := by
  show (Timed.within limit (action.run workspace) >>= _).runAt none moment = _
  rw [Timed.runAt_bind, Timed.runAt_within, Option.elim_none, hrun]
  dsimp only
  rw [if_pos rfl]
  rfl

/-- A chain that has been read gives what its steps give, or is late. -/
theorem runAt_runChain (surroundings : Surroundings κ ω) (config : Config)
    {registry : Registry Nat} {accept chain : String} {steps : List (Step Nat)}
    (hparse : Chain.parse registry accept chain = .ok steps) (catalog : Catalog)
    (ready : Moment (Machine ω)) :
    (∃ limit after, config.timeout = some limit ∧
      runSteps surroundings config catalog steps ready = (.error (), after) ∧
      ((runChain (Machine.system surroundings) config registry accept chain).run.run
        ⟨catalog, .empty⟩).runAt none ready =
          (.ok (.error (.timeout limit), ⟨catalog, .empty⟩), after)) ∨
    ∃ result workspace after,
      runSteps surroundings config catalog steps ready = (.ok (result, workspace), after) ∧
      ((runChain (Machine.system surroundings) config registry accept chain).run.run
        ⟨catalog, .empty⟩).runAt none ready = (.ok (result, workspace), after) := by
  unfold runSteps runChain
  rw [hparse, ExceptT.run_bind, ExceptT.run_mk, pure_bind]
  dsimp only
  cases config.timeout with
  | none =>
      have hquiet : Machine.Quiet ((execution surroundings steps).run.run ⟨catalog, .empty⟩) :=
        (Machine.closed_quiet.stateT _).execute
          (Machine.closed_quiet.step_run (Machine.obey_quiet surroundings)) steps .blank _
      -- nothing can cut the steps off
      obtain ⟨⟨result, workspace⟩, after, hrun, -⟩ := hquiet.ends ready
      exact .inr ⟨result, workspace, after, hrun, hrun⟩
  | some limit =>
      dsimp only [Option.map_some, Chain.executeWithin]
      rw [ExceptT.run_mk, StateT.run_bind, Timed.runAt_bind]
      rcases hrun : ((execution surroundings steps).run.run ⟨catalog, .empty⟩).runAt
        (some (ready.now + limit)) ready with ⟨cut | ⟨result, workspace⟩, after⟩
      · have hcut := runAt_cutOff_of_error surroundings hrun
        unfold execution at hcut
        rw [hcut]
        exact .inl ⟨limit, after, rfl, rfl, rfl⟩
      · have hdone := runAt_cutOff_of_ok surroundings hrun
        unfold execution at hdone
        rw [hdone]
        exact .inr ⟨result, workspace, after, rfl, rfl⟩

/-- Once all sources are registered, the chain decides how the making of the image goes on. -/
theorem course_of_ready {config : Config} {registry : Registry Nat} {catalog : Catalog}
    {ready : Moment (Machine ω)}
    (hready : Ready surroundings line start config registry catalog ready) :
    ∃ result after,
      ((runChain (Machine.system surroundings) config registry line.accept line.chain).run.run
        ⟨catalog, .empty⟩ >>= fun made => pure (explain none do
          let image ← made.1
          let (bytes, _) ← image.bytes
          return bytes)).runAt none ready = (.ok result, after) ∧
      Course surroundings line start result after := by
  rw [Timed.runAt_bind]
  cases hparse : Chain.parse registry line.accept line.chain with
  | error failure =>
      rw [Chain.runChain_of_parse_error _ _ hparse]
      exact ⟨_, ready, rfl, .unparsed hready hparse⟩
  | ok steps =>
      rcases runAt_runChain surroundings config hparse catalog ready with
        ⟨limit, after, htimeout, hsteps, hrun⟩ | ⟨result, workspace, after, hsteps, hrun⟩
      · rw [hrun]
        exact ⟨_, after, rfl, .late hready hparse htimeout hsteps⟩
      · rw [hrun]
        cases result with
        | error failure => exact ⟨_, after, rfl, .failed hready hparse hsteps⟩
        | ok image =>
            refine ⟨_, after, rfl, ?_⟩
            cases hbytes : image.bytes with
            | error failure =>
                have hcourse := Course.unencoded hready hparse hsteps hbytes
                simpa [hbytes, bind, Except.bind, explain, Fault.ofFailure] using hcourse
            | ok encoded =>
                have hcourse := Course.made hready hparse hsteps hbytes
                simpa [hbytes, bind, Except.bind, pure, Except.pure, explain] using hcourse

theorem course_of_produce (surroundings : Surroundings κ ω) (line : CommandLine)
    (start : Moment (Machine ω)) :
    ∃ result after, (produce (Machine.system surroundings) line).runAt none start =
        (.ok result, after) ∧ Course surroundings line start result after := by
  have hclosed := Machine.closed_quiet (ω := ω)
  have hobeys := Machine.obey_quiet surroundings
  have hloading : Machine.Quiet (loadConfig (Machine.system surroundings) line.config) :=
    hclosed.bind (hobeys.backends.readFile line.config) fun _ => hclosed.pure _
  have hregistering (config : Config) : Machine.Quiet
      (((registerSources (Machine.system surroundings) config).run .empty).run .empty) :=
    hclosed.registry_addAll hobeys.backends _ config.sources .empty .empty
  obtain ⟨loading, loaded, hload, -⟩ := hloading.ends start
  unfold produce
  rw [Timed.runAt_bind, hload]
  cases loading with
  | error failure => exact ⟨_, loaded, rfl, .unloaded hload⟩
  | ok config =>
      obtain ⟨⟨⟨registering, registry⟩, catalog⟩, ready, hregister, -⟩ :=
        (hregistering config).ends loaded
      dsimp only [explain]
      rw [Timed.runAt_bind, hregister]
      cases registering with
      | error failure => exact ⟨_, ready, rfl, .unregistered hload hregister⟩
      | ok done => exact course_of_ready ⟨loaded, hload, hregister⟩

/-! ## The main statement -/

/-- What a run of the program does to the files of a machine. -/
inductive AllOrNothing (surroundings : Surroundings κ ω) (machine : Machine ω)
    (arguments : List String) : Report → Machine ω → Prop where
  /-- Without a command line nothing is done. -/
  | halted {halt : CommandLine.Halt} {report : Report}
      (harguments : CommandLine.parse arguments = .error halt) :
      AllOrNothing surroundings machine arguments report machine
  /-- If the image can not be made, nothing is written. -/
  | failed {line : CommandLine} {fault : Fault} {after : Moment (Machine ω)}
      (harguments : CommandLine.parse arguments = .ok line)
      (hcourse : Course surroundings line ⟨.zero, machine⟩ (.error fault) after)
      (hfiles : after.world.files = machine.files) :
      AllOrNothing surroundings machine arguments ⟨1, [], fault.lines⟩ after.world
  /-- If it can not be written, nothing is. -/
  | unwritten {line : CommandLine} {bytes : ByteArray} {reason : String}
      {after : Moment (Machine ω)}
      (harguments : CommandLine.parse arguments = .ok line)
      (hcourse : Course surroundings line ⟨.zero, machine⟩ (.ok bytes) after)
      (hwrite : machine.files.write line.output bytes = .error reason)
      (hfiles : after.world.files = machine.files) :
      AllOrNothing surroundings machine arguments
        ⟨1, [], Fault.lines ⟨some ("Failed to write " ++ line.output), reason⟩⟩ after.world
  /-- Otherwise the file holds the encoded image, and every other file is as it was. -/
  | written {line : CommandLine} {bytes : ByteArray} {files : FileTree}
      {after : Moment (Machine ω)}
      (harguments : CommandLine.parse arguments = .ok line)
      (hcourse : Course surroundings line ⟨.zero, machine⟩ (.ok bytes) after)
      (hwrite : machine.files.write line.output bytes = .ok files)
      (hread : files.read line.output = .ok bytes)
      (hothers : ∀ place other elsewhere, machine.files.resolve line.output = .ok place →
        machine.files.resolve other = .ok elsewhere → ¬ elsewhere <+: place →
          files.read other = machine.files.read other) :
      AllOrNothing surroundings machine arguments ⟨0, [], []⟩ { after.world with files := files }

omit [Codecs] in
theorem runAt_writeFile (path : String) (content : ByteArray) (moment : Moment (Machine ω)) :
    (Machine.writeFile path content).runAt none moment =
      match moment.world.files.write path content with
      | .error reason => (.ok (.error reason), moment)
      | .ok files => (.ok (.ok ()), { moment with world := { moment.world with files := files } }) := by
  have hworld : (Timed.world : Timed (Machine ω) _).runAt none moment = (.ok moment.world, moment) :=
    rfl
  rw [Machine.writeFile, Timed.runAt_bind, hworld]
  dsimp only
  generalize moment.world.files.write path content = written
  cases written <;> rfl

theorem allOrNothing_of_line {machine : Machine ω} {arguments : List String}
    (harguments : CommandLine.parse arguments = .ok line) :
    ∃ report after, (run (Machine.system surroundings) arguments).runAt none ⟨.zero, machine⟩ =
        (.ok report, after) ∧ AllOrNothing surroundings machine arguments report after.world := by
  obtain ⟨result, after, hproduce, hcourse⟩ :=
    course_of_produce surroundings line ⟨.zero, machine⟩
  have hfiles : after.world.files = machine.files := by
    have hquiet := Machine.closed_quiet.produce (Machine.obey_quiet surroundings) line
    have hsame := (hquiet none ⟨.zero, machine⟩).1
    rwa [hproduce] at hsame
  unfold run runLine
  rw [harguments]
  dsimp only
  rw [Timed.runAt_bind, Timed.runAt_bind, hproduce]
  cases result with
  | error fault => exact ⟨_, after, rfl, .failed harguments hcourse hfiles⟩
  | ok bytes =>
      dsimp only
      rw [Timed.runAt_bind]
      have hwriting : ((Machine.system surroundings).writeFile line.output bytes).runAt none after =
          _ := runAt_writeFile line.output bytes after
      rw [hwriting, hfiles]
      cases hwrite : machine.files.write line.output bytes with
      | error reason => exact ⟨_, after, rfl, .unwritten harguments hcourse hwrite hfiles⟩
      | ok files =>
          refine ⟨_, _, rfl, .written harguments hcourse hwrite (FileTree.read_of_write hwrite) ?_⟩
          intro place other elsewhere hplace hother hne
          exact FileTree.read_of_write_of_ne hwrite hplace hother hne

end AnyCodecs

/-! ## A machine with settings -/

/-- Surroundings in which every web address shows the same picture. -/
def onePicture : Surroundings Unit Unit where
  reading _ := .zero
  get _ _ outside := (.zero, .ok ⟨200, Session.onePixel⟩, outside)
  getObject _ _ _ _ _ outside := (.zero, .error "closed", outside)
  download _ _ _ _ outside := (.zero, .error (.closed "closed"), outside)
  connect _ _ outside := (.zero, .error "closed", outside)
  call _ _ _ outside := (.zero, .error (.notReady "closed"), outside)
  environment _ := none
  rounding := id

/-- A machine with settings that list no source. -/
def settingsOnly : Machine Unit :=
  ⟨(FileTree.ofDirectory ["srv"]).put ["srv", "config.json"]
    (some "\x7b\"sources\":[]\x7d".toUTF8), ()⟩

/-- Asks for the picture that an address shows. -/
def askForPicture : List String :=
  ["-c", "config.json", "-o", "x.gif", "proxy/http%3A%2F%2Fa%2Fx.gif"]

end Program

end ImageChain
