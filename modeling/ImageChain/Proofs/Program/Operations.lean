import ImageChain.Program

/-!
# What the program does before it writes

Until the encoded image is ready the program only reads files, asks servers and
optimizers, and cuts such actions off.  So whatever holds of these operations,
and of actions in a row if it holds of each, holds of everything up to that
point: `Closed.produce`.  Nothing is said of writing files, because nothing
before it writes any.

The induction follows the program, one lemma for each function that does more
than call another.  Actions that keep a state or may fail are brought back to
plain ones by `Closed.stateT` and `Closed.exceptT`.
-/

namespace ImageChain

/-- What holds of actions that do nothing, and of actions in a row if it holds of each. -/
structure Closed {m : Type → Type} [Monad m] (P : {α : Type} → m α → Prop) : Prop where
  /-- It holds of doing nothing. -/
  pure : ∀ {α : Type} (a : α), P (pure a)
  /-- It holds of two actions in a row. -/
  bind : ∀ {α β : Type} {action : m α} {next : α → m β}, P action → (∀ a, P (next a)) →
    P (action >>= next)

namespace Closed

variable {m : Type → Type} [Monad m] {P : {α : Type} → m α → Prop}

theorem stateT (hclosed : Closed @P) (ρ : Type) :
    Closed (m := StateT ρ m) fun action => ∀ state, P (action.run state) where
  pure _ _ := hclosed.pure _
  bind haction hnext state := hclosed.bind (haction state) fun a => hnext a.1 a.2

theorem exceptT (hclosed : Closed @P) (ε : Type) :
    Closed (m := ExceptT ε m) fun action => P action.run where
  pure a := hclosed.pure _
  bind haction hnext := hclosed.bind haction fun result => by
    cases result with
    | ok a => exact hnext a
    | error failure => exact hclosed.pure _

theorem map (hclosed : Closed @P) [LawfulMonad m] {α β : Type} {action : m α} (haction : P action)
    (f : α → β) : P (f <$> action) := by
  rw [map_eq_pure_bind]
  exact hclosed.bind haction fun a => hclosed.pure _

theorem mapM (hclosed : Closed @P) [LawfulMonad m] {α β : Type} {f : α → m β} {items : List α}
    (hitems : ∀ item ∈ items, P (f item)) : P (items.mapM f) := by
  induction items with
  | nil => exact hclosed.pure _
  | cons item rest ih =>
      rw [List.forall_mem_cons] at hitems
      rw [List.mapM_cons]
      exact hclosed.bind hitems.1 fun b => hclosed.bind (ih hitems.2) fun bs => hclosed.pure _

theorem lift_exceptT (hclosed : Closed @P) [LawfulMonad m] {α : Type} (ε : Type) {action : m α}
    (haction : P action) : P (ExceptT.lift action : ExceptT ε m α).run :=
  hclosed.map haction _

theorem lift_stateT (hclosed : Closed @P) {α ρ : Type} {action : m α} (haction : P action)
    (state : ρ) : P ((StateT.lift action : StateT ρ m α).run state) :=
  hclosed.bind haction fun _ => hclosed.pure _

theorem mk_exceptT (hclosed : Closed @P) {α ε : Type} (result : Except ε α) :
    P (ExceptT.mk (Pure.pure result) : ExceptT ε m α).run :=
  hclosed.pure result

end Closed

/-- It holds of every request. -/
structure Backends.Obey {m : Type → Type} (P : {α : Type} → m α → Prop)
    (backends : Backends m) : Prop where
  readFile : ∀ path, P (backends.readFile path)
  get : ∀ url, P (backends.get url)
  getObject : ∀ kind store bucket key, P (backends.getObject kind store bucket key)
  download : ∀ store bucket id, P (backends.download store bucket id)

namespace Closed

variable {m : Type → Type} [Monad m] [LawfulMonad m] {P : {α : Type} → m α → Prop}
  (hclosed : Closed @P) {backends : Backends m} (hbackends : backends.Obey @P)

include hclosed hbackends

/-! ## Sources -/

omit [LawfulMonad m] in
theorem ping (url : String) : P (backends.ping url) := by
  refine hclosed.bind (hbackends.get url) fun answer => ?_
  cases answer <;> exact hclosed.pure _

theorem request_fetch (url : String) : P (Request.fetch backends url).run := by
  refine (hclosed.exceptT _).bind (hclosed.lift_exceptT _ (hbackends.get url)) fun answer => ?_
  cases answer with
  | error reason => exact hclosed.mk_exceptT (.error _)
  | ok reply =>
      dsimp only
      split
      · exact (hclosed.exceptT _).pure _
      · exact hclosed.mk_exceptT (.error _)

theorem request_perform (request : Request) : P (request.perform backends).run := by
  cases request with
  | file path =>
      refine (hclosed.exceptT _).bind (hclosed.lift_exceptT _ (hbackends.readFile path))
        fun answer => ?_
      cases answer <;> exact hclosed.mk_exceptT _
  | web url => exact request_fetch hclosed hbackends url
  | object kind store bucket key =>
      have hasked := hclosed.lift_exceptT Failure (hbackends.getObject kind store bucket key)
      unfold Request.perform Request.getObject
      dsimp only
      split
      · refine (hclosed.exceptT _).bind (hclosed.mk_exceptT (.error _)) fun _ => ?_
        refine (hclosed.exceptT _).bind hasked fun answer => ?_
        cases answer <;> exact hclosed.mk_exceptT _
      · refine (hclosed.exceptT _).bind hasked fun answer => ?_
        cases answer <;> exact hclosed.mk_exceptT _
  | stored store bucket id =>
      refine (hclosed.exceptT _).bind
        (hclosed.lift_exceptT _ (hbackends.download store bucket id)) fun answer => ?_
      rcases answer with (reason | reason) | bytes <;> exact hclosed.mk_exceptT _

theorem upstream_checkAll (upstream : Upstream) :
    P (upstream.checkAll fun url => (ExceptT.lift (backends.ping url) : ExceptT Failure m _)).run := by
  refine (hclosed.exceptT _).bind ((hclosed.exceptT _).mapM fun host _ => ?_) fun outcomes => ?_
  · exact hclosed.lift_exceptT _ (ping hclosed hbackends _)
  · exact (hclosed.exceptT _).pure _

theorem upstream_connect (uri : String) (interval : Duration) :
    P (Upstream.connect backends.ping uri interval).run := by
  have hchecked := (hclosed.exceptT _).bind (hclosed.mk_exceptT (Upstream.parse uri))
    (upstream_checkAll hclosed hbackends)
  unfold Upstream.connect
  dsimp only
  split
  · exact (hclosed.exceptT _).bind (hclosed.mk_exceptT (.error _)) fun _ => hchecked
  · exact hchecked

theorem source_build (interval : Duration) (uri : String) :
    P (Source.build backends.ping interval uri).run := by
  unfold Source.build
  -- all kinds of source but the web are only read from their addresses
  have hparsed {α : Type} (parsed : Except Failure α) (f : α → Source) :
      P (ExceptT.mk (Pure.pure parsed) >>= fun value => Pure.pure (f value) :
        ExceptT Failure m Source).run :=
    (hclosed.exceptT _).bind (hclosed.mk_exceptT parsed) fun _ => (hclosed.exceptT _).pure _
  split
  · exact hparsed _ _
  split
  · exact hparsed _ _
  split
  · exact hparsed _ _
  split
  · exact (hclosed.exceptT _).bind (upstream_connect hclosed hbackends uri interval) fun _ =>
      (hclosed.exceptT _).pure _
  · exact (hclosed.exceptT _).pure _

theorem catalog_build (interval : Duration) (uri : String) (catalog : Catalog) :
    P ((Catalog.build backends interval uri).run.run catalog) := by
  have hbuild := source_build hclosed hbackends interval uri
  refine (hclosed.stateT _).bind (hclosed.lift_stateT hbuild) (fun built => ?_) catalog
  cases built with
  | error failure => exact (hclosed.stateT _).pure _
  | ok source => exact fun catalog => hclosed.bind (hclosed.pure _) fun _ =>
      hclosed.bind (hclosed.pure _) fun _ => hclosed.pure _

theorem catalog_find [Codecs] (place : Nat) (parameters : List String) (catalog : Catalog) :
    P ((Catalog.find backends place parameters).run.run catalog) := by
  refine (hclosed.stateT _).bind (fun _ => hclosed.pure _) (fun found => ?_) catalog
  split
  · exact (hclosed.stateT _).pure _
  split
  · exact (hclosed.stateT _).pure _
  next request source _ =>
    have hperform := request_perform hclosed hbackends request
    refine (hclosed.stateT _).bind (fun _ => hclosed.pure _) fun _ => ?_
    refine (hclosed.stateT _).bind (hclosed.lift_stateT hperform) fun answer => ?_
    cases answer <;> exact (hclosed.stateT _).pure _

theorem catalog_fetch [Codecs] (url : String) : P (Catalog.fetch backends url).run := by
  refine hclosed.bind (request_fetch hclosed hbackends url) fun answer => ?_
  cases answer <;> exact hclosed.pure _

theorem registry_addAll (interval : Duration) (entries : List SourceEntry)
    (registry : Registry Nat) (catalog : Catalog) :
    P (((Registry.addAll (Catalog.build backends interval) entries).run.run registry).run
      catalog) := by
  have hstates := (hclosed.stateT Catalog).stateT (Registry Nat)
  have hadd (entry : SourceEntry) (registry : Registry Nat) (catalog : Catalog) :
      P (((Registry.add (Catalog.build backends interval) entry.name entry.uri).run.run
        registry).run catalog) := by
    have hbuild := catalog_build hclosed hbackends interval entry.uri
    refine hstates.bind ((hclosed.stateT Catalog).lift_stateT hbuild) (fun built => ?_) registry
      catalog
    cases built with
    | error failure => exact hstates.pure _
    | ok place => exact hstates.bind (fun _ _ => hclosed.pure _) fun _ => hstates.pure _
  induction entries generalizing registry catalog with
  | nil => exact hclosed.pure _
  | cons entry rest ih =>
      exact (hstates.exceptT Failure).bind (hadd entry) (fun _ => ih) registry catalog

end Closed

/-! ## Optimizers and chains -/

/-- It holds of connecting to optimizers and of sending them messages. -/
structure Carrier.Obey {κ : Type} {m : Type → Type} (P : {α : Type} → m α → Prop)
    (carrier : Carrier κ m) : Prop where
  connect : ∀ address, P (carrier.connect address)
  call : ∀ connection bytes, P (carrier.call connection bytes)

/-- It holds of everything but writing, and of what is cut off if it holds of the whole. -/
structure System.Obey {κ : Type} {m : Type → Type} (P : {α : Type} → m α → Prop)
    (system : System κ m) : Prop where
  backends : system.backends.Obey @P
  carrier : system.carrier.Obey @P
  within : ∀ {α : Type} (limit : Duration) {action : m α}, P action → P (system.within limit action)

namespace Closed

variable {κ : Type} {m : Type → Type} [Monad m] [LawfulMonad m] {P : {α : Type} → m α → Prop}
  (hclosed : Closed @P)

include hclosed

theorem carrier_optimize {carrier : Carrier κ m} (hcarrier : carrier.Obey @P) (address : String)
    (request : Wire.Request) (connections : ConnectionCache κ) :
    P ((carrier.optimize address request).run.run connections) := by
  have hstate := hclosed.stateT (ConnectionCache κ)
  have hdial : P (carrier.dial address) := by
    have hanswer := hcarrier.connect address
    unfold Carrier.dial
    split
    · exact hclosed.pure _
    · refine hclosed.bind hanswer fun answer => ?_
      cases answer <;> exact hclosed.pure _
  have hconnect (connections : ConnectionCache κ) :
      P ((ConnectionCache.connect carrier.dial address).run.run connections) := by
    refine hstate.bind (fun _ => hclosed.pure _) (fun found => ?_) connections
    split
    · exact hstate.pure _
    all_goals
      refine hstate.bind (hclosed.lift_stateT hdial) fun outcome => ?_
      exact hstate.bind (fun _ => hclosed.pure _) fun _ => hstate.pure _
  refine (hstate.exceptT Failure).bind hconnect (fun connection => ?_) connections
  refine (hstate.exceptT Failure).bind (hstate.lift_exceptT _
    (hclosed.lift_stateT (hcarrier.call connection request.encode))) fun answer => ?_
  cases answer with
  | error fault => exact hstate.mk_exceptT (.error _)
  | ok bytes =>
      dsimp only
      split
      · exact (hstate.exceptT Failure).pure _
      · exact hstate.mk_exceptT (.error _)

omit [LawfulMonad m] in
theorem execute {ι α : Type} {run : α → ι → ExceptT Failure m ι}
    (hrun : ∀ job current, P (run job current).run) (jobs : List α) (start : ι) :
    P (Chain.execute run jobs start).run := by
  induction jobs generalizing start with
  | nil => exact hclosed.pure _
  | cons job rest ih =>
      refine hclosed.bind (hrun job start) fun result => ?_
      cases result with
      | error failure => exact hclosed.pure _
      | ok next => exact ih next

variable {system : System κ m} (hsystem : system.Obey @P)

include hsystem

theorem step_run [Codecs] (step : Step Nat) (image : Image) (workspace : Workspace κ) :
    P ((step.run (Workspace.services system.backends system.carrier system.rounding)
      image).run.run workspace) := by
  have hboth := (hclosed.stateT (Workspace κ)).exceptT Failure
  cases step with
  | resize box => exact hboth.pure _ workspace
  | watermark mark => exact hboth.pure _ workspace
  | proxy url => exact hclosed.lift_stateT (catalog_fetch hclosed hsystem.backends url) workspace
  | find name place parameters =>
      exact hclosed.bind (catalog_find hclosed hsystem.backends place parameters _) fun _ =>
        hclosed.pure _
  | optimize optimization =>
      refine hboth.bind ((hclosed.stateT _).mk_exceptT _) (fun request => ?_) workspace
      refine hboth.bind (fun workspace => ?_) fun reply => hboth.pure _
      exact hclosed.bind (carrier_optimize hclosed hsystem.carrier _ request _) fun _ =>
        hclosed.pure _

omit [LawfulMonad m] in
theorem cutOff {α : Type} (limit : Duration) {action : StateT (Workspace κ) m α}
    (haction : ∀ workspace, P (action.run workspace)) (workspace : Workspace κ) :
    P ((Program.cutOff system limit action).run workspace) := by
  refine hclosed.bind (hsystem.within limit (haction workspace)) fun result => ?_
  rcases result with - | ⟨result, after⟩ <;> exact hclosed.pure _

theorem runChain [Codecs] (config : Config) (registry : Registry Nat) (accept chain : String)
    (workspace : Workspace κ) :
    P ((Program.runChain system config registry accept chain).run.run workspace) := by
  have hstate := hclosed.stateT (Workspace κ)
  refine (hstate.exceptT Failure).bind (hstate.mk_exceptT _) (fun steps => ?_) workspace
  have hsteps := hstate.execute (step_run hclosed hsystem) steps .blank
  dsimp only
  split
  · exact hsteps
  · refine hstate.bind (cutOff hclosed hsystem _ hsteps) fun result => ?_
    cases result <;> exact hstate.pure _

/-- Whatever holds of all operations but writing holds of making the encoded image. -/
theorem produce [Codecs] (line : CommandLine) : P (Program.produce system line) := by
  have hload : P (Program.loadConfig system line.config) :=
    hclosed.bind (hsystem.backends.readFile line.config) fun _ => hclosed.pure _
  refine hclosed.bind hload fun loaded => ?_
  split
  · exact hclosed.pure _
  next config _ =>
    have hregister := registry_addAll hclosed hsystem.backends config.healthCheckInterval
      config.sources .empty .empty
    refine hclosed.bind hregister fun registered => ?_
    obtain ⟨⟨result, registry⟩, catalog⟩ := registered
    cases result with
    | error failure => exact hclosed.pure _
    | ok done =>
        exact hclosed.bind (runChain hclosed hsystem config registry line.accept line.chain _)
          fun _ => hclosed.pure _

end Closed

end ImageChain
