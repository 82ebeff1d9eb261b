import ImageChain.Source.Catalog

/-!
# What a lookup asks for, as it is seen from outside

A lookup only touches what its backends touch.  `Backends.recording` keeps a
list of everything that is asked, in order, and gives whatever answers the world
gives; the world may answer differently each time, so it is given the list of
what was asked before.

`askedBy_eq` is the one lemma about `Catalog.find`: the list grows by
`Catalog.requested`, which does not depend on any answer.
-/

namespace ImageChain

/-- Writes down a request and gives the answer of the world. -/
def Backends.record {α : Type} (world : List Request → Backends Id) (request : Request)
    (answer : Backends Id → α) : StateM (List Request) α :=
  fun log => (answer (world log), log ++ [request])

/-- Backends that write down each request and pass it on. -/
def Backends.recording (world : List Request → Backends Id) :
    Backends (StateM (List Request)) where
  readFile path := record world (.file path) fun outside => outside.readFile path
  get url := record world (.web url) fun outside => outside.get url
  getObject kind store bucket key :=
    record world (.object kind store bucket key) fun outside =>
      outside.getObject kind store bucket key
  download store bucket id :=
    record world (.stored store bucket id) fun outside => outside.download store bucket id

/-- What is asked of the backends to perform a request: the request itself, unless it is for an
object with a name that no object has. -/
def Request.asked : Request → List Request
  | object kind store bucket key =>
      if namesObject bucket key then [object kind store bucket key] else []
  | request => [request]

theorem Request.asked_object (kind : StoreKind) (store : Store) (bucket key : String) :
    (object kind store bucket key).asked =
      if namesObject bucket key then [object kind store bucket key] else [] :=
  rfl

theorem Request.length_asked_le (request : Request) : request.asked.length ≤ 1 := by
  cases request with
  | object kind store bucket key =>
      rw [asked_object]
      split
      · exact Nat.le_refl 1
      · exact Nat.zero_le 1
  | file path => exact Nat.le_refl 1
  | web url => exact Nat.le_refl 1
  | stored store bucket id => exact Nat.le_refl 1

/-- A step that asks once, and what follows it. -/
theorem Backends.run_bind_record {α β : Type} (world : List Request → Backends Id)
    (request : Request) (answer : Backends Id → α)
    (next : α → ExceptT Failure (StateM (List Request)) β) (log : List Request) :
    (ExceptT.lift (record world request answer) >>= next).run.run log =
      (next (answer (world log))).run.run (log ++ [request]) :=
  rfl

theorem Request.getObject_run (world : List Request → Backends Id) (kind : StoreKind)
    (store : Store) (bucket key : String) (log : List Request) :
    ((getObject (.recording world) kind store bucket key).run.run log).2 =
      log ++ (object kind store bucket key).asked := by
  rw [asked_object, getObject]
  by_cases hnames : namesObject bucket key = true
  · have hpass : ¬(!namesObject bucket key) = true := by simp [hnames]
    rw [if_pos hnames]
    simp only [if_neg hpass, Backends.recording, Backends.run_bind_record]
    split <;> rfl
  · have hrefuse : (!namesObject bucket key) = true := by simpa using hnames
    rw [if_neg hnames, List.append_nil]
    simp only [if_pos hrefuse]
    rfl

/-- What is done with the answer to a request asks for nothing more. -/
theorem Request.perform_run (world : List Request → Backends Id) (request : Request)
    (log : List Request) :
    ((request.perform (.recording world)).run.run log).2 = log ++ request.asked := by
  cases request with
  | file path =>
      simp only [perform, readFile, Backends.recording, Backends.run_bind_record]
      split <;> rfl
  | web url =>
      simp only [perform, fetch, Backends.recording, Backends.run_bind_record]
      split
      · rfl
      · split <;> rfl
  | object kind store bucket key => exact getObject_run world kind store bucket key log
  | stored store bucket id =>
      simp only [perform, download, Backends.recording, Backends.run_bind_record]
      split <;> rfl

namespace Catalog

/-- What a lookup asks of the backends. -/
def requested (catalog : Catalog) (place : Nat) (parameters : List String) : List Request :=
  match catalog.sources[place]? with
  | none => []
  | some source =>
    match source.request parameters with
    | .error _ => []
    | .ok (request, _) => request.asked

/-- What was asked after a lookup that started with `log`. -/
def askedBy [Codecs] (catalog : Catalog) (world : List Request → Backends Id) (place : Nat)
    (parameters : List String) (log : List Request) : List Request :=
  (((find (.recording world) place parameters).run.run catalog).run log).2

/-- A change of the catalog, a step that asks, and what follows them. -/
theorem run_modify_lift {ω α β : Type} (change : Catalog → Catalog) (step : StateM ω α)
    (next : α → StateT Catalog (StateM ω) β) (catalog : Catalog) (world : ω) :
    ((do modify change; next (← StateT.lift step)).run catalog).run world =
      ((next (step.run world).1).run (change catalog)).run (step.run world).2 :=
  rfl

theorem askedBy_eq [Codecs] (catalog : Catalog) (world : List Request → Backends Id)
    (place : Nat) (parameters : List String) (log : List Request) :
    catalog.askedBy world place parameters log = log ++ catalog.requested place parameters := by
  unfold askedBy requested find
  simp only [ExceptT.run_mk, StateT.run_bind, StateT.run_get, pure_bind]
  cases hsource : catalog.sources[place]? with
  | none => exact (List.append_nil log).symm
  | some source =>
      dsimp only
      cases hrequest : source.request parameters with
      | error failure => exact (List.append_nil log).symm
      | ok outcome =>
          obtain ⟨request, after⟩ := outcome
          dsimp only
          rw [← request.perform_run world log, run_modify_lift]
          split <;> rfl

/-- A lookup asks for what its source makes of the parameters. -/
theorem requested_of_ok {catalog : Catalog} {place : Nat} {source after : Source}
    (hsource : catalog.sources[place]? = some source) {parameters : List String}
    {request : Request} (hrequest : source.request parameters = .ok (request, after)) :
    catalog.requested place parameters = request.asked := by
  unfold requested
  rw [hsource]
  dsimp only
  rw [hrequest]

/-- Parameters that are wrong ask for nothing. -/
theorem requested_of_error {catalog : Catalog} {place : Nat} {source : Source}
    (hsource : catalog.sources[place]? = some source) {parameters : List String}
    {failure : Failure} (hrequest : source.request parameters = .error failure) :
    catalog.requested place parameters = [] := by
  unfold requested
  rw [hsource]
  dsimp only
  rw [hrequest]

theorem length_requested_le (catalog : Catalog) (place : Nat) (parameters : List String) :
    (catalog.requested place parameters).length ≤ 1 := by
  unfold requested
  split
  · exact Nat.zero_le 1
  · split
    · exact Nat.zero_le 1
    · next request _ _ => exact request.length_asked_le

end Catalog

end ImageChain
