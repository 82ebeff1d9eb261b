import ImageChain.Proofs.Chain.Grammar
import ImageChain.Proofs.Registry.Lookup
import ImageChain.Proofs.Registry.Occurrences

/-!
# A registry and its history

Anything may be done to a registry in any order, and while an enumeration is
going on, or a value is being closed, anything may be done in between.  Such a
course of events is a `Script`, and `play` performs it with the operations of
the registry and writes down what they give.

What carries the proof is `Holds`: the registry answers what stands in the log,
and everything in the log fits.  It is kept by each kind of script, and by
induction by all of them.  An enumeration needs a second fact, `Keeps`: whatever
is done while it is going on only adds occurrences that are no part of it.
-/

namespace ImageChain.Registry

variable {σ : Type}

/-! ## Scripts -/

/-- A course of events. -/
inductive Script (σ : Type) where
  | nothing
  | inTurn (first second : Script σ)
  | register (name : String) (value : σ)
  | remove (name : String)
  | lookup (name : String)
  | names
  | size
  /-- Every visit of an entry has a course of its own. -/
  | enumerate (visit : String → σ → Script σ)
  /-- Something may happen while a value is being closed. -/
  | closeAll (meanwhile : σ → Script σ)
  | parse (accept chain : String)
  | run (job : Nat) (image : Image)

/-- What closing a value comes to, and what serves jobs.  Both may depend on all that has happened. -/
structure World (σ : Type) where
  close : List (Occurrence σ) → σ → Except Failure Unit
  services : List (Occurrence σ) → Services σ Id

/-- The jobs at hand and what has happened so far. -/
structure Course (σ : Type) where
  jobs : List (Step σ)
  log : List (Occurrence σ)

/-- What is done to a registry in a course of events. -/
abbrev Play (σ : Type) := StateT (Registry σ) (StateM (Course σ))

/-- Writes an occurrence down. -/
def note (occurrence : Occurrence σ) : Play σ Unit :=
  StateT.lift (modify fun course => { course with log := course.log ++ [occurrence] })

def course : Play σ (Course σ) :=
  StateT.lift get

/-- The same services; what sources are asked for is written down. -/
def asking (services : Services σ Id) : Services σ (StateM (List (σ × List String))) where
  find source parameters := ExceptT.mk fun asked =>
    ((services.find source parameters).run, asked ++ [(source, parameters)])
  fetch url := ExceptT.mk fun asked => ((services.fetch url).run, asked)
  optimize address request := ExceptT.mk fun asked =>
    ((services.optimize address request).run, asked)
  rounding := services.rounding

/-- What a step asks sources for when it is run on an image. -/
def askedBy [Codecs] (services : Services σ Id) (step : Step σ) (image : Image) :
    List (σ × List String) :=
  ((step.run (asking services) image).run.run []).2

/-- Runs a job, if there is one with this number. -/
def runJob [Codecs] (world : World σ) (job : Nat) (image : Image) : Play σ Unit := do
  let before ← course
  match before.jobs[job]? with
  | none => return
  | some step => note (.ran job (askedBy (world.services before.log) step image))

namespace Script

/-- Performs a script with the operations of the registry. -/
def play [Codecs] (world : World σ) : Script σ → Play σ Unit
  | nothing => pure ()
  | inTurn first second => do
    first.play world
    second.play world
  | register name value => do
    let (previous, registry) := (← get).register name value
    set registry
    note (.registered name value previous)
  | remove name => do
    let (previous, registry) := (← get).remove name
    set registry
    note (.removed name previous)
  | lookup name => do note (.answered name ((← get).lookup name))
  | names => do note (.listed (← get).names)
  | size => do note (.counted (← get).size)
  | enumerate visit => do
    let number := (← course).log.length
    Registry.enumerate fun name value => do
      note (.visited number name value)
      (visit name value).play world
    note (.enumerated number)
  | closeAll meanwhile => do
    let number := (← course).log.length
    let registry ← get
    registry.closeAll fun value => do
      note (.closing number value)
      (meanwhile value).play world
      return world.close (← course).log value
    note (.closedAll number)
  | parse accept chain => do
    let parsed := Chain.parse (← get) accept chain
    StateT.lift (modify fun course =>
      { course with jobs := course.jobs ++ (Occurrence.parsed parsed).jobs })
    note (.parsed parsed)
  | run job image => runJob world job image

/-- What a script does to a registry that is empty at first, and everything that happens. -/
def history [Codecs] (world : World σ) (script : Script σ) : Registry σ × List (Occurrence σ) :=
  let ((_, registry), course) := ((script.play world).run .empty).run ⟨[], []⟩
  (registry, course.log)

end Script

/-! ## What every script keeps -/

/-- The registry and the jobs are what the log says, and the log fits. -/
structure Holds (registry : Registry σ) (course : Course σ) : Prop where
  agrees : ∀ name, Binds course.log name (registry.find? name)
  jobs : course.jobs = Registry.jobs course.log
  faithful : Faithful course.log
  numbers : ∀ occurrence ∈ course.log, ∀ number, occurrence.number = some number →
    number < course.log.length

theorem Holds.snapshot {registry : Registry σ} {course : Course σ}
    (hholds : Holds registry course) : Snapshot course.log registry.entries where
  distinct := registry.distinct
  mem_iff name value := mem_entries_iff.trans (hholds.agrees name value)

theorem Holds.concat {registry after : Registry σ} {course : Course σ} {last : Occurrence σ}
    (hholds : Holds registry course) (hfits : Fits course.log last)
    (hnumber : ∀ number, last.number = some number → number ≤ course.log.length)
    (hagrees : ∀ name, Binds (course.log ++ [last]) name (after.find? name)) :
    Holds after ⟨course.jobs ++ last.jobs, course.log ++ [last]⟩ := by
  constructor
  case agrees => exact hagrees
  case jobs =>
    rw [hholds.jobs, jobs_append]
    simp [Registry.jobs]
  case faithful => exact hholds.faithful.concat hfits
  case numbers =>
    intro occurrence hmem number hoccurrence
    rw [List.length_append, List.length_singleton]
    rcases List.mem_append.mp hmem with hearlier | hlast
    · exact Nat.lt_succ_of_lt (hholds.numbers occurrence hearlier number hoccurrence)
    · rw [List.mem_singleton.mp hlast] at hoccurrence
      exact Nat.lt_succ_of_le (hnumber number hoccurrence)

theorem Holds.agrees_concat {registry : Registry σ} {course : Course σ} {last : Occurrence σ}
    (hholds : Holds registry course) (hwrites : last.writes = none) (name : String) :
    Binds (course.log ++ [last]) name (registry.find? name) := by
  intro value
  rw [stands_concat_of_writes_eq_none hwrites]
  exact hholds.agrees name value

/-- What an action does from here on adds occurrences, none of which is part of anything that began
before, and the invariant holds in the end. -/
def KeepsFrom {α : Type} (registry : Registry σ) (course : Course σ) (action : Play σ α) : Prop :=
  ∃ added, ((action.run registry).run course).2.log = course.log ++ added ∧
    (∀ occurrence ∈ added, ∀ number, occurrence.number = some number →
      course.log.length ≤ number) ∧
    Holds ((action.run registry).run course).1.2 ((action.run registry).run course).2

/-- An action keeps the invariant, whenever it is done. -/
def Keeps {α : Type} (action : Play σ α) : Prop :=
  ∀ registry course, Holds registry course → KeepsFrom registry course action

theorem keeps_pure {α : Type} (a : α) : Keeps (pure a : Play σ α) := by
  intro registry course hholds
  exact ⟨[], (List.append_nil _).symm, List.forall_mem_nil _, hholds⟩

theorem keeps_course : Keeps (course : Play σ (Course σ)) := by
  intro registry course hholds
  exact ⟨[], (List.append_nil _).symm, List.forall_mem_nil _, hholds⟩

theorem KeepsFrom.bind {α β : Type} {registry : Registry σ} {course : Course σ}
    {action : Play σ α} {next : α → Play σ β} (haction : KeepsFrom registry course action)
    (hnext : KeepsFrom ((action.run registry).run course).1.2 ((action.run registry).run course).2
      (next ((action.run registry).run course).1.1)) :
    KeepsFrom registry course (action >>= next) := by
  obtain ⟨first, hfirst, hlate, -⟩ := haction
  obtain ⟨second, hsecond, hlater, hafter⟩ := hnext
  refine ⟨first ++ second, ?_, ?_, hafter⟩
  · rw [← List.append_assoc, ← hfirst]
    exact hsecond
  · intro occurrence hmem number hnumber
    rcases List.mem_append.mp hmem with hmem | hmem
    · exact hlate occurrence hmem number hnumber
    · have hle := hlater occurrence hmem number hnumber
      rw [hfirst, List.length_append] at hle
      exact Nat.le_of_add_right_le hle

theorem Keeps.bind {α β : Type} {action : Play σ α} {next : α → Play σ β}
    (haction : Keeps action) (hnext : ∀ a, Keeps (next a)) : Keeps (action >>= next) := by
  intro registry course hholds
  have hfirst := haction registry course hholds
  have hbetween := hfirst.choose_spec.2.2
  exact hfirst.bind (hnext _ _ _ hbetween)

/-- An action that writes down one occurrence, which is no part of anything. -/
theorem Holds.keepsFrom {registry after : Registry σ} {course : Course σ} {jobs : List (Step σ)}
    {action : Play σ Unit} (hholds : Holds registry course) (last : Occurrence σ)
    (hrun : (action.run registry).run course = (((), after), ⟨jobs, course.log ++ [last]⟩))
    (hjobs : jobs = course.jobs ++ last.jobs) (hnone : last.number = none)
    (hfits : Fits course.log last)
    (hagrees : ∀ name, Binds (course.log ++ [last]) name (after.find? name)) :
    KeepsFrom registry course action := by
  have hnumber : ∀ number, last.number = some number → course.log.length ≤ number ∧
      number ≤ course.log.length := by
    intro number hsome
    rw [hnone] at hsome
    cases hsome
  have hafter := hholds.concat hfits (fun number hsome => (hnumber number hsome).2) hagrees
  refine ⟨[last], by rw [hrun], ?_, ?_⟩
  · rw [List.forall_mem_singleton]
    exact fun number hsome => (hnumber number hsome).1
  · rw [hrun, hjobs]
    exact hafter

/-! ## Single operations -/

namespace Script

variable [Codecs] {world : World σ}

theorem keeps_register (name : String) (value : σ) :
    Keeps ((register name value).play world) := by
  intro registry course hholds
  refine hholds.keepsFrom (.registered name value (registry.find? name)) rfl
    (List.append_nil _).symm rfl (hholds.agrees name) fun other found => ?_
  rw [find?_insert, stands_registered]
  split
  · rw [Option.some.injEq, eq_comm]
  · exact hholds.agrees other found

theorem keeps_remove (name : String) : Keeps ((remove name).play world) := by
  intro registry course hholds
  refine hholds.keepsFrom (.removed name (registry.find? name)) rfl
    (List.append_nil _).symm rfl (hholds.agrees name) fun other found => ?_
  rw [find?_erase, stands_removed]
  split
  · next hsame => exact iff_of_false (Option.some_ne_none found).symm fun hother => hother.1 hsame
  · next hother => rw [and_iff_right hother, hholds.agrees other found]

theorem keeps_lookup (name : String) : Keeps ((lookup name).play world) := by
  intro registry course hholds
  refine hholds.keepsFrom (.answered name (registry.lookup name)) rfl
    (List.append_nil _).symm rfl ?_ (hholds.agrees_concat rfl)
  have hagrees := hholds.agrees name
  unfold Fits Registry.lookup
  cases hfind : registry.find? name with
  | none =>
      rw [hfind] at hagrees
      constructor
      · intro value
        exact iff_of_false (fun hok => by cases hok) fun hstands =>
          Option.some_ne_none value ((hagrees value).mpr hstands).symm
      · intro failure hfailure
        cases hfailure
        rfl
  | some bound =>
      rw [hfind] at hagrees
      constructor
      · intro value
        rw [← hagrees value, Except.ok.injEq, Option.some.injEq]
      · intro failure hfailure
        cases hfailure

theorem keeps_names : Keeps (names.play world) := by
  intro registry course hholds
  exact hholds.keepsFrom (.listed registry.names) rfl (List.append_nil _).symm rfl
    ⟨registry.entries, hholds.snapshot, rfl⟩ (hholds.agrees_concat rfl)

theorem keeps_size : Keeps (size.play world) := by
  intro registry course hholds
  exact hholds.keepsFrom (.counted registry.size) rfl (List.append_nil _).symm rfl
    ⟨registry.entries, hholds.snapshot, rfl⟩ (hholds.agrees_concat rfl)

/-! ## Jobs -/

omit [Codecs] in
theorem find?_of_parse {registry : Registry σ} {accept chain : String} {steps : List (Step σ)}
    (hparse : Chain.parse registry accept chain = .ok steps) {name : String} {value : σ}
    {parameters : List String} (hmem : .find name value parameters ∈ steps) :
    registry.find? name = some value := by
  obtain ⟨task, -, hdescribed⟩ := Chain.exists_described_of_mem hparse hmem
  generalize fields '/' task = words at hdescribed
  cases hdescribed with
  | find _ hsource => exact hsource

theorem keeps_parse (accept chain : String) : Keeps ((parse accept chain).play world) := by
  intro registry course hholds
  refine hholds.keepsFrom (.parsed (Chain.parse registry accept chain)) rfl rfl rfl ?_
    (hholds.agrees_concat rfl)
  intro steps hsteps name value parameters hmem
  exact (hholds.agrees name value).mp (find?_of_parse hsteps hmem)

theorem askedBy_of_not_find (services : Services σ Id) {step : Step σ} (image : Image)
    (hother : ∀ name value parameters, step ≠ .find name value parameters) :
    askedBy services step image = [] := by
  cases step with
  | resize box => rfl
  | watermark mark => rfl
  | proxy url => rfl
  | find name value parameters => exact absurd rfl (hother name value parameters)
  | optimize optimization =>
      have hrun : (Step.optimize optimization).run (asking services) image =
          Step.runOptimize (asking services) optimization image := rfl
      rw [askedBy, hrun, Step.runOptimize]
      cases optimization.request image with
      | error failure => rfl
      | ok request =>
          simp only [asking, ExceptT.run_bind, ExceptT.run_mk, pure_bind, StateT.run_bind]
          cases (services.optimize optimization.address request).run with
          | error failure => rfl
          | ok reply => rfl

theorem asks_askedBy {log : List (Occurrence σ)} {steps : List (Step σ)} {step : Step σ}
    (hfits : Fits log (.parsed (.ok steps))) (hmem : step ∈ steps) (services : Services σ Id)
    (image : Image) : Asks log step (askedBy services step image) := by
  cases step with
  | find name value parameters =>
      exact .find (hfits steps rfl name value parameters hmem) parameters
  | _ =>
      rw [askedBy_of_not_find services image fun _ _ _ => by rintro ⟨⟩]
      exact .other fun _ _ _ => by rintro ⟨⟩

omit [Codecs] in
theorem run_note (occurrence : Occurrence σ) (registry : Registry σ) (course : Course σ) :
    ((note occurrence).run registry).run course =
      (((), registry), ⟨course.jobs, course.log ++ [occurrence]⟩) :=
  rfl

theorem run_runJob (world : World σ) (job : Nat) (image : Image) (registry : Registry σ)
    (course : Course σ) :
    ((runJob world job image).run registry).run course =
      match course.jobs[job]? with
      | none => (((), registry), course)
      | some step => (((), registry), ⟨course.jobs,
          course.log ++ [.ran job (askedBy (world.services course.log) step image)]⟩) := by
  have hcourse : (Registry.course.run registry).run course = pure ((course, registry), course) :=
    rfl
  rw [runJob, StateT.run_bind, StateT.run_bind, hcourse, pure_bind]
  cases course.jobs[job]? with
  | none => rfl
  | some step => exact run_note _ registry course

theorem keeps_runJob (job : Nat) (image : Image) : Keeps (runJob world job image) := by
  intro registry course hholds
  have hrun := run_runJob world job image registry course
  cases hjob : course.jobs[job]? with
  | none =>
      rw [hjob] at hrun
      refine ⟨[], ?_, List.forall_mem_nil _, ?_⟩
      · rw [hrun, List.append_nil]
      · rw [hrun]
        exact hholds
  | some step =>
      rw [hjob] at hrun
      refine hholds.keepsFrom _ hrun (List.append_nil _).symm rfl ?_ (hholds.agrees_concat rfl)
      -- the chain of the job fitted what was in the log when it was read
      rw [hholds.jobs] at hjob
      obtain ⟨before, steps, after, hlog, hle, hstep⟩ := exists_parsed_of_jobs hjob
      have hparsed := hholds.faithful before (.parsed (.ok steps)) after hlog
      exact ⟨before, steps, after, step, hlog, hle, hstep,
        asks_askedBy hparsed (List.mem_of_getElem? hstep) _ image⟩

/-! ## Parts of something -/

/-- An action that begins with a part of what has a number, and does nothing else for it. -/
def Marks (number : Nat) (mark : Occurrence σ) (action : Play σ Unit) : Prop :=
  ∀ registry course, Holds registry course → number ≤ course.log.length →
    ∃ added, ((action.run registry).run course).2.log = course.log ++ mark :: added ∧
      (∀ occurrence ∈ added, ∀ other, occurrence.number = some other → number < other) ∧
      Holds ((action.run registry).run course).1.2 ((action.run registry).run course).2

omit [Codecs] in
theorem marks_note {number : Nat} {mark : Occurrence σ} {action : Play σ Unit}
    (hmark : mark.number = some number) (hwrites : mark.writes = none) (hjobs : mark.jobs = [])
    (hfits : ∀ log, Fits log mark) (haction : Keeps action) :
    Marks number mark (do note mark; action) := by
  intro registry course hholds hnumber
  have hlast : ∀ other, mark.number = some other → other ≤ course.log.length := by
    intro other hother
    rw [hmark] at hother
    rwa [← Option.some.inj hother]
  have hnoted := hholds.concat (hfits course.log) hlast (hholds.agrees_concat hwrites)
  rw [hjobs, List.append_nil] at hnoted
  obtain ⟨added, hadded, hlate, hafter⟩ := haction registry _ hnoted
  refine ⟨added, ?_, ?_, hafter⟩
  · rw [List.append_assoc, List.singleton_append] at hadded
    exact hadded
  · intro occurrence hmem other hother
    -- the part is already in the log, so whatever begins now has a greater number
    have hle := hlate occurrence hmem other hother
    rw [List.length_append, List.length_singleton] at hle
    omega

omit [Codecs] in
theorem forM_marks (entries : List (String × σ)) {number : Nat} {mark : String × σ → Occurrence σ}
    {part : String × σ → Play σ Unit} (hnumber : ∀ entry, (mark entry).number = some number)
    (hparts : ∀ entry, Marks number (mark entry) (part entry)) (registry : Registry σ)
    (course : Course σ) (hholds : Holds registry course) (hle : number ≤ course.log.length) :
    ∃ added, (((entries.forM part).run registry).run course).2.log = course.log ++ added ∧
      (∀ occurrence ∈ added, ∀ other, occurrence.number = some other → number ≤ other) ∧
      numbered number added = entries.map mark ∧
      Holds (((entries.forM part).run registry).run course).1.2
        (((entries.forM part).run registry).run course).2 := by
  induction entries generalizing registry course with
  | nil => exact ⟨[], (List.append_nil _).symm, List.forall_mem_nil _, rfl, hholds⟩
  | cons entry rest ih =>
      obtain ⟨first, hfirst, hinside, hbetween⟩ := hparts entry registry course hholds hle
      have hlonger : number ≤ (((part entry).run registry).run course).2.log.length := by
        rw [hfirst, List.length_append]
        omega
      obtain ⟨others, hothers, hlate, hmarked, hafter⟩ := ih _ _ hbetween hlonger
      refine ⟨mark entry :: first ++ others, ?_, ?_, ?_, hafter⟩
      · rw [← List.append_assoc, ← hfirst]
        exact hothers
      · intro occurrence hmem other hother
        rcases List.mem_append.mp hmem with hmem | hmem
        · rcases List.mem_cons.mp hmem with rfl | hmem
          · rw [hnumber] at hother
            exact Nat.le_of_eq (Option.some.inj hother)
          · exact Nat.le_of_lt (hinside occurrence hmem other hother)
        · exact hlate occurrence hmem other hother
      · -- what was done while this part was going on is no part itself
        have hnone : numbered number first = [] :=
          numbered_eq_nil fun occurrence hmem hsame =>
            Nat.lt_irrefl number (hinside occurrence hmem number hsame)
        calc numbered number (mark entry :: first ++ others)
            = numbered number [mark entry] ++ numbered number first ++ numbered number others := by
              rw [← numbered_append, ← numbered_append, List.singleton_append]
          _ = (entry :: rest).map mark := by
              rw [numbered_singleton (hnumber entry), hnone, hmarked, List.append_nil]
              rfl

omit [Codecs] in
/-- What goes through all entries, with a part for each, and says so in the end. -/
theorem keeps_of_parts {action : Play σ Unit} (mark : Nat → String × σ → Occurrence σ)
    (part : Nat → String × σ → Play σ Unit) (last : Nat → Occurrence σ)
    (hrun : ∀ registry course, (action.run registry).run course =
      ((do registry.entries.forM (part course.log.length)
           note (last course.log.length) : Play σ Unit).run registry).run course)
    (hnumber : ∀ number entry, (mark number entry).number = some number)
    (hparts : ∀ number entry, Marks number (mark number entry) (part number entry))
    (hlast : ∀ number, (last number).number = none ∧ (last number).writes = none ∧
      (last number).jobs = [])
    (hfits : ∀ number log entries, Snapshot (log.take number) entries →
      numbered number log = entries.map (mark number) → Fits log (last number)) :
    Keeps action := by
  intro registry course hholds
  obtain ⟨added, hadded, hlate, hmarked, hbetween⟩ := forM_marks registry.entries
    (hnumber course.log.length) (hparts course.log.length) registry course hholds (Nat.le_refl _)
  obtain ⟨hnone, hwrites, hjobs⟩ := hlast course.log.length
  -- nothing had this number before
  have hnew : numbered course.log.length course.log = [] :=
    numbered_eq_nil fun occurrence hmem hsame =>
      Nat.lt_irrefl _ (hholds.numbers occurrence hmem _ hsame)
  have hsnapshot : Snapshot ((course.log ++ added).take course.log.length) registry.entries := by
    rw [List.take_left]
    exact hholds.snapshot
  have hfinished : Fits (course.log ++ added) (last course.log.length) := by
    refine hfits _ _ _ hsnapshot ?_
    rw [numbered_append, hnew, List.nil_append, hmarked]
  rw [← hadded] at hfinished
  have hloop : KeepsFrom registry course (registry.entries.forM (part course.log.length)) :=
    ⟨added, hadded, hlate, hbetween⟩
  -- this is from where the loop ended
  have hnoted : KeepsFrom _ _ (note (last course.log.length)) :=
    hbetween.keepsFrom (last course.log.length) (run_note _ _ _)
      (by rw [hjobs, List.append_nil]) hnone hfinished (hbetween.agrees_concat hwrites)
  have hall : KeepsFrom registry course (do
      registry.entries.forM (part course.log.length)
      note (last course.log.length)) := hloop.bind hnoted
  obtain ⟨all, hall, hlater, hafter⟩ := hall
  rw [← hrun registry course] at hall hafter
  exact ⟨all, hall, hlater, hafter⟩

theorem keeps_enumerate {visit : String → σ → Script σ}
    (hvisit : ∀ name value, Keeps ((visit name value).play world)) :
    Keeps ((enumerate visit).play world) := by
  refine keeps_of_parts (fun number entry => .visited number entry.1 entry.2)
    (fun number entry => do
      note (.visited number entry.1 entry.2)
      (visit entry.1 entry.2).play world) .enumerated ?_ ?_ ?_ ?_ ?_
  · intro registry course
    rfl
  · intro number entry
    rfl
  · intro number entry
    exact marks_note rfl rfl rfl (fun _ => trivial) (hvisit entry.1 entry.2)
  · intro number
    exact ⟨rfl, rfl, rfl⟩
  · intro number log entries hsnapshot hnumbered
    exact ⟨entries, hsnapshot, hnumbered⟩

theorem keeps_closeAll {meanwhile : σ → Script σ}
    (hmeanwhile : ∀ value, Keeps ((meanwhile value).play world)) :
    Keeps ((closeAll meanwhile).play world) := by
  refine keeps_of_parts (fun number entry => .closing number entry.2)
    (fun number entry => do
      note (.closing number entry.2)
      (meanwhile entry.2).play world
      let _ ← course) .closedAll ?_ ?_ ?_ ?_ ?_
  · intro registry course
    rfl
  · intro number entry
    rfl
  · intro number entry
    exact marks_note rfl rfl rfl (fun _ => trivial)
      ((hmeanwhile entry.2).bind fun _ => keeps_course.bind fun _ => keeps_pure _)
  · intro number
    exact ⟨rfl, rfl, rfl⟩
  · intro number log entries hsnapshot hnumbered
    exact ⟨entries, hsnapshot, hnumbered⟩

/-! ## The main statement -/

theorem keeps_play (script : Script σ) : Keeps (script.play world) := by
  induction script with
  | nothing => exact keeps_pure ()
  | inTurn first second hfirst hsecond => exact hfirst.bind fun _ => hsecond
  | register name value => exact keeps_register name value
  | remove name => exact keeps_remove name
  | lookup name => exact keeps_lookup name
  | names => exact keeps_names
  | size => exact keeps_size
  | enumerate visit hvisit => exact keeps_enumerate hvisit
  | closeAll meanwhile hmeanwhile => exact keeps_closeAll hmeanwhile
  | parse accept chain => exact keeps_parse accept chain
  | run job image => exact keeps_runJob job image

omit [Codecs] in
theorem holds_empty : Holds (.empty : Registry σ) ⟨[], []⟩ where
  agrees name value := iff_of_false (Option.some_ne_none value).symm (not_stands_nil name value)
  jobs := rfl
  faithful := faithful_nil
  numbers := List.forall_mem_nil _

/-- **A registry is a table in which the last write counts, whatever is done to it.** -/
theorem faithful_history (world : World σ) (script : Script σ) :
    Faithful (script.history world).2 ∧
      ∀ name, Binds (script.history world).2 name ((script.history world).1.find? name) := by
  have hkeeps : Keeps (script.play world) := keeps_play script
  obtain ⟨added, -, -, hholds⟩ := hkeeps .empty ⟨[], []⟩ holds_empty
  exact ⟨hholds.faithful, hholds.agrees⟩

/-- An enumeration goes on with the entries that were there, although a visit removes one of them. -/
example (world : World Nat) :
    (history world (inTurn (register "a" 1) (inTurn (register "b" 2)
      (enumerate fun _ _ => remove "b")))).2 =
    [.registered "a" 1 none, .registered "b" 2 none,
      .visited 2 "a" 1, .removed "b" (some 2), .visited 2 "b" 2, .removed "b" none,
      .enumerated 2] := rfl

end Script

end ImageChain.Registry
