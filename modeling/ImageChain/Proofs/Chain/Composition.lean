import ImageChain.Codec.Plain
import ImageChain.Offline
import ImageChain.Program
import ImageChain.Proofs.Sequence
import ImageChain.Proofs.Text.Fields

/-!
# Two chains with a bar between them

A bar between two chains makes one chain of them.  It is read as the two are
read in turn, and its jobs are run as theirs are run in turn.

The second half is not what a sequence of actions that may fail does.  The
signal to stop ends the jobs of the first chain with an image, just as its last
job does, but only in one of the two cases the jobs of the second chain follow.
So a result does not tell whether a run goes on.  `Passes` and `Stops` do: every
job has given an image, or one of them was the first that did not.

What a job does may depend on everything outside, and change it, so jobs are run
in a world of any type.  `recording` writes down which of them are run.
-/

namespace ImageChain.Chain

/-! ## Reading -/

/-- What two readings give in turn: all that was read, or the failure that comes first. -/
def inTurn {β : Type} (first second : Except Failure (List β)) : Except Failure (List β) :=
  match first, second with
  | .error failure, _ => .error failure
  | .ok _, .error failure => .error failure
  | .ok before, .ok after => .ok (before ++ after)

theorem parse_append {σ : Type} (registry : Registry σ) (accept first second : String) :
    parse registry accept (first ++ "|" ++ second) =
      inTurn (parse registry accept first) (parse registry accept second) := by
  have hfields : fields '|' (first ++ "|" ++ second) = fields '|' first ++ fields '|' second :=
    fields_append '|' first second
  unfold parse
  rw [hfields, List.mapM_append]
  cases (fields '|' first).mapM (parseTask registry accept) with
  | error failure => rfl
  | ok before =>
      cases (fields '|' second).mapM (parseTask registry accept) with
      | error failure => rfl
      | ok after => rfl

/-- One wrong task makes the whole chain wrong. -/
theorem parse_error_of_mem {σ : Type} {registry : Registry σ} {accept chain task : String}
    (hmem : task ∈ fields '|' chain) {reason : Failure}
    (htask : parseTask registry accept task = .error reason) :
    ∃ failure, parse registry accept chain = .error failure := by
  cases hparse : parse registry accept chain with
  | error failure => exact ⟨failure, rfl⟩
  | ok steps =>
      obtain ⟨step, hstep⟩ := exists_forall₂_iff.mp ⟨steps, mapM_eq_ok_iff.mp hparse⟩ task hmem
      rw [htask] at hstep
      cases hstep

/-- A chain that is wrong does nothing. -/
theorem runChain_of_parse_error [Codecs] {κ : Type} {m : Type → Type} [Monad m] [LawfulMonad m]
    (system : System κ m) (config : Config) {registry : Registry Nat} {accept chain : String}
    {failure : Failure} (hparse : parse registry accept chain = .error failure) :
    (Program.runChain system config registry accept chain).run = pure (.error failure) := by
  unfold Program.runChain
  rw [hparse, ExceptT.run_bind, ExceptT.run_mk, pure_bind]

/-! ## Running -/

theorem isAbort_iff {failure : Failure} : failure.isAbort = true ↔ failure = .abortNext := by
  cases failure <;> simp [Failure.isAbort]

section Running

variable {ω ι α : Type}

/-- What comes of jobs, and the world afterwards. -/
def outcome (run : α → ι → ExceptT Failure (StateM ω) ι) (jobs : List α) (start : ι) (world : ω) :
    Except Failure ι × ω :=
  (execute run jobs start).run.run world

/-- Runs a job and writes it down. -/
def recording (run : α → ι → ExceptT Failure (StateM ω) ι) (job : α) (current : ι) :
    ExceptT Failure (StateM (ω × List α)) ι :=
  ExceptT.mk fun (world, ran) =>
    let (result, after) := (run job current).run.run world
    (result, (after, ran ++ [job]))

/-- Every job gives an image, and the next job takes it. -/
inductive Passes (run : α → ι → ExceptT Failure (StateM ω) ι) :
    List α → ι → ω → ι → ω → Prop where
  | nil (current : ι) (world : ω) : Passes run [] current world current world
  | cons {job : α} {rest : List α} {current next finish : ι} {world between after : ω}
      (hjob : (run job current).run.run world = (.ok next, between))
      (hrest : Passes run rest next between finish after) :
      Passes run (job :: rest) current world finish after

/-- The jobs that are run if one of them gives no image: those before it give one, and it is the
last one.  The signal to stop leaves the image that was there. -/
inductive Stops (run : α → ι → ExceptT Failure (StateM ω) ι) :
    List α → ι → ω → List α → Except Failure ι → ω → Prop where
  | intro {before : List α} {start current : ι} {world between after : ω} {job : α}
      {failure : Failure}
      (hbefore : Passes run before start world current between)
      (hjob : (run job current).run.run between = (.error failure, after)) (rest : List α) :
      Stops run (before ++ job :: rest) start world (before ++ [job])
        (if failure = .abortNext then .ok current else .error failure) after

variable {run : α → ι → ExceptT Failure (StateM ω) ι}

theorem recording_run {job : α} {current : ι} {world after : ω} {result : Except Failure ι}
    (hjob : (run job current).run.run world = (result, after)) (ran : List α) :
    (recording run job current).run.run (world, ran) = (result, (after, ran ++ [job])) := by
  show (let (result, after) := (run job current).run.run world
    (result, (after, ran ++ [job]))) = _
  rw [hjob]

theorem outcome_cons_of_ok {job : α} {current next : ι} {world between : ω}
    (hjob : (run job current).run.run world = (.ok next, between)) (rest : List α) :
    outcome run (job :: rest) current world = outcome run rest next between := by
  rw [outcome, execute, ExceptT.run_mk, StateT.run_bind, hjob]
  rfl

theorem outcome_cons_of_error {job : α} {current : ι} {world after : ω} {failure : Failure}
    (hjob : (run job current).run.run world = (.error failure, after)) (rest : List α) :
    outcome run (job :: rest) current world =
      (if failure = .abortNext then .ok current else .error failure, after) := by
  rw [outcome, execute, ExceptT.run_mk, StateT.run_bind, hjob]
  simp only [← isAbort_iff]
  rfl

/-- A run passes or stops. -/
theorem passes_or_stops (run : α → ι → ExceptT Failure (StateM ω) ι) (jobs : List α) (start : ι)
    (world : ω) :
    (∃ finish after, Passes run jobs start world finish after) ∨
      ∃ ran result after, Stops run jobs start world ran result after := by
  induction jobs generalizing start world with
  | nil => exact Or.inl ⟨start, world, .nil start world⟩
  | cons job rest ih =>
      rcases hjob : (run job start).run.run world with ⟨result, between⟩
      cases result with
      | error failure => exact Or.inr ⟨_, _, _, Stops.intro (.nil start world) hjob rest⟩
      | ok next =>
          rcases ih next between with ⟨finish, after, hpass⟩ | ⟨ran, result, after, hstop⟩
          · exact Or.inl ⟨finish, after, .cons hjob hpass⟩
          · cases hstop with
            | intro hbefore hlast others =>
                exact Or.inr ⟨_, _, _, Stops.intro (.cons hjob hbefore) hlast others⟩

/-! ### What passes -/

theorem Passes.outcome_append {jobs : List α} {start finish : ι} {world after : ω}
    (hpass : Passes run jobs start world finish after) (others : List α) :
    outcome run (jobs ++ others) start world = outcome run others finish after := by
  induction hpass with
  | nil => rfl
  | cons hjob _ ih => rw [List.cons_append, outcome_cons_of_ok hjob, ih]

theorem Passes.outcome_eq {jobs : List α} {start finish : ι} {world after : ω}
    (hpass : Passes run jobs start world finish after) :
    outcome run jobs start world = (.ok finish, after) := by
  have happend := hpass.outcome_append []
  rwa [List.append_nil] at happend

theorem Passes.recording {jobs : List α} {start finish : ι} {world after : ω}
    (hpass : Passes run jobs start world finish after) (ran : List α) :
    Passes (recording run) jobs start (world, ran) finish (after, ran ++ jobs) := by
  induction hpass generalizing ran with
  | nil current world =>
      rw [List.append_nil]
      exact .nil current (world, ran)
  | @cons job rest current next finish world between after hjob _ ih =>
      have hrest := ih (ran ++ [job])
      rw [List.append_assoc, List.singleton_append] at hrest
      exact .cons (recording_run hjob ran) hrest

/-! ### What stops -/

theorem Stops.append {jobs ran : List α} {start : ι} {world after : ω} {result : Except Failure ι}
    (hstop : Stops run jobs start world ran result after) (others : List α) :
    Stops run (jobs ++ others) start world ran result after := by
  cases hstop with
  | intro hbefore hjob rest =>
      rw [List.append_assoc, List.cons_append]
      exact .intro hbefore hjob (rest ++ others)

theorem Stops.outcome_eq {jobs ran : List α} {start : ι} {world after : ω}
    {result : Except Failure ι} (hstop : Stops run jobs start world ran result after) :
    outcome run jobs start world = (result, after) := by
  cases hstop with
  | intro hbefore hjob rest => rw [hbefore.outcome_append, outcome_cons_of_error hjob]

theorem Stops.recording {jobs done : List α} {start : ι} {world after : ω}
    {result : Except Failure ι} (hstop : Stops run jobs start world done result after)
    (ran : List α) :
    Stops (recording run) jobs start (world, ran) done result (after, ran ++ done) := by
  cases hstop with
  | intro hbefore hjob rest =>
      rw [← List.append_assoc]
      exact .intro (hbefore.recording ran) (recording_run hjob _) rest

/-! ## The main statement -/

/-- How the jobs of two chains are run in turn, of which `ran` tells those that were run before. -/
inductive RunInTurn (run : α → ι → ExceptT Failure (StateM ω) ι) (first second : List α)
    (start : ι) (world : ω) (ran : List α) : Prop where
  /-- The first jobs give an image, and the second ones take it. -/
  | passes {finish : ι} {after : ω} (hpass : Passes run first start world finish after)
      (hfirst : outcome (recording run) first start (world, ran) =
        (.ok finish, (after, ran ++ first)))
      (hboth : outcome (recording run) (first ++ second) start (world, ran) =
        outcome (recording run) second finish (after, ran ++ first))
  /-- One of the first jobs gives no image, and the second ones are not run. -/
  | stops {done : List α} {result : Except Failure ι} {after : ω}
      (hstop : Stops run first start world done result after)
      (hfirst : outcome (recording run) first start (world, ran) = (result, (after, ran ++ done)))
      (hboth : outcome (recording run) (first ++ second) start (world, ran) =
        outcome (recording run) first start (world, ran))

theorem runInTurn (run : α → ι → ExceptT Failure (StateM ω) ι) (first second : List α)
    (start : ι) (world : ω) (ran : List α) : RunInTurn run first second start world ran := by
  rcases passes_or_stops run first start world with ⟨finish, after, hpass⟩ | ⟨_, _, _, hstop⟩
  · have hrecord := hpass.recording ran
    exact .passes hpass hrecord.outcome_eq (hrecord.outcome_append second)
  · have hrecord := hstop.recording ran
    refine .stops hstop hrecord.outcome_eq ?_
    rw [hrecord.outcome_eq, (hrecord.append second).outcome_eq]

/-- Writing down which jobs are run has no part in what they do. -/
theorem outcome_recording (run : α → ι → ExceptT Failure (StateM ω) ι) (jobs : List α)
    (start : ι) (world : ω) (ran : List α) :
    outcome run jobs start world =
      ((outcome (recording run) jobs start (world, ran)).1,
        (outcome (recording run) jobs start (world, ran)).2.1) := by
  rcases passes_or_stops run jobs start world with ⟨_, _, hpass⟩ | ⟨_, _, _, hstop⟩
  · rw [hpass.outcome_eq, (hpass.recording ran).outcome_eq]
  · rw [hstop.outcome_eq, (hstop.recording ran).outcome_eq]

end Running

/-- **Two chains with a bar between them are read and run in turn, and a chain with a wrong task
runs nothing.** -/
theorem chain_append :
    (∀ {σ : Type} (registry : Registry σ) (accept first second : String),
      parse registry accept (first ++ "|" ++ second) =
        inTurn (parse registry accept first) (parse registry accept second)) ∧
    (∀ {ω ι α : Type} (run : α → ι → ExceptT Failure (StateM ω) ι) (first second : List α)
      (start : ι) (world : ω) (ran : List α),
      RunInTurn run first second start world ran ∧
        ∀ jobs, outcome run jobs start world =
          ((outcome (recording run) jobs start (world, ran)).1,
            (outcome (recording run) jobs start (world, ran)).2.1)) ∧
    (∀ [Codecs] {κ : Type} {m : Type → Type} [Monad m] [LawfulMonad m] (system : System κ m)
      (config : Config) (registry : Registry Nat) (accept chain task : String) (reason : Failure),
      task ∈ fields '|' chain → parseTask registry accept task = .error reason →
        ∃ failure, parse registry accept chain = .error failure ∧
          (Program.runChain system config registry accept chain).run = pure (.error failure)) := by
  refine ⟨fun registry accept first second => parse_append registry accept first second,
    fun run first second start world ran => ⟨runInTurn run first second start world ran,
      fun jobs => outcome_recording run jobs start world ran⟩, ?_⟩
  intro _ κ m _ _ system config registry accept chain task reason hmem htask
  obtain ⟨failure, hparse⟩ := parse_error_of_mem hmem htask
  exact ⟨failure, hparse, runChain_of_parse_error system config hparse⟩

/-- A job that has its result already. -/
def prepared (result : Except Failure Nat) (_ : Nat) : ExceptT Failure (StateM Unit) Nat :=
  ExceptT.mk (pure result)

/-- Jobs that stop before others, and a chain whose second task is wrong. -/
theorem chain_append_abort :
    ∃ system : System Unit Id,
      RunInTurn prepared [.ok 1, .error .abortNext] [.ok 2] 0 () [] ∧
        outcome (recording prepared) ([.ok 1, .error .abortNext] ++ [.ok 2]) 0 ((), []) =
          (.ok 1, ((), [.ok 1, .error .abortNext])) ∧
        "cat.png" ∈ fields '|' "fitResize/1/2|cat.png" ∧
        parseTask (.empty : Registry Nat) "" "cat.png" = .error (.notFound "cat.png") ∧
        ∃ failure, parse (.empty : Registry Nat) "" "fitResize/1/2|cat.png" = .error failure ∧
          (Program.runChain system .default .empty "" "fitResize/1/2|cat.png").run =
            pure (.error failure) := by
  have hmem : "cat.png" ∈ fields '|' "fitResize/1/2|cat.png" := by decide
  have htask : parseTask (.empty : Registry Nat) "" "cat.png" = .error (.notFound "cat.png") := rfl
  refine ⟨⟨.offline fun _ => .error "closed", .offline, fun _ => none, fun _ _ => .error "closed",
    fun _ action => some action, id⟩, ?_, rfl, hmem, htask, ?_⟩
  · exact (chain_append.2.1 prepared [.ok 1, .error .abortNext] [.ok 2] 0 () []).1
  · exact chain_append.2.2 _ .default .empty "" _ _ _ hmem htask

end ImageChain.Chain
