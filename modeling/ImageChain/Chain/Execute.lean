import ImageChain.Failure

/-!
# Running jobs one after the other

Each job takes the result of the one before it.  The signal to stop ends the run with the result so
far; every other failure ends it with that failure.  What a job is does not matter here.
-/

namespace ImageChain.Chain

variable {m : Type → Type} [Monad m] {ι α : Type}

/-- Runs jobs in order, starting from `current`. -/
def execute (run : α → ι → ExceptT Failure m ι) : List α → ι → ExceptT Failure m ι
  | [], current => pure current
  | job :: rest, current => ExceptT.mk do
    match ← (run job current).run with
    | .ok next => (execute run rest next).run
    | .error failure => return if failure.isAbort then .ok current else .error failure

/-- Runs jobs in order, but not longer than a limit.  `within` cuts an action off at a limit. -/
def executeWithin (within : Duration → m (Except Failure ι) → m (Option (Except Failure ι)))
    (limit : Duration) (run : α → ι → ExceptT Failure m ι) (jobs : List α) (start : ι) :
    ExceptT Failure m ι := ExceptT.mk do
  match ← within limit (execute run jobs start).run with
  | some result => return result
  | none => return .error (.timeout limit)

end ImageChain.Chain
