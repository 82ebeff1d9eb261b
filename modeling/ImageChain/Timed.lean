import ImageChain.Duration

/-!
# Actions that take time

The clock of these actions moves only when one of them sleeps; everything else takes no time.  An
action may be cut off at a deadline.  It is cut off by the first sleep that would last beyond the
deadline, and what it did to the world before that stays done.
-/

namespace ImageChain

/-- The time and the state of the world. -/
structure Moment (ω : Type) where
  /-- The time that has passed since the start. -/
  now : Duration
  /-- The state of the world. -/
  world : ω

/-- An action that takes time.  It knows its deadline, and it may miss it. -/
abbrev Timed (ω : Type) : Type → Type :=
  ReaderT (Option Duration) (ExceptT Unit (StateM (Moment ω)))

namespace Timed

variable {ω α : Type}

/-- The time that has passed since the start. -/
def now : Timed ω Duration := do
  return (← get).now

/-- The state of the world. -/
def world : Timed ω ω := do
  return (← get).world

/-- Changes the state of the world. -/
def change (f : ω → ω) : Timed ω Unit :=
  modify fun moment => { moment with world := f moment.world }

/-- Waits.  A deadline before the end of the wait cuts the action off when it comes. -/
def sleep (duration : Duration) : Timed ω Unit := do
  let wake := (← now) + duration
  match ← read with
  | none => modify fun moment => { moment with now := wake }
  | some deadline =>
    if wake.atMost deadline then modify fun moment => { moment with now := wake }
    else
      modify fun moment => { moment with now := deadline }
      throw ()

/-- Runs an action that is cut off after a limit, in which case there is no result.  A deadline of
the surroundings that comes earlier cuts off the surroundings. -/
def within (limit : Duration) (action : Timed ω α) : Timed ω (Option α) := fun outer =>
  ExceptT.mk fun moment =>
    let own := moment.now + limit
    let deadline := match outer with
      | none => own
      | some outer => outer.shorter own
    match (action (some deadline)).run moment with
    | (.ok a, after) => (.ok (some a), after)
    | (.error (), after) => if deadline = own then (.ok none, after) else (.error (), after)

/-- Runs an action without a deadline from the start of the clock: the result, and the moment
afterwards. -/
def runFrom (world : ω) (action : Timed ω α) : Except Unit α × Moment ω :=
  (action none).run ⟨.zero, world⟩

end Timed

end ImageChain
