import ImageChain.Connection.Exchange

/-!
# Calls at given times

A timeline decides when the events of an exchange happen.  Every call starts at a time and may have
a limit; every dial takes a length of time that is known when it starts.  At each instant the calls
get on one after the other: a call that waits looks at its dial first and at its limit second, so a
call whose dial is done when the limit is reached still gets its answer.
-/

namespace ImageChain

/-- A call that is going to be made. -/
structure Appointment where
  /-- The address it asks for. -/
  address : String
  /-- When it starts. -/
  start : Duration
  /-- How long it may take. -/
  limit : Option Duration

/-- How far an appointment has got. -/
inductive AppointmentStage (κ : Type) where
  /-- It has not started. -/
  | ahead
  /-- It is the call with this number. -/
  | calling (call : Nat)
  /-- It ended at a time with an outcome. -/
  | ended (time : Duration) (outcome : Except Failure κ)

/-- How a dial is going to end. -/
structure DialPlan (κ : Type) where
  /-- When it was started. -/
  started : Duration
  /-- When it will be done. -/
  due : Duration
  /-- Its outcome. -/
  outcome : Except Failure κ

/-- An exchange with the plans of its dials, by number. -/
structure Timeline (κ : Type) where
  /-- The exchange. -/
  exchange : Exchange κ
  /-- The plans. -/
  plans : List (DialPlan κ)

namespace Timeline

variable {κ : Type}

/-- The timeline on which nothing has happened. -/
def start : Timeline κ := ⟨.start, []⟩

/-- The number of dials that an address has had. -/
def dialCount (timeline : Timeline κ) (address : String) : Nat :=
  (timeline.exchange.dials.filter fun dial => dial.address == address).length

/-- Starts a call.  `script` tells how long the dials of an address take and how they end. -/
def ask (script : String → Nat → Duration × Except Failure κ) (now : Duration)
    (timeline : Timeline κ) (address : String) : Timeline κ :=
  let exchange := timeline.exchange.ask address
  if timeline.exchange.dials.length < exchange.dials.length then
    let (length, outcome) := script address (timeline.dialCount address)
    ⟨exchange, timeline.plans ++ [⟨now, now + length, outcome⟩]⟩
  else { timeline with exchange := exchange }

/-- Finishes a dial that is due. -/
def finish (now : Duration) (timeline : Timeline κ) (dial : Nat) : Timeline κ :=
  match timeline.plans[dial]? with
  | none => timeline
  | some plan =>
    if plan.due.atMost now then
      match timeline.exchange.finish dial plan.outcome with
      | some exchange => { timeline with exchange := exchange }
      | none => timeline
    else timeline

/-- Lets a call look at the dial it waits for. -/
def look (now : Duration) (timeline : Timeline κ) (call : Nat) : Timeline κ :=
  match timeline.exchange.calls[call]? with
  | some ⟨_, .waiting dial⟩ => timeline.finish now dial
  | _ => timeline

/-- Lets a call get on: it ends if it has its answer or if its limit is reached. -/
def poll (now : Duration) (timeline : Timeline κ) (appointment : Appointment) (call : Nat) :
    Timeline κ × AppointmentStage κ :=
  let timeline := timeline.look now call
  let exchange : Exchange κ := (timeline.exchange.collect call).getD timeline.exchange
  match exchange.calls[call]? with
  | some ⟨_, .returned outcome⟩ => ({ timeline with exchange := exchange }, .ended now outcome)
  | _ =>
    match appointment.limit with
    | none => (timeline, .calling call)
    | some limit =>
      if (appointment.start + limit).atMost now then
        let exchange := (timeline.exchange.drop call).getD timeline.exchange
        ({ timeline with exchange := exchange }, .ended now (.error (.timeout limit)))
      else (timeline, .calling call)

/-- Lets an appointment get on. -/
def advance (script : String → Nat → Duration × Except Failure κ) (now : Duration)
    (timeline : Timeline κ) (appointment : Appointment) :
    AppointmentStage κ → Timeline κ × AppointmentStage κ
  | .ahead =>
    if appointment.start.atMost now then
      let call := timeline.exchange.calls.length
      poll now (timeline.ask script now appointment.address) appointment call
    else (timeline, .ahead)
  | .calling call => poll now timeline appointment call
  | .ended time outcome => (timeline, .ended time outcome)

/-- Lets all appointments get on, in order. -/
def advanceAll (script : String → Nat → Duration × Except Failure κ) (now : Duration)
    (timeline : Timeline κ) :
    List (Appointment × AppointmentStage κ) → Timeline κ × List (Appointment × AppointmentStage κ)
  | [] => (timeline, [])
  | (appointment, stage) :: rest =>
    let (timeline, stage) := timeline.advance script now appointment stage
    let (timeline, rest) := timeline.advanceAll script now rest
    (timeline, (appointment, stage) :: rest)

/-- The times at which an appointment may get on. -/
def wakeTimes (timeline : Timeline κ) (appointment : Appointment) :
    AppointmentStage κ → List Duration
  | .ahead => [appointment.start]
  | .calling call =>
    let due := match timeline.exchange.calls[call]? with
      | some ⟨_, .waiting dial⟩ => (timeline.plans[dial]?.map (·.due)).toList
      | _ => []
    due ++ (appointment.limit.map (appointment.start + ·)).toList
  | .ended _ _ => []

/-- The next time at which an appointment may get on. -/
def nextWake (timeline : Timeline κ) (stages : List (Appointment × AppointmentStage κ)) :
    Option Duration :=
  match stages.flatMap fun (appointment, stage) => timeline.wakeTimes appointment stage with
  | [] => none
  | first :: rest => some (rest.foldl Duration.shorter first)

/-- Goes from instant to instant until all appointments have ended, but at most through `fuel`
instants. -/
def runFrom (script : String → Nat → Duration × Except Failure κ) :
    Nat → Timeline κ → List (Appointment × AppointmentStage κ) →
      Timeline κ × List (Appointment × AppointmentStage κ)
  | 0, timeline, stages => (timeline, stages)
  | fuel + 1, timeline, stages =>
    match timeline.nextWake stages with
    | none => (timeline, stages)
    | some now =>
      let (timeline, stages) := timeline.advanceAll script now stages
      runFrom script fuel timeline stages

/-- Keeps all appointments.  Every instant starts or ends at least one of them, so twice as many
instants are enough. -/
def keep (script : String → Nat → Duration × Except Failure κ) (timeline : Timeline κ)
    (appointments : List Appointment) : Timeline κ × List (AppointmentStage κ) :=
  let stages := appointments.map fun appointment => (appointment, AppointmentStage.ahead)
  let (timeline, stages) := runFrom script (2 * appointments.length) timeline stages
  (timeline, stages.map (·.2))

end Timeline

end ImageChain
