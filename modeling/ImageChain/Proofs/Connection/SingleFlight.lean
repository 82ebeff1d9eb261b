import ImageChain.Proofs.Connection.Coherence

/-!
# One dial and one connection an address

Any number of calls ask for any addresses, dials end well or badly, and calls
are given up while they wait, all in any order.  `singleFlight_of_run` says what
this comes to for each address: one dial at a time, one success at most, and
from then on one connection for everybody.

The statement about the future, `SingleFlight.kept`, needs a step of its own:
`step_keeps_ready` says that no event touches an address that is ready.
-/

namespace ImageChain.Exchange

variable {κ : Type}

/-- The number of dials that an address has had. -/
def dialCount (exchange : Exchange κ) (address : String) : Nat :=
  (exchange.dials.map (·.address)).count address

/-- What the calls for an address have in common. -/
structure SingleFlight (exchange : Exchange κ) : Prop where
  /-- No address is ready and being dialed. -/
  apart : ∀ address, exchange.cache.ready.find? address = none ∨
    exchange.cache.dialing.find? address = none
  /-- At most one dial of an address is unfinished. -/
  one_unfinished : ∀ {address : String} {first second : Nat},
    exchange.dials[first]? = some ⟨address, none⟩ →
      exchange.dials[second]? = some ⟨address, none⟩ → first = second
  /-- At most one dial of an address succeeds. -/
  one_success : ∀ {address : String} {first second : Nat} {connection other : κ},
    exchange.dials[first]? = some ⟨address, some (.ok connection)⟩ →
      exchange.dials[second]? = some ⟨address, some (.ok other)⟩ → first = second
  /-- Whatever happens later, a connection stays and no further dial starts. -/
  kept : ∀ {events : List (ExchangeEvent κ)} {later : Exchange κ} {address : String}
    {connection : κ}, exchange.run events = some later →
      exchange.cache.ready.find? address = some connection →
        later.cache.ready.find? address = some connection ∧
          later.dialCount address = exchange.dialCount address
  /-- Every call that got a connection got the one that is ready. -/
  agreed : ∀ {address : String} {connection : κ},
    Call.mk address (.returned (.ok connection)) ∈ exchange.calls →
      exchange.cache.ready.find? address = some connection

/-! ## An address that is ready -/

/-- Finishing a dial does not change what it dials. -/
theorem dialCount_set {exchange : Exchange κ} {dial : Nat} {address other : String}
    {before after : Option (Except Failure κ)}
    (hdial : exchange.dials[dial]? = some ⟨address, before⟩) :
    dialCount { exchange with dials := exchange.dials.set dial ⟨address, after⟩ } other =
      exchange.dialCount other := by
  obtain ⟨hlength, hget⟩ := List.getElem?_eq_some_iff.mp hdial
  have hsame : (exchange.dials.set dial ⟨address, after⟩).map (·.address) =
      exchange.dials.map (·.address) := by
    refine List.ext_getElem? fun number => ?_
    by_cases hother : dial = number
    · subst hother
      simp [hlength, hget]
    · simp [hother]
  simp only [dialCount, hsame]

theorem step_keeps_ready {exchange next : Exchange κ} {event : ExchangeEvent κ}
    (holds : Coherent exchange) (hstep : exchange.step event = some next) {address : String}
    {connection : κ} (hready : exchange.cache.ready.find? address = some connection) :
    next.cache.ready.find? address = some connection ∧
      next.dialCount address = exchange.dialCount address := by
  cases changes_of_step hstep with
  | found | joined | dropped => exact ⟨hready, rfl⟩
  | @started asked hnone =>
      -- the new dial is for an address that is not ready
      have hother : asked ≠ address := by
        rintro rfl
        rw [hnone] at hready
        cases hready
      refine ⟨hready, ?_⟩
      simp [dialCount, List.count_append, hother]
  | finished hdial => exact ⟨hready, dialCount_set hdial⟩
  | @collected _ dial asked _ outcome =>
      exact ⟨holds.ready_settle asked dial outcome hready, rfl⟩

theorem run_keeps_ready {exchange later : Exchange κ} {events : List (ExchangeEvent κ)}
    (holds : Coherent exchange) (hrun : exchange.run events = some later) {address : String}
    {connection : κ} (hready : exchange.cache.ready.find? address = some connection) :
    later.cache.ready.find? address = some connection ∧
      later.dialCount address = exchange.dialCount address := by
  have hkept : Coherent later ∧ later.cache.ready.find? address = some connection ∧
      later.dialCount address = exchange.dialCount address := by
    refine run_induction (motive := fun state => Coherent state ∧
      state.cache.ready.find? address = some connection ∧
        state.dialCount address = exchange.dialCount address)
      (fun hbefore hstep => ?_) ⟨holds, hready, rfl⟩ hrun
    obtain ⟨hcoherent, hconnection, hcount⟩ := hbefore
    obtain ⟨hnext, hnextCount⟩ := step_keeps_ready hcoherent hstep hconnection
    exact ⟨step_coherent hcoherent hstep, hnext, hnextCount.trans hcount⟩
  exact hkept.2

/-! ## The main statement -/

/-- **In every exchange that comes about, the calls for an address share one dial at a time and one
connection for good.** -/
theorem singleFlight_of_run {events : List (ExchangeEvent κ)} {exchange : Exchange κ}
    (hrun : start.run events = some exchange) : SingleFlight exchange := by
  have holds := run_coherent hrun
  constructor
  case apart =>
    intro address
    cases hentry : exchange.cache.dialing.find? address with
    | none => exact Or.inr rfl
    | some dial => exact Or.inl (holds.not_ready_of_dialing hentry)
  case one_unfinished =>
    intro address first second hfirst hsecond
    have hentry := holds.dialing_of_unfinished hfirst
    rw [holds.dialing_of_unfinished hsecond] at hentry
    exact (Option.some.inj hentry).symm
  case one_success => exact holds.success_unique
  case kept =>
    intro events later address connection hlater hready
    exact run_keeps_ready holds hlater hready
  case agreed => exact holds.ready_of_returned

/-- A failed first dial, a late second waiter of it, a second dial that succeeds, a caller who
joined that and was given up, and one who came when all was done. -/
theorem singleFlight_after_failed_dial :
    ∃ exchange : Exchange Nat,
      start.run [.ask "a", .ask "a", .finish 0 (.error (.backend "refused")), .collect 0,
        .ask "a", .collect 1, .ask "a", .finish 1 (.ok 7), .drop 3, .collect 2, .ask "a"] =
          some exchange ∧
        exchange.cache.ready.find? "a" = some 7 ∧ exchange.dialCount "a" = 2 ∧
        SingleFlight exchange := by
  refine ⟨?exchange, ?run, ?ready, ?count, singleFlight_of_run ?run⟩
  case run => rfl
  case ready => rfl
  case count => rfl

end ImageChain.Exchange
