import ImageChain.Connection.Exchange
import ImageChain.Proofs.Registry.Lookup

/-!
# The invariant of an exchange

Between the two short sections in which a call touches the cache it waits, and
while it waits other calls ask, settle, or are given up.  What survives all of
this is `Coherent`, which ties three views of an address together: its entries
in the cache, the dials it has had, and the calls that asked for it.

* An entry of a dial under way names a dial of its own address, and stands
  beside no connection.
* A dial that is unfinished still has its entry.  A dial that has succeeded has
  its entry until a call settles it, and from then on its connection is the one
  that is ready.
* A call waits for a dial of its own address, and a call that got a connection
  got the one that is ready.

`ask_cases`, `finish_cases`, `collect_cases` and `drop_cases` say once what an
event can do, and `Changes` puts it together; `step_coherent` is the step and
`run_coherent` the run.
-/

namespace ImageChain.ConnectionCache

variable {κ : Type}

/-! ## What settling does -/

/-- Settling takes away the entry of its own dial and no other. -/
theorem find?_dialing_settle (cache : ConnectionCache κ) (address other : String) (dial : Nat)
    (outcome : Except Failure κ) :
    (cache.settle address dial outcome).dialing.find? other =
      if other = address ∧ cache.dialing.find? address = some dial then none
      else cache.dialing.find? other := by
  by_cases hentry : cache.dialing.find? address = some dial
  · cases outcome <;> simp [settle, hentry, Registry.find?_erase]
  · simp [settle, hentry]

/-- Settling makes a connection ready if the entry is still its own dial's. -/
theorem find?_ready_settle (cache : ConnectionCache κ) (address other : String) (dial : Nat)
    (outcome : Except Failure κ) :
    (cache.settle address dial outcome).ready.find? other =
      if other = address ∧ cache.dialing.find? address = some dial then
        outcome.toOption <|> cache.ready.find? other
      else cache.ready.find? other := by
  by_cases hentry : cache.dialing.find? address = some dial
  · cases outcome with
    | ok connection =>
        by_cases hother : other = address <;>
          simp [settle, hentry, Registry.find?_insert, hother, Except.toOption]
    | error failure => simp [settle, hentry, Except.toOption]
  · simp [settle, hentry]

end ImageChain.ConnectionCache

namespace ImageChain.Exchange

variable {κ : Type}

/-! ## What an event does -/

theorem ask_of_ready {exchange : Exchange κ} {address : String} {connection : κ}
    (hready : exchange.cache.ready.find? address = some connection) :
    exchange.ask address =
      { exchange with calls := exchange.calls ++ [⟨address, .returned (.ok connection)⟩] } := by
  simp [ask, ConnectionCache.ask, hready]

theorem ask_of_dialing {exchange : Exchange κ} {address : String} {dial : Nat}
    (hready : exchange.cache.ready.find? address = none)
    (hdialing : exchange.cache.dialing.find? address = some dial) :
    exchange.ask address =
      { exchange with calls := exchange.calls ++ [⟨address, .waiting dial⟩] } := by
  simp [ask, ConnectionCache.ask, hready, hdialing]

theorem ask_of_new {exchange : Exchange κ} {address : String}
    (hready : exchange.cache.ready.find? address = none)
    (hdialing : exchange.cache.dialing.find? address = none) :
    exchange.ask address =
      ⟨⟨exchange.cache.ready, exchange.cache.dialing.insert address exchange.dials.length⟩,
        exchange.dials ++ [⟨address, none⟩],
        exchange.calls ++ [⟨address, .waiting exchange.dials.length⟩]⟩ := by
  simp [ask, ConnectionCache.ask, hready, hdialing]

/-- A dial has its entry as soon as it is started. -/
theorem dialing_ask_of_new {exchange : Exchange κ} {address : String}
    (hready : exchange.cache.ready.find? address = none)
    (hdialing : exchange.cache.dialing.find? address = none) :
    (exchange.ask address).cache.dialing.find? address = some exchange.dials.length := by
  rw [ask_of_new hready hdialing, Registry.find?_insert, if_pos rfl]

/-- A call finds a connection, joins a dial, or starts one. -/
theorem ask_cases (exchange : Exchange κ) (address : String) :
    (∃ connection, exchange.cache.ready.find? address = some connection ∧
      exchange.ask address =
        { exchange with calls := exchange.calls ++ [⟨address, .returned (.ok connection)⟩] }) ∨
    (∃ dial, exchange.cache.dialing.find? address = some dial ∧
      exchange.ask address =
        { exchange with calls := exchange.calls ++ [⟨address, .waiting dial⟩] }) ∨
    (exchange.cache.ready.find? address = none ∧ exchange.cache.dialing.find? address = none ∧
      exchange.ask address =
        ⟨⟨exchange.cache.ready, exchange.cache.dialing.insert address exchange.dials.length⟩,
          exchange.dials ++ [⟨address, none⟩],
          exchange.calls ++ [⟨address, .waiting exchange.dials.length⟩]⟩) := by
  cases hready : exchange.cache.ready.find? address with
  | some connection => exact Or.inl ⟨connection, rfl, ask_of_ready hready⟩
  | none =>
      cases hdialing : exchange.cache.dialing.find? address with
      | some dial => exact Or.inr (Or.inl ⟨dial, rfl, ask_of_dialing hready hdialing⟩)
      | none => exact Or.inr (Or.inr ⟨rfl, rfl, ask_of_new hready hdialing⟩)

/-- A dial that finishes was unfinished, and some call waited for it. -/
theorem finish_cases {exchange next : Exchange κ} {dial : Nat} {outcome : Except Failure κ}
    (hfinish : exchange.finish dial outcome = some next) :
    ∃ address, exchange.dials[dial]? = some ⟨address, none⟩ ∧
      (∃ call ∈ exchange.calls, awaits call dial = true) ∧
      next = { exchange with dials := exchange.dials.set dial ⟨address, some outcome⟩ } := by
  unfold finish at hfinish
  split at hfinish
  · next address hdial =>
      split at hfinish
      · next hawaited =>
          exact ⟨address, hdial, by simpa using hawaited, (Option.some.inj hfinish).symm⟩
      · cases hfinish
  · cases hfinish

/-- A call that takes an outcome waited for a dial that is finished. -/
theorem collect_cases {exchange next : Exchange κ} {call : Nat}
    (hcollect : exchange.collect call = some next) :
    ∃ address dial owner outcome,
      exchange.calls[call]? = some ⟨address, .waiting dial⟩ ∧
      exchange.dials[dial]? = some ⟨owner, some outcome⟩ ∧
      next = { exchange with
        cache := exchange.cache.settle address dial outcome
        calls := exchange.calls.set call ⟨address, .returned outcome⟩ } := by
  unfold collect at hcollect
  split at hcollect
  · next address dial hcall =>
      split at hcollect
      · next owner outcome hdial =>
          exact ⟨address, dial, owner, outcome, hcall, hdial, (Option.some.inj hcollect).symm⟩
      · cases hcollect
  · cases hcollect

/-- A call that is given up was waiting. -/
theorem drop_cases {exchange next : Exchange κ} {call : Nat}
    (hdrop : exchange.drop call = some next) :
    ∃ address dial, exchange.calls[call]? = some ⟨address, .waiting dial⟩ ∧
      next = { exchange with calls := exchange.calls.set call ⟨address, .dropped⟩ } := by
  unfold drop at hdrop
  split at hdrop
  · next address dial hcall =>
      exact ⟨address, dial, hcall, (Option.some.inj hdrop).symm⟩
  · cases hdrop

/-- All that an event can do. -/
inductive Changes (exchange : Exchange κ) : ExchangeEvent κ → Exchange κ → Prop where
  /-- A new call finds a connection. -/
  | found {address : String} {connection : κ}
      (hready : exchange.cache.ready.find? address = some connection) :
      Changes exchange (.ask address)
        { exchange with calls := exchange.calls ++ [⟨address, .returned (.ok connection)⟩] }
  /-- It joins a dial. -/
  | joined {address : String} {dial : Nat}
      (hentry : exchange.cache.dialing.find? address = some dial) :
      Changes exchange (.ask address)
        { exchange with calls := exchange.calls ++ [⟨address, .waiting dial⟩] }
  /-- It starts a dial. -/
  | started {address : String} (hready : exchange.cache.ready.find? address = none)
      (hdialing : exchange.cache.dialing.find? address = none) :
      Changes exchange (.ask address)
        ⟨⟨exchange.cache.ready, exchange.cache.dialing.insert address exchange.dials.length⟩,
          exchange.dials ++ [⟨address, none⟩],
          exchange.calls ++ [⟨address, .waiting exchange.dials.length⟩]⟩
  /-- A dial for which some call waits has finished. -/
  | finished {address : String} {dial : Nat} {outcome : Except Failure κ}
      (hdial : exchange.dials[dial]? = some ⟨address, none⟩)
      (hawaited : ∃ call ∈ exchange.calls, awaits call dial = true) :
      Changes exchange (.finish dial outcome)
        { exchange with dials := exchange.dials.set dial ⟨address, some outcome⟩ }
  /-- A call has taken the outcome of the dial it waited for. -/
  | collected {call dial : Nat} {address owner : String} {outcome : Except Failure κ}
      (hcall : exchange.calls[call]? = some ⟨address, .waiting dial⟩)
      (hdial : exchange.dials[dial]? = some ⟨owner, some outcome⟩) :
      Changes exchange (.collect call)
        { exchange with
          cache := exchange.cache.settle address dial outcome
          calls := exchange.calls.set call ⟨address, .returned outcome⟩ }
  /-- A waiting call was given up. -/
  | dropped {call dial : Nat} {address : String}
      (hcall : exchange.calls[call]? = some ⟨address, .waiting dial⟩) :
      Changes exchange (.drop call)
        { exchange with calls := exchange.calls.set call ⟨address, .dropped⟩ }

theorem changes_of_step {before after : Exchange κ} {event : ExchangeEvent κ}
    (hstep : before.step event = some after) : Changes before event after := by
  cases event with
  | ask address =>
      cases hstep
      rcases ask_cases before address with
        ⟨connection, hready, hask⟩ | ⟨dial, hentry, hask⟩ | ⟨hready, hdialing, hask⟩ <;> rw [hask]
      · exact .found hready
      · exact .joined hentry
      · exact .started hready hdialing
  | finish dial outcome =>
      obtain ⟨address, hdial, hawaited, rfl⟩ := finish_cases hstep
      exact .finished hdial hawaited
  | collect call =>
      obtain ⟨address, dial, owner, outcome, hcall, hdial, rfl⟩ := collect_cases hstep
      exact .collected hcall hdial
  | drop call =>
      obtain ⟨address, dial, hcall, rfl⟩ := drop_cases hstep
      exact .dropped hcall

/-! ## The invariant -/

/-- What holds in every exchange that comes about. -/
structure Coherent (exchange : Exchange κ) : Prop where
  /-- An entry of a dial under way names a dial of its address. -/
  dial_of_dialing : ∀ {address dial}, exchange.cache.dialing.find? address = some dial →
    ∃ outcome, exchange.dials[dial]? = some ⟨address, outcome⟩
  /-- No address is ready and being dialed. -/
  not_ready_of_dialing : ∀ {address dial}, exchange.cache.dialing.find? address = some dial →
    exchange.cache.ready.find? address = none
  /-- An unfinished dial has its entry. -/
  dialing_of_unfinished : ∀ {address : String} {dial : Nat},
    exchange.dials[dial]? = some ⟨address, none⟩ →
      exchange.cache.dialing.find? address = some dial
  /-- A dial that succeeded has its entry until it is settled. -/
  settled_of_success : ∀ {address : String} {dial : Nat} {connection : κ},
    exchange.dials[dial]? = some ⟨address, some (.ok connection)⟩ →
      exchange.cache.dialing.find? address = some dial ∨
        exchange.cache.ready.find? address = some connection
  /-- An address has at most one dial that succeeded. -/
  success_unique : ∀ {address : String} {first second : Nat} {connection other : κ},
    exchange.dials[first]? = some ⟨address, some (.ok connection)⟩ →
      exchange.dials[second]? = some ⟨address, some (.ok other)⟩ → first = second
  /-- A connection that is ready comes from a dial of its address. -/
  success_of_ready : ∀ {address connection},
    exchange.cache.ready.find? address = some connection →
      ∃ dial : Nat, exchange.dials[dial]? = some ⟨address, some (.ok connection)⟩
  /-- A call waits for a dial of its address. -/
  dial_of_waiting : ∀ {address dial}, Call.mk address (.waiting dial) ∈ exchange.calls →
    ∃ outcome, exchange.dials[dial]? = some ⟨address, outcome⟩
  /-- A call that got a connection got the one that is ready. -/
  ready_of_returned : ∀ {address connection},
    Call.mk address (.returned (.ok connection)) ∈ exchange.calls →
      exchange.cache.ready.find? address = some connection

theorem start_coherent : Coherent (start : Exchange κ) := by
  constructor <;> simp [start, ConnectionCache.empty]

/-- Only the last two clauses look at the calls. -/
theorem Coherent.of_calls {exchange : Exchange κ} (holds : Coherent exchange)
    {calls : List (Call κ)}
    (hwaiting : ∀ {address dial}, Call.mk address (.waiting dial) ∈ calls →
      ∃ outcome, exchange.dials[dial]? = some ⟨address, outcome⟩)
    (hreturned : ∀ {address connection}, Call.mk address (.returned (.ok connection)) ∈ calls →
      exchange.cache.ready.find? address = some connection) :
    Coherent { exchange with calls := calls } :=
  { holds with dial_of_waiting := hwaiting, ready_of_returned := hreturned }

/-- While an address is being dialed, no other dial of it has succeeded. -/
theorem Coherent.eq_of_success {exchange : Exchange κ} (holds : Coherent exchange)
    {address : String} {entry dial : Nat} {connection : κ}
    (hentry : exchange.cache.dialing.find? address = some entry)
    (hsuccess : exchange.dials[dial]? = some ⟨address, some (.ok connection)⟩) : dial = entry := by
  rcases holds.settled_of_success hsuccess with hdialing | hready
  · rw [hentry] at hdialing
    cases hdialing
    rfl
  · rw [holds.not_ready_of_dialing hentry] at hready
    cases hready

/-- A new dial and its entry keep the invariant. -/
theorem Coherent.start_dial {exchange : Exchange κ} (holds : Coherent exchange) {address : String}
    (hready : exchange.cache.ready.find? address = none)
    (hdialing : exchange.cache.dialing.find? address = none) :
    Coherent (⟨⟨exchange.cache.ready,
        exchange.cache.dialing.insert address exchange.dials.length⟩,
      exchange.dials ++ [⟨address, none⟩], exchange.calls⟩ : Exchange κ) := by
  have hkept : ∀ {number : Nat} {dial : Dial κ}, exchange.dials[number]? = some dial →
      (exchange.dials ++ [⟨address, none⟩])[number]? = some dial := by
    intro number dial hdial
    rw [List.getElem?_append_left (List.getElem?_eq_some_iff.mp hdial).1, hdial]
  have hcases : ∀ {number : Nat} {dial : Dial κ},
      (exchange.dials ++ [⟨address, none⟩])[number]? = some dial →
        exchange.dials[number]? = some dial ∨
          (number = exchange.dials.length ∧ dial = ⟨address, none⟩) := by
    intro number dial hdial
    grind
  constructor
  case dial_of_dialing =>
    intro other number hentry
    rw [Registry.find?_insert] at hentry
    split at hentry
    · next hother =>
        cases hentry
        exact ⟨none, by simp [hother]⟩
    · obtain ⟨outcome, hdial⟩ := holds.dial_of_dialing hentry
      exact ⟨outcome, hkept hdial⟩
  case not_ready_of_dialing =>
    intro other number hentry
    rw [Registry.find?_insert] at hentry
    split at hentry
    · next hother => rw [hother, hready]
    · exact holds.not_ready_of_dialing hentry
  case dialing_of_unfinished =>
    intro other number hdial
    rcases hcases hdial with hdial | ⟨rfl, hnew⟩
    · exact Registry.find?_insert_of_new hdialing (holds.dialing_of_unfinished hdial)
    · cases hnew
      rw [Registry.find?_insert, if_pos rfl]
  case settled_of_success =>
    intro other number connection hdial
    rcases hcases hdial with hdial | ⟨-, hnew⟩
    · exact (holds.settled_of_success hdial).imp_left (Registry.find?_insert_of_new hdialing)
    · cases hnew
  case success_unique =>
    intro other first second connection another hfirst hsecond
    rcases hcases hfirst with hfirst | ⟨-, hnew⟩
    · rcases hcases hsecond with hsecond | ⟨-, hnew⟩
      · exact holds.success_unique hfirst hsecond
      · cases hnew
    · cases hnew
  case success_of_ready =>
    intro other connection hother
    obtain ⟨number, hdial⟩ := holds.success_of_ready hother
    exact ⟨number, hkept hdial⟩
  case dial_of_waiting =>
    intro other number hcall
    obtain ⟨outcome, hdial⟩ := holds.dial_of_waiting hcall
    exact ⟨outcome, hkept hdial⟩
  case ready_of_returned => exact holds.ready_of_returned

/-- A dial that finishes keeps the invariant, whatever its outcome. -/
theorem Coherent.finish_dial {exchange : Exchange κ} (holds : Coherent exchange) {address : String}
    {dial : Nat} (hdial : exchange.dials[dial]? = some ⟨address, none⟩)
    (outcome : Except Failure κ) :
    Coherent { exchange with dials := exchange.dials.set dial ⟨address, some outcome⟩ } := by
  have hentry := holds.dialing_of_unfinished hdial
  have hlength : dial < exchange.dials.length := (List.getElem?_eq_some_iff.mp hdial).1
  have hcases : ∀ {number : Nat} {found : Dial κ},
      (exchange.dials.set dial ⟨address, some outcome⟩)[number]? = some found →
        exchange.dials[number]? = some found ∨
          (number = dial ∧ found = ⟨address, some outcome⟩) := by
    intro number found hfound
    grind
  have hkept : ∀ {number : Nat} {other : String} {result : Option (Except Failure κ)},
      exchange.dials[number]? = some ⟨other, result⟩ →
        ∃ result, (exchange.dials.set dial ⟨address, some outcome⟩)[number]? =
          some ⟨other, result⟩ := by
    intro number other result hfound
    grind
  -- an unfinished dial with an entry leaves no room for another success
  have hfirst : ∀ {number : Nat} {connection : κ},
      exchange.dials[number]? ≠ some ⟨address, some (.ok connection)⟩ := by
    intro number connection hsuccess
    obtain rfl := holds.eq_of_success hentry hsuccess
    rw [hdial] at hsuccess
    cases hsuccess
  constructor
  case dial_of_dialing =>
    intro other number hdialing
    obtain ⟨result, hfound⟩ := holds.dial_of_dialing hdialing
    exact hkept hfound
  case not_ready_of_dialing => exact holds.not_ready_of_dialing
  case dialing_of_unfinished =>
    intro other number hfound
    rcases hcases hfound with hfound | ⟨-, hnew⟩
    · exact holds.dialing_of_unfinished hfound
    · cases hnew
  case settled_of_success =>
    intro other number connection hfound
    rcases hcases hfound with hfound | ⟨rfl, hnew⟩
    · exact holds.settled_of_success hfound
    · cases hnew
      exact Or.inl hentry
  case success_unique =>
    intro other first second connection another hone htwo
    rcases hcases hone with honeOld | ⟨rfl, hnew⟩
    · rcases hcases htwo with htwoOld | ⟨rfl, hnew⟩
      · exact holds.success_unique honeOld htwoOld
      · cases hnew
        exact absurd honeOld hfirst
    · rcases hcases htwo with htwoOld | ⟨rfl, -⟩
      · cases hnew
        exact absurd htwoOld hfirst
      · rfl
  case success_of_ready =>
    intro other connection hready
    obtain ⟨number, hfound⟩ := holds.success_of_ready hready
    refine ⟨number, ?_⟩
    rw [List.getElem?_set_ne, hfound]
    rintro rfl
    rw [hdial] at hfound
    cases hfound
  case dial_of_waiting =>
    intro other number hcall
    obtain ⟨result, hfound⟩ := holds.dial_of_waiting hcall
    exact hkept hfound
  case ready_of_returned => exact holds.ready_of_returned

/-- Settling never takes a connection away. -/
theorem Coherent.ready_settle {exchange : Exchange κ} (holds : Coherent exchange)
    (address : String) (dial : Nat) (outcome : Except Failure κ) {other : String} {connection : κ}
    (hready : exchange.cache.ready.find? other = some connection) :
    (exchange.cache.settle address dial outcome).ready.find? other = some connection := by
  rw [ConnectionCache.find?_ready_settle, if_neg, hready]
  rintro ⟨rfl, hentry⟩
  rw [holds.not_ready_of_dialing hentry] at hready
  cases hready

/-- Once a success is settled, by whatever call, its connection is ready. -/
theorem Coherent.ready_settle_self {exchange : Exchange κ} (holds : Coherent exchange)
    {address : String} {dial : Nat} {connection : κ}
    (hdial : exchange.dials[dial]? = some ⟨address, some (.ok connection)⟩) :
    (exchange.cache.settle address dial (.ok connection)).ready.find? address =
      some connection := by
  rcases holds.settled_of_success hdial with hentry | hready
  · rw [ConnectionCache.find?_ready_settle, if_pos ⟨rfl, hentry⟩]
    rfl
  · exact holds.ready_settle address dial _ hready

/-- Settling the outcome of a dial keeps the invariant, whether or not it was settled before. -/
theorem Coherent.settle_dial {exchange : Exchange κ} (holds : Coherent exchange) {address : String}
    {dial : Nat} {outcome : Except Failure κ}
    (hdial : exchange.dials[dial]? = some ⟨address, some outcome⟩) :
    Coherent { exchange with cache := exchange.cache.settle address dial outcome } := by
  constructor
  case dial_of_dialing =>
    intro other number hentry
    rw [ConnectionCache.find?_dialing_settle] at hentry
    split at hentry
    · cases hentry
    · exact holds.dial_of_dialing hentry
  case not_ready_of_dialing =>
    intro other number hentry
    rw [ConnectionCache.find?_dialing_settle] at hentry
    split at hentry
    · cases hentry
    · next hother =>
        rw [ConnectionCache.find?_ready_settle, if_neg hother]
        exact holds.not_ready_of_dialing hentry
  case dialing_of_unfinished =>
    intro other number hfound
    have hdialing := holds.dialing_of_unfinished hfound
    rw [ConnectionCache.find?_dialing_settle, if_neg, hdialing]
    rintro ⟨rfl, hentry⟩
    -- the entry would be that of an unfinished dial and of a finished one
    rw [hentry] at hdialing
    cases hdialing
    rw [hdial] at hfound
    cases hfound
  case settled_of_success =>
    intro other number connection hfound
    by_cases hother : other = address ∧ exchange.cache.dialing.find? address = some dial
    · obtain ⟨rfl, hentry⟩ := hother
      obtain rfl := holds.eq_of_success hentry hfound
      rw [hdial] at hfound
      cases hfound
      exact Or.inr (holds.ready_settle_self hdial)
    · rw [ConnectionCache.find?_dialing_settle, ConnectionCache.find?_ready_settle,
        if_neg hother, if_neg hother]
      exact holds.settled_of_success hfound
  case success_unique => exact holds.success_unique
  case success_of_ready =>
    intro other connection hready
    rw [ConnectionCache.find?_ready_settle] at hready
    split at hready
    · next hother =>
        cases outcome with
        | ok settled =>
            cases hready
            exact ⟨dial, hother.1 ▸ hdial⟩
        | error failure => exact holds.success_of_ready hready
    · exact holds.success_of_ready hready
  case dial_of_waiting => exact holds.dial_of_waiting
  case ready_of_returned =>
    intro other connection hcall
    exact holds.ready_settle address dial outcome (holds.ready_of_returned hcall)

/-! ## Steps and runs -/

/-- One more call keeps the invariant if what it has got is right. -/
theorem Coherent.add_call {exchange : Exchange κ} (holds : Coherent exchange) {call : Call κ}
    (hwaiting : ∀ {dial}, call.stage = .waiting dial →
      ∃ outcome, exchange.dials[dial]? = some ⟨call.address, outcome⟩)
    (hreturned : ∀ {connection}, call.stage = .returned (.ok connection) →
      exchange.cache.ready.find? call.address = some connection) :
    Coherent { exchange with calls := exchange.calls ++ [call] } := by
  refine holds.of_calls ?_ ?_
  · intro address dial hcall
    rcases List.mem_append.mp hcall with hcall | hcall
    · exact holds.dial_of_waiting hcall
    · cases List.mem_singleton.mp hcall
      exact hwaiting rfl
  · intro address connection hcall
    rcases List.mem_append.mp hcall with hcall | hcall
    · exact holds.ready_of_returned hcall
    · cases List.mem_singleton.mp hcall
      exact hreturned rfl

theorem ask_coherent {exchange : Exchange κ} (holds : Coherent exchange) (address : String) :
    Coherent (exchange.ask address) := by
  rcases ask_cases exchange address with ⟨connection, hready, hask⟩ | ⟨dial, hentry, hask⟩ |
    ⟨hready, hentry, hask⟩
  · rw [hask]
    refine holds.add_call (fun hstage => by cases hstage) fun hstage => ?_
    cases hstage
    exact hready
  · rw [hask]
    refine holds.add_call (fun hstage => ?_) fun hstage => by cases hstage
    cases hstage
    exact holds.dial_of_dialing hentry
  · rw [hask]
    refine (holds.start_dial hready hentry).add_call (fun hstage => ?_) fun hstage => by
      cases hstage
    cases hstage
    exact ⟨none, by simp⟩

theorem collect_coherent {exchange next : Exchange κ} {call : Nat} (holds : Coherent exchange)
    (hcollect : exchange.collect call = some next) : Coherent next := by
  obtain ⟨address, dial, owner, outcome, hcall, hdial, rfl⟩ := collect_cases hcollect
  -- the dial that a call waits for is one of its own address
  obtain ⟨result, hown⟩ := holds.dial_of_waiting (List.mem_of_getElem? hcall)
  rw [hdial] at hown
  cases hown
  refine (holds.settle_dial hdial).of_calls ?_ ?_
  · intro other number hother
    rcases List.mem_or_eq_of_mem_set hother with hother | hnew
    · exact holds.dial_of_waiting hother
    · cases hnew
  · intro other connection hother
    rcases List.mem_or_eq_of_mem_set hother with hother | hnew
    · exact holds.ready_settle address dial outcome (holds.ready_of_returned hother)
    · cases hnew
      exact holds.ready_settle_self hdial

theorem drop_coherent {exchange next : Exchange κ} {call : Nat} (holds : Coherent exchange)
    (hdrop : exchange.drop call = some next) : Coherent next := by
  obtain ⟨address, dial, hcall, rfl⟩ := drop_cases hdrop
  refine holds.of_calls ?_ ?_
  · intro other number hother
    rcases List.mem_or_eq_of_mem_set hother with hother | hnew
    · exact holds.dial_of_waiting hother
    · cases hnew
  · intro other connection hother
    rcases List.mem_or_eq_of_mem_set hother with hother | hnew
    · exact holds.ready_of_returned hother
    · cases hnew

theorem step_coherent {exchange next : Exchange κ} {event : ExchangeEvent κ}
    (holds : Coherent exchange) (hstep : exchange.step event = some next) : Coherent next := by
  cases event with
  | ask address =>
      cases hstep
      exact ask_coherent holds address
  | finish dial outcome =>
      obtain ⟨address, hdial, -, rfl⟩ := finish_cases hstep
      exact holds.finish_dial hdial outcome
  | collect call => exact collect_coherent holds hstep
  | drop call => exact drop_coherent holds hstep

theorem run_append (exchange : Exchange κ) (first rest : List (ExchangeEvent κ)) :
    exchange.run (first ++ rest) = (exchange.run first).bind (·.run rest) :=
  List.foldlM_append

/-- What every event keeps, a run keeps. -/
theorem run_induction {motive : Exchange κ → Prop}
    (hkeeps : ∀ {before after : Exchange κ} {event : ExchangeEvent κ},
      motive before → before.step event = some after → motive after)
    {events : List (ExchangeEvent κ)} {exchange later : Exchange κ} (hstart : motive exchange)
    (hrun : exchange.run events = some later) : motive later := by
  induction events generalizing exchange with
  | nil =>
      cases hrun
      exact hstart
  | cons event rest ih =>
      simp only [run, List.foldlM_cons] at hrun
      cases hstep : exchange.step event with
      | none => simp [hstep] at hrun
      | some next =>
          rw [hstep] at hrun
          exact ih (hkeeps hstart hstep) hrun

/-- **Every exchange that comes about is coherent.** -/
theorem run_coherent {events : List (ExchangeEvent κ)} {exchange : Exchange κ}
    (hrun : start.run events = some exchange) : Coherent exchange :=
  run_induction step_coherent start_coherent hrun

end ImageChain.Exchange
