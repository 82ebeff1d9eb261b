import ImageChain.Proofs.Connection.Course

/-!
# Failed dials are forgotten

A failure is told to those who wait for the dial, and the first of them to take
it removes the entry of the dial.  The others may come much later, when another
dial of the address is under way or has even succeeded, and must not touch
anything of that one.  As long as nobody is given up, somebody takes every
outcome, so nothing of a failure is left once nobody waits.

`forgets_of_run` says what this comes to.  That the next call starts a dial of
its own after a failure needs to know which dial the failure belongs to: the
last one of the address.  `Latest` is the invariant for that.
-/

namespace ImageChain.Exchange

variable {κ : Type}

/-! ## The last dial of an address -/

/-- Once a dial is under way or has succeeded, its address gets no further one. -/
structure Latest (exchange : Exchange κ) : Prop where
  /-- The dial under way is the last one. -/
  of_dialing : ∀ {address : String} {dial other : Nat} {result : Option (Except Failure κ)},
    exchange.cache.dialing.find? address = some dial →
      exchange.dials[other]? = some ⟨address, result⟩ → other ≤ dial
  /-- The dial that succeeded is the last one. -/
  of_success : ∀ {address : String} {dial other : Nat} {connection : κ}
    {result : Option (Except Failure κ)},
    exchange.dials[dial]? = some ⟨address, some (.ok connection)⟩ →
      exchange.dials[other]? = some ⟨address, result⟩ → other ≤ dial

theorem start_latest : Latest (start : Exchange κ) := by
  constructor <;> simp [start]

variable {before after : Exchange κ} {event : ExchangeEvent κ}

/-- Where there is neither a connection nor a dial under way, no dial has succeeded. -/
theorem Coherent.not_success {exchange : Exchange κ} (holds : Coherent exchange) {address : String}
    (hready : exchange.cache.ready.find? address = none)
    (hdialing : exchange.cache.dialing.find? address = none) {dial : Nat} {connection : κ} :
    exchange.dials[dial]? ≠ some ⟨address, some (.ok connection)⟩ := by
  intro hsuccess
  rcases holds.settled_of_success hsuccess with hentry | hconnection
  · cases hdialing.symm.trans hentry
  · cases hready.symm.trans hconnection

theorem Latest.step (latest : Latest before) (holds : Coherent before)
    (hstep : before.step event = some after) : Latest after := by
  constructor
  case of_dialing =>
    intro address dial other result hentry hother
    rcases dial_before_or_started hstep hother with
      ⟨earlier, hbefore, -⟩ | ⟨rfl, rfl, -, hready, hdialing⟩
    · have hlength : other < before.dials.length := (List.getElem?_eq_some_iff.mp hbefore).1
      by_cases hold : dial < before.dials.length
      · exact latest.of_dialing (dialing_of_step_of_lt hstep hold hentry) hbefore
      · omega
    · cases hstep
      cases hentry.symm.trans (dialing_ask_of_new hready hdialing)
      exact Nat.le_refl _
  case of_success =>
    intro address dial other connection result hsuccess hother
    rcases dial_before_or_started hstep hsuccess with
      ⟨earlier, hbefore, hkept⟩ | ⟨-, -, hnone, -⟩
    · rcases dial_before_or_started hstep hother with
        ⟨found, hfound, -⟩ | ⟨rfl, rfl, -, hready, hdialing⟩
      · cases earlier with
        | none => exact latest.of_dialing (holds.dialing_of_unfinished hbefore) hfound
        | some outcome =>
            cases hkept outcome rfl
            exact latest.of_success hbefore hfound
      · -- the address of a new dial has no other one that is unfinished or has succeeded
        cases earlier with
        | none => cases hdialing.symm.trans (holds.dialing_of_unfinished hbefore)
        | some outcome =>
            cases hkept outcome rfl
            exact absurd hbefore (holds.not_success hready hdialing)
    · cases hnone

theorem run_latest {events : List (ExchangeEvent κ)} {exchange : Exchange κ}
    (hrun : start.run events = some exchange) : Latest exchange :=
  run_concat_induction (motive := fun _ => Latest) start_latest
    (fun hbefore latest hstep => latest.step (run_coherent hbefore) hstep) hrun

/-! ## Calls that nobody gives up -/

/-- Only giving a call up makes it one that was given up. -/
theorem dropped_of_step (hstep : before.step event = some after) {address : String}
    (hdropped : Call.mk address .dropped ∈ after.calls) :
    Call.mk address .dropped ∈ before.calls ∨ ∃ call, event = .drop call := by
  cases changes_of_step hstep with
  | found | joined | started => exact Or.inl (by simpa using hdropped)
  | finished => exact Or.inl hdropped
  | collected =>
      rcases List.mem_or_eq_of_mem_set hdropped with hold | hnew
      · exact Or.inl hold
      · cases hnew
  | @dropped call => exact Or.inr ⟨call, rfl⟩

variable {events : List (ExchangeEvent κ)} {exchange : Exchange κ}

theorem not_dropped_of_run (hrun : start.run events = some exchange)
    (hkept : ∀ call, ExchangeEvent.drop call ∉ events) (address : String) :
    Call.mk address .dropped ∉ exchange.calls := by
  refine run_concat_induction (motive := fun events exchange =>
    (∀ call, ExchangeEvent.drop call ∉ events) → Call.mk address .dropped ∉ exchange.calls)
    (fun _ => by simp [start]) ?_ hrun hkept
  intro events event before after _ ih hstep hkept hdropped
  rcases dropped_of_step hstep hdropped with hold | ⟨call, rfl⟩
  · exact ih (fun call hdrop => hkept call (List.mem_append_left _ hdrop)) hold
  · exact hkept call (List.mem_concat_self)

/-- What taking the outcome of a dial changes, and what it leaves as it is. -/
structure Settles (before after : Exchange κ) (call : Nat) (address : String) (dial : Nat)
    (outcome : Except Failure κ) : Prop where
  /-- The call has the outcome. -/
  returned : after.calls[call]? = some ⟨address, .returned outcome⟩
  /-- The dials are those there were. -/
  dials : after.dials = before.dials
  /-- No entry goes but that of the dial, and that one goes. -/
  dialing : ∀ other number, after.cache.dialing.find? other = some number ↔
    before.cache.dialing.find? other = some number ∧ ¬ (other = address ∧ number = dial)
  /-- If the dial has lost its entry, be it to a newer dial, the cache is left as it is. -/
  late : before.cache.dialing.find? address ≠ some dial → after.cache = before.cache
  /-- Connections stay. -/
  kept : ∀ {other : String} {connection : κ},
    before.cache.ready.find? other = some connection →
      after.cache.ready.find? other = some connection
  /-- A failure brings nothing among the connections. -/
  failed : ∀ {failure : Failure}, outcome = .error failure →
    after.cache.ready = before.cache.ready

/-- A call takes the outcome of its dial once that has finished. -/
theorem Coherent.collect_of_finished (holds : Coherent exchange) {call dial : Nat}
    {address : String} {outcome : Except Failure κ}
    (hcall : exchange.calls[call]? = some ⟨address, .waiting dial⟩)
    (hdial : exchange.dials[dial]? = some ⟨address, some outcome⟩) :
    ∃ next, exchange.collect call = some next ∧
      Settles exchange next call address dial outcome := by
  refine ⟨{ exchange with
    cache := exchange.cache.settle address dial outcome
    calls := exchange.calls.set call ⟨address, .returned outcome⟩ }, ?_, ?_⟩
  · simp [collect, hcall, hdial]
  · constructor
    case returned => exact List.getElem?_set_self (List.getElem?_eq_some_iff.mp hcall).1
    case dials => rfl
    case dialing =>
      intro other number
      rw [ConnectionCache.find?_dialing_settle]
      grind
    case late => exact fun hentry => if_neg hentry
    case kept => exact holds.ready_settle address dial outcome
    case failed =>
      rintro failure rfl
      simp only [ConnectionCache.settle]
      split <;> rfl

/-- A dial can finish, in any way, while a call waits for it. -/
theorem finish_of_waiting {call dial : Nat} {address : String}
    (hcall : exchange.calls[call]? = some ⟨address, .waiting dial⟩)
    (hdial : exchange.dials[dial]? = some ⟨address, none⟩) (outcome : Except Failure κ) :
    exchange.finish dial outcome =
      some { exchange with dials := exchange.dials.set dial ⟨address, some outcome⟩ } := by
  have hawaited : exchange.calls.any (awaits · dial) = true :=
    List.any_eq_true.mpr ⟨_, List.mem_of_getElem? hcall, by simp [awaits]⟩
  simp [finish, hdial, hawaited]

/-- What a call has come to that was not given up. -/
inductive Gets (events : List (ExchangeEvent κ)) (exchange : Exchange κ) (call : Nat)
    (address : String) : CallStage κ → Prop where
  /-- It found a connection. -/
  | found {before : Exchange κ} {connection : κ} (hasks : Asks events call address before)
      (hready : before.cache.ready.find? address = some connection) :
      Gets events exchange call address (.returned (.ok connection))
  /-- It has the outcome of the dial that had the entry when it asked. -/
  | dialed {dial : Nat} {outcome : Except Failure κ} (hjoins : Joins events call address dial)
      (hdial : exchange.dials[dial]? = some ⟨address, some outcome⟩) :
      Gets events exchange call address (.returned outcome)
  /-- It waits for a dial that has finished, and can take the outcome. -/
  | finished {dial : Nat} {outcome : Except Failure κ} {next : Exchange κ}
      (hjoins : Joins events call address dial)
      (hdial : exchange.dials[dial]? = some ⟨address, some outcome⟩)
      (hcollect : exchange.collect call = some next)
      (hsettles : Settles exchange next call address dial outcome) :
      Gets events exchange call address (.waiting dial)
  /-- It waits for a dial that can still finish in any way. -/
  | unfinished {dial : Nat} (hjoins : Joins events call address dial)
      (hdial : exchange.dials[dial]? = some ⟨address, none⟩)
      (hfinish : ∀ outcome, (exchange.finish dial outcome).isSome) :
      Gets events exchange call address (.waiting dial)

/-- A call that joined a dial waits for it or has its outcome, unless it was given up. -/
theorem Recorded.gets_of_joins (records : Recorded events exchange) (holds : Coherent exchange)
    (hundropped : ∀ address, Call.mk address .dropped ∉ exchange.calls) {call dial : Nat}
    {address : String} (hjoins : Joins events call address dial) :
    ∃ stage, exchange.calls[call]? = some ⟨address, stage⟩ ∧
      Gets events exchange call address stage := by
  obtain ⟨stage, hcall, hfollows⟩ := records.follows hjoins
  refine ⟨stage, hcall, ?_⟩
  cases hfollows with
  | waiting =>
      obtain ⟨result, hdial⟩ := holds.dial_of_waiting (List.mem_of_getElem? hcall)
      cases result with
      | none =>
          refine .unfinished hjoins hdial fun outcome => ?_
          rw [finish_of_waiting hcall hdial]
          rfl
      | some outcome =>
          obtain ⟨next, hcollect, hsettles⟩ := holds.collect_of_finished hcall hdial
          exact .finished hjoins hdial hcollect hsettles
  | returned hdial hgone => exact .dialed hjoins hdial
  | dropped => exact absurd (List.mem_of_getElem? hcall) (hundropped address)

theorem Recorded.gets (records : Recorded events exchange) (holds : Coherent exchange)
    (hundropped : ∀ address, Call.mk address .dropped ∉ exchange.calls) {call : Nat}
    {address : String} {stage : CallStage κ}
    (hcall : exchange.calls[call]? = some ⟨address, stage⟩) :
    Gets events exchange call address stage := by
  rcases records.answered_or_joined hcall with ⟨found, connection, hasks, hready, rfl⟩ |
    ⟨dial, hjoins⟩
  · exact .found hasks hready
  · obtain ⟨stage, hsame, hgets⟩ := records.gets_of_joins holds hundropped hjoins
    cases hcall.symm.trans hsame
    exact hgets

/-- An entry is that of a dial for which some call waits, unless calls were given up. -/
theorem Recorded.waiting_of_dialing (records : Recorded events exchange) (holds : Coherent exchange)
    (hundropped : ∀ address, Call.mk address .dropped ∉ exchange.calls) {dial : Nat}
    {address : String} (hentry : exchange.cache.dialing.find? address = some dial) :
    Call.mk address (.waiting dial) ∈ exchange.calls := by
  obtain ⟨result, hdial⟩ := holds.dial_of_dialing hentry
  -- the call that started the dial is still there, since nobody has taken the outcome
  obtain ⟨call, hjoins⟩ := records.joined hdial
  obtain ⟨stage, hcall, hfollows⟩ := records.follows hjoins
  have hmem := List.mem_of_getElem? hcall
  cases hfollows with
  | waiting => exact hmem
  | returned hdial hgone => exact absurd hentry hgone
  | dropped => exact absurd hmem (hundropped address)

/-! ## The main statement -/

/-- How an exchange treats failures, in which no call was given up. -/
structure Forgets (events : List (ExchangeEvent κ)) (exchange : Exchange κ) : Prop where
  /-- Every call gets the connection it found or the outcome of the dial that had the entry when it
  asked, or it waits for that outcome, and taking it touches no newer dial. -/
  gets : ∀ {call : Nat} {address : String} {stage : CallStage κ},
    exchange.calls[call]? = some ⟨address, stage⟩ → Gets events exchange call address stage
  /-- Every connection comes from a dial that has succeeded. -/
  dialed : ∀ {address : String} {connection : κ},
    exchange.cache.ready.find? address = some connection →
      ∃ dial : Nat, exchange.dials[dial]? = some ⟨address, some (.ok connection)⟩
  /-- An address nobody waits for has no entry. -/
  idle : ∀ {address : String}, exchange.IdleAt address →
    exchange.cache.dialing.find? address = none
  /-- There is no entry at all when nobody waits. -/
  empty : (∀ address, exchange.IdleAt address) → exchange.cache.dialing = .empty
  /-- After a failure the next call starts one dial and waits for it. -/
  anew : ∀ {address : String} {dial : Nat} {failure : Failure}, exchange.IdleAt address →
    exchange.dials[dial]? = some ⟨address, some (.error failure)⟩ →
      (∀ {other : Nat} {result : Option (Except Failure κ)},
        exchange.dials[other]? = some ⟨address, result⟩ → other ≤ dial) →
        (exchange.ask address).dials = exchange.dials ++ [⟨address, none⟩] ∧
          (exchange.ask address).calls =
            exchange.calls ++ [⟨address, .waiting exchange.dials.length⟩]

/-- A last dial that has failed leaves its address without a connection. -/
theorem Coherent.not_ready_of_failed (holds : Coherent exchange) (latest : Latest exchange)
    {address : String} {dial : Nat} {failure : Failure}
    (hdial : exchange.dials[dial]? = some ⟨address, some (.error failure)⟩)
    (hlast : ∀ {other : Nat} {result : Option (Except Failure κ)},
      exchange.dials[other]? = some ⟨address, result⟩ → other ≤ dial) :
    exchange.cache.ready.find? address = none := by
  cases hready : exchange.cache.ready.find? address with
  | none => rfl
  | some connection =>
      -- the dial of the connection would be the last one as well
      obtain ⟨other, hother⟩ := holds.success_of_ready hready
      have hsame : other = dial := Nat.le_antisymm (hlast hother) (latest.of_success hother hdial)
      subst hsame
      cases hother.symm.trans hdial

/-- **In a run in which nobody is given up, every call gets the outcome of the dial that it found
or started, and no failure is left once nobody waits for it.** -/
theorem forgets_of_run (hrun : start.run events = some exchange)
    (hkept : ∀ call, ExchangeEvent.drop call ∉ events) : Forgets events exchange := by
  have holds := run_coherent hrun
  have records := run_recorded hrun
  have hundropped := not_dropped_of_run hrun hkept
  have hidle : ∀ {address : String}, exchange.IdleAt address →
      exchange.cache.dialing.find? address = none := by
    intro address hidle
    cases hentry : exchange.cache.dialing.find? address with
    | none => rfl
    | some dial => exact absurd (records.waiting_of_dialing holds hundropped hentry) (hidle dial)
  constructor
  case gets => exact records.gets holds hundropped
  case dialed => exact holds.success_of_ready
  case idle => exact hidle
  case empty => exact fun hall => Registry.eq_empty_of_find? fun address => hidle (hall address)
  case anew =>
    intro address dial failure hnobody hdial hlast
    have hready := holds.not_ready_of_failed (run_latest hrun) hdial hlast
    rw [ask_of_new hready (hidle hnobody)]
    exact ⟨rfl, rfl⟩

/-- Two calls share a dial that fails.  One takes the failure and asks again, and the other takes
it when the second dial is under way, which fails as well. -/
theorem forgets_two_failures :
    ∃ exchange : Exchange Nat,
      start.run [.ask "a", .ask "a", .finish 0 (.error (.backend "refused")), .collect 0,
        .ask "a", .collect 1, .finish 1 (.error (.backend "reset")), .collect 2] =
          some exchange ∧
        exchange.cache.dialing = .empty ∧ exchange.dials.length = 2 ∧
        Forgets [.ask "a", .ask "a", .finish 0 (.error (.backend "refused")), .collect 0,
          .ask "a", .collect 1, .finish 1 (.error (.backend "reset")), .collect 2] exchange := by
  refine ⟨?exchange, ?run, ?entries, ?count, forgets_of_run ?run ?kept⟩
  case run => rfl
  case entries => rfl
  case count => rfl
  case kept => simp

end ImageChain.Exchange
