import ImageChain.Proofs.Connection.Course

/-!
# Dials that everybody has left

The entry of a dial goes when the first of those who wait for the dial takes its
outcome.  A call that is given up does nothing more, so when all those who
joined a dial are given up the entry stays, and the dial rests until somebody
asks for the address again.  `left_behind` is such a run: the next call gets a
failure of a dial that it did not start.

`nextCall_of_run` says exactly what the next call meets at an address for which
nobody waits.  As long as one of those who joined each dial has stayed to the
end, there is no entry, and the call finds a connection or starts a dial.
-/

namespace ImageChain.Exchange

variable {κ : Type} {events : List (ExchangeEvent κ)} {exchange : Exchange κ}

/-- All calls that joined a dial of an address were given up. -/
structure Abandoned (events : List (ExchangeEvent κ)) (exchange : Exchange κ) (address : String)
    (dial : Nat) : Prop where
  /-- There is such a dial. -/
  dialed : ∃ result, exchange.dials[dial]? = some ⟨address, result⟩
  /-- Nobody of those who joined it waits or has an outcome. -/
  dropped : ∀ call, Joins events call address dial →
    exchange.calls[call]? = some ⟨address, .dropped⟩

/-- Where nobody waits, an entry is that of an abandoned dial. -/
theorem Recorded.dialing_iff_abandoned (records : Recorded events exchange)
    (holds : Coherent exchange) {address : String} (hidle : exchange.IdleAt address) {dial : Nat} :
    exchange.cache.dialing.find? address = some dial ↔
      Abandoned events exchange address dial := by
  rw [records.dialing_iff holds]
  constructor
  · rintro ⟨hdialed, huntaken⟩
    -- whoever joined the dial neither waits nor has an outcome
    refine ⟨hdialed, fun call hjoins => ?_⟩
    obtain ⟨stage, hcall, hfollows⟩ := records.follows hjoins
    cases hfollows with
    | waiting => exact absurd (List.mem_of_getElem? hcall) (hidle dial)
    | returned hdial hgone => exact absurd hcall (huntaken call _ hjoins)
    | dropped => exact hcall
  · intro habandoned
    refine ⟨habandoned.dialed, fun call outcome hjoins hcall => ?_⟩
    cases hcall.symm.trans (habandoned.dropped call hjoins)

/-- What the next call meets at an address. -/
structure NextCall (events : List (ExchangeEvent κ)) (exchange : Exchange κ) (address : String) :
    Prop where
  /-- There is an entry if and only if a dial was abandoned. -/
  dialing_iff : ∀ dial, exchange.cache.dialing.find? address = some dial ↔
    Abandoned events exchange address dial
  /-- If none was, the call gets the connection that is ready or starts a dial. -/
  anew : (∀ dial, ¬ Abandoned events exchange address dial) →
    (∃ connection, exchange.cache.ready.find? address = some connection ∧
      (exchange.ask address).calls =
        exchange.calls ++ [⟨address, .returned (.ok connection)⟩]) ∨
    ((exchange.ask address).dials = exchange.dials ++ [⟨address, none⟩] ∧
      (exchange.ask address).calls =
        exchange.calls ++ [⟨address, .waiting exchange.dials.length⟩])
  /-- If one was, the call starts nothing and waits for that dial. -/
  joins : ∀ {dial : Nat}, Abandoned events exchange address dial →
    (exchange.ask address).dials = exchange.dials ∧
      (exchange.ask address).calls = exchange.calls ++ [⟨address, .waiting dial⟩]
  /-- Whatever happens later, a failure that the call gets is that of the dial which it started, or
  of the dial that was abandoned. -/
  failed : ∀ {rest : List (ExchangeEvent κ)} {later : Exchange κ} {failure : Failure},
    (exchange.ask address).run rest = some later →
      later.calls[exchange.calls.length]? = some ⟨address, .returned (.error failure)⟩ →
        ∃ dial, later.dials[dial]? = some ⟨address, some (.error failure)⟩ ∧
          (Abandoned events exchange address dial ∨
            (dial = exchange.dials.length ∧ ∀ old, ¬ Abandoned events exchange address old))

/-- A call that fails has the outcome of the dial that had the entry when it had asked. -/
theorem dialing_of_failed (hrun : start.run events = some exchange) {address : String}
    {rest : List (ExchangeEvent κ)} {later : Exchange κ} {failure : Failure}
    (hrest : (exchange.ask address).run rest = some later)
    (hcall : later.calls[exchange.calls.length]? =
      some ⟨address, .returned (.error failure)⟩) :
    ∃ dial, (exchange.ask address).cache.dialing.find? address = some dial ∧
      later.dials[dial]? = some ⟨address, some (.error failure)⟩ := by
  have hasked : start.run (events ++ [.ask address]) = some (exchange.ask address) := by
    rw [run_concat, hrun]
    rfl
  have hlater : start.run (events ++ [.ask address] ++ rest) = some later := by
    rw [run_append, hasked]
    exact hrest
  cases hready : exchange.cache.ready.find? address with
  | some connection =>
      have hanswer : (exchange.ask address).calls[exchange.calls.length]? =
          some ⟨address, .returned (.ok connection)⟩ := by
        rw [ask_of_ready hready]
        exact List.getElem?_concat_length
      cases hcall.symm.trans (returned_of_run hrest hanswer)
  | none =>
      obtain ⟨dial, hentry⟩ : ∃ dial,
          (exchange.ask address).cache.dialing.find? address = some dial := by
        cases hdialing : exchange.cache.dialing.find? address with
        | some dial =>
            rw [ask_of_dialing hready hdialing]
            exact ⟨dial, hdialing⟩
        | none => exact ⟨_, dialing_ask_of_new hready hdialing⟩
      have hjoins := (joins_concat hrun hready hentry).append rest
      exact ⟨dial, hentry, ((run_recorded hlater).outcome_of_joins hjoins hcall).1⟩

/-- **Where nobody waits, exactly an abandoned dial has an entry, and without one the next call
gets a connection or the outcome of a dial of its own.** -/
theorem nextCall_of_run (hrun : start.run events = some exchange) {address : String}
    (hidle : exchange.IdleAt address) : NextCall events exchange address := by
  have holds := run_coherent hrun
  have hentry : ∀ dial, exchange.cache.dialing.find? address = some dial ↔
      Abandoned events exchange address dial :=
    fun _ => (run_recorded hrun).dialing_iff_abandoned holds hidle
  have hnone : (∀ dial, ¬ Abandoned events exchange address dial) →
      exchange.cache.dialing.find? address = none := fun hnobody =>
    Option.eq_none_iff_forall_ne_some.mpr fun dial hdial => hnobody dial ((hentry dial).mp hdial)
  constructor
  case dialing_iff => exact hentry
  case anew =>
    intro hnobody
    cases hready : exchange.cache.ready.find? address with
    | some connection =>
        rw [ask_of_ready hready]
        exact Or.inl ⟨connection, rfl, rfl⟩
    | none =>
        rw [ask_of_new hready (hnone hnobody)]
        exact Or.inr ⟨rfl, rfl⟩
  case joins =>
    intro dial habandoned
    have hdialing := (hentry dial).mpr habandoned
    rw [ask_of_dialing (holds.not_ready_of_dialing hdialing) hdialing]
    exact ⟨rfl, rfl⟩
  case failed =>
    intro rest later failure hrest hcall
    obtain ⟨dial, hdialing, hdial⟩ := dialing_of_failed hrun hrest hcall
    refine ⟨dial, hdial, ?_⟩
    -- the entry after asking is the one there was, or that of the new dial
    rcases ask_cases exchange address with ⟨_, _, hask⟩ | ⟨_, _, hask⟩ | ⟨hready, hfree, hask⟩
    · rw [hask] at hdialing
      exact Or.inl ((hentry dial).mp hdialing)
    · rw [hask] at hdialing
      exact Or.inl ((hentry dial).mp hdialing)
    · cases hdialing.symm.trans (dialing_ask_of_new hready hfree)
      exact Or.inr ⟨rfl, fun old habandoned =>
        nomatch hfree.symm.trans ((hentry old).mpr habandoned)⟩

/-- The first of two calls is given up; the second one stays and takes the failure. -/
theorem nextCall_after_one_left :
    ∃ exchange : Exchange Nat,
      start.run [.ask "a", .ask "a", .drop 0, .finish 0 (.error (.backend "refused")),
        .collect 1] = some exchange ∧
      exchange.IdleAt "a" ∧ exchange.cache.dialing.find? "a" = none ∧
      NextCall [.ask "a", .ask "a", .drop 0, .finish 0 (.error (.backend "refused")), .collect 1]
        exchange "a" := by
  refine ⟨⟨.empty, [⟨"a", some (.error (.backend "refused"))⟩],
    [⟨"a", .dropped⟩, ⟨"a", .returned (.error (.backend "refused"))⟩]⟩, ?run, ?idle, ?entry,
    nextCall_of_run ?run ?idle⟩
  case run => rfl
  case idle => simp [IdleAt]
  case entry => rfl

/-- The only call is given up, and nobody waits.  The next one gets the failure of the dial that was
left behind, and no second dial is started. -/
theorem left_behind :
    ∃ idle later : Exchange Nat,
      start.run [.ask "a", .drop 0] = some idle ∧ idle.IdleAt "a" ∧
        idle.cache.dialing.find? "a" = some 0 ∧
      idle.run [.ask "a", .finish 0 (.error (.backend "refused")), .collect 1] = some later ∧
        later.dials.length = 1 ∧
        later.calls[1]? = some ⟨"a", .returned (.error (.backend "refused"))⟩ := by
  refine ⟨⟨⟨.empty, (Registry.empty.insert "a" 0)⟩, [⟨"a", none⟩], [⟨"a", .dropped⟩]⟩, ?later,
    rfl, ?idle, rfl, ?run, ?dials, ?call⟩
  case run => rfl
  case idle => simp [IdleAt]
  case dials => rfl
  case call => rfl

end ImageChain.Exchange
