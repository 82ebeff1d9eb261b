import Mathlib.Data.List.Induction
import ImageChain.Proofs.Connection.Coherence

/-!
# The course of a call

A call looks at the cache once, when it asks, and once more when it takes the
outcome of its dial.  An exchange does not tell what was there at the first
look; the events that led to it do.  `Asks` says which exchange a call found,
and `Joins` which dial it has waited for since.

`Recorded` ties the two ends together.  A call that joined a dial still waits
for it, was given up, or has its outcome; and a dial has its entry until one of
those who joined it has taken the outcome.  `Recorded.step` is the step and
`run_recorded` the run.  The invariant looks at the events so far, so the
induction goes from the last event back: `run_concat_induction`.
-/

namespace ImageChain.Exchange

variable {κ : Type}

/-! ## Asking in a run -/

/-- In a run of events a call asks for an address, and finds an exchange. -/
structure Asks (events : List (ExchangeEvent κ)) (call : Nat) (address : String)
    (found : Exchange κ) : Prop where
  /-- The events before it lead to what it finds. -/
  split : ∃ before after, events = before ++ .ask address :: after ∧ start.run before = some found
  /-- Calls are numbered in the order in which they ask. -/
  numbered : found.calls.length = call

/-- In a run of events a call finds no connection, and a dial that it waits for: one that is under
way, or the one that it starts. -/
def Joins (events : List (ExchangeEvent κ)) (call : Nat) (address : String) (dial : Nat) : Prop :=
  ∃ found, Asks events call address found ∧ found.cache.ready.find? address = none ∧
    (found.ask address).cache.dialing.find? address = some dial

theorem Asks.append {events : List (ExchangeEvent κ)} {call : Nat} {address : String}
    {found : Exchange κ} (hasks : Asks events call address found)
    (rest : List (ExchangeEvent κ)) : Asks (events ++ rest) call address found := by
  obtain ⟨before, after, rfl, hrun⟩ := hasks.split
  exact ⟨⟨before, after ++ rest, by simp, hrun⟩, hasks.numbered⟩

theorem Joins.append {events : List (ExchangeEvent κ)} {call dial : Nat} {address : String}
    (hjoins : Joins events call address dial) (rest : List (ExchangeEvent κ)) :
    Joins (events ++ rest) call address dial := by
  obtain ⟨found, hasks, hready, hdialing⟩ := hjoins
  exact ⟨found, hasks.append rest, hready, hdialing⟩

theorem asks_concat {events : List (ExchangeEvent κ)} {exchange : Exchange κ}
    (hrun : start.run events = some exchange) (address : String) :
    Asks (events ++ [.ask address]) exchange.calls.length address exchange :=
  ⟨⟨events, [], rfl, hrun⟩, rfl⟩

/-- Who asks in a run has asked before the last event, or asks in it. -/
theorem asks_concat_cases {events : List (ExchangeEvent κ)} {event : ExchangeEvent κ}
    {exchange found : Exchange κ} {call : Nat} {address : String}
    (hrun : start.run events = some exchange) (hasks : Asks (events ++ [event]) call address found) :
    Asks events call address found ∨
      (event = .ask address ∧ call = exchange.calls.length ∧ found = exchange) := by
  obtain ⟨before, after, hsplit, hbefore⟩ := hasks.split
  -- what comes after the question tells whether it is the last event
  rcases List.eq_nil_or_concat after with rfl | ⟨rest, last, rfl⟩
  · obtain ⟨rfl, hevent⟩ := List.append_inj' hsplit rfl
    rw [hrun] at hbefore
    cases hbefore
    exact Or.inr ⟨List.singleton_inj.mp hevent, hasks.numbered.symm, rfl⟩
  · rw [List.concat_eq_append, ← List.cons_append, ← List.append_assoc] at hsplit
    obtain ⟨rfl, -⟩ := List.append_inj' hsplit rfl
    exact Or.inl ⟨⟨before, rest, rfl, hbefore⟩, hasks.numbered⟩

theorem run_concat (exchange : Exchange κ) (events : List (ExchangeEvent κ))
    (event : ExchangeEvent κ) :
    exchange.run (events ++ [event]) = (exchange.run events).bind (·.step event) := by
  rw [run_append]
  congr 1
  funext middle
  simp [run]

/-- What the next event keeps, a run from the start keeps.  It may be about the events so far. -/
theorem run_concat_induction {motive : List (ExchangeEvent κ) → Exchange κ → Prop}
    (hstart : motive [] start)
    (hkeeps : ∀ {events : List (ExchangeEvent κ)} {event : ExchangeEvent κ}
      {before after : Exchange κ}, start.run events = some before → motive events before →
        before.step event = some after → motive (events ++ [event]) after)
    {events : List (ExchangeEvent κ)} {exchange : Exchange κ}
    (hrun : start.run events = some exchange) : motive events exchange := by
  induction events using List.reverseRecOn generalizing exchange with
  | nil =>
      cases hrun
      exact hstart
  | append_singleton events event ih =>
      rw [run_concat] at hrun
      obtain ⟨before, hbefore, hstep⟩ := Option.bind_eq_some_iff.mp hrun
      exact hkeeps hbefore (ih hbefore) hstep

/-! ## What an event changes -/

variable {before after : Exchange κ} {event : ExchangeEvent κ}

/-- What an event does to a call for an address. -/
inductive Advances (before after : Exchange κ) (address : String) :
    CallStage κ → CallStage κ → Prop where
  /-- Nothing. -/
  | stays (stage : CallStage κ) : Advances before after address stage stage
  /-- It takes the outcome of its dial. -/
  | collects {dial : Nat} {owner : String} {outcome : Except Failure κ}
      (hdial : before.dials[dial]? = some ⟨owner, some outcome⟩)
      (hcache : after.cache = before.cache.settle address dial outcome) :
      Advances before after address (.waiting dial) (.returned outcome)
  /-- It is given up. -/
  | drops (dial : Nat) : Advances before after address (.waiting dial) .dropped

theorem call_of_step (hstep : before.step event = some after) {call : Nat} {address : String}
    {stage : CallStage κ} (hcall : before.calls[call]? = some ⟨address, stage⟩) :
    ∃ later, after.calls[call]? = some ⟨address, later⟩ ∧
      Advances before after address stage later := by
  have hlength : call < before.calls.length := (List.getElem?_eq_some_iff.mp hcall).1
  cases changes_of_step hstep with
  | found | joined | started =>
      exact ⟨stage, (List.getElem?_append_left hlength).trans hcall, .stays stage⟩
  | finished => exact ⟨stage, hcall, .stays stage⟩
  | @collected number dial asked owner outcome hnumber hdial =>
      by_cases hsame : number = call
      · subst hsame
        cases hcall.symm.trans hnumber
        exact ⟨_, List.getElem?_set_self hlength, .collects hdial rfl⟩
      · exact ⟨stage, (List.getElem?_set_ne hsame).trans hcall, .stays stage⟩
  | @dropped number dial asked hnumber =>
      by_cases hsame : number = call
      · subst hsame
        cases hcall.symm.trans hnumber
        exact ⟨_, List.getElem?_set_self hlength, .drops dial⟩
      · exact ⟨stage, (List.getElem?_set_ne hsame).trans hcall, .stays stage⟩

/-- A call that has its answer keeps it. -/
theorem returned_of_step (hstep : before.step event = some after) {call : Nat} {address : String}
    {outcome : Except Failure κ} (hcall : before.calls[call]? = some ⟨address, .returned outcome⟩) :
    after.calls[call]? = some ⟨address, .returned outcome⟩ := by
  obtain ⟨later, hlater, hadvance⟩ := call_of_step hstep hcall
  cases hadvance
  exact hlater

theorem returned_of_run {exchange later : Exchange κ} {events : List (ExchangeEvent κ)}
    (hrun : exchange.run events = some later) {call : Nat} {address : String}
    {outcome : Except Failure κ} (hcall : exchange.calls[call]? = some ⟨address, .returned outcome⟩) :
    later.calls[call]? = some ⟨address, .returned outcome⟩ :=
  run_induction (motive := fun state => state.calls[call]? = some ⟨address, .returned outcome⟩)
    (fun hbefore hstep => returned_of_step hstep hbefore) hcall hrun

/-- Only asking makes a new call. -/
theorem call_of_step_of_le (hstep : before.step event = some after) {call : Nat} {address : String}
    {stage : CallStage κ} (hnew : before.calls.length ≤ call)
    (hcall : after.calls[call]? = some ⟨address, stage⟩) :
    event = .ask address ∧ call = before.calls.length := by
  have hlength : call < after.calls.length := (List.getElem?_eq_some_iff.mp hcall).1
  cases changes_of_step hstep with
  | @found asked | @joined asked | @started asked =>
      obtain ⟨rfl, hlast⟩ : call = before.calls.length ∧ asked = address := by grind
      exact ⟨by rw [hlast], rfl⟩
  | finished => exact absurd hlength (Nat.not_lt.mpr hnew)
  | collected | dropped =>
      rw [List.length_set] at hlength
      exact absurd hlength (Nat.not_lt.mpr hnew)

/-- A call is one that there was before, or the one that has just asked. -/
theorem call_before_or_asked (hstep : before.step event = some after) {call : Nat}
    {address : String} {stage : CallStage κ} (hcall : after.calls[call]? = some ⟨address, stage⟩) :
    (∃ earlier, before.calls[call]? = some ⟨address, earlier⟩ ∧
      Advances before after address earlier stage) ∨
      (event = .ask address ∧ call = before.calls.length) := by
  rcases hbefore : before.calls[call]? with _ | ⟨asked, earlier⟩
  · exact Or.inr (call_of_step_of_le hstep (List.getElem?_eq_none_iff.mp hbefore) hcall)
  · obtain ⟨later, hlater, hadvance⟩ := call_of_step hstep hbefore
    cases hcall.symm.trans hlater
    exact Or.inl ⟨earlier, rfl, hadvance⟩

/-- A dial keeps its address, and its outcome once it has one. -/
theorem dial_of_step (hstep : before.step event = some after) {dial : Nat} {address : String}
    {result : Option (Except Failure κ)} (hdial : before.dials[dial]? = some ⟨address, result⟩) :
    ∃ later, after.dials[dial]? = some ⟨address, later⟩ ∧
      ∀ outcome, result = some outcome → later = some outcome := by
  have hlength : dial < before.dials.length := (List.getElem?_eq_some_iff.mp hdial).1
  cases changes_of_step hstep with
  | found | joined | collected | dropped => exact ⟨result, hdial, fun _ hsome => hsome⟩
  | started =>
      exact ⟨result, (List.getElem?_append_left hlength).trans hdial, fun _ hsome => hsome⟩
  | @finished asked number outcome hnumber =>
      by_cases hsame : number = dial
      · subst hsame
        cases hdial.symm.trans hnumber
        exact ⟨some outcome, List.getElem?_set_self hlength, nofun⟩
      · exact ⟨result, (List.getElem?_set_ne hsame).trans hdial, fun _ hsome => hsome⟩

/-- Only asking makes a new dial, for an address that has neither a connection nor a dial. -/
theorem dial_of_step_of_le (hstep : before.step event = some after) {dial : Nat} {address : String}
    {result : Option (Except Failure κ)} (hnew : before.dials.length ≤ dial)
    (hdial : after.dials[dial]? = some ⟨address, result⟩) :
    event = .ask address ∧ dial = before.dials.length ∧ result = none ∧
      before.cache.ready.find? address = none ∧ before.cache.dialing.find? address = none := by
  have hlength : dial < after.dials.length := (List.getElem?_eq_some_iff.mp hdial).1
  cases changes_of_step hstep with
  | found | joined | collected | dropped => exact absurd hlength (Nat.not_lt.mpr hnew)
  | @started asked hready hdialing =>
      obtain ⟨rfl, rfl, rfl⟩ : dial = before.dials.length ∧ asked = address ∧ result = none := by
        grind
      exact ⟨rfl, rfl, rfl, hready, hdialing⟩
  | finished =>
      rw [List.length_set] at hlength
      exact absurd hlength (Nat.not_lt.mpr hnew)

/-- A dial is one that there was before, or the one that has just been started. -/
theorem dial_before_or_started (hstep : before.step event = some after) {dial : Nat}
    {address : String} {result : Option (Except Failure κ)}
    (hdial : after.dials[dial]? = some ⟨address, result⟩) :
    (∃ earlier, before.dials[dial]? = some ⟨address, earlier⟩ ∧
      ∀ outcome, earlier = some outcome → result = some outcome) ∨
      (event = .ask address ∧ dial = before.dials.length ∧ result = none ∧
        before.cache.ready.find? address = none ∧
          before.cache.dialing.find? address = none) := by
  rcases hbefore : before.dials[dial]? with _ | ⟨owner, earlier⟩
  · exact Or.inr (dial_of_step_of_le hstep (List.getElem?_eq_none_iff.mp hbefore) hdial)
  · obtain ⟨later, hlater, hkept⟩ := dial_of_step hstep hbefore
    cases hdial.symm.trans hlater
    exact Or.inl ⟨earlier, rfl, hkept⟩

/-- An entry stays until a call that waits for its dial takes the outcome. -/
theorem dialing_of_step (hstep : before.step event = some after) {dial : Nat} {address : String}
    (hentry : before.cache.dialing.find? address = some dial) :
    after.cache.dialing.find? address = some dial ∨
      ∃ (call : Nat) (outcome : Except Failure κ),
        before.calls[call]? = some ⟨address, .waiting dial⟩ ∧
          after.calls[call]? = some ⟨address, .returned outcome⟩ := by
  cases changes_of_step hstep with
  | found | joined | finished | dropped => exact Or.inl hentry
  | started hready hnone => exact Or.inl (Registry.find?_insert_of_new hnone hentry)
  | @collected number other asked owner outcome hnumber hdial =>
      rw [ConnectionCache.find?_dialing_settle]
      -- the entry goes only if it is that of the dial which the call waited for
      by_cases hsame : address = asked ∧ before.cache.dialing.find? asked = some other
      · obtain ⟨rfl, hother⟩ := hsame
        cases hentry.symm.trans hother
        have hlength := (List.getElem?_eq_some_iff.mp hnumber).1
        exact Or.inr ⟨number, outcome, hnumber, List.getElem?_set_self hlength⟩
      · exact Or.inl ((if_neg hsame).trans hentry)

/-- An entry that is gone does not come back. -/
theorem dialing_of_step_of_lt (hstep : before.step event = some after) {dial : Nat}
    {address : String} (hold : dial < before.dials.length)
    (hentry : after.cache.dialing.find? address = some dial) :
    before.cache.dialing.find? address = some dial := by
  cases changes_of_step hstep with
  | found | joined | finished | dropped => exact hentry
  | started =>
      rw [Registry.find?_insert] at hentry
      split at hentry
      · cases hentry
        exact absurd hold (Nat.lt_irrefl _)
      · exact hentry
  | collected =>
      rw [ConnectionCache.find?_dialing_settle] at hentry
      split at hentry
      · cases hentry
      · exact hentry

/-! ## The invariant -/

/-- How far a call for an address can have got that joined a dial. -/
inductive Follows (exchange : Exchange κ) (address : String) (dial : Nat) : CallStage κ → Prop where
  /-- It still waits. -/
  | waiting : Follows exchange address dial (.waiting dial)
  /-- It has the outcome of the dial, whose entry is gone. -/
  | returned {outcome : Except Failure κ}
      (hdial : exchange.dials[dial]? = some ⟨address, some outcome⟩)
      (hgone : exchange.cache.dialing.find? address ≠ some dial) :
      Follows exchange address dial (.returned outcome)
  /-- It was given up. -/
  | dropped : Follows exchange address dial .dropped

/-- Nobody waits who asked for an address. -/
def IdleAt (exchange : Exchange κ) (address : String) : Prop :=
  ∀ dial, Call.mk address (.waiting dial) ∉ exchange.calls

/-- What the events of a run tell about the calls and dials of the exchange it leads to. -/
structure Recorded (events : List (ExchangeEvent κ)) (exchange : Exchange κ) : Prop where
  /-- A call found a connection, which is its answer, or it joined a dial. -/
  answered_or_joined : ∀ {call : Nat} {address : String} {stage : CallStage κ},
    exchange.calls[call]? = some ⟨address, stage⟩ →
      (∃ found connection, Asks events call address found ∧
        found.cache.ready.find? address = some connection ∧ stage = .returned (.ok connection)) ∨
      ∃ dial, Joins events call address dial
  /-- A call that joined a dial follows it. -/
  follows : ∀ {call dial : Nat} {address : String}, Joins events call address dial →
    ∃ stage, exchange.calls[call]? = some ⟨address, stage⟩ ∧ Follows exchange address dial stage
  /-- Some call joined each dial, namely the one that started it. -/
  joined : ∀ {dial : Nat} {address : String} {result : Option (Except Failure κ)},
    exchange.dials[dial]? = some ⟨address, result⟩ → ∃ call, Joins events call address dial
  /-- A dial has its entry until one of those who joined it has taken the outcome. -/
  dialing_or_taken : ∀ {dial : Nat} {address : String} {result : Option (Except Failure κ)},
    exchange.dials[dial]? = some ⟨address, result⟩ →
      exchange.cache.dialing.find? address = some dial ∨
        ∃ (call : Nat) (outcome : Except Failure κ), Joins events call address dial ∧
          exchange.calls[call]? = some ⟨address, .returned outcome⟩

theorem start_recorded : Recorded [] (start : Exchange κ) := by
  constructor
  case answered_or_joined => simp [start]
  case follows =>
    rintro call dial address ⟨found, hasks, -⟩
    obtain ⟨before, after, hsplit, -⟩ := hasks.split
    simp at hsplit
  case joined => simp [start]
  case dialing_or_taken => simp [start]

/-- An event keeps a call on the course of its dial. -/
theorem Follows.step (hstep : before.step event = some after) (holds : Coherent before)
    {call dial : Nat} {address : String} {stage later : CallStage κ}
    (hcall : before.calls[call]? = some ⟨address, stage⟩)
    (hfollows : Follows before address dial stage)
    (hadvance : Advances before after address stage later) : Follows after address dial later := by
  cases hfollows with
  | waiting =>
      cases hadvance with
      | stays => exact .waiting
      | @collects _ owner outcome hdial hcache =>
          -- the dial that a call waits for is one of its own address
          obtain ⟨result, hown⟩ := holds.dial_of_waiting (List.mem_of_getElem? hcall)
          cases hdial.symm.trans hown
          obtain ⟨_, hlater, hkept⟩ := dial_of_step hstep hdial
          cases hkept outcome rfl
          refine .returned hlater ?_
          rw [hcache, ConnectionCache.find?_dialing_settle]
          split
          · exact nofun
          · next hother => exact fun hentry => hother ⟨rfl, hentry⟩
      | drops => exact .dropped
  | @returned outcome hdial hgone =>
      cases hadvance
      obtain ⟨_, hlater, hkept⟩ := dial_of_step hstep hdial
      cases hkept outcome rfl
      have hlength : dial < before.dials.length := (List.getElem?_eq_some_iff.mp hdial).1
      exact .returned hlater fun hentry => hgone (dialing_of_step_of_lt hstep hlength hentry)
  | dropped =>
      cases hadvance
      exact .dropped

/-- A new call that does not find a connection joins the dial that has the entry afterwards. -/
theorem joins_concat {events : List (ExchangeEvent κ)} {exchange : Exchange κ} {address : String}
    {dial : Nat} (hrun : start.run events = some exchange)
    (hready : exchange.cache.ready.find? address = none)
    (hentry : (exchange.ask address).cache.dialing.find? address = some dial) :
    Joins (events ++ [.ask address]) exchange.calls.length address dial :=
  ⟨exchange, asks_concat hrun address, hready, hentry⟩

theorem joins_concat_cases {events : List (ExchangeEvent κ)} {exchange : Exchange κ}
    {call dial : Nat} {address : String} (hrun : start.run events = some exchange)
    (hjoins : Joins (events ++ [event]) call address dial) :
    Joins events call address dial ∨
      (event = .ask address ∧ call = exchange.calls.length ∧
        exchange.cache.ready.find? address = none ∧
        (exchange.ask address).cache.dialing.find? address = some dial) := by
  obtain ⟨found, hasks, hready, hentry⟩ := hjoins
  rcases asks_concat_cases hrun hasks with hold | ⟨rfl, rfl, rfl⟩
  · exact Or.inl ⟨found, hold, hready, hentry⟩
  · exact Or.inr ⟨rfl, rfl, hready, hentry⟩

namespace Recorded

variable {events : List (ExchangeEvent κ)} {exchange : Exchange κ}

/-- The dial that a call waits for is the one that it joined. -/
theorem joins_of_waiting (records : Recorded events exchange) {call dial : Nat} {address : String}
    (hcall : exchange.calls[call]? = some ⟨address, .waiting dial⟩) :
    Joins events call address dial := by
  rcases records.answered_or_joined hcall with ⟨_, _, _, _, hstage⟩ | ⟨joined, hjoins⟩
  · cases hstage
  · obtain ⟨stage, hsame, hfollows⟩ := records.follows hjoins
    cases hcall.symm.trans hsame
    cases hfollows
    exact hjoins

theorem outcome_of_joins (records : Recorded events exchange) {call dial : Nat} {address : String}
    {outcome : Except Failure κ} (hjoins : Joins events call address dial)
    (hcall : exchange.calls[call]? = some ⟨address, .returned outcome⟩) :
    exchange.dials[dial]? = some ⟨address, some outcome⟩ ∧
      exchange.cache.dialing.find? address ≠ some dial := by
  obtain ⟨stage, hsame, hfollows⟩ := records.follows hjoins
  cases hcall.symm.trans hsame
  cases hfollows with
  | returned hdial hgone => exact ⟨hdial, hgone⟩

/-- An entry is that of a dial whose outcome none of those who joined it has taken. -/
theorem dialing_iff (records : Recorded events exchange) (holds : Coherent exchange) {dial : Nat}
    {address : String} : exchange.cache.dialing.find? address = some dial ↔
      (∃ result, exchange.dials[dial]? = some ⟨address, result⟩) ∧
        ∀ (call : Nat) (outcome : Except Failure κ), Joins events call address dial →
          exchange.calls[call]? ≠ some ⟨address, .returned outcome⟩ := by
  constructor
  · intro hentry
    exact ⟨holds.dial_of_dialing hentry,
      fun call outcome hjoins hcall => (records.outcome_of_joins hjoins hcall).2 hentry⟩
  · rintro ⟨⟨result, hdial⟩, huntaken⟩
    rcases records.dialing_or_taken hdial with hentry | ⟨call, outcome, hjoins, hcall⟩
    · exact hentry
    · exact absurd hcall (huntaken call outcome hjoins)

theorem answered_or_joined_step (records : Recorded events before) (holds : Coherent before)
    (hrun : start.run events = some before) (hstep : before.step event = some after) {call : Nat}
    {address : String} {stage : CallStage κ} (hcall : after.calls[call]? = some ⟨address, stage⟩) :
    (∃ found connection, Asks (events ++ [event]) call address found ∧
      found.cache.ready.find? address = some connection ∧ stage = .returned (.ok connection)) ∨
      ∃ dial, Joins (events ++ [event]) call address dial := by
  rcases call_before_or_asked hstep hcall with ⟨earlier, hbefore, hadvance⟩ | ⟨rfl, rfl⟩
  · rcases records.answered_or_joined hbefore with
      ⟨found, connection, hasks, hready, rfl⟩ | ⟨dial, hjoins⟩
    · cases hadvance
      exact Or.inl ⟨found, connection, hasks.append [event], hready, rfl⟩
    · exact Or.inr ⟨dial, hjoins.append [event]⟩
  · cases hstep
    rcases ask_cases before address with
      ⟨connection, hready, hask⟩ | ⟨dial, hentry, hask⟩ | ⟨hready, hdialing, hask⟩
    · rw [hask, List.getElem?_concat_length] at hcall
      cases hcall
      exact Or.inl ⟨before, connection, asks_concat hrun address, hready, rfl⟩
    · refine Or.inr ⟨dial, joins_concat hrun (holds.not_ready_of_dialing hentry) ?_⟩
      rw [hask]
      exact hentry
    · exact Or.inr ⟨_, joins_concat hrun hready (dialing_ask_of_new hready hdialing)⟩

theorem follows_step (records : Recorded events before) (holds : Coherent before)
    (hrun : start.run events = some before) (hstep : before.step event = some after)
    {call dial : Nat} {address : String} (hjoins : Joins (events ++ [event]) call address dial) :
    ∃ stage, after.calls[call]? = some ⟨address, stage⟩ ∧ Follows after address dial stage := by
  rcases joins_concat_cases hrun hjoins with hold | ⟨rfl, rfl, hready, hentry⟩
  · obtain ⟨stage, hcall, hfollows⟩ := records.follows hold
    obtain ⟨later, hlater, hadvance⟩ := call_of_step hstep hcall
    exact ⟨later, hlater, hfollows.step hstep holds hcall hadvance⟩
  · cases hstep
    refine ⟨.waiting dial, ?_, .waiting⟩
    cases hdialing : before.cache.dialing.find? address with
    | some other =>
        rw [ask_of_dialing hready hdialing] at hentry ⊢
        cases hdialing.symm.trans hentry
        exact List.getElem?_concat_length
    | none =>
        cases hentry.symm.trans (dialing_ask_of_new hready hdialing)
        rw [ask_of_new hready hdialing]
        exact List.getElem?_concat_length

/-- The call that starts a dial joins it, and the dial has its entry then. -/
theorem dial_before_or_joined (hrun : start.run events = some before)
    (hstep : before.step event = some after) {dial : Nat} {address : String}
    {result : Option (Except Failure κ)} (hdial : after.dials[dial]? = some ⟨address, result⟩) :
    (∃ earlier, before.dials[dial]? = some ⟨address, earlier⟩) ∨
      (after.cache.dialing.find? address = some dial ∧
        Joins (events ++ [event]) before.calls.length address dial) := by
  rcases dial_before_or_started hstep hdial with
    ⟨earlier, hbefore, -⟩ | ⟨rfl, rfl, -, hready, hdialing⟩
  · exact Or.inl ⟨earlier, hbefore⟩
  · have hentry := dialing_ask_of_new hready hdialing
    cases hstep
    exact Or.inr ⟨hentry, joins_concat hrun hready hentry⟩

theorem dialing_or_taken_step (records : Recorded events before)
    (hrun : start.run events = some before) (hstep : before.step event = some after) {dial : Nat}
    {address : String} {result : Option (Except Failure κ)}
    (hdial : after.dials[dial]? = some ⟨address, result⟩) :
    after.cache.dialing.find? address = some dial ∨
      ∃ (call : Nat) (outcome : Except Failure κ), Joins (events ++ [event]) call address dial ∧
        after.calls[call]? = some ⟨address, .returned outcome⟩ := by
  rcases dial_before_or_joined hrun hstep hdial with ⟨earlier, hbefore⟩ | ⟨hentry, -⟩
  · rcases records.dialing_or_taken hbefore with hentry | ⟨call, outcome, hjoins, hcall⟩
    · rcases dialing_of_step hstep hentry with hkept | ⟨call, outcome, hwaiting, hreturned⟩
      · exact Or.inl hkept
      · exact Or.inr ⟨call, outcome, (records.joins_of_waiting hwaiting).append [event], hreturned⟩
    · exact Or.inr ⟨call, outcome, hjoins.append [event], returned_of_step hstep hcall⟩
  · exact Or.inl hentry

theorem step (records : Recorded events before) (hrun : start.run events = some before)
    (hstep : before.step event = some after) : Recorded (events ++ [event]) after := by
  have holds := run_coherent hrun
  constructor
  case answered_or_joined => exact records.answered_or_joined_step holds hrun hstep
  case follows => exact records.follows_step holds hrun hstep
  case joined =>
    intro dial address result hdial
    rcases dial_before_or_joined hrun hstep hdial with ⟨earlier, hbefore⟩ | ⟨-, hjoins⟩
    · obtain ⟨call, hjoins⟩ := records.joined hbefore
      exact ⟨call, hjoins.append [event]⟩
    · exact ⟨before.calls.length, hjoins⟩
  case dialing_or_taken => exact records.dialing_or_taken_step hrun hstep

end Recorded

/-- **A run tells what every call of its exchange has found and what has become of it.** -/
theorem run_recorded {events : List (ExchangeEvent κ)} {exchange : Exchange κ}
    (hrun : start.run events = some exchange) : Recorded events exchange :=
  run_concat_induction start_recorded (fun hbefore records hstep => records.step hbefore hstep) hrun

end ImageChain.Exchange
