import ImageChain.Connection.Timeline
import ImageChain.Proofs.Connection.Coherence

/-!
# A timeline is one run of its exchange

A timeline adds times and plans to an exchange, and decides by them what happens
next.  It never does anything else to the exchange than events do, so what holds
after every run holds on every timeline: `keep_reaches`.
-/

namespace ImageChain

variable {κ : Type}

namespace Exchange

/-- Some events lead from an exchange to another one. -/
def Reaches (before after : Exchange κ) : Prop :=
  ∃ events, before.run events = some after

theorem Reaches.refl (exchange : Exchange κ) : exchange.Reaches exchange :=
  ⟨[], rfl⟩

theorem Reaches.trans {before middle after : Exchange κ} (first : before.Reaches middle)
    (second : middle.Reaches after) : before.Reaches after := by
  obtain ⟨events, hfirst⟩ := first
  obtain ⟨more, hsecond⟩ := second
  refine ⟨events ++ more, ?_⟩
  rw [run_append, hfirst]
  exact hsecond

theorem Reaches.of_step {before after : Exchange κ} (event : ExchangeEvent κ)
    (hstep : before.step event = some after) : before.Reaches after :=
  ⟨[event], by simp [run, hstep]⟩

/-- An event that may not be able to happen. -/
theorem Reaches.of_getD (exchange : Exchange κ) (event : ExchangeEvent κ) :
    exchange.Reaches ((exchange.step event).getD exchange) := by
  cases hstep : exchange.step event with
  | none => exact refl exchange
  | some after => exact of_step event hstep

end Exchange

namespace Timeline

open Exchange

theorem ask_reaches (script : String → Nat → Duration × Except Failure κ) (now : Duration)
    (timeline : Timeline κ) (address : String) :
    timeline.exchange.Reaches (timeline.ask script now address).exchange := by
  have hask : (timeline.ask script now address).exchange = timeline.exchange.ask address := by
    unfold ask
    dsimp only
    split <;> rfl
  rw [hask]
  exact Reaches.of_step (.ask address) rfl

theorem finish_reaches (now : Duration) (timeline : Timeline κ) (dial : Nat) :
    timeline.exchange.Reaches (timeline.finish now dial).exchange := by
  unfold finish
  split
  · exact Reaches.refl _
  · next plan _ =>
      split
      · split
        · next hfinish => exact Reaches.of_step (.finish dial plan.outcome) hfinish
        · exact Reaches.refl _
      · exact Reaches.refl _

theorem look_reaches (now : Duration) (timeline : Timeline κ) (call : Nat) :
    timeline.exchange.Reaches (timeline.look now call).exchange := by
  unfold look
  split
  · exact finish_reaches now timeline _
  · exact Reaches.refl _

theorem poll_reaches (now : Duration) (timeline : Timeline κ) (appointment : Appointment)
    (call : Nat) : timeline.exchange.Reaches (timeline.poll now appointment call).1.exchange := by
  refine (look_reaches now timeline call).trans ?_
  unfold poll
  -- what happens next only depends on what the call has seen
  generalize timeline.look now call = looked
  dsimp only
  split
  · exact Reaches.of_getD looked.exchange (.collect call)
  · split
    · exact Reaches.refl _
    · split
      · exact Reaches.of_getD looked.exchange (.drop call)
      · exact Reaches.refl _

variable (script : String → Nat → Duration × Except Failure κ)

theorem advance_reaches (now : Duration) (timeline : Timeline κ) (appointment : Appointment)
    (stage : AppointmentStage κ) :
    timeline.exchange.Reaches (timeline.advance script now appointment stage).1.exchange := by
  cases stage with
  | ahead =>
      simp only [advance]
      split
      · refine (ask_reaches script now timeline appointment.address).trans ?_
        exact poll_reaches now (timeline.ask script now appointment.address) appointment _
      · exact Reaches.refl _
  | calling call => exact poll_reaches now timeline appointment call
  | ended time outcome => exact Reaches.refl _

theorem advanceAll_reaches (now : Duration) (timeline : Timeline κ)
    (stages : List (Appointment × AppointmentStage κ)) :
    timeline.exchange.Reaches (timeline.advanceAll script now stages).1.exchange := by
  induction stages generalizing timeline with
  | nil => exact Reaches.refl _
  | cons first rest ih =>
      obtain ⟨appointment, stage⟩ := first
      refine (advance_reaches script now timeline appointment stage).trans ?_
      exact ih (timeline.advance script now appointment stage).1

theorem runFrom_reaches (fuel : Nat) (timeline : Timeline κ)
    (stages : List (Appointment × AppointmentStage κ)) :
    timeline.exchange.Reaches (runFrom script fuel timeline stages).1.exchange := by
  induction fuel generalizing timeline stages with
  | zero => exact Reaches.refl _
  | succ fuel ih =>
      unfold runFrom
      split
      · exact Reaches.refl _
      · next now _ => exact (advanceAll_reaches script now timeline stages).trans (ih _ _)

/-- **Whatever the times, the appointments of a timeline are kept by events of its exchange.** -/
theorem keep_reaches (timeline : Timeline κ) (appointments : List Appointment) :
    timeline.exchange.Reaches (timeline.keep script appointments).1.exchange :=
  runFrom_reaches script _ timeline _

/-- What holds on every timeline that begins with nothing. -/
theorem keep_coherent (appointments : List Appointment) :
    Coherent (start.keep script appointments).1.exchange := by
  obtain ⟨events, hrun⟩ := keep_reaches script start appointments
  exact run_coherent hrun

end Timeline

end ImageChain
