import ImageChain.Config
import ImageChain.Proofs.Text.Blank
import ImageChain.Proofs.Text.Numeral

/-!
# Settings that are overridden

Two settings can be overridden from the environment, each by a variable of its
own that holds a number of seconds.  The variables are looked at in turn, and a
setting is written as soon as its variable has been read.  So each override is
made as a whole or not at all, but the two of them together are not: when the
second variable holds no number, the first setting has been written by then.

`Overridden` lists the ways in which overriding can end.
`applyOverrides_in_turn` adds when a failure leaves the settings as they were,
and that settings which have been loaded have both overrides.
-/

namespace ImageChain.Config

variable {environment : String → Option String}

/-! ## Variables -/

/-- A text holds a number of seconds: digits, with or without a plus sign in front and with any
blank characters around them, that make a number of 64 bits. -/
def HoldsSeconds (text : String) (seconds : Nat) : Prop :=
  (∃ numeral, (Trims text.toList numeral ∨ Trims text.toList ('+' :: numeral)) ∧
    IsDigits numeral ∧ seconds = decimalValue numeral) ∧ seconds < UInt64.size

/-- A variable is set, but it holds no number of seconds. -/
def Garbled (environment : String → Option String) (key text : String) : Prop :=
  environment key = some text ∧ ∀ seconds, ¬ HoldsSeconds text seconds

/-- The failure for a variable that holds no number of seconds. -/
def notSeconds (key text : String) : Failure :=
  .configuration (key ++ " must be a number of seconds, got " ++ quote text)

theorem holdsSeconds_iff {text : String} {seconds : Nat} :
    HoldsSeconds text seconds ↔
      readNat greatestNat64 (trimChars text.toList) = some seconds := by
  have hgreatest : seconds < UInt64.size ↔ seconds ≤ greatestNat64 := Nat.lt_succ_iff
  rw [HoldsSeconds, readNat_eq_some_iff, hgreatest]
  simp only [trims_iff]

/-- A text holds one number only. -/
theorem HoldsSeconds.eq {text : String} {seconds other : Nat} (hseconds : HoldsSeconds text seconds)
    (hother : HoldsSeconds text other) : seconds = other := by
  have hsame := (holdsSeconds_iff.mp hseconds).symm.trans (holdsSeconds_iff.mp hother)
  exact Option.some_inj.mp hsame

/-- What a look at a variable can give. -/
inductive Looked (environment : String → Option String) (key : String) :
    Except Failure (Option Nat) → Prop where
  | unset (hunset : environment key = none) : Looked environment key (.ok none)
  | number {text : String} {seconds : Nat} (hset : environment key = some text)
      (hseconds : HoldsSeconds text seconds) : Looked environment key (.ok (some seconds))
  | garbled {text : String} (hgarbled : Garbled environment key text) :
      Looked environment key (.error (notSeconds key text))

theorem looked_lookupSeconds (environment : String → Option String) (key : String) :
    Looked environment key (lookupSeconds environment key) := by
  unfold lookupSeconds
  split
  · next hunset => exact .unset hunset
  · next text hset =>
      unfold parseSeconds
      cases hread : readNat greatestNat64 (trimChars text.toList) with
      | some seconds => exact .number hset (holdsSeconds_iff.mpr hread)
      | none =>
          refine .garbled ⟨hset, fun seconds hseconds => ?_⟩
          rw [holdsSeconds_iff, hread] at hseconds
          cases hseconds

/-! ## Both variables -/

/-- What an environment makes of a setting, unless its variable is garbled: the setting stays if
the variable is not set, and it is replaced by the seconds that the variable holds. -/
inductive Replaces (environment : String → Option String) (key : String) {α : Type}
    (write : Nat → α) (setting : α) : α → Prop where
  | unset (hunset : environment key = none) : Replaces environment key write setting setting
  | number {text : String} {seconds : Nat} (hset : environment key = some text)
      (hseconds : HoldsSeconds text seconds) :
      Replaces environment key write setting (write seconds)

/-- The ways in which overriding can end, with the settings that are left. -/
inductive Overridden (environment : String → Option String) (config : Config) :
    Except Failure Unit × Config → Prop where
  /-- Both settings have been overridden, as far as their variables are set. -/
  | applied {interval : Nat} {timeout : Option Nat}
      (hinterval : Replaces environment healthCheckVariable id config.healthCheckSeconds interval)
      (htimeout : Replaces environment timeoutVariable some config.timeoutSeconds timeout) :
      Overridden environment config (.ok (), ⟨config.sources, interval, timeout⟩)
  /-- The interval can not be read, and nothing has been written. -/
  | intervalGarbled {text : String} (htext : Garbled environment healthCheckVariable text) :
      Overridden environment config (.error (notSeconds healthCheckVariable text), config)
  /-- The time for a chain can not be read, and the interval has been overridden by then. -/
  | timeoutGarbled {interval : Nat} {text : String}
      (hinterval : Replaces environment healthCheckVariable id config.healthCheckSeconds interval)
      (htext : Garbled environment timeoutVariable text) :
      Overridden environment config
        (.error (notSeconds timeoutVariable text), { config with healthCheckSeconds := interval })

theorem Looked.replaces {key : String} {α : Type} {seconds : Option Nat}
    (hlooked : Looked environment key (.ok seconds)) (write : Nat → α) (setting : α) :
    Replaces environment key write setting ((seconds.map write).getD setting) := by
  cases hlooked with
  | unset hunset => exact .unset hunset
  | number hset hseconds => exact .number hset hseconds

theorem overridden_applyOverrides (environment : String → Option String) (config : Config) :
    Overridden environment config (config.applyOverrides environment) := by
  have hfirst := looked_lookupSeconds environment healthCheckVariable
  have hsecond := looked_lookupSeconds environment timeoutVariable
  unfold applyOverrides
  cases hinterval : lookupSeconds environment healthCheckVariable with
  | error failure =>
      rw [hinterval] at hfirst
      cases hfirst with
      | garbled hgarbled => exact .intervalGarbled hgarbled
  | ok interval =>
      rw [hinterval] at hfirst
      have hinterval := hfirst.replaces id config.healthCheckSeconds
      rw [Option.map_id, id] at hinterval
      dsimp only
      cases htimeout : lookupSeconds environment timeoutVariable with
      | error failure =>
          rw [htimeout] at hsecond
          cases hsecond with
          | garbled hgarbled => exact .timeoutGarbled hinterval hgarbled
      | ok timeout =>
          rw [htimeout] at hsecond
          have hgiven : (timeout <|> config.timeoutSeconds) =
              (timeout.map some).getD config.timeoutSeconds := by cases timeout <;> rfl
          dsimp only
          rw [hgiven]
          exact .applied hinterval (hsecond.replaces some config.timeoutSeconds)

/-! ## Settings after a failure -/

/-- The environment has an interval that is not the one of the settings. -/
def ChangesInterval (environment : String → Option String) (config : Config) : Prop :=
  ∃ text seconds, environment healthCheckVariable = some text ∧ HoldsSeconds text seconds ∧
    seconds ≠ config.healthCheckSeconds

theorem Garbled.not_changesInterval {text : String}
    (hgarbled : Garbled environment healthCheckVariable text) (config : Config) :
    ¬ ChangesInterval environment config := by
  rintro ⟨other, seconds, hset, hseconds, -⟩
  rw [hgarbled.1] at hset
  cases hset
  exact hgarbled.2 seconds hseconds

theorem Replaces.interval_eq_iff {config : Config} {interval : Nat}
    (hreplaces : Replaces environment healthCheckVariable id config.healthCheckSeconds interval) :
    interval = config.healthCheckSeconds ↔ ¬ ChangesInterval environment config := by
  cases hreplaces with
  | unset hunset => simp [ChangesInterval, hunset]
  | @number text seconds hset hseconds =>
      constructor
      · rintro heq ⟨text', other, hset', hother, hne⟩
        rw [hset] at hset'
        cases hset'
        rw [← heq, hseconds.eq hother] at hne
        exact hne rfl
      · intro hstays
        by_contra hne
        exact hstays ⟨text, seconds, hset, hseconds, hne⟩

theorem healthCheckSeconds_eq_iff {config : Config} {interval : Nat} :
    { config with healthCheckSeconds := interval } = config ↔
      interval = config.healthCheckSeconds := by
  cases config
  simp

theorem Overridden.eq_iff {config after : Config} {failure : Failure}
    (hover : Overridden environment config (.error failure, after)) :
    after = config ↔ ¬ ChangesInterval environment config := by
  cases hover with
  | intervalGarbled htext => exact iff_of_true rfl (htext.not_changesInterval config)
  | timeoutGarbled hinterval _ => rw [healthCheckSeconds_eq_iff, hinterval.interval_eq_iff]

/-! ## Loading -/

/-- Loaded settings are the settings of a JSON text with overrides. -/
theorem exists_ofJson_of_load {path : String} {content : Except String ByteArray} {config : Config}
    (hload : load environment path content = .ok config) :
    ∃ bytes text read, content = .ok bytes ∧ String.fromUTF8? bytes = some text ∧
      ofJson text = .ok read ∧ read.applyOverrides environment = (.ok (), config) := by
  unfold load at hload
  dsimp only at hload
  split at hload
  · cases hload
  · next bytes =>
    split at hload
    · cases hload
    · next text htext =>
        split at hload
        · cases hload
        · next read hread =>
            split at hload
            · next after hoverride =>
                cases hload
                exact ⟨bytes, text, read, rfl, htext, hread, hoverride⟩
            · cases hload

/-- **Overrides are applied in turn.**  Either both settings are overridden, as far as their
variables are set, and nothing else is changed; or the first variable that holds no number of
seconds is named in a failure.  After a failure the settings are as they were unless the interval
between health checks has been changed before the other variable was read.  Loading gives no
settings after a failure, so what has been loaded has both overrides. -/
theorem applyOverrides_in_turn (environment : String → Option String) (config : Config) :
    Overridden environment config (config.applyOverrides environment) ∧
    (∀ failure after, config.applyOverrides environment = (.error failure, after) →
      (after = config ↔ ¬ ChangesInterval environment config)) ∧
    ∀ path content after, load environment path content = .ok after →
      ∃ bytes text read, content = .ok bytes ∧ String.fromUTF8? bytes = some text ∧
        ofJson text = .ok read ∧ Overridden environment read (.ok (), after) := by
  have hover := overridden_applyOverrides environment config
  refine ⟨hover, fun failure after hfailed => ?_, fun path content after hload => ?_⟩
  · rw [hfailed] at hover
    exact hover.eq_iff
  · obtain ⟨bytes, text, read, hcontent, htext, hread, hoverride⟩ := exists_ofJson_of_load hload
    have hloaded := overridden_applyOverrides environment read
    rw [hoverride] at hloaded
    exact ⟨bytes, text, read, hcontent, htext, hread, hloaded⟩

/-- An environment with a text for each of the two variables. -/
def bothSet (interval timeout key : String) : Option String :=
  if key = healthCheckVariable then some interval
  else if key = timeoutVariable then some timeout
  else none

theorem applyOverrides_in_turn_same_interval :
    default.applyOverrides (bothSet " +010 " "soon") =
        (.error (notSeconds timeoutVariable "soon"), default) ∧
      ¬ ChangesInterval (bothSet " +010 " "soon") default ∧
      load (bothSet "5" "30") "config.json" (.ok "\x7b\x7d".toUTF8) = .ok ⟨[], 5, some 30⟩ ∧
      ∃ bytes text read, (.ok "\x7b\x7d".toUTF8 : Except String ByteArray) = .ok bytes ∧
        String.fromUTF8? bytes = some text ∧ ofJson text = .ok read ∧
        Overridden (bothSet "5" "30") read (.ok (), ⟨[], 5, some 30⟩) := by
  have hfailed : default.applyOverrides (bothSet " +010 " "soon") =
      (.error (notSeconds timeoutVariable "soon"), default) := rfl
  have hload : load (bothSet "5" "30") "config.json" (.ok "\x7b\x7d".toUTF8) =
      .ok ⟨[], 5, some 30⟩ := rfl
  obtain ⟨-, hunchanged, -⟩ := applyOverrides_in_turn (bothSet " +010 " "soon") default
  obtain ⟨-, -, hloaded⟩ := applyOverrides_in_turn (bothSet "5" "30") default
  exact ⟨hfailed, (hunchanged _ _ hfailed).mp rfl, hload, hloaded _ _ _ hload⟩

/-- A failure on the second variable leaves the first override behind. -/
theorem applyOverrides_leaves_interval :
    default.applyOverrides (bothSet "5" "soon") =
        (.error (notSeconds timeoutVariable "soon"), { default with healthCheckSeconds := 5 }) ∧
      { default with healthCheckSeconds := 5 } ≠ default :=
  ⟨rfl, by decide⟩

end ImageChain.Config
