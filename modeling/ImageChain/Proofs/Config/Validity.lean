import ImageChain.Proofs.Config.Overrides
import ImageChain.Proofs.Text.Number

/-!
# Settings that are valid

Settings are checked when they have been read from a file, and then the
environment may change two numbers.  The names of the sources are not among
them, so they stay what the check left; the interval between health checks is,
and it is not checked again.

`valid_of_load_iff` says what this means for settings that have been loaded:
they are valid unless the environment writes the interval as zero.
-/

namespace ImageChain.Config

/-- Settings that can be used. -/
structure Valid (config : Config) : Prop where
  /-- Every source has a name. -/
  named : ∀ entry ∈ config.sources, entry.name ≠ ""
  /-- No two sources have the same name. -/
  distinct : (config.sources.map (·.name)).Nodup
  /-- Health checks have a time between them. -/
  interval : 0 < config.healthCheckSeconds

/-! ## The check -/

theorem checkNames_eq_ok_iff {seen : List String} {entries : List SourceEntry} :
    checkNames seen entries = .ok () ↔
      (∀ entry ∈ entries, entry.name ≠ "" ∧ entry.name ∉ seen) ∧
        (entries.map (·.name)).Nodup := by
  induction entries generalizing seen with
  | nil => simp [checkNames]
  | cons entry rest ih =>
      rw [checkNames, List.forall_mem_cons, List.map_cons, List.nodup_cons]
      by_cases hempty : entry.name = ""
      · simp [hempty]
      · by_cases hseen : entry.name ∈ seen
        · simp [hempty, hseen]
        · rw [if_neg hempty, if_neg hseen, ih]
          -- the name of the entry is seen by the rest exactly if it is not in the rest
          constructor
          · rintro ⟨hrest, hnodup⟩
            refine ⟨⟨⟨hempty, hseen⟩, fun other hother => ⟨(hrest other hother).1, fun hmem => ?_⟩⟩,
              fun hmem => ?_, hnodup⟩
            · exact (hrest other hother).2 (List.mem_cons_of_mem _ hmem)
            · obtain ⟨other, hother, hname⟩ := List.mem_map.mp hmem
              exact (hrest other hother).2 (hname ▸ List.mem_cons_self)
          · rintro ⟨⟨-, hrest⟩, hnew, hnodup⟩
            refine ⟨fun other hother => ⟨(hrest other hother).1, fun hmem => ?_⟩, hnodup⟩
            rcases List.mem_cons.mp hmem with hname | hmem
            · exact hnew (hname ▸ List.mem_map.mpr ⟨other, hother, rfl⟩)
            · exact (hrest other hother).2 hmem

theorem checkNames_nil_eq_ok_iff {entries : List SourceEntry} :
    checkNames [] entries = .ok () ↔
      (∀ entry ∈ entries, entry.name ≠ "") ∧ (entries.map (·.name)).Nodup := by
  simp only [checkNames_eq_ok_iff, List.not_mem_nil, not_false_eq_true, and_true]

theorem validate_eq_ok_iff {config : Config} : config.validate = .ok () ↔ config.Valid := by
  unfold validate
  cases hnames : checkNames [] config.sources with
  | error failure =>
      constructor
      · intro hvalid
        cases hvalid
      · intro hvalid
        have hok := checkNames_nil_eq_ok_iff.mpr ⟨hvalid.named, hvalid.distinct⟩
        rw [hnames] at hok
        cases hok
  | ok =>
      obtain ⟨hnamed, hdistinct⟩ := checkNames_nil_eq_ok_iff.mp hnames
      dsimp only
      by_cases hzero : config.healthCheckSeconds = 0
      · rw [if_pos hzero]
        constructor
        · intro hvalid
          cases hvalid
        · intro hvalid
          exact absurd hzero (Nat.ne_of_gt hvalid.interval)
      · rw [if_neg hzero]
        exact iff_of_true rfl ⟨hnamed, hdistinct, Nat.pos_of_ne_zero hzero⟩

theorem valid_of_ofJson {text : String} {config : Config} (hread : ofJson text = .ok config) :
    config.Valid := by
  unfold ofJson at hread
  split at hread
  · cases hread
  · next original _ =>
      split at hread
      · next hvalid =>
          cases hread
          exact validate_eq_ok_iff.mp hvalid
      · cases hread

/-! ## The overrides -/

/-- The environment writes the interval between health checks as zero. -/
def OverridesToZero (environment : String → Option String) : Prop :=
  ∃ value, environment healthCheckVariable = some value ∧ IsZero (trimChars value.toList)

theorem holdsSeconds_zero_iff {text : String} :
    HoldsSeconds text 0 ↔ IsZero (trimChars text.toList) :=
  holdsSeconds_iff.trans readNat_eq_zero_iff

theorem Replaces.eq_zero_iff {environment : String → Option String} {setting interval : Nat}
    (hreplaces : Replaces environment healthCheckVariable id setting interval) :
    interval = 0 ↔ OverridesToZero environment ∨
      (environment healthCheckVariable = none ∧ setting = 0) := by
  cases hreplaces with
  | unset hunset => simp [OverridesToZero, hunset]
  | @number text seconds hset hseconds =>
      constructor
      · rintro rfl
        exact Or.inl ⟨text, hset, holdsSeconds_zero_iff.mp hseconds⟩
      · rintro (⟨other, hother, hzero⟩ | ⟨hunset, -⟩)
        · rw [hset] at hother
          cases hother
          exact hseconds.eq (holdsSeconds_zero_iff.mpr hzero)
        · rw [hset] at hunset
          cases hunset

/-- Overriding keeps the sources, and it makes the interval zero only if the environment says so. -/
theorem applyOverrides_cases {environment : String → Option String} {config after : Config}
    (hoverride : config.applyOverrides environment = (.ok (), after)) :
    after.sources = config.sources ∧
      (after.healthCheckSeconds = 0 ↔
        OverridesToZero environment ∨
          (environment healthCheckVariable = none ∧ config.healthCheckSeconds = 0)) := by
  have hover := overridden_applyOverrides environment config
  rw [hoverride] at hover
  cases hover with
  | applied hinterval _ => exact ⟨rfl, hinterval.eq_zero_iff⟩

/-! ## Loading -/

/-- Loaded settings are checked settings with overrides. -/
theorem load_eq_ok {environment : String → Option String} {path : String}
    {content : Except String ByteArray} {config : Config}
    (hload : load environment path content = .ok config) :
    ∃ read : Config, read.Valid ∧ read.applyOverrides environment = (.ok (), config) := by
  obtain ⟨bytes, text, read, -, -, hread, hoverride⟩ := exists_ofJson_of_load hload
  exact ⟨read, valid_of_ofJson hread, hoverride⟩

/-- **Loaded settings have sources with names of their own, and they pass the check again unless the
environment writes the interval between health checks as zero.** -/
theorem valid_of_load_iff {environment : String → Option String} {path : String}
    {content : Except String ByteArray} {config : Config}
    (hload : load environment path content = .ok config) :
    (∀ entry ∈ config.sources, entry.name ≠ "") ∧ (config.sources.map (·.name)).Nodup ∧
      (config.validate = .ok () ↔ ¬OverridesToZero environment) ∧
      (OverridesToZero environment → config.validate =
        .error (.configuration "Health check interval must be positive")) := by
  obtain ⟨read, hvalid, hoverride⟩ := load_eq_ok hload
  obtain ⟨hsources, hzero⟩ := applyOverrides_cases hoverride
  have hnamed : ∀ entry ∈ config.sources, entry.name ≠ "" := by
    rw [hsources]
    exact hvalid.named
  have hdistinct : (config.sources.map (·.name)).Nodup := by
    rw [hsources]
    exact hvalid.distinct
  have hinterval : config.healthCheckSeconds = 0 ↔ OverridesToZero environment := by
    rw [hzero]
    constructor
    · rintro (hoverridden | ⟨-, hread⟩)
      · exact hoverridden
      · exact absurd hread (Nat.ne_of_gt hvalid.interval)
    · exact Or.inl
  refine ⟨hnamed, hdistinct, ?_, fun hoverridden => ?_⟩
  · rw [validate_eq_ok_iff, ← hinterval]
    constructor
    · intro hagain
      exact Nat.ne_of_gt hagain.interval
    · intro hpositive
      exact ⟨hnamed, hdistinct, Nat.pos_of_ne_zero hpositive⟩
  · rw [validate, checkNames_nil_eq_ok_iff.mpr ⟨hnamed, hdistinct⟩]
    exact if_pos (hinterval.mpr hoverridden)

/-- An environment that only sets the interval between health checks. -/
def healthCheckEvery (text key : String) : Option String :=
  if key = healthCheckVariable then some text else none

theorem valid_of_load_five_seconds :
    load (healthCheckEvery " +05 ") "config.json" (.ok "\x7b\x7d".toUTF8) = .ok ⟨[], 5, none⟩ ∧
      (Config.mk [] 5 none).validate = .ok () := by
  have hload : load (healthCheckEvery " +05 ") "config.json" (.ok "\x7b\x7d".toUTF8) =
      .ok ⟨[], 5, none⟩ := rfl
  refine ⟨hload, (valid_of_load_iff hload).2.2.1.mpr ?_⟩
  rintro ⟨value, hvalue, hzero⟩
  cases hvalue
  have hread : readNat 9 (trimChars " +05 ".toList) = some 0 := readNat_eq_zero_iff.mpr hzero
  have hfive : readNat 9 (trimChars " +05 ".toList) = some 5 := rfl
  rw [hfive] at hread
  cases hread

/-- An interval of zero is refused in a file and accepted from the environment. -/
theorem load_accepts_zero_interval :
    ∃ config, load (healthCheckEvery "0") "config.json" (.ok "\x7b\x7d".toUTF8) = .ok config ∧
      config.validate ≠ .ok () :=
  ⟨⟨[], 0, none⟩, rfl, fun hvalid => by cases hvalid⟩

end ImageChain.Config
