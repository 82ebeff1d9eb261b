import Mathlib.Data.List.Induction
import ImageChain.Source.Rotation
import ImageChain.Proofs.Source.Health

/-!
# What lookups know and what they pick

A lookup reads the state of each host at a moment of its own, and picks long
after it has read the first one.  So what it has found need not be what is
healthy at any one moment, and what it picks is only as good as what it read.

`Kept` is what holds of a rotation whatever the lookups have found: the cursor
counts the lookups that have picked, and nothing else.  `Known` is what a
lookup's stage says about what it read, for any notion of having read something;
`known_of_step` is its step.  With the events so far as the notion it gives
`known_of_run`.
-/

namespace ImageChain

namespace Upstream

/-- Whether the host in a place is healthy. -/
def healthyAt (upstream : Upstream) (place : Nat) : Bool :=
  upstream.hosts[place]?.any (·.healthy)

/-- The places of the healthy hosts, in order. -/
def healthyPlaces (upstream : Upstream) : List Nat :=
  (List.range upstream.hosts.length).filter upstream.healthyAt

theorem cursor_observe (upstream : Upstream) (place : Nat) (succeeded : Bool) :
    (upstream.observe place succeeded).1.cursor = upstream.cursor := by
  unfold observe
  split <;> rfl

theorem healthyAt_of_getElem? {upstream : Upstream} {place : Nat} {host : Host}
    (hhost : upstream.hosts[place]? = some host) : upstream.healthyAt place = host.healthy := by
  simp [healthyAt, hhost]

theorem mem_healthyPlaces {upstream : Upstream} {place : Nat} :
    place ∈ upstream.healthyPlaces ↔ upstream.healthyAt place = true := by
  rw [healthyPlaces, List.mem_filter, List.mem_range, and_iff_right_iff_imp]
  intro hhealthy
  by_contra hout
  rw [healthyAt, List.getElem?_eq_none (not_lt.mp hout)] at hhealthy
  cases hhealthy

theorem nodup_healthyPlaces (upstream : Upstream) : upstream.healthyPlaces.Nodup :=
  List.nodup_range.filter _

/-- The places of the healthy hosts tell of every host whether it is healthy. -/
theorem healthyAt_eq_of_healthyPlaces {upstream other : Upstream}
    (hsame : upstream.healthyPlaces = other.healthyPlaces) (place : Nat) :
    upstream.healthyAt place = other.healthyAt place := by
  rw [Bool.eq_iff_iff, ← mem_healthyPlaces, ← mem_healthyPlaces, hsame]

end Upstream

namespace Rotation

/-! ## What an event does -/

/-- What an event makes of a rotation. -/
inductive Changes (rotation : Rotation) : RotationEvent → Rotation → Prop where
  | began (parameters : List String) : Changes rotation (.lookUp parameters)
      { rotation with lookups := rotation.lookups ++ [⟨parameters, firstStage parameters⟩] }
  | looked {lookup looked : Nat} {parameters : List String} {path : String} {found : List Nat}
      {host : Host}
      (hlookup : rotation.lookups[lookup]? = some ⟨parameters, .looking path looked found⟩)
      (hhost : rotation.upstream.hosts[looked]? = some host) :
      Changes rotation (.look lookup) (rotation.advance lookup parameters
        (.looking path (looked + 1) (if host.healthy then found ++ [looked] else found)))
  | gaveUp {lookup looked : Nat} {parameters : List String} {path : String}
      (hlookup : rotation.lookups[lookup]? = some ⟨parameters, .looking path looked []⟩)
      (hall : rotation.upstream.hosts.length ≤ looked) :
      Changes rotation (.pick lookup) (rotation.advance lookup parameters (.failed noHealthyHost))
  | picked {lookup looked place : Nat} {parameters : List String} {path : String}
      {found : List Nat}
      (hlookup : rotation.lookups[lookup]? = some ⟨parameters, .looking path looked found⟩)
      (hall : rotation.upstream.hosts.length ≤ looked)
      (hplace : found[rotation.upstream.cursor % found.length]? = some place) :
      Changes rotation (.pick lookup)
        { rotation.advance lookup parameters (.asking place path) with
          upstream := { rotation.upstream with
            cursor := (rotation.upstream.cursor + 1) % Upstream.cursorLimit }
          picks := rotation.picks ++ [(lookup, place)] }
  | checked (place : Nat) (succeeded : Bool) : Changes rotation (.check place succeeded)
      { rotation with upstream := (rotation.upstream.observe place succeeded).1 }

variable {rotation next : Rotation} {event : RotationEvent}

theorem changes_of_look {lookup : Nat} (hlook : rotation.look lookup = some next) :
    Changes rotation (.look lookup) next := by
  unfold look at hlook
  split at hlook
  · next parameters path looked found hlookup =>
    cases hhost : rotation.upstream.hosts[looked]? with
    | none => simp [hhost] at hlook
    | some host =>
        rw [hhost] at hlook
        cases hlook
        exact .looked hlookup hhost
  · cases hlook

theorem changes_of_pick {lookup : Nat} (hpick : rotation.pick lookup = some next) :
    Changes rotation (.pick lookup) next := by
  unfold pick at hpick
  split at hpick
  · next parameters path looked found hlookup =>
    split at hpick
    · cases hpick
    · next hall =>
      have hall : rotation.upstream.hosts.length ≤ looked := by omega
      cases hplace : found[rotation.upstream.cursor % found.length]? with
      | none =>
          rw [hplace] at hpick
          cases hpick
          -- the cursor always points into the places that were found, unless there are none
          have hnil : found = [] := by
            by_contra hne
            have hlt := Nat.mod_lt rotation.upstream.cursor (List.length_pos_of_ne_nil hne)
            have hle := List.getElem?_eq_none_iff.mp hplace
            omega
          subst hnil
          exact .gaveUp hlookup hall
      | some place =>
          rw [hplace] at hpick
          cases hpick
          exact .picked hlookup hall hplace
  · cases hpick

theorem changes_of_step (hstep : rotation.step event = some next) : Changes rotation event next := by
  cases event with
  | lookUp parameters =>
      cases hstep
      exact .began parameters
  | look lookup => exact changes_of_look hstep
  | pick lookup => exact changes_of_pick hstep
  | check place succeeded =>
      cases hstep
      exact .checked place succeeded

theorem run_append (rotation : Rotation) (first rest : List RotationEvent) :
    rotation.run (first ++ rest) = (rotation.run first).bind (·.run rest) :=
  List.foldlM_append

theorem run_concat (rotation : Rotation) (events : List RotationEvent) (event : RotationEvent) :
    rotation.run (events ++ [event]) = (rotation.run events).bind (·.step event) := by
  rw [run_append]
  congr 1
  funext middle
  simp [run]

/-- What the next event keeps, a run keeps.  It may be about the events so far. -/
theorem run_induction {motive : List RotationEvent → Rotation → Prop} (hstart : motive [] rotation)
    (hkeeps : ∀ {events : List RotationEvent} {event : RotationEvent} {before after : Rotation},
      rotation.run events = some before → motive events before →
        before.step event = some after → motive (events ++ [event]) after)
    {events : List RotationEvent} {after : Rotation} (hrun : rotation.run events = some after) :
    motive events after := by
  induction events using List.reverseRecOn generalizing after with
  | nil =>
      cases hrun
      exact hstart
  | append_singleton events event ih =>
      rw [run_concat, Option.bind_eq_some_iff] at hrun
      obtain ⟨before, hbefore, hstep⟩ := hrun
      exact hkeeps hbefore (ih hbefore) hstep

/-! ## What is kept -/

/-- How far a lookup with these parameters can have got. -/
def Allowed (parameters : List String) (stage : LookupStage) : Prop :=
  match pathOf parameters with
  | .error failure => stage = .failed failure
  | .ok path => (∃ looked found, stage = .looking path looked found) ∨
      (∃ place, stage = .asking place path) ∨ stage = .failed noHealthyHost

/-- What holds of a rotation whatever the lookups have found. -/
structure Kept (built : Upstream) (rotation : Rotation) : Prop where
  /-- The hosts stay the same, but for their health. -/
  hosts : rotation.upstream.hosts.map (·.baseUrl) = built.hosts.map (·.baseUrl)
  /-- The cursor counts the picks. -/
  cursor : rotation.upstream.cursor = rotation.picks.length % Upstream.cursorLimit
  /-- No lookup picks twice. -/
  once : (rotation.picks.map (·.1)).Nodup
  /-- Those that have picked are those that ask a host. -/
  asking : ∀ lookup place : Nat, (lookup, place) ∈ rotation.picks ↔
    ∃ parameters path, rotation.lookups[lookup]? = some ⟨parameters, .asking place path⟩
  /-- Every lookup is where its parameters let it be. -/
  allowed : ∀ (lookup : Nat) (parameters : List String) (stage : LookupStage),
    rotation.lookups[lookup]? = some ⟨parameters, stage⟩ → Allowed parameters stage

theorem allowed_firstStage (parameters : List String) :
    Allowed parameters (firstStage parameters) := by
  unfold Allowed firstStage
  cases pathOf parameters with
  | error failure => rfl
  | ok path => exact .inl ⟨0, [], rfl⟩

theorem firstStage_ne_asking (parameters : List String) (place : Nat) (path : String) :
    firstStage parameters ≠ .asking place path := by
  unfold firstStage
  cases pathOf parameters <;> simp

theorem allowed_of_looking {parameters : List String} {path : String} {looked : Nat}
    {found : List Nat} (hallowed : Allowed parameters (.looking path looked found)) :
    pathOf parameters = .ok path := by
  unfold Allowed at hallowed
  cases hpath : pathOf parameters with
  | error failure => simp [hpath] at hallowed
  | ok other =>
      simp only [hpath, LookupStage.looking.injEq, reduceCtorEq, exists_false, or_false] at hallowed
      obtain ⟨_, _, rfl, -, -⟩ := hallowed
      rfl

theorem Kept.length_hosts {built : Upstream} (hkept : Kept built rotation) :
    rotation.upstream.hosts.length = built.hosts.length := by
  simpa using congrArg List.length hkept.hosts

/-- Where a lookup is after another, or itself, has got to a stage. -/
theorem lookup_advance_cases {lookup other : Nat} {parameters others : List String}
    {stage later : LookupStage}
    (hlater : (rotation.advance lookup parameters stage).lookups[other]? = some ⟨others, later⟩) :
    (other = lookup ∧ others = parameters ∧ later = stage) ∨
      (other ≠ lookup ∧ rotation.lookups[other]? = some ⟨others, later⟩) := by
  by_cases hother : other = lookup
  · subst hother
    obtain ⟨hlength, heq⟩ := List.getElem?_eq_some_iff.mp hlater
    simp only [advance, List.getElem_set_self, Lookup.mk.injEq] at heq
    exact .inl ⟨rfl, heq.1.symm, heq.2.symm⟩
  · rw [advance, List.getElem?_set_ne (Ne.symm hother)] at hlater
    exact .inr ⟨hother, hlater⟩

theorem lookup_advance_self {lookup : Nat} {current : Lookup}
    (hlookup : rotation.lookups[lookup]? = some current) (parameters : List String)
    (stage : LookupStage) :
    (rotation.advance lookup parameters stage).lookups[lookup]? = some ⟨parameters, stage⟩ := by
  have hlength : lookup < rotation.lookups.length := (List.getElem?_eq_some_iff.mp hlookup).choose
  simp [advance, hlength]

theorem lookup_advance_of_ne {lookup other : Nat} (hne : other ≠ lookup) (parameters : List String)
    (stage : LookupStage) :
    (rotation.advance lookup parameters stage).lookups[other]? = rotation.lookups[other]? := by
  simp [advance, Ne.symm hne]

theorem lookup_began_cases {other : Nat} {parameters others : List String} {later : LookupStage}
    (hlater : (rotation.lookups ++ [⟨parameters, firstStage parameters⟩])[other]? =
      some ⟨others, later⟩) :
    (other = rotation.lookups.length ∧ others = parameters ∧ later = firstStage parameters) ∨
      (other ≠ rotation.lookups.length ∧ rotation.lookups[other]? = some ⟨others, later⟩) := by
  grind

/-- A lookup under way that does not get to asking leaves those that ask as they are. -/
theorem asking_advance_iff {lookup other looked place : Nat} {parameters : List String}
    {path : String} {found : List Nat} {stage : LookupStage}
    (hlookup : rotation.lookups[lookup]? = some ⟨parameters, .looking path looked found⟩)
    (hstage : ∀ place path, stage ≠ .asking place path) :
    (∃ others path, (rotation.advance lookup parameters stage).lookups[other]? =
        some ⟨others, .asking place path⟩) ↔
      ∃ others path, rotation.lookups[other]? = some ⟨others, .asking place path⟩ := by
  by_cases hother : other = lookup
  · subst hother
    rw [lookup_advance_self hlookup, hlookup]
    simp [hstage]
  · rw [lookup_advance_of_ne hother]

theorem allowed_advance {lookup : Nat} {parameters : List String} {stage : LookupStage}
    (hbefore : ∀ (lookup : Nat) (parameters : List String) (stage : LookupStage),
      rotation.lookups[lookup]? = some ⟨parameters, stage⟩ → Allowed parameters stage)
    (hnew : Allowed parameters stage) (other : Nat) (others : List String) (later : LookupStage)
    (hlater : (rotation.advance lookup parameters stage).lookups[other]? = some ⟨others, later⟩) :
    Allowed others later := by
  rcases lookup_advance_cases hlater with ⟨-, rfl, rfl⟩ | ⟨-, hsame⟩
  · exact hnew
  · exact hbefore _ _ _ hsame

theorem kept_start {built : Upstream} (hcursor : built.cursor = 0) : Kept built (start built) where
  hosts := rfl
  cursor := hcursor
  once := List.nodup_nil
  asking lookup place := by simp [start]
  allowed lookup parameters stage hlookup := by simp [start] at hlookup

/-- A lookup under way gets on without picking a host. -/
theorem Kept.advance {built : Upstream} (hkept : Kept built rotation) {lookup looked : Nat}
    {parameters : List String} {path : String} {found : List Nat} {stage : LookupStage}
    (hlookup : rotation.lookups[lookup]? = some ⟨parameters, .looking path looked found⟩)
    (hstage : ∀ place path, stage ≠ .asking place path) (hallowed : Allowed parameters stage) :
    Kept built (rotation.advance lookup parameters stage) where
  hosts := hkept.hosts
  cursor := hkept.cursor
  once := hkept.once
  asking other place := by
    rw [asking_advance_iff hlookup hstage]
    exact hkept.asking other place
  allowed := allowed_advance hkept.allowed hallowed

/-- A lookup under way has not picked yet. -/
theorem Kept.notMem_picks {built : Upstream} (hkept : Kept built rotation) {lookup looked : Nat}
    {parameters : List String} {path : String} {found : List Nat}
    (hlookup : rotation.lookups[lookup]? = some ⟨parameters, .looking path looked found⟩)
    (place : Nat) : (lookup, place) ∉ rotation.picks := by
  intro hmem
  obtain ⟨_, _, hasking⟩ := (hkept.asking lookup place).mp hmem
  rw [hlookup] at hasking
  cases hasking

theorem Kept.pick {built : Upstream} (hkept : Kept built rotation) {lookup looked : Nat}
    {parameters : List String} {path : String} {found : List Nat}
    (hlookup : rotation.lookups[lookup]? = some ⟨parameters, .looking path looked found⟩)
    (place : Nat) :
    Kept built { rotation.advance lookup parameters (.asking place path) with
      upstream := { rotation.upstream with
        cursor := (rotation.upstream.cursor + 1) % Upstream.cursorLimit }
      picks := rotation.picks ++ [(lookup, place)] } := by
  have hpath := allowed_of_looking (hkept.allowed _ _ _ hlookup)
  have hnew := hkept.notMem_picks hlookup
  constructor
  case hosts => exact hkept.hosts
  case cursor =>
    show (rotation.upstream.cursor + 1) % _ = (rotation.picks ++ [_]).length % _
    rw [hkept.cursor, List.length_append, List.length_singleton, Nat.mod_add_mod]
  case once =>
    rw [List.map_append, List.map_singleton, List.nodup_append]
    refine ⟨hkept.once, List.nodup_singleton _, ?_⟩
    rintro first hfirst _ hlast rfl
    obtain ⟨⟨_, other⟩, hmem, rfl⟩ := List.mem_map.mp hfirst
    cases List.mem_singleton.mp hlast
    exact hnew other hmem
  case asking =>
    intro other chosen
    show (other, chosen) ∈ rotation.picks ++ [(lookup, place)] ↔
      ∃ others path', (rotation.advance lookup parameters (.asking place path)).lookups[other]? =
        some ⟨others, .asking chosen path'⟩
    by_cases hother : other = lookup
    · subst hother
      rw [lookup_advance_self hlookup]
      simp [hnew, eq_comm]
    · rw [lookup_advance_of_ne hother, ← hkept.asking]
      simp [hother]
  case allowed =>
    refine allowed_advance hkept.allowed ?_
    simp [Allowed, hpath]

/-- A new lookup has not picked, whether it fails at once or not. -/
theorem Kept.began {built : Upstream} (hkept : Kept built rotation) (parameters : List String) :
    Kept built
      { rotation with lookups := rotation.lookups ++ [⟨parameters, firstStage parameters⟩] } := by
  refine ⟨hkept.hosts, hkept.cursor, hkept.once, fun lookup place => ?_, ?_⟩
  · rw [hkept.asking]
    constructor
    · rintro ⟨others, path, hlookup⟩
      have hlength := (List.getElem?_eq_some_iff.mp hlookup).choose
      exact ⟨others, path, (List.getElem?_append_left hlength).trans hlookup⟩
    · rintro ⟨others, path, hlookup⟩
      rcases lookup_began_cases hlookup with ⟨-, -, hfirst⟩ | ⟨-, hsame⟩
      · exact absurd hfirst.symm (firstStage_ne_asking _ _ _)
      · exact ⟨others, path, hsame⟩
  · intro lookup others stage hlookup
    rcases lookup_began_cases hlookup with ⟨-, rfl, rfl⟩ | ⟨-, hsame⟩
    · exact allowed_firstStage _
    · exact hkept.allowed _ _ _ hsame

theorem kept_of_step {built : Upstream} (hkept : Kept built rotation)
    (hstep : rotation.step event = some next) : Kept built next := by
  cases changes_of_step hstep with
  | began parameters => exact hkept.began parameters
  | looked hlookup hhost =>
      have hpath := allowed_of_looking (hkept.allowed _ _ _ hlookup)
      exact hkept.advance hlookup (by simp) (by simp [Allowed, hpath])
  | gaveUp hlookup hall =>
      have hpath := allowed_of_looking (hkept.allowed _ _ _ hlookup)
      exact hkept.advance hlookup (by simp) (by simp [Allowed, hpath])
  | picked hlookup hall hplace => exact hkept.pick hlookup _
  | checked place succeeded =>
      refine ⟨?_, ?_, hkept.once, hkept.asking, hkept.allowed⟩
      · rw [Upstream.baseUrls_observe, hkept.hosts]
      · rw [← hkept.cursor]
        exact Upstream.cursor_observe _ _ _

theorem kept_of_run {built : Upstream} (hcursor : built.cursor = 0) {events : List RotationEvent}
    {after : Rotation} (hrun : (start built).run events = some after) : Kept built after :=
  run_induction (motive := fun _ state => Kept built state) (kept_start hcursor)
    (fun _ hkept hstep => kept_of_step hkept hstep) hrun

/-! ## What a lookup knows -/

/-- What the stage of a lookup says about what it has read, where `read place healthy` stands for
having read that the host in a place is healthy, or that it is not. -/
def Known (count : Nat) (read : Nat → Bool → Prop) (parameters : List String) :
    LookupStage → Prop
  | .looking _ looked found => looked ≤ count ∧ ∃ healthy : Nat → Bool,
      found = (List.range looked).filter healthy ∧ ∀ place < looked, read place (healthy place)
  | .asking place _ => read place true
  | .failed _ => (∃ failure, pathOf parameters = .error failure) ∨ ∀ place < count, read place false

theorem Known.mono {count : Nat} {read more : Nat → Bool → Prop} {parameters : List String}
    {stage : LookupStage} (hmono : ∀ place healthy, read place healthy → more place healthy)
    (hknown : Known count read parameters stage) : Known count more parameters stage := by
  cases stage with
  | looking path looked found =>
      obtain ⟨hle, healthy, hfound, hread⟩ := hknown
      exact ⟨hle, healthy, hfound, fun place hplace => hmono _ _ (hread place hplace)⟩
  | asking place path => exact hmono _ _ hknown
  | failed failure => exact hknown.imp_right fun hread place hplace => hmono _ _ (hread place hplace)

theorem known_firstStage (count : Nat) (read : Nat → Bool → Prop) (parameters : List String) :
    Known count read parameters (firstStage parameters) := by
  unfold firstStage
  cases hpath : pathOf parameters with
  | error failure => exact .inl ⟨failure, hpath⟩
  | ok path => exact ⟨Nat.zero_le _, fun _ => false, by simp, by simp⟩

/-- Looking at the next host adds what it is like. -/
theorem Known.look {count looked : Nat} {read : Nat → Bool → Prop} {parameters : List String}
    {path : String} {found : List Nat} {healthy : Bool}
    (hknown : Known count read parameters (.looking path looked found)) (hlt : looked < count)
    (hread : read looked healthy) :
    Known count read parameters
      (.looking path (looked + 1) (if healthy then found ++ [looked] else found)) := by
  obtain ⟨-, earlier, rfl, hearlier⟩ := hknown
  refine ⟨hlt, fun place => if place = looked then healthy else earlier place, ?_, ?_⟩
  · have hsame : (List.range looked).filter
        (fun place => if place = looked then healthy else earlier place) =
          (List.range looked).filter earlier := by
      refine List.filter_congr fun place hplace => if_neg ?_
      exact (List.mem_range.mp hplace).ne
    rw [List.range_succ, List.filter_append, hsame]
    cases healthy <;> simp
  · intro place hplace
    by_cases hlast : place = looked
    · subst hlast
      simpa using hread
    · have hbefore : place < looked := by omega
      simpa [hlast] using hearlier place hbefore

/-- Having found no healthy host among all of them, a lookup has read of each that it is not. -/
theorem Known.giveUp {count looked : Nat} {read : Nat → Bool → Prop} {parameters : List String}
    {path : String} (hknown : Known count read parameters (.looking path looked []))
    (hall : count ≤ looked) (failure : Failure) : Known count read parameters (.failed failure) := by
  obtain ⟨-, healthy, hnone, hread⟩ := hknown
  refine .inr fun place hplace => ?_
  have hlooked : place < looked := by omega
  have hsick : healthy place = false := Bool.eq_false_iff.mpr
    (List.filter_eq_nil_iff.mp hnone.symm place (List.mem_range.mpr hlooked))
  have hstate := hread place hlooked
  rwa [hsick] at hstate

/-- What has been found was read as healthy. -/
theorem Known.pick {count looked place : Nat} {read : Nat → Bool → Prop}
    {parameters : List String} {path : String} {found : List Nat}
    (hknown : Known count read parameters (.looking path looked found)) (hplace : place ∈ found) :
    Known count read parameters (.asking place path) := by
  obtain ⟨-, healthy, rfl, hread⟩ := hknown
  obtain ⟨hlooked, hhealthy⟩ := List.mem_filter.mp hplace
  have hstate := hread place (List.mem_range.mp hlooked)
  rwa [hhealthy] at hstate

/-- What all lookups know is kept if what was read stays read, and the lookup that looks at a host
reads its state. -/
theorem known_of_step {read more : Nat → Nat → Bool → Prop}
    (hmono : ∀ lookup place healthy, read lookup place healthy → more lookup place healthy)
    (hlook : ∀ (lookup : Nat) parameters path (place : Nat) found host, event = .look lookup →
      rotation.lookups[lookup]? = some ⟨parameters, .looking path place found⟩ →
        rotation.upstream.hosts[place]? = some host → more lookup place host.healthy)
    (hbefore : ∀ (lookup : Nat) parameters stage,
      rotation.lookups[lookup]? = some ⟨parameters, stage⟩ →
        Known rotation.upstream.hosts.length (read lookup) parameters stage)
    (hstep : rotation.step event = some next) (lookup : Nat) (parameters : List String)
    (stage : LookupStage) (hlookup : next.lookups[lookup]? = some ⟨parameters, stage⟩) :
    Known rotation.upstream.hosts.length (more lookup) parameters stage := by
  have hkeep : ∀ {stage}, rotation.lookups[lookup]? = some ⟨parameters, stage⟩ →
      Known rotation.upstream.hosts.length (more lookup) parameters stage :=
    fun hsame => (hbefore _ _ _ hsame).mono (hmono lookup)
  -- either this is the lookup that has got on, or it is where it was
  cases changes_of_step hstep with
  | began others =>
      rcases lookup_began_cases hlookup with ⟨-, rfl, rfl⟩ | ⟨-, hsame⟩
      · exact known_firstStage _ _ _
      · exact hkeep hsame
  | looked hcurrent hhost =>
      rcases lookup_advance_cases hlookup with ⟨rfl, rfl, rfl⟩ | ⟨-, hsame⟩
      · have hlt := (List.getElem?_eq_some_iff.mp hhost).choose
        exact (hkeep hcurrent).look hlt (hlook _ _ _ _ _ _ rfl hcurrent hhost)
      · exact hkeep hsame
  | gaveUp hcurrent hall =>
      rcases lookup_advance_cases hlookup with ⟨rfl, rfl, rfl⟩ | ⟨-, hsame⟩
      · exact (hkeep hcurrent).giveUp hall _
      · exact hkeep hsame
  | picked hcurrent hall hplace =>
      rcases lookup_advance_cases hlookup with ⟨rfl, rfl, rfl⟩ | ⟨-, hsame⟩
      · exact (hkeep hcurrent).pick (List.mem_of_getElem? hplace)
      · exact hkeep hsame
  | checked place succeeded => exact hkeep hlookup

/-- In a run of events, a lookup has looked at the host in a place when it was healthy, or when it
was not. -/
def HasRead (built : Upstream) (events : List RotationEvent) (lookup place : Nat)
    (healthy : Bool) : Prop :=
  ∃ first rest moment parameters path found, events = first ++ .look lookup :: rest ∧
    (start built).run first = some moment ∧
      moment.lookups[lookup]? = some ⟨parameters, .looking path place found⟩ ∧
        moment.upstream.healthyAt place = healthy

theorem HasRead.append {built : Upstream} {events : List RotationEvent} {lookup place : Nat}
    {healthy : Bool} (hread : HasRead built events lookup place healthy)
    (more : List RotationEvent) : HasRead built (events ++ more) lookup place healthy := by
  obtain ⟨first, rest, moment, parameters, path, found, rfl, hmoment⟩ := hread
  exact ⟨first, rest ++ more, moment, parameters, path, found, by simp, hmoment⟩

theorem known_of_run {built : Upstream} (hcursor : built.cursor = 0) {events : List RotationEvent}
    {after : Rotation} (hrun : (start built).run events = some after) :
    ∀ (lookup : Nat) parameters stage, after.lookups[lookup]? = some ⟨parameters, stage⟩ →
      Known built.hosts.length (HasRead built events lookup) parameters stage := by
  refine run_induction (motive := fun events state => ∀ (lookup : Nat) parameters stage,
    state.lookups[lookup]? = some ⟨parameters, stage⟩ →
      Known built.hosts.length (HasRead built events lookup) parameters stage)
    (by simp [start]) ?_ hrun
  intro events event before after hbefore hknown hstep
  have hlength := (kept_of_run hcursor hbefore).length_hosts
  rw [← hlength] at hknown ⊢
  refine known_of_step (fun _ _ _ hread => hread.append [event]) ?_ hknown hstep
  rintro lookup parameters path place found host rfl hlookup hhost
  exact ⟨events, [], before, parameters, path, found, rfl, hbefore, hlookup,
    Upstream.healthyAt_of_getElem? hhost⟩

end Rotation

end ImageChain
