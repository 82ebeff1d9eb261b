import Mathlib.Data.List.Rotate
import ImageChain.Proofs.Source.Rotation

/-!
# Healthy hosts take turns

While the same hosts are healthy, a lookup has found a first part of them in
order, whichever other lookups get on with their work in between.  The number
that it takes from the cursor then decides which host it asks, and numbers are
taken one after the other, by lookups that do pick.

`Turned` says this of a stretch of a run in which the same hosts stay healthy;
`inTurn_of_run` is its induction.  That each host gets its share of any block of
picks is a fact about taking turns, `count_of_turns`: a block that is long enough
begins with each item once.

A lookup that has begun before the stretch may have found hosts that are no
longer healthy.  It takes a number like any other, but what it asks is its own
affair; `Current` tells those apart.
-/

namespace ImageChain

/-! ## Taking turns -/

section Turns

variable {α : Type} {items block : List α} {first : Nat}

/-- The first items of a block are the first ones of the items, from the turn on that it begins
with. -/
theorem take_of_turns
    (hblock : ∀ turn < block.length, block[turn]? = items[(first + turn) % items.length]?) :
    block.take items.length = (items.rotate first).take block.length := by
  refine List.ext_getElem? fun turn => ?_
  by_cases hturn : turn < items.length ∧ turn < block.length
  · rw [List.getElem?_take_of_lt hturn.1, List.getElem?_take_of_lt hturn.2,
      List.getElem?_rotate hturn.1, hblock turn hturn.2, Nat.add_comm]
  · rw [List.getElem?_eq_none, List.getElem?_eq_none] <;>
      simp only [List.length_take, List.length_rotate] <;> omega

/-- Among items that take turns, each comes up as often as any other, up to one time. -/
theorem count_of_turns [DecidableEq α] (hnodup : items.Nodup) {item : α} (hitem : item ∈ items)
    (hblock : ∀ turn < block.length, block[turn]? = items[(first + turn) % items.length]?) :
    block.count item = block.length / items.length ∨
      block.count item = (block.length + items.length - 1) / items.length := by
  have hpos : 0 < items.length := List.length_pos_of_mem hitem
  have honce : (items.rotate first).count item = 1 :=
    List.count_eq_one_of_mem (List.nodup_rotate.mpr hnodup) (List.mem_rotate.mpr hitem)
  -- a block that is long enough begins with each item once, and the rest of it is shorter
  induction hlength : block.length using Nat.strong_induction_on generalizing block with
  | _ length ih =>
    subst hlength
    have htake := take_of_turns hblock
    by_cases hshort : block.length < items.length
    · rw [List.take_of_length_le hshort.le] at htake
      have hle : block.count item ≤ 1 := by
        rw [htake, ← honce]
        exact (List.take_sublist _ _).count_le _
      by_cases hnil : block.length = 0
      · simp [List.length_eq_zero_iff.mp hnil]
      · have hdown : block.length / items.length = 0 := Nat.div_eq_of_lt hshort
        have hup : (block.length + items.length - 1) / items.length = 1 := by
          rw [Nat.div_eq_iff hpos]
          omega
        omega
    · have hlong : items.length ≤ block.length := not_lt.mp hshort
      have hfirst : (block.take items.length).count item = 1 := by
        rw [htake, List.take_of_length_le (by simpa using hlong), honce]
      have hsplit : block.count item = 1 + (block.drop items.length).count item := by
        rw [← hfirst, ← List.count_append, List.take_append_drop]
      have hrest := ih (block.drop items.length).length (by rw [List.length_drop]; omega)
        (fun turn hturn => by
          rw [List.length_drop] at hturn
          rw [List.getElem?_drop, hblock (items.length + turn) (by omega), ← Nat.add_assoc,
            Nat.add_right_comm, Nat.add_mod_right]) rfl
      rw [List.length_drop] at hrest
      have hdown : block.length / items.length = (block.length - items.length) / items.length + 1 := by
        rw [← Nat.add_div_right _ hpos, Nat.sub_add_cancel hlong]
      have hup : (block.length + items.length - 1) / items.length =
          (block.length - items.length + items.length - 1) / items.length + 1 := by
        rw [← Nat.add_div_right _ hpos]
        congr 1
        omega
      omega

end Turns

namespace Rotation

variable {built : Upstream} {before after : Rotation} {events : List RotationEvent}

/-! ## While the same hosts are healthy -/

/-- The same hosts stay healthy while events happen. -/
def Steady (before : Rotation) (events : List RotationEvent) : Prop :=
  ∀ first rest moment, events = first ++ rest → before.run first = some moment →
    moment.upstream.healthyPlaces = before.upstream.healthyPlaces

/-- A lookup that has not begun yet, or that has only found, in the hosts that it has looked at,
those that are healthy. -/
def Current (rotation : Rotation) (lookup : Nat) : Prop :=
  ∀ parameters stage, rotation.lookups[lookup]? = some ⟨parameters, stage⟩ →
    ∃ path looked, stage =
      .looking path looked ((List.range looked).filter rotation.upstream.healthyAt)

/-- A lookup that is current in the beginning knows which hosts are healthy. -/
def Knows (before : Rotation) (lookup place : Nat) (healthy : Bool) : Prop :=
  before.Current lookup → healthy = before.upstream.healthyAt place

/-- What holds while the same hosts stay healthy. -/
structure InTurn (before state : Rotation) : Prop where
  /-- Picks are never taken back. -/
  picks : before.picks <+: state.picks
  /-- The number of a pick says which host it is. -/
  turn : ∀ turn lookup place : Nat,
    state.picks[before.picks.length + turn]? = some (lookup, place) → before.Current lookup →
      before.upstream.healthyPlaces[(before.picks.length + turn) % Upstream.cursorLimit %
        before.upstream.healthyPlaces.length]? = some place
  /-- Current lookups find what is healthy. -/
  known : ∀ (lookup : Nat) parameters stage, state.lookups[lookup]? = some ⟨parameters, stage⟩ →
    Known before.upstream.hosts.length (before.Knows lookup) parameters stage

/-- Having looked at all hosts, a lookup that knows the healthy ones has found them. -/
theorem found_eq_of_known {lookup looked : Nat} {parameters : List String} {path : String}
    {found : List Nat} (hcurrent : before.Current lookup)
    (hknown : Known before.upstream.hosts.length (before.Knows lookup) parameters
      (.looking path looked found)) (hall : before.upstream.hosts.length ≤ looked) :
    found = before.upstream.healthyPlaces := by
  obtain ⟨hle, healthy, rfl, hread⟩ := hknown
  obtain rfl : looked = before.upstream.hosts.length := by omega
  refine List.filter_congr fun place hplace => ?_
  exact hread place (List.mem_range.mp hplace) hcurrent

theorem inTurn_refl {read : Nat → Nat → Bool → Prop}
    (hknown : ∀ (lookup : Nat) parameters stage,
      before.lookups[lookup]? = some ⟨parameters, stage⟩ →
        Known before.upstream.hosts.length (read lookup) parameters stage) :
    InTurn before before := by
  refine ⟨List.prefix_refl _, ?_, ?_⟩
  · intro turn lookup place hpick
    have hlt := (List.getElem?_eq_some_iff.mp hpick).choose
    omega
  · intro lookup parameters stage hlookup
    have hstage := hknown _ _ _ hlookup
    by_cases hcurrent : before.Current lookup
    · obtain ⟨path, looked, rfl⟩ := hcurrent parameters stage hlookup
      exact ⟨hstage.1, _, rfl, fun _ _ _ => rfl⟩
    · exact hstage.mono fun place healthy _ h => absurd h hcurrent

/-- The next pick is the one whose turn it is. -/
theorem InTurn.pick {state : Rotation} (hkept : Kept built state)
    (hlength : state.upstream.hosts.length = before.upstream.hosts.length)
    (hin : InTurn before state) {lookup looked place : Nat} {parameters : List String}
    {path : String} {found : List Nat}
    (hlookup : state.lookups[lookup]? = some ⟨parameters, .looking path looked found⟩)
    (hall : state.upstream.hosts.length ≤ looked)
    (hplace : found[state.upstream.cursor % found.length]? = some place)
    {turn other chosen : Nat}
    (hpick : (state.picks ++ [(lookup, place)])[before.picks.length + turn]? =
      some (other, chosen)) (hcurrent : before.Current other) :
    before.upstream.healthyPlaces[(before.picks.length + turn) % Upstream.cursorLimit %
      before.upstream.healthyPlaces.length]? = some chosen := by
  by_cases hold : before.picks.length + turn < state.picks.length
  · rw [List.getElem?_append_left hold] at hpick
    exact hin.turn turn other chosen hpick hcurrent
  · -- the pick is the one that has just been made
    have hlast : before.picks.length + turn = state.picks.length := by
      have hlt := (List.getElem?_eq_some_iff.mp hpick).choose
      rw [List.length_append, List.length_singleton] at hlt
      omega
    rw [hlast, List.getElem?_concat_length] at hpick
    cases hpick
    rw [hlength] at hall
    have hfound := found_eq_of_known hcurrent (hin.known _ _ _ hlookup) hall
    rw [hfound, hkept.cursor] at hplace
    rw [hlast]
    exact hplace

theorem inTurn_of_step {state next : Rotation} {event : RotationEvent} (hkept : Kept built state)
    (hlength : state.upstream.hosts.length = before.upstream.hosts.length)
    (hsteady : state.upstream.healthyPlaces = before.upstream.healthyPlaces)
    (hin : InTurn before state) (hstep : state.step event = some next) : InTurn before next := by
  have hknown : ∀ (lookup : Nat) parameters stage,
      next.lookups[lookup]? = some ⟨parameters, stage⟩ →
        Known before.upstream.hosts.length (before.Knows lookup) parameters stage := by
    intro lookup parameters stage hlookup
    have hbefore := hin.known
    rw [← hlength] at hbefore ⊢
    refine known_of_step (fun _ _ _ h => h) ?_ hbefore hstep lookup parameters stage hlookup
    -- what is read now is what was so in the beginning, since the same hosts are healthy
    intro other _ _ place _ host _ _ hhost _
    rw [← Upstream.healthyAt_of_getElem? hhost]
    exact Upstream.healthyAt_eq_of_healthyPlaces hsteady place
  cases changes_of_step hstep with
  | began | looked | gaveUp | checked => exact ⟨hin.picks, hin.turn, hknown⟩
  | picked hlookup hall hplace =>
      refine ⟨hin.picks.trans (List.prefix_append _ _), ?_, hknown⟩
      intro turn other chosen hpick hcurrent
      exact hin.pick hkept hlength hlookup hall hplace hpick hcurrent

theorem inTurn_of_run (hkept : Kept built before) (hin : InTurn before before)
    (hrun : before.run events = some after) (hsteady : before.Steady events) :
    InTurn before after ∧ Kept built after := by
  refine run_induction (motive := fun events state => before.Steady events →
    InTurn before state ∧ Kept built state) (fun _ => ⟨hin, hkept⟩) ?_ hrun hsteady
  intro events event state next hstate hearlier hstep hsteady
  obtain ⟨hturn, hkeeps⟩ := hearlier fun first rest moment hsplit hmoment =>
    hsteady first (rest ++ [event]) moment (by simp [hsplit]) hmoment
  have hsame := hsteady events [event] state rfl hstate
  have hlength := hkeeps.length_hosts.trans hkept.length_hosts.symm
  exact ⟨inTurn_of_step hkeeps hlength hsame hturn hstep, kept_of_step hkeeps hstep⟩

/-- What lookups do while the same hosts stay healthy.  It is about lookups that are current when the
stretch begins, above all those that begin in it. -/
structure Turned (before after : Rotation) : Prop where
  /-- Picks are never taken back. -/
  picks : before.picks <+: after.picks
  /-- From the cursor on, the healthy hosts are picked in turn. -/
  turn : ∀ turn lookup place : Nat,
    after.picks[before.picks.length + turn]? = some (lookup, place) →
      before.picks.length + turn < Upstream.cursorLimit → before.Current lookup →
        before.upstream.healthyPlaces[(before.upstream.cursor + turn) %
          before.upstream.healthyPlaces.length]? = some place
  /-- Of any picks in a row, every healthy host gets its share, rounded down or up. -/
  share : ∀ earlier block later, after.picks = earlier ++ block ++ later →
    before.picks.length ≤ earlier.length → (earlier ++ block).length ≤ Upstream.cursorLimit →
      (∀ pick ∈ block, before.Current pick.1) → ∀ place ∈ before.upstream.healthyPlaces,
        (block.map (·.2)).count place = block.length / before.upstream.healthyPlaces.length ∨
          (block.map (·.2)).count place =
            (block.length + before.upstream.healthyPlaces.length - 1) /
              before.upstream.healthyPlaces.length
  /-- A host that is asked is healthy. -/
  asks : ∀ lookup parameters place path, before.Current lookup →
    after.lookups[lookup]? = some ⟨parameters, .asking place path⟩ →
      place ∈ before.upstream.healthyPlaces
  /-- With a healthy host, only lookups with wrong parameters fail. -/
  fails : before.upstream.healthyPlaces ≠ [] → ∀ lookup parameters failure,
    before.Current lookup → after.lookups[lookup]? = some ⟨parameters, .failed failure⟩ →
      pathOf parameters = .error failure

/-- Below the limit of the cursor, a pick is as far from the cursor as from the first pick. -/
theorem InTurn.turn_of_lt (hkept : Kept built before) (hin : InTurn before after)
    {turn lookup place : Nat}
    (hpick : after.picks[before.picks.length + turn]? = some (lookup, place))
    (hlimit : before.picks.length + turn < Upstream.cursorLimit) (hcurrent : before.Current lookup) :
    before.upstream.healthyPlaces[(before.upstream.cursor + turn) %
      before.upstream.healthyPlaces.length]? = some place := by
  have hbefore : before.picks.length < Upstream.cursorLimit := by omega
  have hplace := hin.turn turn lookup place hpick hcurrent
  rw [Nat.mod_eq_of_lt hlimit] at hplace
  rwa [hkept.cursor, Nat.mod_eq_of_lt hbefore]

theorem InTurn.share (hkept : Kept built before) (hin : InTurn before after)
    {earlier block later : List (Nat × Nat)} (hsplit : after.picks = earlier ++ block ++ later)
    (hstart : before.picks.length ≤ earlier.length)
    (hlimit : (earlier ++ block).length ≤ Upstream.cursorLimit)
    (hcurrent : ∀ pick ∈ block, before.Current pick.1) {place : Nat}
    (hplace : place ∈ before.upstream.healthyPlaces) :
    (block.map (·.2)).count place = block.length / before.upstream.healthyPlaces.length ∨
      (block.map (·.2)).count place =
        (block.length + before.upstream.healthyPlaces.length - 1) /
          before.upstream.healthyPlaces.length := by
  rw [List.length_append] at hlimit
  have hblock : ∀ turn < (block.map (·.2)).length, (block.map (·.2))[turn]? =
      before.upstream.healthyPlaces[(before.upstream.cursor +
        (earlier.length - before.picks.length) + turn) %
          before.upstream.healthyPlaces.length]? := by
    intro turn hlt
    rw [List.length_map] at hlt
    have hpick : after.picks[earlier.length + turn]? = some block[turn] := by
      rw [hsplit, List.append_assoc, List.getElem?_append_right (by omega),
        List.getElem?_append_left (by omega), Nat.add_sub_cancel_left,
        List.getElem?_eq_getElem hlt]
    have hnumber : earlier.length + turn =
        before.picks.length + (earlier.length - before.picks.length + turn) := by omega
    rw [hnumber] at hpick
    have hturn := hin.turn_of_lt hkept hpick (by omega) (hcurrent _ (List.getElem_mem hlt))
    rw [List.getElem?_map, List.getElem?_eq_getElem hlt, Option.map_some, Nat.add_assoc]
    exact hturn.symm
  have hshare := count_of_turns (Upstream.nodup_healthyPlaces _) hplace hblock
  rwa [List.length_map] at hshare

theorem InTurn.fails (hlater : Kept built after) (hin : InTurn before after)
    (hsome : before.upstream.healthyPlaces ≠ []) {lookup : Nat} {parameters : List String}
    {failure : Failure} (hcurrent : before.Current lookup)
    (hlookup : after.lookups[lookup]? = some ⟨parameters, .failed failure⟩) :
    pathOf parameters = .error failure := by
  rcases hin.known _ _ _ hlookup with ⟨wrong, hwrong⟩ | hsick
  · have hallowed := hlater.allowed _ _ _ hlookup
    rw [Allowed, hwrong] at hallowed
    cases hallowed
    exact hwrong
  · -- a healthy host would have been found
    obtain ⟨place, hplace⟩ := List.exists_mem_of_ne_nil _ hsome
    have hlt : place < before.upstream.hosts.length :=
      List.mem_range.mp (List.mem_filter.mp hplace).1
    rw [Upstream.mem_healthyPlaces, ← hsick place hlt hcurrent] at hplace
    cases hplace

theorem InTurn.turned (hkept : Kept built before) (hlater : Kept built after)
    (hin : InTurn before after) : Turned before after where
  picks := hin.picks
  turn _ _ _ hpick hlimit hcurrent := hin.turn_of_lt hkept hpick hlimit hcurrent
  share _ _ _ hsplit hstart hlimit hcurrent _ hplace :=
    hin.share hkept hsplit hstart hlimit hcurrent hplace
  asks lookup parameters place path hcurrent hlookup := by
    have hhealthy := hin.known _ _ _ hlookup hcurrent
    exact Upstream.mem_healthyPlaces.mpr hhealthy.symm
  fails hsome _ _ _ hcurrent hlookup := hin.fails hlater hsome hcurrent hlookup

/-! ## One lookup alone -/

/-- A lookup under way looks at the next host as long as there is one, and picks after that. -/
theorem goesOn {rotation : Rotation} {lookup looked : Nat} {parameters : List String}
    {path : String} {found : List Nat}
    (hlookup : rotation.lookups[lookup]? = some ⟨parameters, .looking path looked found⟩) :
    (looked < rotation.upstream.hosts.length ∧ (rotation.look lookup).isSome) ∨
      (rotation.upstream.hosts.length ≤ looked ∧ (rotation.pick lookup).isSome) := by
  by_cases hlooked : looked < rotation.upstream.hosts.length
  · refine .inl ⟨hlooked, ?_⟩
    simp [look, hlookup, hlooked]
  · refine .inr ⟨not_lt.mp hlooked, ?_⟩
    simp only [pick, hlookup, if_neg hlooked]
    split <;> rfl

/-- Going by places, one comes across the same items in the same order. -/
theorem map_filter_eq_map_places {α β : Type} (items : List α) (keep : α → Bool) (f : α → β)
    (other : β) :
    (items.filter keep).map f =
      ((List.range items.length).filter fun place => items[place]?.any keep).map
        fun place => (items[place]?.map f).getD other := by
  induction items using List.reverseRecOn with
  | nil => rfl
  | append_singleton items last ih =>
      have hplaces : (List.range items.length).filter
          (fun place => (items ++ [last])[place]?.any keep) =
            (List.range items.length).filter fun place => items[place]?.any keep := by
        refine List.filter_congr fun place hplace => ?_
        rw [List.getElem?_append_left (List.mem_range.mp hplace)]
      rw [List.filter_append, List.map_append, ih, List.length_append, List.length_singleton,
        List.range_succ, List.filter_append, List.map_append, hplaces]
      congr 1
      · refine List.map_congr_left fun place hplace => ?_
        have hlt := List.mem_range.mp (List.mem_filter.mp hplace).1
        rw [List.getElem?_append_left hlt]
      · cases hlast : keep last <;> simp [hlast]

/-- The address that is picked is that of the host in the place that comes up. -/
theorem upstream_pick_eq (upstream : Upstream) :
    upstream.pick =
      (upstream.healthyPlaces[upstream.cursor % upstream.healthyPlaces.length]?).map fun place =>
        ((upstream.hosts[place]?.map (·.baseUrl)).getD "",
          { upstream with cursor := (upstream.cursor + 1) % Upstream.cursorLimit }) := by
  have hhosts : upstream.healthyHosts = upstream.healthyPlaces.map fun place =>
      (upstream.hosts[place]?.map (·.baseUrl)).getD "" :=
    map_filter_eq_map_places upstream.hosts (·.healthy) (·.baseUrl) ""
  rw [Upstream.pick, hhosts]
  simp only [List.length_map, List.getElem?_map]
  cases upstream.healthyPlaces[upstream.cursor % upstream.healthyPlaces.length]? <;> rfl

theorem webRequest_eq (upstream : Upstream) (parameters : List String) :
    Source.webRequest upstream parameters = pathOf parameters >>= fun path =>
      match upstream.pick with
      | some (host, upstream) => .ok (.web (host ++ path), upstream)
      | none => .error noHealthyHost := by
  unfold Source.webRequest pathOf
  cases requireParameters "http" 1 parameters <;> rfl

variable {rotation : Rotation}

theorem advance_advance (lookup : Nat) (parameters others : List String)
    (stage later : LookupStage) :
    (rotation.advance lookup parameters stage).advance lookup others later =
      rotation.advance lookup others later := by
  simp [advance]

/-- Looking at several hosts without anything happening in between. -/
theorem run_looks {lookup : Nat} {parameters : List String} {path : String}
    (hlookup : rotation.lookups[lookup]? = some ⟨parameters, .looking path 0 []⟩)
    {looked : Nat} (hlooked : looked ≤ rotation.upstream.hosts.length) :
    rotation.run (List.replicate looked (.look lookup)) = some (rotation.advance lookup parameters
      (.looking path looked ((List.range looked).filter rotation.upstream.healthyAt))) := by
  induction looked with
  | zero =>
      obtain ⟨hlength, hself⟩ := List.getElem?_eq_some_iff.mp hlookup
      simp [run, advance, ← hself]
  | succ looked ih =>
      have hhost := List.getElem?_eq_getElem hlooked
      have hhealthy := Upstream.healthyAt_of_getElem? hhost
      have hcurrent := lookup_advance_self hlookup parameters
        (.looking path looked ((List.range looked).filter rotation.upstream.healthyAt))
      rw [List.replicate_succ', run_concat, ih (by omega), Option.bind_some]
      simp only [step, look, hcurrent]
      rw [show (rotation.advance _ _ _).upstream.hosts[looked]? = _ from hhost]
      simp only [advance_advance]
      rw [List.range_succ, List.filter_append, ← hhealthy]
      cases hlast : rotation.upstream.healthyAt looked <;> simp [hlast]

/-- A lookup goes through all hosts and picks one, without anything happening in between. -/
def goThrough (rotation : Rotation) (lookup : Nat) : List RotationEvent :=
  List.replicate rotation.upstream.hosts.length (.look lookup) ++ [.pick lookup]

theorem run_goThrough {lookup : Nat} {parameters : List String} {path : String}
    (hlookup : rotation.lookups[lookup]? = some ⟨parameters, .looking path 0 []⟩) :
    ∃ last, rotation.run (rotation.goThrough lookup) = some last ∧
      (∀ host upstream, rotation.upstream.pick = some (host, upstream) →
        last.upstream = upstream ∧ last.request lookup = some (.web (host ++ path))) ∧
      (rotation.upstream.pick = none → last.upstream = rotation.upstream ∧
        last.lookups[lookup]? = some ⟨parameters, .failed noHealthyHost⟩) := by
  let looked := rotation.advance lookup parameters
    (.looking path rotation.upstream.hosts.length rotation.upstream.healthyPlaces)
  have hlooked : looked.lookups[lookup]? = some ⟨parameters,
      .looking path rotation.upstream.hosts.length rotation.upstream.healthyPlaces⟩ :=
    lookup_advance_self hlookup _ _
  have hrun : rotation.run (rotation.goThrough lookup) = looked.pick lookup := by
    rw [goThrough, run_concat, run_looks hlookup le_rfl]
    rfl
  have hdone : ¬ rotation.upstream.hosts.length < looked.upstream.hosts.length := lt_irrefl _
  rw [hrun, upstream_pick_eq]
  cases hplace : rotation.upstream.healthyPlaces[rotation.upstream.cursor %
      rotation.upstream.healthyPlaces.length]? with
  | none =>
      refine ⟨looked.advance lookup parameters (.failed noHealthyHost), ?_, ?_, fun _ => ⟨rfl, ?_⟩⟩
      · simp only [pick, hlooked, if_neg hdone]
        rw [show looked.upstream = rotation.upstream from rfl, hplace]
      · intro host upstream hpick
        cases hpick
      · exact lookup_advance_self hlooked _ _
  | some place =>
      have hplaces := List.mem_of_getElem? hplace
      have hlt : place < rotation.upstream.hosts.length :=
        List.mem_range.mp (List.mem_filter.mp hplaces).1
      refine ⟨{ looked.advance lookup parameters (.asking place path) with
        upstream := { rotation.upstream with
          cursor := (rotation.upstream.cursor + 1) % Upstream.cursorLimit }
        picks := rotation.picks ++ [(lookup, place)] }, ?_, ?_, fun hnone => by cases hnone⟩
      · simp only [pick, hlooked, if_neg hdone]
        rw [show looked.upstream = rotation.upstream from rfl, hplace]
        rfl
      · intro host upstream hpick
        cases hpick
        refine ⟨rfl, ?_⟩
        simp only [request, lookup_advance_self hlooked, List.getElem?_eq_getElem hlt,
          Option.map_some, Option.getD_some]

/-- A lookup that nothing gets in the way of does what a lookup in the web source does. -/
theorem run_alone (rotation : Rotation) (parameters : List String) :
    ∃ events last, (∀ event ∈ events, event = .look rotation.lookups.length ∨
        event = .pick rotation.lookups.length) ∧
      rotation.run (.lookUp parameters :: events) = some last ∧
      match Source.webRequest rotation.upstream parameters with
      | .ok (request, upstream) =>
        last.upstream = upstream ∧ last.request rotation.lookups.length = some request
      | .error failure => last.upstream = rotation.upstream ∧
        last.lookups[rotation.lookups.length]? = some ⟨parameters, .failed failure⟩ := by
  let began : Rotation :=
    { rotation with lookups := rotation.lookups ++ [⟨parameters, firstStage parameters⟩] }
  have hbegin (events : List RotationEvent) :
      rotation.run (.lookUp parameters :: events) = began.run events := rfl
  have hnew : began.lookups[rotation.lookups.length]? =
      some ⟨parameters, firstStage parameters⟩ := List.getElem?_concat_length
  rw [webRequest_eq]
  unfold firstStage at hnew
  cases hpath : pathOf parameters with
  | error failure =>
      rw [hpath] at hnew
      exact ⟨[], began, by simp, hbegin [], rfl, hnew⟩
  | ok path =>
      rw [hpath] at hnew
      obtain ⟨last, hrun, hasked, hfailed⟩ := run_goThrough hnew
      refine ⟨_, last, ?_, (hbegin _).trans hrun, ?_⟩
      · intro event hevent
        rw [goThrough, List.mem_append, List.mem_singleton] at hevent
        exact hevent.imp_left List.eq_of_mem_replicate
      · cases hpick : rotation.upstream.pick with
        | none => simpa [bind, Except.bind, hpick] using hfailed hpick
        | some picked => simpa [bind, Except.bind, hpick] using hasked _ _ hpick

/-! ## The main statement -/

/-- What holds of hosts that many lookups share. -/
structure Rotates (built : Upstream) (events : List RotationEvent) (after : Rotation) : Prop where
  /-- The cursor counts the lookups that have picked a host; those that fail do not count. -/
  kept : Kept built after
  /-- Nothing but a pick moves the cursor, and it picks from what the lookup has found, however many
  hosts that are. -/
  moves : ∀ event next, after.step event = some next →
    (next.upstream.cursor = after.upstream.cursor ∧ next.picks = after.picks) ∨
      ∃ lookup parameters path looked found place, event = .pick lookup ∧
        after.lookups[lookup]? = some ⟨parameters, .looking path looked found⟩ ∧
          found[after.upstream.cursor % found.length]? = some place ∧
            next.picks = after.picks ++ [(lookup, place)]
  /-- Each host was as the lookup says when the lookup looked at it: the one that it asks was healthy,
  and none was if it has failed for want of one. -/
  reads : ∀ (lookup : Nat) parameters stage,
    after.lookups[lookup]? = some ⟨parameters, stage⟩ →
      Known built.hosts.length (HasRead built events lookup) parameters stage
  /-- A lookup under way can always go on. -/
  goesOn : ∀ (lookup : Nat) parameters path looked found,
    after.lookups[lookup]? = some ⟨parameters, .looking path looked found⟩ →
      (looked < built.hosts.length ∧ (after.look lookup).isSome) ∨
        (built.hosts.length ≤ looked ∧ (after.pick lookup).isSome)
  /-- Alone, a lookup does what a lookup in the web source does. -/
  alone : ∀ parameters, ∃ events last, (∀ event ∈ events, event = .look after.lookups.length ∨
      event = .pick after.lookups.length) ∧
    after.run (.lookUp parameters :: events) = some last ∧
      match Source.webRequest after.upstream parameters with
      | .ok (request, upstream) =>
        last.upstream = upstream ∧ last.request after.lookups.length = some request
      | .error failure => last.upstream = after.upstream ∧
        last.lookups[after.lookups.length]? = some ⟨parameters, .failed failure⟩
  /-- From now on, as long as the same hosts are healthy, they are picked in turn. -/
  turned : ∀ more later, after.run more = some later → after.Steady more → Turned after later

theorem moves_of_step {rotation next : Rotation} {event : RotationEvent}
    (hstep : rotation.step event = some next) :
    (next.upstream.cursor = rotation.upstream.cursor ∧ next.picks = rotation.picks) ∨
      ∃ lookup parameters path looked found place, event = .pick lookup ∧
        rotation.lookups[lookup]? = some ⟨parameters, .looking path looked found⟩ ∧
          found[rotation.upstream.cursor % found.length]? = some place ∧
            next.picks = rotation.picks ++ [(lookup, place)] := by
  cases changes_of_step hstep with
  | began | looked | gaveUp => exact .inl ⟨rfl, rfl⟩
  | picked hlookup _ hplace => exact .inr ⟨_, _, _, _, _, _, rfl, hlookup, hplace, rfl⟩
  | checked place succeeded => exact .inl ⟨Upstream.cursor_observe _ _ _, rfl⟩

/-- **Healthy hosts take turns, whatever lookups and checks do at the same time.** -/
theorem rotates_of_run {uri : String} (hparse : Upstream.parse uri = .ok built)
    (hrun : (start built).run events = some after) : Rotates built events after := by
  have hcursor := (Upstream.unchecked_of_parse hparse).2
  have hkept := kept_of_run hcursor hrun
  have hknown := known_of_run hcursor hrun
  constructor
  case kept => exact hkept
  case moves => exact fun event next => moves_of_step
  case reads => exact hknown
  case goesOn =>
    intro lookup parameters path looked found hlookup
    rw [← hkept.length_hosts]
    exact goesOn hlookup
  case alone => exact run_alone after
  case turned =>
    intro more later hmore hsteady
    rw [← hkept.length_hosts] at hknown
    obtain ⟨hin, hlater⟩ := inTurn_of_run hkept (inTurn_refl hknown) hmore hsteady
    exact hin.turned hkept hlater

/-- Only checks change which hosts are healthy. -/
theorem steady_of_forall {events : List RotationEvent}
    (hevents : ∀ place succeeded, RotationEvent.check place succeeded ∉ events) :
    before.Steady events := by
  rintro first rest moment rfl hmoment
  have hsame : (∀ place succeeded, RotationEvent.check place succeeded ∉ first) →
      moment.upstream.hosts = before.upstream.hosts := by
    refine run_induction (motive := fun events state =>
      (∀ place succeeded, RotationEvent.check place succeeded ∉ events) →
        state.upstream.hosts = before.upstream.hosts) (fun _ => rfl) ?_ hmoment
    intro events event state next _ hearlier hstep hnone
    have hstate := hearlier fun place succeeded hmem =>
      hnone place succeeded (List.mem_append_left _ hmem)
    cases changes_of_step hstep with
    | began | looked | gaveUp | picked => exact hstate
    | checked place succeeded => exact absurd (by simp) (hnone place succeeded)
  have hfirst := hsame fun place succeeded hmem =>
    hevents place succeeded (List.mem_append_left _ hmem)
  unfold Upstream.healthyPlaces
  rw [hfirst]
  refine List.filter_congr fun place _ => ?_
  rw [Upstream.healthyAt, Upstream.healthyAt, hfirst]

/-- Three hosts that have not been checked yet. -/
def threeHosts : Upstream :=
  ⟨[⟨"http://a", false⟩, ⟨"http://b", false⟩, ⟨"http://c", false⟩], "/ping", 0⟩

/-- The first and the last host turn out to be healthy. -/
def threeChecked : Rotation :=
  ⟨⟨[⟨"http://a", true⟩, ⟨"http://b", false⟩, ⟨"http://c", true⟩], "/ping", 0⟩, [], []⟩

/-- Two lookups go through three hosts at the same time, and the one that begins last picks first.
A lookup without parameters begins in between. -/
def twoLookups : List RotationEvent :=
  [.lookUp ["/x"], .look 0, .lookUp [], .lookUp ["/y"], .look 2, .look 0, .look 2, .look 0, .look 2,
    .pick 2, .pick 0]

theorem rotates_two_lookups :
    Upstream.parse "http://a,b,c/ping" = .ok threeHosts ∧
      (start threeHosts).run [.check 0 true, .check 2 true] = some threeChecked ∧
        Rotates threeHosts [.check 0 true, .check 2 true] threeChecked ∧
          ∃ later, threeChecked.run twoLookups = some later ∧ later.picks = [(2, 0), (0, 2)] ∧
            Turned threeChecked later := by
  have hparse : Upstream.parse "http://a,b,c/ping" = .ok threeHosts := rfl
  have hrun : (start threeHosts).run [.check 0 true, .check 2 true] = some threeChecked := rfl
  have hrotates := rotates_of_run hparse hrun
  have hpicks : (threeChecked.run twoLookups).map (·.picks) = some [(2, 0), (0, 2)] := rfl
  obtain ⟨later, hlater, hpicks⟩ := Option.map_eq_some_iff.mp hpicks
  have hsteady : threeChecked.Steady twoLookups := steady_of_forall (by simp [twoLookups])
  exact ⟨hparse, hrun, hrotates, later, hlater, hpicks, hrotates.turned _ _ hlater hsteady⟩

end Rotation

end ImageChain
