import Mathlib.Data.List.Chain
import Mathlib.Data.List.Nodup
import ImageChain.Source.Build

/-!
# Health events and health

A listener is told when a check changes the state of a host.  Whether a check
does that depends on the check of the same host before it, while the checks of
all hosts finish in any order and their events come mixed.

The one induction is over the checks as they finish, `observeAll_host`: seen from
one place, everything that happens at other places can be left out, and what is
left over is the changes of the host's own outcomes.  A round of checks adds one
outcome to each place, in whatever order its checks finish.
-/

namespace ImageChain.Upstream

/-! ## Outcomes and changes -/

/-- Whether a check that got this reply, or none, has succeeded. -/
def succeeded : Except String WebReply → Bool
  | .ok reply => Status.isSuccess reply.status
  | .error _ => false

theorem succeeded_iff {answer : Except String WebReply} :
    succeeded answer = true ↔
      ∃ reply, answer = .ok reply ∧ 200 ≤ reply.status ∧ reply.status < 300 := by
  cases answer with
  | error reason => simp [succeeded]
  | ok reply => simp [succeeded, Status.isSuccess]

/-- The states that are told of a host that had the first state: one for each outcome that is not
the one before it. -/
def changesFrom (healthy : Bool) (outcomes : List Bool) : List HostStatus :=
  (((healthy :: outcomes).zip outcomes).filter fun pair => pair.1 != pair.2).map
    fun pair => .ofOutcome pair.2

theorem changesFrom_nil (healthy : Bool) : changesFrom healthy [] = [] := rfl

theorem changesFrom_cons (healthy outcome : Bool) (rest : List Bool) :
    changesFrom healthy (outcome :: rest) =
      (if healthy = outcome then [] else [.ofOutcome outcome]) ++ changesFrom outcome rest := by
  by_cases h : healthy = outcome
  · simp [changesFrom, h]
  · simp [changesFrom, h]

theorem ofOutcome_ne {first second : Bool} (h : first ≠ second) :
    HostStatus.ofOutcome first ≠ .ofOutcome second := by
  revert h
  cases first <;> cases second <;> simp [HostStatus.ofOutcome]

/-- With the first state in front, no state is the one before it. -/
theorem isChain_changesFrom (healthy : Bool) (outcomes : List Bool) :
    (HostStatus.ofOutcome healthy :: changesFrom healthy outcomes).IsChain (· ≠ ·) := by
  induction outcomes generalizing healthy with
  | nil => simp [changesFrom_nil]
  | cons outcome rest ih =>
      rw [changesFrom_cons]
      by_cases h : healthy = outcome
      · subst h
        simpa using ih healthy
      · simpa [h, ofOutcome_ne h] using ih outcome

/-- The last state is that of the last outcome. -/
theorem getLastD_changesFrom (healthy : Bool) (outcomes : List Bool) :
    (changesFrom healthy outcomes).getLastD (.ofOutcome healthy) =
      .ofOutcome (outcomes.getLastD healthy) := by
  induction outcomes generalizing healthy with
  | nil => rfl
  | cons outcome rest ih =>
      rw [changesFrom_cons, List.getLastD_cons]
      by_cases h : healthy = outcome
      · subst h
        simpa only [if_true, List.nil_append] using ih healthy
      · rw [if_neg h, List.singleton_append, List.getLastD_cons]
        exact ih outcome

/-! ## One host among many -/

/-- The outcomes of the checks of a place, in the order in which they finish. -/
def outcomesAt (place : Nat) (checks : List (Nat × Bool)) : List Bool :=
  (checks.filter fun check => check.1 = place).map (·.2)

/-- The states that are told of a place. -/
def statusesAt (place : Nat) (events : List HostEvent) : List HostStatus :=
  (events.filter fun event => event.place = place).map (·.status)

theorem outcomesAt_append (place : Nat) (first second : List (Nat × Bool)) :
    outcomesAt place (first ++ second) = outcomesAt place first ++ outcomesAt place second := by
  simp [outcomesAt]

theorem statusesAt_append (place : Nat) (first second : List HostEvent) :
    statusesAt place (first ++ second) = statusesAt place first ++ statusesAt place second := by
  simp [statusesAt]

theorem hosts_observe (upstream : Upstream) (place : Nat) (outcome : Bool) :
    (upstream.observe place outcome).1.hosts =
      upstream.hosts.modify place fun host => { host with healthy := outcome } := by
  unfold observe
  cases hhost : upstream.hosts[place]? with
  | none =>
      have hlength : upstream.hosts.length ≤ place := List.getElem?_eq_none_iff.mp hhost
      exact (List.modify_eq_self hlength).symm
  | some host =>
      refine List.ext_getElem? fun other => ?_
      by_cases h : place = other
      · subst h
        have hlength : place < upstream.hosts.length :=
          (List.getElem?_eq_some_iff.mp hhost).choose
        rw [List.getElem?_set_self hlength, List.getElem?_modify_eq, hhost]
        rfl
      · simp [h]

/-- A check tells of its host if its outcome is not the host's state, and of no other host. -/
theorem event_observe {upstream : Upstream} {place : Nat} {host : Host}
    (hhost : upstream.hosts[place]? = some host) (outcome : Bool) :
    (upstream.observe place outcome).2 =
      if host.healthy = outcome then none
      else some ⟨place, host.baseUrl, .ofOutcome outcome⟩ := by
  simp only [observe, hhost]

theorem event_observe_of_none {upstream : Upstream} {place : Nat}
    (hnone : upstream.hosts[place]? = none) (outcome : Bool) :
    (upstream.observe place outcome).2 = none := by
  simp only [observe, hnone]

theorem statusesAt_observe {upstream : Upstream} {place : Nat} {host : Host}
    (hhost : upstream.hosts[place]? = some host) (outcome : Bool) :
    statusesAt place (upstream.observe place outcome).2.toList =
      if host.healthy = outcome then [] else [.ofOutcome outcome] := by
  rw [event_observe hhost]
  split <;> simp [statusesAt]

theorem statusesAt_observe_of_ne (upstream : Upstream) {place other : Nat} (hne : other ≠ place)
    (outcome : Bool) : statusesAt place (upstream.observe other outcome).2.toList = [] := by
  cases hhost : upstream.hosts[other]? with
  | none => simp [event_observe_of_none hhost, statusesAt]
  | some host =>
      rw [event_observe hhost]
      split <;> simp [statusesAt, hne]

theorem observeAll_cons (upstream : Upstream) (place : Nat) (outcome : Bool)
    (rest : List (Nat × Bool)) :
    upstream.observeAll ((place, outcome) :: rest) =
      (((upstream.observe place outcome).1.observeAll rest).1,
        (upstream.observe place outcome).2.toList ++
          ((upstream.observe place outcome).1.observeAll rest).2) := rfl

theorem observeAll_append (upstream : Upstream) (first second : List (Nat × Bool)) :
    upstream.observeAll (first ++ second) =
      (((upstream.observeAll first).1.observeAll second).1,
        (upstream.observeAll first).2 ++ ((upstream.observeAll first).1.observeAll second).2) := by
  induction first generalizing upstream with
  | nil => rfl
  | cons check rest ih =>
      rw [List.cons_append, observeAll_cons, observeAll_cons, ih, List.append_assoc]

/-- After any checks, a host has the state of its last one, and what was told of it is how its own
outcomes changed. -/
theorem observeAll_host {upstream : Upstream} {place : Nat} {host : Host}
    (hhost : upstream.hosts[place]? = some host) (checks : List (Nat × Bool)) :
    (upstream.observeAll checks).1.hosts[place]? =
        some { host with healthy := (outcomesAt place checks).getLastD host.healthy } ∧
      statusesAt place (upstream.observeAll checks).2 =
        changesFrom host.healthy (outcomesAt place checks) := by
  induction checks generalizing upstream host with
  | nil => exact ⟨hhost, rfl⟩
  | cons check rest ih =>
      obtain ⟨other, outcome⟩ := check
      rw [observeAll_cons, statusesAt_append]
      by_cases h : other = place
      · subst h
        have hnext : (upstream.observe other outcome).1.hosts[other]? =
            some { host with healthy := outcome } := by
          simp [hosts_observe, hhost]
        obtain ⟨hstate, hstatuses⟩ := ih hnext
        have hown : outcomesAt other ((other, outcome) :: rest) =
            outcome :: outcomesAt other rest := by simp [outcomesAt]
        rw [hown, List.getLastD_cons, changesFrom_cons, statusesAt_observe hhost]
        exact ⟨hstate, by rw [hstatuses]⟩
      · -- a check elsewhere neither changes the host nor tells of it
        have hnext : (upstream.observe other outcome).1.hosts[place]? = some host := by
          simp [hosts_observe, hhost, h]
        obtain ⟨hstate, hstatuses⟩ := ih hnext
        have hown : outcomesAt place ((other, outcome) :: rest) = outcomesAt place rest := by
          simp [outcomesAt, h]
        rw [hown, statusesAt_observe_of_ne upstream h, List.nil_append]
        exact ⟨hstate, hstatuses⟩

theorem baseUrls_observe (upstream : Upstream) (place : Nat) (outcome : Bool) :
    (upstream.observe place outcome).1.hosts.map (·.baseUrl) =
      upstream.hosts.map (·.baseUrl) := by
  rw [hosts_observe]
  refine List.ext_getElem? fun other => ?_
  by_cases h : place = other
  · subst h
    cases hhost : upstream.hosts[place]? <;> simp [hhost]
  · simp [h]

theorem baseUrls_observeAll (upstream : Upstream) (checks : List (Nat × Bool)) :
    (upstream.observeAll checks).1.hosts.map (·.baseUrl) =
      upstream.hosts.map (·.baseUrl) := by
  induction checks generalizing upstream with
  | nil => rfl
  | cons check rest ih => rw [observeAll_cons, ih, baseUrls_observe]

theorem length_observeAll (upstream : Upstream) (checks : List (Nat × Bool)) :
    (upstream.observeAll checks).1.hosts.length = upstream.hosts.length := by
  simpa using congrArg List.length (baseUrls_observeAll upstream checks)

/-- What is told is told of a host, by its address. -/
theorem named_of_mem_observeAll {upstream : Upstream} {checks : List (Nat × Bool)}
    {event : HostEvent} (hevent : event ∈ (upstream.observeAll checks).2) :
    (upstream.hosts.map (·.baseUrl))[event.place]? = some event.baseUrl := by
  induction checks generalizing upstream with
  | nil => cases hevent
  | cons check rest ih =>
      obtain ⟨place, outcome⟩ := check
      rw [observeAll_cons, List.mem_append, Option.mem_toList] at hevent
      rcases hevent with hfirst | hrest
      · cases hhost : upstream.hosts[place]? with
        | none => simp [event_observe_of_none hhost] at hfirst
        | some host =>
            rw [event_observe hhost] at hfirst
            split at hfirst
            · cases hfirst
            · cases hfirst
              simp [hhost]
      · rw [← baseUrls_observe upstream place outcome]
        exact ih hrest

/-- The hosts after any checks, in the same order. -/
theorem hosts_observeAll (upstream : Upstream) (checks : List (Nat × Bool)) :
    (upstream.observeAll checks).1.hosts = upstream.hosts.zipIdx.map fun (host, place) =>
      { host with healthy := (outcomesAt place checks).getLastD host.healthy } := by
  refine List.ext_getElem? fun place => ?_
  cases hhost : upstream.hosts[place]? with
  | some host => simp [(observeAll_host hhost checks).1, hhost]
  | none =>
      have hbound : upstream.hosts.length ≤ place := List.getElem?_eq_none_iff.mp hhost
      rw [List.getElem?_eq_none_iff.mpr (by rwa [length_observeAll]),
        List.getElem?_eq_none_iff.mpr (by simpa)]

/-! ## Rounds -/

/-- A round of checks of a number of hosts. -/
structure Round (count : Nat) where
  /-- The places in the order in which the checks finish. -/
  order : List Nat
  /-- Every host is checked once. -/
  complete : order.Perm (List.range count)
  /-- What comes back from the host in a place. -/
  reply : Nat → Except String WebReply

namespace Round

variable {count : Nat}

/-- Whether the check of a place succeeds. -/
def succeedsAt (round : Round count) (place : Nat) : Bool := succeeded (round.reply place)

/-- The checks of a round as they finish. -/
def checks (round : Round count) : List (Nat × Bool) :=
  round.order.map fun place => (place, round.succeedsAt place)

/-- Whatever the order, a round has one outcome for each place. -/
theorem outcomesAt_checks (round : Round count) {place : Nat} (hplace : place < count) :
    outcomesAt place round.checks = [round.succeedsAt place] := by
  have honce : round.order.count place = 1 := by
    rw [round.complete.count_eq]
    exact List.count_eq_one_of_mem List.nodup_range (List.mem_range.mpr hplace)
  have hown : round.order.filter (fun other => other = place) = [place] := by
    rw [List.filter_eq, honce]
    rfl
  calc outcomesAt place round.checks
      = (round.order.filter fun other => other = place).map round.succeedsAt := by
        simp only [outcomesAt, checks, List.filter_map, List.map_map]
        rfl
    _ = [round.succeedsAt place] := by rw [hown]; rfl

theorem outcomesAt_flatMap_checks (rounds : List (Round count)) {place : Nat}
    (hplace : place < count) :
    outcomesAt place (rounds.flatMap checks) = rounds.map (·.succeedsAt place) := by
  induction rounds with
  | nil => rfl
  | cons round rest ih =>
      rw [List.flatMap_cons, outcomesAt_append, round.outcomesAt_checks hplace, ih]
      rfl

end Round

/-- The hosts after some rounds of checks, and what was told of them. -/
def afterRounds (upstream : Upstream) {count : Nat} (rounds : List (Round count)) :
    Upstream × List HostEvent :=
  upstream.observeAll (rounds.flatMap Round.checks)

/-- Lookups in between only move the cursor, which has no part in checks. -/
theorem observeAll_cursor (upstream : Upstream) (cursor : Nat) (checks : List (Nat × Bool)) :
    { upstream with cursor := cursor }.observeAll checks =
      ({ (upstream.observeAll checks).1 with cursor := cursor },
        (upstream.observeAll checks).2) := by
  induction checks generalizing upstream with
  | nil => rfl
  | cons check rest ih =>
      obtain ⟨place, outcome⟩ := check
      have hobserve : { upstream with cursor := cursor }.observe place outcome =
          ({ (upstream.observe place outcome).1 with cursor := cursor },
            (upstream.observe place outcome).2) := by
        cases hhost : upstream.hosts[place]? <;> simp [observe, hhost]
      rw [observeAll_cons, observeAll_cons, hobserve, ih]

theorem afterRounds_concat (upstream : Upstream) {count : Nat} (rounds : List (Round count))
    (next : Round count) :
    upstream.afterRounds (rounds ++ [next]) =
      (((upstream.afterRounds rounds).1.observeAll next.checks).1,
        (upstream.afterRounds rounds).2 ++
          ((upstream.afterRounds rounds).1.observeAll next.checks).2) := by
  simp only [afterRounds, List.flatMap_append, observeAll_append, List.flatMap_singleton]

/-! ## Asking the hosts -/

section Asking

variable {ω : Type} (backends : Backends (StateM ω))

/-- What comes back when addresses are asked for one after the other. -/
inductive Answers : List String → ω → List (Except String WebReply) → ω → Prop where
  | nil (world : ω) : Answers [] world [] world
  | cons {url : String} {rest : List String} {world between after : ω}
      {answer : Except String WebReply} {answers : List (Except String WebReply)}
      (hget : (backends.get url).run world = (answer, between))
      (hrest : Answers rest between answers after) :
      Answers (url :: rest) world (answer :: answers) after

variable {backends}

theorem Answers.length_eq {urls : List String} {world after : ω}
    {answers : List (Except String WebReply)} (hanswers : Answers backends urls world answers after) :
    answers.length = urls.length := by
  induction hanswers with
  | nil => rfl
  | cons _ _ ih => simp [ih]

theorem run_ping {url : String} {world after : ω} {answer : Except String WebReply}
    (hget : (backends.get url).run world = (answer, after)) :
    (backends.ping url).run world = (succeeded answer, after) := by
  rw [Backends.ping, StateT.run_bind, hget]
  cases answer <;> rfl

theorem exists_answers (backends : Backends (StateM ω)) (hosts : List Host) (upstream : Upstream) (world : ω) :
    ∃ answers after, Answers backends (hosts.map upstream.pingUrl) world answers after ∧
      (hosts.mapM fun host => backends.ping (upstream.pingUrl host)).run world =
        (answers.map succeeded, after) := by
  induction hosts generalizing world with
  | nil => exact ⟨[], world, .nil world, rfl⟩
  | cons host rest ih =>
      rcases hget : (backends.get (upstream.pingUrl host)).run world with ⟨answer, between⟩
      obtain ⟨answers, after, hanswers, hrun⟩ := ih between
      refine ⟨answer :: answers, after, .cons hget hanswers, ?_⟩
      rw [List.mapM_cons, StateT.run_bind, run_ping hget]
      show StateT.run ((rest.mapM fun host => backends.ping (upstream.pingUrl host)) >>=
        fun outcomes => pure (succeeded answer :: outcomes)) between = _
      rw [StateT.run_bind, hrun]
      rfl

/-- A round in which the hosts are asked one after the other. -/
def Round.inOrder (count : Nat) (answers : List (Except String WebReply)) : Round count where
  order := List.range count
  complete := .refl _
  reply place := answers.getD place (.error "")

theorem Round.checks_inOrder (answers : List (Except String WebReply)) :
    (inOrder answers.length answers).checks =
      (answers.map succeeded).zipIdx.map fun (outcome, place) => (place, outcome) := by
  refine List.ext_getElem (by simp [checks, inOrder]) fun place hplace _ => ?_
  have hlt : place < answers.length := by simpa [checks, inOrder] using hplace
  simp [checks, inOrder, succeedsAt, hlt]

/-- The replies of a round are those that come back when its hosts are asked in turn. -/
def AskedInTurn (backends : Backends (StateM ω)) (upstream : Upstream) (world after : ω)
    {count : Nat} (round : Round count) : Prop :=
  ∃ answers, Answers backends (upstream.hosts.map upstream.pingUrl) world answers after ∧
    ∀ place < count, answers[place]? = some (round.reply place)

theorem run_checkAll (backends : Backends (StateM ω)) (upstream : Upstream) (world : ω) :
    ∃ (round : Round upstream.hosts.length) (after : ω),
      AskedInTurn backends upstream world after round ∧
        (upstream.checkAll backends.ping).run world =
          (upstream.observeAll round.checks, after) := by
  obtain ⟨answers, after, hanswers, hrun⟩ := exists_answers backends upstream.hosts
    upstream world
  have hlength : answers.length = upstream.hosts.length := by simpa using hanswers.length_eq
  refine ⟨.inOrder _ answers, after, ⟨answers, hanswers, ?_⟩, ?_⟩
  · intro place hplace
    have hlt : place < answers.length := by omega
    simp [Round.inOrder, hlt]
  · rw [checkAll, StateT.run_bind, hrun, ← hlength, Round.checks_inOrder]
    rfl

theorem run_mapM_lift {m : Type → Type} [Monad m] [LawfulMonad m] {α β : Type} (f : α → m β)
    (items : List α) :
    (items.mapM fun item => (ExceptT.lift (f item) : ExceptT Failure m β)).run =
      Except.ok <$> items.mapM f := by
  induction items with
  | nil => simp
  | cons item rest ih => simp [ih, Except.map]

/-- Hosts that can be read from an address are checked once before anything else is done. -/
theorem run_connect {m : Type → Type} [Monad m] [LawfulMonad m] (check : String → m Bool)
    {uri : String} {built : Upstream} (hparse : parse uri = .ok built) {interval : Duration}
    (hinterval : interval ≠ .zero) :
    (connect check uri interval).run = Except.ok <$> built.checkAll check := by
  simp only [connect, if_neg hinterval, hparse]
  rw [ExceptT.run_bind, ExceptT.run_mk, pure_bind]
  simp [checkAll, run_mapM_lift, Except.map]

/-- Hosts that are read from an address have not been checked or picked yet. -/
theorem unchecked_of_parse {uri : String} {built : Upstream} (hparse : parse uri = .ok built) :
    (∀ host ∈ built.hosts, host.healthy = false) ∧ built.cursor = 0 := by
  unfold parse at hparse
  split at hparse
  · cases hparse
  · dsimp only at hparse
    split at hparse
    · cases hparse
    · cases hparse
      simp

end Asking

/-! ## The main statement -/

/-- What was told in some rounds of checks, and what the hosts are like afterwards. -/
structure Monitored (built : Upstream) (rounds : List (Round built.hosts.length))
    (after : Upstream) (events : List HostEvent) : Prop where
  /-- A host's events are the outcomes that are not the one before, from unhealthy on. -/
  changes : ∀ place < built.hosts.length,
    statusesAt place events = changesFrom false (rounds.map (·.succeedsAt place))
  /-- They begin with healthy. -/
  begins : ∀ place < built.hosts.length, ∀ status ∈ (statusesAt place events).head?,
    status = .healthy
  /-- None is the one before it. -/
  alternates : ∀ place < built.hosts.length, (statusesAt place events).IsChain (· ≠ ·)
  /-- The last one, if there is any, is the state that the host is in. -/
  last : ∀ place host, after.hosts[place]? = some host →
    (statusesAt place events).getLastD .sick = .ofOutcome host.healthy
  /-- Every event names its host. -/
  named : ∀ event ∈ events,
    (built.hosts.map (·.baseUrl))[event.place]? = some event.baseUrl
  /-- A check succeeds if a reply comes and its status is one of success. -/
  succeeds : ∀ round ∈ rounds, ∀ place, round.succeedsAt place = true ↔
    ∃ reply, round.reply place = .ok reply ∧ 200 ≤ reply.status ∧ reply.status < 300
  /-- The healthy hosts are those whose check in the last round succeeded, in order. -/
  healthy : after.healthyHosts = (built.hosts.zipIdx.filter fun (_, place) =>
    rounds.getLast?.any (·.succeedsAt place)).map (·.1.baseUrl)

/-- After some rounds the healthy hosts are those whose check in the last round succeeded. -/
theorem healthyHosts_observeAll_checks {built : Upstream}
    (hbuilt : ∀ host ∈ built.hosts, host.healthy = false)
    (rounds : List (Round built.hosts.length)) :
    (built.observeAll (rounds.flatMap Round.checks)).1.healthyHosts =
      (built.hosts.zipIdx.filter fun (_, place) =>
        rounds.getLast?.any (·.succeedsAt place)).map (·.1.baseUrl) := by
  have hlatest : ∀ entry ∈ built.hosts.zipIdx,
      (outcomesAt entry.2 (rounds.flatMap Round.checks)).getLastD entry.1.healthy =
        rounds.getLast?.any (·.succeedsAt entry.2) := by
    rintro ⟨host, place⟩ hentry
    have hplace : place < built.hosts.length := by
      simpa using List.snd_lt_of_mem_zipIdx hentry
    have hhost : host ∈ built.hosts := List.fst_mem_of_mem_zipIdx hentry
    rw [Round.outcomesAt_flatMap_checks rounds hplace, hbuilt host hhost]
    cases hlast : rounds.getLast? <;> simp [hlast]
  rw [healthyHosts, hosts_observeAll, List.filter_map, List.map_map]
  exact congrArg _ (List.filter_congr hlatest)

theorem monitored_afterRounds {built : Upstream}
    (hbuilt : ∀ host ∈ built.hosts, host.healthy = false)
    (rounds : List (Round built.hosts.length)) :
    Monitored built rounds (built.afterRounds rounds).1 (built.afterRounds rounds).2 := by
  unfold afterRounds
  have houtcomes : ∀ place < built.hosts.length,
      outcomesAt place (rounds.flatMap Round.checks) = rounds.map (·.succeedsAt place) :=
    fun place hplace => Round.outcomesAt_flatMap_checks rounds hplace
  have hchanges : ∀ place < built.hosts.length,
      statusesAt place (built.observeAll (rounds.flatMap Round.checks)).2 =
        changesFrom false (rounds.map (·.succeedsAt place)) := by
    intro place hplace
    have hhost := List.getElem?_eq_getElem hplace
    have hfalse := hbuilt _ (List.getElem_mem hplace)
    rw [(observeAll_host hhost _).2, hfalse, houtcomes place hplace]
  have hchain : ∀ place < built.hosts.length, (HostStatus.sick ::
      statusesAt place (built.observeAll (rounds.flatMap Round.checks)).2).IsChain (· ≠ ·) := by
    intro place hplace
    rw [hchanges place hplace]
    exact isChain_changesFrom false _
  constructor
  case changes => exact hchanges
  case begins =>
    intro place hplace status hstatus
    have hne : HostStatus.sick ≠ status := (hchain place hplace).rel_head? hstatus
    cases status with
    | healthy => rfl
    | sick => exact absurd rfl hne
  case alternates => exact fun place hplace => (hchain place hplace).tail
  case last =>
    intro place host hhost
    have hplace : place < built.hosts.length := by
      rw [← length_observeAll built (rounds.flatMap Round.checks)]
      exact (List.getElem?_eq_some_iff.mp hhost).choose
    have hfalse := hbuilt _ (List.getElem_mem hplace)
    have hstate := (observeAll_host (List.getElem?_eq_getElem hplace)
      (rounds.flatMap Round.checks)).1
    rw [hhost, houtcomes place hplace, hfalse, Option.some.injEq] at hstate
    rw [hchanges place hplace, hstate]
    exact getLastD_changesFrom false _
  case named => exact fun event hevent => named_of_mem_observeAll hevent
  case succeeds => exact fun round _ place => succeeded_iff
  case healthy => exact healthyHosts_observeAll_checks hbuilt rounds

/-- **The listener is told exactly how the outcomes of a host's checks change, and the hosts that
count as healthy are those whose last check succeeded.**  The rounds are any, and their checks finish
in any order.  The first one is made when the hosts are connected, and later ones continue it,
however many hosts were picked in between. -/
theorem monitored_of_parse {uri : String} {built : Upstream} (hparse : parse uri = .ok built) :
    (∀ rounds : List (Round built.hosts.length),
      Monitored built rounds (built.afterRounds rounds).1 (built.afterRounds rounds).2) ∧
    ∀ {ω : Type} (backends : Backends (StateM ω)) (world : ω),
      (∀ interval : Duration, interval ≠ .zero →
        ∃ (first : Round built.hosts.length) (after : ω),
          AskedInTurn backends built world after first ∧
            (connect backends.ping uri interval).run.run world =
              (.ok (built.afterRounds [first]), after)) ∧
      ∀ (rounds : List (Round built.hosts.length)) (picks : Nat),
        ∃ (next : Round built.hosts.length) (after : ω) (told : List HostEvent),
          AskedInTurn backends { (built.afterRounds rounds).1 with cursor := picks } world after
              next ∧
            ({ (built.afterRounds rounds).1 with cursor := picks }.checkAll backends.ping).run
                world =
              (({ (built.afterRounds (rounds ++ [next])).1 with cursor := picks }, told), after) ∧
            (built.afterRounds (rounds ++ [next])).2 = (built.afterRounds rounds).2 ++ told := by
  refine ⟨monitored_afterRounds (unchecked_of_parse hparse).1, fun backends world => ⟨?_, ?_⟩⟩
  · intro interval hinterval
    obtain ⟨first, after, hasked, hrun⟩ := run_checkAll backends built world
    refine ⟨first, after, hasked, ?_⟩
    have hfirst : built.afterRounds [first] = built.observeAll first.checks := by
      simp [afterRounds]
    rw [run_connect _ hparse hinterval, StateT.run_map, hrun, hfirst]
    rfl
  · intro rounds picks
    have hlength : { (built.afterRounds rounds).1 with cursor := picks }.hosts.length =
        built.hosts.length := length_observeAll built _
    have hround := run_checkAll backends { (built.afterRounds rounds).1 with cursor := picks } world
    rw [hlength] at hround
    obtain ⟨next, after, hasked, hrun⟩ := hround
    refine ⟨next, after, ((built.afterRounds rounds).1.observeAll next.checks).2, hasked, ?_, ?_⟩
    · rw [hrun, observeAll_cursor, afterRounds_concat]
    · rw [afterRounds_concat]

/-- Two hosts that have not been checked yet. -/
def twoHosts : Upstream := ⟨[⟨"http://a:1", false⟩, ⟨"http://b:2", false⟩], "/ping", 0⟩

/-- A round of checks of two hosts. -/
def roundOfTwo (order : List Nat) (complete : order.Perm (List.range 2)) (first second : Nat) :
    Round twoHosts.hosts.length where
  order := order
  complete := complete
  reply place := .ok ⟨if place = 0 then first else second, .empty⟩

/-- The first host gives up in the third round, and the second one answers from the second on. -/
def threeRounds : List (Round twoHosts.hosts.length) :=
  [roundOfTwo [1, 0] (by decide) 200 404, roundOfTwo [0, 1] (.refl _) 200 204,
    roundOfTwo [1, 0] (by decide) 503 200]

theorem monitored_two_hosts :
    parse "http://a:1,b:2/ping" = .ok twoHosts ∧
      (twoHosts.afterRounds threeRounds).2 =
        [⟨0, "http://a:1", .healthy⟩, ⟨1, "http://b:2", .healthy⟩, ⟨0, "http://a:1", .sick⟩] ∧
      (twoHosts.afterRounds threeRounds).1.healthyHosts = ["http://b:2"] ∧
      Monitored twoHosts threeRounds (twoHosts.afterRounds threeRounds).1
        (twoHosts.afterRounds threeRounds).2 := by
  have hparse : parse "http://a:1,b:2/ping" = .ok twoHosts := rfl
  exact ⟨hparse, by decide, by decide, (monitored_of_parse hparse).1 threeRounds⟩

end ImageChain.Upstream
