import ImageChain.Chain.Parser

/-!
# What has happened to a registry

A registry answers from what was written to it, so what it should answer can be
said without looking at it: `Stands` finds in the list of occurrences the value
that was last registered under a name and has not been removed since.  `Fits`
says of each kind of occurrence what it owes to those before it.

Some occurrences belong together, although others come in between: the visits of
one enumeration, and the values that are closed in one go.  They have the number
of occurrences before they began in common, so they can be told apart from the
ones of an enumeration inside.
-/

namespace ImageChain.Registry

variable {σ : Type}

/-- Something that happens to a registry, or to a job of a chain that was read with it.  Registering
and removing hand back the value before.  A part of an enumeration has its number, and so has a value
that is closed together with others. -/
inductive Occurrence (σ : Type) where
  | registered (name : String) (value : σ) (previous : Option σ)
  | removed (name : String) (previous : Option σ)
  | answered (name : String) (answer : Except Failure σ)
  | listed (names : List String)
  | counted (count : Nat)
  | visited (number : Nat) (name : String) (value : σ)
  | enumerated (number : Nat)
  | closing (number : Nat) (value : σ)
  | closedAll (number : Nat)
  | parsed (chain : Except Failure (List (Step σ)))
  | ran (job : Nat) (asked : List (σ × List String))

namespace Occurrence

/-- The name that has another binding afterwards. -/
def writes : Occurrence σ → Option String
  | registered name _ _ => some name
  | removed name _ => some name
  | _ => none

/-- What the occurrence is a part of. -/
def number : Occurrence σ → Option Nat
  | visited number _ _ => some number
  | closing number _ => some number
  | _ => none

/-- The jobs that there are on account of the occurrence. -/
def jobs : Occurrence σ → List (Step σ)
  | parsed (.ok steps) => steps
  | _ => []

end Occurrence

/-! ## What the occurrences say -/

/-- The value was the last one that was registered under the name, which has not been removed since. -/
def Stands (log : List (Occurrence σ)) (name : String) (value : σ) : Prop :=
  ∃ before previous after, log = before ++ .registered name value previous :: after ∧
    ∀ later ∈ after, later.writes ≠ some name

/-- The value that stands under a name, if there is one. -/
def Binds (log : List (Occurrence σ)) (name : String) (bound : Option σ) : Prop :=
  ∀ value, bound = some value ↔ Stands log name value

/-- All names that something stands under, each with that value and each once. -/
structure Snapshot (log : List (Occurrence σ)) (entries : List (String × σ)) : Prop where
  /-- No name occurs twice. -/
  distinct : (entries.map Prod.fst).Nodup
  /-- The entries are those that stand. -/
  mem_iff : ∀ name value, (name, value) ∈ entries ↔ Stands log name value

/-- All jobs, in the order in which their chains were read. -/
def jobs (log : List (Occurrence σ)) : List (Step σ) :=
  log.flatMap Occurrence.jobs

/-- The parts of what has a number. -/
def numbered (number : Nat) (log : List (Occurrence σ)) : List (Occurrence σ) :=
  log.filter fun occurrence => occurrence.number = some number

/-- What a step asks sources for when it is run, if its chain was read after `log`. -/
inductive Asks (log : List (Occurrence σ)) : Step σ → List (σ × List String) → Prop where
  /-- A lookup asks the source that stood under its name then. -/
  | find {name : String} {value : σ} (hstands : Stands log name value)
      (parameters : List String) : Asks log (.find name value parameters) [(value, parameters)]
  /-- Other steps ask none. -/
  | other {step : Step σ} (hother : ∀ name value parameters, step ≠ .find name value parameters) :
      Asks log step []

/-- What an occurrence owes to those before it. -/
def Fits (earlier : List (Occurrence σ)) : Occurrence σ → Prop
  | .registered name _ previous => Binds earlier name previous
  | .removed name previous => Binds earlier name previous
  | .answered name answer =>
    (∀ value, answer = .ok value ↔ Stands earlier name value) ∧
      ∀ failure, answer = .error failure → failure = .notFound name
  | .listed names => ∃ entries, Snapshot earlier entries ∧ names = entries.map Prod.fst
  | .counted count => ∃ entries, Snapshot earlier entries ∧ count = entries.length
  | .enumerated number => ∃ entries, Snapshot (earlier.take number) entries ∧
      numbered number earlier = entries.map fun entry => .visited number entry.1 entry.2
  | .closedAll number => ∃ entries, Snapshot (earlier.take number) entries ∧
      numbered number earlier = entries.map fun entry => .closing number entry.2
  -- jobs are counted through all chains, so those of earlier ones come off the number
  | .ran job asked => ∃ before steps after step,
      earlier = before ++ .parsed (.ok steps) :: after ∧
        (jobs before).length ≤ job ∧ steps[job - (jobs before).length]? = some step ∧
        Asks before step asked
  | .parsed chain => ∀ steps, chain = .ok steps → ∀ name value parameters,
      .find name value parameters ∈ steps → Stands earlier name value
  | .visited _ _ _ | .closing _ _ => True

/-- Every occurrence fits those before it. -/
def Faithful (log : List (Occurrence σ)) : Prop :=
  ∀ before occurrence after, log = before ++ occurrence :: after → Fits before occurrence

/-! ## One more occurrence -/

theorem not_stands_nil (name : String) (value : σ) : ¬ Stands [] name value := by
  rintro ⟨before, previous, after, hlog, -⟩
  exact absurd hlog.symm (List.append_ne_nil_of_right_ne_nil _ (List.cons_ne_nil _ _))

theorem concat_eq_append_cons_iff {α : Type} {log before after : List α} {last item : α} :
    log ++ [last] = before ++ item :: after ↔
      (after = [] ∧ last = item ∧ log = before) ∨
        ∃ rest, after = rest ++ [last] ∧ log = before ++ item :: rest := by
  constructor
  · intro heq
    rcases List.eq_nil_or_concat after with rfl | ⟨rest, other, rfl⟩
    · obtain ⟨hlog, hlast⟩ := List.append_inj' heq rfl
      exact .inl ⟨rfl, List.cons.inj hlast |>.1, hlog⟩
    · rw [List.concat_eq_append, ← List.cons_append, ← List.append_assoc] at heq
      obtain ⟨hlog, hlast⟩ := List.append_inj' heq rfl
      exact .inr ⟨rest, by rw [(List.cons.inj hlast).1, List.concat_eq_append], hlog⟩
  · rintro (⟨rfl, rfl, rfl⟩ | ⟨rest, rfl, rfl⟩)
    · rfl
    · rw [List.append_assoc, List.cons_append]

theorem stands_concat {log : List (Occurrence σ)} {last : Occurrence σ} {name : String}
    {value : σ} :
    Stands (log ++ [last]) name value ↔
      (∃ previous, last = .registered name value previous) ∨
        last.writes ≠ some name ∧ Stands log name value := by
  constructor
  · rintro ⟨before, previous, after, hlog, hafter⟩
    rcases concat_eq_append_cons_iff.mp hlog with ⟨-, hlast, -⟩ | ⟨rest, rfl, hrest⟩
    · exact .inl ⟨previous, hlast⟩
    · rw [List.forall_mem_append, List.forall_mem_singleton] at hafter
      exact .inr ⟨hafter.2, before, previous, rest, hrest, hafter.1⟩
  · rintro (⟨previous, rfl⟩ | ⟨hlast, before, previous, after, rfl, hafter⟩)
    · exact ⟨log, previous, [], rfl, List.forall_mem_nil _⟩
    · refine ⟨before, previous, after ++ [last], by rw [List.append_assoc, List.cons_append], ?_⟩
      rw [List.forall_mem_append, List.forall_mem_singleton]
      exact ⟨hafter, hlast⟩

theorem stands_concat_of_writes_eq_none {log : List (Occurrence σ)} {last : Occurrence σ}
    (hlast : last.writes = none) (name : String) (value : σ) :
    Stands (log ++ [last]) name value ↔ Stands log name value := by
  rw [stands_concat]
  constructor
  · rintro (⟨previous, rfl⟩ | ⟨-, hstands⟩)
    · cases hlast
    · exact hstands
  · intro hstands
    exact .inr ⟨by rw [hlast]; exact (Option.some_ne_none name).symm, hstands⟩

theorem stands_registered {log : List (Occurrence σ)} {name other : String} {value : σ}
    {previous : Option σ} {found : σ} :
    Stands (log ++ [.registered name value previous]) other found ↔
      if other = name then found = value else Stands log other found := by
  rw [stands_concat]
  split
  · next hsame =>
      subst hsame
      constructor
      · rintro (⟨before, heq⟩ | ⟨hwrites, -⟩)
        · cases heq
          rfl
        · exact absurd rfl hwrites
      · rintro rfl
        exact .inl ⟨previous, rfl⟩
  · next hother =>
      constructor
      · rintro (⟨before, heq⟩ | ⟨-, hstands⟩)
        · cases heq
          exact absurd rfl hother
        · exact hstands
      · intro hstands
        exact .inr ⟨fun hwrites => hother (Option.some.inj hwrites).symm, hstands⟩

theorem stands_removed {log : List (Occurrence σ)} {name other : String} {previous : Option σ}
    {found : σ} :
    Stands (log ++ [.removed name previous]) other found ↔
      other ≠ name ∧ Stands log other found := by
  rw [stands_concat]
  constructor
  · rintro (⟨before, heq⟩ | ⟨hwrites, hstands⟩)
    · cases heq
    · exact ⟨fun hsame => hwrites (congrArg some hsame.symm), hstands⟩
  · rintro ⟨hother, hstands⟩
    exact .inr ⟨fun hwrites => hother (Option.some.inj hwrites).symm, hstands⟩

theorem faithful_nil : Faithful ([] : List (Occurrence σ)) := by
  intro before occurrence after hlog
  exact absurd hlog.symm (List.append_ne_nil_of_right_ne_nil _ (List.cons_ne_nil _ _))

theorem Faithful.concat {log : List (Occurrence σ)} {last : Occurrence σ}
    (hfaithful : Faithful log) (hlast : Fits log last) : Faithful (log ++ [last]) := by
  intro before occurrence after hlog
  rcases concat_eq_append_cons_iff.mp hlog with ⟨-, rfl, rfl⟩ | ⟨rest, -, hrest⟩
  · exact hlast
  · exact hfaithful before occurrence rest hrest

/-! ## Parts -/

theorem numbered_append (number : Nat) (first second : List (Occurrence σ)) :
    numbered number (first ++ second) = numbered number first ++ numbered number second :=
  List.filter_append ..

theorem numbered_eq_nil {number : Nat} {log : List (Occurrence σ)}
    (hnone : ∀ occurrence ∈ log, occurrence.number ≠ some number) : numbered number log = [] :=
  List.filter_eq_nil_iff.mpr fun occurrence hmem hsame =>
    hnone occurrence hmem (of_decide_eq_true hsame)

theorem numbered_singleton {number : Nat} {part : Occurrence σ}
    (hpart : part.number = some number) : numbered number [part] = [part] :=
  List.filter_cons_of_pos (by rw [hpart]; exact decide_eq_true rfl)

/-! ## Jobs -/

theorem jobs_append (first second : List (Occurrence σ)) :
    jobs (first ++ second) = jobs first ++ jobs second :=
  List.flatMap_append

/-- A job comes from one of the chains that have been read. -/
theorem exists_parsed_of_jobs {log : List (Occurrence σ)} {job : Nat} {step : Step σ}
    (hjob : (jobs log)[job]? = some step) :
    ∃ before steps after, log = before ++ .parsed (.ok steps) :: after ∧
      (jobs before).length ≤ job ∧ steps[job - (jobs before).length]? = some step := by
  induction log generalizing job with
  | nil => cases hjob
  | cons first rest ih =>
      have hcons : jobs (first :: rest) = first.jobs ++ jobs rest := List.flatMap_cons
      rw [hcons] at hjob
      by_cases hfirst : job < first.jobs.length
      · rw [List.getElem?_append_left hfirst] at hjob
        cases first with
        | parsed chain =>
            cases chain with
            | error failure => cases hfirst
            | ok steps => exact ⟨[], steps, rest, rfl, Nat.zero_le _, hjob⟩
        | _ => cases hfirst
      · have hlater : first.jobs.length ≤ job := Nat.not_lt.mp hfirst
        rw [List.getElem?_append_right hlater] at hjob
        obtain ⟨before, steps, after, hrest, hle, hstep⟩ := ih hjob
        have hlength : (jobs (first :: before)).length =
            first.jobs.length + (jobs before).length := by
          rw [← List.length_append]
          rfl
        refine ⟨first :: before, steps, after, by rw [hrest]; rfl, ?_, ?_⟩
        · rw [hlength]
          omega
        · rwa [hlength, ← Nat.sub_sub]

end ImageChain.Registry
