import ImageChain.Proofs.Source.Components
import ImageChain.Proofs.Source.Recording

/-!
# Paths that stay below a directory

The components of a path are steps of a walk that starts in a directory: a name
goes one directory down, two dots go back up, and the rest does nothing.  The
walk *stays* if it never goes up from the directory it started in, and that
includes a walk that would come back in later.

`confined` says that a path is found exactly if its walk stays and ends below
where it started, and `Resolved` says what is found then: the directory, and
behind it the names that are left of the walk.

The stack of `follow` has the innermost segment in front, and that of the walk
has it at the end; `follow_eq_some_iff` is where the two meet.
-/

namespace ImageChain.Path

/-! ## Walks -/

/-- The segments below the directory after one more component. -/
def Component.apply (stack : List String) : Component → List String
  | root => stack
  | here => stack
  | up => stack.dropLast
  | name segment => stack ++ [segment]

/-- The segments below the directory after a walk from a place below it. -/
def walkFrom (stack : List String) (steps : List Component) : List String :=
  steps.foldl Component.apply stack

/-- The segments below the directory after a walk. -/
def walk (steps : List Component) : List String :=
  walkFrom [] steps

/-- Every step up has a segment to take back. -/
def StaysFrom (stack : List String) (steps : List Component) : Prop :=
  ∀ before after, steps = before ++ .up :: after → walkFrom stack before ≠ []

/-- No step up leaves the directory, not even for a moment. -/
def Stays (steps : List Component) : Prop :=
  ∀ before after, steps = before ++ .up :: after → walk before ≠ []

theorem staysFrom_nil (stack : List String) : StaysFrom stack [] := by
  intro before after hsteps
  exact absurd hsteps.symm (List.append_ne_nil_of_right_ne_nil _ (List.cons_ne_nil _ _))

theorem staysFrom_cons (stack : List String) (step : Component) (rest : List Component) :
    StaysFrom stack (step :: rest) ↔
      (step = .up → stack ≠ []) ∧ StaysFrom (step.apply stack) rest := by
  constructor
  · intro hstays
    refine ⟨fun hup => ?_, fun before after hrest => ?_⟩
    · exact hstays [] rest (by rw [hup]; rfl)
    · exact hstays (step :: before) after (by rw [hrest]; rfl)
  · rintro ⟨hfirst, hrest⟩ before after hsteps
    cases before with
    | nil =>
        obtain ⟨hup, -⟩ := List.cons_eq_cons.mp hsteps
        exact hfirst hup
    | cons head others =>
        obtain ⟨rfl, hothers⟩ := List.cons_eq_cons.mp hsteps
        exact hrest others after hothers

/-- What says where a path begins does not take part in the walk. -/
theorem stays_components (path : String) :
    Stays (components path) ↔
      StaysFrom [] ((fields '/' path).filterMap Component.ofSegment?) := by
  change StaysFrom [] (components path) ↔ _
  unfold components leading
  split
  · rw [List.singleton_append, staysFrom_cons]
    exact and_iff_right fun hup => by cases hup
  · split
    · rw [List.singleton_append, staysFrom_cons]
      exact and_iff_right fun hup => by cases hup
    · rfl

theorem walk_components (path : String) :
    walk (components path) = walkFrom [] ((fields '/' path).filterMap Component.ofSegment?) := by
  unfold walk components leading
  split
  · rfl
  · split <;> rfl

theorem mem_walkFrom {stack : List String} {steps : List Component} {segment : String}
    (hmem : segment ∈ walkFrom stack steps) : segment ∈ stack ∨ .name segment ∈ steps := by
  induction steps generalizing stack with
  | nil => exact Or.inl hmem
  | cons step rest ih =>
      rcases ih hmem with hbefore | hlater
      · cases step with
        | root => exact Or.inl hbefore
        | here => exact Or.inl hbefore
        | up => exact Or.inl (List.dropLast_subset stack hbefore)
        | name other =>
            rcases List.mem_append.mp hbefore with hstack | hother
            · exact Or.inl hstack
            · rw [List.mem_singleton.mp hother]
              exact Or.inr List.mem_cons_self
      · exact Or.inr (List.mem_cons_of_mem _ hlater)

/-- Whatever is left of the walk of a path leads down. -/
theorem isName_of_mem_walk {path segment : String} (hmem : segment ∈ walk (components path)) :
    IsName segment := by
  rw [walk_components] at hmem
  rcases mem_walkFrom hmem with hnil | hname
  · cases hnil
  · exact isName_of_mem hname

/-! ## The program walks -/

theorem follow_of_skip {stack rest : List String} {segment : String}
    (hskip : Component.ofSegment? segment = none) :
    follow stack (segment :: rest) = follow stack rest := by
  rw [follow.eq_def]
  unfold Component.ofSegment? at hskip
  split at hskip
  · next hempty => exact if_pos hempty
  · split at hskip <;> cases hskip

theorem follow_up_nil (rest : List String) : follow [] (".." :: rest) = none :=
  rfl

theorem follow_up_cons (innermost : String) (outer rest : List String) :
    follow (innermost :: outer) (".." :: rest) = follow outer rest :=
  rfl

theorem follow_of_name {stack rest : List String} {segment : String}
    (hskip : ¬(segment = "" || segment = ".") = true) (hup : segment ≠ "..") :
    follow stack (segment :: rest) = follow (segment :: stack) rest := by
  rw [follow.eq_def]
  exact (if_neg hskip).trans (if_neg hup)

theorem follow_eq_some_iff {stack segments result : List String} :
    follow stack segments = some result ↔
      StaysFrom stack.reverse (segments.filterMap Component.ofSegment?) ∧
        walkFrom stack.reverse (segments.filterMap Component.ofSegment?) = result.reverse := by
  induction segments generalizing stack with
  | nil =>
      simp only [follow, List.filterMap_nil, Option.some.injEq, walkFrom, List.foldl_nil,
        List.reverse_inj, and_iff_right (staysFrom_nil _)]
  | cons segment rest ih =>
      by_cases hskip : (segment = "" || segment = ".") = true
      · have hstep : Component.ofSegment? segment = none := if_pos hskip
        rw [follow_of_skip hstep, ih, List.filterMap_cons_none hstep]
      · by_cases hup : segment = ".."
        · subst hup
          have hstep : Component.ofSegment? ".." = some .up := rfl
          rw [List.filterMap_cons_some hstep, staysFrom_cons]
          cases stack with
          | nil => simp [follow_up_nil]
          | cons innermost outer =>
              have hback : Component.up.apply (innermost :: outer).reverse = outer.reverse := by
                rw [List.reverse_cons]
                exact List.dropLast_concat
              rw [follow_up_cons, ih, walkFrom, walkFrom, List.foldl_cons, hback]
              simp
        · have hstep : Component.ofSegment? segment = some (.name segment) :=
            (if_neg hskip).trans (if_neg hup)
          have hdown : (Component.name segment).apply stack.reverse =
              (segment :: stack).reverse := List.reverse_cons.symm
          rw [follow_of_name hskip hup, ih, List.filterMap_cons_some hstep, staysFrom_cons,
            walkFrom, walkFrom, List.foldl_cons, hdown]
          simp

theorem follow_eq_none_iff {stack segments : List String} :
    follow stack segments = none ↔
      ¬StaysFrom stack.reverse (segments.filterMap Component.ofSegment?) := by
  constructor
  · intro hnone hstays
    have hsome := follow_eq_some_iff.mpr ⟨hstays, (List.reverse_reverse _).symm⟩
    rw [hnone] at hsome
    cases hsome
  · intro hleaves
    cases hfollow : follow stack segments with
    | none => rfl
    | some result => exact absurd (follow_eq_some_iff.mp hfollow).1 hleaves

/-! ## The path below a directory -/

/-- `path` is what segments below a directory lead to. -/
structure Resolved (base : String) (segments : List String) (path : String) : Prop where
  /-- The path is written as the directory and the segments, with single slashes. -/
  text : path = base ++ joint base ++ "/".intercalate segments
  /-- The directory is a component-wise prefix, and only the segments come after it. -/
  components : components path = components base ++ segments.map .name
  /-- There is at least one segment. -/
  below : segments ≠ []
  /-- Every segment leads down. -/
  names : ∀ segment ∈ segments, IsName segment

theorem resolved_extend (base : String) {segments : List String} (hne : segments ≠ [])
    (hnames : ∀ segment ∈ segments, IsName segment) :
    Resolved base segments (extend base segments) :=
  ⟨extend_eq base hne hnames, components_extend base hnames, hne, hnames⟩

theorem resolveWithin_of_stays (base : String) {relative : String}
    (hstays : Stays (components relative)) (hbelow : walk (components relative) ≠ []) :
    ∃ path, resolveWithin base relative = .ok path ∧
      Resolved base (walk (components relative)) path := by
  have hfollow : follow [] (fields '/' relative) = some (walk (components relative)).reverse := by
    rw [follow_eq_some_iff, List.reverse_reverse, walk_components]
    exact ⟨(stays_components relative).mp hstays, rfl⟩
  refine ⟨extend base (walk (components relative)), ?_,
    resolved_extend base hbelow fun segment => isName_of_mem_walk⟩
  rw [resolveWithin, hfollow]
  split
  case h_1 hnone => cases hnone
  case h_2 hnil =>
    exact absurd (List.reverse_eq_nil_iff.mp (Option.some.inj hnil)) hbelow
  case h_3 stack _ hstack =>
    rw [← Option.some.inj hstack, List.reverse_reverse]

theorem resolveWithin_of_leaves (base : String) {relative : String}
    (hleaves : ¬Stays (components relative)) :
    ∃ reason, resolveWithin base relative = .error (.argument reason) := by
  have hfollow : follow [] (fields '/' relative) = none :=
    follow_eq_none_iff.mpr fun hstays => hleaves ((stays_components relative).mpr hstays)
  exact ⟨_, by rw [resolveWithin, hfollow]⟩

theorem resolveWithin_of_walk_eq_nil (base : String) {relative : String}
    (hstays : Stays (components relative)) (hnone : walk (components relative) = []) :
    ∃ reason, resolveWithin base relative = .error (.argument reason) := by
  have hfollow : follow [] (fields '/' relative) = some [] := by
    rw [follow_eq_some_iff, List.reverse_nil, ← walk_components]
    exact ⟨(stays_components relative).mp hstays, hnone⟩
  exact ⟨_, by rw [resolveWithin, hfollow]⟩

/-- What a lookup in a directory makes of its parameters. -/
theorem directory_request_cases (base : String) (parameters : List String) :
    (∃ path, resolveWithin base (parameters.headD "") = .ok path ∧
        (Source.directory base).request parameters = .ok (.file path, .directory base)) ∨
      (parameters = [] ∨ ∃ fault, resolveWithin base (parameters.headD "") = .error fault) ∧
        ∃ failure, (Source.directory base).request parameters = .error failure := by
  dsimp only [Source.request, Source.directoryRequest]
  cases parameters with
  | nil => exact Or.inr ⟨Or.inl rfl, _, rfl⟩
  | cons relative rest =>
      have hcount : requireParameters "file" 1 (relative :: rest) = .ok () := by
        simp [requireParameters]
      rw [hcount, List.headD_cons]
      cases hpath : resolveWithin base relative with
      | error fault => exact Or.inr ⟨Or.inr ⟨fault, rfl⟩, fault, rfl⟩
      | ok path => exact Or.inl ⟨path, rfl, rfl⟩

/-- What a lookup in a directory opens. -/
theorem requested_directory {catalog : Catalog} {place : Nat} {base : String}
    (hsource : catalog.sources[place]? = some (.directory base)) (parameters : List String) :
    (∃ path, resolveWithin base (parameters.headD "") = .ok path ∧
        catalog.requested place parameters = [.file path]) ∨
      (parameters = [] ∨ ∃ fault, resolveWithin base (parameters.headD "") = .error fault) ∧
        catalog.requested place parameters = [] := by
  rcases directory_request_cases base parameters with ⟨path, hpath, hok⟩ | ⟨hwrong, failure, herror⟩
  · exact Or.inl ⟨path, hpath, by rw [Catalog.requested_of_ok hsource hok]; rfl⟩
  · exact Or.inr ⟨hwrong, Catalog.requested_of_error hsource herror⟩

/-! ## The main statement -/

/-- What a directory lets be found, and what it opens. -/
structure Confined (base : String) : Prop where
  /-- A path is found exactly if its walk stays and ends strictly below the directory. -/
  found_iff : ∀ relative, (∃ path, resolveWithin base relative = .ok path) ↔
    Stays (components relative) ∧ walk (components relative) ≠ []
  /-- What is found is the directory with the segments that are left of the walk. -/
  resolved : ∀ {relative path}, resolveWithin base relative = .ok path →
    Resolved base (walk (components relative)) path
  /-- Anything else is a wrong argument. -/
  refused : ∀ {relative failure}, resolveWithin base relative = .error failure →
    ∃ reason, failure = .argument reason
  /-- Whatever the world answers, a lookup opens at most one path, which is strictly below, and it
  opens none only if it was not given a path that is found. -/
  opens : ∀ [Codecs] {catalog : Catalog} {place : Nat},
    catalog.sources[place]? = some (.directory base) → ∀ world parameters log, ∃ opened,
      catalog.askedBy world place parameters log = log ++ opened ∧ opened.length ≤ 1 ∧
        (∀ request ∈ opened, ∃ segments path,
          request = .file path ∧ Resolved base segments path) ∧
        (opened = [] → parameters = [] ∨
          ∃ fault, resolveWithin base (parameters.headD "") = .error fault)

/-- **A directory gives out what is strictly below it and nothing else.** -/
theorem confined (base : String) : Confined base := by
  have hresolved {relative path : String} (hok : resolveWithin base relative = .ok path) :
      (Stays (components relative) ∧ walk (components relative) ≠ []) ∧
        Resolved base (walk (components relative)) path := by
    by_cases hstays : Stays (components relative)
    · by_cases hbelow : walk (components relative) = []
      · obtain ⟨reason, herror⟩ := resolveWithin_of_walk_eq_nil base hstays hbelow
        rw [herror] at hok
        cases hok
      · obtain ⟨found, hfound, hwritten⟩ := resolveWithin_of_stays base hstays hbelow
        rw [hfound] at hok
        cases hok
        exact ⟨⟨hstays, hbelow⟩, hwritten⟩
    · obtain ⟨reason, herror⟩ := resolveWithin_of_leaves base hstays
      rw [herror] at hok
      cases hok
  constructor
  case found_iff =>
    intro relative
    constructor
    · rintro ⟨path, hok⟩
      exact (hresolved hok).1
    · rintro ⟨hstays, hbelow⟩
      obtain ⟨path, hfound, -⟩ := resolveWithin_of_stays base hstays hbelow
      exact ⟨path, hfound⟩
  case resolved =>
    intro relative path hok
    exact (hresolved hok).2
  case refused =>
    intro relative failure herror
    unfold resolveWithin at herror
    split at herror <;> cases herror <;> exact ⟨_, rfl⟩
  case opens =>
    intro _ catalog place hsource world parameters log
    refine ⟨catalog.requested place parameters, catalog.askedBy_eq world place parameters log,
      catalog.length_requested_le place parameters, ?_⟩
    rcases requested_directory hsource parameters with ⟨path, hok, hpath⟩ | ⟨hwrong, hnone⟩
    · rw [hpath]
      refine ⟨fun request hrequest => ?_, fun hnone => absurd hnone (List.cons_ne_nil _ _)⟩
      rw [List.mem_singleton] at hrequest
      exact ⟨_, path, hrequest, (hresolved hok).2⟩
    · rw [hnone]
      exact ⟨fun request hrequest => absurd hrequest List.not_mem_nil, fun _ => hwrong⟩

theorem confined_images :
    resolveWithin "/srv/images" "a/./c/../b.png" = .ok "/srv/images/a/b.png" ∧
      Resolved "/srv/images" ["a", "b.png"] "/srv/images/a/b.png" := by
  have hfound : resolveWithin "/srv/images" "a/./c/../b.png" = .ok "/srv/images/a/b.png" := by
    decide
  have hwalk : walk (components "a/./c/../b.png") = ["a", "b.png"] := by decide
  refine ⟨hfound, ?_⟩
  rw [← hwalk]
  exact (confined "/srv/images").resolved hfound

/-- A walk that leaves the directory and comes back does not stay. -/
example : ¬Stays (components "a/../../images/b.png") :=
  fun hstays => hstays [.name "a", .up] [.name "images", .name "b.png"] (by decide) (by decide)

end ImageChain.Path
