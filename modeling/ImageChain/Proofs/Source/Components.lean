import Mathlib.Data.List.Basic
import ImageChain.Proofs.Text.Fields
import ImageChain.Source.Path

/-!
# The components of a path

A path names a place by its components, from the left to the right: the root or
the current directory to begin with, then steps into a directory or back up.
Doubled slashes and single dots between them mean nothing.

Writing a name behind a path adds one component at the end, whatever the path
looks like: `components_push`.  This is what makes "below a directory" a
statement about components and not about texts.
-/

namespace ImageChain.Path

/-- A component of a path. -/
inductive Component where
  /-- A slash at the very beginning. -/
  | root
  /-- A single dot at the very beginning. -/
  | here
  /-- Two dots. -/
  | up
  /-- Anything else. -/
  | name (segment : String)
  deriving DecidableEq, Repr

/-- The component that the text between two slashes is, if it means anything. -/
def Component.ofSegment? (segment : String) : Option Component :=
  if segment = "" || segment = "." then none
  else if segment = ".." then some .up
  else some (.name segment)

/-- The component that says where a path begins. -/
def leading (path : String) : List Component :=
  if path.toList.head? = some '/' then [.root]
  else if (fields '/' path).head? = some "." then [.here]
  else []

/-- The components of a path. -/
def components (path : String) : List Component :=
  leading path ++ (fields '/' path).filterMap Component.ofSegment?

/-- A segment that leads one directory down. -/
structure IsName (segment : String) : Prop where
  nonempty : segment ≠ ""
  not_here : segment ≠ "."
  not_up : segment ≠ ".."
  no_slash : '/' ∉ segment.toList

theorem IsName.ofSegment? {segment : String} (hname : IsName segment) :
    Component.ofSegment? segment = some (.name segment) := by
  simp [Component.ofSegment?, hname.nonempty, hname.not_here, hname.not_up]

theorem isName_of_mem {path segment : String}
    (hmem : .name segment ∈ (fields '/' path).filterMap Component.ofSegment?) :
    IsName segment := by
  obtain ⟨field, hfield, hsegment⟩ := List.mem_filterMap.mp hmem
  unfold Component.ofSegment? at hsegment
  split at hsegment
  · cases hsegment
  · next hskip =>
      split at hsegment
      · cases hsegment
      · next hup =>
          cases hsegment
          simp only [Bool.or_eq_true, decide_eq_true_eq, not_or] at hskip
          exact ⟨hskip.1, hskip.2, hup, notMem_of_mem_fields hfield⟩

/-! ## One more name -/

/-- A path that a name has to be separated from. -/
def IsOpen (path : String) : Prop :=
  path ≠ "" ∧ path.toList.getLast? ≠ some '/'

theorem push_of_isOpen {path : String} (hopen : IsOpen path) (segment : String) :
    push path segment = path ++ "/" ++ segment := by
  simp [push, hopen.1, hopen.2]

theorem push_of_not_isOpen {path : String} (hclosed : ¬IsOpen path) (segment : String) :
    push path segment = path ++ segment := by
  have hends : path = "" ∨ path.toList.getLast? = some '/' := by
    by_cases hempty : path = ""
    · exact Or.inl hempty
    · exact Or.inr (not_not.mp fun hlast => hclosed ⟨hempty, hlast⟩)
  simp only [push, Bool.or_eq_true, decide_eq_true_eq, if_pos hends]

theorem IsName.toList_ne_nil {segment : String} (hname : IsName segment) :
    segment.toList ≠ [] := by
  simpa using hname.nonempty

theorem IsName.isOpen_append {segment : String} (hname : IsName segment) (path : String) :
    IsOpen (path ++ segment) := by
  refine ⟨fun hempty => ?_, fun hlast => ?_⟩
  · exact hname.nonempty (String.append_eq_empty_iff.mp hempty).2
  · rw [String.toList_append, List.getLast?_append_of_ne_nil _ hname.toList_ne_nil] at hlast
    exact hname.no_slash (List.mem_of_getLast? hlast)

theorem IsName.isOpen_push {segment : String} (hname : IsName segment) (path : String) :
    IsOpen (push path segment) := by
  unfold push
  split
  · exact hname.isOpen_append path
  · exact hname.isOpen_append (path ++ "/")

/-- What stands before the last slash of a path that ends in one. -/
theorem exists_append_slash {path : String} (hslash : path.toList.getLast? = some '/') :
    ∃ before : String, path = before ++ "/" := by
  refine ⟨String.ofList path.toList.dropLast, String.toList_inj.mp ?_⟩
  have hsplit := List.dropLast_append_getLast? '/' hslash
  simpa using hsplit.symm

theorem fields_append_slash (first rest : String) :
    fields '/' (first ++ "/" ++ rest) = fields '/' first ++ fields '/' rest :=
  fields_append '/' first rest

theorem leading_append {path : String} (hne : path ≠ "") {rest : String}
    (hfields : (fields '/' (path ++ rest)).head? = (fields '/' path).head?) :
    leading (path ++ rest) = leading path := by
  have hhead : (path ++ rest).toList.head? = path.toList.head? := by
    rw [String.toList_append, List.head?_append_of_ne_nil _ (by simpa using hne)]
  simp only [leading, hhead, hfields]

theorem components_of_isName {segment : String} (hname : IsName segment) :
    components segment = [.name segment] := by
  have hhead : segment.toList.head? ≠ some '/' := fun hslash =>
    hname.no_slash (List.mem_of_head? hslash)
  simp [components, leading, hhead, fields_of_notMem hname.no_slash, hname.not_here,
    hname.ofSegment?]

/-- A name written behind a path is one more component. -/
theorem components_push (path : String) {segment : String} (hname : IsName segment) :
    components (push path segment) = components path ++ [.name segment] := by
  have hsegment : (fields '/' segment).filterMap Component.ofSegment? = [.name segment] := by
    simp [fields_of_notMem hname.no_slash, hname.ofSegment?]
  by_cases hempty : path = ""
  case pos =>
    subst hempty
    have hpush : push "" segment = segment := by simp [push]
    rw [hpush, components_of_isName hname]
    rfl
  case neg =>
    have hhead (rest : List String) :
        (fields '/' path ++ rest).head? = (fields '/' path).head? :=
      List.head?_append_of_ne_nil _ (fields_ne_nil '/' path)
    by_cases hslash : path.toList.getLast? = some '/'
    case neg =>
      rw [push_of_isOpen ⟨hempty, hslash⟩]
      have hfields := fields_append_slash path segment
      have hleading : leading (path ++ "/" ++ segment) = leading path := by
        rw [String.append_assoc]
        refine leading_append hempty ?_
        rw [← String.append_assoc, hfields, hhead]
      rw [components, components, hleading, hfields, List.filterMap_append, hsegment,
        List.append_assoc]
    case pos =>
      -- the last field of the path is empty, and the name takes its place
      rw [push_of_not_isOpen fun hopen => hopen.2 hslash]
      obtain ⟨before, rfl⟩ := exists_append_slash hslash
      have hpath : fields '/' (before ++ "/") = fields '/' before ++ [""] := by
        have hfields := fields_append_slash before ""
        rwa [String.append_empty] at hfields
      have hfields := fields_append_slash before segment
      have hleading : leading (before ++ "/" ++ segment) = leading (before ++ "/") := by
        refine leading_append hempty ?_
        rw [hfields, hpath, List.head?_append_of_ne_nil _ (fields_ne_nil '/' before),
          List.head?_append_of_ne_nil _ (fields_ne_nil '/' before)]
      have hnothing : [""].filterMap Component.ofSegment? = [] := rfl
      rw [components, components, hleading, hfields, hpath, List.filterMap_append,
        List.filterMap_append, hsegment, hnothing, List.append_nil, List.append_assoc]

/-! ## Several names -/

/-- What stands between a path and the first name behind it. -/
def joint (path : String) : String :=
  if path = "" || path.toList.getLast? = some '/' then "" else "/"

theorem push_eq (path segment : String) : push path segment = path ++ joint path ++ segment := by
  unfold push joint
  split <;> simp

theorem joint_of_isOpen {path : String} (hopen : IsOpen path) : joint path = "/" := by
  simp [joint, hopen.1, hopen.2]

/-- Names behind a path are separated by single slashes. -/
theorem extend_eq (path : String) {segments : List String} (hne : segments ≠ [])
    (hnames : ∀ segment ∈ segments, IsName segment) :
    extend path segments = path ++ joint path ++ "/".intercalate segments := by
  induction segments generalizing path with
  | nil => exact absurd rfl hne
  | cons segment rest ih =>
      have hextend : extend path (segment :: rest) = extend (push path segment) rest := rfl
      cases rest with
      | nil => rw [hextend, String.intercalate_singleton, ← push_eq]; rfl
      | cons next others =>
          have hname := hnames segment List.mem_cons_self
          rw [hextend, ih _ (List.cons_ne_nil _ _) fun other hother =>
              hnames other (List.mem_cons_of_mem _ hother),
            joint_of_isOpen (hname.isOpen_push path), push_eq, String.intercalate_cons_cons]
          simp [String.append_assoc]

theorem components_extend (path : String) {segments : List String}
    (hnames : ∀ segment ∈ segments, IsName segment) :
    components (extend path segments) = components path ++ segments.map .name := by
  induction segments generalizing path with
  | nil => exact (List.append_nil _).symm
  | cons segment rest ih =>
      have hextend : extend path (segment :: rest) = extend (push path segment) rest := rfl
      rw [hextend, ih _ fun other hother => hnames other (List.mem_cons_of_mem _ hother),
        components_push path (hnames segment List.mem_cons_self), List.append_assoc]
      rfl

end ImageChain.Path
