import ImageChain.Proofs.Registry.Lookup
import ImageChain.Simulation.FileTree

/-!
# Reading what has been written

A path leads to the same place before and after a file is written: on the way
there are only directories, and writing neither replaces a directory nor takes
one away.  So what has been written is what is read from the same path, and a
path that leads elsewhere shows what it has shown before.
-/

namespace ImageChain.FileTree

variable {tree after : FileTree}

theorem lookup_put (tree : FileTree) (path other : List String) (content : Option ByteArray) :
    (tree.put path content).entries.lookup other =
      if other = path then some content
      else if other ∈ ancestors path then some none
      else tree.entries.lookup other := by
  have hdirectories (paths : List (List String)) :
      ((paths.map fun path => (path, (none : Option ByteArray))) ++ tree.entries).lookup other =
        if other ∈ paths then some none else tree.entries.lookup other := by
    induction paths with
    | nil => simp
    | cons first rest ih =>
        rw [List.map_cons, List.cons_append, Registry.lookup_cons_eq_ite, ih]
        by_cases hfirst : other = first <;> simp [hfirst]
  rw [put, Registry.lookup_cons_eq_ite, hdirectories]

/-- Directories stay directories, if none is written over. -/
theorem lookup_put_of_directory {path place : List String} {content : Option ByteArray}
    (hpath : tree.entries.lookup path ≠ some none)
    (hplace : tree.entries.lookup place = some none) :
    (tree.put path content).entries.lookup place = some none := by
  have hne : place ≠ path := by
    rintro rfl
    exact hpath hplace
  rw [lookup_put, if_neg hne, hplace]
  split <;> rfl

theorem follow_put {path : List String} {content : Option ByteArray}
    (hpath : tree.entries.lookup path ≠ some none) {start place segments : List String}
    (hfollow : tree.follow start segments = .ok place) :
    (tree.put path content).follow start segments = .ok place := by
  induction segments generalizing start with
  | nil => exact hfollow
  | cons segment rest ih =>
      unfold follow at hfollow ⊢
      cases hstart : tree.entries.lookup start with
      | none => simp [hstart] at hfollow
      | some entry =>
          cases entry with
          | some bytes => simp [hstart] at hfollow
          | none =>
              -- the directory is still there, so the segment stays, goes up or goes down as before
              rw [hstart] at hfollow
              rw [lookup_put_of_directory hpath hstart]
              dsimp only at hfollow ⊢
              split at hfollow
              · next hstay => rw [if_pos hstay, ih hfollow]
              · next hmove =>
                rw [if_neg hmove]
                split at hfollow
                · next hup => rw [if_pos hup, ih hfollow]
                · next hdown =>
                  rw [if_neg hdown]
                  split at hfollow
                  · cases hfollow
                  · next hshort => rw [if_neg hshort, ih hfollow]

theorem resolve_put {written : List String} {content : Option ByteArray}
    (hwritten : tree.entries.lookup written ≠ some none) {path : String} {place : List String}
    (hresolve : tree.resolve path = .ok place) :
    (tree.put written content).resolve path = .ok place := by
  unfold resolve at hresolve ⊢
  split at hresolve
  · cases hresolve
  · next hzero =>
    rw [if_neg hzero]
    split at hresolve
    · cases hresolve
    · next hempty =>
      rw [if_neg hempty]
      split at hresolve
      · cases hresolve
      · next hlong =>
        rw [if_neg hlong]
        exact follow_put hwritten hresolve

/-- A file is written in the place that its path leads to, if there is no directory. -/
theorem write_eq_ok {path : String} {content : ByteArray}
    (hwrite : tree.write path content = .ok after) :
    ∃ place, tree.resolve path = .ok place ∧ tree.entries.lookup place ≠ some none ∧
      after = tree.put place (some content) := by
  unfold write at hwrite
  dsimp only at hwrite
  split at hwrite
  · cases hwrite
  · next place hresolve =>
    split at hwrite
    · cases hwrite
    · next hplace =>
      split at hwrite
      · cases hwrite
      · next hnamed =>
        -- without a slash at its end the path is the one that is followed
        rw [Classical.not_not.mp hnamed, ite_self] at hresolve
        cases hwrite
        exact ⟨place, hresolve, fun hdirectory => hplace hdirectory, rfl⟩

/-- What has been written is what is read. -/
theorem read_of_write {path : String} {content : ByteArray}
    (hwrite : tree.write path content = .ok after) : after.read path = .ok content := by
  obtain ⟨place, hresolve, hplace, rfl⟩ := write_eq_ok hwrite
  rw [read, resolve_put hplace hresolve]
  simp [lookup_put]

/-- Every other file stays as it is: one that is neither in the place of what is written nor in that
of a directory on the way to it. -/
theorem read_of_write_of_ne {path other : String} {content : ByteArray} {place elsewhere : List String}
    (hwrite : tree.write path content = .ok after) (hplace : tree.resolve path = .ok place)
    (hother : tree.resolve other = .ok elsewhere) (hne : ¬ elsewhere <+: place) :
    after.read other = tree.read other := by
  obtain ⟨written, hwritten, hfree, rfl⟩ := write_eq_ok hwrite
  rw [hplace] at hwritten
  cases hwritten
  have hself : elsewhere ≠ place := by
    rintro rfl
    exact hne (List.prefix_refl _)
  have habove : elsewhere ∉ ancestors place := by
    intro hmem
    obtain ⟨length, -, rfl⟩ := List.mem_map.mp hmem
    exact hne (List.take_prefix _ _)
  rw [read, read, resolve_put hfree hother, hother]
  simp only [lookup_put, if_neg hself, if_neg habove]

end ImageChain.FileTree
