import ImageChain.Unicode.Lowercase

/-!
# Lower-casing outside of ASCII

Lower-casing can take a character into ASCII that is not in it, and only two
characters go there.  The Kelvin sign becomes a k; the dotted capital I becomes
an i, but with the dot behind it as a character of its own.  All other capitals
stay outside, which the table shows run by run, since the capitals of a run are
all moved by the same offset.

So what is outside of ASCII leaves a `Foreign` character behind: one that is
still outside, or a k.  A word without these is the lower-case form of a text
exactly if it is what becomes of the text when only the ASCII letters change
(`lowercase_eq_iff`).
-/

namespace ImageChain.Unicode

/-- What becomes of a character outside of ASCII in lower case: another one outside of it, or a
k. -/
def Foreign (c : Char) : Prop :=
  0x80 ≤ c.toNat ∨ c = 'k'

/-! ## Characters -/

/-- The lower-case forms of a run of capitals are characters outside of ASCII, on one side of the
surrogates, except for the one of the Kelvin sign. -/
theorem offset_of_mem_capitals : ∀ run ∈ capitals,
    (0x80 ≤ run.span.first + run.offset ∧ run.span.last + run.offset < 0xD800) ∨
      (0xE000 ≤ run.span.first + run.offset ∧ run.span.last + run.offset < 0x110000) ∨
      run.span = ⟨0x212A, 0x212A⟩ ∧ run.offset = -8383 := by
  decide +kernel

theorem CaseRun.covers_iff {run : CaseRun} {code : Nat} :
    run.covers code = true ↔ (run.span.first ≤ code ∧ code ≤ run.span.last) ∧
      (code - run.span.first) % run.step = 0 := by
  simp [CaseRun.covers, Span.covers]

theorem foreign_of_covers {run : CaseRun} {code : Nat} (hrun : run ∈ capitals)
    (hcovers : run.covers code) : Foreign (Char.ofNat (code + run.offset).toNat) := by
  obtain ⟨⟨hfirst, hlast⟩, -⟩ := CaseRun.covers_iff.mp hcovers
  have houtside {lowered : Nat} (hvalid : lowered.isValidChar) (hleast : 0x80 ≤ lowered) :
      Foreign (Char.ofNat lowered) := by
    rw [Foreign, Char.ofNat, dif_pos hvalid]
    exact Or.inl hleast
  rcases offset_of_mem_capitals run hrun with ⟨hleast, hless⟩ | ⟨hleast, hless⟩ | ⟨hspan, hoffset⟩
  · exact houtside (Or.inl (by omega)) (by omega)
  · exact houtside (Or.inr ⟨by omega, by omega⟩) (by omega)
  · rw [hspan] at hfirst hlast
    obtain rfl : code = 0x212A := Nat.le_antisymm hlast hfirst
    rw [hoffset]
    exact Or.inr rfl

theorem exists_foreign_mem_lowerChar {c : Char} (hc : 0x80 ≤ c.toNat) :
    ∃ d ∈ lowerChar c, Foreign d := by
  unfold lowerChar
  rw [if_neg (Nat.not_lt.mpr hc)]
  split
  · -- the dot of the dotted capital
    exact ⟨Char.ofNat 0x307, by simp, Or.inl (by decide)⟩
  · split
    · next run hfind =>
        have hrun := List.mem_of_find?_eq_some hfind
        have hcovers := List.find?_some hfind
        have hforeign := foreign_of_covers hrun hcovers
        exact ⟨_, List.mem_singleton_self _, hforeign⟩
    · exact ⟨c, List.mem_singleton_self c, Or.inl hc⟩

theorem toLower_eq_self {c : Char} (hc : 0x80 ≤ c.toNat) : c.toLower = c := by
  have hcapital : ¬ (c.val ≥ 'A'.val ∧ c.val ≤ 'Z'.val) := by
    rintro ⟨-, hlast⟩
    have hlast : c.toNat ≤ 0x5A := UInt32.le_iff_toNat_le.mp hlast
    omega
  exact dif_neg hcapital

/-! ## Texts -/

theorem lowerFrom_of_ascii {text : List Char} (hascii : ∀ c ∈ text, c.toNat < 0x80)
    (before : List Char) : lowerFrom before text = text.map Char.toLower := by
  induction text generalizing before with
  | nil => rfl
  | cons c rest ih =>
      obtain ⟨hc, hrest⟩ := List.forall_mem_cons.mp hascii
      have hsigma : c.toNat ≠ 0x3A3 := by omega
      rw [lowerFrom, if_neg hsigma, lowerChar, if_pos hc, ih hrest]
      rfl

theorem exists_foreign_mem_lowerFrom {text : List Char} {c : Char} (hmem : c ∈ text)
    (hc : 0x80 ≤ c.toNat) (before : List Char) : ∃ d ∈ lowerFrom before text, Foreign d := by
  induction text generalizing before with
  | nil => cases hmem
  | cons first rest ih =>
      rw [lowerFrom]
      rcases List.mem_cons.mp hmem with rfl | hmem
      · have hfirst : ∃ d ∈ (if c.toNat = 0x3A3 then
            [Char.ofNat (if meetsCased before && !meetsCased rest then 0x3C2 else 0x3C3)]
            else lowerChar c), Foreign d := by
          split
          · -- both small sigmas are outside of ASCII
            refine ⟨_, List.mem_singleton_self _, Or.inl ?_⟩
            split <;> decide
          · exact exists_foreign_mem_lowerChar hc
        obtain ⟨d, hd, hforeign⟩ := hfirst
        exact ⟨d, List.mem_append_left _ hd, hforeign⟩
      · obtain ⟨d, hd, hforeign⟩ := ih hmem (first :: before)
        exact ⟨d, List.mem_append_right _ hd, hforeign⟩

theorem toList_toLower (text : String) : text.toLower.toList = text.toList.map Char.toLower :=
  String.toList_map

theorem mem_toLower {text : String} {c : Char} (hmem : c ∈ text.toList) (hc : 0x80 ≤ c.toNat) :
    c ∈ text.toLower.toList := by
  rw [toList_toLower]
  exact List.mem_map.mpr ⟨c, hmem, toLower_eq_self hc⟩

/-- A word without foreign characters is the lower-case form of a text exactly if only the case of
ASCII letters has to be changed for that. -/
theorem lowercase_eq_iff {text word : String} (hword : ∀ c ∈ word.toList, ¬ Foreign c) :
    lowercase text = word ↔ text.toLower = word := by
  by_cases houtside : ∃ c ∈ text.toList, 0x80 ≤ c.toNat
  · -- a character outside of ASCII leaves a foreign one behind on both sides
    obtain ⟨c, hmem, hc⟩ := houtside
    refine iff_of_false ?_ ?_
    · rintro rfl
      obtain ⟨d, hd, hforeign⟩ := exists_foreign_mem_lowerFrom hmem hc []
      rw [lowercase, String.toList_ofList] at hword
      exact hword d hd hforeign
    · rintro rfl
      exact hword c (mem_toLower hmem hc) (Or.inl hc)
  · have hascii : ∀ c ∈ text.toList, c.toNat < 0x80 := fun c hmem =>
      Nat.lt_of_not_le fun hc => houtside ⟨c, hmem, hc⟩
    have hsame : lowercase text = text.toLower := by
      rw [lowercase, lowerFrom_of_ascii hascii, ← toList_toLower, String.ofList_toList]
    rw [hsame]

end ImageChain.Unicode
