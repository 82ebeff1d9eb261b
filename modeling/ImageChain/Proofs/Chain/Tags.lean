import ImageChain.Format
import ImageChain.Proofs.Text.Lowercase

/-!
# The names of formats

A format is read from a text after lower-casing, and lower-casing knows all of
Unicode.  The names of formats are ASCII and have no k in them, so nothing but
the case of its ASCII letters can keep a text from being a name: the reader
accepts the names in any ASCII case and no other text (`parse_ascii_case`).
-/

namespace ImageChain.Format

/-- The names that a format goes by. -/
def names : Format → List String
  | jpeg => ["jpg", "jpeg"]
  | format => [format.tag]

/-- A text is a name of a format, but for the case of its ASCII letters. -/
def Named (text : String) (format : Format) : Prop :=
  text.toLower ∈ format.names

/-- The failure for a text that is the name of no format. -/
def unsupported (text : String) : Failure :=
  .argument ("Unsupported image format: " ++ Unicode.lowercase text)

variable {text : String} {format : Format}

theorem not_foreign_of_mem_names {name : String} (hname : name ∈ format.names) :
    ∀ c ∈ name.toList, ¬ Unicode.Foreign c := by
  have hplain : format.names.all (fun name =>
      name.toList.all fun c => c.toNat < 0x80 && c.toNat != 'k'.toNat) = true := by
    cases format <;> decide
  have hname := List.all_eq_true.mp hplain name hname
  intro c hc
  have hc := List.all_eq_true.mp hname c hc
  rw [Bool.and_eq_true, decide_eq_true_eq, bne_iff_ne] at hc
  rintro (houtside | rfl)
  · exact absurd hc.1 (Nat.not_lt.mpr houtside)
  · exact hc.2 rfl

theorem lowercase_mem_names_iff : Unicode.lowercase text ∈ format.names ↔ Named text format := by
  constructor
  · intro hmem
    have heq := (Unicode.lowercase_eq_iff (not_foreign_of_mem_names hmem)).mp rfl
    rwa [Named, heq]
  · intro hmem
    have heq := (Unicode.lowercase_eq_iff (not_foreign_of_mem_names hmem)).mpr rfl
    rwa [heq]

theorem tag_mem_names (format : Format) : format.tag ∈ format.names := by
  cases format <;> decide

theorem lowercase_eq_tag_iff : Unicode.lowercase text = format.tag ↔ text.toLower = format.tag :=
  Unicode.lowercase_eq_iff (not_foreign_of_mem_names format.tag_mem_names)

/-- No two formats share a name. -/
theorem Named.eq {other : Format} (hnamed : Named text format) (hother : Named text other) :
    format = other := by
  have hdisjoint : ∀ name ∈ format.names, name ∈ other.names → format = other := by
    cases format <;> cases other <;> decide
  exact hdisjoint _ hnamed hother

/-! ## Reading a name -/

theorem parse_cases (text : String) :
    (∃ format, parse text = .ok format ∧ Named text format) ∨
      parse text = .error (unsupported text) ∧ ∀ format, ¬ Named text format := by
  simp only [← lowercase_mem_names_iff]
  unfold parse
  dsimp only
  split
  case h_7 hjpg hjpeg hpng hwebp havif hgif =>
    refine Or.inr ⟨rfl, fun format hmem => ?_⟩
    cases format <;> simp_all [names, tag]
  all_goals
    next hname => exact Or.inl ⟨_, rfl, by rw [hname]; decide⟩

theorem parse_eq_ok_iff : parse text = .ok format ↔ Named text format := by
  rcases parse_cases text with ⟨found, hparse, hnamed⟩ | ⟨hparse, hnone⟩
  · rw [hparse, Except.ok.injEq]
    constructor
    · rintro rfl
      exact hnamed
    · exact hnamed.eq
  · rw [hparse]
    exact iff_of_false (by simp) (hnone format)

theorem parse_eq_error_iff :
    parse text = .error (unsupported text) ↔ ∀ format, ¬ Named text format := by
  rcases parse_cases text with ⟨found, hparse, hnamed⟩ | ⟨hparse, hnone⟩
  · rw [hparse]
    exact iff_of_false (by simp) fun hnone => hnone found hnamed
  · exact iff_of_true hparse hnone

theorem not_named_of_outside {c : Char} (hmem : c ∈ text.toList) (hc : 0x80 ≤ c.toNat) :
    ¬ Named text format := by
  intro hnamed
  have hkept : c ∈ text.toLower.toList := Unicode.mem_toLower hmem hc
  exact not_foreign_of_mem_names hnamed c hkept (Or.inl hc)

/-! ## Output formats -/

/-- The formats that the optimizer is asked for by their own names only. -/
def byTagOnly : List Format :=
  [png, webp, avif]

theorem named_iff_of_mem_byTagOnly (hformat : format ∈ byTagOnly) :
    Named text format ↔ text.toLower = format.tag := by
  have hnames : format.names = [format.tag] := by
    revert hformat
    cases format <;> decide
  rw [Named, hnames, List.mem_singleton]

theorem outputOrJpeg_cases (text : String) :
    (∃ format, outputOrJpeg text = format.forOutput ∧ Named text format) ∨
      outputOrJpeg text = jpeg ∧ ∀ format, ¬ Named text format := by
  unfold outputOrJpeg
  rcases parse_cases text with ⟨format, hparse, hnamed⟩ | ⟨hparse, hnone⟩
  · rw [hparse]
    exact Or.inl ⟨format, rfl, hnamed⟩
  · rw [hparse]
    exact Or.inr ⟨rfl, hnone⟩

theorem outputOrJpeg_eq_iff (hformat : format ∈ byTagOnly) :
    outputOrJpeg text = format ↔ text.toLower = format.tag := by
  rw [← named_iff_of_mem_byTagOnly hformat]
  rcases outputOrJpeg_cases text with ⟨found, houtput, hnamed⟩ | ⟨houtput, hnone⟩
  · have hkept : found.forOutput = format ↔ found = format := by
      revert hformat
      cases found <;> cases format <;> decide
    rw [houtput, hkept]
    constructor
    · rintro rfl
      exact hnamed
    · exact hnamed.eq
  · rw [houtput]
    refine iff_of_false ?_ (hnone format)
    rintro rfl
    exact absurd hformat (by decide)

theorem outputOrJpeg_eq_jpeg_iff :
    outputOrJpeg text = jpeg ↔ ∀ format ∈ byTagOnly, text.toLower ≠ format.tag := by
  constructor
  · intro hjpeg format hformat htag
    rw [(outputOrJpeg_eq_iff hformat).mpr htag] at hjpeg
    rw [hjpeg] at hformat
    exact absurd hformat (by decide)
  · intro hnone
    rcases outputOrJpeg_cases text with ⟨found, houtput, hnamed⟩ | ⟨houtput, -⟩
    · have hother : found ∉ byTagOnly := fun hmem =>
        hnone found hmem ((named_iff_of_mem_byTagOnly hmem).mp hnamed)
      rw [houtput]
      revert hother
      cases found <;> decide
    · exact houtput

/-- **A text is read as a format exactly if it is one of the format's names in some ASCII case.**
A character outside of ASCII keeps a text from being a name, wherever it stands and whatever
becomes of it in lower case.  The optimizer is asked for PNG, WebP and AVIF by their tags, and for
JPEG by every other text. -/
theorem parse_ascii_case (text : String) :
    (∀ format, parse text = .ok format ↔ Named text format) ∧
    (parse text = .error (unsupported text) ↔ ∀ format, ¬ Named text format) ∧
    (∀ c ∈ text.toList, 0x80 ≤ c.toNat →
      parse text = .error (unsupported text) ∧ outputOrJpeg text = jpeg) ∧
    (∀ format ∈ [png, webp, avif], outputOrJpeg text = format ↔ text.toLower = format.tag) ∧
    (outputOrJpeg text = jpeg ↔ text.toLower ∉ ["png", "webp", "avif"]) := by
  refine ⟨fun format => parse_eq_ok_iff, parse_eq_error_iff, fun c hmem hc => ?outside,
    fun format => outputOrJpeg_eq_iff, ?jpeg⟩
  case outside =>
    refine ⟨parse_eq_error_iff.mpr fun format => not_named_of_outside hmem hc, ?_⟩
    rw [outputOrJpeg_eq_jpeg_iff]
    intro format hformat htag
    exact not_named_of_outside hmem hc ((named_iff_of_mem_byTagOnly hformat).mpr htag)
  case jpeg =>
    rw [outputOrJpeg_eq_jpeg_iff]
    simp [byTagOnly, tag]

/-- The dotted capital I begins with an i in lower case, and yet it makes no name. -/
theorem parse_ascii_case_dotted :
    parse "AV\u0130F" = .error (unsupported "AV\u0130F") ∧ outputOrJpeg "AV\u0130F" = jpeg ∧
      outputOrJpeg "AViF" = avif := by
  obtain ⟨-, -, houtside, -, -⟩ := parse_ascii_case "AV\u0130F"
  obtain ⟨-, -, -, htag, -⟩ := parse_ascii_case "AViF"
  obtain ⟨herror, hjpeg⟩ := houtside (Char.ofNat 0x130) (by decide) (by decide)
  have hlower : "AViF".toLower = avif.tag := by
    rw [← String.toList_inj, Unicode.toList_toLower]
    rfl
  exact ⟨herror, hjpeg, (htag avif (by decide)).mpr hlower⟩

end ImageChain.Format
