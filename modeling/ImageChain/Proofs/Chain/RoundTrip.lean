import ImageChain.Proofs.Chain.Grammar
import ImageChain.Proofs.Registry.Lookup

/-!
# Writing chains

A list of steps is written as a chain: the words of a step with slashes between
them, and the steps with bars.  What is written is read back as the same steps,
whatever the registry, as long as every step is `Writable`.  A step is not when
a chain has no way to ask for it (a mark, or a box past the limit), when it does
not look the way a chain would ask for it (an empty address, GIF as the output
format), or when one of its words has a slash or a bar in it.

Nothing of this is about the reader: a writing falls under the grammar, and
`parse_eq_ok_iff` does the rest.
-/

namespace ImageChain.Chain

variable {σ : Type}

/-! ## Writings -/

/-- The words of a quality: its digits, or no word at all if it is zero. -/
def qualityWordings (quality : UInt32) : List (List String) :=
  if quality = 0 then [[toString quality.toNat], []] else [[toString quality.toNat]]

/-- The ways to write a step as a task.  A quality has to be written if a format follows. -/
def writings : Step σ → List String
  | .resize resize => [resize.name]
  | .watermark _ => []
  | .proxy url => ["/".intercalate [proxyWord, queryEscape url]]
  | .find name _ parameters => ["/".intercalate (name :: parameters)]
  | .optimize ⟨address, quality, .given (some format)⟩ =>
    ["/".intercalate [optimizeWord, address, toString quality.toNat, format.tag]]
  | .optimize ⟨address, quality, .given none⟩ =>
    (qualityWordings quality).map fun words => "/".intercalate (optimizeWord :: address :: words)
  | .optimize ⟨address, quality, .accepted _⟩ =>
    (qualityWordings quality).map fun words =>
      "/".intercalate (autoOptimizeWord :: address :: words)

/-- Whether a text can be one word of a task. -/
def IsWord (text : String) : Prop :=
  '/' ∉ text.toList ∧ '|' ∉ text.toList

instance (text : String) : Decidable (IsWord text) :=
  inferInstanceAs (Decidable (_ ∧ _))

/-- The steps that a chain can ask for. -/
inductive Writable (registry : Registry σ) (accept : String) : Step σ → Prop where
  /-- The box is within the limit. -/
  | resize {resize : Resize} (hwide : resize.box.width ≤ 16384)
      (hhigh : resize.box.height ≤ 16384) : Writable registry accept (.resize resize)
  /-- There is a web address. -/
  | proxy {url : String} (hurl : url ≠ "") : Writable registry accept (.proxy url)
  /-- There is an address that is one word, and a format that the optimizer writes, if any. -/
  | optimize {address : String} {quality : UInt32} {format : Option Format}
      (haddress : address ≠ "") (hword : IsWord address) (hgif : format ≠ some .gif) :
      Writable registry accept (.optimize ⟨address, quality, .given format⟩)
  /-- There is an address that is one word, and the accept hint is the one at hand. -/
  | autoOptimize {address : String} {quality : UInt32} (haddress : address ≠ "")
      (hword : IsWord address) :
      Writable registry accept (.optimize ⟨address, quality, .accepted accept⟩)
  /-- The name is that of the source and no keyword, and all are words. -/
  | find {name : String} {source : σ} {parameters : List String}
      (hsource : registry.find? name = some source) (hkeyword : name ∉ keywords)
      (hname : IsWord name) (hparameters : ∀ parameter ∈ parameters, IsWord parameter) :
      Writable registry accept (.find name source parameters)

/-! ## Words -/

theorem isWord_toString (n : Nat) : IsWord (toString n) := by
  rw [IsWord, Nat.toString_eq_ofList_toDigits, String.toList_ofList]
  have hdigits := (isDigits_toDigits n).2
  exact ⟨fun hc => absurd (hdigits _ hc) (by decide), fun hc => absurd (hdigits _ hc) (by decide)⟩

theorem isWord_queryEscape (text : String) : IsWord (queryEscape text) :=
  ⟨fun hc => notMem_queryEscape hc (by decide), fun hc => notMem_queryEscape hc (by decide)⟩

theorem isWord_tag (format : Format) : IsWord format.tag := by
  cases format <;> decide

/-- The words of a task are the fields of its text, and there is no bar among them. -/
theorem fields_intercalate_of_isWord {words : List String} (hne : words ≠ [])
    (hwords : ∀ word ∈ words, IsWord word) :
    fields '/' ("/".intercalate words) = words ∧ '|' ∉ ("/".intercalate words).toList := by
  refine ⟨fields_intercalate hne fun word hmem => (hwords word hmem).1, fun hbar => ?_⟩
  rcases mem_intercalate hbar with hslash | ⟨word, hmem, hword⟩
  · exact absurd hslash (by decide)
  · exact (hwords word hmem).2 hword

theorem resize_name_eq (resize : Resize) :
    resize.name = "/".intercalate
      [resize.mode.taskWord, toString resize.box.width, toString resize.box.height] := by
  have hname : resize.name = resize.mode.taskWord ++ "/" ++ toString resize.box.width ++ "/" ++
      toString resize.box.height := rfl
  rw [hname, String.intercalate_cons_cons, String.intercalate_cons_cons,
    String.intercalate_singleton]
  simp only [String.append_assoc]

/-! ## Reading a writing -/

theorem asksQuality_toString (quality : UInt32) :
    AsksQuality (some (toString quality.toNat)) quality := by
  have hlt : quality.toNat < UInt32.size := quality.toNat_lt_size
  have hsize : UInt32.size ≤ greatestInt64 := by decide
  exact ⟨quality.toNat, lenient_toString (by omega), (saturated_of_le (by omega)).symm⟩

theorem namesOutput_tag {format : Format} (hgif : format ≠ .gif) :
    NamesOutput format.tag format := by
  refine .tag ?_ hgif
  cases format <;> decide +kernel

/-- The words of a quality are words that ask for it, and no format follows. -/
theorem qualityWordings_spec {quality : UInt32} {words : List String}
    (hmem : words ∈ qualityWordings quality) :
    (∀ word ∈ words, IsWord word) ∧ AsksQuality words[0]? quality ∧ words[1]? = none := by
  have hwritten : ∀ word ∈ [toString quality.toNat], IsWord word := by
    intro word hword
    rw [List.mem_singleton.mp hword]
    exact isWord_toString quality.toNat
  unfold qualityWordings at hmem
  split at hmem
  · next hzero =>
      rcases List.mem_pair.mp hmem with rfl | rfl
      · exact ⟨hwritten, asksQuality_toString quality, rfl⟩
      · subst hzero
        exact ⟨List.forall_mem_nil _, ⟨0, .missing, rfl⟩, rfl⟩
  · rw [List.mem_singleton.mp hmem]
    exact ⟨hwritten, asksQuality_toString quality, rfl⟩

/-- A text is one task, and describes the step. -/
def ReadsAs (registry : Registry σ) (accept text : String) (step : Step σ) : Prop :=
  '|' ∉ text.toList ∧ Described registry accept (fields '/' text) step

theorem readsAs_intercalate {registry : Registry σ} {accept : String} {words : List String}
    {step : Step σ} (hdescribed : Described registry accept words step)
    (hwords : ∀ word ∈ words, IsWord word) :
    ReadsAs registry accept ("/".intercalate words) step := by
  have hne : words ≠ [] := by
    rintro rfl
    cases hdescribed
  obtain ⟨hfields, hbar⟩ := fields_intercalate_of_isWord hne hwords
  rw [ReadsAs, hfields]
  exact ⟨hbar, hdescribed⟩

theorem readsAs_resize {registry : Registry σ} {accept : String} {resize : Resize}
    (hwide : resize.box.width ≤ 16384) (hhigh : resize.box.height ≤ 16384) :
    ReadsAs registry accept resize.name (.resize resize) := by
  have hmode : IsWord resize.mode.taskWord := by
    cases resize.mode <;> decide
  rw [resize_name_eq]
  refine readsAs_intercalate (.resize (lenient_toString (Nat.le_trans hwide (by decide)))
    (lenient_toString (Nat.le_trans hhigh (by decide))) hwide hhigh) ?_
  simp only [List.forall_mem_cons]
  exact ⟨hmode, isWord_toString _, isWord_toString _, List.forall_mem_nil _⟩

theorem readsAs_proxy {registry : Registry σ} {accept url : String} (hurl : url ≠ "") :
    ReadsAs registry accept ("/".intercalate [proxyWord, queryEscape url]) (.proxy url) := by
  have hescape : queryEscape url ≠ "" := by
    intro hempty
    have hnil : Utf8.encode (queryEscape url) = [] := by
      rw [hempty]
      rfl
    exact hurl (Utf8.encode_injective ((unescapes_queryEscape url).eq_nil_iff.mpr hnil))
  refine readsAs_intercalate (.proxy hescape (unescapes_queryEscape url)) ?_
  simp only [List.forall_mem_cons]
  exact ⟨by decide, isWord_queryEscape url, List.forall_mem_nil _⟩

theorem readsAs_of_mem_writings {registry : Registry σ} {accept text : String} {step : Step σ}
    (hwritable : Writable registry accept step) (hmem : text ∈ writings step) :
    ReadsAs registry accept text step := by
  cases hwritable with
  | @resize resize hwide hhigh =>
      rw [List.mem_singleton.mp hmem]
      exact readsAs_resize hwide hhigh
  | @proxy url hurl =>
      rw [List.mem_singleton.mp hmem]
      exact readsAs_proxy hurl
  | @optimize address quality format haddress hword hgif =>
      cases format with
      | none =>
          obtain ⟨words, hwords, rfl⟩ := List.mem_map.mp hmem
          obtain ⟨hall, hquality, hnone⟩ := qualityWordings_spec hwords
          refine readsAs_intercalate (.optimize haddress hquality (hnone ▸ .none)) ?_
          exact List.forall_mem_cons.mpr ⟨by decide, List.forall_mem_cons.mpr ⟨hword, hall⟩⟩
      | some format =>
          have htag : NamesOutput format.tag format :=
            namesOutput_tag fun heq => hgif (congrArg some heq)
          rw [List.mem_singleton.mp hmem]
          refine readsAs_intercalate
            (.optimize haddress (asksQuality_toString quality) (.some htag)) ?_
          simp only [List.forall_mem_cons]
          exact ⟨by decide, hword, isWord_toString _, isWord_tag format, List.forall_mem_nil _⟩
  | @autoOptimize address quality haddress hword =>
      obtain ⟨words, hwords, rfl⟩ := List.mem_map.mp hmem
      obtain ⟨hall, hquality, -⟩ := qualityWordings_spec hwords
      refine readsAs_intercalate (.autoOptimize haddress hquality) ?_
      exact List.forall_mem_cons.mpr ⟨by decide, List.forall_mem_cons.mpr ⟨hword, hall⟩⟩
  | @find name source parameters hsource hkeyword hname hparameters =>
      rw [List.mem_singleton.mp hmem]
      exact readsAs_intercalate (.find hkeyword hsource)
        (List.forall_mem_cons.mpr ⟨hname, hparameters⟩)

theorem writings_ne_nil {registry : Registry σ} {accept : String} {step : Step σ}
    (hwritable : Writable registry accept step) : writings step ≠ [] := by
  have hquality : ∀ quality, qualityWordings quality ≠ [] := by
    intro quality
    unfold qualityWordings
    split <;> exact List.cons_ne_nil _ _
  cases hwritable with
  | resize | proxy | find => exact List.cons_ne_nil _ _
  | @optimize address quality format =>
      cases format with
      | none => exact List.map_eq_nil_iff.not.mpr (hquality quality)
      | some format => exact List.cons_ne_nil _ _
  | @autoOptimize address quality => exact List.map_eq_nil_iff.not.mpr (hquality quality)

/-! ## Lists of steps -/

theorem parse_intercalate {registry : Registry σ} {accept : String} {texts : List String}
    {steps : List (Step σ)} (hne : steps ≠ [])
    (hreads : List.Forall₂ (ReadsAs registry accept) texts steps) :
    parse registry accept ("|".intercalate texts) = .ok steps := by
  obtain ⟨hbars, hdescribed⟩ := (List.forall₂_and_left texts steps).mp hreads
  have htexts : texts ≠ [] := by
    rintro rfl
    exact hne (List.forall₂_nil_left_iff.mp hreads)
  have hfields : fields '|' ("|".intercalate texts) = texts := fields_intercalate htexts hbars
  rw [parse_eq_ok_iff, hfields]
  exact hdescribed

/-- A chain of one task that looks something up in a source. -/
theorem parse_find {registry : Registry σ} {name : String} {source : σ}
    (hsource : registry.find? name = some source) (hname : IsWord name) (hkeyword : name ∉ keywords)
    {parameters : List String} (hparameters : ∀ parameter ∈ parameters, IsWord parameter)
    (accept : String) :
    parse registry accept ("/".intercalate (name :: parameters)) =
      .ok [.find name source parameters] := by
  have hreads : ReadsAs registry accept ("/".intercalate (name :: parameters))
      (.find name source parameters) :=
    readsAs_of_mem_writings (.find hsource hkeyword hname hparameters) (List.mem_singleton_self _)
  have hparse := parse_intercalate (List.cons_ne_nil _ _) (.cons hreads .nil)
  rwa [String.intercalate_singleton] at hparse

/-- **What is written is read back.**  Steps that a chain can ask for have a writing, and whichever
is taken for each of them, the chain is read as the same steps. -/
theorem parse_writings (registry : Registry σ) (accept : String) (steps : List (Step σ))
    (hne : steps ≠ []) (hwritable : ∀ step ∈ steps, Writable registry accept step) :
    (∃ texts, List.Forall₂ (fun step text => text ∈ writings step) steps texts) ∧
    ∀ texts, List.Forall₂ (fun step text => text ∈ writings step) steps texts →
      parse registry accept ("|".intercalate texts) = .ok steps := by
  constructor
  · refine exists_forall₂_iff.mpr fun step hmem => ?_
    exact List.exists_mem_of_ne_nil _ (writings_ne_nil (hwritable step hmem))
  · intro texts hwritten
    have hboth := (List.forall₂_and_left steps texts).mpr ⟨hwritable, hwritten⟩
    refine parse_intercalate hne (List.Forall₂.flip (hboth.imp ?_))
    rintro step text ⟨hstep, htext⟩
    exact readsAs_of_mem_writings hstep htext

/-- A registry with one source, which is a number. -/
def oneSource : Registry Nat :=
  Registry.empty.insert "local" 7

/-- A step of every kind that a chain can ask for. -/
def someSteps : List (Step Nat) := [
  .find "local" 7 ["cat.png"],
  .resize ⟨.fit, ⟨800, 600⟩⟩,
  .proxy "http://a/é",
  .optimize ⟨"10.0.0.9:6002", 0, .given none⟩,
  .optimize ⟨"10.0.0.9:6002", 80, .given (some .webp)⟩,
  .optimize ⟨"10.0.0.9:6002", 90, .accepted "image/avif"⟩]

/-- A writing of each of them. -/
def someTexts : List String := [
  "local/cat.png",
  "fitResize/800/600",
  "proxy/http%3A%2F%2Fa%2F%C3%A9",
  "optimize/10.0.0.9:6002",
  "optimize/10.0.0.9:6002/80/webp",
  "autoOptimize/10.0.0.9:6002/90"]

/-- Steps of every kind, written and read back. -/
theorem parse_writings_someSteps :
    parse oneSource "image/avif" ("|".intercalate someTexts) = .ok someSteps := by
  have haddress : IsWord "10.0.0.9:6002" := by decide
  have hwritable : ∀ step ∈ someSteps, Writable oneSource "image/avif" step := by
    simp only [someSteps, List.forall_mem_cons]
    exact ⟨.find (by decide) (by decide) (by decide) (by decide),
      .resize (by decide) (by decide), .proxy (by decide),
      .optimize (by decide) haddress (by decide), .optimize (by decide) haddress (by decide),
      .autoOptimize (by decide) haddress, List.forall_mem_nil _⟩
  have hwritten : List.Forall₂ (fun step text => text ∈ writings step) someSteps someTexts := by
    simp only [someSteps, someTexts, List.forall₂_cons]
    decide +kernel
  exact (parse_writings oneSource "image/avif" someSteps (List.cons_ne_nil _ _) hwritable).2
    someTexts hwritten

end ImageChain.Chain
