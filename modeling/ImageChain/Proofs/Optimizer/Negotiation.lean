import ImageChain.Proofs.Optimizer.Requests
import ImageChain.Proofs.Text.Occurrence

/-!
# The formats that an accept hint mentions

An accept hint is a list of media types, each with parameters, and a parameter
can be a weight, which refuses the type if it is zero.  The choice of a format
is made without all this: a format counts as soon as the text of its media type
is anywhere in the hint.

`Mentions` says what this comes to in terms of the list.  The name of a media
type has no comma, no semicolon and no blank in it, so it can not lie across two
entries or two parameters, and it stands either in the media type of an entry or
in a parameter.  `Lists` is what a list is meant to say, and it is less: the
media type is that of an entry, and it is not refused.
-/

namespace ImageChain

namespace AcceptHint

/-! ## Entries -/

/-- The media type of an entry. -/
def mediaTypeOf (entry : String) : String :=
  trim ((fields ';' entry).headD "")

/-- The parameters of an entry. -/
def parametersOf (entry : String) : List String :=
  (fields ';' entry).tail.map trim

/-- A parameter that is a weight of zero, with any number of decimals. -/
inductive IsZeroWeight : List Char → Prop where
  | whole {q : Char} (hq : q = 'q' ∨ q = 'Q') : IsZeroWeight [q, '=', '0']
  | decimals {q : Char} {zeros : List Char} (hq : q = 'q' ∨ q = 'Q')
      (hzeros : ∀ c ∈ zeros, c = '0') : IsZeroWeight (q :: '=' :: '0' :: '.' :: zeros)

/-- An entry of a hint is for a format, and its weight is not zero. -/
def Lists (accept : String) (format : Format) : Prop :=
  ∃ entry ∈ fields ',' accept, mediaTypeOf entry = format.mediaType ∧
    ∀ parameter ∈ parametersOf entry, ¬ IsZeroWeight parameter.toList

/-- The media type of a format stands in that of an entry, or in a parameter. -/
def Mentions (accept : String) (format : Format) : Prop :=
  ∃ entry ∈ fields ',' accept,
    format.mediaType.toList <:+: (mediaTypeOf entry).toList ∨
      ∃ parameter ∈ parametersOf entry, format.mediaType.toList <:+: parameter.toList

theorem Lists.mentions {accept : String} {format : Format} (hlists : Lists accept format) :
    Mentions accept format := by
  obtain ⟨entry, hentry, htype, -⟩ := hlists
  exact ⟨entry, hentry, Or.inl (by rw [htype])⟩

/-! ## Mentions -/

/-- A media type has nothing in it that parts the hint. -/
theorem mediaType_plain (format : Format) :
    format.mediaType.toList ≠ [] ∧ ',' ∉ format.mediaType.toList ∧
      ';' ∉ format.mediaType.toList := by
  cases format <;> decide

theorem isBlank_of_mem_mediaType {format : Format} {c : Char}
    (hc : c ∈ format.mediaType.toList) : isBlank c = false := by
  have hprinted : format.mediaType.toList.all (fun c => 0x20 < c.toNat && c.toNat < 0x7F) := by
    cases format <;> decide
  have hc := List.all_eq_true.mp hprinted c hc
  rw [Bool.and_eq_true, decide_eq_true_eq, decide_eq_true_eq] at hc
  exact isBlank_of_printed hc.1 hc.2

theorem infix_trim_iff {format : Format} {text : String} :
    format.mediaType.toList <:+: (trim text).toList ↔
      format.mediaType.toList <:+: text.toList := by
  rw [trim, String.toList_ofList]
  exact ((trims_trimChars text.toList).infix_iff (mediaType_plain format).1
    fun _ => isBlank_of_mem_mediaType).symm

theorem infix_iff_exists_mem_fields {separator : Char} {format : Format}
    (hseparator : separator ∉ format.mediaType.toList) (text : String) :
    format.mediaType.toList <:+: text.toList ↔
      ∃ field ∈ fields separator text, format.mediaType.toList <:+: field.toList := by
  rw [infix_iff_exists_mem_splitChars (mediaType_plain format).1 hseparator, fields]
  simp

theorem infix_entry_iff {format : Format} {entry : String} :
    format.mediaType.toList <:+: entry.toList ↔
      format.mediaType.toList <:+: (mediaTypeOf entry).toList ∨
        ∃ parameter ∈ parametersOf entry, format.mediaType.toList <:+: parameter.toList := by
  obtain ⟨first, others, hfields⟩ := List.exists_cons_of_ne_nil (fields_ne_nil ';' entry)
  rw [infix_iff_exists_mem_fields (mediaType_plain format).2.2, mediaTypeOf, parametersOf,
    hfields, infix_trim_iff]
  simp [infix_trim_iff]

theorem acceptedBy_iff {accept : String} {format : Format} :
    format.acceptedBy accept = true ↔ Mentions accept format := by
  rw [Format.acceptedBy, Format.mentions_iff,
    infix_iff_exists_mem_fields (mediaType_plain format).2.1, Mentions]
  exact exists_congr fun entry => and_congr_right fun _ => infix_entry_iff

end AcceptHint

/-! ## The choice -/

/-- The choice of a format for an image of format `current`, if some formats are asked for. -/
inductive Preferred (asked : Format → Prop) (current : Option Format) : Option Format → Prop where
  | avif (havif : asked .avif) : Preferred asked current (some .avif)
  | webp (havif : ¬ asked .avif) (hwebp : asked .webp) : Preferred asked current (some .webp)
  | neither (havif : ¬ asked .avif) (hwebp : ¬ asked .webp) : Preferred asked current current

open AcceptHint

theorem preferred_negotiate (accept : String) (current : Option Format) :
    Preferred (Mentions accept) current (Format.negotiate accept current) := by
  unfold Format.negotiate
  split
  · next havif => exact .avif (acceptedBy_iff.mp havif)
  · next havif =>
    rw [acceptedBy_iff] at havif
    split
    · next hwebp => exact .webp havif (acceptedBy_iff.mp hwebp)
    · next hwebp => exact .neither havif (by rwa [acceptedBy_iff] at hwebp)

theorem Preferred.congr {asked others : Format → Prop} {current chosen : Option Format}
    (hpreferred : Preferred asked current chosen) (havif : asked .avif ↔ others .avif)
    (hwebp : asked .webp ↔ others .webp) : Preferred others current chosen := by
  cases hpreferred with
  | avif hasked => exact .avif (havif.mp hasked)
  | webp hnot hasked => exact .webp (mt havif.mpr hnot) (hwebp.mp hasked)
  | neither hnot hneither => exact .neither (mt havif.mpr hnot) (mt hwebp.mpr hneither)

/-! ## What comes of a step -/

section

variable [Codecs] {σ : Type} {m : Type → Type} [Monad m] [LawfulMonad m]

/-- An optimized image has the format that was asked for. -/
theorem format_of_runOptimize (services : Services σ m) (optimization : Optimization)
    (image : Image) :
    SatisfiesM (fun result : Except Failure Image => ∀ next, result = .ok next →
        next.format = some (Format.orJpeg (optimization.chosen image.format)))
      ((Step.optimize optimization).run services image).run := by
  simp only [Step.run, Step.runOptimize, ExceptT.run_bind, ExceptT.run_mk, pure_bind]
  cases optimization.request image with
  | error failure =>
      refine .pure ?_
      rintro next ⟨⟩
  | ok request =>
      refine SatisfiesM.bind .trivial fun answer _ => ?_
      cases answer with
      | error failure =>
          refine .pure ?_
          rintro next ⟨⟩
      | ok reply =>
          -- the image has the format that the request asked for, whatever the reply holds
          refine .pure ?_
          rintro next ⟨rfl⟩
          rw [← Optimization.output_eq]
          rfl

/-- **A format is chosen if the accept hint mentions it.**  AVIF comes before WebP, and if there is
neither, the current format stays.  Listing a format mentions it, so the choice goes by the list if
only formats are mentioned that are listed.  A step that goes by a hint leaves an image in the
format that is chosen, or in JPEG if that is GIF or none. -/
theorem negotiates_by_mentions (services : Services σ m) (accept address : String)
    (quality : UInt32) :
    (∀ current, Preferred (Mentions accept) current (Format.negotiate accept current)) ∧
    (∀ format, Lists accept format → Mentions accept format) ∧
    ((Mentions accept .avif → Lists accept .avif) →
      (Mentions accept .webp → Lists accept .webp) →
      ∀ current, Preferred (Lists accept) current (Format.negotiate accept current)) ∧
    ∀ image, SatisfiesM (fun result : Except Failure Image => ∀ next, result = .ok next →
        ∃ chosen, Preferred (Mentions accept) image.format chosen ∧
          next.format = some (Format.orJpeg chosen))
      ((Step.optimize ⟨address, quality, .accepted accept⟩).run services image).run := by
  refine ⟨preferred_negotiate accept, fun format => Lists.mentions, ?listed, fun image => ?_⟩
  case listed =>
    intro havif hwebp current
    exact (preferred_negotiate accept current).congr ⟨havif, Lists.mentions⟩
      ⟨hwebp, Lists.mentions⟩
  refine (format_of_runOptimize services ⟨address, quality, .accepted accept⟩ image).imp ?_
  intro result hformat next hnext
  exact ⟨_, preferred_negotiate accept image.format, hformat next hnext⟩

end

/-- A hint that lists WebP with a weight and does not mention AVIF. -/
theorem negotiates_by_mentions_weighted :
    ¬ Mentions "text/html, image/webp ;q=0.80" .avif ∧
      Lists "text/html, image/webp ;q=0.80" .webp ∧
      Preferred (Lists "text/html, image/webp ;q=0.80") (some .png)
        (Format.negotiate "text/html, image/webp ;q=0.80" (some .png)) := by
  have havif : ¬ Mentions "text/html, image/webp ;q=0.80" .avif := by
    rw [← acceptedBy_iff]
    decide
  have hwebp : Lists "text/html, image/webp ;q=0.80" .webp := by
    refine ⟨" image/webp ;q=0.80", by decide, by decide, ?_⟩
    have hparameters : parametersOf " image/webp ;q=0.80" = ["q=0.80"] := by decide
    rw [hparameters, List.forall_mem_singleton]
    have hcharacters : "q=0.80".toList = ['q', '=', '0', '.', '8', '0'] := rfl
    rw [hcharacters]
    intro hzero
    cases hzero with
    | decimals _ hzeros => exact absurd (hzeros '8' List.mem_cons_self) (by decide)
  obtain ⟨-, -, hlisted, -⟩ := negotiates_by_mentions oneByteServices
    "text/html, image/webp ;q=0.80" "a:1" 80
  exact ⟨havif, hwebp, hlisted (fun hmentions => absurd hmentions havif) (fun _ => hwebp) _⟩

/-- A hint whose only entry is refused. -/
theorem negotiate_refused_entry :
    ¬ Lists "image/avif;q=0" .avif ∧ ¬ Lists "image/avif;q=0" .webp ∧
      Format.negotiate "image/avif;q=0" (some .png) = some .avif ∧
      ¬ Preferred (Lists "image/avif;q=0") (some .png)
        (Format.negotiate "image/avif;q=0" (some .png)) := by
  have hentries : fields ',' "image/avif;q=0" = ["image/avif;q=0"] := rfl
  have havif : ¬ Lists "image/avif;q=0" .avif := by
    rintro ⟨entry, hentry, -, hweights⟩
    rw [hentries, List.mem_singleton] at hentry
    subst hentry
    have hweight : "q=0" ∈ parametersOf "image/avif;q=0" := by decide
    exact hweights "q=0" hweight (.whole (Or.inl rfl))
  have hwebp : ¬ Lists "image/avif;q=0" .webp := by
    rintro ⟨entry, hentry, htype, -⟩
    rw [hentries, List.mem_singleton] at hentry
    subst hentry
    exact absurd htype (by decide)
  have hchosen : Format.negotiate "image/avif;q=0" (some .png) = some .avif := by decide
  refine ⟨havif, hwebp, hchosen, ?_⟩
  rw [hchosen]
  intro hpreferred
  cases hpreferred with
  | avif hlists => exact havif hlists

end ImageChain
