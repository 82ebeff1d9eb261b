import ImageChain.Proofs.Chain.RoundTrip
import ImageChain.Proofs.Text.Unescaping

/-!
# The number of arguments

Each keyword is followed by a number of arguments that its task has a use for.
A resize counts what it is given.  The other keywords look at the places they
know, so a place without an argument is noticed and an argument without a place
is not: `parseWords_take` says that the surplus may as well be cut off.

`Heeds` is what it means that an argument is looked at, by what a task gives with
another text in its place.  For each place that a keyword knows there are texts
that make a difference: one that is refused, or else two that are accepted and
ask for different things.
-/

namespace ImageChain.Chain

/-! ## Keywords -/

/-- A keyword of a task. -/
inductive Keyword where
  | proxy
  | optimize
  | autoOptimize
  | resize (mode : ResizeMode)
  deriving DecidableEq

namespace Keyword

/-- The keyword as it is written. -/
def word : Keyword → String
  | proxy => proxyWord
  | optimize => optimizeWord
  | autoOptimize => autoOptimizeWord
  | resize mode => mode.taskWord

/-- The number of arguments that the keyword needs. -/
def least : Keyword → Nat
  | proxy | optimize | autoOptimize => 1
  | resize _ => 2

/-- The number of arguments that the keyword has a use for. -/
def greatest : Keyword → Nat
  | proxy => 1
  | optimize => 3
  | autoOptimize => 2
  | resize _ => 2

/-- Whether a task of the keyword counts its arguments. -/
def Counts (keyword : Keyword) : Prop :=
  ∃ mode, keyword = resize mode

end Keyword

section

variable {σ : Type} {registry : Registry σ} {accept : String} {keyword : Keyword}
  {arguments : List String}

/-! ## Too few arguments -/

theorem parseWords_of_missing (registry : Registry σ) (accept : String) (hloose : ¬ keyword.Counts)
    (hmissing : arguments.headD "" = "") :
    ∃ reason, parseWords registry accept keyword.word arguments = .error (.argument reason) := by
  cases keyword with
  | proxy => exact ⟨_, (Refused.noUrl hmissing).parseWords_eq⟩
  | optimize => exact ⟨_, (Refused.noAddress (Or.inl rfl) hmissing).parseWords_eq⟩
  | autoOptimize => exact ⟨_, (Refused.noAddress (Or.inr rfl) hmissing).parseWords_eq⟩
  | resize mode => exact absurd ⟨mode, rfl⟩ hloose

/-- Too few arguments are noticed by every keyword, and too many by those that count. -/
theorem parseWords_of_count (registry : Registry σ) (accept : String)
    (hcount : arguments.length < keyword.least ∨
      keyword.greatest < arguments.length ∧ keyword.Counts) :
    ∃ reason, parseWords registry accept keyword.word arguments = .error (.argument reason) := by
  by_cases hcounts : keyword.Counts
  · obtain ⟨mode, rfl⟩ := hcounts
    have hlength : arguments.length ≠ 2 := by
      rintro htwo
      rw [htwo] at hcount
      exact hcount.elim (Nat.lt_irrefl 2) fun hgreater => Nat.lt_irrefl 2 hgreater.1
    exact ⟨_, (Refused.noBox hlength).parseWords_eq⟩
  · have hleast : keyword.least = 1 := by
      cases keyword with
      | resize mode => exact absurd ⟨mode, rfl⟩ hcounts
      | _ => rfl
    have hlength : arguments.length < 1 := by
      rw [← hleast]
      exact hcount.resolve_right fun hgreater => hcounts hgreater.2
    have hnil : arguments = [] := List.length_eq_zero_iff.mp (Nat.lt_one_iff.mp hlength)
    exact parseWords_of_missing registry accept hcounts (by rw [hnil]; rfl)

/-! ## Too many arguments -/

/-- A task that does not count its arguments has no use for the surplus. -/
theorem parseWords_take (registry : Registry σ) (accept : String) (hloose : ¬ keyword.Counts)
    (arguments : List String) :
    parseWords registry accept keyword.word (arguments.take keyword.greatest) =
      parseWords registry accept keyword.word arguments := by
  cases keyword with
  | proxy =>
      match arguments with
      | [] | _ :: _ => rfl
  | optimize =>
      match arguments with
      | [] | [_] | [_, _] | _ :: _ :: _ :: _ => rfl
  | autoOptimize =>
      match arguments with
      | [] | [_] | _ :: _ :: _ => rfl
  | resize mode => exact absurd ⟨mode, rfl⟩ hloose

/-! ## Arguments that are looked at -/

/-- A task heeds the argument in a place if it gives something else with another text there. -/
def Heeds (registry : Registry σ) (accept : String) (keyword : Keyword) (arguments : List String)
    (place : Nat) : Prop :=
  ∃ other, parseWords registry accept keyword.word (arguments.set place other) ≠
    parseWords registry accept keyword.word arguments

theorem not_heeds_of_le (hloose : ¬ keyword.Counts) {place : Nat}
    (hplace : keyword.greatest ≤ place) : ¬ Heeds registry accept keyword arguments place := by
  rintro ⟨other, hne⟩
  refine hne ?_
  rw [← parseWords_take registry accept hloose (arguments.set place other),
    List.take_set_of_le hplace, parseWords_take registry accept hloose]

/-- Two texts that make a difference to each other can not both make none. -/
theorem heeds_of_ne {place : Nat} (first second : String)
    (hne : parseWords registry accept keyword.word (arguments.set place first) ≠
      parseWords registry accept keyword.word (arguments.set place second)) :
    Heeds registry accept keyword arguments place := by
  by_contra hnone
  have hsame := not_exists_not.mp hnone
  exact hne ((hsame first).trans (hsame second).symm)

theorem heeds_of_error {step : Step σ} {failure : Failure} {place : Nat} (other : String)
    (haccepted : parseWords registry accept keyword.word arguments = .ok step)
    (hrefused : parseWords registry accept keyword.word (arguments.set place other) =
      .error failure) : Heeds registry accept keyword arguments place := by
  refine ⟨other, ?_⟩
  rw [haccepted, hrefused]
  exact nofun

theorem heeds_zero {step : Step σ} (hloose : ¬ keyword.Counts)
    (haccepted : parseWords registry accept keyword.word arguments = .ok step)
    (hplace : 0 < arguments.length) : Heeds registry accept keyword arguments 0 := by
  obtain ⟨first, others, rfl⟩ := List.exists_cons_of_length_pos hplace
  have hmissing : ((first :: others).set 0 "").headD "" = "" := rfl
  obtain ⟨reason, hrefused⟩ := parseWords_of_missing registry accept hloose hmissing
  exact heeds_of_error "" haccepted hrefused

/-! ### Tasks for an optimizer -/

theorem ne_of_parseWords_eq_ok {address : String} {others : List String} {step : Step σ}
    (hloose : ¬ keyword.Counts)
    (haccepted : parseWords registry accept keyword.word (address :: others) = .ok step) :
    address ≠ "" := by
  rintro rfl
  have hmissing : ("" :: others).headD "" = "" := rfl
  obtain ⟨reason, hrefused⟩ := parseWords_of_missing registry accept hloose hmissing
  rw [haccepted] at hrefused
  cases hrefused

theorem qualityArgument_zero_ne_one (address : String) (others : List String) :
    qualityArgument (address :: "0" :: others) ≠ qualityArgument (address :: "1" :: others) := by
  have hzero : qualityArgument (address :: "0" :: others) = 0 := rfl
  have hone : qualityArgument (address :: "1" :: others) = 1 := rfl
  rw [hzero, hone]
  decide

theorem outputOrJpeg_png_ne_webp : Format.outputOrJpeg "png" ≠ Format.outputOrJpeg "webp" := by
  have hpng : Format.outputOrJpeg Format.png.tag = .png :=
    (namesOutput_tag (by decide)).outputOrJpeg_eq
  have hwebp : Format.outputOrJpeg Format.webp.tag = .webp :=
    (namesOutput_tag (by decide)).outputOrJpeg_eq
  intro heq
  have hsame : Format.png = .webp := hpng.symm.trans (heq.trans hwebp)
  cases hsame

/-- A task for an optimizer heeds its quality, whatever it makes of the arguments behind it. -/
theorem heeds_quality {address : String} {choice : List String → FormatChoice}
    (hwords : ∀ others, parseWords registry accept keyword.word (address :: others) =
      .ok (.optimize ⟨address, qualityArgument (address :: others), choice others⟩))
    (quality : String) (rest : List String) :
    Heeds registry accept keyword (address :: quality :: rest) 1 := by
  refine heeds_of_ne "0" "1" ?_
  show parseWords registry accept keyword.word (address :: "0" :: rest) ≠
    parseWords registry accept keyword.word (address :: "1" :: rest)
  rw [hwords, hwords]
  intro heq
  simp only [Except.ok.injEq, Step.optimize.injEq, Optimization.mk.injEq] at heq
  exact qualityArgument_zero_ne_one address rest heq.2.1

theorem heeds_format {address : String} (haddress : address ≠ "") (quality format : String)
    (rest : List String) :
    Heeds registry accept .optimize (address :: quality :: format :: rest) 2 := by
  refine heeds_of_ne "png" "webp" ?_
  show parseWords registry accept optimizeWord (address :: quality :: "png" :: rest) ≠
    parseWords registry accept optimizeWord (address :: quality :: "webp" :: rest)
  rw [parseWords_optimize registry accept haddress, parseWords_optimize registry accept haddress]
  intro heq
  simp only [Except.ok.injEq, Step.optimize.injEq, Optimization.mk.injEq,
    FormatChoice.given.injEq] at heq
  exact outputOrJpeg_png_ne_webp (Option.some_inj.mp heq.2.2)

theorem heeds_optimize {address : String} (haddress : address ≠ "") {others : List String}
    {place : Nat} (hplace : place < others.length) (hlt : place < 2) :
    Heeds registry accept .optimize (address :: others) (place + 1) := by
  match place, others with
  | 0, quality :: rest => exact heeds_quality (parseWords_optimize _ _ haddress) quality rest
  | 1, quality :: format :: rest => exact heeds_format haddress quality format rest

theorem heeds_autoOptimize {address : String} (haddress : address ≠ "") {others : List String}
    {place : Nat} (hplace : place < others.length) (hlt : place < 1) :
    Heeds registry accept .autoOptimize (address :: others) (place + 1) := by
  match place, others with
  | 0, quality :: rest =>
      exact heeds_quality (parseWords_autoOptimize _ _ haddress) quality rest

/-! ### Tasks for a box -/

theorem heeds_resize {mode : ResizeMode} {first second : String} {step : Step σ}
    (haccepted : parseWords registry accept mode.taskWord [first, second] = .ok step)
    {place : Nat} (hplace : place < 2) :
    Heeds registry accept (.resize mode) [first, second] place := by
  have hlarge : Lenient (some "16385") 16385 := lenient_iff.mpr (by decide)
  have hplaces : "16385" ∈ [first, second].set place "16385" := List.mem_set hplace "16385"
  match place with
  | 0 | 1 =>
      obtain ⟨reason, hrefused⟩ :=
        parseWords_of_large_side registry accept mode hplaces hlarge (by decide)
      exact heeds_of_error "16385" haccepted hrefused

/-- A task that is accepted heeds an argument exactly if its keyword has a use for it. -/
theorem heeds_iff {step : Step σ}
    (haccepted : parseWords registry accept keyword.word arguments = .ok step) {place : Nat}
    (hplace : place < arguments.length) :
    Heeds registry accept keyword arguments place ↔ place < keyword.greatest := by
  by_cases hcounts : keyword.Counts
  · -- a resize that is accepted has two arguments, and a use for both of them
    obtain ⟨mode, rfl⟩ := hcounts
    have hlength : arguments.length = 2 := by
      by_contra hne
      have hrefused : parseWords registry accept mode.taskWord arguments = .error _ :=
        (Refused.noBox hne).parseWords_eq
      cases haccepted.symm.trans hrefused
    obtain ⟨first, second, rfl⟩ := List.length_eq_two.mp hlength
    exact iff_of_true (heeds_resize haccepted hplace) hplace
  · refine ⟨fun hheeds => ?_, fun hlt => ?_⟩
    · by_contra hle
      exact not_heeds_of_le hcounts (Nat.le_of_not_lt hle) hheeds
    · obtain ⟨address, others, rfl⟩ :=
        List.exists_cons_of_length_pos (Nat.zero_lt_of_lt hplace)
      cases place with
      | zero => exact heeds_zero hcounts haccepted hplace
      | succ place =>
          have haddress := ne_of_parseWords_eq_ok hcounts haccepted
          have hplace := Nat.lt_of_succ_lt_succ hplace
          cases keyword with
          | proxy => exact absurd hlt (Nat.not_lt.mpr (Nat.le_add_left 1 place))
          | optimize => exact heeds_optimize haddress hplace (Nat.lt_of_succ_lt_succ hlt)
          | autoOptimize => exact heeds_autoOptimize haddress hplace (Nat.lt_of_succ_lt_succ hlt)
          | resize mode => exact absurd ⟨mode, rfl⟩ hcounts

end

/-! ## The main statement -/

/-- **A task with too few arguments is refused, and so is a resize with too many; of the other tasks
the surplus is dropped.**  A chain gives what it gives without the surplus, so an accepted task
heeds the arguments that its keyword has a use for and ignores the others. -/
theorem parse_drops_surplus {σ : Type} (registry : Registry σ) (accept : String) {chain : String}
    {before arguments after : List String} {keyword : Keyword}
    (htask : HasTask chain before (keyword.word :: arguments) after) :
    ((∀ earlier ∈ before, ∃ step, parseTask registry accept earlier = .ok step) →
      (arguments.length < keyword.least ∨
        keyword.greatest < arguments.length ∧ keyword.Counts) →
      ∃ reason, parse registry accept chain = .error (.argument reason)) ∧
    (¬ keyword.Counts → ∀ shorter : String,
      HasTask shorter before (keyword.word :: arguments.take keyword.greatest) after →
      parse registry accept shorter = parse registry accept chain) ∧
    (∀ step, parseWords registry accept keyword.word arguments = .ok step →
      ∀ place < arguments.length,
        Heeds registry accept keyword arguments place ↔ place < keyword.greatest) := by
  refine ⟨fun hbefore hcount => ?_, fun hloose shorter hshorter => ?_, ?_⟩
  · obtain ⟨reason, hrefused⟩ := parseWords_of_count registry accept hcount
    exact ⟨reason, htask.parse_eq_error hbefore hrefused⟩
  · exact hshorter.parse_congr htask (parseWords_take registry accept hloose arguments)
  · intro step haccepted place hplace
    exact heeds_iff haccepted hplace

/-- A fourth argument for an optimizer, which is dropped, and a third one for a box, which is
refused. -/
theorem parse_drops_surplus_optimize :
    parse (.empty : Registry Nat) "" "fitResize/1/1|optimize/a/80/png" =
        parse .empty "" "fitResize/1/1|optimize/a/80/png/x" ∧
      Heeds (.empty : Registry Nat) "" .optimize ["a", "80", "png", "x"] 2 ∧
      ¬ Heeds (.empty : Registry Nat) "" .optimize ["a", "80", "png", "x"] 3 ∧
      ∃ reason, parse (.empty : Registry Nat) "" "fitResize/1/1|fillResize/1/2/3" =
        .error (.argument reason) := by
  have htask : HasTask "fitResize/1/1|optimize/a/80/png/x" ["fitResize/1/1"]
      (Keyword.optimize.word :: ["a", "80", "png", "x"]) [] := ⟨"optimize/a/80/png/x", rfl, rfl⟩
  have hshorter : HasTask "fitResize/1/1|optimize/a/80/png" ["fitResize/1/1"]
      (Keyword.optimize.word :: ["a", "80", "png"]) [] := ⟨"optimize/a/80/png", rfl, rfl⟩
  have hbox : HasTask "fitResize/1/1|fillResize/1/2/3" ["fitResize/1/1"]
      ((Keyword.resize .fill).word :: ["1", "2", "3"]) [] := ⟨"fillResize/1/2/3", rfl, rfl⟩
  have hbefore : ∀ earlier ∈ ["fitResize/1/1"],
      ∃ step, parseTask (.empty : Registry Nat) "" earlier = .ok step := by
    intro earlier hmem
    rw [List.mem_singleton.mp hmem]
    exact ⟨_, rfl⟩
  obtain ⟨-, hdrops, hheeds⟩ := parse_drops_surplus (.empty : Registry Nat) "" htask
  obtain ⟨hcount, -, -⟩ := parse_drops_surplus (.empty : Registry Nat) "" hbox
  have hplaces := hheeds _ rfl
  refine ⟨hdrops nofun _ hshorter, (hplaces 2 (by decide)).mpr (by decide),
    fun hthird => absurd ((hplaces 3 (by decide)).mp hthird) (by decide),
    hcount hbefore (Or.inr ⟨by decide, .fill, rfl⟩)⟩

/-- The slashes of a web address cut it into arguments, and the first of them is taken for all. -/
theorem parse_truncated_address :
    HasTask "proxy/http://127.0.0.1/a.png" []
        (Keyword.proxy.word :: ["http:", "", "127.0.0.1", "a.png"]) [] ∧
      parse (.empty : Registry Nat) "" "proxy/http://127.0.0.1/a.png" = .ok [.proxy "http:"] ∧
      ¬ ∃ reason, parse (.empty : Registry Nat) "" "proxy/http://127.0.0.1/a.png" =
        .error (.argument reason) := by
  have hurl : Unescapes (Utf8.encode "http:") (Utf8.encode "http:") :=
    unescapes_self (by decide) (by decide)
  -- what the address stands for goes through its bytes, so this is read off the grammar
  have htask : Described (.empty : Registry Nat) ""
      (proxyWord :: "http:" :: ["", "127.0.0.1", "a.png"]) (.proxy "http:") :=
    .proxy (by decide) hurl
  have hparse : parse (.empty : Registry Nat) "" "proxy/http://127.0.0.1/a.png" =
      .ok [.proxy "http:"] := parse_eq_ok_iff.mpr (.cons htask .nil)
  refine ⟨⟨"proxy/http://127.0.0.1/a.png", rfl, rfl⟩, hparse, ?_⟩
  rintro ⟨reason, hrefused⟩
  cases hparse.symm.trans hrefused

end ImageChain.Chain
