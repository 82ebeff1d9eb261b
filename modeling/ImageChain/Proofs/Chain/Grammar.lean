import ImageChain.Chain.Parser
import ImageChain.Proofs.Chain.Tags
import ImageChain.Proofs.Sequence
import ImageChain.Proofs.Text.Escape
import ImageChain.Proofs.Text.Fields
import ImageChain.Proofs.Text.Numeral

/-!
# The grammar of chains

`Described` says which words make a task, and the step that the task describes.
`Refused` says which words make none, and what the failure is.  Every row of
words falls under exactly one of the two, so the reader of chains accepts the
chains all of whose tasks are described, and nothing else; of any other chain it
reports the first task that is refused.

Words that a task has no use for are not looked at, except that a resize takes
exactly two.
-/

namespace ImageChain.Chain

/-! ## Arguments -/

/-- A number, as far as 32 bits go. -/
def saturated (value : Nat) : Nat :=
  min value (UInt32.size - 1)

theorem saturated_of_le {value : Nat} (hvalue : value ≤ UInt32.size - 1) :
    saturated value = value :=
  Nat.min_eq_left hvalue

theorem saturated_lt (value : Nat) : saturated value < UInt32.size := by
  have hsize : 0 < UInt32.size := by decide
  unfold saturated
  omega

/-- The quality that an argument asks for: the number that it is taken for, as far as 32 bits
go. -/
def AsksQuality (argument : Option String) (quality : UInt32) : Prop :=
  ∃ value, Lenient argument value ∧ quality.toNat = saturated value

/-- The output format that a text names, in any case of letters.  What names none of those that the
optimizer writes is taken for JPEG. -/
inductive NamesOutput (text : String) : Format → Prop where
  | tag {format : Format} (htag : Unicode.lowercase text = format.tag) (hgif : format ≠ .gif) :
      NamesOutput text format
  | other (hnone : ∀ format : Format, format ≠ .gif → Unicode.lowercase text ≠ format.tag) :
      NamesOutput text .jpeg

theorem numberArgument_of_lenient {argument : Option String} {value : Nat}
    (hlenient : Lenient argument value) : numberArgument argument = saturated value := by
  rw [← lenient_iff.mp hlenient]
  rfl

theorem AsksQuality.qualityArgument_eq {address : String} {others : List String} {quality : UInt32}
    (hquality : AsksQuality others[0]? quality) :
    qualityArgument (address :: others) = quality := by
  obtain ⟨value, hlenient, hvalue⟩ := hquality
  rw [qualityArgument, List.getElem?_cons_succ, numberArgument_of_lenient hlenient, ← hvalue,
    UInt32.ofNat_toNat]

theorem exists_asksQuality (argument : Option String) :
    ∃ quality, AsksQuality argument quality := by
  obtain ⟨value, hlenient⟩ := exists_lenient argument
  exact ⟨UInt32.ofNat (saturated value), value, hlenient,
    UInt32.toNat_ofNat_of_lt (saturated_lt value)⟩

theorem NamesOutput.outputOrJpeg_eq {text : String} {format : Format}
    (hnames : NamesOutput text format) : Format.outputOrJpeg text = format := by
  cases hnames with
  | tag htag hgif =>
      have hnamed : Format.Named text format := by
        rw [Format.Named, Format.lowercase_eq_tag_iff.mp htag]
        exact format.tag_mem_names
      rw [Format.outputOrJpeg, Format.parse_eq_ok_iff.mpr hnamed]
      cases format with
      | gif => exact absurd rfl hgif
      | _ => rfl
  | other hnone =>
      rw [Format.outputOrJpeg_eq_jpeg_iff]
      intro format hformat htag
      have hgif : format ≠ .gif := by
        rintro rfl
        exact absurd hformat (by decide)
      exact hnone format hgif (Format.lowercase_eq_tag_iff.mpr htag)

theorem exists_namesOutput (text : String) : ∃ format, NamesOutput text format := by
  by_cases htag : ∃ format : Format, format ≠ .gif ∧ Unicode.lowercase text = format.tag
  · obtain ⟨format, hgif, htag⟩ := htag
    exact ⟨format, .tag htag hgif⟩
  · exact ⟨.jpeg, .other fun format hgif heq => htag ⟨format, hgif, heq⟩⟩

theorem map_outputOrJpeg_eq {argument : Option String} {format : Option Format}
    (hnames : Option.Rel NamesOutput argument format) :
    argument.map Format.outputOrJpeg = format := by
  cases hnames with
  | some hnames => rw [Option.map_some, hnames.outputOrJpeg_eq]
  | none => rfl

theorem exists_rel_namesOutput (argument : Option String) :
    ∃ format, Option.Rel NamesOutput argument format := by
  cases argument with
  | none => exact ⟨none, .none⟩
  | some text =>
      obtain ⟨format, hnames⟩ := exists_namesOutput text
      exact ⟨some format, .some hnames⟩

/-! ## Tasks -/

/-- The words that are not taken for the name of a source. -/
def keywords : List String :=
  [proxyWord, optimizeWord, autoOptimizeWord, ResizeMode.fit.taskWord, ResizeMode.fill.taskWord]

/-- The words that make a task, and the step that the task describes. -/
inductive Described {σ : Type} (registry : Registry σ) (accept : String) :
    List String → Step σ → Prop where
  /-- A web address, query-escaped. -/
  | proxy {argument url : String} {others : List String} (hargument : argument ≠ "")
      (hurl : Unescapes (Utf8.encode argument) (Utf8.encode url)) :
      Described registry accept (proxyWord :: argument :: others) (.proxy url)
  /-- The address of an optimizer, and if need be a quality and an output format. -/
  | optimize {address : String} {others : List String} {quality : UInt32} {format : Option Format}
      (haddress : address ≠ "") (hquality : AsksQuality others[0]? quality)
      (hformat : Option.Rel NamesOutput others[1]? format) :
      Described registry accept (optimizeWord :: address :: others)
        (.optimize ⟨address, quality, .given format⟩)
  /-- The address of an optimizer, and if need be a quality. -/
  | autoOptimize {address : String} {others : List String} {quality : UInt32}
      (haddress : address ≠ "") (hquality : AsksQuality others[0]? quality) :
      Described registry accept (autoOptimizeWord :: address :: others)
        (.optimize ⟨address, quality, .accepted accept⟩)
  /-- A width and a height within the limit. -/
  | resize {mode : ResizeMode} {first second : String} {width height : Nat}
      (hwidth : Lenient (some first) width) (hheight : Lenient (some second) height)
      (hwide : width ≤ 16384) (hhigh : height ≤ 16384) :
      Described registry accept [mode.taskWord, first, second] (.resize ⟨mode, ⟨width, height⟩⟩)
  /-- The name of a source, and what to look up there. -/
  | find {word : String} {source : σ} {parameters : List String} (hword : word ∉ keywords)
      (hsource : registry.find? word = some source) :
      Described registry accept (word :: parameters) (.find word source parameters)

/-- The words that make no task, and the failure. -/
inductive Refused {σ : Type} (registry : Registry σ) : List String → Failure → Prop where
  /-- There is no web address. -/
  | noUrl {arguments : List String} (hmissing : arguments.headD "" = "") :
      Refused registry (proxyWord :: arguments) (.argument "proxy url can not be empty")
  /-- An escape of the web address is incomplete. -/
  | badEscape {argument : String} {others : List String} (hargument : argument ≠ "")
      (hnone : ∀ bytes, ¬ Unescapes (Utf8.encode argument) bytes) :
      Refused registry (proxyWord :: argument :: others)
        (.argument ("invalid URL escape in " ++ quote argument))
  /-- The web address stands for bytes that are no text. -/
  | noText {argument : String} {others : List String} {bytes : List UInt8} {fault : Utf8.Fault}
      (hargument : argument ≠ "") (hbytes : Unescapes (Utf8.encode argument) bytes)
      (hfault : Utf8.decode bytes = .error fault) :
      Refused registry (proxyWord :: argument :: others)
        (.argument ("invalid URL escape in " ++ quote argument ++ ": " ++ fault.message))
  /-- There is no address of an optimizer. -/
  | noAddress {word : String} {arguments : List String}
      (hword : word = optimizeWord ∨ word = autoOptimizeWord)
      (hmissing : arguments.headD "" = "") :
      Refused registry (word :: arguments) (.argument "optimize addr can not be empty")
  /-- There is not exactly a width and a height. -/
  | noBox {mode : ResizeMode} {arguments : List String} (hcount : arguments.length ≠ 2) :
      Refused registry (mode.taskWord :: arguments) (.argument
        s!"{mode.taskWord} expects width and height, got {arguments.length} argument(s)")
  /-- The width or the height is past the limit. -/
  | tooLarge {mode : ResizeMode} {first second : String} {width height : Nat}
      (hwidth : Lenient (some first) width) (hheight : Lenient (some second) height)
      (hlimit : 16384 < width ∨ 16384 < height) :
      Refused registry [mode.taskWord, first, second] (.argument
        s!"{mode.taskWord} {saturated width}×{saturated height} exceeds the {greatestSide}px limit")
  /-- No source has the name. -/
  | noSource {word : String} {parameters : List String} (hword : word ∉ keywords)
      (hnone : registry.find? word = none) :
      Refused registry (word :: parameters) (.notFound word)

section Tasks

variable {σ : Type} (registry : Registry σ) (accept : String)

/-! ### One keyword at a time -/

theorem parseWords_resize (mode : ResizeMode) (arguments : List String) :
    parseWords registry accept mode.taskWord arguments =
      (parseResize mode arguments).map .resize := by
  cases mode <;> rfl

theorem parseWords_of_notMem {word : String} (hword : word ∉ keywords) (parameters : List String) :
    parseWords registry accept word parameters =
      (registry.lookup word).map fun source => .find word source parameters := by
  simp only [keywords, List.mem_cons, List.not_mem_nil, or_false, not_or] at hword
  obtain ⟨hproxy, hoptimize, hauto, hfit, hfill⟩ := hword
  rw [parseWords, if_neg hproxy, if_neg hoptimize, if_neg hauto, if_neg hfit, if_neg hfill]

theorem requireFirst_of_missing (what : String) {arguments : List String}
    (hmissing : arguments.headD "" = "") :
    requireFirst what arguments = .error (.argument (what ++ " can not be empty")) := by
  cases arguments with
  | nil => rfl
  | cons first rest => exact if_pos hmissing

theorem requireFirst_of_ne (what : String) {first : String} (hfirst : first ≠ "")
    (rest : List String) : requireFirst what (first :: rest) = .ok first :=
  if_neg hfirst

theorem parseWords_optimize {address : String} (haddress : address ≠ "") (others : List String) :
    parseWords registry accept optimizeWord (address :: others) =
      .ok (.optimize ⟨address, qualityArgument (address :: others),
        .given (others[1]?.map Format.outputOrJpeg)⟩) := by
  have hparse : parseOptimize (address :: others) = .ok ⟨address,
      qualityArgument (address :: others), .given (others[1]?.map Format.outputOrJpeg)⟩ := by
    rw [parseOptimize, requireFirst_of_ne _ haddress]
    rfl
  exact congrArg (Except.map Step.optimize) hparse

theorem parseWords_autoOptimize {address : String} (haddress : address ≠ "")
    (others : List String) :
    parseWords registry accept autoOptimizeWord (address :: others) =
      .ok (.optimize ⟨address, qualityArgument (address :: others), .accepted accept⟩) := by
  have hparse : parseAutoOptimize accept (address :: others) =
      .ok ⟨address, qualityArgument (address :: others), .accepted accept⟩ := by
    rw [parseAutoOptimize, requireFirst_of_ne _ haddress]
    rfl
  exact congrArg (Except.map Step.optimize) hparse

/-- Bringing a side into the range of 32 bits does not bring it below the limit. -/
theorem greatestSide_lt_saturated_iff (side : Nat) :
    greatestSide < saturated side ↔ 16384 < side := by
  have hlimit : greatestSide = 16384 := rfl
  have hsize : greatestSide < UInt32.size - 1 := by decide
  unfold saturated
  omega

theorem parseBox_of_le {mode : ResizeMode} {first second : String} {width height : Nat}
    (hwidth : Lenient (some first) width) (hheight : Lenient (some second) height)
    (hwide : width ≤ 16384) (hhigh : height ≤ 16384) :
    parseBox mode [first, second] = .ok ⟨width, height⟩ := by
  rw [parseBox, numberArgument_of_lenient hwidth, numberArgument_of_lenient hheight]
  simp only [greatestSide_lt_saturated_iff]
  rw [if_neg (by omega), saturated_of_le (Nat.le_trans hwide (by decide)),
    saturated_of_le (Nat.le_trans hhigh (by decide))]

theorem parseBox_of_lt {mode : ResizeMode} {first second : String} {width height : Nat}
    (hwidth : Lenient (some first) width) (hheight : Lenient (some second) height)
    (hlimit : 16384 < width ∨ 16384 < height) :
    parseBox mode [first, second] = .error (.argument
      s!"{mode.taskWord} {saturated width}×{saturated height} exceeds the {greatestSide}px limit")
    := by
  rw [parseBox, numberArgument_of_lenient hwidth, numberArgument_of_lenient hheight]
  simp only [greatestSide_lt_saturated_iff]
  rw [if_pos hlimit]

theorem parseBox_of_length_ne {mode : ResizeMode} {arguments : List String}
    (hcount : arguments.length ≠ 2) :
    parseBox mode arguments = .error (.argument
      s!"{mode.taskWord} expects width and height, got {arguments.length} argument(s)") := by
  unfold parseBox
  split
  · exact absurd rfl hcount
  · rfl

end Tasks

/-! ### What the words of a task give -/

section

variable {σ : Type} {registry : Registry σ} {accept : String}

theorem Described.parseWords_eq {word : String} {arguments : List String} {step : Step σ}
    (hdescribed : Described registry accept (word :: arguments) step) :
    parseWords registry accept word arguments = .ok step := by
  cases hdescribed with
  | @proxy argument url others hargument hurl =>
      have hread : queryUnescape argument = .ok url := queryUnescape_eq_ok_iff.mpr hurl
      -- a text that is not empty does not stand for the empty one
      have hne : url ≠ "" := by
        rintro rfl
        exact hargument (Utf8.encode_injective (hurl.eq_nil_iff.mp rfl))
      have hparse : parseProxy (argument :: others) = .ok url := by
        rw [parseProxy, requireFirst_of_ne _ hargument]
        simp only [bind, Except.bind, hread, if_neg hne]
        rfl
      exact congrArg (Except.map Step.proxy) hparse
  | @optimize address others quality format haddress hquality hformat =>
      rw [parseWords_optimize registry accept haddress, hquality.qualityArgument_eq,
        map_outputOrJpeg_eq hformat]
  | @autoOptimize address others quality haddress hquality =>
      rw [parseWords_autoOptimize registry accept haddress, hquality.qualityArgument_eq]
  | @resize mode first second width height hwidth hheight hwide hhigh =>
      rw [parseWords_resize, parseResize, parseBox_of_le hwidth hheight hwide hhigh]
      rfl
  | @find word source parameters hword hsource =>
      rw [parseWords_of_notMem registry accept hword, Registry.lookup, hsource]
      rfl

theorem Refused.parseWords_eq {word : String} {arguments : List String} {failure : Failure}
    (hrefused : Refused registry (word :: arguments) failure) :
    parseWords registry accept word arguments = .error failure := by
  cases hrefused with
  | noUrl hmissing =>
      have hparse : parseProxy arguments = .error (.argument "proxy url can not be empty") := by
        rw [parseProxy, requireFirst_of_missing _ hmissing]
        rfl
      exact congrArg (Except.map Step.proxy) hparse
  | @badEscape argument others hargument hnone =>
      have hbytes : unescapeBytes (Utf8.encode argument) = none :=
        Option.eq_none_iff_forall_ne_some.mpr fun bytes hbytes =>
          hnone bytes (unescapeBytes_eq_some_iff.mp hbytes)
      have hparse : parseProxy (argument :: others) =
          .error (.argument ("invalid URL escape in " ++ quote argument)) := by
        rw [parseProxy, requireFirst_of_ne _ hargument]
        simp only [bind, Except.bind, queryUnescape_eq, hbytes]
      exact congrArg (Except.map Step.proxy) hparse
  | @noText argument others bytes fault hargument hbytes hfault =>
      have hparse : parseProxy (argument :: others) = .error (.argument
          ("invalid URL escape in " ++ quote argument ++ ": " ++ fault.message)) := by
        rw [parseProxy, requireFirst_of_ne _ hargument]
        simp only [bind, Except.bind, queryUnescape_eq, unescapeBytes_eq_some_iff.mpr hbytes, hfault]
      exact congrArg (Except.map Step.proxy) hparse
  | noAddress hword hmissing =>
      have hfirst := requireFirst_of_missing "optimize addr" hmissing
      rcases hword with rfl | rfl
      · have hparse : parseOptimize arguments =
            .error (.argument "optimize addr can not be empty") := by
          rw [parseOptimize, hfirst]
          rfl
        exact congrArg (Except.map Step.optimize) hparse
      · have hparse : parseAutoOptimize accept arguments =
            .error (.argument "optimize addr can not be empty") := by
          rw [parseAutoOptimize, hfirst]
          rfl
        exact congrArg (Except.map Step.optimize) hparse
  | noBox hcount =>
      rw [parseWords_resize, parseResize, parseBox_of_length_ne hcount]
      rfl
  | tooLarge hwidth hheight hlimit =>
      rw [parseWords_resize, parseResize, parseBox_of_lt hwidth hheight hlimit]
      rfl
  | noSource hword hnone =>
      rw [parseWords_of_notMem registry accept hword, Registry.lookup, hnone]
      rfl

/-- A side past the limit is refused, whatever the other one is. -/
theorem parseWords_of_large_side (registry : Registry σ) (accept : String) (mode : ResizeMode)
    {width height side : String} {value : Nat} (hside : side ∈ [width, height])
    (hlenient : Lenient (some side) value) (hlimit : 16384 < value) :
    ∃ reason, parseWords registry accept mode.taskWord [width, height] =
      .error (.argument reason) := by
  rcases List.mem_pair.mp hside with rfl | rfl
  · obtain ⟨other, hother⟩ := exists_lenient (some height)
    exact ⟨_, (Refused.tooLarge hlenient hother (Or.inl hlimit)).parseWords_eq⟩
  · obtain ⟨other, hother⟩ := exists_lenient (some width)
    exact ⟨_, (Refused.tooLarge hother hlenient (Or.inr hlimit)).parseWords_eq⟩

/-! ### There is no third case -/

/-- A row of words is a task or is refused. -/
def Settled (registry : Registry σ) (accept : String) (words : List String) : Prop :=
  (∃ step, Described registry accept words step) ∨ ∃ failure, Refused registry words failure

theorem settled_proxy (registry : Registry σ) (accept : String) (arguments : List String) :
    Settled registry accept (proxyWord :: arguments) := by
  cases arguments with
  | nil => exact Or.inr ⟨_, .noUrl rfl⟩
  | cons argument others =>
      by_cases hargument : argument = ""
      · exact Or.inr ⟨_, .noUrl hargument⟩
      · by_cases hbytes : ∃ bytes, Unescapes (Utf8.encode argument) bytes
        · obtain ⟨bytes, hbytes⟩ := hbytes
          cases hdecode : Utf8.decode bytes with
          | error fault => exact Or.inr ⟨_, .noText hargument hbytes hdecode⟩
          | ok url =>
              rw [← Utf8.decode_eq_ok_iff.mp hdecode] at hbytes
              exact Or.inl ⟨_, .proxy hargument hbytes⟩
        · exact Or.inr ⟨_, .badEscape hargument (not_exists.mp hbytes)⟩

theorem settled_optimize (registry : Registry σ) (accept : String) {word : String}
    (hword : word = optimizeWord ∨ word = autoOptimizeWord) (arguments : List String) :
    Settled registry accept (word :: arguments) := by
  by_cases hmissing : arguments.headD "" = ""
  · exact Or.inr ⟨_, .noAddress hword hmissing⟩
  · cases arguments with
    | nil => exact absurd rfl hmissing
    | cons address others =>
        obtain ⟨quality, hquality⟩ := exists_asksQuality others[0]?
        obtain ⟨format, hformat⟩ := exists_rel_namesOutput others[1]?
        rcases hword with rfl | rfl
        · exact Or.inl ⟨_, .optimize hmissing hquality hformat⟩
        · exact Or.inl ⟨_, .autoOptimize hmissing hquality⟩

theorem settled_resize (registry : Registry σ) (accept : String) (mode : ResizeMode)
    (arguments : List String) : Settled registry accept (mode.taskWord :: arguments) := by
  by_cases hcount : arguments.length = 2
  · obtain ⟨first, second, rfl⟩ := List.length_eq_two.mp hcount
    obtain ⟨width, hwidth⟩ := exists_lenient (some first)
    obtain ⟨height, hheight⟩ := exists_lenient (some second)
    by_cases hlimit : 16384 < width ∨ 16384 < height
    · exact Or.inr ⟨_, .tooLarge hwidth hheight hlimit⟩
    · exact Or.inl ⟨_, .resize hwidth hheight (by omega) (by omega)⟩
  · exact Or.inr ⟨_, .noBox hcount⟩

theorem settled (registry : Registry σ) (accept word : String) (arguments : List String) :
    Settled registry accept (word :: arguments) := by
  by_cases hword : word ∈ keywords
  · simp only [keywords, List.mem_cons, List.not_mem_nil, or_false] at hword
    rcases hword with rfl | hoptimize | hauto | rfl | rfl
    · exact settled_proxy registry accept arguments
    · exact settled_optimize registry accept (Or.inl hoptimize) arguments
    · exact settled_optimize registry accept (Or.inr hauto) arguments
    · exact settled_resize registry accept .fit arguments
    · exact settled_resize registry accept .fill arguments
  · cases hsource : registry.find? word with
    | none => exact Or.inr ⟨_, .noSource hword hsource⟩
    | some source => exact Or.inl ⟨_, .find hword hsource⟩

/-! ### What a task gives -/

theorem parseTask_cases (registry : Registry σ) (accept task : String) :
    ∃ word arguments, fields '/' task = word :: arguments ∧
      parseTask registry accept task = parseWords registry accept word arguments := by
  obtain ⟨word, arguments, hfields⟩ := List.exists_cons_of_ne_nil (fields_ne_nil '/' task)
  refine ⟨word, arguments, hfields, ?_⟩
  rw [parseTask, hfields]
  rfl

theorem parseTask_eq_ok_iff {task : String} {step : Step σ} :
    parseTask registry accept task = .ok step ↔
      Described registry accept (fields '/' task) step := by
  obtain ⟨word, arguments, hfields, hparse⟩ := parseTask_cases registry accept task
  rw [hparse, hfields]
  refine ⟨fun hstep => ?_, Described.parseWords_eq⟩
  rcases settled registry accept word arguments with ⟨found, hfound⟩ | ⟨failure, hfailure⟩
  · rw [hfound.parseWords_eq] at hstep
    cases hstep
    exact hfound
  · rw [hfailure.parseWords_eq] at hstep
    cases hstep

theorem parseTask_eq_error_iff {task : String} {failure : Failure} :
    parseTask registry accept task = .error failure ↔
      Refused registry (fields '/' task) failure := by
  obtain ⟨word, arguments, hfields, hparse⟩ := parseTask_cases registry accept task
  rw [hparse, hfields]
  refine ⟨fun hstep => ?_, Refused.parseWords_eq⟩
  rcases settled registry accept word arguments with ⟨step, hfound⟩ | ⟨other, hother⟩
  · rw [hfound.parseWords_eq] at hstep
    cases hstep
  · rw [hother.parseWords_eq] at hstep
    cases hstep
    exact hother

end

/-! ## Chains -/

section

variable {σ : Type} {registry : Registry σ} {accept chain : String}

theorem parse_eq_ok_iff {steps : List (Step σ)} :
    parse registry accept chain = .ok steps ↔
      List.Forall₂ (fun task step => Described registry accept (fields '/' task) step)
        (fields '|' chain) steps := by
  simp only [parse, mapM_eq_ok_iff, parseTask_eq_ok_iff]

/-- Every step of a chain is described by a task of it. -/
theorem exists_described_of_mem {steps : List (Step σ)} {step : Step σ}
    (hparse : parse registry accept chain = .ok steps) (hmem : step ∈ steps) :
    ∃ task ∈ fields '|' chain, Described registry accept (fields '/' task) step := by
  obtain ⟨hlength, hdescribed⟩ := List.forall₂_iff_get.mp (parse_eq_ok_iff.mp hparse)
  obtain ⟨place, hplace, rfl⟩ := List.getElem_of_mem hmem
  have htask : place < (fields '|' chain).length := hlength ▸ hplace
  exact ⟨_, List.getElem_mem htask, hdescribed place htask hplace⟩

theorem parse_eq_error_iff {failure : Failure} :
    parse registry accept chain = .error failure ↔
      ∃ before task after, fields '|' chain = before ++ task :: after ∧
        (∀ earlier ∈ before, ∃ step, Described registry accept (fields '/' earlier) step) ∧
        Refused registry (fields '/' task) failure := by
  simp only [parse, mapM_eq_error_iff, parseTask_eq_ok_iff, parseTask_eq_error_iff]

/-! ### One task of a chain -/

/-- A chain has a task of these words, with the tasks `before` in front of it and the tasks `after`
behind it. -/
def HasTask (chain : String) (before words after : List String) : Prop :=
  ∃ task, fields '|' chain = before ++ task :: after ∧ fields '/' task = words

theorem parseTask_of_fields {task word : String} {arguments : List String}
    (htask : fields '/' task = word :: arguments) :
    parseTask registry accept task = parseWords registry accept word arguments := by
  rw [parseTask, htask]
  rfl

/-- The first task that is refused gives the failure of the chain. -/
theorem HasTask.parse_eq_error {before arguments after : List String} {word : String}
    {failure : Failure} (htask : HasTask chain before (word :: arguments) after)
    (hbefore : ∀ earlier ∈ before, ∃ step, parseTask registry accept earlier = .ok step)
    (hrefused : parseWords registry accept word arguments = .error failure) :
    parse registry accept chain = .error failure := by
  obtain ⟨task, hchain, hwords⟩ := htask
  rw [parse, hchain]
  exact mapM_append_of_error hbefore ((parseTask_of_fields hwords).trans hrefused)

/-- Only what a task gives counts for the chain, not how it is written. -/
theorem HasTask.parse_congr {before arguments others after : List String} {other word : String}
    (hfirst : HasTask chain before (word :: arguments) after)
    (hsecond : HasTask other before (word :: others) after)
    (hsame : parseWords registry accept word arguments =
      parseWords registry accept word others) :
    parse registry accept chain = parse registry accept other := by
  obtain ⟨task, hchain, hwords⟩ := hfirst
  obtain ⟨substitute, hother, hothers⟩ := hsecond
  have htask : parseTask registry accept task = parseTask registry accept substitute := by
    rw [parseTask_of_fields hwords, parseTask_of_fields hothers, hsame]
  rw [parse, parse, hchain, hother, List.mapM_append, List.mapM_append, List.mapM_cons,
    List.mapM_cons, htask]

end

/-- **The reader of chains takes exactly what the grammar describes.**  The steps are those that
the tasks describe, one for each; and if a task is refused, the failure is that of the first one
that is. -/
theorem parse_described {σ : Type} (registry : Registry σ) (accept chain : String) :
    ((∃ steps, parse registry accept chain = .ok steps) ↔
      ∀ task ∈ fields '|' chain, ∃ step, Described registry accept (fields '/' task) step) ∧
    (∀ steps, parse registry accept chain = .ok steps ↔
      List.Forall₂ (fun task step => Described registry accept (fields '/' task) step)
        (fields '|' chain) steps) ∧
    (∀ failure, parse registry accept chain = .error failure ↔
      ∃ before task after, fields '|' chain = before ++ task :: after ∧
        (∀ earlier ∈ before, ∃ step, Described registry accept (fields '/' earlier) step) ∧
        Refused registry (fields '/' task) failure) := by
  refine ⟨?_, fun _ => parse_eq_ok_iff, fun _ => parse_eq_error_iff⟩
  simp only [parse_eq_ok_iff]
  exact exists_forall₂_iff

example : parse (.empty : Registry Nat) "" "fitResize/abc/-5" = .ok [.resize ⟨.fit, ⟨0, 0⟩⟩] := rfl

example : parse (.empty : Registry Nat) "" "fitResize/1/1|missing/x|proxy" =
    .error (.notFound "missing") := rfl

end ImageChain.Chain
