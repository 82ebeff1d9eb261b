import Mathlib
import ImageChain.Codec.Plain
import ImageChain.Offline
import ImageChain.Proofs.Source.Confinement
import ImageChain.Proofs.Text.Escape

/-!
# Lookup parameters that are wrong

Each kind of source has its own demands on the parameters of a lookup, and
`Misdirects` collects them in the words of what the parameters stand for: a
count, a query-escaped text, a walk below a directory, an object id.  Whether a
lookup fails for its parameters is decided before anything is touched, so the
kind of the failure tells a wrong lookup from a source that does not work.

`request_of_misdirects` and `request_of_not_misdirects` say this of the request that
a source makes.  What performs a request may do anything in any monad, and it
only reports failures of its own kind; this is `OfBackend`, which every outcome
of `perform` and of decoding has.
-/

namespace ImageChain

/-! ## Object ids -/

/-- A character that is a hexadecimal digit, in either case. -/
def IsHexDigit (c : Char) : Prop :=
  ('0' ≤ c ∧ c ≤ '9') ∨ ('a' ≤ c ∧ c ≤ 'f') ∨ ('A' ≤ c ∧ c ≤ 'F')

instance : DecidablePred IsHexDigit := fun _ => inferInstanceAs (Decidable (_ ∨ _))

/-- Twenty-four hexadecimal digits. -/
structure ObjectId.Spelled (text : String) : Prop where
  /-- There are as many characters as two for each byte. -/
  length : text.toList.length = 24
  /-- Every character is a digit. -/
  digits : ∀ c ∈ text.toList, IsHexDigit c

namespace ObjectId

/-- The character of a byte. -/
def charOf (b : UInt8) : Char := Char.ofNat b.toNat

theorem isHexDigit_charOf (b : UInt8) : IsHexDigit (charOf b) ↔ (hexValue b).isSome := by
  revert b
  exact forall_byte (by decide +kernel)

theorem utf8EncodeChar_charOf (b : UInt8) :
    (hexValue b).isSome → String.utf8EncodeChar (charOf b) = [b] := by
  revert b
  exact forall_byte (by decide +kernel)

theorem charOf_toUInt8 {c : Char} (hdigit : IsHexDigit c) : charOf c.toNat.toUInt8 = c := by
  have hsmall : c.toNat < 256 := by
    have hupper : c ≤ 'f' := by
      rcases hdigit with hdigit | hdigit | hdigit
      · exact Char.le_trans hdigit.2 (by decide)
      · exact hdigit.2
      · exact Char.le_trans hdigit.2 (by decide)
    exact Nat.lt_of_le_of_lt hupper (by decide)
  rw [charOf, Nat.toUInt8_eq, UInt8.toNat_ofNat', Nat.mod_eq_of_lt hsmall, Char.ofNat_toNat]

theorem encode_digits {digits : List UInt8} (hdigits : ∀ b ∈ digits, (hexValue b).isSome) :
    Utf8.encode (String.ofList (digits.map charOf)) = digits := by
  rw [Utf8.encode_ofList, List.flatMap_map]
  calc digits.flatMap (fun b => String.utf8EncodeChar (charOf b))
      = digits.flatMap (fun b => [b]) :=
        List.flatMap_congr fun b hb => utf8EncodeChar_charOf b (hdigits b hb)
    _ = digits := List.flatMap_singleton' digits

theorem spelled_iff {text : String} :
    Spelled text ↔
      (Utf8.encode text).length = 24 ∧ ∀ b ∈ Utf8.encode text, (hexValue b).isSome := by
  constructor
  · rintro ⟨hlength, hchars⟩
    have hdigits : ∀ b ∈ text.toList.map fun c => c.toNat.toUInt8, (hexValue b).isSome := by
      intro b hb
      obtain ⟨c, hc, rfl⟩ := List.mem_map.mp hb
      rw [← isHexDigit_charOf, charOf_toUInt8 (hchars c hc)]
      exact hchars c hc
    -- a digit is one byte, so characters and bytes are counted alike
    have hback : (text.toList.map fun c => c.toNat.toUInt8).map charOf = text.toList := by
      rw [List.map_map]
      calc text.toList.map (charOf ∘ fun c => c.toNat.toUInt8)
          = text.toList.map id := List.map_congr_left fun c hc => charOf_toUInt8 (hchars c hc)
        _ = text.toList := List.map_id _
    have hencode := encode_digits hdigits
    rw [hback, String.ofList_toList] at hencode
    rw [hencode]
    exact ⟨by rw [List.length_map, hlength], hdigits⟩
  · rintro ⟨hlength, hdigits⟩
    have htext : text.toList = (Utf8.encode text).map charOf := by
      have hsame := congrArg String.toList (Utf8.encode_injective (encode_digits hdigits))
      rw [String.toList_ofList] at hsame
      exact hsame.symm
    constructor
    case length => rw [htext, List.length_map, hlength]
    case digits =>
      intro c hc
      rw [htext] at hc
      obtain ⟨b, hb, rfl⟩ := List.mem_map.mp hc
      exact (isHexDigit_charOf b).mpr (hdigits b hb)

theorem readHexFrom_cases (digits : List UInt8) (place : Nat) (heven : digits.length % 2 = 0) :
    (∃ bytes, readHexFrom place digits = .ok bytes ∧ digits.length = 2 * bytes.length ∧
        ∀ b ∈ digits, (hexValue b).isSome) ∨
      (∃ fault, readHexFrom place digits = .error fault) ∧ ∃ b ∈ digits, hexValue b = none := by
  induction place, digits using readHexFrom.induct with
  | case1 place high low rest hhigh =>
      refine .inr ⟨⟨(high, place), ?_⟩, high, List.mem_cons_self, hhigh⟩
      rw [readHexFrom, hhigh]
  | case2 place high low rest first hlow hhigh =>
      refine .inr ⟨⟨(low, place + 1), ?_⟩, low, List.mem_cons_of_mem _ List.mem_cons_self, hlow⟩
      rw [readHexFrom, hhigh, hlow]
  | case3 place high low rest first second hlow hhigh ih =>
      have hrest : rest.length % 2 = 0 := by
        rw [List.length_cons, List.length_cons] at heven
        omega
      rcases ih hrest with ⟨bytes, hread, hlength, hdigits⟩ | ⟨⟨fault, hread⟩, b, hb, hnone⟩
      · refine .inl ⟨(16 * first + second) :: bytes, ?_, ?_, ?_⟩
        · rw [readHexFrom, hhigh, hlow, hread]
          rfl
        · rw [List.length_cons, List.length_cons, List.length_cons, hlength]
          omega
        · rw [List.forall_mem_cons, List.forall_mem_cons, hhigh, hlow]
          exact ⟨rfl, rfl, hdigits⟩
      · refine .inr ⟨⟨fault, ?_⟩, b, List.mem_cons_of_mem _ (List.mem_cons_of_mem _ hb), hnone⟩
        rw [readHexFrom, hhigh, hlow, hread]
        rfl
  | case4 digits place hshort =>
      match digits with
      | [] => exact .inl ⟨[], rfl, rfl, List.forall_mem_nil _⟩
      | [digit] => cases heven
      | high :: low :: rest => exact (hshort high low rest rfl).elim

/-- An object id is read exactly if it is spelled out. -/
theorem parse_cases (text : String) :
    (Spelled text ∧ ∃ id, parse text = .ok id) ∨
      ¬ Spelled text ∧ ∃ reason, parse text = .error (.argument reason) := by
  unfold parse read
  rw [spelled_iff]
  dsimp only
  by_cases hodd : (Utf8.encode text).length % 2 = 1
  · rw [if_pos hodd]
    exact .inr ⟨fun hspelled => by omega, _, rfl⟩
  · rw [if_neg hodd]
    have heven : (Utf8.encode text).length % 2 = 0 := by omega
    rcases readHexFrom_cases (Utf8.encode text) 0 heven with
      ⟨bytes, hread, hlength, hdigits⟩ | ⟨⟨fault, hread⟩, b, hb, hnone⟩
    · rw [hread]
      dsimp only
      by_cases hcount : bytes.length = byteCount
      · rw [if_pos hcount]
        rw [hcount] at hlength
        exact .inl ⟨⟨hlength, hdigits⟩, _, rfl⟩
      · rw [if_neg hcount]
        refine .inr ⟨fun hspelled => hcount ?_, _, rfl⟩
        unfold byteCount
        omega
    · rw [hread]
      refine .inr ⟨fun hspelled => ?_, _, rfl⟩
      have hdigit := hspelled.2 b hb
      rw [hnone] at hdigit
      cases hdigit

end ObjectId

/-! ## What parameters have to say -/

theorem requireParameters_of_le {least : Nat} {parameters : List String}
    (henough : least ≤ parameters.length) (source : String) :
    requireParameters source least parameters = .ok () :=
  if_neg (Nat.not_lt.mpr henough)

theorem requireParameters_of_lt (least : Nat) {parameters : List String}
    (hfew : parameters.length < least) (source : String) :
    ∃ reason, requireParameters source least parameters = .error (.argument reason) :=
  ⟨_, if_pos hfew⟩

theorem queryUnescape_cases (text : String) :
    (∃ decoded, Unescapes (Utf8.encode text) (Utf8.encode decoded) ∧
        queryUnescape text = .ok decoded) ∨
      (∀ decoded, ¬ Unescapes (Utf8.encode text) (Utf8.encode decoded)) ∧
        ∃ reason, queryUnescape text = .error (.argument reason) := by
  cases hread : queryUnescape text with
  | ok decoded => exact .inl ⟨decoded, queryUnescape_eq_ok_iff.mp hread, rfl⟩
  | error failure =>
      refine .inr ⟨fun decoded hunescapes => ?_, ?_⟩
      · rw [queryUnescape_eq_ok_iff.mpr hunescapes] at hread
        cases hread
      · rw [queryUnescape_eq] at hread
        split at hread
        · cases hread
          exact ⟨_, rfl⟩
        · split at hread <;> cases hread
          exact ⟨_, rfl⟩

theorem Path.resolveWithin_cases (base relative : String) :
    (Stays (components relative) ∧ walk (components relative) ≠ [] ∧
        ∃ path, resolveWithin base relative = .ok path) ∨
      (¬ Stays (components relative) ∨ walk (components relative) = []) ∧
        ∃ reason, resolveWithin base relative = .error (.argument reason) := by
  by_cases hstays : Stays (components relative)
  · by_cases hwalk : walk (components relative) = []
    · exact .inr ⟨.inr hwalk, resolveWithin_of_walk_eq_nil base hstays hwalk⟩
    · obtain ⟨path, hpath, -⟩ := resolveWithin_of_stays base hstays hwalk
      exact .inl ⟨hstays, hwalk, path, hpath⟩
  · exact .inr ⟨.inl hstays, resolveWithin_of_leaves base hstays⟩

namespace Source

/-- How many parameters a lookup needs. -/
def needed : Source → Nat
  | directory _ => 1
  | web _ => 1
  | store _ _ => 2
  | files _ => 1

/-- Parameters that no lookup in a source may be given. -/
inductive Misdirects : Source → List String → Prop where
  /-- There are too few of them. -/
  | few {source : Source} {parameters : List String} (hfew : parameters.length < source.needed) :
      Misdirects source parameters
  /-- An escape is incomplete, or no hexadecimal digits follow. -/
  | escape {upstream : Upstream} {first : String} {rest : List String}
      (hescape : ∀ bytes, ¬ Unescapes (Utf8.encode first) bytes) :
      Misdirects (web upstream) (first :: rest)
  /-- The bytes that are written encode no text. -/
  | text {upstream : Upstream} {first : String} {rest : List String} {bytes : List UInt8}
      (hbytes : Unescapes (Utf8.encode first) bytes) (htext : ∀ text, Utf8.encode text ≠ bytes) :
      Misdirects (web upstream) (first :: rest)
  /-- The path goes up from the directory. -/
  | outside {base first : String} {rest : List String}
      (hleaves : ¬ Path.Stays (Path.components first)) : Misdirects (directory base) (first :: rest)
  /-- The path is the directory itself. -/
  | itself {base first : String} {rest : List String}
      (hwalk : Path.walk (Path.components first) = []) : Misdirects (directory base) (first :: rest)
  /-- The object id is not spelled out. -/
  | id {stored : FileStore} {first : String} {rest : List String}
      (hid : ¬ ObjectId.Spelled first) : Misdirects (files stored) (first :: rest)

/-! ### Few parameters -/

theorem request_of_few {source : Source} {parameters : List String}
    (hfew : parameters.length < source.needed) :
    ∃ reason, source.request parameters = .error (.argument reason) := by
  cases source with
  | directory base =>
      obtain ⟨reason, hcount⟩ := requireParameters_of_lt 1 hfew "file"
      exact ⟨reason, by rw [request, directoryRequest, hcount]; rfl⟩
  | web upstream =>
      obtain ⟨reason, hcount⟩ := requireParameters_of_lt 1 hfew "http"
      exact ⟨reason, by rw [request, webRequest, hcount]; rfl⟩
  | store kind objects =>
      obtain ⟨reason, hcount⟩ := requireParameters_of_lt 2 hfew kind.name
      exact ⟨reason, by rw [request, storeRequest, hcount]; rfl⟩
  | files stored =>
      obtain ⟨reason, hcount⟩ := requireParameters_of_lt 1 hfew "gridfs"
      exact ⟨reason, by rw [request, filesRequest, hcount]; rfl⟩

/-! ### Enough parameters -/

theorem one_le_length_cons (first : String) (rest : List String) : 1 ≤ (first :: rest).length :=
  Nat.succ_le_succ (Nat.zero_le _)

theorem directory_request (base first : String) (rest : List String) :
    (directory base).request (first :: rest) =
      (Path.resolveWithin base first).map fun path => (.file path, directory base) := by
  rw [request, directoryRequest, requireParameters_of_le (one_le_length_cons first rest),
    List.headD_cons]
  cases Path.resolveWithin base first <;> rfl

theorem web_request (upstream : Upstream) (first : String) (rest : List String) :
    (web upstream).request (first :: rest) =
      (queryUnescape first).bind fun path =>
        match upstream.pick with
        | some (host, after) => .ok (.web (host ++ path), web after)
        | none => .error (.backend "No healthy http upstream") := by
  rw [request, webRequest, requireParameters_of_le (one_le_length_cons first rest),
    List.headD_cons]
  cases queryUnescape first with
  | error failure => rfl
  | ok path =>
      dsimp only [Except.bind, bind, Except.map]
      cases upstream.pick <;> rfl

theorem store_request (kind : StoreKind) (objects : Store) (bucket key : String)
    (rest : List String) :
    (store kind objects).request (bucket :: key :: rest) =
      .ok (.object kind objects bucket key, store kind objects) := by
  have henough : 2 ≤ (bucket :: key :: rest).length :=
    Nat.succ_le_succ (Nat.succ_le_succ (Nat.zero_le _))
  rw [request, storeRequest, requireParameters_of_le henough]
  rfl

theorem files_request (stored : FileStore) (first : String) (rest : List String) :
    (files stored).request (first :: rest) =
      (ObjectId.parse first).map fun id =>
        (.stored stored (rest.headD FileStore.defaultBucket) id, files stored) := by
  rw [request, filesRequest, requireParameters_of_le (one_le_length_cons first rest),
    List.headD_cons]
  cases ObjectId.parse first <;> rfl

/-! ### All parameters -/

/-- Parameters that are wrong make a wrong argument. -/
theorem request_of_misdirects {source : Source} {parameters : List String}
    (hwrong : source.Misdirects parameters) :
    ∃ reason, source.request parameters = .error (.argument reason) := by
  cases hwrong with
  | few hfew => exact request_of_few hfew
  | @escape upstream first rest hescape =>
      rcases queryUnescape_cases first with ⟨decoded, hdecoded, -⟩ | ⟨-, reason, hread⟩
      · exact (hescape _ hdecoded).elim
      · exact ⟨reason, by rw [web_request, hread]; rfl⟩
  | @text upstream first rest bytes hbytes htext =>
      rcases queryUnescape_cases first with ⟨decoded, hdecoded, -⟩ | ⟨-, reason, hread⟩
      · rw [← unescapeBytes_eq_some_iff] at hbytes hdecoded
        exact (htext decoded (Option.some.inj (hdecoded.symm.trans hbytes))).elim
      · exact ⟨reason, by rw [web_request, hread]; rfl⟩
  | @outside base first rest hleaves =>
      obtain ⟨reason, hpath⟩ := Path.resolveWithin_of_leaves base hleaves
      exact ⟨reason, by rw [directory_request, hpath]; rfl⟩
  | @itself base first rest hwalk =>
      rcases Path.resolveWithin_cases base first with ⟨-, hbelow, -⟩ | ⟨-, reason, hpath⟩
      · exact (hbelow hwalk).elim
      · exact ⟨reason, by rw [directory_request, hpath]; rfl⟩
  | @id stored first rest hid =>
      rcases ObjectId.parse_cases first with ⟨hspelled, -⟩ | ⟨-, reason, hparse⟩
      · exact (hid hspelled).elim
      · exact ⟨reason, by rw [files_request, hparse]; rfl⟩

/-- All others make a request, unless there is nobody who could be asked. -/
theorem request_of_not_misdirects {source : Source} {parameters : List String}
    (hright : ¬ source.Misdirects parameters) :
    (∃ request after, source.request parameters = .ok (request, after)) ∨
      ∃ reason, source.request parameters = .error (.backend reason) := by
  have henough : source.needed ≤ parameters.length :=
    Nat.not_lt.mp fun hfew => hright (.few hfew)
  cases source with
  | directory base =>
      obtain ⟨first, rest, rfl⟩ := List.exists_cons_of_length_pos henough
      rcases Path.resolveWithin_cases base first with ⟨-, -, path, hpath⟩ | ⟨hleaves | hwalk, -⟩
      · exact .inl ⟨_, _, by rw [directory_request, hpath]; rfl⟩
      · exact (hright (.outside hleaves)).elim
      · exact (hright (.itself hwalk)).elim
  | web upstream =>
      obtain ⟨first, rest, rfl⟩ := List.exists_cons_of_length_pos henough
      rcases queryUnescape_cases first with ⟨path, -, hread⟩ | ⟨hnone, -⟩
      · rw [web_request, hread]
        cases hpick : upstream.pick with
        | none => exact .inr ⟨_, rfl⟩
        | some picked => exact .inl ⟨_, _, rfl⟩
      · by_cases hbytes : ∃ bytes, Unescapes (Utf8.encode first) bytes
        · obtain ⟨bytes, hbytes⟩ := hbytes
          have htext : ∀ text, Utf8.encode text ≠ bytes := by
            rintro text rfl
            exact hnone text hbytes
          exact (hright (.text hbytes htext)).elim
        · exact (hright (.escape fun bytes hescape => hbytes ⟨bytes, hescape⟩)).elim
  | store kind objects =>
      obtain ⟨bucket, others, rfl⟩ := List.exists_cons_of_length_pos (Nat.lt_of_succ_lt henough)
      obtain ⟨key, rest, rfl⟩ := List.exists_cons_of_length_pos (Nat.lt_of_succ_lt_succ henough)
      exact .inl ⟨_, _, store_request kind objects bucket key rest⟩
  | files stored =>
      obtain ⟨first, rest, rfl⟩ := List.exists_cons_of_length_pos henough
      rcases ObjectId.parse_cases first with ⟨-, id, hparse⟩ | ⟨hid, -⟩
      · exact .inl ⟨_, _, by rw [files_request, hparse]; rfl⟩
      · exact (hright (.id hid)).elim

end Source

/-! ## Performing a request -/

/-- A failure, if there is one, is that of a source that could not do its work. -/
def OfBackend {α : Type} (outcome : Except Failure α) : Prop :=
  ∀ failure, outcome = .error failure → ∃ reason, failure = .backend reason

theorem ofBackend_ok {α : Type} (value : α) : OfBackend (.ok value : Except Failure α) := by
  intro failure hfailure
  cases hfailure

theorem ofBackend_backend {α : Type} (reason : String) :
    OfBackend (.error (.backend reason) : Except Failure α) := by
  intro failure hfailure
  cases hfailure
  exact ⟨reason, rfl⟩

theorem Codec.ofBackend_decode [Codecs] (bytes : ByteArray) : OfBackend (decode bytes) := by
  unfold decode
  split
  · exact ofBackend_backend _
  · split
    · exact ofBackend_backend _
    · split
      · exact ofBackend_ok _
      · exact ofBackend_backend _

theorem Image.ofBackend_decode [Codecs] (bytes : ByteArray) : OfBackend (decode bytes) := by
  have hcodec := Codec.ofBackend_decode bytes
  unfold decode
  cases hdecode : Codec.decode bytes with
  | ok found => exact ofBackend_ok _
  | error failure =>
      rw [hdecode] at hcodec
      intro other hother
      cases hother
      exact hcodec failure rfl

section Performing

variable {m : Type → Type} [Monad m] [LawfulMonad m]

/-- Whatever the outside answers, what is made of the answer counts. -/
theorem ofBackend_lift_bind {α β : Type} (ask : m α) {next : α → ExceptT Failure m β}
    (hnext : ∀ answer, SatisfiesM OfBackend (next answer).run) :
    SatisfiesM OfBackend (ExceptT.lift ask >>= next).run := by
  rw [ExceptT.run_bind, ExceptT.run_lift, bind_map_left]
  exact SatisfiesM.bind .trivial fun answer _ => hnext answer

theorem Request.ofBackend_getObject (backends : Backends m) (kind : StoreKind) (store : Store)
    (bucket key : String) :
    SatisfiesM OfBackend (getObject backends kind store bucket key).run := by
  unfold getObject
  dsimp only
  by_cases hnames : (!namesObject bucket key) = true
  · simp only [if_pos hnames]
    rw [ExceptT.run_bind, ExceptT.run_throw, pure_bind]
    exact .pure (ofBackend_backend _)
  · simp only [if_neg hnames]
    refine ofBackend_lift_bind _ fun answer => ?_
    cases answer with
    | ok bytes => exact .pure (ofBackend_ok bytes)
    | error reason => exact .pure (ofBackend_backend _)

theorem Request.ofBackend_perform (backends : Backends m) (request : Request) :
    SatisfiesM OfBackend (request.perform backends).run := by
  cases request with
  | file path =>
      refine ofBackend_lift_bind _ fun answer => ?_
      cases answer with
      | ok bytes => exact .pure (ofBackend_ok bytes)
      | error reason => exact .pure (ofBackend_backend _)
  | web url =>
      refine ofBackend_lift_bind _ fun answer => ?_
      cases answer with
      | error reason => exact .pure (ofBackend_backend _)
      | ok reply =>
          dsimp only
          split
          · exact .pure (ofBackend_ok reply.body)
          · exact .pure (ofBackend_backend _)
  | object kind store bucket key => exact ofBackend_getObject backends kind store bucket key
  | stored store bucket id =>
      refine ofBackend_lift_bind _ fun answer => ?_
      cases answer with
      | ok bytes => exact .pure (ofBackend_ok bytes)
      | error fault => cases fault <;> exact .pure (ofBackend_backend _)

/-! ## Looking up -/

namespace Catalog

section Lookup

variable [Codecs]

theorem find_of_error (backends : Backends m) {catalog : Catalog} {place : Nat} {source : Source}
    (hsource : catalog.sources[place]? = some source) {parameters : List String}
    {failure : Failure} (hrequest : source.request parameters = .error failure) :
    (find backends place parameters).run.run catalog = pure (.error failure, catalog) := by
  unfold find
  simp only [ExceptT.run_mk, StateT.run_bind, StateT.run_get, pure_bind, hsource, hrequest,
    StateT.run_pure]

theorem ofBackend_find_of_ok (backends : Backends m) {catalog : Catalog} {place : Nat}
    {source after : Source} (hsource : catalog.sources[place]? = some source)
    {parameters : List String} {request : Request}
    (hrequest : source.request parameters = .ok (request, after)) :
    SatisfiesM (fun result : Except Failure Image × Catalog => OfBackend result.1)
      ((find backends place parameters).run.run catalog) := by
  unfold find
  simp only [ExceptT.run_mk, StateT.run_bind, StateT.run_get, pure_bind, hsource, hrequest]
  refine SatisfiesM.bind .trivial fun changed _ => ?_
  have hperform : SatisfiesM (fun performed : Except Failure ByteArray × Catalog =>
      OfBackend performed.1) ((StateT.lift (request.perform backends).run).run changed.2) :=
    SatisfiesM.bind (request.ofBackend_perform backends) fun result hresult => .pure hresult
  refine SatisfiesM.bind hperform ?_
  rintro ⟨result, rest⟩ hresult
  cases result with
  | error failure => exact .pure fun other hother => hresult other (by cases hother; rfl)
  | ok bytes => exact .pure (Image.ofBackend_decode bytes)

/-- **A lookup fails for its parameters exactly if they are wrong, and then it touches nothing.**  Any
other failure is that of the source. -/
theorem find_of_parameters (backends : Backends m) {catalog : Catalog} {place : Nat}
    {source : Source} (hsource : catalog.sources[place]? = some source)
    (parameters : List String) :
    (source.Misdirects parameters →
      (∃ reason, (find backends place parameters).run.run catalog =
        pure (.error (.argument reason), catalog)) ∧
      ∀ world log, catalog.askedBy world place parameters log = log) ∧
    (¬ source.Misdirects parameters →
      SatisfiesM (fun result : Except Failure Image × Catalog =>
          ∀ reason, result.1 ≠ .error (.argument reason))
        ((find backends place parameters).run.run catalog)) := by
  constructor
  · intro hwrong
    obtain ⟨reason, hrequest⟩ := Source.request_of_misdirects hwrong
    refine ⟨⟨reason, find_of_error backends hsource hrequest⟩, fun world log => ?_⟩
    rw [askedBy_eq, requested_of_error hsource hrequest, List.append_nil]
  · intro hright
    have hother : SatisfiesM (fun result : Except Failure Image × Catalog => OfBackend result.1)
        ((find backends place parameters).run.run catalog) := by
      rcases Source.request_of_not_misdirects hright with ⟨request, after, hrequest⟩ |
        ⟨reason, hrequest⟩
      · exact ofBackend_find_of_ok backends hsource hrequest
      · rw [find_of_error backends hsource hrequest]
        exact .pure (ofBackend_backend reason)
    refine hother.imp fun hbackend reason hargument => ?_
    obtain ⟨other, hfailure⟩ := hbackend _ hargument
    cases hfailure

end Lookup

/-- A way out of a directory that leads back into it, and an object whose bucket has no name. -/
theorem find_of_parameters_images :
    let backends : Backends Id := .offline fun _ => .error "No such file or directory"
    let store : Source := .store .minio ⟨"127.0.0.1", some 9000, "", ""⟩
    let catalog : Catalog := ⟨#[.directory "/srv/images", store]⟩
    catalog.sources[0]? = some (.directory "/srv/images") ∧ catalog.sources[1]? = some store ∧
      (Source.directory "/srv/images").Misdirects ["../images/a.png"] ∧
      (∃ reason, (find backends 0 ["../images/a.png"]).run.run catalog =
        pure (.error (.argument reason), catalog)) ∧
      ¬ store.Misdirects ["", "a.png"] ∧
      ∀ reason, ((find backends 1 ["", "a.png"]).run.run catalog).1 ≠ .error (.argument reason) := by
  intro backends store catalog
  have hout : (Source.directory "/srv/images").Misdirects ["../images/a.png"] := by
    refine .outside fun hstays => ?_
    exact hstays [] [.name "images", .name "a.png"] (by decide +kernel) rfl
  have hunnamed : ¬ store.Misdirects ["", "a.png"] := by
    unfold store
    rintro ⟨hfew⟩
    exact absurd hfew (by decide)
  have hfirst : catalog.sources[0]? = some (.directory "/srv/images") := rfl
  have hsecond : catalog.sources[1]? = some store := rfl
  have hrefused := (find_of_parameters backends hfirst _).1 hout
  have hlookup := (find_of_parameters backends hsecond _).2 hunnamed
  exact ⟨hfirst, hsecond, hout, hrefused.1, hunnamed, SatisfiesM_Id_eq.mp hlookup⟩

end Catalog

end Performing

end ImageChain
