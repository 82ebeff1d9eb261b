import ImageChain.Proofs.Optimizer.Fields
import ImageChain.Proofs.Sequence

/-!
# Messages that hold more than is known

A message is read field by field, and what is read is applied to the message so
far.  Fields of other numbers leave it as it is, so they may stand anywhere
between the fields that were written: `Interspersed` puts them there, byte for
byte, and `row_of_interspersed` says that the reader finds the known fields
among them in the same order.

What is left is to apply the fields of one message to another one.  Fields with
their usual content are not written, so `overriddenBy` keeps what was there for
each of those.  A `Layout` has what is particular to one kind of message, and
reading back is proved for any of them; requests and replies are two.

The only condition is that the bytes of an image can be counted with 64 bits.
-/

namespace ImageChain.Wire

/-! ## Fields in between -/

/-- The parts of a message behind one another, with fields in between whose numbers are not known. -/
inductive Interspersed (known : List Nat) : List (List UInt8) → List UInt8 → Prop where
  | nil : Interspersed known [] []
  | part {parts : List (List UInt8)} {bytes : List UInt8} (part : List UInt8)
      (hrest : Interspersed known parts bytes) : Interspersed known (part :: parts) (part ++ bytes)
  | between {parts : List (List UInt8)} {bytes extra : List UInt8} {field : Field}
      (hextra : Holds extra field) (hunknown : field.number ∉ known)
      (hrest : Interspersed known parts bytes) : Interspersed known parts (extra ++ bytes)

/-- The fields of known numbers. -/
def knownAmong (known : List Nat) (fields : List Field) : List Field :=
  fields.filter fun field => field.number ∈ known

theorem knownAmong_of_forall {known : List Nat} {fields : List Field}
    (hknown : ∀ field ∈ fields, field.number ∈ known) : knownAmong known fields = fields :=
  List.filter_eq_self.mpr fun field hfield => decide_eq_true (hknown field hfield)

theorem row_flatten {parts : List (List UInt8)} {written : List (List Field)}
    (hparts : List.Forall₂ Row parts written) : Row parts.flatten written.flatten := by
  induction hparts with
  | nil => exact .nil
  | cons hfirst _ ih => exact hfirst.append ih

theorem row_of_interspersed {known : List Nat} {parts : List (List UInt8)} {bytes : List UInt8}
    (hbytes : Interspersed known parts bytes) {written : List (List Field)}
    (hparts : List.Forall₂ Row parts written)
    (hknown : ∀ fields ∈ written, ∀ field ∈ fields, field.number ∈ known) :
    ∃ fields, Row bytes fields ∧ knownAmong known fields = written.flatten := by
  induction hbytes generalizing written with
  | nil =>
      cases hparts
      exact ⟨[], .nil, rfl⟩
  | part part _ ih =>
      obtain ⟨first, others, hfirst, hothers, rfl⟩ := List.forall₂_cons_left_iff.mp hparts
      rw [List.forall_mem_cons] at hknown
      obtain ⟨fields, hrow, hfields⟩ := ih hothers hknown.2
      refine ⟨first ++ fields, hfirst.append hrow, ?_⟩
      have hsame := knownAmong_of_forall hknown.1
      unfold knownAmong at hfields hsame ⊢
      rw [List.filter_append, hsame, hfields, List.flatten_cons]
  | @between _ _ _ field hextra hunknown _ ih =>
      obtain ⟨fields, hrow, hfields⟩ := ih hparts hknown
      refine ⟨field :: fields, .cons hextra hrow, ?_⟩
      rw [← hfields]
      exact List.filter_cons_of_neg (by simpa using hunknown)

theorem Interspersed.flatten (known : List Nat) (parts : List (List UInt8)) :
    Interspersed known parts parts.flatten := by
  induction parts with
  | nil => exact .nil
  | cons part rest ih => exact .part part ih

theorem foldlM_knownAmong {μ : Type} {apply : μ → Field → Option μ} {known : List Nat}
    (hunknown : ∀ message field, field.number ∉ known → apply message field = some message)
    (fields : List Field) (message : μ) :
    fields.foldlM apply message = (knownAmong known fields).foldlM apply message := by
  induction fields generalizing message with
  | nil => rfl
  | cons field rest ih =>
      unfold knownAmong at ih ⊢
      by_cases hknown : field.number ∈ known
      · rw [List.filter_cons_of_pos (by simpa using hknown), List.foldlM_cons, List.foldlM_cons]
        exact bind_congr fun next => ih next
      · rw [List.filter_cons_of_neg (by simpa using hknown), List.foldlM_cons,
          hunknown message field hknown]
        exact ih message

theorem number_mem_of_optional {known : List Nat} {omitted : Prop} [Decidable omitted]
    {number : Nat} {content : Content} (hnumber : number ∈ known) :
    ∀ field ∈ (if omitted then [] else [Field.mk number content]), field.number ∈ known := by
  intro field hfield
  split at hfield
  · cases hfield
  · rwa [List.mem_singleton.mp hfield]

/-- A field that is only written if it says something. -/
theorem foldlM_optional {μ : Type} {apply : μ → Field → Option μ} {omitted : Prop}
    [Decidable omitted] {field : Field} {message : μ} (next : μ) (rest : List Field)
    (homitted : omitted → message = next)
    (hwritten : ¬ omitted → apply message field = some next) :
    ((if omitted then [] else [field]) ++ rest).foldlM apply message =
      rest.foldlM apply next := by
  split
  · next hcase => rw [homitted hcase, List.nil_append]
  · next hcase =>
      rw [List.singleton_append, List.foldlM_cons, hwritten hcase]
      rfl

/-! ## Kinds of messages -/

/-- How messages of one kind are written and read. -/
structure Layout (μ : Type) where
  /-- The numbers of the fields. -/
  known : List Nat
  /-- The message with a further field. -/
  apply : μ → Field → Option μ
  /-- The message that no field says anything about. -/
  empty : μ
  /-- The bytes of every field. -/
  parts : μ → List (List UInt8)
  /-- What the bytes of every field hold, which is nothing if the field is not written. -/
  written : μ → List (List Field)
  /-- The first message with what the second one says. -/
  overriddenBy : μ → μ → μ
  /-- The bytes in a message can be counted. -/
  Counted : μ → Prop
  row_parts : ∀ message, Counted message → List.Forall₂ Row (parts message) (written message)
  mem_known : ∀ message, ∀ fields ∈ written message, ∀ field ∈ fields, field.number ∈ known
  apply_of_notMem : ∀ message field, field.number ∉ known → apply message field = some message
  foldlM_written : ∀ first second,
    (written second).flatten.foldlM apply first = some (overriddenBy first second)
  empty_overriddenBy : ∀ message, overriddenBy empty message = message

namespace Layout

variable {μ : Type} (layout : Layout μ)

/-- The bytes of a message. -/
def encode (message : μ) : List UInt8 :=
  (layout.parts message).flatten

/-- The message that bytes hold. -/
def decode (bytes : List UInt8) : Option μ :=
  (readFields bytes).bind fun fields => fields.foldlM layout.apply layout.empty

variable {first second message : μ}

theorem row_encode (hcounted : layout.Counted message) :
    Row (layout.encode message) (layout.written message).flatten :=
  row_flatten (layout.row_parts message hcounted)

theorem foldlM_written_empty (message : μ) :
    (layout.written message).flatten.foldlM layout.apply layout.empty = some message := by
  rw [layout.foldlM_written, layout.empty_overriddenBy]

theorem decode_append_encode (hfirst : layout.Counted first) (hsecond : layout.Counted second)
    {bytes : List UInt8} (hbytes : Interspersed layout.known (layout.parts first) bytes) :
    layout.decode (bytes ++ layout.encode second) = some (layout.overriddenBy first second) := by
  obtain ⟨fields, hrow, hfields⟩ :=
    row_of_interspersed hbytes (layout.row_parts first hfirst) (layout.mem_known first)
  have hread : readFields (bytes ++ layout.encode second) =
      some (fields ++ (layout.written second).flatten) :=
    readFields_row (hrow.append (layout.row_encode hsecond))
  have hbefore : fields.foldlM layout.apply layout.empty = some first := by
    rw [foldlM_knownAmong layout.apply_of_notMem, hfields, foldlM_written_empty]
  rw [decode, hread, Option.bind_some, List.foldlM_append, hbefore]
  exact layout.foldlM_written first second

theorem interspersed_encode (message : μ) :
    Interspersed layout.known (layout.parts message) (layout.encode message) :=
  .flatten layout.known (layout.parts message)

theorem decode_encode (hcounted : layout.Counted message) :
    layout.decode (layout.encode message) = some message := by
  rw [decode, readFields_row (layout.row_encode hcounted), Option.bind_some, foldlM_written_empty]

end Layout

/-! ## Numbers with a sign -/

theorem ofInt_signedToNat (value : Int32) : Int32.ofInt (signedToNat value) = value := by
  have hnonneg : 0 ≤ value.toInt % UInt64.size := Int.emod_nonneg _ (by decide)
  have hdvd : (Int32.size : Int) ∣ UInt64.size := by decide
  rw [← Int32.toInt_inj, Int32.toInt_ofInt, signedToNat, Int.toNat_of_nonneg hnonneg]
  -- the upper half only repeats the sign
  calc (value.toInt % UInt64.size).bmod Int32.size
      = (value.toInt % UInt64.size % Int32.size).bmod Int32.size := (Int.emod_bmod _ _).symm
    _ = (value.toInt % Int32.size).bmod Int32.size := by rw [Int.emod_emod_of_dvd _ hdvd]
    _ = value.toInt.bmod Int32.size := Int.emod_bmod _ _
    _ = value.toInt := value.toInt_bmod

theorem signedToNat_lt (value : Int32) : signedToNat value < UInt64.size := by
  have hsize : (UInt64.size : Int) = 2 ^ 64 := rfl
  have hsize' : UInt64.size = 2 ^ 64 := rfl
  rw [signedToNat, hsize]
  omega

theorem signedToNat_eq_zero_iff {value : Int32} : signedToNat value = 0 ↔ value = 0 := by
  constructor
  · intro hzero
    rw [← ofInt_signedToNat value, hzero]
    rfl
  · rintro rfl
    rfl

/-! ## Requests -/

namespace Request

/-- The numbers of the fields of a request. -/
def numbers : List Nat := [1, 2, 3, 4]

/-- The parts of the bytes of a request, one for each field.  A field that is not written is an empty
part. -/
def parts (request : Request) : List (List UInt8) :=
  [writeBytes 1 request.data, writeNumber 2 (signedToNat request.source),
    writeNumber 3 (signedToNat request.output), writeNumber 4 request.quality.toNat]

theorem flatten_parts (request : Request) : request.parts.flatten = request.encode := by
  simp [parts, encode]

/-- The fields that are written of a request. -/
def written (request : Request) : List (List Field) :=
  [if request.data = [] then [] else [⟨1, .bytes request.data⟩],
    if signedToNat request.source = 0 then [] else [⟨2, .varint (signedToNat request.source)⟩],
    if signedToNat request.output = 0 then [] else [⟨3, .varint (signedToNat request.output)⟩],
    if request.quality.toNat = 0 then [] else [⟨4, .varint request.quality.toNat⟩]]

/-- The first request with what the second one says.  Where the second one has the usual content, it
says nothing. -/
def overriddenBy (first second : Request) : Request where
  data := if second.data = [] then first.data else second.data
  source := if second.source = 0 then first.source else second.source
  output := if second.output = 0 then first.output else second.output
  quality := if second.quality = 0 then first.quality else second.quality

theorem row_parts {request : Request} (hlength : request.data.length < UInt64.size) :
    List.Forall₂ Row request.parts request.written := by
  have hquality : request.quality.toNat < UInt64.size :=
    Nat.lt_trans request.quality.toNat_lt (by decide)
  refine .cons (row_writeBytes (by decide) hlength) (.cons ?_ (.cons ?_ (.cons ?_ .nil)))
  · exact row_writeNumber (by decide) (signedToNat_lt _)
  · exact row_writeNumber (by decide) (signedToNat_lt _)
  · exact row_writeNumber (by decide) hquality

theorem mem_numbers_of_written (request : Request) :
    ∀ fields ∈ request.written, ∀ field ∈ fields, field.number ∈ numbers := by
  unfold written
  rw [List.forall_mem_cons, List.forall_mem_cons, List.forall_mem_cons, List.forall_mem_singleton]
  exact ⟨number_mem_of_optional (by decide), number_mem_of_optional (by decide),
    number_mem_of_optional (by decide), number_mem_of_optional (by decide)⟩

theorem apply_of_notMem (request : Request) (field : Field) (hunknown : field.number ∉ numbers) :
    request.apply field = some request := by
  obtain ⟨number, content⟩ := field
  simp only [numbers, List.mem_cons, List.not_mem_nil, or_false, not_or] at hunknown
  obtain ⟨hone, htwo, hthree, hfour⟩ := hunknown
  unfold apply
  split <;> first | rfl | contradiction

theorem foldlM_written (first second : Request) :
    second.written.flatten.foldlM apply first = some (first.overriddenBy second) := by
  have hquality : second.quality.toNat = 0 ↔ second.quality = 0 := by
    rw [← UInt32.toNat_inj]
    rfl
  let answer := first.overriddenBy second
  simp only [written, signedToNat_eq_zero_iff, hquality, List.flatten_cons]
  rw [foldlM_optional { first with data := answer.data },
    foldlM_optional { first with data := answer.data, source := answer.source },
    foldlM_optional { answer with quality := first.quality }, foldlM_optional answer]
  · rfl
  -- a field that is omitted keeps what is there, and one that is written takes its place
  all_goals
    intro hcase
    simp only [apply, answer, overriddenBy, hcase, if_true, if_false, ofInt_signedToNat,
      UInt32.ofNat_toNat]

/-- A message that says nothing. -/
def empty : Request := ⟨[], 0, 0, 0⟩

theorem empty_overriddenBy (request : Request) : empty.overriddenBy request = request := by
  obtain ⟨data, source, output, quality⟩ := request
  simp only [overriddenBy, empty, Request.mk.injEq, ite_eq_right_iff]
  exact ⟨Eq.symm, Eq.symm, Eq.symm, Eq.symm⟩

/-- The bytes of the image are all that has to be counted. -/
def layout : Layout Request where
  known := numbers
  apply := apply
  empty := empty
  parts := parts
  written := written
  overriddenBy := overriddenBy
  Counted request := request.data.length < UInt64.size
  row_parts _ hlength := row_parts hlength
  mem_known := mem_numbers_of_written
  apply_of_notMem := apply_of_notMem
  foldlM_written := foldlM_written
  empty_overriddenBy := empty_overriddenBy

end Request

/-! ## Replies -/

namespace Reply

/-- The numbers of the fields of a reply. -/
def numbers : List Nat := [1]

/-- The parts of the bytes of a reply. -/
def parts (reply : Reply) : List (List UInt8) := [writeBytes 1 reply.data]

/-- The fields that are written of a reply. -/
def written (reply : Reply) : List (List Field) :=
  [if reply.data = [] then [] else [⟨1, .bytes reply.data⟩]]

/-- The first reply with what the second one says. -/
def overriddenBy (first second : Reply) : Reply where
  data := if second.data = [] then first.data else second.data

theorem flatten_parts (reply : Reply) : reply.parts.flatten = reply.encode :=
  List.append_nil _

theorem row_parts {reply : Reply} (hlength : reply.data.length < UInt64.size) :
    List.Forall₂ Row reply.parts reply.written :=
  .cons (row_writeBytes (by decide) hlength) .nil

theorem mem_numbers_of_written (reply : Reply) :
    ∀ fields ∈ reply.written, ∀ field ∈ fields, field.number ∈ numbers := by
  unfold written
  rw [List.forall_mem_singleton]
  exact number_mem_of_optional (by decide)

theorem apply_of_notMem (reply : Reply) (field : Field) (hunknown : field.number ∉ numbers) :
    reply.apply field = some reply := by
  obtain ⟨number, content⟩ := field
  rw [numbers, List.mem_singleton] at hunknown
  unfold apply
  split <;> first | rfl | contradiction

theorem foldlM_written (first second : Reply) :
    second.written.flatten.foldlM apply first = some (first.overriddenBy second) := by
  rw [written, List.flatten_cons, foldlM_optional (first.overriddenBy second)]
  · rfl
  all_goals
    intro hcase
    simp only [apply, overriddenBy, hcase, if_true, if_false]

theorem empty_overriddenBy (reply : Reply) : overriddenBy ⟨[]⟩ reply = reply := by
  obtain ⟨data⟩ := reply
  simp only [overriddenBy, Reply.mk.injEq, ite_eq_right_iff]
  exact Eq.symm

/-- A reply has bytes to be counted as well. -/
def layout : Layout Reply where
  known := numbers
  apply := apply
  empty := ⟨[]⟩
  parts := parts
  written := written
  overriddenBy := overriddenBy
  Counted reply := reply.data.length < UInt64.size
  row_parts _ hlength := row_parts hlength
  mem_known := mem_numbers_of_written
  apply_of_notMem := apply_of_notMem
  foldlM_written := foldlM_written
  empty_overriddenBy := empty_overriddenBy

end Reply

/-! ## Extending messages -/

/-- **A message is read back, whatever else is written between its fields, and what is written behind
it overrides it.** -/
theorem decode_interspersed :
    (∀ first second : Request, first.data.length < UInt64.size →
      second.data.length < UInt64.size →
        (∀ bytes, Interspersed Request.numbers first.parts bytes →
          Request.decode (bytes ++ second.encode) = some (first.overriddenBy second)) ∧
        Interspersed Request.numbers first.parts first.encode ∧
        Request.decode first.encode = some first) ∧
    (∀ first second : Reply, first.data.length < UInt64.size →
      second.data.length < UInt64.size →
        (∀ bytes, Interspersed Reply.numbers first.parts bytes →
          Reply.decode (bytes ++ second.encode) = some (first.overriddenBy second)) ∧
        Interspersed Reply.numbers first.parts first.encode ∧
        Reply.decode first.encode = some first) := by
  constructor
  · intro first second hfirst hsecond
    rw [← Request.flatten_parts first, ← Request.flatten_parts second]
    exact ⟨fun _ => Request.layout.decode_append_encode hfirst hsecond,
      Request.layout.interspersed_encode first, Request.layout.decode_encode hfirst⟩
  · intro first second hfirst hsecond
    rw [← Reply.flatten_parts first, ← Reply.flatten_parts second]
    exact ⟨fun _ => Reply.layout.decode_append_encode hfirst hsecond,
      Reply.layout.interspersed_encode first, Reply.layout.decode_encode hfirst⟩

/-- A number below zero takes ten bytes.  A field of eight bytes and one of text stand in front of it. -/
theorem decode_interspersed_below_zero :
    let first : Request := ⟨[255, 216], -1, 7, 90⟩
    let second : Request := ⟨[], 0, -2, 0⟩
    let bytes : List UInt8 := [10, 2, 255, 216] ++ ([49, 1, 2, 3, 4, 5, 6, 7, 8] ++ ([58, 1, 65] ++
      ([16, 255, 255, 255, 255, 255, 255, 255, 255, 255, 1] ++ ([24, 7] ++ ([32, 90] ++ [])))))
    first.data.length < UInt64.size ∧ second.data.length < UInt64.size ∧
      Interspersed Request.numbers first.parts bytes ∧
      Request.decode (bytes ++ second.encode) = some ⟨[255, 216], -1, -2, 90⟩ ∧
      Reply.decode (Reply.encode ⟨[255, 216]⟩) = some ⟨[255, 216]⟩ := by
  intro first second bytes
  have hfirst : first.data.length < UInt64.size := by decide
  have hsecond : second.data.length < UInt64.size := by decide
  have heightKey : Spelling [49] (8 * 6 + 1) := ⟨.last (by decide), by decide, by decide⟩
  have height : Holds ([49] ++ [1, 2, 3, 4, 5, 6, 7, 8]) ⟨6, .other⟩ :=
    .eight (by decide) heightKey rfl
  have htextKey : Spelling [58] (8 * 7 + 2) := ⟨.last (by decide), by decide, by decide⟩
  have hlength : Spelling [1] [(65 : UInt8)].length := ⟨.last (by decide), by decide, by decide⟩
  have htext : Holds ([58] ++ ([1] ++ [65])) ⟨7, .bytes [65]⟩ :=
    .bytes (by decide) htextKey hlength
  have hparts : first.parts = [[10, 2, 255, 216],
      [16, 255, 255, 255, 255, 255, 255, 255, 255, 255, 1], [24, 7], [32, 90]] := by decide
  have hbytes : Interspersed Request.numbers first.parts bytes := by
    rw [hparts]
    exact .part _ (.between height (by decide) (.between htext (by decide)
      (.part _ (.part _ (.part _ .nil)))))
  exact ⟨hfirst, hsecond, hbytes, (decode_interspersed.1 first second hfirst hsecond).1 bytes hbytes,
    (decode_interspersed.2 ⟨[255, 216]⟩ ⟨[]⟩ (by decide) (by decide)).2.2⟩

end ImageChain.Wire
