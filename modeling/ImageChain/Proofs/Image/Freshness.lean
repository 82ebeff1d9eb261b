import ImageChain.Proofs.Image.Session

/-!
# Encoded bytes belong to the picture

An image may have an encoded form from three places: the bytes it was decoded
from, the reply of an optimizer, and its own encoder.  What it answers when it
is asked for its bytes depends on what has happened to it, and `lastChange` says
what that comes down to: the last step that did not keep the image.

Any image of a session may be read at any time, which may leave an encoding
behind.  `Fresh` is the invariant: the encoded form at hand is the one that the
history of the image asks for.
-/

namespace ImageChain

section AnyCodecs

variable [Codecs]

/-- The bytes in a format that an image with a history and a grid has to give. -/
def expectedBytes (history : List Event) (grid : Grid) (format : Format) :
    Except Failure ByteArray :=
  match lastChange history with
  | some (.fetched bytes) => .ok bytes
  | some (.optimized reply) => .ok ⟨reply.toArray⟩
  | some .redrawn | some .kept | none => Codec.encode grid format

/-! ## The invariant -/

/-- The encoded form at hand is the one that the history asks for. -/
structure Fresh (traced : Traced) : Prop where
  /-- An encoded form has a format, and is what is expected in it. -/
  encoded : ∀ bytes, traced.image.encoded = some bytes →
    ∃ format, traced.image.format = some format ∧
      expectedBytes traced.history traced.image.grid format = .ok bytes
  /-- Without one, an encoding is expected. -/
  missing : traced.image.encoded = none → ∀ format,
    expectedBytes traced.history traced.image.grid format = Codec.encode traced.image.grid format

theorem fresh_blank : Fresh ⟨.blank, []⟩ where
  encoded := fun _ hencoded => by cases hencoded
  missing := fun _ _ => rfl

theorem fresh_decoded {bytes : ByteArray} {image : Image} (hdecode : Image.decode bytes = .ok image)
    (history : List Event) : Fresh ⟨image, .fetched bytes :: history⟩ := by
  obtain ⟨format, grid, -, rfl⟩ := Image.decode_cases hdecode
  exact
    { encoded := fun found hfound => by
        cases hfound
        exact ⟨format, rfl, rfl⟩
      missing := fun hnone => by cases hnone }

theorem Event.Gives.fresh {event : Event} {traced : Traced} {next : Image}
    (hgives : event.Gives traced.image next) (hfresh : Fresh traced) :
    Fresh ⟨next, event :: traced.history⟩ := by
  cases hgives with
  | fetched hdecode => exact fresh_decoded hdecode traced.history
  | optimized reply format =>
      exact
        { encoded := fun bytes hbytes => by
            cases hbytes
            exact ⟨format, rfl, rfl⟩
          missing := fun hnone => by cases hnone }
  | redrawn grid =>
      exact
        { encoded := fun bytes hbytes => by cases hbytes
          missing := fun _ _ => rfl }
  | kept => exact ⟨hfresh.encoded, hfresh.missing⟩

theorem Fresh.afterReading {traced : Traced} (hfresh : Fresh traced) (reading : Reading) :
    Fresh (traced.afterReading reading) := by
  cases reading with
  | png => exact hfresh
  | jpeg => exact hfresh
  | bytes =>
      show Fresh ⟨traced.image.readBytes.2, traced.history⟩
      rcases traced.image.readBytes_cases with
        hsame | ⟨format, bytes, hformat, hnone, hencode, hkeep⟩
      · rw [hsame]
        exact hfresh
      · rw [hkeep]
        exact
          { encoded := fun found hfound => by
              cases hfound
              exact ⟨format, hformat, (hfresh.missing hnone format).trans hencode⟩
            missing := fun hmissing => by cases hmissing }

theorem Arises.fresh {traced : Traced} (harises : Arises traced) : Fresh traced := by
  induction harises with
  | blank => exact fresh_blank
  | change _ hgives ih => exact hgives.fresh ih
  | read _ reading ih => exact ih.afterReading reading

/-- What a fresh image answers. -/
theorem Fresh.bytes_eq {traced : Traced} (hfresh : Fresh traced) {format : Format}
    (hformat : traced.image.format = some format) :
    traced.image.bytes =
      (expectedBytes traced.history traced.image.grid format).map (·, format) := by
  cases hencoded : traced.image.encoded with
  | none => rw [Image.bytes_of_not_encoded hformat hencoded, hfresh.missing hencoded]
  | some bytes =>
      obtain ⟨own, hown, hexpected⟩ := hfresh.encoded bytes hencoded
      cases hformat.symm.trans hown
      rw [Image.bytes_of_encoded hformat hencoded, hexpected]
      rfl

namespace Session

variable {κ ω : Type} {backends : Backends (StateM ω)} {carrier : Carrier κ (StateM ω)}
  {rounding : Rounding}

/-- Every image of a session is fresh. -/
theorem fresh_of_moves {start session : Session κ ω} (hbegins : start.Begins)
    (hmoves : Relation.ReflTransGen (Moves backends carrier rounding) start session) :
    ∀ traced ∈ session.images, Fresh traced :=
  fun traced hmem => (arises_of_moves hbegins hmoves traced hmem).fresh

/-! ## The main statement -/

/-- **The encoded bytes of an image belong to its picture.**  Whatever steps are run and whichever
images are read, each image answers what its history asks for, and each reading answers as it would
without the readings before it.  The result of a chain is an image of a session. -/
theorem bytes_of_moves {start session : Session κ ω} (hbegins : start.Begins)
    (hmoves : Relation.ReflTransGen (Moves backends carrier rounding) start session) :
    (∀ traced ∈ session.images,
      (∀ format, traced.image.format = some format →
        traced.image.bytes =
          (expectedBytes traced.history traced.image.grid format).map (·, format)) ∧
      ∀ (readings : List Reading) (reading : Reading),
        reading.answer (readings.foldl Image.afterReading traced.image) =
          reading.answer traced.image) ∧
    ∀ (current : Traced) (older : List Traced) (steps : List (Step Nat)) (finish : Image)
      (workspace : Workspace κ) (world : ω), session.images = current :: older →
        executeAt backends carrier rounding steps current.image session.workspace session.world =
          ((.ok finish, workspace), world) →
        ∃ history others, Relation.ReflTransGen (Moves backends carrier rounding) start
          ⟨workspace, world, ⟨finish, history⟩ :: others⟩ := by
  have hfresh := fresh_of_moves hbegins hmoves
  constructor
  · intro traced hmem
    exact ⟨fun format hformat => (hfresh traced hmem).bytes_eq hformat,
      fun readings reading => Image.answer_foldl_afterReading traced.image readings reading⟩
  · intro current older steps finish workspace world himages hrun
    obtain ⟨history, others, hchain⟩ := exists_moves_of_executeAt current older hrun
    rw [← himages] at hchain
    exact ⟨history, others, hmoves.trans hchain⟩

end Session

end AnyCodecs

/-! ## A run -/

namespace Session

/-- What can happen where only one picture is known. -/
abbrev OnePixelMoves : Session Unit Unit → Session Unit Unit → Prop :=
  Moves onePixelBackends .offline id

/-- A picture is fetched, fits already, and is read; then it is filled into another box. -/
theorem bytes_of_moves_onePixel :
    ∃ (start session : Session Unit Unit) (fetched filled : Image) (kept redrawn : List Event),
      start.Begins ∧ Relation.ReflTransGen OnePixelMoves start session ∧
      ⟨fetched, kept⟩ ∈ session.images ∧ ⟨filled, redrawn⟩ ∈ session.images ∧
      fetched.bytes = .ok (onePixel, .gif) ∧
      filled.bytes = (Codec.encode filled.grid .gif).map (·, .gif) := by
  obtain ⟨image, hdecode, hformat, hsize⟩ := decode_onePixel
  have hfits : image.size.fitsIn ⟨9, 9⟩ := by
    rw [hsize]
    rfl
  have hbegins : Begins (⟨.empty, (), [⟨.blank, []⟩]⟩ : Session Unit Unit) := .blank rfl
  have hbox : Step.runAt onePixelBackends .offline id (.resize ⟨.fill, ⟨2, 2⟩⟩)
      (image.afterReading .bytes) (.empty : Workspace Unit) () =
        ((.ok (Resize.apply id ⟨.fill, ⟨2, 2⟩⟩ (image.afterReading .bytes)), .empty), ()) := rfl
  have hfetch : OnePixelMoves ⟨.empty, (), [⟨.blank, []⟩]⟩
      ⟨.empty, (), [⟨image, [.fetched onePixel]⟩, ⟨.blank, []⟩]⟩ :=
    .step (runAt_proxy_onePixel hdecode) (.proxy rfl) nofun
  have hkeep : OnePixelMoves ⟨.empty, (), [⟨image, [.fetched onePixel]⟩, ⟨.blank, []⟩]⟩
      ⟨.empty, (), [⟨image, [.kept, .fetched onePixel]⟩, ⟨.blank, []⟩]⟩ :=
    .keep (runAt_fit_of_fitsIn hfits .empty ()) (.fits rfl hfits)
  have hread : OnePixelMoves ⟨.empty, (), [⟨image, [.kept, .fetched onePixel]⟩, ⟨.blank, []⟩]⟩
      ⟨.empty, (), [⟨image.afterReading .bytes, [.kept, .fetched onePixel]⟩, ⟨.blank, []⟩]⟩ :=
    .read _ 0 .bytes
  have hfill : OnePixelMoves
      ⟨.empty, (), [⟨image.afterReading .bytes, [.kept, .fetched onePixel]⟩, ⟨.blank, []⟩]⟩
      ⟨.empty, (), [⟨Resize.apply id ⟨.fill, ⟨2, 2⟩⟩ (image.afterReading .bytes),
          [.redrawn, .kept, .fetched onePixel]⟩,
        ⟨image.afterReading .bytes, [.kept, .fetched onePixel]⟩, ⟨.blank, []⟩]⟩ :=
    .step hbox (.resize nofun) nofun
  have hmoves := (((Relation.ReflTransGen.single hfetch).tail hkeep).tail hread).tail hfill
  have hanswers := (bytes_of_moves hbegins hmoves).1
  have hkept : (image.afterReading .bytes).format = some .gif := by simp [hformat]
  refine ⟨_, _, _, _, _, _, hbegins, hmoves, .tail _ (.head _), .head _, ?_, ?_⟩
  · exact (hanswers _ (.tail _ (.head _))).1 .gif hkept
  · exact (hanswers _ (.head _)).1 .gif hkept

end Session

end ImageChain
