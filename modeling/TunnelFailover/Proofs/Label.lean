import TunnelFailover.Probe.Location
import Mathlib.Data.List.DropRight
/-!
This file shows that the field of a location and the location itself determine each other. The zeros
behind a label are the only thing that a field adds to it, since no other character than zero has an
encoding that ends with a zero.
-/

namespace TunnelFailover

section Padding

variable {α : Type} [DecidableEq α] (element : α)

/-- What is dropped from a list are copies of the element. -/
theorem eq_dropEnd_append_replicate (list : List α) :
    list = dropEnd element list ++
      List.replicate (list.length - (dropEnd element list).length) element := by
  induction list with
  | nil => rfl
  | cons head rest inductionHypothesis =>
    unfold dropEnd
    cases shorter : dropEnd element rest with
    | nil =>
      rw [shorter] at inductionHypothesis
      by_cases same : head = element
      · subst same
        simpa [List.replicate_succ] using inductionHypothesis
      · simpa [same] using inductionHypothesis
    | cons second kept =>
      rw [shorter] at inductionHypothesis
      simpa using inductionHypothesis

/-- The copies behind a list that does not end with the element are dropped. -/
theorem dropEnd_append_replicate {list : List α} (kept : list.getLast? ≠ some element)
    (count : Nat) : dropEnd element (list ++ List.replicate count element) = list := by
  induction list with
  | nil =>
    induction count with
    | zero => rfl
    | succ count inductionHypothesis =>
      rw [List.nil_append] at inductionHypothesis ⊢
      simp [List.replicate_succ, dropEnd, inductionHypothesis]
  | cons head rest inductionHypothesis =>
    cases rest with
    | nil =>
      have padding := inductionHypothesis (by simp)
      rw [List.nil_append] at padding
      have other : head ≠ element := fun same => kept (same ▸ rfl)
      simp [dropEnd, padding, other]
    | cons second others =>
      have last : (second :: others).getLast? ≠ some element := by
        rwa [List.getLast?_cons_cons] at kept
      rw [List.cons_append, dropEnd, inductionHypothesis last]

/-- Dropping the copies of an element at the end is dropping from the end while it is met. -/
theorem dropEnd_eq_rdropWhile (list : List α) :
    dropEnd element list = list.rdropWhile (· == element) := by
  have padded (kept : List α) (last : kept.getLast? ≠ some element) (count : Nat) :
      (kept ++ List.replicate count element).rdropWhile (· == element) = kept := by
    induction count with
    | zero =>
      rw [List.replicate_zero, List.append_nil]
      refine List.rdropWhile_eq_self_iff.2 fun nonempty met => last ?_
      rw [List.getLast?_eq_some_getLast nonempty, eq_of_beq met]
    | succ count inductionHypothesis =>
      rw [List.replicate_succ', ← List.append_assoc, List.rdropWhile_concat, if_pos (by simp),
        inductionHypothesis]
  conv_rhs => rw [eq_dropEnd_append_replicate element list]
  exact (padded _ (getLast?_dropEnd_ne element list) _).symm

end Padding

/-- The encoding of a character ends with a zero only if the character is zero. -/
theorem getLast?_utf8EncodeChar (char : Char) :
    (String.utf8EncodeChar char).getLast? = some 0 ↔ char = '\x00' := by
  constructor
  · intro zero
    unfold String.utf8EncodeChar at zero
    dsimp only at zero
    split at zero
    · rename_i small
      have value : char.val.toNat % 256 = 0 := by
        simpa [← UInt8.toNat_inj] using zero
      have nothing : char.val.toNat = 0 := by omega
      exact Char.ext (UInt32.toNat_inj.1 nothing)
    · split at zero <;> try split at zero
      all_goals
        -- The last byte of a longer encoding is at least 128.
        have value := congrArg (Option.map UInt8.toNat) zero
        simp at value
        omega
  · rintro rfl
    rfl

/-- The bytes of a text are the encodings of its characters. -/
theorem toUTF8_toList (text : String) :
    text.toUTF8.data.toList = text.toList.flatMap String.utf8EncodeChar := by
  rw [String.toUTF8_eq_toByteArray, ← String.utf8Encode_toList, List.utf8Encode,
    List.data_toByteArray]

/-- The bytes of a text end with a zero only if its characters do. -/
theorem getLast?_toUTF8 (text : String) :
    text.toUTF8.data.toList.getLast? = some 0 ↔ text.toList.getLast? = some '\x00' := by
  rw [toUTF8_toList]
  rcases List.eq_nil_or_concat text.toList with nothing | ⟨front, last, whole⟩
  · simp [nothing]
  · have ends := List.getLast?_eq_some_getLast (String.utf8EncodeChar_ne_nil (c := last))
    rw [whole, List.concat_eq_append, List.flatMap_append, List.flatMap_singleton,
      List.getLast?_append, List.getLast?_concat, ends, Option.some_or, ← ends,
      getLast?_utf8EncodeChar, Option.some_inj]

/-- A text that does not end with a zero has nothing to trim. -/
theorem trimZeros_of_unpadded {text : String} (unpadded : text.toList.getLast? ≠ some '\x00') :
    trimZeros text = text := by
  have kept := dropEnd_append_replicate '\x00' unpadded 0
  rw [List.replicate_zero, List.append_nil] at kept
  rw [trimZeros, kept, String.ofList_toList]

namespace Location

/-- The field of a location has its width. -/
@[simp]
theorem length_bytes (location : Location) : location.bytes.length = width := by
  have fits : location.text.toUTF8.data.toList.length ≤ width := location.fits
  rw [bytes, List.length_append, List.length_replicate]
  omega

/-- The text of a location is its own location. -/
theorem ofText_text (location : Location) : ofText location.text = .ok location := by
  rw [ofText, dif_pos location.fits]
  congr
  exact trimZeros_of_unpadded location.unpadded

/-- A text in bytes that do not end with a zero is a location as it stands. -/
theorem unpadded_of_toUTF8 {text : String} {field : List UInt8}
    (equal : text.toUTF8.data.toList = dropEnd 0 field) : text.toList.getLast? ≠ some '\x00' := by
  rw [Ne, ← getLast?_toUTF8, equal]
  exact getLast?_dropEnd_ne 0 field

/-- A field holds a location if it is the bytes of its text up to the padding. -/
theorem ofBytes_eq_ok_iff {field : List UInt8} {location : Location} :
    ofBytes field = .ok location ↔ location.text.toUTF8.data.toList = dropEnd 0 field := by
  constructor
  · intro read
    unfold ofBytes at read
    split at read
    · rename_i text decoded
      have equal : text.toUTF8.data.toList = dropEnd 0 field := by
        unfold String.fromUTF8? at decoded
        split at decoded
        · cases decoded
          rfl
        · cases decoded
      unfold ofText at read
      split at read
      · cases read
        change (trimZeros text).toUTF8.data.toList = dropEnd 0 field
        rw [trimZeros_of_unpadded (unpadded_of_toUTF8 equal), equal]
      · cases read
    · cases read
  · intro equal
    have decoded : String.fromUTF8? ⟨(dropEnd 0 field).toArray⟩ = some location.text := by
      rw [← equal]
      exact dif_pos location.text.isValidUTF8
    rw [ofBytes, decoded]
    exact location.ofText_text

/-- A field is read as the location that it was written for. -/
theorem ofBytes_bytes (location : Location) : ofBytes location.bytes = .ok location := by
  rw [ofBytes_eq_ok_iff, bytes]
  refine (dropEnd_append_replicate 0 ?_ _).symm
  rw [Ne, getLast?_toUTF8]
  exact location.unpadded

/-- A field is the one that its location is written to. -/
theorem bytes_of_ofBytes {field : List UInt8} {location : Location} (sized : field.length = width)
    (read : ofBytes field = .ok location) : location.bytes = field := by
  rw [bytes, ofBytes_eq_ok_iff.1 read, ← sized]
  exact (eq_dropEnd_append_replicate 0 field).symm

/-- A field holds a location if the bytes before its padding are UTF-8. -/
theorem exists_ofBytes_iff {field : List UInt8} (sized : field.length = width) :
    (∃ location, ofBytes field = .ok location) ↔
      ByteArray.IsValidUTF8 ⟨(field.rdropWhile (· == 0)).toArray⟩ := by
  rw [← dropEnd_eq_rdropWhile]
  constructor
  · rintro ⟨location, read⟩
    rw [← ofBytes_eq_ok_iff.1 read]
    exact location.text.isValidUTF8
  · intro valid
    let text := String.fromUTF8 _ valid
    have equal : text.toUTF8.data.toList = dropEnd 0 field := rfl
    have fits : text.toUTF8.data.toList.length ≤ 36 := by
      have split := congrArg List.length (eq_dropEnd_append_replicate 0 field)
      rw [List.length_append, sized] at split
      rw [equal]
      exact Nat.le.intro split.symm
    exact ⟨⟨text, fits, unpadded_of_toUTF8 equal⟩, ofBytes_eq_ok_iff.2 equal⟩

end Location

end TunnelFailover
