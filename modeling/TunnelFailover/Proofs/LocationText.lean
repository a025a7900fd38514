import TunnelFailover.Config.Decode
import TunnelFailover.Json.Source
import TunnelFailover.Proofs.JsonText
import TunnelFailover.Proofs.Label
/-!
This file shows that the forms of a location determine each other: the location itself, its text, its
field, and its text in the object notation.
-/

namespace TunnelFailover.Location

/-- The text in a field without the zeros at its end. There is none if these bytes are not UTF-8. -/
def label? (field : List UInt8) : Option String :=
  String.fromUTF8? ⟨(field.rdropWhile (· == 0)).toArray⟩

/-- The bytes of a text are those of its location up to zeros. -/
theorem toUTF8_trimZeros (text : String) :
    ∃ count, text.toUTF8.data.toList =
      (trimZeros text).toUTF8.data.toList ++ List.replicate count 0 := by
  have zeros (count : Nat) :
      (List.replicate count '\x00').flatMap String.utf8EncodeChar = List.replicate count 0 := by
    induction count with
    | zero => rfl
    | succ count inductionHypothesis =>
      rw [List.replicate_succ, List.flatMap_cons, inductionHypothesis]
      rfl
  refine ⟨text.toList.length - (dropEnd '\x00' text.toList).length, ?_⟩
  rw [toUTF8_toList, toUTF8_toList, trimZeros, String.toList_ofList, ← zeros, ← List.flatMap_append,
    ← eq_dropEnd_append_replicate]

/-- A text that fits has a location, whose field is the text with zeros behind it. -/
theorem exists_ofText {text : String} (fits : text.utf8ByteSize ≤ width) :
    ∃ location, ofText text = .ok location ∧ location.text = trimZeros text ∧
      location.bytes = text.toUTF8.data.toList ++ List.replicate (width - text.utf8ByteSize) 0 := by
  obtain ⟨location, made, label⟩ :
      ∃ location, ofText text = .ok location ∧ location.text = trimZeros text := by
    have short : text.utf8ByteSize ≤ 36 := fits
    unfold ofText
    rw [dif_pos short]
    exact ⟨_, rfl, rfl⟩
  refine ⟨location, made, label, bytes_of_ofBytes ?_ (ofBytes_eq_ok_iff.2 ?_)⟩
  · have size : text.toUTF8.data.toList.length = text.utf8ByteSize := rfl
    rw [List.length_append, List.length_replicate, size, Nat.add_sub_cancel' fits]
  · obtain ⟨count, whole⟩ := toUTF8_trimZeros text
    have last : location.text.toUTF8.data.toList.getLast? ≠ some 0 := by
      rw [Ne, getLast?_toUTF8]
      exact location.unpadded
    rw [whole, ← label, List.append_assoc, List.replicate_append_replicate,
      dropEnd_append_replicate 0 last]

/-- The label in the field of a location is its text. -/
theorem label?_bytes (location : Location) : label? location.bytes = some location.text := by
  have equal := ofBytes_eq_ok_iff.1 location.ofBytes_bytes
  rw [label?, ← dropEnd_eq_rdropWhile, ← equal]
  exact dif_pos location.text.isValidUTF8

/-- A location is read from its text in the object notation. -/
theorem decode?_render (location : Location) :
    (Json.parse? (Json.text location.text).render).bind decode? = some location := by
  rw [(Json.Numberless.text _).parse?_render, Option.bind_some]
  change (ofText location.text).toOption = some location
  rw [ofText_text]
  rfl

/-- Every text that fits has a location, whose text lacks only the zeros at the end and whose field is
the text with zeros behind it. A field that is read as a location is the field of this location. The
field of a location has a label, which is its text, and the location is read from its text, from its field
and from its text in the object notation. So locations differ just if their texts, fields or written
texts do. -/
theorem forms_agree :
    (∀ text : String, text.utf8ByteSize ≤ width → ∃ location, ofText text = .ok location ∧
      location.text.toList = text.toList.rdropWhile (· == '\x00') ∧
      location.bytes =
        text.toUTF8.data.toList ++ List.replicate (width - text.utf8ByteSize) 0 ∧
      ofBytes location.bytes = .ok location) ∧
    (∀ field : List UInt8, field.length = width → ∀ location, ofBytes field = .ok location →
      location.bytes = field ∧ label? field = some location.text ∧
        ofText location.text = .ok location) ∧
    (∀ location : Location, location.bytes.length = width ∧
      label? location.bytes = some location.text ∧ ofText location.text = .ok location ∧
      ofBytes location.bytes = .ok location ∧
      (Json.parse? (Json.text location.text).render).bind decode? = some location) ∧
    ∀ first second : Location,
      (first = second ↔ first.text = second.text) ∧
      (first = second ↔ first.bytes = second.bytes) ∧
      (first = second ↔ (Json.text first.text).render = (Json.text second.text).render) := by
  refine ⟨fun text fits => ?_, fun field sized location read => ?_, fun location => ?_,
    fun first second => ⟨⟨fun same => same ▸ rfl, fun same => ?_⟩,
      ⟨fun same => same ▸ rfl, fun same => ?_⟩, ⟨fun same => same ▸ rfl, fun same => ?_⟩⟩⟩
  · obtain ⟨location, made, label, field⟩ := exists_ofText fits
    refine ⟨location, made, ?_, field, location.ofBytes_bytes⟩
    rw [label, trimZeros, String.toList_ofList, dropEnd_eq_rdropWhile]
  · have same := bytes_of_ofBytes sized read
    exact ⟨same, same ▸ location.label?_bytes, location.ofText_text⟩
  · exact ⟨location.length_bytes, location.label?_bytes, location.ofText_text,
      location.ofBytes_bytes, location.decode?_render⟩
  · have read := first.ofText_text
    rw [same, second.ofText_text] at read
    exact (Except.ok.inj read).symm
  · have read := first.ofBytes_bytes
    rw [same, second.ofBytes_bytes] at read
    exact (Except.ok.inj read).symm
  · have read := first.decode?_render
    rw [same, second.decode?_render] at read
    exact (Option.some.inj read).symm

/-- Zeros within a text belong to it, and a text may end with a character of several bytes just where the
field ends. Zeros at the end of a text of the full width are padding. -/
theorem forms_agree_full :
    let full := String.ofList (List.replicate 32 'x' ++ ['\x00', '€'])
    let padded := String.ofList ('a' :: '\x00' :: 'é' :: List.replicate 32 '\x00')
    full.utf8ByteSize = 36 ∧ padded.utf8ByteSize = 36 ∧
      (∃ location, ofText full = .ok location ∧ location.text = full ∧
        location.bytes = full.toUTF8.data.toList ∧ label? location.bytes = some full) ∧
      ∃ location, ofText padded = .ok location ∧ location.text = "a\x00é" ∧
        ofBytes ([0x61, 0, 0xc3, 0xa9] ++ List.replicate 32 0) = .ok location := by
  intro full padded
  obtain ⟨texts, fields, locations, -⟩ := forms_agree
  obtain ⟨first, firstMade, firstText, firstBytes, -⟩ := texts full (by decide)
  obtain ⟨second, secondMade, secondText, secondBytes, secondRead⟩ := texts padded (by decide)
  have whole : first.text = full := String.toList_inj.1 (firstText.trans (by decide))
  have start : second.text = "a\x00é" := String.toList_inj.1 (secondText.trans (by decide))
  have field : [0x61, 0, 0xc3, 0xa9] ++ List.replicate 32 0 = second.bytes := by
    rw [secondBytes, toUTF8_toList]
    decide
  obtain ⟨-, label, -⟩ := locations first
  refine ⟨by decide, by decide, ⟨first, firstMade, whole, ?_, whole ▸ label⟩,
    ⟨second, secondMade, start, field ▸ secondRead⟩⟩
  rw [firstBytes]
  exact List.append_nil _

end TunnelFailover.Location
