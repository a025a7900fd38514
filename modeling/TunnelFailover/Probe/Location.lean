/-!
This file defines locations: free labels of at most 36 bytes, which fields of that width hold with
zeros behind them.
-/

namespace TunnelFailover

/-- A probe can be refused for its length, and a location for its length or its encoding. -/
inductive ProbeFault where
  | invalidLength (actual : Nat)
  | locationTooLong (length : Nat)
  | locationNotUtf8
deriving DecidableEq, Repr

/-- The message gives the length in question. -/
def ProbeFault.message : ProbeFault → String
  | invalidLength actual => s!"invalid probe length: expected 128 bytes, got {actual}"
  | locationTooLong length => s!"location is too long: {length} bytes (max 36)"
  | locationNotUtf8 => "location is not valid utf-8"

/-- A list without the copies of one element at its end. -/
def dropEnd {α : Type} [DecidableEq α] (element : α) : List α → List α
  | [] => []
  | head :: rest =>
    match dropEnd element rest with
    | [] => if head = element then [] else [head]
    | kept => head :: kept

theorem getLast?_dropEnd_ne {α : Type} [DecidableEq α] (element : α) (list : List α) :
    (dropEnd element list).getLast? ≠ some element := by
  induction list with
  | nil => simp [dropEnd]
  | cons head rest inductionHypothesis =>
    unfold dropEnd
    cases shorter : dropEnd element rest with
    | nil =>
      by_cases same : head = element <;> simp [same]
    | cons second kept =>
      rw [shorter] at inductionHypothesis
      simpa [List.getLast?_cons_cons] using inductionHypothesis

theorem exists_eq_dropEnd_append {α : Type} [DecidableEq α] (element : α) (list : List α) :
    ∃ dropped, list = dropEnd element list ++ dropped := by
  induction list with
  | nil => exact ⟨[], rfl⟩
  | cons head rest inductionHypothesis =>
    obtain ⟨dropped, equal⟩ := inductionHypothesis
    unfold dropEnd
    cases shorter : dropEnd element rest with
    | nil =>
      by_cases same : head = element
      · exact ⟨head :: rest, by simp [same]⟩
      · exact ⟨rest, by simp [same]⟩
    | cons second kept =>
      rw [shorter] at equal
      exact ⟨dropped, by simp [equal]⟩

/-- A text without the zero characters at its end. -/
def trimZeros (text : String) : String := String.ofList (dropEnd '\x00' text.toList)

theorem utf8ByteSize_trimZeros_le (text : String) :
    (trimZeros text).utf8ByteSize ≤ text.utf8ByteSize := by
  obtain ⟨dropped, equal⟩ := exists_eq_dropEnd_append '\x00' text.toList
  have whole : text = trimZeros text ++ String.ofList dropped := by
    rw [← String.toList_inj, equal]
    simp [trimZeros, ← equal]
  calc (trimZeros text).utf8ByteSize
      ≤ (trimZeros text).utf8ByteSize + (String.ofList dropped).utf8ByteSize := Nat.le_add_right ..
    _ = (trimZeros text ++ String.ofList dropped).utf8ByteSize := by simp
    _ = text.utf8ByteSize := by rw [← whole]

/-- A location is a text that fits its field and that its zero padding does not swallow. -/
structure Location where
  text : String
  fits : text.utf8ByteSize ≤ 36
  unpadded : text.toList.getLast? ≠ some '\x00'
deriving DecidableEq

namespace Location

/-- The width of a location field in bytes. -/
def width : Nat := 36

/-- The empty location. -/
def empty : Location := ⟨"", by decide, by decide⟩

instance : Inhabited Location := ⟨empty⟩

/-- The location of a text. Zeros at the end of the text count for its length, but are padding. -/
def ofText (text : String) : Except ProbeFault Location :=
  if fits : text.utf8ByteSize ≤ 36 then
    .ok
      { text := trimZeros text
        fits := Nat.le_trans (utf8ByteSize_trimZeros_le text) fits
        unpadded := by simpa [trimZeros] using getLast?_dropEnd_ne '\x00' text.toList }
  else .error (.locationTooLong text.utf8ByteSize)

/-- The location in a field, whose bytes before the padding have to be UTF-8. -/
def ofBytes (bytes : List UInt8) : Except ProbeFault Location :=
  match String.fromUTF8? ⟨(dropEnd 0 bytes).toArray⟩ with
  | some text => ofText text
  | none => .error .locationNotUtf8

/-- The bytes of the field. -/
def bytes (location : Location) : List UInt8 :=
  let text := location.text.toUTF8.data.toList
  text ++ List.replicate (width - text.length) 0

/-- A location is called empty if its field starts with a zero. -/
def isEmpty (location : Location) : Bool := location.bytes.head? == some 0

end Location

end TunnelFailover
