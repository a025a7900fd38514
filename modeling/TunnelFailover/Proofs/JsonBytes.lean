import TunnelFailover.Proofs.Label
import TunnelFailover.Status
/-!
This file shows that the bytes of a text denote what the text does, and that a byte which belongs to no
character takes the value from the text in quotes that it is in.
-/

namespace TunnelFailover

namespace Json.Reader

/-- A character is read from its bytes in front of anything. -/
theorem char?_utf8EncodeChar (char : Char) (rest : List UInt8) :
    char? (String.utf8EncodeChar char ++ rest) = some char := by
  have short : (String.utf8EncodeChar char).length ≤ 4 := by
    rw [String.length_utf8EncodeChar]
    exact char.utf8Size_le_four
  have window : (String.utf8EncodeChar char ++ rest).take 4 =
      String.utf8EncodeChar char ++ rest.take (4 - (String.utf8EncodeChar char).length) := by
    rw [List.take_append, List.take_of_length_le short]
  rw [char?, window, List.toByteArray_append]
  exact ByteArray.utf8DecodeChar?_utf8EncodeChar_append

/-- The bytes that are left of a character are skipped. -/
theorem characters?_skip (escaped : Bool) (skipped rest : List UInt8) :
    characters? skipped.length escaped (skipped ++ rest) = characters? 0 escaped rest := by
  induction skipped with
  | nil => rfl
  | cons byte others inductionHypothesis => exact inductionHypothesis

/-- A character is found in its bytes. -/
theorem characters?_utf8EncodeChar (escaped : Bool) (char : Char) (rest : List UInt8) :
    characters? 0 escaped (String.utf8EncodeChar char ++ rest) =
      (characters? 0 (!escaped && char == '\\') rest).map (char :: ·) := by
  have found := char?_utf8EncodeChar char rest
  have sized := String.length_utf8EncodeChar char
  cases bytes : String.utf8EncodeChar char with
  | nil => exact absurd bytes String.utf8EncodeChar_ne_nil
  | cons first others =>
    rw [bytes] at found sized
    have left : char.utf8Size - 1 = others.length := by
      rw [← sized, List.length_cons, Nat.add_sub_cancel]
    rw [List.cons_append] at found ⊢
    rw [characters?, found]
    dsimp only
    rw [left, characters?_skip]

/-- The characters of a text are found in its bytes. -/
theorem characters?_toUTF8 (text : String) :
    characters? 0 false text.toUTF8.data.toList = some text.toList := by
  have each (chars : List Char) (escaped : Bool) :
      characters? 0 escaped (chars.flatMap String.utf8EncodeChar) = some chars := by
    induction chars generalizing escaped with
    | nil => rfl
    | cons char others inductionHypothesis =>
      rw [List.flatMap_cons, characters?_utf8EncodeChar, inductionHypothesis, Option.map_some]
  rw [toUTF8_toList]
  exact each text.toList false

/-- A text that is unreadable already stays so up to its closing quote. -/
theorem quoted?_unreadable {reversed chars rest : List Char} {pending : Option Nat}
    {content : Option String} (read : quoted? reversed false pending chars = some (content, rest)) :
    content = none := by
  generalize unread : false = readable at read
  fun_induction quoted? reversed readable pending chars
  case case1 | case3 | case10 | case11 => cases read
  case case2 =>
    subst unread
    exact (congrArg Prod.fst (Option.some.inj read)).symm
  case case4 inductionHypothesis | case6 inductionHypothesis | case8 inductionHypothesis =>
    exact inductionHypothesis unread read
  case case5 inductionHypothesis | case7 inductionHypothesis => exact inductionHypothesis rfl read
  case case9 inductionHypothesis | case12 inductionHypothesis =>
    exact inductionHypothesis (by rw [← unread, Bool.false_and]) read

/-- A text with a byte that belongs to no character has no value. -/
theorem quoted?_stray {reversed chars rest : List Char} {readable : Bool} {pending : Option Nat}
    {content : Option String}
    (read : quoted? reversed readable pending (stray ++ chars) = some (content, rest)) :
    content = none := by
  cases pending with
  | none =>
    -- The first escape is pending when the second one comes.
    have behind : quoted? reversed false none chars = some (content, rest) := read
    exact quoted?_unreadable behind
  | some high =>
    have behind : quoted? reversed false (some 0xD800) chars = some (content, rest) := read
    exact quoted?_unreadable behind

/-- The byte between these quotes starts no character. -/
example : parseBytes? ⟨#[0x22, 0xFF, 0x22]⟩ = some unreadable := rfl

end Json.Reader

/-- The bytes of a text denote what the text denotes. -/
theorem Json.parseBytes?_toUTF8 (text : String) : parseBytes? text.toUTF8 = parse? text := by
  rw [parseBytes?, Reader.characters?_toUTF8, Option.bind_some, String.ofList_toList]

/-- A status that is read from a text is read from its bytes. -/
theorem BridgeStatus.parseBytes?_toUTF8 (text : String) :
    parseBytes? text.toUTF8 = parse? text := by
  rw [parseBytes?, parse?, Json.parseBytes?_toUTF8]

end TunnelFailover
