import TunnelFailover.Json.Reader
import TunnelFailover.Proofs.Numeral
import Mathlib.Data.List.Basic
/-!
This file shows that a value of the object notation is read from its compact text. The reader looks no
further than the text, so that a value is read in front of anything.
-/

namespace TunnelFailover.Json

open Reader

section Quoted

/-- A character below the surrogates is read from the four digits of its code. -/
theorem quoted?_code (reversed : List Char) {char : Char} (small : char.toNat < 0xD800)
    (rest : List Char) :
    quoted? reversed true none ('\\' :: 'u' :: ((hexadecimal 4 char.toNat).toList ++ rest)) =
      quoted? (char :: reversed) true none rest := by
  have sized : (hexadecimal 4 char.toNat).toList.length = 4 :=
    length_hexadecimal (by decide) (by omega)
  obtain ⟨first, second, third, fourth, four⟩ := List.length_eq_four.1 sized
  have value := digitsValue?_hexadecimal 4 char.toNat
  rw [four] at value
  have code : hex4? first second third fourth = some char.toNat := value
  have high : isHighSurrogate char.toNat = false := by
    rw [isHighSurrogate, Bool.and_eq_false_iff]
    exact .inl (decide_eq_false (by omega))
  have low : isLowSurrogate char.toNat = false := by
    rw [isLowSurrogate, Bool.and_eq_false_iff]
    exact .inl (decide_eq_false (by omega))
  rw [four]
  simp [quoted?, code, high, low, Char.ofNat_toNat]

/-- A character is read from its escape. -/
theorem quoted?_escape (reversed : List Char) (char : Char) (rest : List Char) :
    quoted? reversed true none ((escape char).toList ++ rest) =
      quoted? (char :: reversed) true none rest := by
  unfold escape
  split_ifs with quotation backslash newline carriage tab backspace feed control
  -- The characters that have escapes of one letter come first.
  iterate 7
    · subst char
      rfl
  · rw [String.toList_append, List.append_assoc]
    exact quoted?_code reversed (by omega) rest
  · rw [Char.toString_eq_singleton, String.toList_singleton, List.singleton_append]
    simp [quoted?, backslash, control]

/-- A text is read up to its closing quote. -/
theorem quoted?_escapes (reversed chars rest : List Char) :
    quoted? reversed true none (chars.flatMap (fun char => (escape char).toList) ++ '"' :: rest) =
      some (some (String.ofList (reversed.reverse ++ chars)), rest) := by
  induction chars generalizing reversed with
  | nil => simp [quoted?]
  | cons char others inductionHypothesis =>
    rw [List.flatMap_cons, List.append_assoc, quoted?_escape, inductionHypothesis,
      List.reverse_cons, List.append_assoc, List.singleton_append]

/-- The characters of a text in quotes. -/
theorem toList_quote (text : String) :
    (quote text).toList =
      '"' :: (text.toList.flatMap (fun char => (escape char).toList) ++ ['"']) := by
  have escaped (chars : List Char) (before : String) :
      (chars.foldl (fun quoted char => quoted ++ escape char) before).toList =
        before.toList ++ chars.flatMap fun char => (escape char).toList := by
    induction chars generalizing before with
    | nil => simp
    | cons char others inductionHypothesis =>
      rw [List.foldl_cons, inductionHypothesis, String.toList_append, List.flatMap_cons,
        List.append_assoc]
  rw [quote, String.foldl_eq_foldl_toList, String.toList_append, escaped]
  rfl

/-- A text is read from what it is in quotes. -/
theorem quoted?_quote (text : String) (rest : List Char) :
    ∃ inside, (quote text).toList = '"' :: inside ∧
      quoted? [] true none (inside ++ rest) = some (some text, rest) := by
  refine ⟨_, toList_quote text, ?_⟩
  rw [List.append_assoc, List.singleton_append, quoted?_escapes, List.reverse_nil, List.nil_append,
    String.ofList_toList]

end Quoted

/-- A value in which there are neither numbers nor unreadable parts. -/
inductive Numberless : Json → Prop
  | null : Numberless null
  | boolean (value : Bool) : Numberless (boolean value)
  | text (value : String) : Numberless (text value)
  | array {items : List Json} (all : ∀ item ∈ items, Numberless item) : Numberless (array items)
  | object {entries : List (String × Json)} (all : ∀ entry ∈ entries, Numberless entry.2) :
    Numberless (object entries)

/-- A value is read from its text in front of anything, with two units of fuel for a character. -/
def ReadsBack (value : Json) : Prop :=
  ∀ fuel rest, 2 * value.render.toList.length ≤ fuel →
    value? fuel (value.render.toList ++ rest) = some (value, rest)

/-- The items of an array are in brackets, and the entries of an object in braces. -/
theorem toList_render_array (items : List Json) :
    (array items).render.toList = '[' :: ((renderItems "" items).toList ++ [']']) := by
  rw [render, String.toList_append, String.toList_append]
  rfl

theorem toList_render_object (entries : List (String × Json)) :
    (object entries).render.toList =
      '\x7b' :: ((renderEntries "" entries).toList ++ ['\x7d']) := by
  rw [render, String.toList_append, String.toList_append]
  rfl

/-- The text of a value starts neither with a blank nor with a closing bracket. -/
theorem Numberless.head_render {value : Json} (numberless : value.Numberless) :
    ∃ head tail, value.render.toList = head :: tail ∧ isBlank head = false ∧ head ≠ ']' := by
  cases numberless with
  | null => exact ⟨'n', ['u', 'l', 'l'], rfl, rfl, by decide⟩
  | boolean value =>
    cases value with
    | true => exact ⟨'t', ['r', 'u', 'e'], rfl, rfl, by decide⟩
    | false => exact ⟨'f', ['a', 'l', 's', 'e'], rfl, rfl, by decide⟩
  | text value => exact ⟨'"', _, by rw [render, toList_quote], rfl, by decide⟩
  | array all => exact ⟨'[', _, toList_render_array _, rfl, by decide⟩
  | object all => exact ⟨'\x7b', _, toList_render_object _, rfl, by decide⟩

section Steps

variable (fuel : Nat) (rest : List Char)

/-- A quote starts a text. -/
theorem value?_quote : value? (fuel + 1) ('"' :: rest) =
    (quoted? [] true none rest).map fun read => (read.1.elim unreadable text, read.2) := by
  change ((quoted? [] true none rest).bind _) = _
  cases quoted? [] true none rest <;> rfl

/-- A bracket that is not closed at once starts items. -/
theorem value?_bracket {head : Char} (visible : isBlank head = false) (unclosed : head ≠ ']') :
    value? (fuel + 1) ('[' :: head :: rest) =
      (items? fuel (head :: rest)).map fun read => (array read.1, read.2) := by
  have bracket : skipBlank ('[' :: head :: rest) = '[' :: head :: rest := rfl
  have inside : skipBlank (head :: rest) = head :: rest :=
    List.dropWhile_cons_of_neg (by simp [visible])
  simp only [value?, bracket, inside]
  split
  · rename_i closed
    exact absurd (List.cons.inj closed).1 unclosed
  · cases items? fuel (head :: rest) <;> rfl

/-- A brace in front of a quote starts entries. -/
theorem value?_brace : value? (fuel + 1) ('\x7b' :: '"' :: rest) =
    (entries? fuel ('"' :: rest)).map fun read => (read.1.elim unreadable object, read.2) := by
  change ((entries? fuel ('"' :: rest)).bind _) = _
  cases entries? fuel ('"' :: rest) <;> rfl

end Steps

section Items

theorem toList_renderItems_singleton (item : Json) :
    (renderItems "" [item]).toList = item.render.toList := by
  rw [renderItems, renderItems, String.append_empty, String.empty_append]

/-- There is a comma between an item and the next one. -/
theorem toList_renderItems_cons (item second : Json) (others : List Json) :
    (renderItems "" (item :: second :: others)).toList =
      item.render.toList ++ ',' :: (renderItems "" (second :: others)).toList := by
  have comma : ",".toList = [','] := rfl
  simp [renderItems, comma]

/-- Items are read up to the bracket behind them. -/
theorem items?_renderItems {item : Json} {others : List Json}
    (readBack : ∀ each ∈ item :: others, each.ReadsBack) {fuel : Nat} (rest : List Char)
    (enough : 2 * (renderItems "" (item :: others)).toList.length < fuel) :
    items? fuel ((renderItems "" (item :: others)).toList ++ ']' :: rest) =
      some (item :: others, rest) := by
  induction others generalizing item fuel with
  | nil =>
    obtain ⟨fuel, rfl⟩ := Nat.exists_eq_add_one_of_ne_zero (Nat.ne_zero_of_lt enough)
    rw [toList_renderItems_singleton] at enough ⊢
    rw [items?, readBack item List.mem_cons_self fuel _ (Nat.le_of_lt_succ enough)]
    rfl
  | cons second others inductionHypothesis =>
    obtain ⟨fuel, rfl⟩ := Nat.exists_eq_add_one_of_ne_zero (Nat.ne_zero_of_lt enough)
    obtain ⟨first, later⟩ := List.forall_mem_cons.1 readBack
    rw [toList_renderItems_cons, List.length_append, List.length_cons] at enough
    have next := inductionHypothesis later (show _ < fuel by omega)
    rw [toList_renderItems_cons, List.append_assoc, List.cons_append, items?,
      first fuel _ (by omega), Option.bind_eq_bind, Option.bind_some]
    change ((items? fuel _).bind fun read => some (item :: read.1, read.2)) = _
    rw [next, Option.bind_some]

/-- Items start with the first one. -/
theorem exists_renderItems (item : Json) (others : List Json) :
    ∃ more, (renderItems "" (item :: others)).toList = item.render.toList ++ more := by
  cases others with
  | nil => exact ⟨[], by rw [toList_renderItems_singleton, List.append_nil]⟩
  | cons second others => exact ⟨_, toList_renderItems_cons item second others⟩

/-- An array is read if its items are. -/
theorem readsBack_array {items : List Json} (numberless : ∀ item ∈ items, item.Numberless)
    (readBack : ∀ item ∈ items, item.ReadsBack) : (array items).ReadsBack := by
  intro fuel rest enough
  rw [toList_render_array, List.length_cons, List.length_append, List.length_singleton] at enough
  obtain ⟨fuel, rfl⟩ := Nat.exists_eq_add_one_of_ne_zero (show fuel ≠ 0 by omega)
  rw [toList_render_array, List.cons_append, List.append_assoc, List.singleton_append]
  cases items with
  | nil => rfl
  | cons item others =>
    have read := items?_renderItems readBack rest (show _ < fuel by omega)
    obtain ⟨head, tail, starts, visible, unclosed⟩ :=
      (numberless item List.mem_cons_self).head_render
    obtain ⟨more, begins⟩ := exists_renderItems item others
    rw [begins, starts, List.append_assoc, List.cons_append] at read ⊢
    rw [value?_bracket fuel _ visible unclosed, read]
    rfl

end Items

section Entries

theorem toList_renderEntries_singleton (entry : String × Json) :
    (renderEntries "" [entry]).toList = (quote entry.1).toList ++ ':' :: entry.2.render.toList := by
  have colon : ":".toList = [':'] := rfl
  simp [renderEntries, colon]

/-- There is a comma between an entry and the next one. -/
theorem toList_renderEntries_cons (entry second : String × Json) (others : List (String × Json)) :
    (renderEntries "" (entry :: second :: others)).toList =
      (quote entry.1).toList ++ ':' :: (entry.2.render.toList ++
        ',' :: (renderEntries "" (second :: others)).toList) := by
  have comma : ",".toList = [','] := rfl
  have colon : ":".toList = [':'] := rfl
  simp [renderEntries, comma, colon]

/-- A key is read up to the colon behind it. -/
theorem key?_quote (key : String) (rest : List Char) :
    key? ((quote key).toList ++ ':' :: rest) = some (some key, rest) := by
  obtain ⟨inside, starts, read⟩ := quoted?_quote key (':' :: rest)
  rw [starts, List.cons_append]
  change ((quoted? [] true none _).bind _) = _
  rw [read]
  rfl

/-- Entries are read up to the brace behind them. -/
theorem entries?_renderEntries {entry : String × Json} {others : List (String × Json)}
    (readBack : ∀ each ∈ entry :: others, each.2.ReadsBack) {fuel : Nat} (rest : List Char)
    (enough : 2 * (renderEntries "" (entry :: others)).toList.length < fuel) :
    entries? fuel ((renderEntries "" (entry :: others)).toList ++ '\x7d' :: rest) =
      some (some (entry :: others), rest) := by
  induction others generalizing entry fuel with
  | nil =>
    obtain ⟨fuel, rfl⟩ := Nat.exists_eq_add_one_of_ne_zero (Nat.ne_zero_of_lt enough)
    rw [toList_renderEntries_singleton] at enough ⊢
    rw [List.length_append, List.length_cons] at enough
    rw [List.append_assoc, List.cons_append, entries?, key?_quote, Option.bind_eq_bind,
      Option.bind_some]
    dsimp only
    rw [readBack entry List.mem_cons_self fuel _ (by omega)]
    rfl
  | cons second others inductionHypothesis =>
    obtain ⟨fuel, rfl⟩ := Nat.exists_eq_add_one_of_ne_zero (Nat.ne_zero_of_lt enough)
    obtain ⟨first, later⟩ := List.forall_mem_cons.1 readBack
    rw [toList_renderEntries_cons, List.length_append, List.length_cons, List.length_append,
      List.length_cons] at enough
    have next := inductionHypothesis later (show _ < fuel by omega)
    rw [toList_renderEntries_cons, List.append_assoc, List.cons_append, List.append_assoc,
      List.cons_append, entries?, key?_quote, Option.bind_eq_bind, Option.bind_some]
    dsimp only
    rw [first fuel _ (by omega), Option.bind_eq_bind, Option.bind_some]
    change ((entries? fuel _).bind fun read =>
      some (read.1.bind fun entries => some (entry :: entries), read.2)) = _
    rw [next, Option.bind_some]
    rfl

/-- An object is read if the values of its entries are. -/
theorem readsBack_object {entries : List (String × Json)}
    (readBack : ∀ entry ∈ entries, entry.2.ReadsBack) : (object entries).ReadsBack := by
  intro fuel rest enough
  rw [toList_render_object, List.length_cons, List.length_append, List.length_singleton] at enough
  obtain ⟨fuel, rfl⟩ := Nat.exists_eq_add_one_of_ne_zero (show fuel ≠ 0 by omega)
  rw [toList_render_object, List.cons_append, List.append_assoc, List.singleton_append]
  cases entries with
  | nil => rfl
  | cons entry others =>
    have read := entries?_renderEntries readBack rest (show _ < fuel by omega)
    obtain ⟨more, begins⟩ : ∃ more, (renderEntries "" (entry :: others)).toList = '"' :: more := by
      cases others with
      | nil => exact ⟨_, by rw [toList_renderEntries_singleton, toList_quote]; rfl⟩
      | cons second others => exact ⟨_, by rw [toList_renderEntries_cons, toList_quote]; rfl⟩
    rw [begins, List.cons_append] at read ⊢
    rw [value?_brace, read]
    rfl

end Entries

/-- A value is read from its text. -/
theorem Numberless.readsBack {value : Json} (numberless : value.Numberless) : value.ReadsBack := by
  induction numberless with
  | array all inductionHypothesis => exact readsBack_array all inductionHypothesis
  | object all inductionHypothesis => exact readsBack_object inductionHypothesis
  | text value =>
    intro fuel rest enough
    obtain ⟨inside, starts, read⟩ := quoted?_quote value rest
    rw [render, starts, List.length_cons] at enough
    obtain ⟨fuel, rfl⟩ := Nat.exists_eq_add_one_of_ne_zero (show fuel ≠ 0 by omega)
    rw [render, starts, List.cons_append, value?_quote, read]
    rfl
  | null =>
    intro fuel rest enough
    obtain ⟨fuel, rfl⟩ := Nat.exists_eq_add_one_of_ne_zero (Nat.ne_zero_of_lt enough)
    rfl
  | boolean value =>
    intro fuel rest enough
    have word : (Json.boolean value).render.toList ≠ [] := by cases value <;> decide
    have positive := List.length_pos_of_ne_nil word
    obtain ⟨fuel, rfl⟩ := Nat.exists_eq_add_one_of_ne_zero (show fuel ≠ 0 by omega)
    cases value <;> rfl

/-- A text that a value is written to is read as this value. -/
theorem Numberless.parse?_render {value : Json} (numberless : value.Numberless) :
    parse? value.render = some value := by
  have read := numberless.readsBack (2 * value.render.toList.length + 2) [] (Nat.le_add_right ..)
  rw [List.append_nil] at read
  rw [parse?]
  dsimp only
  rw [read]
  rfl

end TunnelFailover.Json
