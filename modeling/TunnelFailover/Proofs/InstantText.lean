import TunnelFailover.Time.Instant
import TunnelFailover.Proofs.Calendar
import TunnelFailover.Proofs.Numeral
/-!
This file shows that an instant is read from its text, to the nanosecond.
-/

namespace TunnelFailover.Instant

namespace Reader

/-- A digit is no blank. -/
theorem isTextBlank_of_isDigit {char : Char} (digit : char.isDigit = true) :
    isTextBlank char = false := by
  have bounds := toNat_of_isDigit digit
  simp only [isTextBlank, Bool.or_eq_false_iff, Bool.and_eq_false_iff, decide_eq_false_iff_not,
    beq_eq_false_iff_ne]
  omega

/-- Up to nine digits behind a point count, and the rest of them are dropped. -/
theorem fraction?_point (rest : List Char) :
    fraction? ('.' :: rest) =
      let digits := (rest.take 9).takeWhile Char.isDigit
      if digits.isEmpty then none
      else (digitsValue? 10 digits).bind fun value =>
        some (value * Nat.pow 10 (9 - digits.length),
          (rest.drop digits.length).dropWhile Char.isDigit) :=
  rfl

section Padded

variable {width value : Nat} (positive : 0 < width) (fits : value < 10 ^ width) (rest : List Char)

include positive fits

/-- A padded number starts with a digit. -/
theorem exists_padded :
    ∃ first others, (padded width value).toList = first :: others ∧ first.isDigit = true := by
  have sized := length_padded positive fits
  cases digits : (padded width value).toList with
  | nil =>
    rw [digits] at sized
    exact absurd sized (Nat.ne_of_lt positive)
  | cons first others =>
    exact ⟨first, others, rfl, isDigit_of_mem_padded first (digits ▸ List.mem_cons_self)⟩

theorem isEmpty_padded : (padded width value).toList.isEmpty = false := by
  obtain ⟨first, others, starts, -⟩ := exists_padded positive fits
  rw [starts]
  rfl

/-- There is no blank before a padded number. -/
theorem skipBlank_padded :
    skipBlank ((padded width value).toList ++ rest) = (padded width value).toList ++ rest := by
  obtain ⟨first, others, starts, digit⟩ := exists_padded positive fits
  rw [starts, List.cons_append, skipBlank, List.dropWhile_cons_of_neg]
  rw [isTextBlank_of_isDigit digit]
  exact Bool.false_ne_true

/-- The digits of a padded number are those that its width gives. -/
theorem digits_padded :
    (((padded width value).toList ++ rest).take width).takeWhile Char.isDigit =
      (padded width value).toList := by
  have sized := length_padded positive fits
  rw [List.take_append_of_le_length (Nat.le_of_eq sized.symm),
    List.take_of_length_le (Nat.le_of_eq sized)]
  exact List.takeWhile_eq_self_iff.2 isDigit_of_mem_padded

/-- A number is read from its digits, whatever follows its width. -/
theorem number?_padded :
    number? width ((padded width value).toList ++ rest) = some (value, rest) := by
  unfold number?
  rw [skipBlank_padded positive fits]
  dsimp only
  rw [digits_padded positive fits, isEmpty_padded positive fits, if_neg Bool.false_ne_true,
    digitsValue?_padded, List.drop_left]
  rfl

/-- The digits between a point and the zone are a fraction. -/
theorem fraction?_padded (atMost : width ≤ 9) :
    fraction? ('.' :: ((padded width value).toList ++ ['Z'])) =
      some (value * Nat.pow 10 (9 - width), ['Z']) := by
  have sized := length_padded positive fits
  have zone (count : Nat) : (['Z'].take count).takeWhile Char.isDigit = [] := by
    cases count <;> rfl
  have digits : (((padded width value).toList ++ ['Z']).take 9).takeWhile Char.isDigit =
      (padded width value).toList := by
    rw [List.take_append, List.take_of_length_le (sized.trans_le atMost),
      List.takeWhile_append_of_pos isDigit_of_mem_padded, zone, List.append_nil]
  rw [fraction?_point]
  dsimp only
  rw [digits, isEmpty_padded positive fits, if_neg Bool.false_ne_true, digitsValue?_padded,
    List.drop_left, sized]
  rfl

end Padded

/-- Two digits are a number within bounds. -/
theorem within?_padded {value low high : Nat} (small : high < 100)
    (bounds : low ≤ value ∧ value ≤ high) (rest : List Char) :
    within? low high ((padded 2 value).toList ++ rest) = some (value, rest) := by
  unfold within?
  rw [number?_padded (by decide) (by omega), Option.bind_eq_bind, Option.bind_some]
  exact if_pos bounds

/-- A year of four digits has no sign. -/
theorem year?_padded {value : Nat} (small : value < 10000) (rest : List Char) :
    year? ((padded 4 value).toList ++ rest) = some ((value : Int), rest) := by
  have fits : value < 10 ^ 4 := small
  have positive : 0 < 4 := by decide
  obtain ⟨first, others, starts, digit⟩ := exists_padded positive fits
  have read := number?_padded positive fits rest
  unfold year?
  rw [skipBlank_padded positive fits]
  rw [starts, List.cons_append] at read ⊢
  split
  · rename_i minus
    rw [(List.cons.inj minus).1] at digit
    exact absurd digit (by decide)
  · rename_i plus
    rw [(List.cons.inj plus).1] at digit
    exact absurd digit (by decide)
  · rw [read]
    rfl

/-- A fraction of a second is read to the nanosecond. -/
theorem fraction?_fractionText {nanoseconds : Nat} (small : nanoseconds < 1000000000) :
    fraction? ((fractionText nanoseconds).toList ++ ['Z']) = some (nanoseconds, ['Z']) := by
  have point (digits : String) :
      ("." ++ digits).toList ++ ['Z'] = '.' :: (digits.toList ++ ['Z']) := by
    rw [String.toList_append, List.append_assoc]
    rfl
  unfold fractionText
  split_ifs with none milliseconds microseconds
  · rw [none]
    rfl
  · rw [point, fraction?_padded (by decide) (by omega) (by decide)]
    have whole : nanoseconds / 1000000 * 1000000 = nanoseconds := by omega
    exact congrArg (fun value => some (value, ['Z'])) whole
  · rw [point, fraction?_padded (by decide) (by omega) (by decide)]
    have whole : nanoseconds / 1000 * 1000 = nanoseconds := by omega
    exact congrArg (fun value => some (value, ['Z'])) whole
  · rw [point, fraction?_padded (by decide) (by omega) (by decide)]
    exact congrArg (fun value => some (value, ['Z'])) (Nat.mul_one nanoseconds)

end Reader

/-- An instant that has a year of four digits, and lies within its second or, at the end of a minute,
within a leap second. -/
structure IsPlain (time : Instant) : Prop where
  year : 0 ≤ (CalendarDate.ofDays (time.seconds / 86400)).year ∧
    (CalendarDate.ofDays (time.seconds / 86400)).year ≤ 9999
  nanoseconds : time.nanoseconds < 1000000000 ∨
    (time.seconds % 60 = 59 ∧ time.nanoseconds < 2000000000)

instance (time : Instant) : Decidable time.IsPlain :=
  decidable_of_iff
    ((0 ≤ (CalendarDate.ofDays (time.seconds / 86400)).year ∧
      (CalendarDate.ofDays (time.seconds / 86400)).year ≤ 9999) ∧
      (time.nanoseconds < 1000000000 ∨
        (time.seconds % 60 = 59 ∧ time.nanoseconds < 2000000000)))
    ⟨fun plain => ⟨plain.1, plain.2⟩, fun plain => ⟨plain.1, plain.2⟩⟩

/-- The digits of a date and a time of day, as they stand in the text of an instant. -/
def digitsOf (date : CalendarDate) (hour minute second fraction : Nat) : List Char :=
  (padded 4 date.year.toNat).toList ++ '-' :: ((padded 2 date.month).toList ++
    '-' :: ((padded 2 date.day).toList ++ 'T' :: ((padded 2 hour).toList ++
      ':' :: ((padded 2 minute).toList ++ ':' :: ((padded 2 second).toList ++
        ((fractionText fraction).toList ++ ['Z']))))))

/-- A date and a time of day are read from their digits. -/
theorem parse?_of_toList {text : String} {date : CalendarDate} {hour minute second fraction : Nat}
    (digits : text.toList = digitsOf date hour minute second fraction) (valid : date.IsValid)
    (year : 0 ≤ date.year ∧ date.year ≤ 9999) (hours : hour ≤ 23) (minutes : minute ≤ 59)
    (seconds : second ≤ 60) (fractions : fraction < 1000000000) {time : Instant}
    (timeOf : time =
      let leap := if second = 60 then 1 else 0
      ⟨date.toDays * 86400 + (hour * 3600 + minute * 60 + (second - leap : Nat)),
        fraction + leap * 1000000000⟩)
    (representable : time.IsRepresentable) : parse? text = some time := by
  have bound {α β : Type} (value : α) (next : α → Option β) :
      (some value >>= next) = next value := rfl
  have hyphen (rest : List Char) :
      Reader.mark? '-' (Reader.skipBlank ('-' :: rest)) = some rest := rfl
  have colon (rest : List Char) :
      Reader.mark? ':' (Reader.skipBlank (':' :: rest)) = some rest := rfl
  have letter (rest : List Char) : parse?.separator? ('T' :: rest) = some rest := rfl
  have zone : Reader.zone? (Reader.skipBlank ['Z']) = some (0, []) := rfl
  obtain ⟨first, last⟩ := year
  have short := CalendarDate.day_le_of_isValid valid
  have small : date.year.toNat < 10000 := by omega
  have yearOf : ((date.year.toNat : Nat) : Int) = date.year := Int.toNat_of_nonneg first
  unfold parse?
  rw [digits, digitsOf, Reader.year?_padded small, bound]
  dsimp only
  rw [hyphen, bound, Reader.within?_padded (by decide) ⟨valid.1, valid.2.1⟩, bound]
  dsimp only
  rw [hyphen, bound, Reader.within?_padded (by decide) ⟨valid.2.2.1, short⟩, bound]
  dsimp only
  rw [letter, bound, Reader.within?_padded (by decide) ⟨Nat.zero_le _, hours⟩, bound]
  dsimp only
  rw [colon, bound, Reader.within?_padded (by decide) ⟨Nat.zero_le _, minutes⟩, bound]
  dsimp only
  rw [colon, bound, Reader.within?_padded (by decide) ⟨Nat.zero_le _, seconds⟩, bound]
  dsimp only
  rw [Reader.fraction?_fractionText fractions, bound]
  dsimp only
  rw [zone, bound]
  simp only [yearOf, Int.sub_zero]
  rw [← timeOf]
  exact if_pos ⟨rfl, valid, representable, representable, by decide, by decide⟩

namespace IsPlain

variable {time : Instant} (plain : time.IsPlain)

include plain

/-- The date of the instant can be kept. -/
theorem isRepresentable : time.IsRepresentable := by
  obtain ⟨first, last⟩ := plain.year
  have days := CalendarDate.toDays_ofDays (time.seconds / 86400)
  have valid := CalendarDate.isValid_ofDays (time.seconds / 86400)
  generalize CalendarDate.ofDays (time.seconds / 86400) = date at *
  have short := CalendarDate.day_le_of_isValid valid
  obtain ⟨-, month, -, -⟩ := valid
  unfold CalendarDate.toDays at days
  have firstSecond : firstSecond = -8334601228800 := by decide
  have lastSecond : lastSecond = 8210266876799 := by decide
  rw [IsRepresentable, firstSecond, lastSecond]
  dsimp only at days
  split at days <;> omega

/-- An instant is read from its text. -/
theorem parse?_text : parse? time.text = some time := by
  have days := CalendarDate.toDays_ofDays (time.seconds / 86400)
  have ofDay : time.ofDay = time.seconds % 86400 := rfl
  have isLeap : time.isLeap = decide (1000000000 ≤ time.nanoseconds) := rfl
  have nanoseconds := plain.nanoseconds
  generalize leapOf : (if time.isLeap then 1 else 0) = leap
  have digits : time.text.toList = digitsOf (CalendarDate.ofDays (time.seconds / 86400))
      (time.ofDay.toNat / 3600) (time.ofDay.toNat % 3600 / 60) (time.ofDay.toNat % 60 + leap)
      (time.nanoseconds - leap * 1000000000) := by
    have signless : yearText (CalendarDate.ofDays (time.seconds / 86400)).year =
        padded 4 (CalendarDate.ofDays (time.seconds / 86400)).year.toNat := if_pos plain.year
    have hyphen : "-".toList = ['-'] := rfl
    have letter : "T".toList = ['T'] := rfl
    have colon : ":".toList = [':'] := rfl
    have zone : "Z".toList = ['Z'] := rfl
    simp only [text, digitsOf, leapOf, signless, hyphen, letter, colon, zone, String.toList_append,
      List.append_assoc, List.cons_append, List.nil_append]
  have leapCases : leap = 1 ∧ 1000000000 ≤ time.nanoseconds ∨
      leap = 0 ∧ time.nanoseconds < 1000000000 := by
    rw [← leapOf, isLeap]
    by_cases late : 1000000000 ≤ time.nanoseconds
    · exact .inl ⟨if_pos (decide_eq_true late), late⟩
    · exact .inr ⟨if_neg (by simpa using late), Nat.lt_of_not_le late⟩
  clear leapOf isLeap
  -- Only a leap second is the sixtieth one.
  have sixtieth : (if time.ofDay.toNat % 60 + leap = 60 then 1 else 0) = leap := by
    rcases leapCases with ⟨rfl, late⟩ | ⟨rfl, early⟩
    · exact if_pos (by omega)
    · exact if_neg (by omega)
  refine parse?_of_toList digits (CalendarDate.isValid_ofDays _) plain.year (by omega) (by omega)
    (by omega) (by omega) ?_ plain.isRepresentable
  dsimp only
  rw [sixtieth, days]
  obtain ⟨seconds, nanoseconds⟩ := time
  dsimp only at *
  rw [Instant.mk.injEq]
  omega

end IsPlain

end TunnelFailover.Instant
