import TunnelFailover.Text.Numeral
import Mathlib.Data.List.TakeWhile
import Mathlib.Data.Nat.Digits.Lemmas
/-!
This file shows that numerals are read as the numbers that they are written for, and says which texts
are unsigned numerals.
-/

namespace TunnelFailover

section Digits

variable {radix : Nat}

/-- A digit has the value that it is written for. -/
theorem digitValue?_digitChar {digit : Nat} (below : digit < radix) (small : radix ≤ 16) :
    digitValue? radix (Nat.digitChar digit) = some digit := by
  have value : digitValue? 16 (Nat.digitChar digit) = some digit := by
    have bounded : digit < 16 := by omega
    clear below small
    decide +revert
  unfold digitValue? at value ⊢
  dsimp only at value ⊢
  rw [Option.filter_eq_some_iff] at value ⊢
  exact ⟨value.1, by simpa using below⟩

/-- The codes of the decimal digits. -/
theorem toNat_of_isDigit {char : Char} (digit : char.isDigit = true) :
    48 ≤ char.toNat ∧ char.toNat ≤ 57 := by
  simpa [Char.isDigit, UInt32.le_iff_toNat_le] using digit

/-- The decimal digits are those of the class of characters. -/
theorem digitValue?_ten (char : Char) :
    digitValue? 10 char = if char.isDigit then some (char.toNat - '0'.toNat) else none := by
  unfold digitValue?
  dsimp only
  split
  · rename_i digit
    have value : char.toNat - '0'.toNat < 10 := by
      have bounds := toNat_of_isDigit digit
      have zero : '0'.toNat = 48 := rfl
      omega
    exact Option.filter_eq_some_iff.2 ⟨rfl, by simpa using value⟩
  · split
    · simp [Option.filter]
    · split <;> simp [Option.filter]

/-- Digits that follow others of a given value. -/
def digitsFrom? (radix value : Nat) (digits : List Char) : Option Nat :=
  digits.foldlM (fun value char => do pure (value * radix + (← digitValue? radix char))) value

theorem digitsFrom?_cons (radix value : Nat) (char : Char) (rest : List Char) :
    digitsFrom? radix value (char :: rest) =
      (digitValue? radix char).bind fun digit => digitsFrom? radix (value * radix + digit) rest := by
  unfold digitsFrom?
  rw [List.foldlM_cons]
  cases digitValue? radix char <;> rfl

theorem digitsFrom?_append (radix value : Nat) (digits more : List Char) :
    digitsFrom? radix value (digits ++ more) =
      (digitsFrom? radix value digits).bind fun value => digitsFrom? radix value more :=
  List.foldlM_append ..

/-- More digits do not make a numeral smaller. -/
theorem le_of_digitsFrom? (positive : 0 < radix) {value result : Nat} {digits : List Char}
    (read : digitsFrom? radix value digits = some result) : value ≤ result := by
  induction digits generalizing value with
  | nil => exact Nat.le_of_eq (Option.some.inj read)
  | cons char rest inductionHypothesis =>
    rw [digitsFrom?_cons] at read
    obtain ⟨digit, -, later⟩ := Option.bind_eq_some_iff.1 read
    calc value
        ≤ value * radix + digit := Nat.le_add_right_of_le (Nat.le_mul_of_pos_right value positive)
      _ ≤ result := inductionHypothesis later

/-- Every character of a numeral is a digit. -/
theorem isSome_of_digitsFrom? {value result : Nat} {digits : List Char}
    (read : digitsFrom? radix value digits = some result) :
    ∀ char ∈ digits, (digitValue? radix char).isSome = true := by
  induction digits generalizing value with
  | nil => simp
  | cons char rest inductionHypothesis =>
    rw [digitsFrom?_cons] at read
    obtain ⟨digit, first, later⟩ := Option.bind_eq_some_iff.1 read
    exact List.forall_mem_cons.2 ⟨by rw [first]; rfl, inductionHypothesis later⟩

/-- The digits of a number are read as this number. -/
theorem digitsValue?_toDigits (atLeast : 1 < radix) (small : radix ≤ 16) (value : Nat) :
    digitsValue? radix (Nat.toDigits radix value) = some value := by
  have single {digit : Nat} (below : digit < radix) (before : Nat) :
      digitsFrom? radix before [Nat.digitChar digit] = some (before * radix + digit) := by
    rw [digitsFrom?_cons, digitValue?_digitChar below small]
    rfl
  change digitsFrom? radix 0 _ = _
  induction value using Nat.strongRecOn with
  | ind value inductionHypothesis =>
    rw [Nat.toDigits_eq_if atLeast]
    split
    · rename_i below
      rw [single below, Nat.zero_mul, Nat.zero_add]
    · rename_i large
      have smaller : value / radix < value := Nat.div_lt_self (by omega) atLeast
      rw [digitsFrom?_append, inductionHypothesis _ smaller, Option.bind_some,
        single (Nat.mod_lt _ (by omega)), Nat.mul_comm, Nat.div_add_mod]

/-- Zeros in front of a numeral do not count. -/
theorem digitsValue?_zeros (positive : 0 < radix) (count : Nat) (digits : List Char) :
    digitsValue? radix (List.replicate count '0' ++ digits) = digitsValue? radix digits := by
  have zero : digitValue? radix '0' = some 0 := by
    simp [digitValue?, Option.filter, positive]
  change digitsFrom? radix 0 _ = digitsFrom? radix 0 _
  induction count with
  | zero => rfl
  | succ count inductionHypothesis =>
    rw [List.replicate_succ, List.cons_append, digitsFrom?_cons, zero, Option.bind_some,
      Nat.zero_mul]
    exact inductionHypothesis

/-- A number with zeros in front is read as this number. -/
theorem digitsValue?_hexadecimal (width value : Nat) :
    digitsValue? 16 (hexadecimal width value).toList = some value := by
  rw [hexadecimal, String.toList_ofList, digitsValue?_zeros (by decide),
    digitsValue?_toDigits (by decide) (by decide)]

theorem digitsValue?_padded (width value : Nat) :
    digitsValue? 10 (padded width value).toList = some value := by
  rw [padded, String.toList_ofList, digitsValue?_zeros (by decide),
    digitsValue?_toDigits (by decide) (by decide)]

/-- A number that fits a width has this width with zeros in front. -/
theorem length_zeros_toDigits (atLeast : 1 < radix) {width value : Nat} (positive : 0 < width)
    (fits : value < radix ^ width) :
    (List.replicate (width - (Nat.toDigits radix value).length) '0' ++
      Nat.toDigits radix value).length = width := by
  have short := (Nat.length_toDigits_le_iff atLeast positive).2 fits
  rw [List.length_append, List.length_replicate, Nat.sub_add_cancel short]

theorem length_hexadecimal {width value : Nat} (positive : 0 < width) (fits : value < 16 ^ width) :
    (hexadecimal width value).toList.length = width := by
  rw [hexadecimal, String.toList_ofList]
  exact length_zeros_toDigits (by decide) positive fits

theorem length_padded {width value : Nat} (positive : 0 < width) (fits : value < 10 ^ width) :
    (padded width value).toList.length = width := by
  rw [padded, String.toList_ofList]
  exact length_zeros_toDigits (by decide) positive fits

/-- A padded number has only digits. -/
theorem isDigit_of_mem_padded {width value : Nat} :
    ∀ char ∈ (padded width value).toList, char.isDigit = true := by
  intro char member
  have digit := isSome_of_digitsFrom? (digitsValue?_padded width value) char member
  rw [digitValue?_ten] at digit
  split at digit
  · assumption
  · cases digit

/-- The first digit of a number with several digits is not zero. -/
theorem head?_toDigits_ne_zero {value : Nat} (atLeast : 1 < radix) (small : radix ≤ 16)
    (positive : 0 < value) : (Nat.toDigits radix value).head? ≠ some '0' := by
  induction value using Nat.strongRecOn with
  | ind value inductionHypothesis =>
    rw [Nat.toDigits_eq_if atLeast]
    split
    · rename_i below
      intro zero
      have read := digitValue?_digitChar below small
      rw [Option.some.inj zero] at read
      have none : digitValue? radix '0' = some 0 := by
        simp [digitValue?, Option.filter, Nat.zero_lt_of_lt atLeast]
      rw [none, Option.some.injEq] at read
      omega
    · rename_i large
      have smaller : value / radix < value := Nat.div_lt_self (by omega) atLeast
      rw [List.head?_append_of_ne_nil _ Nat.toDigits_ne_nil]
      exact inductionHypothesis _ smaller (Nat.div_pos (Nat.le_of_not_lt large) (by omega))

/-- A run of characters of a kind ends where another one follows. -/
theorem span_append {kind : Char → Bool} {run rest : List Char}
    (all : ∀ char ∈ run, kind char = true)
    (stops : ∀ char, rest.head? = some char → kind char = false) :
    (run ++ rest).span kind = (run, rest) := by
  rw [List.span_eq_takeWhile_dropWhile, List.takeWhile_append_of_pos all,
    List.dropWhile_append_of_pos all]
  cases rest with
  | nil => simp
  | cons char rest => simp [stops char rfl]

end Digits

/-- An unsigned numeral has at least one decimal digit and its value is below a limit. A plus sign may
stand in front, and zeros in front do not count. -/
def IsUnsigned (limit : Nat) (chars : List Char) (value : Nat) : Prop :=
  ∃ digits, (chars = digits ∨ chars = '+' :: digits) ∧ digits ≠ [] ∧
    (∀ char ∈ digits, char.isDigit = true) ∧ Nat.ofDigitChars 10 digits 0 = value ∧ value < limit

/-- Decimal digits have the value that they count. -/
theorem digitsFrom?_ten_iff {value result : Nat} {digits : List Char} :
    digitsFrom? 10 value digits = some result ↔
      (∀ char ∈ digits, char.isDigit = true) ∧ Nat.ofDigitChars 10 digits value = result := by
  induction digits generalizing value with
  | nil => simp [digitsFrom?]
  | cons char rest inductionHypothesis =>
    rw [digitsFrom?_cons, digitValue?_ten, Nat.ofDigitChars_cons, List.forall_mem_cons]
    by_cases digit : char.isDigit = true
    · rw [if_pos digit, Option.bind_some, inductionHypothesis, Nat.mul_comm value]
      simp [digit]
    · simp [digit]

/-- Digits are read as their value, if this is below the limit. -/
theorem readDigits_eq_ok_iff {radix limit value result : Nat} {digits : List Char}
    (positive : 0 < radix) (below : value < limit) :
    readDigits radix limit value digits = .ok result ↔
      digitsFrom? radix value digits = some result ∧ result < limit := by
  induction digits generalizing value with
  | nil =>
    simp only [readDigits, digitsFrom?, List.foldlM_nil, Except.ok.injEq, pure, Option.some.injEq]
    exact ⟨fun same => ⟨same, same ▸ below⟩, And.left⟩
  | cons char rest inductionHypothesis =>
    rw [readDigits, digitsFrom?_cons]
    cases digitValue? radix char with
    | none => simp
    | some digit =>
      dsimp only [Option.bind_some]
      split
      · rename_i large
        simp only [reduceCtorEq, false_iff, not_and]
        intro read
        exact Nat.not_lt.2 (Nat.le_trans large (le_of_digitsFrom? positive read))
      · rename_i small
        exact inductionHypothesis (Nat.lt_of_not_le small)

/-- A text is read as a number just if it is an unsigned numeral of it. -/
theorem readUnsigned_eq_ok_iff {limit : Nat} (positive : 0 < limit) {chars : List Char}
    {value : Nat} : readUnsigned 10 limit chars = .ok value ↔ IsUnsigned limit chars value := by
  have read (digits : List Char) : readDigits 10 limit 0 digits = .ok value ↔
      (∀ char ∈ digits, char.isDigit = true) ∧ Nat.ofDigitChars 10 digits 0 = value ∧
        value < limit := by
    rw [readDigits_eq_ok_iff (by decide) positive, digitsFrom?_ten_iff, and_assoc]
  have plus : ¬('+').isDigit = true := by decide
  have minus : ¬('-').isDigit = true := by decide
  unfold readUnsigned IsUnsigned
  split
  · simp
  · simp [plus]
  · simp [minus]
  · rename_i digits bare
    rw [read]
    have some : digits ≠ [] := fun none => bare (by rw [none])
    constructor
    · exact fun numeral => ⟨digits, .inr rfl, some, numeral⟩
    · rintro ⟨others, rfl | same, -, numeral⟩
      · exact absurd (numeral.1 '+' List.mem_cons_self) plus
      · rwa [(List.cons.inj same).2]
  · rename_i nonempty _ _ unsigned
    rw [read]
    constructor
    · exact fun numeral => ⟨chars, .inl rfl, nonempty, numeral⟩
    · rintro ⟨others, rfl | same, -, numeral⟩
      · exact numeral
      · exact absurd same (unsigned others)

end TunnelFailover
