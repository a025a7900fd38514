import TunnelFailover.Net.Cidr
import TunnelFailover.Proofs.AddressText
/-!
This file shows that an address block is read from its text, and says which texts are blocks.
-/

namespace TunnelFailover.Cidr

/-- The first slash of a text separates an address from an unsigned numeral of eight bits that does not
exceed the width of the address. -/
def Denotes (text : String) (address : Address) (length : Nat) : Prop :=
  ∃ before after, text.toList = before ++ '/' :: after ∧ '/' ∉ before ∧
    Address.parse? (String.ofList before) = some address ∧ IsUnsigned UInt8.size after length ∧
    length ≤ address.width

/-- The part of a text before its first slash has no slash. -/
theorem span_slash {before : List Char} (slashless : '/' ∉ before) (after : List Char) :
    (before ++ '/' :: after).span (· ≠ '/') = (before, '/' :: after) := by
  refine span_append (fun char member => ?_) fun char first => ?_
  · rw [decide_eq_true_eq]
    exact fun slash => slashless (slash ▸ member)
  · cases first
    rfl

/-- An address and a number of leading bits are a block if the address has so many bits. -/
theorem ofAddress_eq_ok_iff {address : Address} {length : UInt8} {cidr : Cidr} :
    ofAddress address length = .ok cidr ↔ cidr.address = address ∧ cidr.length = length := by
  unfold ofAddress
  obtain ⟨known, bits, within⟩ := cidr
  split
  · rw [Except.ok.injEq, Cidr.mk.injEq, eq_comm, @eq_comm _ length]
  · rename_i beyond
    simp only [reduceCtorEq, false_iff, not_and]
    rintro rfl rfl
    exact beyond within

/-- The two sides of the first slash are read one after the other. -/
theorem ofText_of_slash {text : String} {before after : List Char}
    (whole : text.toList = before ++ '/' :: after) (slashless : '/' ∉ before) (cidr : Cidr) :
    ofText text = .ok cidr ↔ Address.parse? (String.ofList before) = some cidr.address ∧
      IsUnsigned UInt8.size after cidr.length.toNat := by
  rw [ofText, whole, span_slash slashless, ← readUnsigned_eq_ok_iff (by decide)]
  dsimp only
  cases Address.parse? (String.ofList before) with
  | none => simp
  | some address =>
    dsimp only
    cases read : readUnsigned 10 UInt8.size after with
    | error cause => simp
    | ok length =>
      obtain ⟨-, -, -, -, -, small⟩ := (readUnsigned_eq_ok_iff (by decide)).1 read
      rw [ofAddress_eq_ok_iff, Option.some.injEq, Except.ok.injEq, ← UInt8.toNat_inj,
        UInt8.toNat_ofNat_of_lt' small, eq_comm, @eq_comm _ length]

/-- A text without a slash is no block. -/
theorem ofText_of_not_mem {text : String} (slashless : '/' ∉ text.toList) :
    ofText text = .error (.noLength text) := by
  have whole : text.toList.span (· ≠ '/') = (text.toList, []) := by
    have parts : (text.toList ++ []).span (· ≠ '/') = (text.toList, []) :=
      span_append (fun char member => decide_eq_true fun slash => slashless (slash ▸ member))
        fun char first => nomatch first
    rwa [List.append_nil] at parts
  rw [ofText, whole]

/-- A text is read as a block just if it denotes its address and its number of leading bits. -/
theorem ofText_eq_ok_iff {text : String} {cidr : Cidr} :
    ofText text = .ok cidr ↔ Denotes text cidr.address cidr.length.toNat := by
  constructor
  · intro read
    by_cases slash : '/' ∈ text.toList
    · obtain ⟨before, after, whole, slashless⟩ := List.eq_append_cons_of_mem slash
      obtain ⟨address, length⟩ := (ofText_of_slash whole slashless cidr).1 read
      exact ⟨before, after, whole, slashless, address, length, cidr.length_le⟩
    · rw [ofText_of_not_mem slash] at read
      cases read
  · rintro ⟨before, after, whole, slashless, address, length, -⟩
    exact (ofText_of_slash whole slashless cidr).2 ⟨address, length⟩

/-- A number of eight bits is written as a numeral. -/
theorem isUnsigned_toDigits (length : UInt8) :
    IsUnsigned UInt8.size (Nat.toDigits 10 length.toNat) length.toNat := by
  refine ⟨_, .inl rfl, Nat.toDigits_ne_nil, fun char member => ?_, Nat.ofDigitChars_ten_toDigits,
    length.toNat_lt⟩
  exact Nat.isDigit_of_mem_toDigits (by decide) (by decide) member

/-- A block is denoted by its text. -/
theorem denotes_text (cidr : Cidr) : Denotes cidr.text cidr.address cidr.length.toNat := by
  refine ⟨cidr.address.text.toList, Nat.toDigits 10 cidr.length.toNat, ?_,
    cidr.address.slash_not_mem_text, ?_, isUnsigned_toDigits _, cidr.length_le⟩
  · simp only [text, String.toList_append, List.append_assoc, Nat.toString_eq_ofList_toDigits,
      String.toList_ofList]
    rfl
  · rw [String.ofList_toList, Address.parse?_text]

/-- An address of either version and a number of leading bits that it has are a block, and the block is
read from its text. Different blocks have different texts. A text is read as a block just if it denotes
an address and a number of leading bits that this has, and then as the block of these two. -/
theorem text_reads_back :
    (∀ (address : Address) (length : UInt8), length.toNat ≤ address.width ↔
      ∃ cidr, ofAddress address length = .ok cidr ∧ cidr.address = address ∧
        cidr.length = length ∧ ofText cidr.text = .ok cidr) ∧
    (∀ first second : Cidr, first.text = second.text → first = second) ∧
    ∀ text : String,
      ((∃ cidr, ofText text = .ok cidr) ↔ ∃ address length, Denotes text address length) ∧
      ∀ cidr, ofText text = .ok cidr ↔ Denotes text cidr.address cidr.length.toNat := by
  have back (cidr : Cidr) : ofText cidr.text = .ok cidr := ofText_eq_ok_iff.2 cidr.denotes_text
  refine ⟨fun address length => ⟨fun within => ?_, ?_⟩, fun first second same => ?_, fun text =>
    ⟨⟨?_, ?_⟩, fun cidr => ofText_eq_ok_iff⟩⟩
  · exact ⟨⟨address, length, within⟩, ofAddress_eq_ok_iff.2 ⟨rfl, rfl⟩, rfl, rfl, back _⟩
  · rintro ⟨cidr, -, rfl, rfl, -⟩
    exact cidr.length_le
  · have read := back first
    rw [same, back second] at read
    exact (Except.ok.inj read).symm
  · rintro ⟨cidr, read⟩
    exact ⟨_, _, ofText_eq_ok_iff.1 read⟩
  · rintro ⟨address, length, denotes⟩
    obtain ⟨before, after, whole, slashless, parsed, numeral, within⟩ := denotes
    have small : length < UInt8.size := numeral.choose_spec.2.2.2.2
    have same : (UInt8.ofNat length).toNat = length := UInt8.toNat_ofNat_of_lt' small
    refine ⟨⟨address, UInt8.ofNat length, same.symm ▸ within⟩, ofText_eq_ok_iff.2 ?_⟩
    rw [← same] at numeral within
    exact ⟨before, after, whole, slashless, parsed, numeral, within⟩

/-- An address of the sixth version that holds one of the fourth keeps its version, and its block can
be spelled in other ways, too. -/
theorem text_reads_back_mapped :
    let address : Address := .v6 ⟨[0, 0, 0, 0, 0, 0xffff, 0x0a01, 0x0203], rfl⟩
    ∃ cidr, ofAddress address 96 = .ok cidr ∧ cidr.text = "::ffff:10.1.2.3/96" ∧
      ofText "::ffff:10.1.2.3/96" = .ok cidr ∧ ofText "0:0::ffff:a01:203/+096" = .ok cidr := by
  intro address
  obtain ⟨blocks, -, reads⟩ := text_reads_back
  obtain ⟨cidr, built, sameAddress, sameLength, read⟩ := (blocks address 96).1 (by decide)
  have written : cidr.text = "::ffff:10.1.2.3/96" := by
    rw [text, sameAddress, sameLength]
    decide
  refine ⟨cidr, built, written, written ▸ read, ?_⟩
  rw [(reads _).2, sameAddress, sameLength]
  refine ⟨"0:0::ffff:a01:203".toList, "+096".toList, by decide, by decide, by decide, ?_, by decide⟩
  have digits : "096".toList.all Char.isDigit = true := by decide
  exact ⟨"096".toList, .inr (by decide), by decide, List.all_eq_true.1 digits, by decide, by decide⟩

end TunnelFailover.Cidr
