import TunnelFailover.Net.Address
import TunnelFailover.Proofs.Numeral
/-!
This file shows that an address of either version is read from its text. The shortened form of the
sixth version leaves out one run of zeros, and the groups around it tell how long this run is.
-/

namespace TunnelFailover

namespace Address.Reader

/-- A run of digits ends where the text does or another character follows. -/
def Ends (radix : Nat) (rest : List Char) : Prop := rest.head?.bind (digitValue? radix) = none

/-- Where no digit of a radix follows, none of a lower radix does. -/
theorem Ends.lower {radix lower : Nat} {rest : List Char} (ends : Ends radix rest)
    (le : lower ≤ radix) : Ends lower rest := by
  refine Option.bind_eq_none_iff.2 fun char first => ?_
  have none := Option.bind_eq_none_iff.1 ends char first
  unfold digitValue? at none ⊢
  rw [Option.filter_eq_none_iff] at none ⊢
  intro value read
  have above := none value read
  simp only [decide_eq_true_eq, Nat.not_lt] at above ⊢
  exact Nat.le_trans le above

/-- Digits are read up to where they end. -/
theorem digits_append {radix : Nat} {run rest : List Char}
    (all : ∀ char ∈ run, (digitValue? radix char).isSome = true) (ends : Ends radix rest) :
    digits radix (run ++ rest) = (run, rest) := by
  refine span_append all fun char first => ?_
  rw [Option.bind_eq_none_iff.1 ends char first]
  rfl

theorem digits_toDigits {radix : Nat} (atLeast : 1 < radix) (small : radix ≤ 16) (value : Nat)
    {rest : List Char} (ends : Ends radix rest) :
    digits radix (Nat.toDigits radix value ++ rest) = (Nat.toDigits radix value, rest) :=
  digits_append (isSome_of_digitsFrom? (digitsValue?_toDigits atLeast small value)) ends

/-- An octet is read from its number. -/
theorem octet?_toDigits (octet : UInt8) {rest : List Char} (ends : Ends 10 rest) :
    octet? (Nat.toDigits 10 octet.toNat ++ rest) = some (octet, rest) := by
  have small : octet.toNat < 256 := octet.toNat_lt
  have short : (Nat.toDigits 10 octet.toNat).length ≤ 3 :=
    (Nat.length_toDigits_le_iff (by decide) (by decide)).2 (by omega)
  have first (long : 1 < (Nat.toDigits 10 octet.toNat).length) :
      (Nat.toDigits 10 octet.toNat).head? ≠ some '0' := by
    refine head?_toDigits_ne_zero (by decide) (by decide) (Nat.pos_of_ne_zero fun zero => ?_)
    rw [zero, Nat.toDigits_zero] at long
    exact absurd long (by decide)
  have readable : ¬((Nat.toDigits 10 octet.toNat).isEmpty = true ∨
      3 < (Nat.toDigits 10 octet.toNat).length ∨
      (1 < (Nat.toDigits 10 octet.toNat).length ∧
        (Nat.toDigits 10 octet.toNat).head? = some '0') ∨ 255 < octet.toNat) := by
    rintro (empty | long | ⟨long, zero⟩ | large)
    · exact Nat.toDigits_ne_nil (List.isEmpty_iff.1 empty)
    · omega
    · exact first long zero
    · omega
  unfold octet?
  rw [digits_toDigits (by decide) (by decide) _ ends]
  dsimp only
  rw [digitsValue?_toDigits (by decide) (by decide), Option.bind_eq_bind, Option.bind_some,
    if_neg readable, UInt8.ofNat_toNat]

theorem octet?_of_ends {rest : List Char} (ends : Ends 10 rest) : octet? rest = none := by
  have nothing : digits 10 ([] ++ rest) = ([], rest) := digits_append (by simp) ends
  rw [List.nil_append] at nothing
  rw [octet?, nothing]
  rfl

/-- A group is read from its number. -/
theorem group?_toDigits (group : UInt16) {rest : List Char} (ends : Ends 16 rest) :
    group? (Nat.toDigits 16 group.toNat ++ rest) = some (group, rest) := by
  have short : (Nat.toDigits 16 group.toNat).length ≤ 4 :=
    (Nat.length_toDigits_le_iff (by decide) (by decide)).2 group.toNat_lt
  have readable : ¬((Nat.toDigits 16 group.toNat).isEmpty = true ∨
      4 < (Nat.toDigits 16 group.toNat).length) := by
    rintro (empty | long)
    · exact Nat.toDigits_ne_nil (List.isEmpty_iff.1 empty)
    · omega
  unfold group?
  rw [digits_toDigits (by decide) (by decide) _ ends]
  dsimp only
  rw [digitsValue?_toDigits (by decide) (by decide), Option.bind_eq_bind, Option.bind_some,
    if_neg readable, UInt16.ofNat_toNat]

theorem group?_of_ends {rest : List Char} (ends : Ends 16 rest) : group? rest = none := by
  have nothing : digits 16 ([] ++ rest) = ([], rest) := digits_append (by simp) ends
  rw [List.nil_append] at nothing
  rw [group?, nothing]
  rfl

/-- Four octets are read up to where the last one ends. -/
theorem v4?_text (address : AddressV4) {rest : List Char} (ends : Ends 10 rest) :
    v4? (address.text.toList ++ rest) = some (address, rest) := by
  obtain ⟨octets, length⟩ := address
  obtain ⟨first, second, third, fourth, rfl⟩ := List.length_eq_four.1 length
  have point (after : List Char) : Ends 10 ('.' :: after) := rfl
  simp [v4?, AddressV4.text, octet?_toDigits, point, ends, mark?]

/-- What starts with no digit is no address of the fourth version. -/
theorem v4?_of_ends {rest : List Char} (ends : Ends 10 rest) : v4? rest = none := by
  rw [v4?, octet?_of_ends ends]
  rfl

/-- What follows an octet is a part of the text. -/
theorem suffix_of_octet? {chars rest : List Char} {octet : UInt8}
    (read : octet? chars = some (octet, rest)) : rest <:+ chars := by
  unfold octet? digits at read
  rw [List.span_eq_takeWhile_dropWhile] at read
  obtain ⟨value, -, read⟩ := Option.bind_eq_some_iff.1 read
  split at read
  · cases read
  · cases read
    exact List.dropWhile_suffix _

theorem mark?_of_not_mem {expected : Char} {chars : List Char} (missing : expected ∉ chars) :
    mark? expected chars = none := by
  cases chars with
  | nil => rfl
  | cons char rest =>
    have other : char ≠ expected := fun same => missing (same ▸ List.mem_cons_self)
    exact if_neg other

/-- Without a point there is no address of the fourth version. -/
theorem v4?_of_not_mem {chars : List Char} (pointless : '.' ∉ chars) : v4? chars = none := by
  unfold v4?
  cases read : octet? chars with
  | none => rfl
  | some found =>
    obtain ⟨octet, rest⟩ := found
    have later : '.' ∉ rest := fun member => pointless ((suffix_of_octet? read).subset member)
    simp [mark?_of_not_mem later]

section Groups

variable {first : Bool} {limit : Nat} {chars text rest : List Char}

/-- Where the next group or embedded address starts: behind a colon, except for the first one. -/
def next? (first : Bool) (chars : List Char) : Option (List Char) :=
  if first then some chars else mark? ':' chars

/-- A group is read if no embedded address stands in its place. -/
theorem groups_of_group {group : UInt16} (starts : next? first chars = some text)
    (plain : v4? text = none) (read : group? text = some (group, rest)) :
    groups first (limit + 1) chars =
      { groups false limit rest with groups := group :: (groups false limit rest).groups } := by
  unfold next? at starts
  simp [groups, starts, plain, read]

/-- An embedded address ends the groups. -/
theorem groups_of_v4 {address : AddressV4} (starts : next? first chars = some text)
    (room : limit ≠ 0) (read : v4? text = some (address, rest)) :
    groups first (limit + 1) chars = ⟨embedded address, true, rest⟩ := by
  unfold next? at starts
  simp [groups, starts, room, read]

/-- There are no groups where neither a group nor an embedded address starts. -/
theorem groups_of_ends (ends : ∀ text, next? first chars = some text → Ends 16 text) :
    groups first limit chars = ⟨[], false, chars⟩ := by
  cases limit with
  | zero => rfl
  | succ limit =>
    have noWhole : (next? first chars).bind v4? = none :=
      Option.bind_eq_none_iff.2 fun text starts =>
        v4?_of_ends ((ends text starts).lower (by decide))
    have noGroup : (next? first chars).bind group? = none :=
      Option.bind_eq_none_iff.2 fun text starts => group?_of_ends (ends text starts)
    unfold next? at noWhole noGroup
    simp [groups, noWhole, noGroup]

end Groups

/-- Groups with a colon in front of each. -/
def colonGroups (groups : List UInt16) : List Char :=
  groups.flatMap fun group => ':' :: Nat.toDigits 16 group.toNat

/-- The first group has no colon in front, and those after it do. -/
theorem toList_groupsText (group : UInt16) (groups : List UInt16) :
    (AddressV6.groupsText (group :: groups)).toList =
      Nat.toDigits 16 group.toNat ++ colonGroups groups := by
  have plain (value : Nat) : (hexadecimal 1 value).toList = Nat.toDigits 16 value := by
    have some : 0 < (Nat.toDigits 16 value).length := Nat.length_toDigits_pos
    rw [hexadecimal, Nat.sub_eq_zero_of_le some, List.replicate_zero, List.nil_append,
      String.toList_ofList]
  have whole : (AddressV6.groupsText (group :: groups)).toList =
      [':'].intercalate ((group :: groups).map fun group => Nat.toDigits 16 group.toNat) := by
    simp [AddressV6.groupsText, String.toList_intercalate, Function.comp_def, plain]
  rw [whole]
  clear whole
  induction groups generalizing group with
  | nil => simp [colonGroups]
  | cons second groups inductionHypothesis =>
    have later := inductionHypothesis second
    rw [List.map_cons] at later
    rw [List.map_cons, List.map_cons, List.intercalate_cons_cons, later]
    simp [colonGroups]

section Marks

variable {mark : Char} {radix : Nat}

/-- Numbers consist of digits. -/
theorem mark_not_mem_toDigits (noDigit : digitValue? radix mark = none) (atLeast : 1 < radix)
    (small : radix ≤ 16) (value : Nat) : mark ∉ Nat.toDigits radix value := by
  intro member
  have digit := isSome_of_digitsFrom? (digitsValue?_toDigits atLeast small value) mark member
  rw [noDigit] at digit
  cases digit

theorem mark_not_mem_colonGroups (noDigit : digitValue? 16 mark = none) (noColon : mark ≠ ':')
    (groups : List UInt16) : mark ∉ colonGroups groups := by
  simp [colonGroups, mark_not_mem_toDigits noDigit, noColon]

/-- Groups consist of digits and colons. -/
theorem mark_not_mem_groupsText (noDigit : digitValue? 16 mark = none) (noColon : mark ≠ ':')
    (groups : List UInt16) : mark ∉ (AddressV6.groupsText groups).toList := by
  cases groups with
  | nil => simp [AddressV6.groupsText]
  | cons group groups =>
    rw [toList_groupsText]
    simp [mark_not_mem_toDigits noDigit, mark_not_mem_colonGroups noDigit noColon]

end Marks

/-- One group in front of others, with a text behind them, is read together with them. -/
theorem groups_cons {first : Bool} {limit : Nat} {chars rest : List Char} {group : UInt16}
    {others : List UInt16}
    (starts : next? first chars =
      some (Nat.toDigits 16 group.toNat ++ (colonGroups others ++ rest)))
    (pointless : '.' ∉ rest) (ends : Ends 16 rest)
    (later : groups false limit (colonGroups others ++ rest) = ⟨others, false, rest⟩) :
    groups first (limit + 1) chars = ⟨group :: others, false, rest⟩ := by
  have noDigit : digitValue? 16 '.' = none := rfl
  have plain : '.' ∉ Nat.toDigits 16 group.toNat ++ (colonGroups others ++ rest) := by
    simp [mark_not_mem_toDigits noDigit, mark_not_mem_colonGroups noDigit, pointless]
  have behind : Ends 16 (colonGroups others ++ rest) := by
    cases others with
    | nil => exact ends
    | cons second others => rfl
  rw [groups_of_group starts (v4?_of_not_mem plain) (group?_toDigits group behind), later]

/-- Groups with colons in front are read up to where they end. -/
theorem groups_colonGroups {written : List UInt16} {limit : Nat} {rest : List Char}
    (room : written.length ≤ limit) (pointless : '.' ∉ rest) (ends : Ends 16 rest)
    (last : groups false (limit - written.length) rest = ⟨[], false, rest⟩) :
    groups false limit (colonGroups written ++ rest) = ⟨written, false, rest⟩ := by
  induction written generalizing limit with
  | nil => exact last
  | cons group others inductionHypothesis =>
    obtain ⟨fewer, rfl⟩ : ∃ fewer, limit = fewer + 1 :=
      Nat.exists_eq_add_one.2 (Nat.zero_lt_of_lt room)
    rw [List.length_cons, Nat.add_sub_add_right] at last
    refine groups_cons ?_ pointless ends (inductionHypothesis (Nat.le_of_succ_le_succ room) last)
    simp [next?, mark?, colonGroups]

/-- Groups are read up to where they end. -/
theorem groups_groupsText {written : List UInt16} {limit : Nat} {rest : List Char}
    (room : written.length ≤ limit) (pointless : '.' ∉ rest) (ends : Ends 16 rest)
    (last : groups false (limit - written.length) rest = ⟨[], false, rest⟩) :
    groups true limit ((AddressV6.groupsText written).toList ++ rest) = ⟨written, false, rest⟩ := by
  cases written with
  | nil =>
    refine groups_of_ends fun text starts => ?_
    cases starts
    exact ends
  | cons group others =>
    obtain ⟨fewer, rfl⟩ : ∃ fewer, limit = fewer + 1 :=
      Nat.exists_eq_add_one.2 (Nat.zero_lt_of_lt room)
    rw [List.length_cons, Nat.add_sub_add_right] at last
    refine groups_cons ?_ pointless ends
      (groups_colonGroups (Nat.le_of_succ_le_succ room) pointless ends last)
    rw [next?, if_pos rfl, toList_groupsText, List.append_assoc]

/-- Groups that end the text are read to the last one. -/
theorem groups_toList {written : List UInt16} {limit : Nat} (room : written.length ≤ limit) :
    groups true limit (AddressV6.groupsText written).toList = ⟨written, false, []⟩ := by
  have last : groups false (limit - written.length) [] = ⟨[], false, []⟩ :=
    groups_of_ends fun text starts => nomatch starts
  have read := groups_groupsText room List.not_mem_nil rfl last
  rwa [List.append_nil] at read

/-- Groups before two colons are read up to these. -/
theorem groups_before_colons {written : List UInt16} {limit : Nat} (room : written.length ≤ limit)
    {after : List Char} (pointless : '.' ∉ after) :
    groups true limit ((AddressV6.groupsText written).toList ++ ':' :: ':' :: after) =
      ⟨written, false, ':' :: ':' :: after⟩ := by
  refine groups_groupsText room (by simp [pointless]) rfl (groups_of_ends fun text starts => ?_)
  cases starts
  rfl

end Address.Reader

namespace AddressV6

/-- A run of zeros of an address. -/
def ZeroRun.LiesIn (run : ZeroRun) (groups : List UInt16) : Prop :=
  ∀ index, run.start ≤ index → index < run.start + run.length → groups[index]? = some 0

/-- An address is what stands before a run of zeros, the zeros, and what stands behind them. -/
theorem ZeroRun.LiesIn.split {run : ZeroRun} {groups : List UInt16} (lies : run.LiesIn groups)
    (some : 0 < run.length) :
    run.start + run.length ≤ groups.length ∧
      groups.take run.start ++ List.replicate run.length 0 ++
        groups.drop (run.start + run.length) = groups := by
  have within : run.start + run.length ≤ groups.length := by
    have last := lies (run.start + run.length - 1) (by omega) (by omega)
    obtain ⟨inside, -⟩ := List.getElem?_eq_some_iff.1 last
    omega
  refine ⟨within, ?_⟩
  have middle : (groups.drop run.start).take run.length = List.replicate run.length 0 := by
    refine List.ext_getElem? fun index => ?_
    rw [List.getElem?_take, List.getElem?_drop, List.getElem?_replicate]
    split
    · exact lies _ (Nat.le_add_right ..) (by omega)
    · rfl
  rw [← middle, ← List.drop_drop, List.append_assoc, List.take_append_drop, List.take_append_drop]

/-- The longest run of zeros and the one that ends at the position are zeros of the address. -/
theorem longestZeroRun_liesIn {groups rest : List UInt16} {longest current : ZeroRun}
    {position : Nat} (lies : longest.LiesIn groups) (ends : current.LiesIn groups)
    (here : current.length = 0 ∨ current.start + current.length = position)
    (follows : groups.drop position = rest) :
    (longestZeroRun longest current position rest).LiesIn groups := by
  induction rest generalizing longest current position with
  | nil => exact lies
  | cons group rest inductionHypothesis =>
    have last : groups[position]? = some group := by
      rw [← List.head?_drop, follows]
      rfl
    have later : groups.drop (position + 1) = rest := by
      rw [← List.drop_drop, follows]
      rfl
    unfold longestZeroRun
    split
    · rename_i zero
      subst zero
      dsimp only
      -- The current run goes one group further.
      generalize extended : (if current.length = 0 then (⟨position, 1⟩ : ZeroRun)
        else ⟨current.start, current.length + 1⟩) = run
      obtain ⟨runHere, runLies⟩ : run.start + run.length = position + 1 ∧ run.LiesIn groups := by
        by_cases fresh : current.length = 0
        · rw [if_pos fresh] at extended
          subst extended
          refine ⟨rfl, fun index atLeast before => ?_⟩
          rwa [Nat.le_antisymm (Nat.le_of_lt_succ before) atLeast]
        · rw [if_neg fresh] at extended
          subst extended
          have reaches := here.resolve_left fresh
          refine ⟨congrArg Nat.succ reaches, fun index atLeast before => ?_⟩
          dsimp only at atLeast before
          rcases Nat.lt_or_ge index position with earlier | latest
          · exact ends index atLeast (by omega)
          · rwa [show index = position by omega]
      refine inductionHypothesis ?_ runLies (.inr runHere) later
      split
      · exact runLies
      · exact lies
    · refine inductionHypothesis lies (fun index _ before => ?_) (.inl rfl) later
      exact absurd before (by simp)

/-- The longest run of zeros lies in the address. -/
theorem longestZeroRun_start (groups : List UInt16) :
    (longestZeroRun ⟨0, 0⟩ ⟨0, 0⟩ 0 groups).LiesIn groups := by
  have empty : ZeroRun.LiesIn ⟨0, 0⟩ groups := fun _ _ before => absurd before (Nat.not_lt_zero _)
  exact longestZeroRun_liesIn empty empty (.inl rfl) List.drop_zero

/-- An address that holds one of the fourth version has it in its last two groups, behind zeros and a
group of ones. -/
theorem groups_of_mapped? {address : AddressV6} {inner : AddressV4}
    (mapped : address.mapped? = some inner) :
    address.groups = [0, 0, 0, 0, 0, 0xffff] ++ Address.Reader.embedded inner := by
  have halves (group : UInt16) :
      (group >>> 8).toUInt8.toUInt16 * 256 + group.toUInt8.toUInt16 = group := by
    have small := group.toNat_lt
    rw [← UInt16.toNat_inj]
    simp only [UInt16.toNat_add, UInt16.toNat_mul, UInt8.toNat_toUInt16, UInt16.toNat_toUInt8,
      UInt16.toNat_shiftRight]
    simp only [Nat.shiftRight_eq_div_pow, UInt16.reduceToNat, Nat.reduceMod, Nat.reducePow]
    omega
  unfold mapped? at mapped
  split at mapped
  · rename_i high low groups
    cases mapped
    rw [groups, Address.Reader.embedded]
    simp only [halves]
    rfl
  · cases mapped

end AddressV6

namespace Address

namespace Reader

/-- Two colons stand for the zeros that the groups before and behind them leave. -/
theorem v6?_of_halves {address : AddressV6} {chars after rest : List Char}
    {front back : List UInt16} {embedded : Bool}
    (head : groups true 8 chars = ⟨front, false, ':' :: ':' :: after⟩) (short : front.length < 8)
    (tail : groups true (7 - front.length) after = ⟨back, embedded, rest⟩)
    (all : front ++ List.replicate (8 - front.length - back.length) 0 ++ back = address.groups) :
    v6? chars = some (address, rest) := by
  have whole : (front ++ List.replicate (8 - front.length - back.length) 0 ++ back).length = 8 := by
    rw [all, address.length_groups]
  unfold v6?
  simp only [head]
  rw [dif_neg (Nat.ne_of_lt short)]
  simp only [Bool.false_eq_true, if_false, mark?, if_true, Option.bind_eq_bind, Option.bind_some,
    tail]
  rw [dif_pos whole]
  simp only [all]

/-- An embedded address of the fourth version is read behind two colons and a group of ones. -/
theorem v6?_mapped {address : AddressV6} {inner : AddressV4}
    (mapped : address.mapped? = some inner) :
    v6? ("::ffff:" ++ inner.text).toList = some (address, []) := by
  have all := AddressV6.groups_of_mapped? mapped
  have two : (embedded inner).length = 2 := by
    have length := congrArg List.length all
    rw [address.length_groups, List.length_append] at length
    exact Nat.add_left_cancel length.symm
  have inside : v4? inner.text.toList = some (inner, []) := by
    have read := v4?_text inner (show Ends 10 [] from rfl)
    rwa [List.append_nil] at read
  have last : groups false 6 (':' :: inner.text.toList) = ⟨embedded inner, true, []⟩ :=
    groups_of_v4 rfl (by decide) inside
  have colon : Ends 16 (':' :: inner.text.toList) := rfl
  have ones : group? ('f' :: 'f' :: 'f' :: 'f' :: ':' :: inner.text.toList) =
      some (0xffff, ':' :: inner.text.toList) := group?_toDigits 0xffff colon
  have noOctet : v4? ('f' :: 'f' :: 'f' :: 'f' :: ':' :: inner.text.toList) = none :=
    v4?_of_ends rfl
  have tail : groups true 7 ('f' :: 'f' :: 'f' :: 'f' :: ':' :: inner.text.toList) =
      ⟨0xffff :: embedded inner, true, []⟩ := by
    rw [groups_of_group rfl noOctet ones, last]
  rw [String.toList_append]
  refine v6?_of_halves (groups_of_ends fun text starts => ?_) (by decide) tail ?_
  · cases starts
    rfl
  · rw [all, List.length_cons, two]
    rfl

/-- The text of an address of the sixth version is read as this address. -/
theorem v6?_text (address : AddressV6) : v6? address.text.toList = some (address, []) := by
  have all := address.length_groups
  unfold AddressV6.text
  cases mapped : address.mapped? with
  | some inner => exact v6?_mapped mapped
  | none =>
    have lies := AddressV6.longestZeroRun_start address.groups
    dsimp only
    generalize AddressV6.longestZeroRun ⟨0, 0⟩ ⟨0, 0⟩ 0 address.groups = run at lies ⊢
    split
    · rename_i long
      obtain ⟨within, parts⟩ := lies.split (Nat.zero_lt_of_lt long)
      have frontLength : (address.groups.take run.start).length = run.start := by
        rw [List.length_take]
        omega
      have backLength : (address.groups.drop (run.start + run.length)).length =
          8 - run.start - run.length := by
        rw [List.length_drop, all, Nat.sub_sub]
      have left : 8 - run.start - (8 - run.start - run.length) = run.length := by omega
      rw [String.toList_append, String.toList_append, List.append_assoc]
      refine v6?_of_halves (groups_before_colons (by omega)
        (mark_not_mem_groupsText rfl (by decide) _)) (by omega) (groups_toList (by omega)) ?_
      rw [frontLength, backLength, left]
      exact parts
    · unfold v6?
      simp only [groups_toList (Nat.le_of_eq all)]
      rw [dif_pos all]

/-- The text of an address of the sixth version is none of the fourth. -/
theorem v4?_text_v6 (address : AddressV6) : v4? address.text.toList = none := by
  unfold AddressV6.text
  cases address.mapped? with
  | some inner =>
    change v4? ("::ffff:" ++ inner.text).toList = none
    rw [String.toList_append]
    exact v4?_of_ends rfl
  | none =>
    have pointless (groups : List UInt16) : '.' ∉ (AddressV6.groupsText groups).toList :=
      mark_not_mem_groupsText rfl (by decide) groups
    refine v4?_of_not_mem ?_
    dsimp only
    split <;> simp [pointless]

end Reader

/-- An address is read from its text. -/
theorem parse?_text (address : Address) : parse? address.text = some address := by
  unfold parse?
  cases address with
  | v4 address =>
    have read := Reader.v4?_text address (show Reader.Ends 10 [] from rfl)
    rw [List.append_nil] at read
    simp only [text, read]
    rfl
  | v6 address =>
    simp only [text, Reader.v4?_text_v6, Reader.v6?_text]
    rfl

/-- No address has a slash in its text. -/
theorem slash_not_mem_text (address : Address) : '/' ∉ address.text.toList := by
  have plain (address : AddressV4) : '/' ∉ address.text.toList := by
    obtain ⟨octets, length⟩ := address
    obtain ⟨first, second, third, fourth, rfl⟩ := List.length_eq_four.1 length
    have noDigit : digitValue? 10 '/' = none := rfl
    simp [AddressV4.text, Reader.mark_not_mem_toDigits noDigit]
  have slashless (groups : List UInt16) : '/' ∉ (AddressV6.groupsText groups).toList :=
    Reader.mark_not_mem_groupsText rfl (by decide) groups
  cases address with
  | v4 address => exact plain address
  | v6 address =>
    unfold text AddressV6.text
    dsimp only
    split
    · simp [plain]
    · split <;> simp [slashless]

end Address

end TunnelFailover
