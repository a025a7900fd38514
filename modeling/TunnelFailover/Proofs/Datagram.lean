import TunnelFailover.Probe.Datagram
import TunnelFailover.Proofs.Label
import TunnelFailover.Proofs.Word
/-!
This file shows which bytes are the datagram of a probe, and what a datagram keeps of its probe. Every
datagram that is read is written again byte for byte. A probe that is written is read again up to the
times that have no place in a datagram: those that do not fit their field, and the epoch as the time
of an answer.
-/

namespace TunnelFailover

namespace Instant

/-- The start of 1970. -/
def epoch : Instant := ⟨0, 0⟩

@[simp]
theorem toNanoseconds_ofNanoseconds (nanoseconds : Int) :
    (ofNanoseconds nanoseconds).toNanoseconds = nanoseconds := by
  simp only [toNanoseconds, ofNanoseconds]
  omega

/-- Outside of leap seconds, an instant is known by its nanoseconds. -/
theorem ofNanoseconds_toNanoseconds {time : Instant} (regular : time.isLeap = false) :
    ofNanoseconds time.toNanoseconds = time := by
  have small : ¬1000000000 ≤ time.nanoseconds := of_decide_eq_false regular
  obtain ⟨seconds, nanoseconds⟩ := time
  simp only [ofNanoseconds, toNanoseconds, Instant.mk.injEq] at small ⊢
  omega

/-- The epoch is the only instant without any nanoseconds from it, outside of leap seconds. -/
theorem toNanoseconds_eq_zero_iff {time : Instant} (regular : time.isLeap = false) :
    time.toNanoseconds = 0 ↔ time = epoch := by
  constructor
  · intro zero
    rw [← ofNanoseconds_toNanoseconds regular, zero]
    rfl
  · rintro rfl
    rfl

end Instant

namespace Uuid

/-- An identifier is read from its bytes. -/
@[simp]
theorem ofBytes_bytes (uuid : Uuid) : ofBytes uuid.bytes = uuid := by
  have room : Nat.pow 256 16 = 2 ^ 128 := by decide
  rw [bytes, ofBytes, Wire.toNat_ofNat, room, Nat.mod_eq_of_lt uuid.value.isLt,
    BitVec.ofNat_toNat, BitVec.setWidth_eq]

/-- Sixteen bytes are those of the identifier read from them. -/
theorem bytes_ofBytes {bytes : List UInt8} (sized : bytes.length = 16) :
    (ofBytes bytes).bytes = bytes := by
  have room : Nat.pow 256 16 = 2 ^ 128 := by decide
  have small := Wire.toNat_lt bytes
  rw [sized, room] at small
  rw [Uuid.bytes, ofBytes, BitVec.toNat_ofNat, Nat.mod_eq_of_lt small, ← sized, Wire.ofNat_toNat]

@[simp]
theorem length_bytes (uuid : Uuid) : uuid.bytes.length = 16 := Wire.length_ofNat ..

end Uuid

namespace Probe

/-- A part of a datagram. -/
def field (bytes : List UInt8) (start width : Nat) : List UInt8 := (bytes.drop start).take width

/-- A part of a datagram has its width. -/
theorem length_field {bytes : List UInt8} (sized : bytes.length = size) (start width : Nat)
    (within : start + width ≤ size) : (field bytes start width).length = width := by
  rw [field, List.length_take, List.length_drop, sized]
  omega

/-- Behind a part follows the rest. -/
theorem field_append_drop (bytes : List UInt8) (next : Nat) {start width : Nat}
    (ends : start + width = next) :
    field bytes start width ++ bytes.drop next = bytes.drop start := by
  rw [field, ← ends, ← List.drop_drop, List.take_append_drop]

/-- What the parts of a datagram tell about its probe. -/
structure Holds (bytes : List UInt8) (probe : Probe) : Prop where
  sized : bytes.length = size
  sequence : UInt64.ofNat (Wire.toNat (field bytes 0 8)) = probe.sequence
  sender : Uuid.ofBytes (field bytes 8 16) = probe.sender
  senderLocation : Location.ofBytes (field bytes 24 36) = .ok probe.senderLocation
  sentAt : Instant.ofNanoseconds (Wire.toInt (field bytes 60 8)) = probe.sentAt
  responder : Uuid.ofBytes (field bytes 68 16) = probe.responder
  responderLocation : Location.ofBytes (field bytes 84 36) = .ok probe.responderLocation
  answeredAt : answerTime? (field bytes 120 8) = probe.answeredAt

/-- A datagram is read part by part. -/
theorem ofBytes_eq_ok_iff {bytes : List UInt8} {probe : Probe} :
    ofBytes bytes = .ok probe ↔ Holds bytes probe := by
  unfold ofBytes
  constructor
  · intro read
    split at read
    · rename_i sized
      cases first : Location.ofBytes (field bytes 24 36) with
      | error fault =>
        rw [field] at first
        simp [first, bind, Except.bind] at read
      | ok senderLocation =>
        cases second : Location.ofBytes (field bytes 84 36) with
        | error fault =>
          rw [field] at first second
          simp [first, second, bind, Except.bind] at read
        | ok responderLocation =>
          have firstRead := first
          have secondRead := second
          rw [field] at first second
          simp only [first, second, bind, Except.bind, pure, Except.pure, Except.ok.injEq] at read
          subst read
          exact ⟨sized, rfl, rfl, firstRead, rfl, rfl, secondRead, rfl⟩
    · cases read
  · rintro ⟨sized, sequence, sender, senderLocation, sentAt, responder, responderLocation,
      answeredAt⟩
    unfold field at *
    simp only [sized, if_true, senderLocation, responderLocation, bind, Except.bind, pure,
      Except.pure, sequence, sender, sentAt, responder, answeredAt]

/-- A sequence number is read from its bytes. -/
theorem sequence_ofNat (sequence : UInt64) :
    UInt64.ofNat (Wire.toNat (Wire.ofNat 8 sequence.toNat)) = sequence := by
  rw [Wire.toNat_ofNat, Nat.mod_eq_of_lt sequence.toNat_lt, UInt64.ofNat_toNat]

/-- Eight bytes are those of the sequence number read from them. -/
theorem ofNat_sequence {bytes : List UInt8} (sized : bytes.length = 8) :
    Wire.ofNat 8 (UInt64.ofNat (Wire.toNat bytes)).toNat = bytes := by
  have small := Wire.toNat_lt bytes
  rw [sized] at small
  rw [UInt64.toNat_ofNat_of_lt' small, ← sized, Wire.ofNat_toNat]

section Times

/-- The room in a field of eight bytes. -/
theorem room_of_time : Nat.pow 256 8 = 2 * timeLimit := by decide

/-- Any eight bytes count the nanoseconds of a time that they can hold. -/
theorem encodable_toInt {bytes : List UInt8} (sized : bytes.length = 8) :
    Encodable (Instant.ofNanoseconds (Wire.toInt bytes)) := by
  have room := room_of_time
  have positive : 0 < Nat.pow 256 8 := by decide
  have low := Int.le_bmod (x := Wire.toNat bytes) positive
  have high := Int.bmod_lt (x := Wire.toNat bytes) positive
  rw [Encodable, Instant.toNanoseconds_ofNanoseconds, Wire.toInt, sized]
  omega

/-- The nanoseconds in the field of a time, which are zero if the time has no place in it. -/
def nanosecondsOf (time : Option Instant) : Int :=
  (time.filter (Encodable ·)).elim 0 Instant.toNanoseconds

theorem nanosecondsOf_some (time : Instant) :
    nanosecondsOf (some time) = if Encodable time then time.toNanoseconds else 0 := by
  by_cases encodable : Encodable time <;> simp [nanosecondsOf, Option.filter_some, encodable]

/-- The field of a time has its nanoseconds. -/
theorem timeBytes_eq (time : Option Instant) : timeBytes time = Wire.ofInt 8 (nanosecondsOf time) := by
  unfold timeBytes nanosecondsOf
  cases time.filter (Encodable ·) <;> rfl

@[simp]
theorem length_timeBytes (time : Option Instant) : (timeBytes time).length = 8 := by
  rw [timeBytes_eq, Wire.length_ofInt]

theorem toInt_timeBytes (time : Option Instant) :
    Wire.toInt (timeBytes time) = nanosecondsOf time := by
  have room := room_of_time
  have within : -(timeLimit : Int) ≤ nanosecondsOf time ∧ nanosecondsOf time < timeLimit := by
    cases time with
    | none => decide
    | some time =>
      rw [nanosecondsOf_some]
      split
      · assumption
      · decide
  rw [timeBytes_eq, Wire.toInt_ofInt (by omega) (by omega)]

/-- The time in eight bytes is written to them again. -/
theorem timeBytes_toInt {bytes : List UInt8} (sized : bytes.length = 8) :
    timeBytes (Instant.ofNanoseconds (Wire.toInt bytes)) = bytes := by
  rw [timeBytes_eq, nanosecondsOf_some, if_pos (encodable_toInt sized),
    Instant.toNanoseconds_ofNanoseconds, ← sized, Wire.ofInt_toInt]

/-- The time of an answer is written to its eight bytes again, also if there is none. -/
theorem timeBytes_answerTime? {bytes : List UInt8} (sized : bytes.length = 8) :
    timeBytes (answerTime? bytes) = bytes := by
  unfold answerTime?
  by_cases zero : Wire.toInt bytes = 0
  · have same := Wire.ofInt_toInt bytes
    rw [sized, zero] at same
    rw [if_pos zero]
    exact same
  · rw [if_neg zero]
    exact timeBytes_toInt sized

/-- A time that does not fit its field is read as the epoch. -/
theorem ofNanoseconds_timeBytes {time : Instant} (regular : time.isLeap = false) :
    Instant.ofNanoseconds (Wire.toInt (timeBytes time)) =
      if Encodable time then time else .epoch := by
  rw [toInt_timeBytes, nanosecondsOf_some]
  split
  · exact Instant.ofNanoseconds_toNanoseconds regular
  · rfl

/-- The time of an answer that does not fit its field, or that is the epoch, is read as absent. -/
theorem answerTime?_timeBytes {time : Option Instant}
    (regular : ∀ given ∈ time, given.isLeap = false) :
    answerTime? (timeBytes time) = time.filter fun given => Encodable given ∧ given ≠ .epoch := by
  rw [answerTime?, toInt_timeBytes]
  cases time with
  | none => rfl
  | some given =>
    have givenRegular := regular given rfl
    rw [nanosecondsOf_some]
    by_cases encodable : Encodable given
    · by_cases start : given = .epoch
      · simp [start, Option.filter_some, Instant.epoch, Instant.toNanoseconds]
      · have other : given.toNanoseconds ≠ 0 := fun zero =>
          start ((Instant.toNanoseconds_eq_zero_iff givenRegular).1 zero)
        simp [encodable, start, other, Option.filter_some,
          Instant.ofNanoseconds_toNanoseconds givenRegular]
    · simp [encodable, Option.filter_some]

end Times

/-- The parts of 128 bytes make up the whole. -/
theorem fields_append {bytes : List UInt8} (sized : bytes.length = size) :
    field bytes 0 8 ++ field bytes 8 16 ++ field bytes 24 36 ++ field bytes 60 8 ++
      field bytes 68 16 ++ field bytes 84 36 ++ field bytes 120 8 = bytes := by
  have ending : field bytes 120 8 = bytes.drop 120 :=
    List.take_of_length_le (by rw [List.length_drop, sized]; decide)
  simp only [List.append_assoc, ending]
  rw [field_append_drop bytes 120 rfl, field_append_drop bytes 84 rfl,
    field_append_drop bytes 68 rfl, field_append_drop bytes 60 rfl,
    field_append_drop bytes 24 rfl, field_append_drop bytes 8 rfl]
  rfl

/-- A probe that is read from a datagram is written to it again. -/
theorem Holds.bytes_eq {bytes : List UInt8} {probe : Probe} (holds : Holds bytes probe) :
    probe.bytes = bytes := by
  obtain ⟨sized, sequence, sender, senderLocation, sentAt, responder, responderLocation,
    answeredAt⟩ := holds
  have wide := length_field sized
  have number : Wire.ofNat 8 probe.sequence.toNat = field bytes 0 8 := by
    rw [← sequence, ofNat_sequence (wide 0 8 (by decide))]
  rw [Probe.bytes, number, ← sender, Uuid.bytes_ofBytes (wide 8 16 (by decide)),
    Location.bytes_of_ofBytes (wide 24 36 (by decide)) senderLocation, ← sentAt,
    timeBytes_toInt (wide 60 8 (by decide)), ← responder,
    Uuid.bytes_ofBytes (wide 68 16 (by decide)),
    Location.bytes_of_ofBytes (wide 84 36 (by decide)) responderLocation, ← answeredAt,
    timeBytes_answerTime? (wide 120 8 (by decide)), fields_append sized]

/-- The bytes of a probe have the size of a datagram. -/
theorem length_bytes (probe : Probe) : probe.bytes.length = size := by
  simp [bytes, Location.width, size]

/-- What a datagram keeps of a probe. -/
def kept (probe : Probe) : Probe :=
  { probe with
    sentAt := if Encodable probe.sentAt then probe.sentAt else .epoch
    answeredAt := probe.answeredAt.filter fun time => Encodable time ∧ time ≠ .epoch }

/-- The bytes of a probe hold what a datagram keeps of it. -/
theorem holds_bytes {probe : Probe} (sentRegular : probe.sentAt.isLeap = false)
    (answeredRegular : ∀ time ∈ probe.answeredAt, time.isLeap = false) :
    Holds probe.bytes probe.kept := by
  have sized := probe.length_bytes
  have wide := length_field sized
  -- The parts have the widths of the fields that they were put together from, so they are these.
  have whole := fields_append sized
  conv_rhs at whole => rw [bytes]
  obtain ⟨whole, answeredAt⟩ :=
    List.append_inj' whole ((wide 120 8 (by decide)).trans (length_timeBytes _).symm)
  obtain ⟨whole, responderLocation⟩ :=
    List.append_inj' whole ((wide 84 36 (by decide)).trans (Location.length_bytes _).symm)
  obtain ⟨whole, responder⟩ :=
    List.append_inj' whole ((wide 68 16 (by decide)).trans (Uuid.length_bytes _).symm)
  obtain ⟨whole, sentAt⟩ :=
    List.append_inj' whole ((wide 60 8 (by decide)).trans (length_timeBytes _).symm)
  obtain ⟨whole, senderLocation⟩ :=
    List.append_inj' whole ((wide 24 36 (by decide)).trans (Location.length_bytes _).symm)
  obtain ⟨sequence, sender⟩ :=
    List.append_inj' whole ((wide 8 16 (by decide)).trans (Uuid.length_bytes _).symm)
  exact
    { sized
      sequence := by rw [sequence, sequence_ofNat]; rfl
      sender := by rw [sender, Uuid.ofBytes_bytes]; rfl
      senderLocation := by rw [senderLocation, Location.ofBytes_bytes]; rfl
      sentAt := by rw [sentAt, ofNanoseconds_timeBytes sentRegular]; rfl
      responder := by rw [responder, Uuid.ofBytes_bytes]; rfl
      responderLocation := by rw [responderLocation, Location.ofBytes_bytes]; rfl
      answeredAt := by rw [answeredAt, answerTime?_timeBytes answeredRegular]; rfl }

/-- A datagram keeps the whole probe if both times have a place in it. -/
theorem kept_eq_self_iff (probe : Probe) :
    probe.kept = probe ↔
      Encodable probe.sentAt ∧ ∀ time ∈ probe.answeredAt, Encodable time ∧ time ≠ .epoch := by
  obtain ⟨sequence, sender, senderLocation, sentAt, responder, responderLocation, answeredAt⟩ := probe
  have epochFits : Encodable .epoch := by decide
  have sent : (if Encodable sentAt then sentAt else .epoch) = sentAt ↔ Encodable sentAt := by
    split
    · simpa
    · rename_i unfit
      exact ⟨fun same => absurd (same ▸ epochFits) unfit, fun fit => absurd fit unfit⟩
  have answered : (answeredAt.filter fun time => Encodable time ∧ time ≠ .epoch) = answeredAt ↔
      ∀ time ∈ answeredAt, Encodable time ∧ time ≠ .epoch := by
    cases answeredAt with
    | none => simp
    | some time => simp
  simp only [kept, Probe.mk.injEq, true_and, sent, answered]

/-- A probe is written to 128 bytes. Outside of leap seconds it is read again as it was exactly if the
time of sending fits its field, and the time of the answer fits its field and is not the epoch, if
there is one. Otherwise a probe is read that only lacks the times without a place: the time of sending
has become the epoch, and that of the answer is absent. -/
theorem written_reads (probe : Probe) (sentRegular : probe.sentAt.isLeap = false)
    (answeredRegular : ∀ time ∈ probe.answeredAt, time.isLeap = false) :
    probe.bytes.length = 128 ∧
      (ofBytes probe.bytes = .ok probe ↔
        Encodable probe.sentAt ∧ ∀ time ∈ probe.answeredAt, Encodable time ∧ time ≠ .epoch) ∧
      ofBytes probe.bytes = .ok
        { probe with
          sentAt := if Encodable probe.sentAt then probe.sentAt else .epoch
          answeredAt := probe.answeredAt.filter fun time => Encodable time ∧ time ≠ .epoch } := by
  have read : ofBytes probe.bytes = .ok probe.kept :=
    ofBytes_eq_ok_iff.2 (holds_bytes sentRegular answeredRegular)
  refine ⟨probe.length_bytes, ?_, read⟩
  rw [read, Except.ok.injEq, kept_eq_self_iff]

/-- The lowest time fits a field, and the nanosecond after the highest one does not. An answer at the
epoch is lost. -/
theorem written_reads_bounds :
    let sent (sentAt : Instant) := Probe.fresh 42 ⟨1⟩ .empty sentAt ⟨2⟩
    let lowest : Instant := ⟨-9223372037, 145224192⟩
    let above : Instant := ⟨9223372036, 854775808⟩
    lowest.toNanoseconds = -9223372036854775808 ∧ lowest.isLeap = false ∧
      ofBytes (sent lowest).bytes = .ok (sent lowest) ∧
      above.toNanoseconds = 9223372036854775808 ∧ above.isLeap = false ∧
      Instant.epoch.isLeap = false ∧
      ofBytes ((sent above).respond .empty .epoch).bytes = .ok (sent .epoch) := by
  intro sent lowest above
  obtain ⟨-, whole, -⟩ := written_reads (sent lowest) rfl (by decide)
  obtain ⟨-, -, lost⟩ := written_reads ((sent above).respond .empty .epoch) rfl (by decide)
  have unfit : ¬Encodable above := by decide
  refine ⟨by decide, rfl, whole.2 (by decide), by decide, rfl, rfl, ?_⟩
  simpa [sent, fresh, respond, unfit, Option.filter_some] using lost

/-- A run of bytes is read as a probe exactly if it has 128 bytes and both its fields of locations are
UTF-8 up to the zeros at their end. The probe is written to the same bytes again, so that no two runs
of bytes are read as the same probe. -/
theorem read_writes (bytes : List UInt8) :
    ((∃ probe, ofBytes bytes = .ok probe) ↔
        bytes.length = 128 ∧
          ByteArray.IsValidUTF8 ⟨(((bytes.drop 24).take 36).rdropWhile (· == 0)).toArray⟩ ∧
          ByteArray.IsValidUTF8 ⟨(((bytes.drop 84).take 36).rdropWhile (· == 0)).toArray⟩) ∧
      (∀ probe, ofBytes bytes = .ok probe → probe.bytes = bytes) ∧
      ∀ other probe, ofBytes bytes = .ok probe → ofBytes other = .ok probe → bytes = other := by
  have writes {bytes : List UInt8} {probe : Probe} (read : ofBytes bytes = .ok probe) :
      probe.bytes = bytes := (ofBytes_eq_ok_iff.1 read).bytes_eq
  refine ⟨?_, fun _ => writes, fun other probe read otherRead =>
    (writes read).symm.trans (writes otherRead)⟩
  constructor
  · rintro ⟨probe, read⟩
    obtain ⟨sized, -, -, senderLocation, -, -, responderLocation, -⟩ := ofBytes_eq_ok_iff.1 read
    exact ⟨sized,
      (Location.exists_ofBytes_iff (length_field sized 24 36 (by decide))).1 ⟨_, senderLocation⟩,
      (Location.exists_ofBytes_iff (length_field sized 84 36 (by decide))).1
        ⟨_, responderLocation⟩⟩
  · rintro ⟨sized, senderValid, responderValid⟩
    obtain ⟨senderLocation, senderRead⟩ :=
      (Location.exists_ofBytes_iff (length_field sized 24 36 (by decide))).2 senderValid
    obtain ⟨responderLocation, responderRead⟩ :=
      (Location.exists_ofBytes_iff (length_field sized 84 36 (by decide))).2 responderValid
    exact ⟨⟨_, _, senderLocation, _, _, responderLocation, _⟩, ofBytes_eq_ok_iff.2
      ⟨sized, rfl, rfl, senderRead, rfl, rfl, responderRead, rfl⟩⟩

/-- A datagram with the lowest time of sending, the highest time of an answer and a zero within a label
is read and written again. A label that ends within a character is refused. -/
theorem read_writes_extremes :
    let datagram (label : List UInt8) : List UInt8 :=
      List.replicate 24 255 ++ (label ++ List.replicate (36 - label.length) 0) ++
        (128 :: List.replicate 7 0) ++ List.replicate 16 7 ++ List.replicate 36 0 ++
        (127 :: List.replicate 7 255)
    (∃ probe, ofBytes (datagram [100, 0, 99]) = .ok probe ∧
        probe.sentAt.toNanoseconds = -9223372036854775808 ∧
        probe.bytes = datagram [100, 0, 99]) ∧
      ¬∃ probe, ofBytes (datagram [100, 195]) = .ok probe := by
  intro datagram
  obtain ⟨reads, writes, -⟩ := read_writes (datagram [100, 0, 99])
  obtain ⟨refuses, -, -⟩ := read_writes (datagram [100, 195])
  obtain ⟨probe, read⟩ := reads.2 (by decide +kernel)
  refine ⟨⟨probe, read, ?_, writes probe read⟩, fun accepted => ?_⟩
  · rw [← (ofBytes_eq_ok_iff.1 read).sentAt, Instant.toNanoseconds_ofNanoseconds]
    decide +kernel
  · exact absurd (refuses.1 accepted) (by decide +kernel)

end Probe

end TunnelFailover
