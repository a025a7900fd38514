import TunnelFailover.Probe.Location
import TunnelFailover.Probe.Uuid
import TunnelFailover.Time.Instant
/-!
This file defines probes, which travel to the far end of a tunnel and back, their latencies, and
the datagram of 128 bytes that carries one.
-/

namespace TunnelFailover

/-- A probe names its sender and its responder. It is answered once it has the time of the answer. -/
structure Probe where
  sequence : UInt64
  sender : Uuid
  senderLocation : Location
  sentAt : Instant
  responder : Uuid
  responderLocation : Location
  answeredAt : Option Instant
deriving DecidableEq

namespace Probe

/-- A new probe is not answered, and the location of the answer is empty. -/
def fresh (sequence : UInt64) (sender : Uuid) (location : Location) (sentAt : Instant)
    (responder : Uuid) : Probe :=
  ⟨sequence, sender, location, sentAt, responder, .empty, none⟩

/-- A probe that has been answered is on its way back. -/
def isReturned (probe : Probe) : Bool := probe.answeredAt.isSome

/-- An answer stamps its place and time on the probe. -/
def respond (probe : Probe) (location : Location) (now : Instant) : Probe :=
  { probe with responderLocation := location, answeredAt := some now }

/-- The time on the way out, or zero if the clocks disagree. -/
def forwardLatency (probe : Probe) : Option Duration :=
  probe.answeredAt.map (·.since probe.sentAt)

/-- The time on the way back, or zero if the clocks disagree. -/
def returnLatency (probe : Probe) (now : Instant) : Option Duration :=
  probe.answeredAt.map now.since

/-- A field for a time counts fewer nanoseconds after the epoch, and no more before it. -/
def timeLimit : Nat := Nat.pow 2 63

/-- The times that a field of the datagram can hold. -/
def Encodable (time : Instant) : Prop :=
  -(timeLimit : Int) ≤ time.toNanoseconds ∧ time.toNanoseconds < timeLimit

instance (time : Instant) : Decidable (Encodable time) := by
  unfold Encodable
  infer_instance

/-- A field for a time counts nanoseconds. A time that it cannot hold becomes zero. -/
def timeBytes (time : Option Instant) : List UInt8 :=
  Wire.ofInt 8 ((time.filter (Encodable ·)).map Instant.toNanoseconds |>.getD 0)

/-- The number of bytes of a datagram. -/
def size : Nat := 128

/-- The datagram lists the fields in their order. -/
def bytes (probe : Probe) : List UInt8 :=
  Wire.ofNat 8 probe.sequence.toNat ++ probe.sender.bytes ++ probe.senderLocation.bytes ++
    timeBytes probe.sentAt ++ probe.responder.bytes ++ probe.responderLocation.bytes ++
    timeBytes probe.answeredAt

/-- The time of the answer is absent if its field is zero. -/
def answerTime? (bytes : List UInt8) : Option Instant :=
  let nanoseconds := Wire.toInt bytes
  if nanoseconds = 0 then none else some (Instant.ofNanoseconds nanoseconds)

/-- A datagram has exactly the size of a probe, and the sender's location is read first. -/
def ofBytes (bytes : List UInt8) : Except ProbeFault Probe := do
  if bytes.length = size then
    let field (start width : Nat) := (bytes.drop start).take width
    let senderLocation ← Location.ofBytes (field 24 36)
    let responderLocation ← Location.ofBytes (field 84 36)
    pure
      { sequence := UInt64.ofNat (Wire.toNat (field 0 8))
        sender := Uuid.ofBytes (field 8 16)
        senderLocation
        sentAt := Instant.ofNanoseconds (Wire.toInt (field 60 8))
        responder := Uuid.ofBytes (field 68 16)
        responderLocation
        answeredAt := answerTime? (field 120 8) }
  else throw (.invalidLength bytes.length)

end Probe

end TunnelFailover
