/-!
This file defines the account that is kept of the probes sent to one peer: the last sequence number
sent, and the watermark up to which every probe has returned or was given up.
-/

namespace TunnelFailover

/-- Sequence numbers from `first` up to `last`, both included. -/
structure SequenceRange where
  first : UInt64
  last : UInt64
  ordered : first ≤ last
deriving DecidableEq

namespace SequenceRange

/-- The numbers of a range in increasing order. -/
def toList (range : SequenceRange) : List UInt64 :=
  (List.range (range.last.toNat - range.first.toNat + 1)).map fun offset =>
    UInt64.ofNat (range.first.toNat + offset)

end SequenceRange

/-- The numbers strictly between two others. There are none above the largest word. -/
def between (previous upto : UInt64) : Option SequenceRange :=
  if gap : previous.toNat + 1 < upto.toNat then
    some
      { first := previous + 1
        last := upto - 1
        ordered := by
          have := upto.toNat_lt
          simp only [UInt64.le_iff_toNat_le, UInt64.toNat_add, UInt64.toNat_sub, UInt64.toNat_one]
          omega }
  else none

/-- The account of one peer starts with no probe sent. -/
structure Peer where
  sequence : UInt64 := 0
  acknowledgement : UInt64 := 0
deriving DecidableEq, Repr, Inhabited

namespace Peer

/-- The next probe gets the next sequence number; the first one is one. -/
def next (peer : Peer) : Peer × UInt64 :=
  let sequence := peer.sequence + 1
  ({ peer with sequence }, sequence)

/-- A return moves the watermark up to its number. The numbers that it passes over are missed. -/
def acknowledge (peer : Peer) (sequence : UInt64) : Peer × Option SequenceRange :=
  ({ peer with acknowledgement := max peer.acknowledgement sequence },
    between peer.acknowledgement sequence)

/-- A sweep gives up every probe but the last one, which is still on its way. -/
def sweep (peer : Peer) : Peer × Option SequenceRange :=
  let watermark := if peer.sequence = 0 then 0 else peer.sequence - 1
  ({ peer with acknowledgement := max peer.acknowledgement watermark },
    between peer.acknowledgement peer.sequence)

end Peer

end TunnelFailover
