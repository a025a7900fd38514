import TunnelFailover.Number.Seconds
/-!
This file computes the upper bounds of the latency buckets.
-/

namespace TunnelFailover

/-- A list in which of equal neighbours only the first is kept. -/
def withoutRepeats : List Float → List Float
  | [] => []
  | [only] => [only]
  | first :: second :: rest =>
    if first == second then
      match withoutRepeats (second :: rest) with
      | [] => [first]
      | _ :: kept => first :: kept
    else first :: withoutRepeats (second :: rest)

/-- The bounds grow by a constant factor from one up to the largest latency, rounded to halves. With
fewer than two buckets the largest latency is the only bound. -/
def latencyBuckets (count : UInt64) (largest : UInt64) : List Float :=
  if count < 2 then [largest.toFloat]
  else
    let base := (largest.toFloat.log / (count - 1).toFloat).exp
    withoutRepeats ((List.range count.toNat).map fun (index : Nat) =>
      (2 * wholePower base index).round / 2)

end TunnelFailover
