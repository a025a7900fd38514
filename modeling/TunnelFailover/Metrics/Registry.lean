import TunnelFailover.Machine.Effect
/-!
This file defines the registry of metrics: gauges, counters and histograms by labels, and the way in
which samples change them.
-/

namespace TunnelFailover

/-- A histogram counts observations under the first bound that is not below them, and keeps their
sum. A last bucket takes what is above every bound. -/
structure Histogram where
  buckets : List (Float × Nat)
  above : Nat
  sum : Float
  count : Nat
deriving Inhabited

namespace Histogram

/-- A histogram starts empty. -/
def empty (bounds : List Float) : Histogram := ⟨bounds.map fun bound => (bound, 0), 0, 0, 0⟩

/-- The first bucket whose bound is not below the value, if any, has one more observation. -/
def place (value : Float) : List (Float × Nat) → Option (List (Float × Nat))
  | [] => none
  | (bound, count) :: rest =>
    if value ≤ bound then some ((bound, count + 1) :: rest)
    else (place value rest).map ((bound, count) :: ·)

/-- One more observation. -/
def observe (histogram : Histogram) (value : Float) : Histogram :=
  let counted := { histogram with sum := histogram.sum + value, count := histogram.count + 1 }
  match place value histogram.buckets with
  | some buckets => { counted with buckets }
  | none => { counted with above := histogram.above + 1 }

end Histogram

/-- A family keeps one metric for each list of label values that has occurred. -/
abbrev Family (α : Type) := List (List String × α)

namespace Family

/-- The metric of some labels changed, after it was created if it had not occurred. -/
def change {α : Type} (create : α) (update : α → α) (labels : List String) :
    Family α → Family α
  | [] => [(labels, update create)]
  | entry :: rest =>
    if entry.1 = labels then (labels, update entry.2) :: rest
    else entry :: change create update labels rest

end Family

/-- The registry has one family for every metric of the program, and the bounds of the buckets for
latencies in microseconds. -/
structure Registry where
  bounds : List Float
  bridgeActive : Family Int
  bridgeUp : Family Int
  interfaceActive : Family Int
  interfaceUp : Family Int
  probesSent : Family Nat
  probesReturned : Family Nat
  probesFailed : Family Nat
  latencyForward : Family Histogram
  latencyReturn : Family Histogram
  errors : Family Nat
deriving Inhabited

namespace Registry

/-- A registry starts without any labels. -/
def empty (bounds : List Float) : Registry := ⟨bounds, [], [], [], [], [], [], [], [], [], []⟩

/-- One more occurrence under some labels. -/
def count (labels : List String) (family : Family Nat) : Family Nat :=
  family.change 0 (· + 1) labels

/-- A gauge with another value. -/
def set (labels : List String) (value : Int) (family : Family Int) : Family Int :=
  family.change 0 (fun _ => value) labels

/-- One more latency in whole microseconds. -/
def time (bounds : List Float) (labels : List String) (latency : Duration)
    (family : Family Histogram) : Family Histogram :=
  family.change (.empty bounds) (·.observe (Float.ofNat latency.microseconds)) labels

/-- The registry after a sample. -/
def record (registry : Registry) : Sample → Registry
  | .probeSent bridge interface =>
    { registry with probesSent := count [bridge, interface] registry.probesSent }
  | .probeFailed bridge interface =>
    { registry with probesFailed := count [bridge, interface] registry.probesFailed }
  | .probeReturned bridge interface source target forward backward =>
    let labels := [bridge, interface, source, target]
    { registry with
      probesReturned := count [bridge, interface] registry.probesReturned
      latencyForward := time registry.bounds labels forward registry.latencyForward
      latencyReturn := time registry.bounds labels backward registry.latencyReturn }
  | .error bridge scope => { registry with errors := count [bridge, scope] registry.errors }
  | .bridge bridge active up =>
    { registry with
      bridgeActive := set [bridge] active registry.bridgeActive
      bridgeUp := set [bridge] up registry.bridgeUp }
  | .interface bridge interface active up =>
    { registry with
      interfaceActive := set [bridge, interface] active.toInt registry.interfaceActive
      interfaceUp := set [bridge, interface] up.toInt registry.interfaceUp }

/-- The registry after several samples. -/
def recordAll (registry : Registry) (samples : List Sample) : Registry :=
  samples.foldl record registry

end Registry

end TunnelFailover
