/-!
This file defines the liveness monitor: a window over the latest sequence numbers of a monitored
subject, and the verdict that the window supports.
-/

namespace TunnelFailover

/-- This type tells what is known of one sequence number, or of the whole subject. -/
inductive Liveness where
  | down
  | pending
  | up
deriving DecidableEq, Repr, Inhabited

namespace Liveness

/-- The label of a liveness is its name in capitals. -/
def label : Liveness → String
  | down => "DOWN"
  | pending => "PENDING"
  | up => "UP"

/-- The sign of a liveness is negative for failure and positive for success. -/
def sign : Liveness → Int
  | down => -1
  | pending => 0
  | up => 1

end Liveness

/-- A threshold outside `[2, 10]` is refused. -/
inductive ThresholdFault where
  | down (value : UInt64)
  | up (value : UInt64)
deriving DecidableEq, Repr

/-- The message names the threshold at fault and the accepted range. -/
def ThresholdFault.message : ThresholdFault → String
  | down value => s!"down threshold is invalid: {value.toNat} (must be within [2, 10])"
  | up value => s!"up threshold is invalid: {value.toNat} (must be within [2, 10])"

/-- This number of consecutive failures or successes decides a verdict. -/
structure Thresholds where
  down : Nat
  up : Nat
  down_mem : 2 ≤ down ∧ down ≤ 10
  up_mem : 2 ≤ up ∧ up ≤ 10
deriving DecidableEq

namespace Thresholds

/-- The down threshold is checked before the up threshold. -/
def ofCounts (down up : UInt64) : Except ThresholdFault Thresholds :=
  if downRange : 2 ≤ down.toNat ∧ down.toNat ≤ 10 then
    if upRange : 2 ≤ up.toNat ∧ up.toNat ≤ 10 then
      .ok ⟨down.toNat, up.toNat, downRange, upRange⟩
    else .error (.up up)
  else .error (.down down)

/-- The larger threshold bounds the part of the window that a verdict looks at. -/
def larger (thresholds : Thresholds) : Nat := max thresholds.down thresholds.up

/-- The window keeps one sequence number more than a verdict looks at. -/
def window (thresholds : Thresholds) : Nat := thresholds.larger + 1

end Thresholds

/-- The history holds one entry per sequence number, the newest first. -/
structure Monitor where
  thresholds : Thresholds
  sequence : UInt64
  history : List Liveness
deriving DecidableEq

namespace Monitor

/-- Nothing is known before the first registration. -/
def new (thresholds : Thresholds) : Monitor :=
  ⟨thresholds, 0, List.replicate thresholds.window .pending⟩

/-- The window moves up to a newer sequence number, and the numbers passed over are unknown. -/
def advance (monitor : Monitor) (sequence : UInt64) : Monitor :=
  let jump := min (sequence.toNat - monitor.sequence.toNat) monitor.thresholds.window
  { monitor with
    sequence
    history := (List.replicate jump Liveness.pending ++ monitor.history).take monitor.thresholds.window }

/-- A registration overwrites its entry; a sequence number behind the window is ignored. -/
def register (monitor : Monitor) (sequence : UInt64) (liveness : Liveness) : Monitor :=
  let current := if monitor.sequence < sequence then monitor.advance sequence else monitor
  { current with
    history := current.history.set (current.sequence.toNat - sequence.toNat) liveness }

/-- A streak counts the newest entries that agree, and is absent once one disagrees. -/
structure Streaks where
  down : Option Nat
  pending : Option Nat
  up : Option Nat

namespace Streaks

/-- Every streak starts empty. -/
def start : Streaks := ⟨some 0, some 0, some 0⟩

/-- An unknown entry counts towards failure, but towards success only as the newest entry. -/
def extend (streaks : Streaks) (newest : Bool) : Liveness → Streaks
  | .up => ⟨none, none, streaks.up.map (· + 1)⟩
  | .down => ⟨streaks.down.map (· + 1), none, none⟩
  | .pending =>
    ⟨streaks.down.map (· + 1), streaks.pending.map (· + 1),
      if newest then streaks.up.map (· + 1) else streaks.up⟩

/-- A streak decides once it is long enough and does not consist of unknown entries alone. -/
def decides (streaks : Streaks) (streak : Option Nat) (threshold : Nat) : Bool :=
  streak.any fun count => threshold ≤ count && streaks.pending.all (· < count)

end Streaks

/-- The scan goes from the newest entry to older ones and stops at the first decision. -/
def scan (thresholds : Thresholds) (streaks : Streaks) (newest : Bool) : List Liveness → Liveness
  | [] => .pending
  | entry :: older =>
    let streaks := streaks.extend newest entry
    if streaks.decides streaks.down thresholds.down then .down
    else if streaks.decides streaks.up thresholds.up then .up
    else scan thresholds streaks false older

/-- The verdict follows from the newest entries of the window. -/
def verdict (monitor : Monitor) : Liveness :=
  scan monitor.thresholds .start true (monitor.history.take monitor.thresholds.larger)

end Monitor

end TunnelFailover
