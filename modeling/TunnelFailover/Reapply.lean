import TunnelFailover.Number.Seconds
import TunnelFailover.Time.Instant
/-!
This file defines the schedule by which the effects of an activation are applied again: delays that
grow by a factor up to a maximum, and the timer that follows them.
-/

namespace TunnelFailover

/-- The delays start with the initial one and grow by the factor up to the maximum. -/
structure ReapplyPolicy where
  initialDelay : Duration
  maximumDelay : Duration
  factor : Float
deriving Inhabited

namespace ReapplyPolicy

/-- An initial delay of zero turns the schedule off. -/
def isEnabled (policy : ReapplyPolicy) : Bool := !policy.initialDelay.isZero

/-- The iteration from which on the delay is the maximum, which is at least the first one unless the
factor is not a number. -/
def maxIterations (policy : ReapplyPolicy) : UInt32 :=
  if policy.factor ≤ 1 ∨ policy.initialDelay.isZero then 1
  else
    let ratio := policy.maximumDelay.toSeconds / policy.initialDelay.toSeconds
    let iterations := (ratio.log / policy.factor.log).ceil
    if iterations < 1 then 1 else iterations.toUInt32

/-- The delay after an iteration. The exponent is a signed word. -/
def delay (policy : ReapplyPolicy) (iteration : UInt32) : Duration :=
  if policy.maxIterations ≤ iteration then policy.maximumDelay
  else
    let power := wholePower policy.factor iteration.toInt32.toInt
    (Duration.ofSecondsFloat (power * policy.initialDelay.toSeconds)).min policy.maximumDelay

end ReapplyPolicy

/-- A timer counts the iterations since it was armed, and is disarmed without a next time. -/
structure ReapplyTimer where
  policy : ReapplyPolicy
  count : UInt32
  next : Option Instant
deriving Inhabited

namespace ReapplyTimer

/-- A new timer is disarmed. -/
def new (policy : ReapplyPolicy) : ReapplyTimer := ⟨policy, 0, none⟩

/-- The timer of a policy, if the policy is enabled. -/
def ofPolicy (policy : ReapplyPolicy) : Option ReapplyTimer :=
  if policy.isEnabled then some (new policy) else none

/-- An activation starts the schedule from its beginning. -/
def arm (timer : ReapplyTimer) (now : Instant) : ReapplyTimer :=
  { timer with count := 0, next := now.add? timer.policy.initialDelay }

/-- A deactivation leaves the count. -/
def disarm (timer : ReapplyTimer) : ReapplyTimer := { timer with next := none }

/-- An iteration that was carried out leads to the next one. -/
def advance (timer : ReapplyTimer) (now : Instant) : ReapplyTimer :=
  let count := timer.count + 1
  { timer with count, next := now.add? (timer.policy.delay count) }

/-- A timer that is due gives its iteration once. -/
def takeDue (timer : ReapplyTimer) (now : Instant) : ReapplyTimer × Option UInt32 :=
  if timer.next.any (· ≤ now) then (timer.disarm, some timer.count) else (timer, none)

end ReapplyTimer

end TunnelFailover
