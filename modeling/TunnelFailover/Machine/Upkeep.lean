import TunnelFailover.Machine.State
/-!
This file says which requests follow an activation or a deactivation, and how activations are
applied again while they last.
-/

namespace TunnelFailover.Turn

/-- An activation of the bridge is applied and starts its timer. -/
def bridgeActivated (turn : Turn) (now : Instant) : Turn :=
  (turn.request .bridgeActivate none 0).updateBridgeTimer (·.arm now)

/-- A deactivation of the bridge stops its timer. -/
def bridgeDeactivated (turn : Turn) : Turn := turn.updateBridgeTimer (·.disarm)

/-- An activation of the bridge is applied again if it still lasts. -/
def bridgeReactivated (turn : Turn) (now : Instant) (iteration : UInt32) : Turn :=
  if turn.machine.status.active then
    (turn.request .bridgeActivate none iteration).updateBridgeTimer (·.advance now)
  else turn

/-- An activation of an interface is applied and starts the timer. -/
def interfaceActivated (turn : Turn) (now : Instant) (interface : String) : Turn :=
  (turn.request .interfaceActivate (some interface) 0).updateInterfaceTimer (·.arm now)

/-- A deactivation of an interface is applied and stops the timer. -/
def interfaceDeactivated (turn : Turn) (interface : String) : Turn :=
  (turn.request .interfaceDeactivate (some interface) 0).updateInterfaceTimer (·.disarm)

/-- An activation of an interface is applied again if it still lasts. -/
def interfaceReactivated (turn : Turn) (now : Instant) (interface : String) (iteration : UInt32) :
    Turn :=
  if (turn.machine.status.interfaces.get? interface).any (·.active) then
    (turn.request .interfaceActivate (some interface) iteration).updateInterfaceTimer (·.advance now)
  else turn

end TunnelFailover.Turn

namespace TunnelFailover

/-- The iteration of a timer that is due, and the timer afterwards. -/
def takeDue? (timer : Option ReapplyTimer) (now : Instant) : Option ReapplyTimer × Option UInt32 :=
  match timer with
  | none => (none, none)
  | some timer =>
    let (timer, iteration) := timer.takeDue now
    (some timer, iteration)

/-- The timers that are due give a reactivation each, of the bridge and of the active interface, as
far as these are active. -/
def Machine.dueReactivations (machine : Machine) (now : Instant) : Machine × List Event :=
  let (bridgeTimer, bridgeIteration) := takeDue? machine.bridgeTimer now
  let (interfaceTimer, interfaceIteration) := takeDue? machine.interfaceTimer now
  let bridge :=
    if machine.status.active then bridgeIteration.map Occurrence.bridgeReactivated else none
  let interface := do
    pure (Occurrence.interfaceReactivated (← machine.status.activeInterface?)
      (← interfaceIteration))
  ({ machine with bridgeTimer, interfaceTimer },
    (bridge.toList ++ interface.toList).map fun occurrence => ⟨now, occurrence⟩)

end TunnelFailover
