import TunnelFailover.Machine.State
/-!
This file says how probes decide whether a tunnel interface is up, and how the tunnel interfaces of
a bridge elect the active one among them.
-/

namespace TunnelFailover.Turn

/-- An event of an interface that is not configured is only counted. -/
def unknownInterface (turn : Turn) : Turn := turn.countError Scope.internalLogic

/-- The verdict on an interface changes its liveness if it says otherwise. -/
def followVerdict (turn : Turn) (now : Instant) (interface : String) : Turn :=
  match turn.machine.links.get? interface, turn.machine.status.interfaces.get? interface with
  | some link, some status =>
    match link.monitor.verdict, status.up with
    | .down, true =>
      (turn.updateStatus (·.modifyInterface interface (·.setUp false now))).derive
        (.interfaceWentDown interface)
    | .up, false =>
      (turn.updateStatus (·.modifyInterface interface (·.setUp true now))).derive
        (.interfaceWentUp interface)
    | _, _ => turn
  | _, _ => turn

/-- A change of the monitor of an interface, and the verdict that follows. -/
def observe (turn : Turn) (now : Instant) (interface : String) (change : Monitor → Monitor) :
    Turn :=
  match turn.machine.links.get? interface with
  | none => turn.unknownInterface
  | some _ =>
    let observed := turn.update fun machine =>
      { machine with
        links := machine.links.modify interface fun link =>
          { link with monitor := change link.monitor } }
    observed.followVerdict now interface

/-- A sent probe is pending. One that has a result already keeps it. -/
def probeSent (turn : Turn) (now : Instant) (interface : String) (sequence : UInt64) : Turn :=
  (turn.sample (.probeSent turn.machine.name interface)).observe now interface fun monitor =>
    if monitor.sequence < sequence then monitor.register sequence .pending else monitor

/-- A probe that could not be sent counts as a failure and as an error. -/
def probeUnsent (turn : Turn) (now : Instant) (interface : String) (sequence : UInt64) : Turn :=
  ((turn.sample (.probeFailed turn.machine.name interface)).countError Scope.peerProbing).observe
    now interface (·.register sequence .down)

/-- A probe that did not come back counts as a failure. -/
def probeLost (turn : Turn) (now : Instant) (interface : String) (sequence : UInt64) : Turn :=
  (turn.sample (.probeFailed turn.machine.name interface)).observe now interface
    (·.register sequence .down)

/-- A probe that came back counts as a success. Its latencies are measured between the two
locations. -/
def probeReturned (turn : Turn) (now : Instant) (interface : String) (sequence : UInt64)
    (forward backward : Duration) (location : Location) : Turn :=
  (turn.sample (.probeReturned turn.machine.name interface turn.machine.location.text location.text
    forward backward)).observe now interface (·.register sequence .up)

/-- A bridge is up if one of its tunnel interfaces is. -/
def deriveBridge (turn : Turn) (now : Instant) : Turn :=
  let up := turn.machine.status.interfaces.anyValue (·.up)
  if up = turn.machine.status.up then turn
  else
    (turn.updateStatus (·.setUp up now)).derive (if up then .bridgeWentUp else .bridgeWentDown)

/-- An interface becomes active. -/
def activateInterface (turn : Turn) (now : Instant) (interface : String) : Turn :=
  (turn.updateStatus (·.modifyInterface interface (·.setActive true now))).derive
    (.interfaceActivated interface)

/-- An interface becomes inactive. -/
def deactivateInterface (turn : Turn) (now : Instant) (interface : String) : Turn :=
  (turn.updateStatus (·.modifyInterface interface (·.setActive false now))).derive
    (.interfaceDeactivated interface)

/-- An active interface that goes down hands over to the first other one that is up. -/
def interfaceWentDown (turn : Turn) (now : Instant) (interface : String) : Turn :=
  let turn := turn.deriveBridge now
  if (turn.machine.status.interfaces.get? interface).any (·.active) then
    let turn := turn.deactivateInterface now interface
    match turn.machine.status.interfaces.find? fun name status => name != interface && status.up with
    | some (name, _) => turn.activateInterface now name
    | none => turn
  else turn

/-- All other active interfaces become inactive, in the order of their names. -/
def supersede (turn : Turn) (now : Instant) (interface : String) : Turn :=
  let others := turn.machine.status.interfaces.entries.filter fun entry =>
    entry.1 != interface && entry.2.active
  others.foldl (fun turn entry => turn.deactivateInterface now entry.1) turn

/-- An interface of the active role that comes up takes over, and one of the standby role only fills
a gap. -/
def interfaceWentUp (turn : Turn) (now : Instant) (interface : String) : Turn :=
  let turn := turn.deriveBridge now
  match turn.machine.links.get? interface, turn.machine.status.interfaces.get? interface with
  | some link, some status =>
    if status.active then turn
    else
      match link.role with
      | .active => (turn.supersede now interface).activateInterface now interface
      | .standby =>
        if turn.machine.status.interfaces.anyValue (·.active) then turn
        else turn.activateInterface now interface
  | _, _ => turn

end TunnelFailover.Turn
