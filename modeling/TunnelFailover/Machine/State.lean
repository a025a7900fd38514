import TunnelFailover.Config.Settings
import TunnelFailover.Fault
import TunnelFailover.Machine.Effect
/-!
This file defines the machine of a bridge, which decides from events what is up and what is active,
and the turn in which it handles one event.
-/

namespace TunnelFailover

/-- A tunnel interface has its role in the election and a monitor for its probes. -/
structure Link where
  role : Role
  monitor : Monitor
deriving DecidableEq

/-- The machine keeps the status of the bridge and the last known status of the partner. The partner
is confirmed once its monitor has given a verdict. -/
structure Machine where
  name : String
  role : Role
  bridgeInterface : String
  peerCidrs : List Cidr
  location : Location
  links : NameMap Link
  partnerMonitor : Monitor
  partnerConfirmed : Bool
  status : BridgeStatus
  partner : Option BridgeStatus
  bridgeTimer : Option ReapplyTimer
  interfaceTimer : Option ReapplyTimer

namespace Machine

/-- The link of a tunnel interface, with nothing known yet. -/
def link (interface : String) (settings : TunnelSettings) : Except BridgeFault Link :=
  match Thresholds.ofCounts settings.thresholdDown settings.thresholdUp with
  | .ok thresholds => .ok ⟨settings.role, .new thresholds⟩
  | .error fault => .error (.monitor interface fault)

/-- A threshold for the partner. The standby side judges one step later, so that the active side
wins when both see a change at the same time. A threshold of ten, the largest, is not raised. -/
def partnerThreshold (role : Role) (configured : UInt64) : UInt64 :=
  min (configured + match role with
    | .active => 0
    | .standby => 1) 10

/-- The monitor of the partner, with nothing known yet. -/
def partnerMonitorOf (settings : BridgeSettings) : Except BridgeFault Monitor :=
  match Thresholds.ofCounts (partnerThreshold settings.role settings.partnerThresholdDown)
      (partnerThreshold settings.role settings.partnerThresholdUp) with
  | .ok thresholds => .ok (.new thresholds)
  | .error fault => .error (.monitor "partner" fault)

/-- The machine of a bridge with an initial status. -/
def new (name : String) (settings : BridgeSettings) (status : BridgeStatus) :
    Except BridgeFault Machine := do
  let links ← settings.tunnels.traverse link
  let partnerMonitor ← partnerMonitorOf settings
  let location ← (settings.location name).mapError fun fault => .invalidSettings fault.message
  pure
    { name
      role := settings.role
      bridgeInterface := settings.bridgeInterface
      peerCidrs := settings.peerCidrs
      location
      links
      partnerMonitor
      partnerConfirmed := false
      status
      partner := none
      bridgeTimer := ReapplyTimer.ofPolicy settings.reconcile.bridgeActivate.reapply.policy
      interfaceTimer := ReapplyTimer.ofPolicy settings.reconcile.interfaceActivate.reapply.policy }

/-- The status of a bridge with these settings before any event. -/
def initialStatus (name : String) (settings : BridgeSettings) (now : Instant) : BridgeStatus :=
  .fresh name settings.role settings.tunnels.names now

/-- The partner is known and taken to be up. -/
def partnerIsUp (machine : Machine) : Bool := machine.partner.any (·.up)

end Machine

/-- A turn carries the machine through the handling of one event and collects what is derived and
what leaves the machine, in order. -/
structure Turn where
  machine : Machine
  derived : List Occurrence
  effects : List Effect

namespace Turn

/-- A turn starts with nothing derived. -/
def start (machine : Machine) : Turn := ⟨machine, [], []⟩

/-- One more derived occurrence. -/
def derive (turn : Turn) (occurrence : Occurrence) : Turn :=
  { turn with derived := turn.derived ++ [occurrence] }

/-- The turn with another machine. -/
def update (turn : Turn) (change : Machine → Machine) : Turn :=
  { turn with machine := change turn.machine }

/-- The turn with another status of the bridge. -/
def updateStatus (turn : Turn) (change : BridgeStatus → BridgeStatus) : Turn :=
  turn.update fun machine => { machine with status := change machine.status }

/-- One more sample. -/
def sample (turn : Turn) (sample : Sample) : Turn :=
  { turn with effects := turn.effects ++ [.sample sample] }

/-- One more error of a scope. -/
def countError (turn : Turn) (scope : String) : Turn :=
  turn.sample (.error turn.machine.name scope)

/-- One more request. -/
def request (turn : Turn) (kind : RequestKind) (interface : Option String) (iteration : UInt32) :
    Turn :=
  let request : Request :=
    ⟨kind, turn.machine.bridgeInterface, turn.machine.peerCidrs, interface, iteration⟩
  { turn with effects := turn.effects ++ [.request request] }

/-- The turn with another timer of the bridge, if it has one. -/
def updateBridgeTimer (turn : Turn) (change : ReapplyTimer → ReapplyTimer) : Turn :=
  turn.update fun machine => { machine with bridgeTimer := machine.bridgeTimer.map change }

/-- The turn with another timer of the interfaces, if there is one. -/
def updateInterfaceTimer (turn : Turn) (change : ReapplyTimer → ReapplyTimer) : Turn :=
  turn.update fun machine => { machine with interfaceTimer := machine.interfaceTimer.map change }

end Turn

end TunnelFailover
