import TunnelFailover.Probe.Location
import TunnelFailover.Status
/-!
This file defines the events that the tasks of a bridge report and those that its machine derives.
-/

namespace TunnelFailover

/-- This type tells what has happened. Probes and interfaces are those of the own bridge. -/
inductive Occurrence where
  | bridgeActivated
  | bridgeDeactivated
  | bridgeReactivated (iteration : UInt32)
  | bridgeWentDown
  | bridgeWentUp
  | connectivityLost
  | connectivityRestored
  | partnerActivated
  | partnerDeactivated
  | partnerChangedName (former latter : String)
  | partnerPollFailed (sequence : UInt64) (cause : String)
  | partnerPolled (sequence : UInt64) (status : BridgeStatus)
  | partnerWentDown
  | partnerWentUp
  | interfaceActivated (interface : String)
  | interfaceDeactivated (interface : String)
  | interfaceReactivated (interface : String) (iteration : UInt32)
  | interfaceWentDown (interface : String)
  | interfaceWentUp (interface : String)
  | probeLost (interface : String) (sequence : UInt64)
  | probeReturned (interface : String) (sequence : UInt64) (forward backward : Duration)
      (location : Location)
  | probeUnsent (interface : String) (sequence : UInt64) (cause : String)
  | probeSent (interface : String) (sequence : UInt64)
deriving DecidableEq

/-- An event is an occurrence and its time. -/
structure Event where
  time : Instant
  occurrence : Occurrence
deriving DecidableEq

namespace Occurrence

/-- The name of the kind of an occurrence. -/
def kind : Occurrence → String
  | bridgeActivated => "bridge_activated"
  | bridgeDeactivated => "bridge_deactivated"
  | bridgeReactivated .. => "bridge_reactivated"
  | bridgeWentDown => "bridge_went_down"
  | bridgeWentUp => "bridge_went_up"
  | connectivityLost => "connectivity_lost"
  | connectivityRestored => "connectivity_restored"
  | partnerActivated => "partner_activated"
  | partnerDeactivated => "partner_deactivated"
  | partnerChangedName .. => "partner_changed_name"
  | partnerPollFailed .. => "partner_poll_failure"
  | partnerPolled .. => "partner_poll_success"
  | partnerWentDown => "partner_went_down"
  | partnerWentUp => "partner_went_up"
  | interfaceActivated .. => "tunnel_interface_activated"
  | interfaceDeactivated .. => "tunnel_interface_deactivated"
  | interfaceReactivated .. => "tunnel_interface_reactivated"
  | interfaceWentDown .. => "tunnel_interface_went_down"
  | interfaceWentUp .. => "tunnel_interface_went_up"
  | probeLost .. => "tunnel_probe_return_failure"
  | probeReturned .. => "tunnel_probe_return_success"
  | probeUnsent .. => "tunnel_probe_send_failure"
  | probeSent .. => "tunnel_probe_send_success"

/-- The tunnel interface that an occurrence concerns. -/
def interface? : Occurrence → Option String
  | interfaceActivated interface | interfaceDeactivated interface
  | interfaceReactivated interface _ | interfaceWentDown interface | interfaceWentUp interface
  | probeLost interface _ | probeReturned interface _ _ _ _ | probeUnsent interface _ _
  | probeSent interface _ => some interface
  | _ => none

/-- The rank of an occurrence is above the rank of everything that is derived from it. -/
def rank : Occurrence → Nat
  | probeLost .. | probeReturned .. | probeUnsent .. | probeSent .. => 3
  | interfaceWentDown .. | interfaceWentUp .. | partnerPollFailed .. | partnerPolled .. => 2
  | bridgeWentDown | bridgeWentUp | partnerWentDown | partnerWentUp => 1
  | _ => 0

end Occurrence

end TunnelFailover
