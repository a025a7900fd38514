import TunnelFailover.Event
import TunnelFailover.Monitor
import TunnelFailover.Net.Interface
import TunnelFailover.Probe.Transponder
/-!
This file defines the faults that keep a bridge from being built or that end it, and their texts.
-/

namespace TunnelFailover

/-- A bridge fails on a report of its partner, on its settings, or on what the system refuses. -/
inductive BridgeFault where
  | partnerNameMismatch (ours partner : String)
  | partnerRoleIdentical (role : Role)
  | partnerChangedName (former latter : String)
  | monitor (subject : String) (fault : ThresholdFault)
  | invalidSettings (reason : String)
  | transponder (fault : TransponderFault)
  | statusServer (address : SocketAddress)
  | config
  | lookup (fault : LookupFault)
deriving DecidableEq, Repr

namespace BridgeFault

/-- The name of the kind of a fault. -/
def kind : BridgeFault → String
  | partnerNameMismatch .. => "PartnerNameMismatch"
  | partnerRoleIdentical .. => "PartnerRoleIdentical"
  | partnerChangedName .. => "PartnerChangedName"
  | monitor .. => "Monitor"
  | invalidSettings .. => "InvalidSettings"
  | transponder .. => "Transponder"
  | statusServer .. => "StatusServer"
  | config => "Config"
  | lookup .. => "Common"

/-- The message leaves out what the system says of the cause. -/
def message : BridgeFault → String
  | partnerNameMismatch ours partner =>
    s!"partner's bridge name is different from ours: {ours} != {partner}"
  | partnerRoleIdentical role => s!"partner's bridge role is the same as ours: {role.name}"
  | partnerChangedName former latter => s!"partner's bridge changed its name: {former} -> {latter}"
  | monitor subject fault => s!"invalid monitor thresholds for {subject}: {fault.message}"
  | invalidSettings reason => s!"invalid bridge settings: {reason}"
  | transponder fault => s!"transponder error: {fault.message}"
  | statusServer address => s!"failed to start status server on {address.text}"
  | config => "configuration error"
  | lookup fault => fault.message

/-- The faults that a report of the partner causes. -/
def isPartnerFault : BridgeFault → Bool
  | partnerNameMismatch .. | partnerRoleIdentical .. | partnerChangedName .. => true
  | _ => false

end BridgeFault

end TunnelFailover
