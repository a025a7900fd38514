import TunnelFailover.Event
import TunnelFailover.Net.Cidr
/-!
This file defines what a bridge asks of the rest of the program: to apply activations, and to count
what it has observed.
-/

namespace TunnelFailover

/-- The kind of a request tells which script is meant. -/
inductive RequestKind where
  | bridgeActivate
  | interfaceActivate
  | interfaceDeactivate
deriving DecidableEq, Repr

/-- The name of the script of a kind. -/
def RequestKind.name : RequestKind → String
  | bridgeActivate => "bridge_activate"
  | interfaceActivate => "interface_activate"
  | interfaceDeactivate => "interface_deactivate"

/-- A request to apply an activation or a deactivation. A repeated activation has the number of its
iteration, and a first one has zero. -/
structure Request where
  kind : RequestKind
  bridgeInterface : String
  peerCidrs : List Cidr
  interface : Option String
  iteration : UInt32
deriving DecidableEq

/-- A sample for the metrics of a bridge. -/
inductive Sample where
  | probeSent (bridge interface : String)
  | probeFailed (bridge interface : String)
  | probeReturned (bridge interface : String) (source target : String)
      (forward backward : Duration)
  | error (bridge scope : String)
  | bridge (bridge : String) (active up : Int)
  | interface (bridge interface : String) (active up : Bool)
deriving DecidableEq

/-- An effect leaves the machine. -/
inductive Effect where
  | request (request : Request)
  | sample (sample : Sample)
deriving DecidableEq

namespace Scope

/-- The scopes under which errors are counted. -/
def internalLogic : String := "internal_logic"

def partnerPolling : String := "partner_polling"

def peerProbing : String := "peer_probing"

def system : String := "system"

/-- A failed job has a scope by the name of its script. -/
def job (script : String) : String := "job_" ++ script

end Scope

/-- The samples of the state of a bridge: the bridge and its partner are counted together, and every
tunnel interface of the bridge on its own. -/
def Sample.ofStatus (status : BridgeStatus) (partner : Option BridgeStatus) : List Sample :=
  let count (flag : BridgeStatus → Bool) : Int := (flag status).toInt + (partner.any flag).toInt
  .bridge status.name (count (·.active)) (count (·.up)) ::
    status.interfaces.entries.map fun entry =>
      .interface status.name entry.1 entry.2.active entry.2.up

/-- The requests among effects. -/
def requestsOf (effects : List Effect) : List Request :=
  effects.filterMap fun
    | .request request => some request
    | .sample _ => none

/-- The samples among effects. -/
def samplesOf (effects : List Effect) : List Sample :=
  effects.filterMap fun
    | .request _ => none
    | .sample sample => some sample

end TunnelFailover
