import TunnelFailover.Job
import TunnelFailover.Machine.Run
import TunnelFailover.Poll
import TunnelFailover.Probe.Prober
/-!
This file puts a bridge together from its settings and says what it does in one round.
-/

namespace TunnelFailover

/-- A host tells which sockets it lets a bridge bind, for probes and for the endpoint of the status,
and lists its interfaces with their addresses. -/
structure Host where
  bindsProbes : SocketAddress → Bool
  listens : SocketAddress → Bool
  interfaces : List InterfaceEntry

/-- The addresses of interfaces are looked up in the list of the host. -/
def Host.lookup (host : Host) : Lookup := lookupIn host.interfaces

/-- A bridge draws one identity for itself and one for the far end of each tunnel. -/
structure Identities where
  own : Uuid
  remote : (interface : String) → Uuid

/-- A bridge has all its parts in place and is ready to run. Its polls come from the polling address
if there is one. -/
structure Bridge where
  machine : Machine
  prober : Prober
  poller : Poller
  pollingAddress : Option Address
  statusAddress : SocketAddress
  scripts : Scripts
  scriptsTimeout : Duration

namespace Bridge

/-- The prober with the socket of one more tunnel bound. -/
def connect (host : Host) (identities : Identities) (prober : Prober)
    (tunnel : String × TunnelSettings) : Except BridgeFault Prober :=
  let (interface, settings) := tunnel
  let binds := host.bindsProbes settings.address
  match (Transponder.new settings.address).connect binds with
  | (_, .error fault) => .error (.transponder fault)
  | (transponder, .ok ()) =>
    .ok (prober.addTunnel interface (identities.remote interface) settings.probeAddress transponder)

/-- A bridge is built in this order: its location, the sockets of its tunnels, the address for its
polls, its machine, and at last the endpoint of its status. The first fault ends it. -/
def build (host : Host) (identities : Identities) (name : String) (settings : BridgeSettings)
    (now : Instant) : Except BridgeFault Bridge := do
  let location ← (settings.location name).mapError fun fault => .invalidSettings fault.message
  let prober ← settings.tunnels.entries.foldlM (connect host identities)
    (.new name identities.own location)
  let pollingAddress ← settings.partnerPollingInterface.mapM fun interface =>
    (preferredAddress host.lookup interface).mapError .lookup
  let machine ← Machine.new name settings (Machine.initialStatus name settings now)
  if host.listens settings.statusAddress then
    pure
      { machine
        prober
        poller := .new settings.partnerUrl
        pollingAddress
        statusAddress := settings.statusAddress
        scripts := .ofSettings settings.reconcile
        scriptsTimeout := settings.reconcile.scriptsTimeout }
  else throw (.statusServer settings.statusAddress)

/-- In a round the bridge sends its probes, gives up those that are overdue, polls its partner and
applies again what is due. It reports all this in the same order. -/
def round (bridge : Bridge) (now : Instant) (answers : String → Transponder.Answers)
    (responses : List Response) : Bridge × List Event :=
  let (prober, sendings) := bridge.prober.send now answers
  let (prober, losses) := prober.sweep
  let (poller, polled) := bridge.poller.poll responses
  let (machine, due) := bridge.machine.dueReactivations now
  ({ bridge with prober, poller, machine },
    sendings.filterMap Sending.event? ++ (losses ++ [polled]).map (Event.mk now) ++ due)

/-- The bridge after its machine has processed what was reported, and the faults that came of it. -/
def process (bridge : Bridge) (events : List Event) : Bridge × List BridgeFault :=
  let run := bridge.machine.run events
  ({ bridge with machine := run.machine }, run.faults)

end Bridge

end TunnelFailover
