import TunnelFailover.Event
import TunnelFailover.Machine.Effect
import TunnelFailover.Probe.Datagram
import TunnelFailover.Probe.Peer
import TunnelFailover.Probe.Transponder
/-!
This file defines the prober of a bridge. It sends a probe over every tunnel in each round, answers
the probes of others, and reports the probes of its own that return or are lost.
-/

namespace TunnelFailover

/-- A tunnel has the account of the probes sent over it, the identity that they are addressed to,
the address that they go to, and the transponder for its socket. -/
structure Tunnel where
  peer : Peer
  remote : Uuid
  target : SocketAddress
  transponder : Transponder
deriving DecidableEq

/-- The prober stamps its identity and its location on probes. -/
structure Prober where
  bridge : String
  identity : Uuid
  location : Location
  tunnels : NameMap Tunnel
deriving DecidableEq

/-- One sending of a probe and what became of it. -/
structure Sending where
  interface : String
  probe : Probe
  target : SocketAddress
  result : Except TransponderFault Unit

/-- A sending is reported unless the transponder was stopped. -/
def Sending.occurrence? (sending : Sending) : Option Occurrence :=
  match sending.result with
  | .ok () => some (.probeSent sending.interface sending.probe.sequence)
  | .error .shuttingDown => none
  | .error fault =>
    some (.probeUnsent sending.interface sending.probe.sequence fault.message)

/-- The event has the time that the probe carries. -/
def Sending.event? (sending : Sending) : Option Event :=
  sending.occurrence?.map fun occurrence => ⟨sending.probe.sentAt, occurrence⟩

/-- The occurrences for the probes of a tunnel that are given up. -/
def lossesOf (interface : String) (missed : Option SequenceRange) : List Occurrence :=
  (missed.elim [] SequenceRange.toList).map (.probeLost interface)

/-- The reception of a probe changes the prober and leads to occurrences, an answer and samples. -/
structure Reception where
  prober : Prober
  occurrences : List Occurrence
  answer : Option Probe
  samples : List Sample

namespace Prober

/-- A prober starts without tunnels. -/
def new (bridge : String) (identity : Uuid) (location : Location) : Prober :=
  ⟨bridge, identity, location, .empty⟩

/-- The prober with one more tunnel, over which nothing has been sent. -/
def addTunnel (prober : Prober) (interface : String) (remote : Uuid) (target : SocketAddress)
    (transponder : Transponder) : Prober :=
  { prober with tunnels := prober.tunnels.insert interface ⟨{}, remote, target, transponder⟩ }

/-- The prober with the account of one tunnel changed. -/
def withPeer (prober : Prober) (interface : String) (change : Peer → Peer) : Prober :=
  { prober with
    tunnels := prober.tunnels.modify interface fun tunnel =>
      { tunnel with peer := change tunnel.peer } }

/-- The prober after the transponder of one tunnel was stopped. -/
def stop (prober : Prober) (interface : String) : Prober :=
  { prober with
    tunnels := prober.tunnels.modify interface fun tunnel =>
      { tunnel with transponder := tunnel.transponder.stop } }

/-- The next probe of one tunnel is sent. -/
def sendOver (prober : Prober) (now : Instant) (answers : Transponder.Answers)
    (interface : String) (tunnel : Tunnel) : Tunnel × Sending :=
  let (peer, sequence) := tunnel.peer.next
  let probe := Probe.fresh sequence prober.identity prober.location now tunnel.remote
  let (transponder, result) := tunnel.transponder.send answers
  ({ tunnel with peer, transponder }, ⟨interface, probe, tunnel.target, result⟩)

/-- One probe is sent over every tunnel. The system answers the calls of each tunnel. -/
def send (prober : Prober) (now : Instant) (answers : String → Transponder.Answers) :
    Prober × List Sending :=
  let sent := prober.tunnels.mapWithName fun interface tunnel =>
    prober.sendOver now (answers interface) interface tunnel
  ({ prober with tunnels := sent.mapWithName fun _ entry => entry.1 },
    sent.values.map (·.2))

/-- Every probe but the last one of its tunnel is given up. -/
def sweep (prober : Prober) : Prober × List Occurrence :=
  let swept := prober.tunnels.mapWithName fun _ tunnel =>
    let (peer, missed) := tunnel.peer.sweep
    ({ tunnel with peer }, missed)
  ({ prober with tunnels := swept.mapWithName fun _ entry => entry.1 },
    swept.entries.flatMap fun entry => lossesOf entry.1 entry.2.2)

/-- The prober after a datagram that it can do nothing with. -/
def reject (prober : Prober) : Reception :=
  ⟨prober, [], none, [.error prober.bridge Scope.peerProbing]⟩

/-- A tunnel takes back a probe that was addressed to its far end and that was really sent. -/
def accepts (tunnel : Tunnel) (probe : Probe) : Bool :=
  probe.responder = tunnel.remote && probe.sequence ≠ 0 && probe.sequence ≤ tunnel.peer.sequence

/-- The report of a probe that has returned. -/
def returned (interface : String) (now : Instant) (probe : Probe) : Occurrence :=
  .probeReturned interface probe.sequence (probe.forwardLatency.getD .zero)
    ((probe.returnLatency now).getD .zero) probe.responderLocation

/-- A probe that returns over its own tunnel is reported after those that it shows to be lost. -/
def takeBack (prober : Prober) (now : Instant) (interface : String) (probe : Probe) : Reception :=
  match prober.tunnels.get? interface with
  | none => prober.reject
  | some tunnel =>
    if accepts tunnel probe then
      let (peer, missed) := tunnel.peer.acknowledge probe.sequence
      ⟨prober.withPeer interface fun _ => peer,
        lossesOf interface missed ++ [returned interface now probe], none, []⟩
    else prober.reject

/-- A probe that is not answered yet is answered, and one that is answered must be an own one. -/
def receive (prober : Prober) (now : Instant) (interface : String) (probe : Probe) : Reception :=
  if probe.isReturned then
    if probe.sender = prober.identity then prober.takeBack now interface probe else prober.reject
  else ⟨prober, [], some (probe.respond prober.location now), []⟩

/-- A datagram that holds no probe is rejected. -/
def receiveBytes (prober : Prober) (now : Instant) (interface : String) (bytes : List UInt8) :
    Reception :=
  match Probe.ofBytes bytes with
  | .ok probe => prober.receive now interface probe
  | .error _ => prober.reject

/-- One pass of the receive loop of a tunnel. Only a datagram concerns the prober itself. -/
def listen (prober : Prober) (now : Instant) (interface : String) (tunnel : Tunnel)
    (arrival : Transponder.Arrival) : Reception × Transponder.Pass :=
  let (transponder, pass) := tunnel.transponder.receive arrival
  let prober :=
    { prober with tunnels := prober.tunnels.insert interface { tunnel with transponder } }
  match pass with
  | .received bytes => (prober.receiveBytes now interface bytes, pass)
  | _ => (⟨prober, [], none, []⟩, pass)

end Prober

end TunnelFailover
