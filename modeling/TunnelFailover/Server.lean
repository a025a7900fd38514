import TunnelFailover.Bridge
import TunnelFailover.Metrics.Buckets
import TunnelFailover.Metrics.Collection
/-!
This file defines the server, which runs all bridges of the settings side by side until it is told
to stop or one of them fails.
-/

namespace TunnelFailover

/-- Every bridge is built, in the order of the names, before any of them runs. A bridge that cannot
be built ends the server. -/
def Config.buildBridges (host : Host) (identities : String → Identities) (config : Config)
    (now : Instant) : Except BridgeFault (List Bridge) :=
  config.bridges.entries.mapM fun (name, settings) =>
    Bridge.build host (identities name) name settings now

/-- The metrics of all bridges are kept in one registry, if they are wanted. -/
def Config.registry? (config : Config) : Option Registry :=
  if config.metrics.enabled then
    some (.empty (latencyBuckets config.metrics.bucketCount config.metrics.maxLatency))
  else none

/-- What the rest of the world does in one round: the time, the answers of the system to each bridge
and the responses of its partner. -/
structure Surroundings where
  now : Instant
  answers : (bridge : String) → (interface : String) → Transponder.Answers
  responses : (bridge : String) → List Response

namespace Server

/-- One round of all bridges, and the faults in it. -/
def round (bridges : List Bridge) (surroundings : Surroundings) :
    List Bridge × List BridgeFault :=
  let results := bridges.map fun bridge =>
    let name := bridge.machine.name
    let (bridge, events) :=
      bridge.round surroundings.now (surroundings.answers name) (surroundings.responses name)
    bridge.process events
  (results.map (·.1), results.flatMap (·.2))

/-- The first fault in some rounds, if there is one. It stops the server. -/
def firstFault? (bridges : List Bridge) : List Surroundings → Option BridgeFault
  | [] => none
  | surroundings :: rest =>
    match round bridges surroundings with
    | (_, fault :: _) => some fault
    | (bridges, []) => firstFault? bridges rest

/-- The states of the bridges are registered with the metrics when the bridges are built, and so in
their order. -/
def states (bridges : List Bridge) : List (BridgeStatus × Option BridgeStatus) :=
  bridges.map fun bridge => (bridge.machine.status, bridge.machine.partner)

/-- The lines that a collector is served while some bridges run. -/
def scrape (registry : Registry) (bridges : List Bridge) : Registry × List String :=
  registry.scrape (states bridges)

end Server

end TunnelFailover
