import TunnelFailover.NameMap
import TunnelFailover.Net.Cidr
import TunnelFailover.Probe.Location
import TunnelFailover.Reapply
import TunnelFailover.Script
import TunnelFailover.Status
/-!
This file defines the settings of the program and the values that stand for those not given.
-/

namespace TunnelFailover

/-- The settings of one tunnel interface: where its socket is bound, where its probes go, and how
many of them decide a verdict. -/
structure TunnelSettings where
  role : Role
  address : SocketAddress
  probeAddress : SocketAddress
  thresholdDown : UInt64
  thresholdUp : UInt64

/-- The schedule for applying an activation again. -/
structure ReapplySettings where
  initialDelay : Option Duration
  maximumDelay : Option Duration
  factor : Option Float

/-- The settings of an activation. -/
structure ActivateSettings where
  reapply : ReapplySettings
  script : Script

/-- The effects of activations and deactivations. -/
structure ReconcileSettings where
  scriptsTimeout : Duration
  bridgeActivate : ActivateSettings
  interfaceActivate : ActivateSettings
  interfaceDeactivate : Script

/-- The settings of one bridge. The first peer block is the primary one. -/
structure BridgeSettings where
  role : Role
  bridgeInterface : String
  peerCidrs : List Cidr
  statusAddress : SocketAddress
  partnerUrl : String
  partnerPollingInterface : Option String
  partnerTimeout : Duration
  partnerThresholdDown : UInt64
  partnerThresholdUp : UInt64
  probeInterval : Duration
  probeLocation : Option Location
  tunnels : NameMap TunnelSettings
  reconcile : ReconcileSettings

/-- The settings of the endpoint for metrics. -/
structure MetricsSettings where
  enabled : Bool
  listenAddress : SocketAddress
  bucketCount : UInt64
  maxLatency : UInt64

/-- The format of log lines. -/
inductive LogFormat where
  | text
  | json
deriving DecidableEq, Repr

/-- The settings of the log. -/
structure LoggingSettings where
  level : Option String
  format : Option LogFormat

/-- The settings of the export of traces. -/
structure TelemetrySettings where
  enabled : Bool
  serviceName : String
  endpoint : String

/-- All settings. -/
structure Config where
  bridges : NameMap BridgeSettings
  metrics : MetricsSettings
  logging : LoggingSettings
  telemetry : TelemetrySettings

namespace LogFormat

/-- The name of a format. -/
def name : LogFormat → String
  | text => "text"
  | json => "json"

/-- The format of a name in lower case. -/
def ofName? (name : String) : Option LogFormat :=
  if name = "text" then some text else if name = "json" then some json else none

/-- An unknown format is reported in lower case. -/
structure Unknown where
  name : String

/-- The message quotes the name. -/
def Unknown.message (fault : Unknown) : String := s!"unknown log format: {fault.name}"

/-- The format of a name, whose case does not matter. -/
def parse (text : String) : Except Unknown LogFormat :=
  let lowered := text.map Char.toLower
  match ofName? lowered with
  | some format => .ok format
  | none => .error ⟨lowered⟩

end LogFormat

namespace ReapplySettings

/-- Nothing is given. -/
def unset : ReapplySettings := ⟨none, none, none⟩

/-- One delay stands for the other if only one is given, and the factor is two. -/
def policy (settings : ReapplySettings) : ReapplyPolicy where
  initialDelay := (settings.initialDelay <|> settings.maximumDelay).getD .zero
  maximumDelay := (settings.maximumDelay <|> settings.initialDelay).getD .zero
  factor := settings.factor.getD 2

end ReapplySettings

/-- There is neither a schedule nor a script. -/
def ActivateSettings.unset : ActivateSettings := ⟨.unset, []⟩

/-- Scripts have half a minute. -/
def ReconcileSettings.unset : ReconcileSettings := ⟨.ofSeconds 30, .unset, .unset, []⟩

namespace MetricsSettings

/-- The port 8000 of all addresses. -/
def defaultAddress : SocketAddress := ⟨.v4 ⟨[0, 0, 0, 0], rfl⟩, 0, 8000⟩

/-- The endpoint is on. -/
def unset : MetricsSettings := ⟨true, defaultAddress, 33, 1000000⟩

end MetricsSettings

/-- Neither a level nor a format is given. -/
def LoggingSettings.unset : LoggingSettings := ⟨none, none⟩

/-- The export is off. -/
def TelemetrySettings.unset : TelemetrySettings :=
  ⟨false, "bridge-server", "http://localhost:4317"⟩

namespace BridgeSettings

/-- The location that a bridge stamps on probes is its name, unless another one is given. -/
def location (settings : BridgeSettings) (name : String) : Except ProbeFault Location :=
  match settings.probeLocation with
  | some location => .ok location
  | none => Location.ofText name

end BridgeSettings

end TunnelFailover
