import TunnelFailover.Config.Settings
/-!
This file decodes the settings from data of any notation. Every record takes its fields by name, and
those that are not given have the values that stand for them.
-/

namespace TunnelFailover

variable {ν : Type} [Source ν]

/-- A length of time is written as a text. -/
def Duration.decode? (value : ν) : Option Duration := do Duration.parse? (← Source.text? value)

/-- A block is written as a text. -/
def Cidr.decode? (value : ν) : Option Cidr := do (Cidr.ofText (← Source.text? value)).toOption

/-- A socket address is written as a text. -/
def SocketAddress.decode? (value : ν) : Option SocketAddress := do
  SocketAddress.parse? (← Source.text? value)

/-- A location is written as a text. -/
def Location.decode? (value : ν) : Option Location := do
  (Location.ofText (← Source.text? value)).toOption

/-- A format is written as a variant, in lower case. -/
def LogFormat.decode? (value : ν) : Option LogFormat := do
  LogFormat.ofName? (← Source.variant? value)

/-- A script is a list of lists of texts. -/
def Script.decode? (value : ν) : Option Script := listOf (listOf Source.text?) value

/-- A map from names, in which the last value of a name counts. -/
def NameMap.decode? {α : Type} (decode : ν → Option α) (value : ν) : Option (NameMap α) := do
  let entries ← Source.entries? value
  let decoded ← entries.mapM fun entry => do pure (entry.1, ← decode entry.2)
  pure (NameMap.ofList decoded)

namespace TunnelSettings

/-- The defaults of the thresholds hold for probes and for polls. -/
def defaultDown : UInt64 := 5

def defaultUp : UInt64 := 2

/-- The names of the fields in their order. -/
def fieldNames : List String := ["role", "addr", "probe_addr", "threshold_down", "threshold_up"]

def decode? (value : ν) : Option TunnelSettings := do
  let fields ← Source.fields? fieldNames value
  pure
    { role := ← fields.required "role" Role.decode?
      address := ← fields.required "addr" SocketAddress.decode?
      probeAddress := ← fields.required "probe_addr" SocketAddress.decode?
      thresholdDown := ← fields.defaulted "threshold_down" defaultDown Source.word?
      thresholdUp := ← fields.defaulted "threshold_up" defaultUp Source.word? }

end TunnelSettings

namespace ReapplySettings

/-- The names of the fields in their order. -/
def fieldNames : List String := ["initial_delay", "maximum_delay", "factor"]

def decode? (value : ν) : Option ReapplySettings := do
  let fields ← Source.fields? fieldNames value
  pure
    { initialDelay := ← fields.defaulted "initial_delay" none (optionally Duration.decode?)
      maximumDelay := ← fields.defaulted "maximum_delay" none (optionally Duration.decode?)
      factor := ← fields.defaulted "factor" none (optionally Source.float?) }

end ReapplySettings

namespace ActivateSettings

/-- The names of the fields in their order. -/
def fieldNames : List String := ["reapply", "script"]

def decode? (value : ν) : Option ActivateSettings := do
  let fields ← Source.fields? fieldNames value
  pure
    { reapply := ← fields.defaulted "reapply" .unset ReapplySettings.decode?
      script := ← fields.defaulted "script" [] Script.decode? }

end ActivateSettings

namespace ReconcileSettings

/-- A deactivation has nothing but a script. -/
def deactivateNames : List String := ["script"]

def decodeDeactivate? (value : ν) : Option Script := do
  let fields ← Source.fields? deactivateNames value
  fields.defaulted "script" [] Script.decode?

/-- The names of the fields in their order. -/
def fieldNames : List String :=
  ["scripts_timeout", "bridge_activate", "interface_activate", "interface_deactivate"]

def decode? (value : ν) : Option ReconcileSettings := do
  let fields ← Source.fields? fieldNames value
  pure
    { scriptsTimeout :=
        ← fields.defaulted "scripts_timeout" unset.scriptsTimeout Duration.decode?
      bridgeActivate := ← fields.defaulted "bridge_activate" .unset ActivateSettings.decode?
      interfaceActivate := ← fields.defaulted "interface_activate" .unset ActivateSettings.decode?
      interfaceDeactivate := ← fields.defaulted "interface_deactivate" [] decodeDeactivate? }

end ReconcileSettings

namespace BridgeSettings

/-- The names of the fields in their order. -/
def fieldNames : List String :=
  ["role", "bridge_interface", "peer_cidrs", "status_addr", "partner_url",
    "partner_polling_interface", "partner_status_timeout", "partner_status_threshold_down",
    "partner_status_threshold_up", "probe_interval", "probe_location", "tunnel_interfaces",
    "reconcile"]

/-- A partner has a second to answer. -/
def defaultTimeout : Duration := .ofSeconds 1

/-- A round of probes starts every quarter of a minute. -/
def defaultInterval : Duration := .ofSeconds 15

def decode? (value : ν) : Option BridgeSettings := do
  let fields ← Source.fields? fieldNames value
  pure
    { role := ← fields.required "role" Role.decode?
      bridgeInterface := ← fields.required "bridge_interface" Source.text?
      peerCidrs := ← fields.required "peer_cidrs" (listOf Cidr.decode?)
      statusAddress := ← fields.required "status_addr" SocketAddress.decode?
      partnerUrl := ← fields.required "partner_url" Source.text?
      partnerPollingInterface :=
        ← fields.defaulted "partner_polling_interface" none (optionally Source.text?)
      partnerTimeout :=
        ← fields.defaulted "partner_status_timeout" defaultTimeout Duration.decode?
      partnerThresholdDown :=
        ← fields.defaulted "partner_status_threshold_down" TunnelSettings.defaultDown Source.word?
      partnerThresholdUp :=
        ← fields.defaulted "partner_status_threshold_up" TunnelSettings.defaultUp Source.word?
      probeInterval := ← fields.defaulted "probe_interval" defaultInterval Duration.decode?
      probeLocation := ← fields.defaulted "probe_location" none (optionally Location.decode?)
      tunnels := ← fields.required "tunnel_interfaces" (NameMap.decode? TunnelSettings.decode?)
      reconcile := ← fields.defaulted "reconcile" .unset ReconcileSettings.decode? }

end BridgeSettings

namespace MetricsSettings

/-- The names of the fields in their order. -/
def fieldNames : List String :=
  ["enabled", "listen_addr", "latency_buckets_count", "max_latency_us"]

def decode? (value : ν) : Option MetricsSettings := do
  let fields ← Source.fields? fieldNames value
  pure
    { enabled := ← fields.defaulted "enabled" unset.enabled Source.flag?
      listenAddress := ← fields.defaulted "listen_addr" unset.listenAddress SocketAddress.decode?
      bucketCount := ← fields.defaulted "latency_buckets_count" unset.bucketCount Source.word?
      maxLatency := ← fields.defaulted "max_latency_us" unset.maxLatency Source.word? }

end MetricsSettings

namespace LoggingSettings

/-- The names of the fields in their order. -/
def fieldNames : List String := ["level", "format"]

/-- The fields may be left out by name, but not by position. -/
def decode? (value : ν) : Option LoggingSettings := do
  let fields ← Source.fields? fieldNames value
  if fields.positional ∧ fields.values.length < 2 then none
  else
    pure
      { level := ← fields.defaulted "level" none (optionally Source.text?)
        format := ← fields.defaulted "format" none (optionally LogFormat.decode?) }

end LoggingSettings

namespace TelemetrySettings

/-- The names of the fields in their order. -/
def fieldNames : List String := ["enabled", "service_name", "otlp_endpoint"]

def decode? (value : ν) : Option TelemetrySettings := do
  let fields ← Source.fields? fieldNames value
  pure
    { enabled := ← fields.defaulted "enabled" unset.enabled Source.flag?
      serviceName := ← fields.defaulted "service_name" unset.serviceName Source.text?
      endpoint := ← fields.defaulted "otlp_endpoint" unset.endpoint Source.text? }

end TelemetrySettings

namespace Config

/-- The names of the fields in their order. -/
def fieldNames : List String := ["bridges", "metrics", "logging", "telemetry"]

def decode? (value : ν) : Option Config := do
  let fields ← Source.fields? fieldNames value
  pure
    { bridges := ← fields.required "bridges" (NameMap.decode? BridgeSettings.decode?)
      metrics := ← fields.defaulted "metrics" .unset MetricsSettings.decode?
      logging := ← fields.defaulted "logging" .unset LoggingSettings.decode?
      telemetry := ← fields.defaulted "telemetry" .unset TelemetrySettings.decode? }

end Config

end TunnelFailover
