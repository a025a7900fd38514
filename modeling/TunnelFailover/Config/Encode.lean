import TunnelFailover.Config.Settings
/-!
This file writes the settings as values of the object notation, with all fields.
-/

namespace TunnelFailover

/-- The text of a length of time. -/
def Duration.toJson (duration : Duration) : Json := .text duration.text

/-- A script is a list of lists of texts. -/
def Script.toJson (script : Script) : Json := .array (script.map Json.ofTexts)

def TunnelSettings.toJson (settings : TunnelSettings) : Json :=
  .object
    [("role", .text settings.role.name), ("addr", .text settings.address.text),
      ("probe_addr", .text settings.probeAddress.text),
      ("threshold_down", .ofNat settings.thresholdDown.toNat),
      ("threshold_up", .ofNat settings.thresholdUp.toNat)]

def ReapplySettings.toJson (settings : ReapplySettings) : Json :=
  .object
    [("initial_delay", .ofOption Duration.toJson settings.initialDelay),
      ("maximum_delay", .ofOption Duration.toJson settings.maximumDelay),
      ("factor", .ofOption Json.ofFloat settings.factor)]

def ActivateSettings.toJson (settings : ActivateSettings) : Json :=
  .object [("reapply", settings.reapply.toJson), ("script", settings.script.toJson)]

def ReconcileSettings.toJson (settings : ReconcileSettings) : Json :=
  .object
    [("scripts_timeout", settings.scriptsTimeout.toJson),
      ("bridge_activate", settings.bridgeActivate.toJson),
      ("interface_activate", settings.interfaceActivate.toJson),
      ("interface_deactivate", .object [("script", settings.interfaceDeactivate.toJson)])]

def BridgeSettings.toJson (settings : BridgeSettings) : Json :=
  .object
    [("role", .text settings.role.name), ("bridge_interface", .text settings.bridgeInterface),
      ("peer_cidrs", .ofTexts (settings.peerCidrs.map Cidr.text)),
      ("status_addr", .text settings.statusAddress.text),
      ("partner_url", .text settings.partnerUrl),
      ("partner_polling_interface", .ofOption Json.text settings.partnerPollingInterface),
      ("partner_status_timeout", settings.partnerTimeout.toJson),
      ("partner_status_threshold_down", .ofNat settings.partnerThresholdDown.toNat),
      ("partner_status_threshold_up", .ofNat settings.partnerThresholdUp.toNat),
      ("probe_interval", settings.probeInterval.toJson),
      ("probe_location",
        .ofOption (fun location => .text (Location.text location)) settings.probeLocation),
      ("tunnel_interfaces",
        .object (settings.tunnels.entries.map fun entry => (entry.1, entry.2.toJson))),
      ("reconcile", settings.reconcile.toJson)]

def MetricsSettings.toJson (settings : MetricsSettings) : Json :=
  .object
    [("enabled", .boolean settings.enabled), ("listen_addr", .text settings.listenAddress.text),
      ("latency_buckets_count", .ofNat settings.bucketCount.toNat),
      ("max_latency_us", .ofNat settings.maxLatency.toNat)]

def LoggingSettings.toJson (settings : LoggingSettings) : Json :=
  .object
    [("level", .ofOption Json.text settings.level),
      ("format", .ofOption (fun format => .text (LogFormat.name format)) settings.format)]

def TelemetrySettings.toJson (settings : TelemetrySettings) : Json :=
  .object
    [("enabled", .boolean settings.enabled), ("service_name", .text settings.serviceName),
      ("otlp_endpoint", .text settings.endpoint)]

def Config.toJson (config : Config) : Json :=
  .object
    [("bridges", .object (config.bridges.entries.map fun entry => (entry.1, entry.2.toJson))),
      ("metrics", config.metrics.toJson), ("logging", config.logging.toJson),
      ("telemetry", config.telemetry.toJson)]

end TunnelFailover
