import TunnelFailover.Config.Settings
import TunnelFailover.Monitor
import TunnelFailover.Net.Url
import TunnelFailover.Text.Blank
/-!
This file says which settings are accepted. Every part of the settings has its own issues, and a
part whose parts have issues has one too.
-/

namespace TunnelFailover

/-- An issue concerns a field of some part of the settings. -/
structure Issue where
  field : String
  code : String
  message : Option String
deriving DecidableEq, Repr

namespace Issue

/-- An issue that its code explains. -/
def bare (field code : String) : Issue := ⟨field, code, none⟩

/-- An issue with an explanation. -/
def explained (field code message : String) : Issue := ⟨field, code, some message⟩

end Issue

/-- An issue where a condition does not hold. -/
def require (condition : Bool) (issue : Issue) : List Issue := if condition then [] else [issue]

namespace TunnelSettings

/-- The thresholds lie between two and ten. -/
def issues (settings : TunnelSettings) : List Issue :=
  require (2 ≤ settings.thresholdDown && settings.thresholdDown ≤ 10)
      (.bare "threshold_down" "range") ++
    require (2 ≤ settings.thresholdUp && settings.thresholdUp ≤ 10) (.bare "threshold_up" "range")

end TunnelSettings

namespace MetricsSettings

/-- There are at least two buckets, but not more than a thousand. -/
def issues (settings : MetricsSettings) : List Issue :=
  require (2 ≤ settings.bucketCount && settings.bucketCount ≤ 1000)
      (.bare "latency_buckets_count" "range") ++
    require (2 ≤ settings.maxLatency) (.bare "max_latency_us" "range")

end MetricsSettings

namespace ReapplySettings

/-- The shortest delay before an activation is applied again. -/
def shortestDelay : Duration := .ofSeconds 1

/-- A schedule has an issue with its initial delay, its maximum or its factor, in this order. -/
def issue? (field : String) (settings : ReapplySettings) : Option Issue :=
  let policy := settings.policy
  if policy.isEnabled ∧ policy.initialDelay < shortestDelay then
    some (.explained field "reapply_initial_delay_invalid"
      s!"expected >= 1s, got {policy.initialDelay.brief}")
  else if policy.maximumDelay < policy.initialDelay then
    some (.explained field "reapply_maximum_delay_invalid"
      s!"expected >= {policy.initialDelay.brief}, got {policy.maximumDelay.brief}")
  else if policy.factor < 1 then
    some (.explained field "reapply_factor_invalid"
      s!"expected >= 1.0, got {positionalText policy.factor}")
  else if policy.factor == 1 ∧ policy.initialDelay ≠ policy.maximumDelay then
    some (.explained field "reapply_factor_invalid"
      "factor 1.0 requires equal initial and maximum delays")
  else none

end ReapplySettings

namespace ReconcileSettings

/-- Scripts have some time, and both schedules make sense. -/
def issues (settings : ReconcileSettings) : List Issue :=
  require (!settings.scriptsTimeout.isZero) (.bare "scripts_timeout" "scripts_timeout_zero") ++
    (settings.bridgeActivate.reapply.issue? "bridge_activate").toList ++
    (settings.interfaceActivate.reapply.issue? "interface_activate").toList

end ReconcileSettings

namespace BridgeSettings

/-- The shortest time between two rounds of probes. -/
def shortestInterval : Duration := .ofMilliseconds 100

/-- The partner is reached over HTTP. -/
def partnerUrlIssue? (url : String) : Option Issue :=
  match Url.schemeOf url with
  | .error fault =>
    some (.explained "partner_url" "partner_url_invalid" s!"{url}: {fault.message}")
  | .ok scheme =>
    if scheme = "http" ∨ scheme = "https" then none
    else
      some (.explained "partner_url" "partner_url_scheme_invalid"
        s!"expected http or https, got {scheme}")

/-- The thresholds for the partner are those of a monitor. -/
def thresholdsIssue? (settings : BridgeSettings) : Option Issue :=
  match Thresholds.ofCounts settings.partnerThresholdDown settings.partnerThresholdUp with
  | .ok _ => none
  | .error fault =>
    some (.explained "partner_status_thresholds" "thresholds_invalid" fault.message)

/-- The number of tunnel interfaces with the active role. -/
def activeTunnels (settings : BridgeSettings) : Nat :=
  (settings.tunnels.values.filter (·.role = .active)).length

/-- The issues of a bridge and of its parts. -/
def issues (settings : BridgeSettings) : List Issue :=
  require (settings.bridgeInterface.toList.any fun char => !isTextBlank char)
      (.bare "bridge_interface" "bridge_interface_empty") ++
    require (!settings.peerCidrs.isEmpty) (.bare "peer_cidrs" "peer_cidrs_empty") ++
    (partnerUrlIssue? settings.partnerUrl).toList ++ settings.thresholdsIssue?.toList ++
    require (shortestInterval ≤ settings.probeInterval)
      (.bare "probe_interval" "probe_interval_too_small") ++
    require (!settings.partnerTimeout.isZero && settings.partnerTimeout ≤ settings.probeInterval)
      (.explained "partner_status_timeout" "partner_status_timeout_invalid"
        s!"expected within (0, {settings.probeInterval.brief}], got {settings.partnerTimeout.brief}") ++
    (settings.tunnels.values.flatMap fun tunnel =>
      require tunnel.issues.isEmpty (.bare "tunnel_interfaces" "tunnel_interface_invalid")) ++
    require (settings.activeTunnels = 1)
      (.explained "tunnel_interfaces" "active_tunnel_interfaces_count_invalid"
        s!"exactly one active tunnel interface is required, got {settings.activeTunnels}") ++
    require settings.reconcile.issues.isEmpty (.bare "reconcile" "reconcile_invalid")

end BridgeSettings

namespace Config

/-- The issue of a bridge whose name is too long for a location that it has to give. -/
def locationIssue? (name : String) (settings : BridgeSettings) : Option Issue :=
  match settings.location name with
  | .ok _ => none
  | .error fault =>
    some (.explained "bridges" "bridge_location_invalid" s!"{name}: {fault.message}")

/-- The issues of bridges in the order of their names. No two of them serve their status at one
address. -/
def bridgeIssues (taken : List SocketAddress) : List (String × BridgeSettings) → List Issue
  | [] => []
  | (name, settings) :: rest =>
    let address := settings.statusAddress
    require settings.issues.isEmpty (.bare "bridges" "bridge_invalid") ++
      (locationIssue? name settings).toList ++
      require (!taken.contains address)
        (.explained "bridges" "bridge_status_addr_duplicate"
          s!"{name}: status addr {address.text} is already taken") ++
      bridgeIssues (address :: taken) rest

/-- The issues of the settings as a whole. -/
def issues (config : Config) : List Issue :=
  require (!config.bridges.entries.isEmpty)
      (.explained "bridges" "bridges_empty" "at least one bridge is required") ++
    bridgeIssues [] config.bridges.entries ++
    require config.metrics.issues.isEmpty (.bare "metrics" "metrics_invalid")

/-- Settings are accepted if they have no issue. -/
def isValid (config : Config) : Bool := config.issues.isEmpty

/-- The issues of every part, each under its path, without those that have none. -/
def report (config : Config) : List (String × List Issue) :=
  let bridges := config.bridges.entries.flatMap fun (name, settings) =>
    let path := "bridges." ++ name
    (path, settings.issues) :: (path ++ ".reconcile", settings.reconcile.issues) ::
      settings.tunnels.entries.map fun (interface, tunnel) =>
        (path ++ ".tunnel_interfaces." ++ interface, tunnel.issues)
  (("", config.issues) :: ("metrics", config.metrics.issues) :: bridges).filter fun part =>
    !part.2.isEmpty

end Config

end TunnelFailover
