import TunnelFailover.Config.Decode
import TunnelFailover.Outline
/-!
This file tells which parts of structured data the decoders of the settings look at.
-/

namespace TunnelFailover

/-- A script is a list of lists. -/
def Script.outline : Outline := .list (.list .whole)

def ActivateSettings.outline : Outline :=
  .record fieldNames fun name =>
    if name = "reapply" then .flat ReapplySettings.fieldNames else Script.outline

def ReconcileSettings.outline : Outline :=
  .record fieldNames fun name =>
    if name = "scripts_timeout" then .whole
    else if name = "interface_deactivate" then
      .record deactivateNames fun _ => Script.outline
    else ActivateSettings.outline

def BridgeSettings.outline : Outline :=
  .record fieldNames fun name =>
    if name = "peer_cidrs" then .list .whole
    else if name = "tunnel_interfaces" then .named (.flat TunnelSettings.fieldNames)
    else if name = "reconcile" then ReconcileSettings.outline
    else .whole

def Config.outline : Outline :=
  .record fieldNames fun name =>
    if name = "bridges" then .named BridgeSettings.outline
    else if name = "metrics" then .flat MetricsSettings.fieldNames
    else if name = "logging" then .flat LoggingSettings.fieldNames
    else .flat TelemetrySettings.fieldNames

end TunnelFailover
