import TunnelFailover.Endpoint
import TunnelFailover.Metrics.Exposition
/-!
This file says what a collector of metrics is served. The states of the bridges are not reported when
they change: they are sampled whenever a collector asks.
-/

namespace TunnelFailover

namespace Registry

/-- The registry after the registered states have been sampled, in the order of their registration.
A state is the status of a bridge together with what is known of its partner. -/
def observe (registry : Registry) (states : List (BridgeStatus × Option BridgeStatus)) : Registry :=
  registry.recordAll (states.flatMap fun state => Sample.ofStatus state.1 state.2)

/-- The lines that are written once the registered states have been sampled. -/
def scrape (registry : Registry) (states : List (BridgeStatus × Option BridgeStatus)) :
    Registry × List String :=
  let observed := registry.observe states
  (observed, observed.lines)

end Registry

namespace Collection

/-- The path of the metrics. -/
def path : String := "/metrics"

/-- The format of the text and its version. -/
def contentType : String := "text/plain; version=0.0.4"

/-- The metrics are served at their path for reading, to a HEAD request without the body. Any other
method is not allowed there, and any other path is unknown. -/
def reply (registry : Registry) (states : List (BridgeStatus × Option BridgeStatus))
    (method target : String) : Registry × Reply :=
  if Endpoint.pathOf target ≠ path then (registry, ⟨404, none, ""⟩)
  else if method = "GET" ∨ method = "HEAD" then
    let (observed, lines) := registry.scrape states
    let body := if method = "GET" then String.join (lines.map (· ++ "\n")) else ""
    (observed, ⟨200, some contentType, body⟩)
  else (registry, ⟨405, none, ""⟩)

end Collection

end TunnelFailover
