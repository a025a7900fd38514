import TunnelFailover.Metrics.Registry
import TunnelFailover.Number.Approximate
/-!
This file writes the registry as the text that is served to a collector: for every family its help,
its type and one line for every value.
-/

namespace TunnelFailover

namespace Exposition

/-- The least and the largest power of ten right above a value that is written without exponent. -/
def positionalRange : Int × Int := (-5, 21)

/-- A float has at least one digit after its point, or an exponent if it is very large or small. -/
def floatText (value : Float) : String :=
  if value.isNaN then "NaN"
  else
    let sign := if isNegativeFloat value then "-" else ""
    if value.isInf then sign ++ "inf"
    else
      let decimal := Decimal.approximate value
      let point := decimal.exponent + Decimal.digitCount decimal.mantissa
      if decimal.mantissa = 0 ∨ (positionalRange.1 ≤ point ∧ point ≤ positionalRange.2) then
        let (whole, fraction) := decimal.positional
        let fraction := if fraction.isEmpty then ['0'] else fraction
        sign ++ String.ofList (whole ++ '.' :: fraction)
      else
        match decimal.digits with
        | [] => sign
        | first :: rest =>
          let rest := if rest.isEmpty then [] else '.' :: rest
          sign ++ String.ofList (first :: rest) ++ "e" ++ toString (point - 1)

/-- Labels stand in braces, each with its value in quotes. -/
def labelsText (labels : List (String × String)) : String :=
  let text (label : String × String) : String := label.1 ++ "=\"" ++ label.2 ++ "\""
  if labels.isEmpty then "" else "\x7b" ++ ",".intercalate (labels.map text) ++ "\x7d"

/-- A line has a name, labels and a value. -/
def line (name : String) (labels : List (String × String)) (value : String) : String :=
  name ++ labelsText labels ++ " " ++ value

/-- The largest finite float, above which nothing is observed. -/
def largestFloat : Float := Float.ofBits 0x7FEFFFFFFFFFFFFF

/-- The text of the bound of a bucket. A bucket up to the largest float is the last one. -/
def boundText (bound : Float) : String :=
  if bound == largestFloat then "+Inf" else floatText bound

/-- The lines of a histogram: its sum, its count, and for every bound what was observed up to it. -/
def histogramLines (name : String) (labels : List (String × String)) (histogram : Histogram) :
    List String :=
  let bucket (bound : String) (count : Nat) : String :=
    line (name ++ "_bucket") (("le", bound) :: labels) (toString count)
  let (total, buckets) := histogram.buckets.foldl
    (fun (total, lines) (bound, count) =>
      (total + count, lines ++ [bucket (boundText bound) (total + count)])) (0, [])
  [line (name ++ "_sum") labels (floatText histogram.sum),
    line (name ++ "_count") labels (toString histogram.count)] ++ buckets ++
    [bucket "+Inf" (total + histogram.above)]

/-- The help and the type come before the lines of a family. -/
def familyLines {α : Type} (name type help : String) (labelNames : List String)
    (lines : List (String × String) → α → List String) (family : Family α) : List String :=
  let body := family.flatMap fun entry => lines (labelNames.zip entry.1) entry.2
  [s!"# HELP {name} {help}.", s!"# TYPE {name} {type}"] ++ body

/-- A gauge is a number under labels. -/
def gauges (name help : String) (labelNames : List String) (family : Family Int) : List String :=
  familyLines name "gauge" help labelNames
    (fun labels value => [line name labels (toString value)]) family

/-- The name of a counter ends in what it is. -/
def counters (name help : String) (labelNames : List String) (family : Family Nat) :
    List String :=
  familyLines name "counter" help labelNames
    (fun labels value => [line (name ++ "_total") labels (toString value)]) family

/-- The labels of latencies name both ends of a tunnel. -/
def histograms (name help : String) (labelNames : List String) (family : Family Histogram) :
    List String :=
  familyLines name "histogram" help labelNames (histogramLines name) family

def bridgeLabels : List String := ["bridge"]

def interfaceLabels : List String := ["bridge", "tunnel_interface"]

def latencyLabels : List String :=
  ["bridge", "tunnel_interface", "probe_location_src", "probe_location_dst"]

def errorLabels : List String := ["bridge", "scope"]

/-- The end of a line may have a carriage return, which does not count. -/
def withoutReturn (line : List Char) : List Char :=
  if line.getLast? = some '\r' then line.dropLast else line

/-- The lines of a text. A label is written as it is, so that a line break in it breaks the line. -/
def broken (text : String) : List String :=
  (text.splitOn "\n").map fun line => String.ofList (withoutReturn line.toList)

/-- A line with a hash in front is no sample. -/
def isMark (line : String) : Bool := line.startsWith "#"

/-- The samples between two marks have no order of their own, so that they are listed by their
bytes. The samples since the last mark are pending. -/
def ordered (pending : List String) : List String → List String
  | [] => pending.mergeSort (· ≤ ·)
  | line :: rest =>
    if isMark line then pending.mergeSort (· ≤ ·) ++ line :: ordered [] rest
    else ordered (line :: pending) rest

end Exposition

open Exposition in
/-- The entries of all families and a mark for the end, each of which ends a line. -/
def Registry.entries (registry : Registry) : List String :=
  gauges "bridge_active" "Number of active bridges at a given moment" bridgeLabels
      registry.bridgeActive ++
    gauges "bridge_up" "Number of online bridges at a given moment" bridgeLabels
      registry.bridgeUp ++
    gauges "tunnel_interface_active" "Whether the tunnel interface is active (1) or not (0)"
      interfaceLabels registry.interfaceActive ++
    gauges "tunnel_interface_up" "Whether the tunnel interface is online (1) or not (0)"
      interfaceLabels registry.interfaceUp ++
    counters "probes_sent" "Probes sent" interfaceLabels registry.probesSent ++
    counters "probes_returned" "Probes returned" interfaceLabels registry.probesReturned ++
    counters "probes_failed" "Probes that failed to be sent or never returned" interfaceLabels
      registry.probesFailed ++
    histograms "probes_latency_forward_us" "Latency of probes on the way there, in microseconds"
      latencyLabels registry.latencyForward ++
    histograms "probes_latency_return_us" "Latency of probes on the way back, in microseconds"
      latencyLabels registry.latencyReturn ++
    counters "errors" "Errors by scope" errorLabels registry.errors ++ ["# EOF"]

open Exposition in
/-- The lines of the text. -/
def Registry.lines (registry : Registry) : List String :=
  ordered [] (registry.entries.flatMap broken)

end TunnelFailover
