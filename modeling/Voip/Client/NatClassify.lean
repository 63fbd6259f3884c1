import Voip.Core.Config
import Voip.Core.Types

namespace voip_client.nat_probe

open voip_core.config voip_core.types

/-- What one path probe learned. -/
structure NATProbeResult where
  server_ip : String
  local_port : UInt16
  external_ip : String
  external_port : UInt16
  timestamp_ms : UInt64
  rtt_ms : UInt32
  deriving DecidableEq

def external_ports (results : List NATProbeResult) : List UInt16 := results.map (·.external_port)

/-- The pairs of neighbours, `windows(2)` of the source. -/
def windows (ports : List UInt16) : List (UInt16 × UInt16) := ports.zip ports.tail

def all_same (ports : List UInt16) : Bool := (windows ports).all fun w => w.1 == w.2

def port_deltas (ports : List UInt16) : List Int32 :=
  (windows ports).map fun w => w.2.toUInt32.toInt32 - w.1.toUInt32.toInt32

/-- The mean of the deltas, rounded towards zero. -/
def avg_delta (deltas : List Int32) : Int32 := deltas.sum / Int32.ofNat deltas.length

/-- The standard deviation of the deltas in `f64` arithmetic, cut to an integer. -/
def delta_variance (deltas : List Int32) : Int32 :=
  if 1 < deltas.length then
    let mean := Float.Model.ofInt32 (avg_delta deltas)
    let squares := deltas.map fun d =>
      let deviation := Float.Model.ofInt32 d - mean
      deviation * deviation
    let variance := squares.foldl (· + ·) (.ofInt32 0) / .ofNat (deltas.length - 1)
    variance.sqrt.toInt32
  else 0

/-- The ports around a centre, clamped to those that are not reserved. -/
def port_range (predicted_center margin : Int32) : UInt32 × UInt32 :=
  ((max (predicted_center - margin) 1024).toUInt32, (min (predicted_center + margin) 65535).toUInt32)

/-- The prediction from a last probe: both `compute_prediction` and the reader of the cache
build it, with margins and times of their own. -/
def predict_from (last : NATProbeResult) (average_delta : Int32) (confidence : PredictionConfidence)
    (margin : Int32) (probed_at : UInt64) : PortPredictionData :=
  let base_port := last.external_port.toUInt32
  -- one new mapping is expected between the probe and the call
  let range := port_range (base_port.toInt32 + average_delta) margin
  { external_ip := last.external_ip
    predicted_port_start := range.1
    predicted_port_end := range.2
    confidence := confidence
    base_port := base_port
    delta_pattern := average_delta
    probed_at := probed_at
    probe_method := .QuicPathProbing }

def prediction_margin (config : TraversalConfig) : PredictionConfidence → Int32
  | .Sequential => config.prediction_margin_sequential.toInt32
  | .PseudoSequential => config.prediction_margin_pseudo.toInt32
  | .Random => 0

/-- That a result exists stands for the `expect` of the source. -/
def compute_prediction (config : TraversalConfig) (now_secs : UInt64) (results : List NATProbeResult)
    (hresults : results ≠ []) (average_delta : Int32) (confidence : PredictionConfidence) :
    PortPredictionData :=
  predict_from (results.getLast hresults) average_delta confidence (prediction_margin config confidence)
    now_secs

/-- The type of a NAT whose ports differ, from the spread of its deltas. -/
def classify_spread (config : TraversalConfig) (variance : Int32) : NATType × PredictionConfidence :=
  let threshold := config.nat_delta_variance_threshold.toInt32
  if variance = 0 ∨ variance ≤ threshold then (.SymmetricSequential, .Sequential)
  else if variance ≤ threshold * 3 then (.SymmetricPseudo, .PseudoSequential)
  else (.SymmetricRandom, .Random)

def is_ipv6 (result : NATProbeResult) : Bool := result.external_ip.toList.contains ':'

def classify_nat (config : TraversalConfig) (now_secs : UInt64) : List NATProbeResult → NATInfo
  | [] => { nat_type := .None, prediction := none }
  | first :: rest =>
    if is_ipv6 first then { nat_type := .None, prediction := none }
    else
      let ports := external_ports (first :: rest)
      if all_same ports then { nat_type := .Cone, prediction := none }
      else
        let deltas := port_deltas ports
        if deltas.isEmpty then { nat_type := .SymmetricRandom, prediction := none }
        else
          let (nat_type, confidence) := classify_spread config (delta_variance deltas)
          { nat_type := nat_type
            prediction :=
              if confidence ≠ .Random then
                some (compute_prediction config now_secs (first :: rest) (List.cons_ne_nil _ _)
                  (avg_delta deltas) confidence)
              else none }

end voip_client.nat_probe
