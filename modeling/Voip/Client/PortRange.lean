import Voip.Client.NatCache

namespace voip_client.nat_probe

open voip_core.config voip_core.types

theorem toInt_toInt32 {number : UInt32} (hsmall : number.toNat < 2 ^ 31) : number.toInt32.toInt = number.toNat := by
  change number.toBitVec.toInt = _
  rw [BitVec.toInt_eq_toNat_of_lt]
  · rfl
  · change 2 * number.toNat < 2 ^ 32
    omega

theorem toInt_port (port : UInt16) : port.toUInt32.toInt32.toInt = port.toNat := by
  have hport := port.toNat_lt
  rw [toInt_toInt32, UInt16.toNat_toUInt32]
  rw [UInt16.toNat_toUInt32]
  omega

/-- The cast to `u32` of a negative number is a very large one. -/
theorem toNat_toUInt32 (number : Int32) :
    (number.toUInt32.toNat : Int) = if 0 ≤ number.toInt then number.toInt else number.toInt + 2 ^ 32 := by
  have hbound := number.toUInt32.toNat_lt
  have htoInt : number.toInt = (number.toUInt32.toNat : Int).bmod (2 ^ 32) := BitVec.toInt_eq_toNat_bmod _
  rw [Int.bmod_def] at htoInt
  omega

/-- The deltas add up to the distance of the last port from the first. -/
theorem sum_port_deltas (first : UInt16) (rest : List UInt16) :
    (port_deltas (first :: rest)).sum = (rest.getLastD first).toUInt32.toInt32 - first.toUInt32.toInt32 := by
  induction rest generalizing first with
  | nil => exact (Int32.sub_self _).symm
  | cons second rest ih =>
    change (second.toUInt32.toInt32 - first.toUInt32.toInt32) + (port_deltas (second :: rest)).sum = _
    rw [ih, List.getLastD_cons]
    grind

theorem length_port_deltas (ports : List UInt16) : (port_deltas ports).length = ports.length - 1 := by
  simp [port_deltas, windows]

/-- The mean step between the ports, rounded towards zero. The source counts the steps in 32 bits. -/
def mean_step (ports : List UInt16) : Int :=
  (((ports.getLastD 0).toNat : Int) - (ports.headD 0).toNat).tdiv (Int32.ofNat (ports.length - 1)).toInt

theorem mean_step_bounds (ports : List UInt16) : -65535 ≤ mean_step ports ∧ mean_step ports ≤ 65535 := by
  have hfirst := (ports.headD 0).toNat_lt
  have hlast := (ports.getLastD 0).toNat_lt
  have hle := Int.natAbs_tdiv_le_natAbs (((ports.getLastD 0).toNat : Int) - (ports.headD 0).toNat)
    (Int32.ofNat (ports.length - 1)).toInt
  unfold mean_step
  omega

theorem toInt_avg_delta (ports : List UInt16) : (avg_delta (port_deltas ports)).toInt = mean_step ports := by
  have hbounds := mean_step_bounds ports
  have hsum : (port_deltas ports).sum.toInt = ((ports.getLastD 0).toNat : Int) - (ports.headD 0).toNat := by
    cases ports with
    | nil => rfl
    | cons first rest =>
      have hfirst := first.toNat_lt
      have hlast := (rest.getLastD first).toNat_lt
      rw [sum_port_deltas, Int32.toInt_sub, toInt_port, toInt_port, List.getLastD_cons, List.headD_cons]
      exact Int.bmod_eq_of_le (by omega) (by omega)
  rw [avg_delta, Int32.toInt_div, hsum, length_port_deltas]
  exact Int.bmod_eq_of_le (by unfold mean_step at hbounds; omega) (by unfold mean_step at hbounds; omega)

/-- A range around a centre has ports in it, and none outside of those that can be used. -/
def Fits (center margin : Int) : Prop := 1024 ≤ center + margin ∧ center - margin ≤ 65535

instance (center margin : Int) : Decidable (Fits center margin) :=
  inferInstanceAs (Decidable (1024 ≤ center + margin ∧ center - margin ≤ 65535))

/-- The range is not empty and inside of the ports that are not reserved. -/
def WellFormed (prediction : PortPredictionData) : Prop :=
  1024 ≤ prediction.predicted_port_start.toNat ∧
    prediction.predicted_port_start.toNat ≤ prediction.predicted_port_end.toNat ∧
    prediction.predicted_port_end.toNat ≤ 65535

instance (prediction : PortPredictionData) : Decidable (WellFormed prediction) :=
  inferInstanceAs (Decidable (1024 ≤ prediction.predicted_port_start.toNat ∧
    prediction.predicted_port_start.toNat ≤ prediction.predicted_port_end.toNat ∧
    prediction.predicted_port_end.toNat ≤ 65535))

/-- The ends of a range whose arithmetic does not wrap. -/
theorem port_range_values {center margin : Int32} (hcenter : -65535 ≤ center.toInt ∧ center.toInt ≤ 131070)
    (hmargin : 0 ≤ margin.toInt ∧ margin.toInt < 2 ^ 30) :
    ((port_range center margin).1.toNat : Int) = max (center.toInt - margin.toInt) 1024 ∧
      ((port_range center margin).2.toNat : Int) =
        if 0 ≤ center.toInt + margin.toInt then min (center.toInt + margin.toInt) 65535
        else center.toInt + margin.toInt + 2 ^ 32 := by
  have hsub : (center - margin).toInt = center.toInt - margin.toInt := by
    rw [Int32.toInt_sub]
    exact Int.bmod_eq_of_le (by omega) (by omega)
  have hadd : (center + margin).toInt = center.toInt + margin.toInt := by
    rw [Int32.toInt_add]
    exact Int.bmod_eq_of_le (by omega) (by omega)
  have hlow : (1024 : Int32).toInt = 1024 := rfl
  have hhigh : (65535 : Int32).toInt = 65535 := rfl
  simp only [port_range, toNat_toUInt32, int32_max_eq, int32_min_eq, apply_ite Int32.toInt,
    Int32.le_iff_toInt_le, hsub, hadd, hlow, hhigh]
  omega

/-- Each clamp holds at one side only, so that a range that leaves the ports is turned around. -/
theorem port_range_iff {center margin : Int32} (hcenter : -65535 ≤ center.toInt ∧ center.toInt ≤ 131070)
    (hmargin : 0 ≤ margin.toInt ∧ margin.toInt ≤ 65535) :
    1024 ≤ (port_range center margin).1.toNat ∧
        (port_range center margin).1.toNat ≤ (port_range center margin).2.toNat ∧
        (port_range center margin).2.toNat ≤ 65535 ↔
      Fits center.toInt margin.toInt := by
  obtain ⟨hstart, hend⟩ := port_range_values hcenter ⟨hmargin.1, by omega⟩
  unfold Fits
  omega

/-- A centre that can be used is in its range. -/
theorem center_mem_port_range {center margin : Int32} (hcenter : 1024 ≤ center.toInt ∧ center.toInt ≤ 65535)
    (hmargin : 0 ≤ margin.toInt ∧ margin.toInt < 2 ^ 30) :
    ((port_range center margin).1.toNat : Int) ≤ center.toInt ∧
      center.toInt ≤ ((port_range center margin).2.toNat : Int) := by
  have hbounds : -65535 ≤ center.toInt ∧ center.toInt ≤ 131070 := by omega
  obtain ⟨hstart, hend⟩ := port_range_values hbounds hmargin
  omega

/-- The port that the next mapping is expected at. -/
def expected_port (ports : List UInt16) : Int := (ports.getLastD 0).toNat + mean_step ports

theorem expected_port_bounds (ports : List UInt16) : -65535 ≤ expected_port ports ∧ expected_port ports ≤ 131070 := by
  have hlast := (ports.getLastD 0).toNat_lt
  have hstep := mean_step_bounds ports
  unfold expected_port
  omega

theorem toInt_center {port : UInt16} {ports : List UInt16} (hlast : ports.getLastD 0 = port) :
    (port.toUInt32.toInt32 + avg_delta (port_deltas ports)).toInt = expected_port ports := by
  have hbounds := expected_port_bounds ports
  rw [Int32.toInt_add, toInt_port, toInt_avg_delta, ← hlast]
  exact Int.bmod_eq_of_le (by unfold expected_port at hbounds; omega) (by unfold expected_port at hbounds; omega)

section

variable {config : TraversalConfig} {results : List NATProbeResult}

theorem getLastD_external_ports (hne : results ≠ []) :
    (external_ports results).getLastD 0 = (results.getLast hne).external_port := by
  rw [external_ports, List.getLastD_eq_getLast?, List.getLast?_map, List.getLast?_eq_some_getLast hne]
  rfl

theorem predict_from_wellFormed_iff (hne : results ≠ []) (confidence : PredictionConfidence) {margin : Int32}
    (hmargin : 0 ≤ margin.toInt ∧ margin.toInt ≤ 65535) (probed_at : UInt64) :
    WellFormed (predict_from (results.getLast hne) (avg_delta (port_deltas (external_ports results))) confidence
        margin probed_at) ↔
      Fits (expected_port (external_ports results)) margin.toInt := by
  have hcenter := toInt_center (getLastD_external_ports hne)
  have hiff := port_range_iff (hcenter ▸ expected_port_bounds (external_ports results)) hmargin
  rw [hcenter] at hiff
  exact hiff

theorem prediction_margin_bounds (hsequential : config.prediction_margin_sequential.toNat ≤ 65535)
    (hpseudo : config.prediction_margin_pseudo.toNat ≤ 65535) (confidence : PredictionConfidence) :
    0 ≤ (prediction_margin config confidence).toInt ∧ (prediction_margin config confidence).toInt ≤ 65535 := by
  cases confidence with
  | Sequential =>
    rw [prediction_margin, toInt_toInt32 (by omega)]
    omega
  | PseudoSequential =>
    rw [prediction_margin, toInt_toInt32 (by omega)]
    omega
  | Random => exact ⟨Int.le_refl 0, (by decide : (0 : Int) ≤ 65535)⟩

/-- The ports differ, and not too much for a prediction. -/
def Predicts (config : TraversalConfig) (results : List NATProbeResult) : Prop :=
  all_same (external_ports results) = false ∧ spread_confidence config results ≠ .Random

end

/-- Both predictions from IPv4 probes are well formed exactly if the range of each, around the port
that is expected next, has a port in common with those that can be used. -/
theorem predictions_well_formed_iff (config : TraversalConfig) (clock : Clock) (results : List NATProbeResult)
    (hthree : 3 ≤ results.length) (hipv4 : ∀ result ∈ results, is_ipv6 result = false)
    (hsequential : config.prediction_margin_sequential.toNat ≤ 65535)
    (hpseudo : config.prediction_margin_pseudo.toNat ≤ 65535) :
    (∀ prediction ∈ (classify_nat config clock.now_secs results).prediction, WellFormed prediction) ∧
        (∀ prediction ∈ (cached_to_nat_info (build_cache config clock.now_ms results
          (classify_nat config clock.now_secs results))).prediction, WellFormed prediction) ↔
      (Predicts config results →
        Fits (expected_port (external_ports results))
            (prediction_margin config (spread_confidence config results)).toInt ∧
          Fits (expected_port (external_ports results))
            (cached_margin (spread_confidence config results)).toInt) := by
  have hne : results ≠ [] := List.ne_nil_of_length_pos (by omega)
  have hhead : ∀ first ∈ results.head?, is_ipv6 first = false :=
    fun first hfirst => hipv4 first (List.mem_of_mem_head? hfirst)
  unfold Predicts
  cases hsame : all_same (external_ports results) with
  | true =>
    -- a cone has no prediction
    refine iff_of_true ⟨?_, ?_⟩ (fun hpredicts => absurd hpredicts.1 (by decide))
    · cases results with
      | nil => contradiction
      | cons first rest => simp [classify_nat, hhead first rfl, hsame]
    · simp [cached_to_nat_info, build_cache, hsame]
  | false =>
    rw [cached_to_nat_info_of_differing hne clock hhead hsame,
      classify_nat_of_differing hne clock.now_secs hhead hsame]
    have hmargin := prediction_margin_bounds hsequential hpseudo (spread_confidence config results)
    have hcached := cached_margin_bounds (spread_confidence config results)
    by_cases hrandom : spread_confidence config results = .Random
    · simp [hrandom]
    · simp only [hrandom, ne_eq, not_false_eq_true, if_true, Option.mem_def, Option.some.injEq, forall_eq',
        compute_prediction, and_self, forall_const]
      rw [predict_from_wellFormed_iff hne _ hmargin, predict_from_wellFormed_iff hne _ ⟨hcached.1, by omega⟩]

/-- Probes of one address that is mapped to the given ports. -/
def probes_of (ports : List UInt16) : List NATProbeResult :=
  ports.map fun port =>
    { server_ip := "198.51.100.1", local_port := 0, external_ip := "203.0.113.7", external_port := port,
      timestamp_ms := 1000, rtt_ms := 10 }

/-- Three ports in a row. -/
theorem predictions_well_formed_of_row :
    (∀ prediction ∈ (classify_nat .default 1 (probes_of [40000, 40001, 40002])).prediction, WellFormed prediction) ∧
      ∀ prediction ∈ (cached_to_nat_info (build_cache .default 1000 (probes_of [40000, 40001, 40002])
        (classify_nat .default 1 (probes_of [40000, 40001, 40002])))).prediction, WellFormed prediction := by
  refine (predictions_well_formed_iff .default ⟨1, 1000⟩ (probes_of [40000, 40001, 40002]) (by decide) (by decide)
    (by decide) (by decide)).mpr fun _ => ?_
  decide +kernel

/-- Ports that climb by 200 towards the last one: the next is expected behind it. -/
theorem prediction_turned_around :
    ∃ prediction ∈ (classify_nat .default 1 (probes_of [65100, 65300, 65500])).prediction,
      prediction.predicted_port_start = 65697 ∧ prediction.predicted_port_end = 65535 ∧ ¬WellFormed prediction := by
  decide +kernel

end voip_client.nat_probe
