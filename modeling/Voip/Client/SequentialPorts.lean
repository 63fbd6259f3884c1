import Voip.Client.PortRange
import Voip.Float.Vanishing

namespace voip_client.nat_probe

open voip_core.config voip_core.types float

/-- Deltas that are all equal to their mean do not vary. -/
theorem delta_variance_of_constant {deltas : List Int32} (hconstant : ∀ delta ∈ deltas, delta = avg_delta deltas) :
    delta_variance deltas = 0 := by
  have hzero : Vanishes (.ofInt32 0) := trivial
  unfold delta_variance
  split
  · refine (Vanishes.sqrt (Vanishes.div (Vanishes.foldl_add _ ?_ hzero) _)).toInt32
    intro square hsquare
    obtain ⟨delta, hdelta, rfl⟩ := List.mem_map.mp hsquare
    rw [hconstant delta hdelta]
    exact (vanishes_sub_self _).mul (vanishes_sub_self _)
  · rfl

/-- Neighbouring ports are the same step apart. -/
def Progression (step : Int) (ports : List UInt16) : Prop :=
  ∀ w ∈ windows ports, (w.2.toNat : Int) = w.1.toNat + step

instance (step : Int) (ports : List UInt16) : Decidable (Progression step ports) :=
  List.decidableBAll _ (windows ports)

section

variable {step : Int} {ports : List UInt16}

theorem progression_cons {first second : UInt16} {rest : List UInt16} :
    Progression step (first :: second :: rest) ↔
      (second.toNat : Int) = first.toNat + step ∧ Progression step (second :: rest) :=
  List.forall_mem_cons

theorem Progression.last (hports : Progression step ports) :
    ((ports.getLastD 0).toNat : Int) = (ports.headD 0).toNat + step * (ports.length - 1 : Nat) := by
  cases ports with
  | nil => simp
  | cons first rest =>
    rw [List.getLastD_cons, List.headD_cons, List.length_cons, Nat.add_sub_cancel]
    induction rest generalizing first with
    | nil => simp
    | cons second rest ih =>
      obtain ⟨hsecond, hrest⟩ := progression_cons.mp hports
      rw [List.getLastD_cons, ih second hrest, hsecond, List.length_cons]
      push_cast
      ring

/-- Ports of 16 bits leave room for so many steps only. -/
theorem Progression.length_le (hports : Progression step ports) (hstep : step ≠ 0) : ports.length - 1 ≤ 65535 := by
  have hlast := hports.last
  have hfirst_lt := (ports.headD 0).toNat_lt
  have hlast_lt := (ports.getLastD 0).toNat_lt
  have habs : (step * (ports.length - 1 : Nat)).natAbs ≤ 65535 := by omega
  rw [Int.natAbs_mul, Int.natAbs_natCast] at habs
  exact (Nat.le_mul_of_pos_left _ (Int.natAbs_pos.mpr hstep)).trans habs

/-- The mean of equal steps is the step. -/
theorem Progression.mean_step (hports : Progression step ports) (hstep : step ≠ 0) (htwo : 2 ≤ ports.length) :
    nat_probe.mean_step ports = step := by
  have hlength := hports.length_le hstep
  have hcount : (Int32.ofNat (ports.length - 1)).toInt = (ports.length - 1 : Nat) := by
    rw [Int32.toInt_ofNat']
    exact Int.bmod_eq_of_le (by omega) (by simp [Int32.size]; omega)
  have hsum : ((ports.getLastD 0).toNat : Int) - (ports.headD 0).toNat = step * (ports.length - 1 : Nat) := by
    rw [hports.last]
    omega
  rw [nat_probe.mean_step, hcount, hsum, Int.mul_tdiv_cancel _ (by omega)]

theorem Progression.port_deltas (hports : Progression step ports) (hstep : step ≠ 0) (htwo : 2 ≤ ports.length) :
    ∀ delta ∈ nat_probe.port_deltas ports, delta = avg_delta (nat_probe.port_deltas ports) := by
  intro delta hdelta
  obtain ⟨w, hw, rfl⟩ := List.mem_map.mp hdelta
  have hstep_eq := hports w hw
  have hfirst := w.1.toNat_lt
  have hsecond := w.2.toNat_lt
  rw [← Int32.toInt_inj, toInt_avg_delta, hports.mean_step hstep htwo, Int32.toInt_sub, toInt_port, toInt_port,
    hstep_eq,
    add_sub_cancel_left]
  exact Int.bmod_eq_of_le (by omega) (by omega)

theorem Progression.all_same (hports : Progression step ports) (hstep : step ≠ 0) (htwo : 2 ≤ ports.length) :
    nat_probe.all_same ports = false := by
  match ports, htwo with
  | first :: second :: rest, _ =>
    obtain ⟨hsecond, -⟩ := progression_cons.mp hports
    have hne : ¬first = second := by
      rintro rfl
      omega
    exact Bool.and_eq_false_imp.mpr fun h => absurd (beq_iff_eq.mp h) hne

end

/-- A NAT whose ports are a step apart is told to be sequential, and the next port of the row is
among those predicted. -/
theorem sequential_nat_predicted (config : TraversalConfig) (now_secs : UInt64) (results : List NATProbeResult)
    (step : Int) (hmargin : config.prediction_margin_sequential.toNat < 2 ^ 30) (hthree : 3 ≤ results.length)
    (hipv4 : ∀ result ∈ results, is_ipv6 result = false) (hstep : step ≠ 0)
    (hports : Progression step (external_ports results)) :
    ∃ prediction,
      classify_nat config now_secs results =
          { nat_type := .SymmetricSequential, prediction := some prediction } ∧
        prediction.delta_pattern.toInt = step ∧
        prediction.base_port.toNat = ((external_ports results).getLastD 0).toNat ∧
        (1024 ≤ ((external_ports results).getLastD 0).toNat + step →
          ((external_ports results).getLastD 0).toNat + step ≤ 65535 →
            (prediction.predicted_port_start.toNat : Int) ≤ ((external_ports results).getLastD 0).toNat + step ∧
              ((external_ports results).getLastD 0).toNat + step ≤ (prediction.predicted_port_end.toNat : Int)) := by
  have hne : results ≠ [] := List.ne_nil_of_length_pos (by omega)
  have htwo : 2 ≤ (external_ports results).length := by
    rw [external_ports, List.length_map]
    omega
  have hspread : spread_confidence config results = .Sequential := by
    rw [spread_confidence, delta_variance_of_constant (hports.port_deltas hstep htwo)]
    rfl
  have hhead : ∀ first ∈ results.head?, is_ipv6 first = false :=
    fun first hfirst => hipv4 first (List.mem_of_mem_head? hfirst)
  have hclassified : classify_nat config now_secs results = _ :=
    classify_nat_of_differing hne now_secs hhead (hports.all_same hstep htwo)
  rw [hspread] at hclassified
  have hlast := getLastD_external_ports hne
  have hmean := hports.mean_step hstep htwo
  refine ⟨_, hclassified, ?_, ?_, ?_⟩
  · exact (toInt_avg_delta _).trans hmean
  · rw [hlast]
    exact UInt16.toNat_toUInt32 _
  · intro hlow hhigh
    have hmargin : 0 ≤ (prediction_margin config .Sequential).toInt ∧
        (prediction_margin config .Sequential).toInt < 2 ^ 30 := by
      rw [prediction_margin, toInt_toInt32 (by omega)]
      omega
    have hcenter := toInt_center hlast
    rw [expected_port, hmean] at hcenter
    have hmem := center_mem_port_range (by rw [hcenter]; exact ⟨hlow, hhigh⟩) hmargin
    rw [hcenter] at hmem
    exact hmem

/-- Three ports in a row with steps of 7. -/
theorem sequential_nat_predicted_of_row :
    ∃ prediction,
      classify_nat .default 1 (probes_of [40000, 40007, 40014]) =
          { nat_type := .SymmetricSequential, prediction := some prediction } ∧
        prediction.delta_pattern.toInt = 7 ∧ prediction.base_port.toNat = 40014 ∧
        (prediction.predicted_port_start.toNat : Int) ≤ 40021 ∧
        40021 ≤ (prediction.predicted_port_end.toNat : Int) := by
  obtain ⟨prediction, hclassified, hdelta, hbase, hrange⟩ := sequential_nat_predicted .default 1
    (probes_of [40000, 40007, 40014]) 7 (by decide) (by decide) (by decide) (by decide) (by decide +kernel)
  exact ⟨prediction, hclassified, hdelta, hbase, hrange (by decide) (by decide)⟩

end voip_client.nat_probe
