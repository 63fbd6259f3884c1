import Voip.Client.Connection

namespace voip_client.connection

open fallback voip_core.config voip_core.types voip_core.proto.signaling checked result

/-- The range is in order, and the number of probes counted in 16 bits keeps its end in the ports. -/
def RangeFits (max_probes port_start port_end : Nat) : Prop :=
  port_start ≤ port_end ∧ port_start + max_probes % 2 ^ 16 < 2 ^ 16 ∧ 0 < port_start + max_probes % 2 ^ 16

variable {config : TraversalConfig} {port_start port_end : UInt16}

theorem length_ports_between (port_start : UInt16) (effective_end : Nat) :
    (ports_between port_start effective_end).length = effective_end + 1 - port_start.toNat := by
  rw [ports_between, List.length_map, List.length_range]

theorem mem_ports_between {port : UInt16} {effective_end : Nat} (hend : effective_end < 2 ^ 16)
    (hport : port ∈ ports_between port_start effective_end) :
    port_start.toNat ≤ port.toNat ∧ port.toNat ≤ effective_end := by
  obtain ⟨i, hi, rfl⟩ := List.mem_map.mp hport
  rw [List.mem_range] at hi
  rw [UInt16.toNat_add, UInt16.toNat_ofNat']
  omega

theorem probe_ports_checks_eq_ok {ports : List UInt16} :
    probe_ports .checks config port_start port_end = .ok ports ↔
      RangeFits config.prediction_max_probes.toNat port_start.toNat port_end.toNat ∧
        ports_between port_start
          (min port_end.toNat (port_start.toNat + config.prediction_max_probes.toNat % 2 ^ 16 - 1)) = ports := by
  have hend := port_end.toNat_lt
  have hmax : config.prediction_max_probes.toUInt16.toNat = config.prediction_max_probes.toNat % 2 ^ 16 :=
    UInt32.toNat_toUInt16 _
  simp only [probe_ports, Build.sub, bind_eq_ok, sub_eq_ok, Build.checks_word_eq_ok, pure_eq_ok, hmax]
  constructor
  · rintro ⟨_, ⟨hle, rfl⟩, _, -, _, ⟨hfits, rfl⟩, _, ⟨hpos, rfl⟩, hports⟩
    exact ⟨⟨hle, hfits, hpos⟩, hports⟩
  · rintro ⟨⟨hle, hfits, hpos⟩, hports⟩
    exact ⟨_, ⟨hle, rfl⟩, _, ⟨by omega, rfl⟩, _, ⟨hfits, rfl⟩, _, ⟨hpos, rfl⟩, hports⟩

/-- Where the arithmetic has no fault it does not wrap. -/
theorem probe_ports_of_rangeFits
    (hfits : RangeFits config.prediction_max_probes.toNat port_start.toNat port_end.toNat) (build : Build) :
    probe_ports build config port_start port_end = .ok (ports_between port_start
      (min port_end.toNat (port_start.toNat + config.prediction_max_probes.toNat % 2 ^ 16 - 1))) := by
  cases build with
  | checks => exact probe_ports_checks_eq_ok.mpr ⟨hfits, rfl⟩
  | wraps =>
    obtain ⟨-, hsum, hpos⟩ := hfits
    have hlast : (2 ^ 16 + (port_start.toNat + config.prediction_max_probes.toNat % 2 ^ 16) % 2 ^ 16 - 1) % 2 ^ 16 =
        port_start.toNat + config.prediction_max_probes.toNat % 2 ^ 16 - 1 := by omega
    rw [← hlast, ← UInt32.toNat_toUInt16]
    rfl

/-- A build that wraps has no fault, and one that checks has none exactly if the range fits. -/
theorem exists_probe_ports_iff (build : Build) :
    (∃ ports, probe_ports build config port_start port_end = .ok ports) ↔
      (build = .checks → RangeFits config.prediction_max_probes.toNat port_start.toNat port_end.toNat) := by
  cases build with
  | checks => simp [probe_ports_checks_eq_ok]
  | wraps => exact iff_of_true ⟨_, rfl⟩ nofun

/-- The ports are tried without a fault in any build; they lie in the range, and there are as many of
them as the range and the configuration allow. -/
def ProbesInRange (config : TraversalConfig) (port_start port_end : UInt16) : Prop :=
  ∃ ports, (∀ build, probe_ports build config port_start port_end = .ok ports) ∧
    (∀ port ∈ ports, port_start ≤ port ∧ port ≤ port_end) ∧
    ports.length = min (port_end.toNat + 1 - port_start.toNat) config.prediction_max_probes.toNat

/-- The range fits, and the number of probes counted in 16 bits is still large enough. -/
def ProbesFit (max_probes port_start port_end : Nat) : Prop :=
  RangeFits max_probes port_start port_end ∧
    (max_probes < 2 ^ 16 ∨ port_end + 1 - port_start ≤ max_probes % 2 ^ 16)

/-- The probing of a prediction from a peer, with the ports cut to 16 bits, is in range exactly where
the probes fit. -/
theorem probes_in_range_iff (config : TraversalConfig) (predicted_port_start predicted_port_end : UInt32) :
    ProbesInRange config predicted_port_start.toUInt16 predicted_port_end.toUInt16 ↔
      ProbesFit config.prediction_max_probes.toNat (predicted_port_start.toNat % 2 ^ 16)
        (predicted_port_end.toNat % 2 ^ 16) := by
  rw [← UInt32.toNat_toUInt16, ← UInt32.toNat_toUInt16]
  generalize predicted_port_start.toUInt16 = port_start
  generalize predicted_port_end.toUInt16 = port_end
  have hend := port_end.toNat_lt
  constructor
  · rintro ⟨ports, hports, -, hlength⟩
    obtain ⟨hfits, rfl⟩ := probe_ports_checks_eq_ok.mp (hports .checks)
    rw [length_ports_between] at hlength
    refine ⟨hfits, ?_⟩
    obtain ⟨hle, hsum, hpos⟩ := hfits
    omega
  · rintro ⟨hfits, henough⟩
    refine ⟨_, probe_ports_of_rangeFits hfits, ?_, ?_⟩
    · intro port hport
      have hbetween := mem_ports_between (by omega) hport
      rw [UInt16.le_iff_toNat_le, UInt16.le_iff_toNat_le]
      omega
    · obtain ⟨hle, hsum, hpos⟩ := hfits
      rw [length_ports_between]
      omega

/-- A range close to the last port, with the number of probes of the default configuration, overflows;
where the overflow wraps, no port is tried. A range that is turned around underflows. -/
theorem probes_out_of_range :
    probe_ports .checks .default 65520 65526 = .error .overflow ∧
      probe_ports .wraps .default 65520 65526 = .ok [] ∧
      probe_ports .checks .default 1024 1003 = .error .underflow ∧ ¬ProbesInRange .default 65520 65526 := by
  have hfault : probe_ports .checks .default 65520 65526 = .error .overflow := by decide
  refine ⟨hfault, by decide, by decide, ?_⟩
  rintro ⟨ports, hports, -⟩
  cases hfault.symm.trans (hports .checks)

end voip_client.connection
