import Voip.Async.Outcome
import Voip.Client.NatCache

namespace voip_client.nat_probe

open async voip_core.config voip_core.types

/-- The settings that the refresh reads besides those of a probe. -/
structure RefreshConfig extends TraversalConfig where
  path_refresh_count : UInt32

/-- What the prober does with the lock of its cache, the network and the clock. -/
inductive ProberAction where
  | ReadLock
  | WriteLock
  | DropGuard
  | Store (cache : NATProbeCache)
  | ProbePath (server_ip : String) (index : Nat)
  | ReadClock

abbrev prober_signature : Signature where
  Action := ProberAction
  Answer
    | .ReadLock | .WriteLock => Option NATProbeCache
    | .DropGuard | .Store _ => Unit
    | .ProbePath _ _ => Except NatProbeError NATProbeResult
    | .ReadClock => Clock

abbrev ProberTask := Task prober_signature

def read_lock : ProberTask (Option NATProbeCache) := .perform (S := prober_signature) .ReadLock
def write_lock : ProberTask (Option NATProbeCache) := .perform (S := prober_signature) .WriteLock
def drop_guard : ProberTask Unit := .perform (S := prober_signature) .DropGuard
def store (cache : NATProbeCache) : ProberTask Unit := .perform (S := prober_signature) (.Store cache)
def read_clock : ProberTask Clock := .perform (S := prober_signature) .ReadClock

def probe_single_path (server_ip : String) (index : Nat) : ProberTask (Except NatProbeError NATProbeResult) :=
  .perform (S := prober_signature) (.ProbePath server_ip index)

/-- The guard lives until the function returns. -/
def cached_nat_info : ProberTask (Option NATInfo) := do
  let cache ← read_lock
  let clock ← read_clock
  drop_guard
  return cache.bind fun cache => if cache.Fresh clock.now_ms then some (cached_to_nat_info cache) else none

/-- The loop over the addresses; a path that fails is left out. -/
def probe_paths : List (String × Nat) → ProberTask (List NATProbeResult)
  | [] => pure []
  | (server_ip, i) :: paths => do
    let outcome ← probe_single_path server_ip i
    let results ← probe_paths paths
    return outcome.toOption.toList ++ results

/-- Steps 2 and 3 of a probe. The guard of the store is dropped at the end of its statement. -/
def classify_and_cache (config : TraversalConfig) (results : List NATProbeResult) : ProberTask NATInfo := do
  let clock ← read_clock
  let nat_info := classify_nat config clock.now_secs results
  let _ ← write_lock
  store (build_cache config clock.now_ms results nat_info)
  drop_guard
  return nat_info

def probe (config : TraversalConfig) : ProberTask (Except NatProbeError NATInfo) :=
  let ips_to_probe := config.signaling_server_ips.take config.path_probe_count.toNat
  if ips_to_probe.isEmpty then return .error .NotConnected
  else do
    let results ← probe_paths ips_to_probe.zipIdx
    if results.length < 3 then return .error (.InsufficientProbes results.length 3)
    else return .ok (← classify_and_cache config results)

/-- The ports of the refresh go on as the cache has it. -/
def same_pattern (config : TraversalConfig) (results : List NATProbeResult) (cache : NATProbeCache) : Bool :=
  let deltas := port_deltas (external_ports results)
  !deltas.isEmpty &&
    (avg_delta deltas - cache.average_delta).abs ≤ config.nat_delta_variance_threshold.toInt32

/-- Sets the timestamp of the cache through a guard of the lock. -/
def extend_ttl (cache_mut : Option NATProbeCache) : ProberTask Unit :=
  match cache_mut with
  | some c => do store { c with cache_timestamp := (← read_clock).now_ms }
  | none => return ()

/-- What the refresh does when the pattern is still valid. The guard of the write is there until the
end, or until the full probe. -/
def keep_cache (config : TraversalConfig) : ProberTask (Except NatProbeError NATInfo) := do
  let cache_mut ← write_lock
  extend_ttl cache_mut
  match ← cached_nat_info with
  | some info => do
    drop_guard
    return .ok info
  | none => do
    drop_guard
    return .ok ((← probe config).toOption.getD .no_nat)

/-- The end of the refresh: what it has seen is compared with the cache. -/
def check_pattern (config : TraversalConfig) (results : List NATProbeResult) :
    ProberTask (Except NatProbeError NATInfo) := do
  let cached ← read_lock
  if cached.any (same_pattern config results) then
    drop_guard
    keep_cache config
  else
    drop_guard
    probe config

def quick_refresh (config : RefreshConfig) : ProberTask (Except NatProbeError NATInfo) :=
  let ips_to_probe := config.signaling_server_ips.take config.path_refresh_count.toNat
  if ips_to_probe.isEmpty then probe config.toTraversalConfig
  else do
    let results ← probe_paths ips_to_probe.zipIdx
    if results.length < 2 then probe config.toTraversalConfig
    else check_pattern config.toTraversalConfig results

/-- Everything that the prober is told from outside, by how often it has asked: the outcomes of the
paths, what the cache holds when the lock is granted and the readings of the clock. -/
structure Environment where
  outcome : Nat → String → Nat → Except NatProbeError NATProbeResult
  cache : Nat → Option NATProbeCache
  clock : Nat → Clock

/-- The guard that the prober holds, and how often it has asked. -/
structure ProberState where
  holds_guard : Bool
  probes : Nat
  grants : Nat
  readings : Nat

def ProberState.start : ProberState := ⟨false, 0, 0, 0⟩

variable (env : Environment)

/-- The lock is not re-entrant: it is never granted to the holder of a guard. -/
def grant (state : ProberState) : Option (Option NATProbeCache × ProberState) :=
  if state.holds_guard then none
  else some (env.cache state.grants, { state with holds_guard := true, grants := state.grants + 1 })

def exec : (action : prober_signature.Action) → ProberState → Option (prober_signature.Answer action × ProberState)
  | .ReadLock, state | .WriteLock, state => grant env state
  | .DropGuard, state => some ((), { state with holds_guard := false })
  | .Store _, state => some ((), state)
  | .ProbePath server_ip index, state =>
    some (env.outcome state.probes server_ip index, { state with probes := state.probes + 1 })
  | .ReadClock, state => some (env.clock state.readings, { state with readings := state.readings + 1 })

/-- A request of the lock comes only from a prober that holds no guard. -/
def GuardFree (action : ProberAction) (state : ProberState) : Prop :=
  action = .ReadLock ∨ action = .WriteLock → state.holds_guard = false

theorem isSome_exec_iff (action : ProberAction) (state : ProberState) :
    (exec env action state).isSome = true ↔ GuardFree action state := by
  cases action <;> cases hguard : state.holds_guard <;> simp [exec, grant, GuardFree, hguard]

/-- The results of the paths that answered, when so many paths had been probed before. -/
def answered (probes : Nat) (server_ips : List String) : List NATProbeResult :=
  server_ips.zipIdx.filterMap fun (server_ip, i) => (env.outcome (probes + i) server_ip i).toOption

variable {env}

theorem run_probe_paths_from (base first : Nat) (server_ips : List String) (state : ProberState)
    (hprobes : state.probes = base + first) :
    (probe_paths (server_ips.zipIdx first)).run (exec env) state =
      some ((server_ips.zipIdx first).filterMap fun (server_ip, i) =>
          (env.outcome (base + i) server_ip i).toOption,
        { state with probes := state.probes + server_ips.length }) := by
  induction server_ips generalizing first state with
  | nil => rfl
  | cons server_ip server_ips ih =>
    have hrest := ih (first + 1) { state with probes := state.probes + 1 } (by rw [hprobes, Nat.add_assoc])
    have hloop : (probe_paths ((server_ip :: server_ips).zipIdx first)).run (exec env) state =
        ((probe_paths (server_ips.zipIdx (first + 1))).run (exec env)
          { state with probes := state.probes + 1 }).bind fun (results, state') =>
            some ((env.outcome (base + first) server_ip first).toOption.toList ++ results, state') := by
      rw [← hprobes]
      exact Task.run_bind (probe_paths (server_ips.zipIdx (first + 1))) _ _
    rw [hloop, hrest]
    cases houtcome : (env.outcome (base + first) server_ip first).toOption <;>
      simp [houtcome, Nat.add_assoc, Nat.add_comm 1]

theorem run_probe_paths (server_ips : List String) (state : ProberState) :
    (probe_paths server_ips.zipIdx).run (exec env) state =
      some (answered env state.probes server_ips, { state with probes := state.probes + server_ips.length }) :=
  run_probe_paths_from state.probes 0 server_ips state rfl

theorem grant_of_free {state : ProberState} (hfree : state.holds_guard = false) :
    grant env state =
      some (env.cache state.grants, { state with holds_guard := true, grants := state.grants + 1 }) := by
  rw [grant, hfree]
  rfl

theorem run_read_lock {α : Type} (next : Option NATProbeCache → ProberTask α) {state : ProberState}
    (hfree : state.holds_guard = false) :
    (read_lock >>= next).run (exec env) state =
      (next (env.cache state.grants)).run (exec env)
        { state with holds_guard := true, grants := state.grants + 1 } := by
  change (grant env state).bind _ = _
  rw [grant_of_free hfree]
  rfl

theorem run_write_lock {α : Type} (next : Option NATProbeCache → ProberTask α) {state : ProberState}
    (hfree : state.holds_guard = false) :
    (write_lock >>= next).run (exec env) state =
      (next (env.cache state.grants)).run (exec env)
        { state with holds_guard := true, grants := state.grants + 1 } := by
  change (grant env state).bind _ = _
  rw [grant_of_free hfree]
  rfl

/-- A reader that holds a guard waits for itself. -/
theorem run_cached_nat_info_of_guard {state : ProberState} (hguard : state.holds_guard = true) :
    cached_nat_info.run (exec env) state = none := by
  change (grant env state).bind _ = _
  rw [grant, hguard]
  rfl

theorem run_classify_and_cache (config : TraversalConfig) (results : List NATProbeResult)
    {state : ProberState} (hfree : state.holds_guard = false) :
    (classify_and_cache config results).run (exec env) state =
      some (classify_nat config (env.clock state.readings).now_secs results,
        { state with grants := state.grants + 1, readings := state.readings + 1 }) := by
  have hread : ({ state with readings := state.readings + 1 } : ProberState).holds_guard = false := hfree
  rw [hfree]
  exact run_write_lock _ hread

/-- A probe that starts without a guard returns what the prober without locks does, and holds none
in the end. -/
theorem run_probe (config : TraversalConfig) (cache : Option NATProbeCache) {state : ProberState}
    (hfree : state.holds_guard = false) :
    ∃ state', (probe config).run (exec env) state =
        some ((NATProber.probe (fun server_ip i => env.outcome (state.probes + i) server_ip i)
          ⟨config, cache⟩ (env.clock state.readings)).1, state') ∧ state'.holds_guard = false := by
  have hcollect : NATProber.collect (fun server_ip i => env.outcome (state.probes + i) server_ip i)
      ⟨config, cache⟩ = answered env state.probes
        (config.signaling_server_ips.take config.path_probe_count.toNat) := rfl
  unfold probe NATProber.probe
  rw [hcollect, NATProber.ips_to_probe]
  by_cases hips : (config.signaling_server_ips.take config.path_probe_count.toNat).isEmpty = true
  · simp only [hips, if_true]
    exact ⟨state, rfl, hfree⟩
  · simp only [hips, Bool.false_eq_true, if_false]
    rw [Task.run_bind, run_probe_paths, Option.bind_some]
    by_cases hfew : (answered env state.probes
        (config.signaling_server_ips.take config.path_probe_count.toNat)).length < 3
    · simp only [hfew, if_true]
      exact ⟨_, rfl, hfree⟩
    · simp only [hfew, if_false]
      rw [Task.run_bind, run_classify_and_cache]
      · exact ⟨_, rfl, hfree⟩
      · exact hfree

/-- The run comes to its end. -/
def Returns (env : Environment) {α : Type} (task : ProberTask α) (state : ProberState) : Prop :=
  (task.run (exec env) state).isSome = true

theorem returns_probe (config : TraversalConfig) {state : ProberState}
    (hfree : state.holds_guard = false) : Returns env (probe config) state := by
  obtain ⟨state', hrun, -⟩ := run_probe config none hfree
  rw [Returns, hrun]
  rfl

theorem run_extend_ttl (cache_mut : Option NATProbeCache) (state : ProberState) :
    ∃ readings, (extend_ttl cache_mut).run (exec env) state = some ((), { state with readings }) := by
  cases cache_mut with
  | none => exact ⟨state.readings, rfl⟩
  | some c => exact ⟨state.readings + 1, rfl⟩

/-- With its guard of the write the refresh waits for the read. -/
theorem not_returns_keep_cache (config : TraversalConfig) {state : ProberState}
    (hfree : state.holds_guard = false) : ¬ Returns env (keep_cache config) state := by
  obtain ⟨readings, hextend⟩ := run_extend_ttl (env.cache state.grants)
    { state with holds_guard := true, grants := state.grants + 1 }
  rw [Returns, keep_cache, run_write_lock _ hfree, Task.run_bind, hextend, Option.bind_some]
  simp only [Task.run_bind, run_cached_nat_info_of_guard, Option.bind_none]
  simp

theorem port_deltas_of_two {results : List NATProbeResult} (hresults : 2 ≤ results.length) :
    (port_deltas (external_ports results)).isEmpty = false := by
  match results, hresults with
  | _ :: _ :: _, _ => rfl

theorem returns_check_pattern_iff (config : TraversalConfig) (results : List NATProbeResult)
    {state : ProberState} (hfree : state.holds_guard = false) :
    Returns env (check_pattern config results) state ↔
      ¬ (env.cache state.grants).any (same_pattern config results) = true := by
  rw [Returns, check_pattern, run_read_lock _ hfree]
  by_cases hsame : (env.cache state.grants).any (same_pattern config results) = true
  · simp only [hsame, if_true, not_true_eq_false, iff_false]
    exact not_returns_keep_cache config (show ProberState.holds_guard
      { state with holds_guard := false, grants := state.grants + 1 } = false from rfl)
  · simp only [hsame, Bool.false_eq_true, if_false, not_false_eq_true, iff_true]
    exact returns_probe config (show ProberState.holds_guard
      { state with holds_guard := false, grants := state.grants + 1 } = false from rfl)

theorem returns_quick_refresh_iff (config : RefreshConfig) :
    Returns env (quick_refresh config) .start ↔
      ¬ ∃ cache, env.cache 0 = some cache ∧
        let results := answered env 0 (config.signaling_server_ips.take config.path_refresh_count.toNat)
        2 ≤ results.length ∧
        (avg_delta (port_deltas (external_ports results)) - cache.average_delta).abs ≤
          config.nat_delta_variance_threshold.toInt32 := by
  unfold quick_refresh
  by_cases hips : (config.signaling_server_ips.take config.path_refresh_count.toNat).isEmpty = true
  · simp only [hips, if_true]
    have hnone : config.signaling_server_ips.take config.path_refresh_count.toNat = [] := by simpa using hips
    refine iff_of_true (returns_probe _ rfl) ?_
    rintro ⟨cache, -, hresults, -⟩
    simp [hnone, answered] at hresults
  · simp only [hips, Bool.false_eq_true, if_false]
    rw [Returns, Task.run_bind, run_probe_paths, Option.bind_some]
    by_cases hfew : (answered env 0
        (config.signaling_server_ips.take config.path_refresh_count.toNat)).length < 2
    · simp only [ProberState.start, hfew, if_true]
      refine iff_of_true (returns_probe _ rfl) ?_
      rintro ⟨cache, -, hresults, -⟩
      omega
    · simp only [ProberState.start, hfew, if_false]
      refine (returns_check_pattern_iff _ _ rfl).trans (not_congr ?_)
      have hresults := Nat.not_lt.1 hfew
      simp only [Option.any_eq_true, same_pattern, port_deltas_of_two hresults, Bool.not_false,
        Bool.true_and, decide_eq_true_eq, hresults, true_and]

/-- The refresh asks for the lock without a guard each time, and so returns, just when it does not
find the pattern of the cache again. -/
theorem quick_refresh_returns_iff (env : Environment) (config : RefreshConfig) :
    ((quick_refresh config).Meets (exec env) GuardFree .start ∧ Returns env (quick_refresh config) .start) ↔
      ¬ ∃ cache, env.cache 0 = some cache ∧
        let results := answered env 0 (config.signaling_server_ips.take config.path_refresh_count.toNat)
        2 ≤ results.length ∧
        (avg_delta (port_deltas (external_ports results)) - cache.average_delta).abs ≤
          config.nat_delta_variance_threshold.toInt32 := by
  rw [← returns_quick_refresh_iff, Returns, Task.isSome_run_iff_meets (isSome_exec_iff env), and_self]

def two_servers : RefreshConfig :=
  { TraversalConfig.default with
    signaling_server_ips := ["192.0.2.1", "192.0.2.2"]
    path_refresh_count := 2 }

/-- A NAT that moves its port by two from one path to the next, as it did when it was probed. -/
def steady_nat : Environment where
  outcome _ server_ip index := .ok {
    server_ip
    local_port := 5000
    external_ip := "203.0.113.7"
    external_port := .ofNat (40000 + 2 * index)
    timestamp_ms := 1700000000000
    rtt_ms := 10 }
  cache _ := some {
    probes := []
    average_delta := 2
    delta_variance := 0
    confidence := .Sequential
    cache_timestamp := 1700000000000
    cache_ttl_seconds := 300 }
  clock _ := ⟨1700000001, 1700000001000⟩

/-- Where the NAT has not changed, the refresh asks for the lock under its own guard. -/
theorem quick_refresh_waits_for_itself :
    ¬ (quick_refresh two_servers).Meets (exec steady_nat) GuardFree .start ∧
      ¬ Returns steady_nat (quick_refresh two_servers) .start := by
  have hrun : (quick_refresh two_servers).run (exec steady_nat) .start = none := rfl
  rw [← Task.isSome_run_iff_meets (isSome_exec_iff steady_nat), Returns, hrun]
  simp

end voip_client.nat_probe
