import Mathlib.Algebra.Group.Nat.Defs

namespace voip_core.config

/-- The settings that the signaling server reads. -/
structure VoIPConfig where
  dht_bootstrap_nodes : List String
  push_retry_initial_delay_secs : Nat
  push_retry_max_attempts : Nat
  push_retry_backoff_multiplier : Nat
  jwt_expiry_secs : Nat

def VoIPConfig.default : VoIPConfig where
  dht_bootstrap_nodes := []
  push_retry_initial_delay_secs := 5
  push_retry_max_attempts := 3
  push_retry_backoff_multiplier := 3
  jwt_expiry_secs := 3600

/-- The delay before a retry, in 64-bit arithmetic that wraps as in a release build. -/
def VoIPConfig.retry_delay_secs (config : VoIPConfig) (attempt : Nat) : Nat :=
  if attempt = 0 then 0
  else config.push_retry_initial_delay_secs * config.push_retry_backoff_multiplier ^ (attempt - 1) % 2 ^ 64

/-- The settings of the same configuration that NAT traversal on the client reads. -/
structure TraversalConfig where
  path_probe_count : UInt32
  nat_cache_ttl_secs : UInt64
  nat_delta_variance_threshold : UInt32
  prediction_margin_sequential : UInt32
  prediction_margin_pseudo : UInt32
  prediction_max_probes : UInt32
  masque_fallback_enabled : Bool
  masque_max_proxy_attempts : UInt32
  signaling_server_ips : List String

def TraversalConfig.default : TraversalConfig where
  path_probe_count := 5
  nat_cache_ttl_secs := 300
  nat_delta_variance_threshold := 3
  prediction_margin_sequential := 3
  prediction_margin_pseudo := 8
  prediction_max_probes := 17
  masque_fallback_enabled := true
  masque_max_proxy_attempts := 3
  signaling_server_ips := []

end voip_core.config
