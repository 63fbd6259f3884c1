import Voip.Core.Retry
import Voip.Core.Types
import Voip.Signaling.Relay

namespace voip_core.types

/-- The number of a reason in messages. -/
def CallEndReason.number : CallEndReason → Int
  | .Normal => 0
  | .Rejected => 1
  | .Timeout => 2
  | .FailedIpv4Random => 3
  | .FailedUdpBlocked => 4
  | .FailedNetwork => 5
  | .MigrationFailed => 6
  | .FailedMasqueUnreachable => 7
  | .FailedTcpBlocked => 8

end voip_core.types

namespace voip_client.push_retry

open checked voip_core.config voip_core.types voip_core.proto.signaling

/-- Delays are counted in seconds. -/
structure PushRetryHandler where
  config : RetryConfig
  retry_count : Nat
  last_retry : Option Nat

namespace PushRetryHandler

def new (config : RetryConfig) : PushRetryHandler := ⟨config, 0, none⟩

def can_retry (self : PushRetryHandler) : Bool := self.retry_count < self.config.push_retry_max_attempts

theorem can_retry_iff {self : PushRetryHandler} :
    self.can_retry = true ↔ self.retry_count < self.config.push_retry_max_attempts := decide_eq_true_iff

def next_retry_delay (build : Build) (self : PushRetryHandler) : Except Fault Nat := do
  let next_attempt ← build.word 32 (self.retry_count + 1)
  self.config.retry_delay_secs_in build next_attempt

def record_retry (build : Build) (now : Nat) (self : PushRetryHandler) :
    Except Fault PushRetryHandler := do
  return { self with last_retry := some now, retry_count := ← build.word 32 (self.retry_count + 1) }

/-- The milliseconds are counted in 128 bits and cut to 64. -/
def create_push_retry_message (build : Build) (call_id peer_id : String) (reason : CallEndReason)
    (self : PushRetryHandler) : Except Fault PushRetry := do
  let delay_ms := (← self.next_retry_delay build) * 1000 % 2 ^ 64
  return {
    call_id
    caller_id := ""
    callee_id := peer_id
    reason := reason.number
    retry_attempt := ← build.word 32 (self.retry_count + 1)
    retry_after_ms := delay_ms }

def reset (self : PushRetryHandler) : PushRetryHandler :=
  { self with retry_count := 0, last_retry := none }

/-- A new handler that has recorded retries at the given instants. -/
def retried (build : Build) (config : RetryConfig) (now : Nat → Nat) : Nat → Except Fault PushRetryHandler
  | 0 => .ok (new config)
  | count + 1 => do (← retried build config now count).record_retry build (now count)

theorem retried_eq (build : Build) (config : RetryConfig) (now : Nat → Nat) {count : Nat}
    (hcount : count < 2 ^ 32) :
    ∃ last_retry, retried build config now count = .ok ⟨config, count, last_retry⟩ := by
  induction count with
  | zero => exact ⟨none, rfl⟩
  | succ count ih =>
    obtain ⟨last_retry, hretried⟩ := ih (by omega)
    refine ⟨some (now count), ?_⟩
    rw [retried, hretried, result.ok_bind, record_retry, build.word_of_lt hcount]
    rfl

end PushRetryHandler

end voip_client.push_retry

namespace voip_client.migration

open checked voip_core.config

structure MigrationRetryHandler where
  attempt : Nat
  max_attempts : Nat
  initial_delay_secs : Nat
  backoff_multiplier : Nat

namespace MigrationRetryHandler

def new (config : RetryConfig) : MigrationRetryHandler where
  attempt := 0
  max_attempts := config.push_retry_max_attempts
  initial_delay_secs := config.push_retry_initial_delay_secs
  backoff_multiplier := config.push_retry_backoff_multiplier

def next_delay (build : Build) (self : MigrationRetryHandler) : Except Fault (Option Nat) :=
  if self.max_attempts ≤ self.attempt then .ok none
  else do
    let power ← build.word 64 (self.backoff_multiplier ^ self.attempt)
    return some (← build.word 64 (self.initial_delay_secs * power))

def record_attempt (build : Build) (self : MigrationRetryHandler) : Except Fault MigrationRetryHandler := do
  return { self with attempt := ← build.word 32 (self.attempt + 1) }

/-- A new handler that has recorded a number of attempts. -/
def attempted (build : Build) (config : RetryConfig) : Nat → Except Fault MigrationRetryHandler
  | 0 => .ok (new config)
  | count + 1 => do (← attempted build config count).record_attempt build

theorem attempted_eq (build : Build) (config : RetryConfig) {count : Nat} (hcount : count < 2 ^ 32) :
    attempted build config count =
      .ok ⟨count, config.push_retry_max_attempts, config.push_retry_initial_delay_secs,
        config.push_retry_backoff_multiplier⟩ := by
  induction count with
  | zero => rfl
  | succ count ih =>
    rw [attempted, ih (by omega), result.ok_bind, record_attempt, build.word_of_lt hcount]
    rfl

end MigrationRetryHandler

end voip_client.migration

namespace voip_signaling.push

open checked voip_core.config

/-- The delay that `handle_retryable_failure` computes, in a given build. -/
def retry_after_ms_in (build : Build) (config : VoIPConfig) (retry_count : Nat) :
    Except Fault (Option Nat) :=
  if config.push_retry_max_attempts ≤ retry_count then .ok none
  else do
    let next_attempt ← build.word 32 (retry_count + 1)
    return some (← build.word 64 ((← config.retry_delay_secs_in build next_attempt) * 1000))

end voip_signaling.push

namespace voip_client.push_retry

open checked voip_core.config voip_core.types voip_core.proto.signaling
open migration voip_signaling.push voip_signaling.state voip_signaling.session

/-- In every build the three places that compute the delay before an attempt give the number that
the settings stand for. -/
structure ExactBackoff (config : RetryConfig) (n : Nat) : Prop where
  push : ∀ build now, (PushRetryHandler.retried build config now (n - 1) >>= (·.next_retry_delay build)) =
    .ok (config.backoff n)
  message : ∀ build now call_id peer_id reason,
    (PushRetryHandler.retried build config now (n - 1) >>=
      (·.create_push_retry_message build call_id peer_id reason)) =
      .ok {
        call_id
        caller_id := ""
        callee_id := peer_id
        reason := reason.number
        retry_attempt := n
        retry_after_ms := config.backoff n * 1000 }
  migration : ∀ build, (MigrationRetryHandler.attempted build config (n - 1) >>= (·.next_delay build)) =
    .ok (some (config.backoff n))
  server : ∀ build, retry_after_ms_in build config.toVoIPConfig (n - 1) = .ok (some (config.backoff n * 1000))
  sent : ∀ (state : AppState) call_id caller_id callee_id reason other_peer_id,
    state.config = config.toVoIPConfig →
    handle_retryable_failure state call_id caller_id callee_id reason other_peer_id (n - 1) = (do
      let _ ← send_to_peer other_peer_id
        (build_push_retry_message call_id caller_id callee_id reason n (config.backoff n * 1000))
      let _ ← get_peer other_peer_id)

section delays

variable {config : RetryConfig} {n : Nat} (hn : 1 ≤ n) (hmax : n ≤ config.push_retry_max_attempts)
include hn hmax

/-- The attempts are counted without overflow. -/
theorem word_attempt (build : Build) : build.word 32 (n - 1 + 1) = .ok n := by
  have hattempts := config.hattempts
  rw [Nat.sub_add_cancel hn]
  exact build.word_of_lt (by omega)

theorem push_delay_eq (build : Build) (now : Nat → Nat) :
    (PushRetryHandler.retried build config now (n - 1) >>= (·.next_retry_delay build)) =
      config.retry_delay_secs_in build n := by
  have hattempts := config.hattempts
  obtain ⟨last_retry, hretried⟩ :=
    PushRetryHandler.retried_eq build config now (show n - 1 < 2 ^ 32 by omega)
  rw [hretried, result.ok_bind, PushRetryHandler.next_retry_delay, word_attempt hn hmax]
  rfl

theorem push_message_eq (build : Build) (now : Nat → Nat) (call_id peer_id : String)
    (reason : CallEndReason) {delay : Nat} (hdelay : config.retry_delay_secs_in build n = .ok delay) :
    (PushRetryHandler.retried build config now (n - 1) >>=
      (·.create_push_retry_message build call_id peer_id reason)) =
      .ok {
        call_id
        caller_id := ""
        callee_id := peer_id
        reason := reason.number
        retry_attempt := n
        retry_after_ms := delay * 1000 % 2 ^ 64 } := by
  have hattempts := config.hattempts
  have hpush := push_delay_eq hn hmax build now
  obtain ⟨last_retry, hretried⟩ :=
    PushRetryHandler.retried_eq build config now (show n - 1 < 2 ^ 32 by omega)
  rw [hretried, result.ok_bind] at hpush ⊢
  rw [PushRetryHandler.create_push_retry_message, hpush, hdelay, result.ok_bind]
  simp only [word_attempt hn hmax]
  rfl

theorem migration_delay_eq (build : Build) :
    (MigrationRetryHandler.attempted build config (n - 1) >>= (·.next_delay build)) =
      some <$> config.retry_delay_secs_in build n := by
  have hattempts := config.hattempts
  rw [MigrationRetryHandler.attempted_eq build config (show n - 1 < 2 ^ 32 by omega), result.ok_bind,
    MigrationRetryHandler.next_delay, if_neg (show ¬ config.push_retry_max_attempts ≤ n - 1 by omega),
    VoIPConfig.retry_delay_secs_in, if_neg (show n ≠ 0 by omega)]
  simp only [map_bind]
  rfl

theorem server_delay_eq (build : Build) {delay : Nat}
    (hdelay : config.retry_delay_secs_in build n = .ok delay) :
    retry_after_ms_in build config.toVoIPConfig (n - 1) = some <$> build.word 64 (delay * 1000) := by
  rw [retry_after_ms_in, if_neg (show ¬ config.push_retry_max_attempts ≤ n - 1 by omega),
    word_attempt hn hmax, result.ok_bind, hdelay]
  rfl

theorem server_sends (state : AppState) (call_id caller_id callee_id : String) (reason : Int)
    (other_peer_id : String) (hstate : state.config = config.toVoIPConfig) :
    handle_retryable_failure state call_id caller_id callee_id reason other_peer_id (n - 1) = (do
      let _ ← send_to_peer other_peer_id (build_push_retry_message call_id caller_id callee_id reason n
        (config.retry_delay_secs n * 1000 % 2 ^ 64))
      let _ ← get_peer other_peer_id) := by
  rw [handle_retryable_failure, hstate,
    if_neg (show ¬ config.push_retry_max_attempts ≤ n - 1 by omega)]
  simp only [Nat.sub_add_cancel hn]

end delays

/-- Backoff is exact just where the power and the milliseconds are numbers of 64 bits. -/
theorem exactBackoff_iff (config : RetryConfig) (n : Nat) (hn : 1 ≤ n)
    (hmax : n ≤ config.push_retry_max_attempts) :
    ExactBackoff config n ↔
      config.push_retry_backoff_multiplier ^ (n - 1) < 2 ^ 64 ∧
      config.push_retry_initial_delay_secs * config.push_retry_backoff_multiplier ^ (n - 1) * 1000 <
        2 ^ 64 := by
  have hattempt : n ≠ 0 := by omega
  constructor
  · intro hexact
    -- What a build with overflow checks computes without a panic has stayed in its words.
    have hpush := (push_delay_eq hn hmax .checks fun _ => 0).symm.trans (hexact.push .checks fun _ => 0)
    have hserver := (server_delay_eq hn hmax .checks hpush).symm.trans (hexact.server .checks)
    obtain ⟨word, hword, _⟩ := result.map_eq_ok.1 hserver
    exact ⟨(retry_delay_secs_in_checks hattempt hpush).1.1, (Build.checks_word_eq_ok.1 hword).1⟩
  · rintro ⟨hpower, hms⟩
    have hms : config.backoff n * 1000 < 2 ^ 64 := hms
    have hfits : config.BackoffFits n := ⟨hpower, by omega⟩
    have hdelay (build : Build) := retry_delay_secs_in_of_fits build hattempt hfits
    refine ⟨?_, ?_, ?_, ?_, ?_⟩
    · intro build now
      rw [push_delay_eq hn hmax, hdelay]
    · intro build now call_id peer_id reason
      rw [push_message_eq hn hmax build now call_id peer_id reason (hdelay build),
        Nat.mod_eq_of_lt hms]
    · intro build
      rw [migration_delay_eq hn hmax, hdelay]
      rfl
    · intro build
      rw [server_delay_eq hn hmax build (hdelay build), build.word_of_lt hms]
      rfl
    · intro state call_id caller_id callee_id reason other_peer_id hstate
      rw [server_sends hn hmax state _ _ _ _ _ hstate,
        retry_delay_secs_eq_backoff hattempt hfits.2, Nat.mod_eq_of_lt hms]

def default_retries : RetryConfig :=
  { VoIPConfig.default with
    push_retry_enabled := true
    hdelay := by decide
    hattempts := by decide
    hmultiplier := by decide }

theorem default_third_attempt_exact : ExactBackoff default_retries 3 ∧ default_retries.backoff 3 = 45 :=
  ⟨(exactBackoff_iff default_retries 3 (by decide) (by decide)).2 (by decide), by decide⟩

def tenfold_retries : RetryConfig :=
  { VoIPConfig.default with
    push_retry_max_attempts := 20
    push_retry_backoff_multiplier := 10
    push_retry_enabled := true
    hdelay := by decide
    hattempts := by decide
    hmultiplier := by decide }

/-- With delays that grow tenfold the milliseconds of the 17th attempt no longer fit. -/
theorem not_exactBackoff_tenfold :
    retry_after_ms_in .checks tenfold_retries.toVoIPConfig 16 = .error .overflow ∧
      retry_after_ms_in .wraps tenfold_retries.toVoIPConfig 16 = .ok (some 13106511852580896768) ∧
      tenfold_retries.backoff 17 * 1000 = 50000000000000000000 ∧ ¬ ExactBackoff tenfold_retries 17 := by
  have hchecks : retry_after_ms_in .checks tenfold_retries.toVoIPConfig 16 = .error .overflow := by decide
  refine ⟨hchecks, by decide, by decide, fun hexact => ?_⟩
  cases hchecks.symm.trans (hexact.server .checks)

end voip_client.push_retry
