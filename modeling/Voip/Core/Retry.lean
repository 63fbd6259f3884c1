import Voip.Core.Config
import Voip.Machine.Checked

namespace voip_core.config

open checked

/-- The settings as both sides read them for retries, each in the range of its type. -/
structure RetryConfig extends VoIPConfig where
  push_retry_enabled : Bool
  hdelay : push_retry_initial_delay_secs < 2 ^ 64
  hattempts : push_retry_max_attempts < 2 ^ 32
  hmultiplier : push_retry_backoff_multiplier < 2 ^ 32

/-- The delay before an attempt, in seconds, as a number of any size. -/
def VoIPConfig.backoff (config : VoIPConfig) (attempt : Nat) : Nat :=
  config.push_retry_initial_delay_secs * config.push_retry_backoff_multiplier ^ (attempt - 1)

/-- `retry_delay_secs` in a given build. The power overflows just when its value does. -/
def VoIPConfig.retry_delay_secs_in (build : Build) (config : VoIPConfig) (attempt : Nat) :
    Except Fault Nat :=
  if attempt = 0 then .ok 0
  else do
    let exponent := attempt - 1
    let multiplier := config.push_retry_backoff_multiplier
    build.word 64 (config.push_retry_initial_delay_secs * (← build.word 64 (multiplier ^ exponent)))

variable {config : VoIPConfig} {attempt : Nat}

/-- A build that wraps computes what the model of the server has. -/
theorem retry_delay_secs_wraps :
    config.retry_delay_secs_in .wraps attempt = .ok (config.retry_delay_secs attempt) := by
  unfold VoIPConfig.retry_delay_secs_in VoIPConfig.retry_delay_secs
  split
  · rfl
  · change Except.ok (_ * (_ % 2 ^ 64) % 2 ^ 64) = _
    rw [Nat.mul_mod_mod]

theorem retry_delay_secs_eq_backoff (hattempt : attempt ≠ 0) (hfits : config.backoff attempt < 2 ^ 64) :
    config.retry_delay_secs attempt = config.backoff attempt := by
  rw [VoIPConfig.retry_delay_secs, if_neg hattempt]
  exact Nat.mod_eq_of_lt hfits

/-- Every step of the computation stays in 64 bits. -/
def VoIPConfig.BackoffFits (config : VoIPConfig) (attempt : Nat) : Prop :=
  config.push_retry_backoff_multiplier ^ (attempt - 1) < 2 ^ 64 ∧ config.backoff attempt < 2 ^ 64

theorem retry_delay_secs_in_of_fits (build : Build) (hattempt : attempt ≠ 0)
    (hfits : config.BackoffFits attempt) :
    config.retry_delay_secs_in build attempt = .ok (config.backoff attempt) := by
  simp only [VoIPConfig.retry_delay_secs_in, if_neg hattempt, build.word_of_lt hfits.1]
  exact build.word_of_lt hfits.2

/-- A build with overflow checks gives the delay or panics. -/
theorem retry_delay_secs_in_checks {delay : Nat} (hattempt : attempt ≠ 0)
    (hdelay : config.retry_delay_secs_in .checks attempt = .ok delay) :
    config.BackoffFits attempt ∧ delay = config.backoff attempt := by
  rw [VoIPConfig.retry_delay_secs_in, if_neg hattempt] at hdelay
  obtain ⟨power, hpower, hproduct⟩ := result.bind_eq_ok.1 hdelay
  obtain ⟨hfits, rfl⟩ := Build.checks_word_eq_ok.1 hpower
  obtain ⟨hproductFits, rfl⟩ := Build.checks_word_eq_ok.1 hproduct
  exact ⟨⟨hfits, hproductFits⟩, rfl⟩

/-- Where the delay itself fits, no build gives another one. -/
theorem retry_delay_secs_in_eq_backoff {build : Build} {delay : Nat} (hattempt : attempt ≠ 0)
    (hfits : config.backoff attempt < 2 ^ 64)
    (hdelay : config.retry_delay_secs_in build attempt = .ok delay) :
    delay = config.backoff attempt := by
  cases build with
  | checks => exact (retry_delay_secs_in_checks hattempt hdelay).2
  | wraps =>
    rw [retry_delay_secs_wraps, retry_delay_secs_eq_backoff hattempt hfits] at hdelay
    exact (Except.ok.inj hdelay).symm

end voip_core.config
