import Mathlib.Algebra.Group.Nat.Defs
import Mathlib.Data.List.AList

namespace voip_signaling.rate_limit

structure BucketConfig where
  max_tokens : Nat
  refill_amount : Nat
  refill_interval_ms : Nat
  deriving DecidableEq, Repr

namespace BucketConfig

def CALLS : BucketConfig := ⟨10, 10, 60000⟩
def REGISTRATIONS : BucketConfig := ⟨6, 6, 60000⟩
def WS_MESSAGES : BucketConfig := ⟨30, 30, 1000⟩

end BucketConfig

/-- The token bucket of one key. Tokens are whole numbers; instants are nanoseconds. -/
structure Bucket where
  tokens : Nat
  last_refill : Nat
  config : BucketConfig
  deriving DecidableEq, Repr

def NANOS_PER_MILLI : Nat := 1000000

/-- The time between two readings of the clock, by `as_millis` and cut to 64 bits. -/
def elapsed_ms (since now : Nat) : Nat := (now - since) / NANOS_PER_MILLI % 2 ^ 64

namespace Bucket

def new (config : BucketConfig) (now : Nat) : Bucket := ⟨config.max_tokens, now, config⟩

def refill (bucket : Bucket) (now : Nat) : Bucket :=
  let elapsed := elapsed_ms bucket.last_refill now
  if bucket.config.refill_interval_ms ≤ elapsed then
    let intervals := elapsed / bucket.config.refill_interval_ms
    let added := intervals * bucket.config.refill_amount
    { bucket with tokens := min (bucket.tokens + added) bucket.config.max_tokens, last_refill := now }
  else bucket

def try_consume (bucket : Bucket) (count now : Nat) : Bool × Bucket :=
  let bucket := bucket.refill now
  if count ≤ bucket.tokens then (true, { bucket with tokens := bucket.tokens - count })
  else (false, bucket)

end Bucket

structure RateLimitConfig where
  calls : BucketConfig
  registrations : BucketConfig
  ws_messages : BucketConfig
  max_entries : Nat

def RateLimitConfig.default : RateLimitConfig where
  calls := .CALLS
  registrations := .REGISTRATIONS
  ws_messages := .WS_MESSAGES
  max_entries := 50000

inductive Action where
  | Call
  | Registration
  | WsMessage
  deriving DecidableEq, Repr

abbrev Buckets := AList (fun _ : String => Bucket)

structure RateLimiter where
  calls : Buckets
  registrations : Buckets
  ws_messages : Buckets
  config : RateLimitConfig

/-- The shared body of the three checks: fetch or create the bucket, take one token. A bucket that
is created reads the clock for itself, before its refill reads it again. -/
def check_bucket (buckets : Buckets) (config : BucketConfig) (peer_id : String) (created now : Nat) :
    Bool × Buckets :=
  let bucket := (buckets.lookup peer_id).getD (Bucket.new config created)
  let (allowed, bucket) := bucket.try_consume 1 now
  (allowed, buckets.insert peer_id bucket)

/-- The overflow loop of `cleanup_map`. The key that a hash map yields first is
arbitrary, so `next_key` chooses it. -/
def evict_overflow (next_key : Buckets → Option String) (max : Nat) : Nat → Buckets → Buckets
  | 0, map => map
  | fuel + 1, map =>
    if max < map.entries.length then
      match next_key map with
      | some key => evict_overflow next_key max fuel (map.erase key)
      | none => map
    else map

def retained (now : Nat) (bucket : Bucket) : Bool :=
  elapsed_ms bucket.last_refill now < bucket.config.refill_interval_ms * 2 % 2 ^ 64

def retain (keep : Bucket → Bool) (map : Buckets) : Buckets :=
  ⟨map.entries.filter fun entry => keep entry.2, map.nodupKeys.sublist List.filter_sublist⟩

def cleanup_map (next_key : Buckets → Option String) (now max : Nat) (map : Buckets) : Buckets :=
  let map := retain (retained now) map
  evict_overflow next_key max map.entries.length map

namespace RateLimiter

def new (config : RateLimitConfig) : RateLimiter := ⟨∅, ∅, ∅, config⟩

def check_call (limiter : RateLimiter) (peer_id : String) (created now : Nat) :
    Bool × RateLimiter :=
  let (allowed, calls) := check_bucket limiter.calls limiter.config.calls peer_id created now
  (allowed, { limiter with calls })

def check_registration (limiter : RateLimiter) (peer_id : String) (created now : Nat) :
    Bool × RateLimiter :=
  let (allowed, registrations) :=
    check_bucket limiter.registrations limiter.config.registrations peer_id created now
  (allowed, { limiter with registrations })

def check_ws_message (limiter : RateLimiter) (peer_id : String) (created now : Nat) :
    Bool × RateLimiter :=
  let (allowed, ws_messages) :=
    check_bucket limiter.ws_messages limiter.config.ws_messages peer_id created now
  (allowed, { limiter with ws_messages })

def check (limiter : RateLimiter) (peer_id : String) (action : Action) (created now : Nat) :
    Bool × RateLimiter :=
  match action with
  | .Call => limiter.check_call peer_id created now
  | .Registration => limiter.check_registration peer_id created now
  | .WsMessage => limiter.check_ws_message peer_id created now

def remove_peer (limiter : RateLimiter) (peer_id : String) : RateLimiter :=
  { limiter with
    calls := limiter.calls.erase peer_id
    registrations := limiter.registrations.erase peer_id
    ws_messages := limiter.ws_messages.erase peer_id }

def cleanup (next_key : Buckets → Option String) (limiter : RateLimiter) (now : Nat) : RateLimiter :=
  let max := limiter.config.max_entries
  { limiter with
    calls := cleanup_map next_key now max limiter.calls
    registrations := cleanup_map next_key now max limiter.registrations
    ws_messages := cleanup_map next_key now max limiter.ws_messages }

end RateLimiter

end voip_signaling.rate_limit
