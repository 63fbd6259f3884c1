import Voip.Signaling.RateLimit
import Voip.TokenBucket.Budget

namespace voip_signaling.rate_limit

open token_bucket

def RateLimitConfig.bucket (config : RateLimitConfig) : Action → BucketConfig
  | .Call => config.calls
  | .Registration => config.registrations
  | .WsMessage => config.ws_messages

def RateLimiter.buckets (limiter : RateLimiter) : Action → Buckets
  | .Call => limiter.calls
  | .Registration => limiter.registrations
  | .WsMessage => limiter.ws_messages

/-- The bucket that limits one kind of action of a peer. -/
def RateLimiter.bucket (limiter : RateLimiter) (kind : Action) (p : String) : Option Bucket :=
  (limiter.buckets kind).lookup p

/-- What an operation can do to one bucket, and whether it allows an action from it. -/
inductive Limited (config : BucketConfig) (now : Nat) : Option Bucket → Bool → Option Bucket → Prop where
  | kept (bucket : Option Bucket) : Limited config now bucket false bucket
  | checked (bucket : Option Bucket) :
    Limited config now bucket ((bucket.getD (.new config now)).try_consume 1 now).1
      (some ((bucket.getD (.new config now)).try_consume 1 now).2)
  | dropped (bucket : Option Bucket) : Limited config now bucket false none

section Limiter

variable (limiter : RateLimiter) (created now : Nat) (kind : Action) (p : String)

theorem check_eq (peer_id : String) (action : Action) :
    (limiter.check peer_id action created now).1 =
        (check_bucket (limiter.buckets action) (limiter.config.bucket action) peer_id created now).1 ∧
      (limiter.check peer_id action created now).2.config = limiter.config ∧
      (limiter.check peer_id action created now).2.buckets kind =
        if kind = action then
          (check_bucket (limiter.buckets action) (limiter.config.bucket action) peer_id created now).2
        else limiter.buckets kind := by
  cases action <;> cases kind <;> exact ⟨rfl, rfl, rfl⟩

theorem check_fst (peer_id : String) (action : Action) :
    (limiter.check peer_id action created now).1 = (((limiter.bucket action peer_id).getD
      (.new (limiter.config.bucket action) created)).try_consume 1 now).1 :=
  (check_eq limiter created now action peer_id action).1

/-- A check takes from the bucket of its own kind and peer. -/
theorem bucket_check (peer_id : String) (action : Action) :
    (limiter.check peer_id action created now).2.bucket kind p =
      if action = kind ∧ peer_id = p then
        some (((limiter.bucket kind p).getD (.new (limiter.config.bucket kind) created)).try_consume 1 now).2
      else limiter.bucket kind p := by
  obtain ⟨-, -, hbuckets⟩ := check_eq limiter created now kind peer_id action
  unfold RateLimiter.bucket
  rw [hbuckets]
  split
  next hkind =>
    subst hkind
    by_cases hp : p = peer_id
    · subst hp
      simp [check_bucket]
    · simp [check_bucket, hp, Ne.symm hp]
  next hkind => rw [if_neg fun h => hkind h.1.symm]

theorem check_limited (peer_id : String) (action : Action) :
    Limited (limiter.config.bucket kind) now (limiter.bucket kind p)
      (decide (action = kind ∧ peer_id = p) && (limiter.check peer_id action now now).1)
      ((limiter.check peer_id action now now).2.bucket kind p) := by
  rw [bucket_check, check_fst]
  split
  next hown =>
    obtain ⟨rfl, rfl⟩ := hown
    simpa using Limited.checked (limiter.bucket action peer_id)
  next hother => simpa [hother] using Limited.kept (limiter.bucket kind p)

theorem bucket_remove_peer (peer_id : String) :
    (limiter.remove_peer peer_id).bucket kind p = if p = peer_id then none else limiter.bucket kind p := by
  have hbuckets : (limiter.remove_peer peer_id).buckets kind = (limiter.buckets kind).erase peer_id := by
    cases kind <;> rfl
  unfold RateLimiter.bucket
  rw [hbuckets]
  by_cases hp : p = peer_id
  · subst hp
    simp
  · simp [hp]

theorem remove_peer_limited (peer_id : String) :
    Limited (limiter.config.bucket kind) now (limiter.bucket kind p) false
      ((limiter.remove_peer peer_id).bucket kind p) := by
  rw [bucket_remove_peer]
  split
  · exact Limited.dropped _
  · exact Limited.kept _

theorem lookup_retain (keep : Bucket → Bool) (map : Buckets) :
    (retain keep map).lookup p = (map.lookup p).filter keep := by
  ext bucket
  rw [Option.filter_eq_some_iff]
  change bucket ∈ (retain keep map).lookup p ↔ bucket ∈ map.lookup p ∧ _
  rw [AList.mem_lookup_iff, AList.mem_lookup_iff, retain, List.mem_filter]

theorem lookup_evict_overflow {next_key : Buckets → Option String} {max fuel : Nat} {map : Buckets}
    {bucket : Bucket} (hfound : (evict_overflow next_key max fuel map).lookup p = some bucket) :
    map.lookup p = some bucket := by
  induction fuel generalizing map with
  | zero => exact hfound
  | succ fuel ih =>
    unfold evict_overflow at hfound
    split at hfound
    next =>
      split at hfound
      next key _ =>
        have herased := ih hfound
        by_cases hp : p = key
        · rw [hp, AList.lookup_erase] at herased
          contradiction
        · rwa [AList.lookup_erase_ne hp] at herased
      next => exact hfound
    next => exact hfound

theorem buckets_cleanup (next_key : Buckets → Option String) :
    (limiter.cleanup next_key now).buckets kind =
      cleanup_map next_key now limiter.config.max_entries (limiter.buckets kind) := by
  cases kind <;> rfl

/-- The periodic cleanup keeps a bucket as it is or drops it. -/
theorem cleanup_limited (next_key : Buckets → Option String) :
    Limited (limiter.config.bucket kind) now (limiter.bucket kind p) false
      ((limiter.cleanup next_key now).bucket kind p) := by
  unfold RateLimiter.bucket
  rw [buckets_cleanup]
  cases hfound : (cleanup_map next_key now limiter.config.max_entries (limiter.buckets kind)).lookup p with
  | none => exact Limited.dropped _
  | some bucket =>
    have hretained := lookup_evict_overflow p hfound
    rw [lookup_retain, Option.filter_eq_some_iff] at hretained
    rw [hretained.1]
    exact Limited.kept _

/-- The buckets that the cleanup retains need no eviction. -/
def RateLimiter.Fits (limiter : RateLimiter) (now : Nat) : Prop :=
  ∀ kind, (retain (retained now) (limiter.buckets kind)).entries.length ≤ limiter.config.max_entries

/-- As long as the buckets fit, the periodic cleanup drops a bucket for its age only. -/
theorem bucket_cleanup (next_key : Buckets → Option String) (hfits : limiter.Fits now) :
    (limiter.cleanup next_key now).bucket kind p = (limiter.bucket kind p).filter (retained now) := by
  have hkept : ∀ fuel, evict_overflow next_key limiter.config.max_entries fuel
      (retain (retained now) (limiter.buckets kind)) = retain (retained now) (limiter.buckets kind) := by
    intro fuel
    cases fuel with
    | zero => rfl
    | succ fuel => exact if_neg (Nat.not_lt_of_le (hfits kind))
  unfold RateLimiter.bucket
  rw [buckets_cleanup, cleanup_map, hkept, lookup_retain]

end Limiter

def BucketConfig.params (config : BucketConfig) : Params where
  capacity := config.max_tokens
  amount := config.refill_amount
  interval := NANOS_PER_MILLI * config.refill_interval_ms

def Bucket.level (bucket : Bucket) : Level := ⟨bucket.tokens, bucket.last_refill⟩

/-- A bucket as the limiter builds them. -/
structure Bucket.Within (config : BucketConfig) (now : Nat) (bucket : Bucket) : Prop where
  config_eq : bucket.config = config
  tokens_le : bucket.tokens ≤ config.max_tokens
  last_refill_le : bucket.last_refill ≤ now

section Budget

variable {config : BucketConfig} {now since spent : Nat} {bucket : Bucket}

theorem Bucket.Within.new : (Bucket.new config now).Within config now :=
  ⟨rfl, Nat.le_refl _, Nat.le_refl _⟩

/-- A refill adds at most what the time since the last one is worth. -/
theorem Bucket.refill_eq_or (hwithin : bucket.Within config now) :
    bucket.refill now = bucket ∨
      ∃ tokens ≤ config.max_tokens, bucket.refill now = ⟨tokens, now, config⟩ ∧
        tokens ≤ bucket.tokens + config.params.grant (now - bucket.last_refill) := by
  obtain ⟨rfl, htokens, hlast⟩ := hwithin
  unfold Bucket.refill
  dsimp only
  split
  next =>
    refine .inr ⟨_, Nat.min_le_right .., rfl, ?_⟩
    have helapsed : elapsed_ms bucket.last_refill now / bucket.config.refill_interval_ms ≤
        (now - bucket.last_refill) / (NANOS_PER_MILLI * bucket.config.refill_interval_ms) := by
      rw [← Nat.div_div_eq_div_mul]
      exact Nat.div_le_div_right (Nat.mod_le _ _)
    have hadded := Nat.mul_le_mul_right bucket.config.refill_amount helapsed
    exact Nat.le_trans (Nat.min_le_left ..) (Nat.add_le_add_left hadded _)
  next => exact .inl rfl

theorem Bucket.Within.refill (hwithin : bucket.Within config now) :
    (bucket.refill now).Within config now := by
  obtain heq | ⟨tokens, hfits, heq, -⟩ := refill_eq_or hwithin
  · rwa [heq]
  · rw [heq]
    exact ⟨rfl, hfits, Nat.le_refl _⟩

theorem Bucket.Within.try_consume (hwithin : bucket.Within config now) :
    (bucket.try_consume 1 now).2.Within config now := by
  obtain ⟨hconfig, htokens, hlast⟩ := hwithin.refill
  unfold Bucket.try_consume
  dsimp only
  split
  next => exact ⟨hconfig, by dsimp only; omega, hlast⟩
  next => exact ⟨hconfig, htokens, hlast⟩

theorem Bucket.budget_refill (hwithin : bucket.Within config now) (hsince : since ≤ now)
    (hbudget : config.params.Budget since now spent (some bucket.level)) :
    config.params.Budget since now spent (some (bucket.refill now).level) := by
  obtain heq | ⟨tokens, hfits, heq, hgrant⟩ := refill_eq_or hwithin
  · rwa [heq]
  · rw [heq]
    exact hbudget.grant hsince hwithin.last_refill_le hfits hgrant

theorem Bucket.budget_try_consume (hwithin : bucket.Within config now) (hsince : since ≤ now)
    (hbudget : config.params.Budget since now spent (some bucket.level)) :
    config.params.Budget since now (spent + (bucket.try_consume 1 now).1.toNat)
      (some (bucket.try_consume 1 now).2.level) := by
  have hrefilled := budget_refill hwithin hsince hbudget
  unfold Bucket.try_consume
  dsimp only
  split
  next hpositive => exact hrefilled.spend hpositive
  next => exact hrefilled

/-- Dropping a bucket loses nothing when a refill would have filled it. -/
def drops_full (now : Nat) : Option Bucket → Option Bucket → Bool
  | some bucket, none => (bucket.refill now).tokens = bucket.config.max_tokens
  | _, _ => true

theorem Bucket.budget_drop (hwithin : bucket.Within config now)
    (hbudget : config.params.Budget since now spent (some bucket.level))
    (hfull : (bucket.refill now).tokens = bucket.config.max_tokens) :
    config.params.Budget since now spent none := by
  refine hbudget.drop hwithin.last_refill_le ?_
  rw [hwithin.config_eq] at hfull
  obtain heq | ⟨tokens, -, heq, hgrant⟩ := refill_eq_or hwithin
  · rw [heq] at hfull
    exact Nat.le_trans (Nat.le_of_eq hfull.symm) (Nat.le_add_right ..)
  · rw [heq] at hfull
    exact Nat.le_trans (Nat.le_of_eq hfull.symm) hgrant

namespace Limited

variable {before after : Option Bucket} {allowed : Bool}

theorem within (hlimited : Limited config now before allowed after)
    (hwithin : ∀ bucket ∈ before, bucket.Within config now) :
    ∀ bucket ∈ after, bucket.Within config now := by
  cases hlimited with
  | kept => exact hwithin
  | checked =>
    rintro bucket hbucket
    cases hbucket
    cases before with
    | none => exact Bucket.Within.new.try_consume
    | some bucket => exact (hwithin bucket rfl).try_consume
  | dropped => simp

/-- An allowed action is paid for from the budget. -/
theorem budget (hlimited : Limited config now before allowed after)
    (hwithin : ∀ bucket ∈ before, bucket.Within config now) (hsince : since ≤ now)
    (hfull : drops_full now before after = true)
    (hbudget : config.params.Budget since now spent (before.map Bucket.level)) :
    config.params.Budget since now (spent + allowed.toNat) (after.map Bucket.level) := by
  cases hlimited with
  | kept => exact hbudget
  | checked =>
    cases before with
    | none => exact Bucket.budget_try_consume .new hsince (hbudget.fill hsince)
    | some bucket => exact Bucket.budget_try_consume (hwithin bucket rfl) hsince hbudget
  | dropped =>
    cases before with
    | none => exact hbudget
    | some bucket => exact Bucket.budget_drop (hwithin bucket rfl) hbudget (of_decide_eq_true hfull)

end Limited

end Budget

end voip_signaling.rate_limit
