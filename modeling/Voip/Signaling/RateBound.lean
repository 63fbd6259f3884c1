import Voip.Signaling.Pacing
import Voip.Signaling.Reference

namespace voip_signaling.server

open async state session rate_limit wire

variable {state : AppState} {sys next : System} {event : Event}

/-- The bucket of a peer is as the limiter builds them, under the given configuration. -/
structure Paced (rate_limits : RateLimitConfig) (kind : rate_limit.Action) (p : String) (sys : System) :
    Prop where
  config : sys.server.inner.rate_limiter.config = rate_limits
  within : ∀ bucket ∈ sys.bucket kind p, bucket.Within (rate_limits.bucket kind) sys.server.instant

section Run

variable {rate_limits : RateLimitConfig} {kind : rate_limit.Action} {p : String}

theorem Paced.init : Paced rate_limits kind p (System.init rate_limits state) where
  config := rfl
  within := by cases kind <;> simp [System.bucket, System.init, InnerState.new, RateLimiter.new,
    RateLimiter.bucket, RateLimiter.buckets]

theorem Paced.step (hsys : Paced rate_limits kind p sys) (hstep : server.step state sys event = some next) :
    Paced rate_limits kind p next := by
  obtain ⟨hinstant, hconfig, hlimited⟩ := paces_of_step hstep kind p
  rw [hsys.config] at hconfig hlimited
  refine ⟨hconfig, fun bucket hbucket => ?_⟩
  obtain ⟨hsame, htokens, hlast⟩ := hlimited.within hsys.within bucket hbucket
  exact ⟨hsame, htokens, hlast.trans hinstant⟩

/-- The budget of a window that began at a given instant. -/
def Spends (rate_limits : RateLimitConfig) (kind : rate_limit.Action) (p : String) (since spent : Nat)
    (sys : System) : Prop :=
  Paced rate_limits kind p sys ∧ since ≤ sys.server.instant ∧
    (rate_limits.bucket kind).params.Budget since sys.server.instant spent
      ((sys.bucket kind p).map Bucket.level)

theorem Spends.step {since spent : Nat} (hsys : Spends rate_limits kind p since spent sys)
    (hfull : drops_full sys.server.instant (sys.bucket kind p) (next.bucket kind p) = true)
    (hstep : server.step state sys event = some next) :
    Spends rate_limits kind p since (spent + (allows kind p sys event).toNat) next := by
  obtain ⟨hpaced, hsince, hbudget⟩ := hsys
  obtain ⟨hinstant, -, hlimited⟩ := paces_of_step hstep kind p
  rw [hpaced.config] at hlimited
  have hpaid := hlimited.budget hpaced.within hsince hfull hbudget
  exact ⟨hpaced.step hstep, hsince.trans hinstant, hpaid.later hinstant⟩

theorem Spends.start (hsys : Paced rate_limits kind p sys) :
    Spends rate_limits kind p sys.server.instant 0 sys := by
  refine ⟨hsys, Nat.le_refl _, token_bucket.Params.Budget.start ?_⟩
  intro level hlevel
  obtain ⟨bucket, hbucket, rfl⟩ := Option.map_eq_some_iff.mp hlevel
  exact (hsys.within bucket hbucket).tokens_le

theorem Spends.spent_le {since spent : Nat} (hsys : Spends rate_limits kind p since spent sys) :
    spent ≤ 2 * (rate_limits.bucket kind).max_tokens +
      (rate_limits.bucket kind).params.grant (sys.server.instant - since) := by
  obtain ⟨hpaced, -, hbudget⟩ := hsys
  refine hbudget.spent_le ?_
  intro level hlevel
  obtain ⟨bucket, hbucket, rfl⟩ := Option.map_eq_some_iff.mp hlevel
  exact (hpaced.within bucket hbucket).last_refill_le

end Run

/-- In every window of a run in which the peer's bucket is dropped only when a refill would
fill it, the allowed actions are bounded by two full buckets and what the window refills. -/
theorem allowed_le_of_full_drops (state : AppState) (rate_limits : RateLimitConfig)
    (kind : rate_limit.Action) (p : String) (before window : List Event) (start finish : System)
    (hbefore : async.exec (step state) (System.init rate_limits state) before = some start)
    (hwindow : async.exec (step state) start window = some finish)
    (hfull : Along (step state) (fun sys _ next =>
      drops_full sys.server.instant (sys.bucket kind p) (next.bucket kind p)) start window)
    (length : Nat) (hlength : finish.server.instant ≤ start.server.instant + length) :
    tally (step state) (allows kind p) start window ≤ 2 * (rate_limits.bucket kind).max_tokens +
      (rate_limits.bucket kind).refill_amount *
        (length / (NANOS_PER_MILLI * (rate_limits.bucket kind).refill_interval_ms)) := by
  have hstart : Paced rate_limits kind p start :=
    exec_invariant (fun _ _ _ hsys hstep => hsys.step hstep) Paced.init hbefore
  have hspends := hfull.tally (I := Spends rate_limits kind p start.server.instant)
    (fun _ _ _ _ hsys hfull hstep => hsys.step hfull hstep) (Spends.start hstart) hwindow
  have hgrant := (rate_limits.bucket kind).params.grant_mono
    (Nat.sub_le_iff_le_add'.mpr hlength)
  have hspent := hspends.spent_le
  rw [Nat.zero_add] at hspent
  rw [Nat.mul_comm (rate_limits.bucket kind).refill_amount]
  exact hspent.trans (Nat.add_le_add_left hgrant _)

/-- Alice registers twice, and a second later the session closes. -/
def alice_registers_and_leaves : List Event :=
  exchange 1 type_id.PEER_REGISTER (proto.string 1 "alice") 6 ++
    exchange 1 type_id.PEER_REGISTER (proto.string 1 "alice") 6 ++
    [.elapse 1000000000, .close 1] ++ List.replicate 4 (.receive_loop 1)

/-- The session's cleanup drops a bucket that a refill would fill. -/
theorem allowed_le_of_alice :
    tally (step .reference) (allows .WsMessage "alice") .alice_and_bob alice_registers_and_leaves ≤
      2 * BucketConfig.WS_MESSAGES.max_tokens +
        BucketConfig.WS_MESSAGES.refill_amount *
          (1000000000 / (NANOS_PER_MILLI * BucketConfig.WS_MESSAGES.refill_interval_ms)) := by
  have hinstant : ((async.exec (step .reference) .alice_and_bob alice_registers_and_leaves).map
      fun finish => finish.server.instant) = some 1000000000 := by
    decide +kernel
  obtain ⟨finish, hfinish, hlength⟩ := Option.map_eq_some_iff.mp hinstant
  refine allowed_le_of_full_drops .reference .default .WsMessage "alice" alice_and_bob_connect _ _ finish
    (exec_alice_and_bob_connect []) hfinish ?_ 1000000000 ?_
  · decide +kernel
  · rw [hlength]
    exact Nat.le_add_left ..

/-- Alice registers six times, unregisters, registers six times, unregisters and registers
again. After an unregistration the receive loop has no holder to limit the messages of. -/
def alice_registers_again_and_again : List Event :=
  let registers := exchange 1 type_id.PEER_REGISTER (proto.string 1 "alice")
  let unregisters := exchange 1 type_id.PEER_UNREGISTER (proto.string 1 "alice") 4
  (List.replicate 6 (registers 6)).flatten ++ unregisters ++
    registers 5 ++ (List.replicate 5 (registers 6)).flatten ++ unregisters ++ registers 5

/-- Thirteen registrations are allowed in no time. -/
theorem not_allowed_le_of_unregistrations :
    async.exec (step .reference) (System.init .default .reference) alice_and_bob_connect =
        some .alice_and_bob ∧
      ((async.exec (step .reference) .alice_and_bob alice_registers_again_and_again).map
        fun finish => finish.server.instant) = some 0 ∧
      ¬ tally (step .reference) (allows .Registration "alice") .alice_and_bob
          alice_registers_again_and_again ≤
        2 * BucketConfig.REGISTRATIONS.max_tokens +
          BucketConfig.REGISTRATIONS.refill_amount *
            (0 / (NANOS_PER_MILLI * BucketConfig.REGISTRATIONS.refill_interval_ms)) := by
  refine ⟨exec_alice_and_bob_connect [], ?_, ?_⟩
  · decide +kernel
  · decide +kernel

end voip_signaling.server
