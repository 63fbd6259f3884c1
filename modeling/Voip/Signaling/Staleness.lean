import Voip.Machine.History
import Voip.Signaling.Buckets

namespace voip_signaling.rate_limit

/-- A bucket that two intervals have passed by is full again. -/
structure BucketConfig.Refills (config : BucketConfig) : Prop where
  interval_pos : 0 < config.refill_interval_ms
  interval_fits : 2 * config.refill_interval_ms < 2 ^ 64
  amount_le : config.max_tokens ≤ 2 * config.refill_amount

/-- A call of the limiter with its readings of the clock. A check reads it once if it creates the
bucket, and once more for the refill. -/
inductive Call where
  | check (peer_id : String) (action : Action) (created now : Nat)
  | cleanup (now : Nat)
  deriving DecidableEq, Repr

namespace Call

def is_check : Call → Bool
  | .check .. => true
  | .cleanup _ => false

def first_reading : Call → Nat
  | .check _ _ created _ => created
  | .cleanup now => now

def last_reading : Call → Nat
  | .check _ _ _ now | .cleanup now => now

/-- Whether the call is a check of one kind of action of a peer. -/
def checks (kind : Action) (p : String) : Call → Bool
  | .check peer_id action _ _ => action = kind ∧ peer_id = p
  | .cleanup _ => false

end Call

/-- What the limiter answers to a call, a cleanup having no answer. -/
def step (next_key : Buckets → Option String) (limiter : RateLimiter) : Call → Option Bool × RateLimiter
  | .check peer_id action created now =>
    let (allowed, limiter) := limiter.check peer_id action created now
    (some allowed, limiter)
  | .cleanup now => (none, limiter.cleanup next_key now)

/-- The results of the checks of a timeline. -/
def results (next_key : Buckets → Option String) (limiter : RateLimiter) (timeline : List Call) : List Bool :=
  (machine.history (step next_key) limiter timeline).filterMap Prod.snd

/-- The readings of a timeline ascend from a given one, and fit into 64 bits as milliseconds. -/
def Timeline (since : Nat) : List Call → Prop
  | [] => True
  | call :: timeline => since ≤ call.first_reading ∧ call.first_reading ≤ call.last_reading ∧
      call.last_reading / NANOS_PER_MILLI < 2 ^ 64 ∧ Timeline call.last_reading timeline

/-- No map exceeds the number of entries that it may have. -/
def RateLimiter.HasRoom (limiter : RateLimiter) : Prop :=
  ∀ kind, (limiter.buckets kind).entries.length ≤ limiter.config.max_entries

/-- No map exceeds its number of entries while the calls of a timeline are made. -/
def HasRoomAlong (next_key : Buckets → Option String) (limiter : RateLimiter) (timeline : List Call) : Prop :=
  machine.Along (step next_key) (fun _ limiter _ => limiter.HasRoom) [] limiter timeline

/-- A check that creates a bucket for a peer it was made for before creates it at once: its two
readings of the clock show the same instant. -/
def RecreatesAtOnce (past : List (Call × Option Bool)) (limiter : RateLimiter) : Call → Prop
  | .check peer_id action created now => limiter.bucket action peer_id = none →
      (∃ entry ∈ past, entry.1.checks action peer_id = true) → created = now
  | .cleanup _ => True

section bucket

variable {config : BucketConfig} {now now' : Nat} {bucket : Bucket}

theorem elapsed_ms_eq {since : Nat} (hnow : now / NANOS_PER_MILLI < 2 ^ 64) :
    elapsed_ms since now = (now - since) / NANOS_PER_MILLI :=
  Nat.mod_eq_of_lt (Nat.lt_of_le_of_lt (Nat.div_le_div_right (Nat.sub_le ..)) hnow)

theorem Bucket.retained_iff (hrefills : config.Refills) (hconfig : bucket.config = config)
    (hnow : now / NANOS_PER_MILLI < 2 ^ 64) :
    retained now bucket = true ↔
      (now - bucket.last_refill) / NANOS_PER_MILLI < 2 * config.refill_interval_ms := by
  subst hconfig
  rw [retained, decide_eq_true_eq, elapsed_ms_eq hnow, Nat.mul_comm, Nat.mod_eq_of_lt hrefills.interval_fits]

/-- A new bucket has nothing to be refilled with. -/
theorem Bucket.refill_new (hrefills : config.Refills) : (Bucket.new config now).refill now = .new config now := by
  have hpos := hrefills.interval_pos
  simp only [Bucket.refill, Bucket.new, elapsed_ms, Nat.sub_self, Nat.zero_div, Nat.zero_mod]
  rw [if_neg (by omega)]

/-- A bucket that a cleanup would drop becomes like a new one with its next refill. -/
theorem Bucket.refill_of_stale (hrefills : config.Refills) (hconfig : bucket.config = config)
    (hnow : now / NANOS_PER_MILLI < 2 ^ 64) (hstale : retained now bucket = false) :
    bucket.refill now = .new config now := by
  have hpos := hrefills.interval_pos
  have hamount := hrefills.amount_le
  have hlong : ¬ (now - bucket.last_refill) / NANOS_PER_MILLI < 2 * config.refill_interval_ms := by
    rw [← retained_iff hrefills hconfig hnow, hstale]
    exact Bool.false_ne_true
  subst hconfig
  have hintervals : 2 ≤ (now - bucket.last_refill) / NANOS_PER_MILLI / bucket.config.refill_interval_ms :=
    (Nat.le_div_iff_mul_le hpos).mpr (by omega)
  have hadded := Nat.mul_le_mul_right bucket.config.refill_amount hintervals
  simp only [Bucket.refill, Bucket.new, elapsed_ms_eq hnow]
  rw [if_pos (by omega), Nat.min_eq_right (by omega)]

/-- A check does not tell a bucket that a cleanup would drop from a missing one. -/
theorem try_consume_filter_retained (hrefills : config.Refills) (hnow : now / NANOS_PER_MILLI < 2 ^ 64)
    {found : Option Bucket} (hwithin : ∀ bucket ∈ found, bucket.Within config now) :
    ((found.filter (retained now)).getD (.new config now)).try_consume 1 now =
      (found.getD (.new config now)).try_consume 1 now := by
  cases found with
  | none => rfl
  | some bucket =>
    cases hretained : retained now bucket with
    | true => rw [Option.filter_some, hretained, if_pos rfl]
    | false =>
      have hrefill := Bucket.refill_of_stale hrefills (hwithin bucket rfl).config_eq hnow hretained
      rw [Option.filter_some, hretained, if_neg Bool.false_ne_true]
      simp only [Option.getD_none, Option.getD_some, Bucket.try_consume, hrefill, Bucket.refill_new hrefills]

/-- What a cleanup would drop, a later one would drop as well. -/
theorem filter_retained_later (hrefills : config.Refills) (hle : now ≤ now')
    (hnow : now' / NANOS_PER_MILLI < 2 ^ 64) {found : Option Bucket}
    (hwithin : ∀ bucket ∈ found, bucket.Within config now) :
    (found.filter (retained now)).filter (retained now') = found.filter (retained now') := by
  cases found with
  | none => rfl
  | some bucket =>
    have hconfig := (hwithin bucket rfl).config_eq
    have hretained := Bucket.retained_iff hrefills hconfig
      (Nat.lt_of_le_of_lt (Nat.div_le_div_right hle) hnow)
    have hretained' := Bucket.retained_iff hrefills hconfig hnow
    have hlonger : (now - bucket.last_refill) / NANOS_PER_MILLI ≤ (now' - bucket.last_refill) / NANOS_PER_MILLI :=
      Nat.div_le_div_right (Nat.sub_le_sub_right hle _)
    rw [Option.filter_some]
    split
    next => rfl
    next hdropped =>
      have hdropped' : ¬ retained now' bucket = true := fun hkept =>
        hdropped (hretained.mpr (Nat.lt_of_le_of_lt hlonger (hretained'.mp hkept)))
      rw [Option.filter_some, if_neg hdropped', Option.filter_none]

end bucket

/-- The buckets of a limiter are those of its configuration, up to an instant. -/
structure RateLimiter.Within (config : RateLimitConfig) (now : Nat) (limiter : RateLimiter) : Prop where
  config_eq : limiter.config = config
  buckets : ∀ kind p, ∀ bucket ∈ limiter.bucket kind p, bucket.Within (config.bucket kind) now

/-- Two limiters that cleanups at an instant would make the same, the second of them without a
cleanup so far. -/
structure Alike (config : RateLimitConfig) (past : List (Call × Option Bool)) (now : Nat)
    (limiter other : RateLimiter) : Prop where
  within : limiter.Within config now
  other_within : other.Within config now
  same : ∀ kind p, (limiter.bucket kind p).filter (retained now) = (other.bucket kind p).filter (retained now)
  covered : ∀ kind p, other.bucket kind p = none → limiter.bucket kind p = none
  checked : ∀ kind p, other.bucket kind p ≠ none → ∃ entry ∈ past, entry.1.checks kind p = true

section run

variable {config : RateLimitConfig} {past : List (Call × Option Bool)} {created now now' : Nat}
  {limiter other : RateLimiter}

theorem Alike.new (config : RateLimitConfig) : Alike config [] 0 (.new config) (.new config) := by
  have hempty : ∀ kind p, (RateLimiter.new config).bucket kind p = none := by
    intro kind p
    cases kind <;> rfl
  have hwithin : (RateLimiter.new config).Within config 0 := ⟨rfl, fun kind p => by simp [hempty]⟩
  exact ⟨hwithin, hwithin, fun _ _ => rfl, fun _ _ => id,
    fun kind p hfound => absurd (hempty kind p) hfound⟩

theorem RateLimiter.Within.later (hwithin : limiter.Within config now) (hle : now ≤ now') :
    limiter.Within config now' where
  config_eq := hwithin.config_eq
  buckets kind p bucket hbucket := by
    obtain ⟨hconfig, htokens, hlast⟩ := hwithin.buckets kind p bucket hbucket
    exact ⟨hconfig, htokens, hlast.trans hle⟩

theorem Alike.later (hrefills : ∀ kind, (config.bucket kind).Refills)
    (halike : Alike config past now limiter other) (hle : now ≤ now') (hnow : now' / NANOS_PER_MILLI < 2 ^ 64) :
    Alike config past now' limiter other :=
  { halike with
    within := halike.within.later hle
    other_within := halike.other_within.later hle
    same := fun kind p => by
      rw [← filter_retained_later (hrefills kind) hle hnow (halike.within.buckets kind p), halike.same,
        filter_retained_later (hrefills kind) hle hnow (halike.other_within.buckets kind p)] }

/-- Limiters that are alike try the same bucket, or one that a refill makes the same. -/
theorem Alike.try_consume (hrefills : ∀ kind, (config.bucket kind).Refills)
    (halike : Alike config past now limiter other) (hnow : now / NANOS_PER_MILLI < 2 ^ 64)
    {kind : Action} {p : String}
    (honce : limiter.bucket kind p = none →
      (∃ entry ∈ past, entry.1.checks kind p = true) → created = now) :
    ((limiter.bucket kind p).getD (.new (config.bucket kind) created)).try_consume 1 now =
      ((other.bucket kind p).getD (.new (config.bucket kind) created)).try_consume 1 now := by
  have hrefilled : ((limiter.bucket kind p).getD (.new (config.bucket kind) now)).try_consume 1 now =
      ((other.bucket kind p).getD (.new (config.bucket kind) now)).try_consume 1 now := by
    rw [← try_consume_filter_retained (hrefills kind) hnow (halike.within.buckets kind p), halike.same,
      try_consume_filter_retained (hrefills kind) hnow (halike.other_within.buckets kind p)]
  cases hother : other.bucket kind p with
  | none => rw [halike.covered kind p hother]
  | some kept =>
    rw [hother] at hrefilled
    cases hfound : limiter.bucket kind p with
    | none =>
      rw [hfound] at hrefilled
      have hchecked := halike.checked kind p (by simp [hother])
      rwa [honce hfound hchecked]
    | some bucket => rwa [hfound] at hrefilled

theorem RateLimiter.Within.check (hwithin : limiter.Within config now) (hle : created ≤ now) (peer_id : String)
    (action : Action) : (limiter.check peer_id action created now).2.Within config now where
  config_eq := (check_eq limiter created now action peer_id action).2.1.trans hwithin.config_eq
  buckets kind p := by
    rw [bucket_check, hwithin.config_eq]
    split
    · rintro bucket hbucket
      cases hbucket
      cases hfound : limiter.bucket kind p with
      | none => exact Bucket.Within.try_consume ⟨rfl, Nat.le_refl _, hle⟩
      | some found => exact (hwithin.buckets kind p found hfound).try_consume
    · exact hwithin.buckets kind p

theorem Alike.check (hrefills : ∀ kind, (config.bucket kind).Refills)
    (halike : Alike config past now limiter other) (hle : created ≤ now) (hnow : now / NANOS_PER_MILLI < 2 ^ 64)
    {peer_id : String} {action : Action} (honce : RecreatesAtOnce past limiter (.check peer_id action created now))
    (result : Option Bool) :
    (limiter.check peer_id action created now).1 = (other.check peer_id action created now).1 ∧
      Alike config (past ++ [(.check peer_id action created now, result)]) now
        (limiter.check peer_id action created now).2 (other.check peer_id action created now).2 := by
  have htried := halike.try_consume hrefills hnow honce
  constructor
  · rw [check_fst, check_fst, halike.within.config_eq, halike.other_within.config_eq, htried]
  · exact
      { within := halike.within.check hle peer_id action
        other_within := halike.other_within.check hle peer_id action
        same := fun kind p => by
          rw [bucket_check, bucket_check, halike.within.config_eq, halike.other_within.config_eq]
          split
          next hown =>
            obtain ⟨rfl, rfl⟩ := hown
            rw [htried]
          next => exact halike.same kind p
        covered := fun kind p hmissing => by
          rw [bucket_check] at hmissing ⊢
          split at hmissing
          · contradiction
          · rw [if_neg ‹_›]
            exact halike.covered kind p hmissing
        checked := fun kind p hfound => by
          rw [bucket_check] at hfound
          split at hfound
          next hown => exact ⟨_, List.mem_append_right _ (List.mem_singleton_self _), decide_eq_true hown⟩
          next =>
            obtain ⟨entry, hentry, hchecks⟩ := halike.checked kind p hfound
            exact ⟨entry, List.mem_append_left _ hentry, hchecks⟩ }

theorem RateLimiter.HasRoom.fits (hroom : limiter.HasRoom) (now : Nat) : limiter.Fits now :=
  fun kind => (List.length_filter_le ..).trans (hroom kind)

/-- A cleanup of one of two limiters leaves them alike. -/
theorem Alike.cleanup (halike : Alike config past now limiter other) (hroom : limiter.HasRoom)
    (next_key : Buckets → Option String) (result : Option Bool) :
    Alike config (past ++ [(.cleanup now, result)]) now (limiter.cleanup next_key now) other := by
  have hlimited := cleanup_limited limiter now
  rw [halike.within.config_eq] at hlimited
  exact
    { within := ⟨halike.within.config_eq, fun kind p =>
        (hlimited kind p next_key).within (halike.within.buckets kind p)⟩
      other_within := halike.other_within
      same := fun kind p => by
        rw [bucket_cleanup _ _ _ _ _ (hroom.fits now), Option.filter_filter, ← halike.same]
        simp
      covered := fun kind p hmissing => by
        rw [bucket_cleanup _ _ _ _ _ (hroom.fits now), halike.covered kind p hmissing, Option.filter_none]
      checked := fun kind p hfound => by
        obtain ⟨entry, hentry, hchecks⟩ := halike.checked kind p hfound
        exact ⟨entry, List.mem_append_left _ hentry, hchecks⟩ }

theorem results_check (next_key : Buckets → Option String) (limiter : RateLimiter) (peer_id : String)
    (action : Action) (created now : Nat) (timeline : List Call) :
    results next_key limiter (.check peer_id action created now :: timeline) =
      (limiter.check peer_id action created now).1 ::
        results next_key (limiter.check peer_id action created now).2 timeline := rfl

theorem results_cleanup (next_key : Buckets → Option String) (limiter : RateLimiter) (now : Nat)
    (timeline : List Call) :
    results next_key limiter (.cleanup now :: timeline) =
      results next_key (limiter.cleanup next_key now) timeline := rfl

/-- The checks of a timeline have the results that they have without its cleanups. -/
theorem Alike.results_eq (hrefills : ∀ kind, (config.bucket kind).Refills)
    (next_key next_key' : Buckets → Option String)
    {timeline : List Call} (halike : Alike config past now limiter other) (htimeline : Timeline now timeline)
    (hroom : machine.Along (step next_key) (fun _ limiter _ => limiter.HasRoom) past limiter timeline)
    (honce : machine.Along (step next_key) RecreatesAtOnce past limiter timeline) :
    results next_key limiter timeline = results next_key' other (timeline.filter Call.is_check) := by
  induction timeline generalizing past now limiter other with
  | nil => rfl
  | cons call timeline ih =>
    obtain ⟨hfirst, hlast, hnow, hlater⟩ := htimeline
    replace halike := halike.later hrefills (hfirst.trans hlast) hnow
    cases call with
    | check peer_id action created now =>
      have hle : created ≤ now := hlast
      have hat : Alike config past now limiter other := halike
      obtain ⟨hresult, hnext⟩ := hat.check hrefills hle hnow honce.1 _
      rw [List.filter_cons_of_pos rfl, results_check, results_check, hresult,
        ih hnext hlater hroom.2 honce.2]
    | cleanup now =>
      rw [List.filter_cons_of_neg Bool.false_ne_true, results_cleanup]
      exact ih (halike.cleanup hroom.1 next_key _) hlater hroom.2 honce.2

end run

/-- Two timelines with the same checks have the same results, whatever cleanups they contain, if the
checks create again at once what the cleanups dropped. -/
theorem results_without_cleanups (config : RateLimitConfig) (hrefills : ∀ kind, (config.bucket kind).Refills)
    (next_key next_key' : Buckets → Option String) (timeline timeline' : List Call)
    (hchecks : timeline.filter Call.is_check = timeline'.filter Call.is_check)
    (htimeline : Timeline 0 timeline) (htimeline' : Timeline 0 timeline')
    (hroom : HasRoomAlong next_key (.new config) timeline)
    (hroom' : HasRoomAlong next_key' (.new config) timeline')
    (honce : machine.Along (step next_key) RecreatesAtOnce [] (.new config) timeline)
    (honce' : machine.Along (step next_key') RecreatesAtOnce [] (.new config) timeline') :
    results next_key (.new config) timeline = results next_key' (.new config) timeline' := by
  rw [(Alike.new config).results_eq hrefills next_key next_key htimeline hroom honce, hchecks,
    (Alike.new config).results_eq hrefills next_key' next_key htimeline' hroom' honce']

/-- The second call finds a new bucket in the first timeline, and a stale one in the second. -/
theorem results_without_cleanup_at_two_minutes :
    results (fun _ => none) (.new .default)
        [.check "alice" .Call 0 100, .cleanup 120000000100, .check "alice" .Call 150000000000 150000000000] =
      results (fun _ => none) (.new .default)
        [.check "alice" .Call 0 100, .check "alice" .Call 150000000000 150000000000] := by
  refine results_without_cleanups .default (fun kind => ?_) _ _ _ _ rfl ?_ ?_ ?_ ?_ ?_ ?_
  · cases kind <;> exact ⟨by decide, by decide, by decide⟩
  · simp [Timeline, Call.first_reading, Call.last_reading, NANOS_PER_MILLI]
  · simp [Timeline, Call.first_reading, Call.last_reading, NANOS_PER_MILLI]
  · refine ⟨fun kind => ?_, fun kind => ?_, fun kind => ?_, trivial⟩ <;> cases kind <;> decide +kernel
  · refine ⟨fun kind => ?_, fun kind => ?_, trivial⟩ <;> cases kind <;> decide +kernel
  · refine ⟨?_, trivial, fun _ _ => rfl, trivial⟩
    rintro - ⟨entry, hentry, -⟩
    contradiction
  · refine ⟨?_, fun _ _ => rfl, trivial⟩
    rintro - ⟨entry, hentry, -⟩
    contradiction

/-- One message a second. -/
def RateLimitConfig.one_a_second : RateLimitConfig := { RateLimitConfig.default with ws_messages := ⟨1, 1, 1000⟩ }

/-- Three messages of alice. The third comes 50 ns more than a second after the first reading of the
clock for the second one, and 50 ns less than a second after the other reading. -/
def three_messages : List Call :=
  [.check "alice" .WsMessage 0 0, .check "alice" .WsMessage 3000000000 3000000100,
    .check "alice" .WsMessage 4000000050 4000000050]

/-- A bucket that is created again dates from its creation, one that was kept from its refill. -/
theorem results_changed_by_cleanup :
    (∀ kind, (RateLimitConfig.one_a_second.bucket kind).Refills) ∧
      Timeline 0 three_messages ∧ Timeline 0 (three_messages.insertIdx 1 (.cleanup 2000000000)) ∧
      HasRoomAlong (fun _ => none) (.new .one_a_second) three_messages ∧
      HasRoomAlong (fun _ => none) (.new .one_a_second) (three_messages.insertIdx 1 (.cleanup 2000000000)) ∧
      results (fun _ => none) (.new .one_a_second) three_messages = [true, true, false] ∧
      results (fun _ => none) (.new .one_a_second) (three_messages.insertIdx 1 (.cleanup 2000000000)) =
        [true, true, true] := by
  refine ⟨fun kind => ?_, ?_, ?_, ?_, ?_, ?_, ?_⟩
  · cases kind <;> exact ⟨by decide, by decide, by decide⟩
  · simp [Timeline, three_messages, Call.first_reading, Call.last_reading, NANOS_PER_MILLI]
  · simp [Timeline, three_messages, Call.first_reading, Call.last_reading, NANOS_PER_MILLI]
  · refine ⟨fun kind => ?_, fun kind => ?_, fun kind => ?_, trivial⟩ <;> cases kind <;> decide +kernel
  · refine ⟨fun kind => ?_, fun kind => ?_, fun kind => ?_, fun kind => ?_, trivial⟩ <;> cases kind <;>
      decide +kernel
  · decide +kernel
  · decide +kernel

end voip_signaling.rate_limit
