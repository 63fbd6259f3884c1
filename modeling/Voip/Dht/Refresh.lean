import Voip.Async.Trace
import Voip.Dht.Verifiers

namespace voip_dht.node

open wire error record result

/-- Where the task that re-publishes records stands. -/
inductive RefreshPhase where
  | waiting
  | putting (rest : List (Bytes × Bytes))
  | stopped
  deriving DecidableEq

/-- The records that are left in a round. -/
def RefreshPhase.left : RefreshPhase → List (Bytes × Bytes)
  | .putting rest => rest
  | _ => []

/-- The loop over the records of one round; after the last one it waits for the next tick. -/
def RefreshPhase.go_on (rest : List (Bytes × Bytes)) : RefreshPhase :=
  if rest = [] then .waiting else .putting rest

@[simp] theorem RefreshPhase.left_go_on (rest : List (Bytes × Bytes)) : (go_on rest).left = rest := by
  unfold go_on
  split
  next hempty => simp [hempty, left]
  next => rfl

/-- What comes back for one `PutRecord` command. -/
inductive PutReply where
  | stored
  | failed (error : DhtError)
  | closed
  deriving DecidableEq

/-- The background task of `start_record_refresh`, the clocks it runs under and what it has
put, the latest first. `elapsed` counts the seconds since the task started, `now` is the
wall clock of whoever reads the records. -/
structure Refresh where
  records : List (Bytes × Bytes)
  interval_secs : Nat
  phase : RefreshPhase
  next_tick : Nat
  elapsed : Nat
  now : UInt64
  puts : List (Bytes × Bytes)
  deriving DecidableEq

/-- The first tick of an interval is due at once. An interval of zero panics in the task. -/
def start_record_refresh (records : List (Bytes × Bytes)) (interval_secs : Nat) (now : UInt64) : Refresh where
  records := records
  interval_secs := interval_secs
  phase := if interval_secs = 0 then .stopped else .waiting
  next_tick := 0
  elapsed := 0
  now := now
  puts := []

inductive RefreshEvent where
  | pass (secs : Nat)
  | tick
  | reply (reply : PutReply)
  | stop_record_refresh
  deriving DecidableEq

namespace Refresh

def step (self : Refresh) : RefreshEvent → Option Refresh
  | .pass secs => some { self with elapsed := self.elapsed + secs, now := self.now + .ofNat secs }
  | .tick =>
    match self.phase with
    | .waiting =>
      if self.next_tick ≤ self.elapsed then
        some { self with
          phase := .go_on self.records
          next_tick := self.next_tick + self.interval_secs }
      else none
    | _ => none
  | .reply reply =>
    match self.phase with
    | .putting ((key, value) :: rest) =>
      match reply with
      | .stored => some { self with phase := .go_on rest, puts := (key, value) :: self.puts }
      | .failed _ => some { self with phase := .go_on rest }
      | .closed => some { self with phase := .stopped }
    | _ => none
  | .stop_record_refresh => some { self with phase := .stopped }

/-- The bytes most recently put under a key. -/
def latest (self : Refresh) (key : Bytes) : Option Bytes := self.puts.lookup key

/-- The task has put, and goes on to put, nothing but what it was started with. -/
structure Verbatim (records : List (Bytes × Bytes)) (refresh : Refresh) : Prop where
  records_eq : refresh.records = records
  left_mem : ∀ entry ∈ refresh.phase.left, entry ∈ records
  puts_mem : ∀ entry ∈ refresh.puts, entry ∈ records

theorem verbatim_start (records : List (Bytes × Bytes)) (interval_secs : Nat) (now : UInt64) :
    Verbatim records (start_record_refresh records interval_secs now) where
  records_eq := rfl
  left_mem entry hentry := by
    unfold start_record_refresh at hentry
    split at hentry <;> simp [RefreshPhase.left] at hentry
  puts_mem entry hentry := by simp [start_record_refresh] at hentry

theorem verbatim_step {records : List (Bytes × Bytes)} {self next : Refresh} {event : RefreshEvent}
    (hself : Verbatim records self) (hstep : self.step event = some next) : Verbatim records next := by
  obtain ⟨hrecords, hleft, hputs⟩ := hself
  cases event with
  | pass secs =>
    cases hstep
    exact ⟨hrecords, hleft, hputs⟩
  | tick =>
    simp only [step] at hstep
    split at hstep
    next hphase =>
      split at hstep
      next =>
        cases hstep
        refine ⟨hrecords, ?_, hputs⟩
        simp [hrecords]
      next => contradiction
    next => contradiction
  | reply reply =>
    simp only [step] at hstep
    split at hstep
    next key value rest hphase =>
      have hround : ∀ entry ∈ (key, value) :: rest, entry ∈ records := by
        simpa [RefreshPhase.left, hphase] using hleft
      obtain ⟨hhead, hrest⟩ := List.forall_mem_cons.mp hround
      cases reply with
      | stored =>
        cases hstep
        exact ⟨hrecords, by simpa using hrest, List.forall_mem_cons.mpr ⟨hhead, hputs⟩⟩
      | failed error =>
        cases hstep
        exact ⟨hrecords, by simpa using hrest, hputs⟩
      | closed =>
        cases hstep
        exact ⟨hrecords, by simp [RefreshPhase.left], hputs⟩
    next => contradiction
  | stop_record_refresh =>
    cases hstep
    exact ⟨hrecords, by simp [RefreshPhase.left], hputs⟩

theorem mem_of_latest {records : List (Bytes × Bytes)} {self : Refresh} (hself : Verbatim records self)
    {key value : Bytes} (hlatest : self.latest key = some value) : (key, value) ∈ records := by
  obtain ⟨_, _, hsplit, -⟩ := List.lookup_eq_some_iff.mp hlatest
  exact hself.puts_mem _ (by simp [hsplit])

end Refresh

/-- A record that expires, as it was published. -/
inductive Published where
  | peer (record : PeerRecord)
  | proxy (record : ProxyRecord)

namespace Published

def key (sha256 : Bytes → Bytes) : Published → Bytes
  | peer record => peer_record_key sha256 record.peer_id
  | proxy record => proxy_record_key sha256 record.node_id

def value : Published → Bytes
  | peer record => record.encode
  | proxy record => record.encode

def timestamp : Published → UInt64
  | peer record => record.timestamp
  | proxy record => record.timestamp

def ttl_seconds : Published → UInt32
  | peer record => record.ttl_seconds
  | proxy record => record.ttl_seconds

/-- The generated decoder reads back the message that was written for the record. -/
def RoundTrips (codec : Codec) : Published → Prop
  | peer record => codec.peer_record record.to_proto.encode_to_vec = .ok record.to_proto
  | proxy record => codec.proxy_record record.to_proto.encode_to_vec = .ok record.to_proto

/-- The bytes decode to a record of this kind that a consumer does not treat as expired. -/
def Live (codec : Codec) (data : Bytes) (now : UInt64) : Published → Prop
  | peer _ => ∃ decoded, PeerRecord.decode codec data = .ok decoded ∧ decoded.is_expired now = false
  | proxy _ => ∃ decoded, ProxyRecord.decode codec data = .ok decoded ∧ decoded.is_expired now = false

/-- The bytes of a record live until its time is over. -/
theorem live_value_iff {codec : Codec} {published : Published} (hcodec : published.RoundTrips codec)
    (now : UInt64) :
    published.Live codec published.value now ↔
      now ≤ published.timestamp + published.ttl_seconds.toUInt64 := by
  have hclock {expires_at : UInt64} : decide (expires_at < now) = false ↔ now ≤ expires_at := by
    rw [decide_eq_false_iff_not, UInt64.not_lt]
  cases published with
  | peer record =>
    simp only [Live, value, PeerRecord.decode_encode hcodec, Except.ok.injEq, exists_eq_left']
    exact hclock
  | proxy record =>
    simp only [Live, value, ProxyRecord.decode_encode hcodec, Except.ok.injEq, exists_eq_left']
    exact hclock

/-- The list to refresh holds the record under its key, and no other value. -/
structure RefreshedBy (sha256 : Bytes → Bytes) (records : List (Bytes × Bytes)) (published : Published) :
    Prop where
  mem : (published.key sha256, published.value) ∈ records
  eq_value : ∀ value, (published.key sha256, value) ∈ records → value = published.value

/-- Whatever was last re-published for the record is live for a consumer. -/
def StaysLive (sha256 : Bytes → Bytes) (codec : Codec) (published : Published) (refresh : Refresh) : Prop :=
  ∀ data, refresh.latest (published.key sha256) = some data → published.Live codec data refresh.now

/-- At each time of a run, what was re-published for the record is what it was at first. -/
theorem latest_eq_value {sha256 : Bytes → Bytes} {records : List (Bytes × Bytes)} {published : Published}
    (hrefreshed : published.RefreshedBy sha256 records) {refresh : Refresh}
    (hverbatim : refresh.Verbatim records) {data : Bytes}
    (hlatest : refresh.latest (published.key sha256) = some data) : data = published.value :=
  hrefreshed.eq_value data (Refresh.mem_of_latest hverbatim hlatest)

theorem staysLive_iff {sha256 : Bytes → Bytes} {codec : Codec} {records : List (Bytes × Bytes)}
    {published : Published} (hcodec : published.RoundTrips codec)
    (hrefreshed : published.RefreshedBy sha256 records) {refresh : Refresh}
    (hverbatim : refresh.Verbatim records) :
    published.StaysLive sha256 codec refresh ↔
      (refresh.latest (published.key sha256)).isSome →
        refresh.now ≤ published.timestamp + published.ttl_seconds.toUInt64 := by
  rw [← live_value_iff hcodec]
  constructor
  · intro hstays hsome
    obtain ⟨data, hlatest⟩ := Option.isSome_iff_exists.mp hsome
    rw [← latest_eq_value hrefreshed hverbatim hlatest]
    exact hstays data hlatest
  · intro hlive data hlatest
    rw [latest_eq_value hrefreshed hverbatim hlatest]
    exact hlive (by simp [hlatest])

/-- Along a run of the refresh task, the record stays live exactly as long as the clock does
not pass its first time of life: re-publishing does not extend it. -/
theorem refreshed_record_live_iff (sha256 : Bytes → Bytes) {codec : Codec} {published : Published}
    (hcodec : published.RoundTrips codec) {records : List (Bytes × Bytes)}
    (hrefreshed : published.RefreshedBy sha256 records) (interval_secs : Nat) (now : UInt64)
    (events : List RefreshEvent) :
    async.Along Refresh.step (fun _ _ after => published.StaysLive sha256 codec after)
        (start_record_refresh records interval_secs now) events ↔
      async.Along Refresh.step (fun _ _ after =>
          (after.latest (published.key sha256)).isSome →
            after.now ≤ published.timestamp + published.ttl_seconds.toUInt64)
        (start_record_refresh records interval_secs now) events := by
  have hinit := Refresh.verbatim_start records interval_secs now
  constructor
  · apply async.Along.of_invariant (I := Refresh.Verbatim records) ?_ hinit
    intro before event after hbefore hstays hstep
    have hafter := Refresh.verbatim_step hbefore hstep
    exact ⟨(staysLive_iff hcodec hrefreshed hafter).mp hstays, hafter⟩
  · apply async.Along.of_invariant (I := Refresh.Verbatim records) ?_ hinit
    intro before event after hbefore hclock hstep
    have hafter := Refresh.verbatim_step hbefore hstep
    exact ⟨(staysLive_iff hcodec hrefreshed hafter).mpr hclock, hafter⟩

end Published

/-- A record published at the second 1000 for an hour. -/
def hourly : Published :=
  .peer { PeerRecord.forged "peer" "::1" with timestamp := 1000, ttl_seconds := 3600 }

theorem hourly_round_trips : hourly.RoundTrips Codec.generated := by
  change Codec.generated.peer_record _ = _
  decide +kernel

theorem hourly_refreshed : hourly.RefreshedBy id [(hourly.key id, hourly.value)] where
  mem := by simp
  eq_value := by simp

/-- Within the hour the record is live. -/
theorem hourly_record_live :
    async.Along Refresh.step (fun _ _ after => hourly.StaysLive id Codec.generated after)
      (start_record_refresh [(hourly.key id, hourly.value)] 1800 1000)
      [.tick, .reply .stored, .pass 1800, .tick, .reply .stored] := by
  rw [hourly.refreshed_record_live_iff id hourly_round_trips hourly_refreshed]
  decide +kernel

/-- A second after the hour it is not, although it was put again just before. -/
theorem hourly_record_expires :
    ¬async.Along Refresh.step (fun _ _ after => hourly.StaysLive id Codec.generated after)
      (start_record_refresh [(hourly.key id, hourly.value)] 1800 1000)
      ([.tick, .reply .stored, .pass 1800, .tick, .reply .stored, .pass 1800, .tick, .reply .stored] ++
        [.pass 1]) := by
  apply async.Along.not_of_seen fun _ after =>
    after.latest (hourly.key id) = some hourly.value ∧ (4600 : UInt64) < after.now
  · intro before after hseen hstays
    obtain ⟨hlatest, hover⟩ := of_decide_eq_true hseen
    have hlive := hstays hourly.value hlatest
    rw [Published.live_value_iff hourly_round_trips] at hlive
    exact UInt64.not_le.mpr hover hlive
  · decide +kernel

end voip_dht.node
