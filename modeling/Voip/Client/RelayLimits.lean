import Mathlib.Algebra.Group.Nat.Defs
import Mathlib.Data.List.AList

namespace voip_client.proxy

/-- The limits that concern the datagrams of one session. -/
structure ProxyLimits where
  max_duration_secs : Nat
  max_datagram_rate : Nat
  max_datagram_size : Nat
  max_bandwidth_bps : Nat
  deriving DecidableEq, Repr

def ProxyLimits.default : ProxyLimits where
  max_duration_secs := 14400
  max_datagram_rate := 200
  max_datagram_size := 1280
  max_bandwidth_bps := 500000

/-- Instants are nanoseconds. -/
def NANOS_PER_SEC : Nat := 1000000000

structure SessionTracker where
  start_time : Nat
  datagram_count : Nat
  bytes_sent : Nat
  last_datagram_time : Nat
  deriving DecidableEq, Repr

namespace SessionTracker

/-- The clock is read for each of the two fields. -/
def new (start_time last_datagram_time : Nat) : SessionTracker where
  start_time := start_time
  datagram_count := 0
  bytes_sent := 0
  last_datagram_time := last_datagram_time

def record_send (tracker : SessionTracker) (size now : Nat) : SessionTracker :=
  { tracker with
    datagram_count := (tracker.datagram_count + 1) % 2 ^ 64
    bytes_sent := (tracker.bytes_sent + size) % 2 ^ 64
    last_datagram_time := now }

end SessionTracker

structure RelaySession where
  created_at : Nat
  tracker : SessionTracker
  deriving DecidableEq, Repr

inductive ProxyError where
  | DatagramSizeExceeded (max got : Nat)
  | SessionNotFound (call_id : String)
  | DurationExceeded (limit_secs actual_secs : Nat)
  | DatagramRateExceeded (max current : Nat)
  deriving DecidableEq, Repr

/-- What the clock shows while a datagram is checked and recorded: it is read for the age of the
session, for what is recent, for the average, and when the datagram is recorded. -/
structure Readings where
  age : Nat
  recent : Nat
  average : Nat
  sent : Nat
  age_le_recent : age ≤ recent
  recent_le_average : recent ≤ average
  average_le_sent : average ≤ sent

/-- No time passes between the readings. -/
def Readings.same (now : Nat) : Readings := ⟨now, now, now, now, le_rfl, le_rfl, le_rfl⟩

abbrev Sessions := AList (fun _ : String => RelaySession)

structure MasqueProxy where
  sessions : Sessions
  limits : ProxyLimits

namespace MasqueProxy

def cleanup_expired_sessions (proxy : MasqueProxy) (now : Nat) : Nat × MasqueProxy :=
  let max_duration := proxy.limits.max_duration_secs * NANOS_PER_SEC
  let before := proxy.sessions.entries.length
  let sessions : Sessions :=
    ⟨proxy.sessions.entries.filter fun entry => now - entry.2.created_at < max_duration,
      proxy.sessions.nodupKeys.sublist List.filter_sublist⟩
  (before - sessions.entries.length, { proxy with sessions })

def check_datagram (proxy : MasqueProxy) (call_id : String) (datagram_size : Nat) (clock : Readings) :
    Except ProxyError Unit :=
  if proxy.limits.max_datagram_size < datagram_size then
    .error (.DatagramSizeExceeded proxy.limits.max_datagram_size datagram_size)
  else
    match proxy.sessions.lookup call_id with
    | none => .error (.SessionNotFound call_id)
    | some session =>
      let elapsed := (clock.age - session.created_at) / NANOS_PER_SEC
      if proxy.limits.max_duration_secs < elapsed then
        .error (.DurationExceeded proxy.limits.max_duration_secs elapsed)
      else
        let recent_count :=
          if clock.recent < session.tracker.last_datagram_time + NANOS_PER_SEC then
            let elapsed_secs := max ((clock.average - session.tracker.start_time) / NANOS_PER_SEC) 1
            session.tracker.datagram_count / elapsed_secs % 2 ^ 32
          else 0
        if proxy.limits.max_datagram_rate < recent_count then
          .error (.DatagramRateExceeded proxy.limits.max_datagram_rate recent_count)
        else .ok ()

/-- The proxy with a datagram recorded in the session of a call. -/
def record (proxy : MasqueProxy) (call_id : String) (session : RelaySession) (size now : Nat) : MasqueProxy :=
  { proxy with
    sessions := proxy.sessions.insert call_id { session with tracker := session.tracker.record_send size now } }

/-- A datagram is relayed, and recorded, if it passes the check. -/
def relay (proxy : MasqueProxy) (call_id : String) (datagram_size : Nat) (clock : Readings) : Bool × MasqueProxy :=
  match proxy.check_datagram call_id datagram_size clock, proxy.sessions.lookup call_id with
  | .ok (), some session => (true, proxy.record call_id session datagram_size clock.sent)
  | _, _ => (false, proxy)

end MasqueProxy

/-- What happens to the session of a call. -/
inductive SessionEvent where
  | datagram (clock : Readings) (size : Nat)
  | cleanup (now : Nat)

namespace SessionEvent

def first_reading : SessionEvent → Nat
  | .datagram clock _ => clock.age
  | .cleanup now => now

def last_reading : SessionEvent → Nat
  | .datagram clock _ => clock.sent
  | .cleanup now => now

end SessionEvent

/-- The proxy after an event, and whether a datagram was relayed. -/
def step (call_id : String) (proxy : MasqueProxy) : SessionEvent → Bool × MasqueProxy
  | .datagram clock size => proxy.relay call_id size clock
  | .cleanup now => (false, (proxy.cleanup_expired_sessions now).2)

/-- A datagram is not too large, and the session has not become too old for it by whole seconds. -/
def Eligible (limits : ProxyLimits) (created_at : Nat) (clock : Readings) (size : Nat) : Prop :=
  size ≤ limits.max_datagram_size ∧ (clock.age - created_at) / NANOS_PER_SEC ≤ limits.max_duration_secs

instance (limits : ProxyLimits) (created_at : Nat) (clock : Readings) (size : Nat) :
    Decidable (Eligible limits created_at clock size) :=
  inferInstanceAs (Decidable (_ ∧ _))

/-- The average over the lifetime of the session exceeds the rate. -/
def AverageExceeded (limits : ProxyLimits) (tracker : SessionTracker) (clock : Readings) : Prop :=
  clock.recent < tracker.last_datagram_time + NANOS_PER_SEC ∧ limits.max_datagram_rate <
    tracker.datagram_count / max ((clock.average - tracker.start_time) / NANOS_PER_SEC) 1 % 2 ^ 32

section step

variable {call_id : String} {proxy : MasqueProxy} {session : RelaySession} {clock : Readings} {now size : Nat}

theorem check_datagram_eq_ok (hsession : proxy.sessions.lookup call_id = some session) :
    proxy.check_datagram call_id size clock = .ok () ↔
      Eligible proxy.limits session.created_at clock size ∧
        ¬ AverageExceeded proxy.limits session.tracker clock := by
  simp only [MasqueProxy.check_datagram, hsession, Eligible, AverageExceeded]
  by_cases hsize : proxy.limits.max_datagram_size < size
  · simp [hsize, Nat.not_le.mpr hsize]
  · by_cases hduration : proxy.limits.max_duration_secs < (clock.age - session.created_at) / NANOS_PER_SEC
    · simp [hsize, hduration, Nat.not_le.mpr hduration]
    · by_cases hrecent : clock.recent < session.tracker.last_datagram_time + NANOS_PER_SEC
      · simp [hsize, hduration, hrecent, Nat.not_lt.mp hsize, Nat.not_lt.mp hduration]
      · simp [hsize, hduration, hrecent, Nat.not_lt.mp hsize, Nat.not_lt.mp hduration]

theorem relay_of_missing (hsession : proxy.sessions.lookup call_id = none) :
    proxy.relay call_id size clock = (false, proxy) := by
  simp [MasqueProxy.relay, hsession]

theorem relay_of_refused (hrefused : proxy.check_datagram call_id size clock ≠ .ok ()) :
    proxy.relay call_id size clock = (false, proxy) := by
  unfold MasqueProxy.relay
  split
  next hok _ => exact absurd hok hrefused
  next => rfl

theorem relay_of_accepted (hsession : proxy.sessions.lookup call_id = some session)
    (hok : proxy.check_datagram call_id size clock = .ok ()) :
    proxy.relay call_id size clock = (true, proxy.record call_id session size clock.sent) := by
  simp only [MasqueProxy.relay, hok, hsession]

theorem lookup_record : (proxy.record call_id session size now).sessions.lookup call_id =
    some ⟨session.created_at, session.tracker.record_send size now⟩ := AList.lookup_insert _

/-- A cleanup keeps the session of a call as long as it is younger than it may become. -/
theorem lookup_cleanup_of_young (hsession : proxy.sessions.lookup call_id = some session)
    (hyoung : now - session.created_at < proxy.limits.max_duration_secs * NANOS_PER_SEC) :
    (proxy.cleanup_expired_sessions now).2.sessions.lookup call_id = some session := by
  refine AList.mem_lookup_iff.mpr (List.mem_filter.mpr ⟨AList.mem_lookup_iff.mp hsession, ?_⟩)
  exact decide_eq_true hyoung

theorem lookup_cleanup_of_old (hsession : proxy.sessions.lookup call_id = some session)
    (hold : ¬ now - session.created_at < proxy.limits.max_duration_secs * NANOS_PER_SEC) :
    (proxy.cleanup_expired_sessions now).2.sessions.lookup call_id = none := by
  cases hkept : (proxy.cleanup_expired_sessions now).2.sessions.lookup call_id with
  | none => rfl
  | some kept =>
    obtain ⟨hmem, hyoung⟩ := List.mem_filter.mp (AList.mem_lookup_iff.mp hkept)
    rw [AList.mem_lookup_iff.mpr hmem] at hsession
    cases hsession
    exact absurd (of_decide_eq_true hyoung) hold

/-- Nothing brings a session back. -/
theorem lookup_step_of_missing (hsession : proxy.sessions.lookup call_id = none) (event : SessionEvent) :
    (step call_id proxy event).1 = false ∧ (step call_id proxy event).2.sessions.lookup call_id = none := by
  cases event with
  | datagram clock size =>
    rw [step, relay_of_missing hsession]
    exact ⟨rfl, hsession⟩
  | cleanup now =>
    refine ⟨rfl, ?_⟩
    cases hkept : (proxy.cleanup_expired_sessions now).2.sessions.lookup call_id with
    | none => exact hkept
    | some kept =>
      have hmem := List.mem_of_mem_filter (AList.mem_lookup_iff.mp hkept)
      rw [AList.mem_lookup_iff.mpr hmem] at hsession
      cases hsession

end step

end voip_client.proxy
