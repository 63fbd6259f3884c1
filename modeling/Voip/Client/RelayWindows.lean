import Voip.Client.RelayLimits
import Voip.Machine.History
import Voip.Queue.Window
import Mathlib.Tactic.Ring

namespace voip_client.proxy

structure Datagram where
  at_ns : Nat
  size : Nat
  deriving DecidableEq, Repr

/-- The datagrams that have been relayed, at the instants at which they were recorded. -/
def relayed (past : List (SessionEvent × Bool)) : List Datagram :=
  past.filterMap fun
    | (.datagram clock size, true) => some ⟨clock.sent, size⟩
    | _ => none

/-- In every second a session relays at most so many datagrams and so many bits, and it relays
nothing once it is as old as it may become. -/
structure KeepsLimits (limits : ProxyLimits) (created_at : Nat) (log : List Datagram) : Prop where
  rate : window.Bounded Datagram.at_ns (fun _ => 1) NANOS_PER_SEC limits.max_datagram_rate log
  bandwidth : window.Bounded Datagram.at_ns (fun datagram => 8 * datagram.size) NANOS_PER_SEC
    limits.max_bandwidth_bps log
  duration : ∀ datagram ∈ log, datagram.at_ns < created_at + limits.max_duration_secs * NANOS_PER_SEC

/-- The events of a timeline come one after the other. -/
def Timeline (since : Nat) : List SessionEvent → Prop
  | [] => True
  | event :: events => since ≤ event.first_reading ∧ Timeline event.last_reading events

/-- A datagram comes in the second second of the session, behind more others than may come in one
second. A limit of `u32::MAX` is never exceeded. -/
def InSecondBurst (limits : ProxyLimits) (start_time before : Nat) (clock : Readings) : Prop :=
  limits.max_datagram_rate + 1 < 2 ^ 32 ∧ (clock.average - start_time) / NANOS_PER_SEC = 1 ∧
    limits.max_datagram_rate < before

instance (limits : ProxyLimits) (start_time before : Nat) (clock : Readings) :
    Decidable (InSecondBurst limits start_time before clock) :=
  inferInstanceAs (Decidable (_ ∧ _ ∧ _))

/-- What is offered to a session that counts against its limits, `before` others having come:
the eligible datagrams up to a cleanup that finds the session too old, except for a burst in the
second second. -/
def counted (limits : ProxyLimits) (created_at start_time before : Nat) : List SessionEvent → List Datagram
  | [] => []
  | .cleanup now :: events =>
    if now - created_at < limits.max_duration_secs * NANOS_PER_SEC then
      counted limits created_at start_time before events
    else []
  | .datagram clock size :: events =>
    if ¬ Eligible limits created_at clock size then counted limits created_at start_time before events
    else if InSecondBurst limits start_time before clock then
      counted limits created_at start_time (before + 1) events
    else ⟨clock.sent, size⟩ :: counted limits created_at start_time (before + 1) events

section run

variable {limits : ProxyLimits} {created_at start_time since before : Nat} {log : List Datagram}

theorem KeepsLimits.of_append {later : List Datagram} (hkeeps : KeepsLimits limits created_at (log ++ later)) :
    KeepsLimits limits created_at log :=
  ⟨hkeeps.rate.of_append, hkeeps.bandwidth.of_append,
    fun datagram hmem => hkeeps.duration datagram (List.mem_append_left _ hmem)⟩

/-- The number of datagrams that were recorded before an instant. -/
abbrev recorded_before (instant : Nat) (log : List Datagram) : Nat :=
  window.before Datagram.at_ns (fun _ => 1) instant log

/-- What a tracker knows of the datagrams that were relayed up to an instant, `before` having been
offered. The rate check lets no more than one datagram too many through in the first two seconds. -/
structure Tracks (limits : ProxyLimits) (start_time before since : Nat) (log : List Datagram)
    (tracker : SessionTracker) : Prop where
  start : tracker.start_time = start_time
  count : tracker.datagram_count = log.length % 2 ^ 64
  since_start : start_time ≤ since
  log_within : ∀ datagram ∈ log, start_time ≤ datagram.at_ns ∧ datagram.at_ns ≤ since ∧
    datagram.at_ns ≤ tracker.last_datagram_time
  opening : limits.max_datagram_rate + 1 < 2 ^ 32 → since < start_time + 2 * NANOS_PER_SEC →
    log.length = min before (limits.max_datagram_rate + 1)
  opened : limits.max_datagram_rate + 1 < 2 ^ 32 →
    recorded_before (start_time + 2 * NANOS_PER_SEC) log ≤ limits.max_datagram_rate + 1

variable {tracker : SessionTracker} {clock : Readings}

theorem tracks_new (start_time last_datagram_time : Nat) :
    Tracks limits start_time 0 start_time [] (.new start_time last_datagram_time) where
  start := rfl
  count := rfl
  since_start := le_rfl
  log_within := fun _ hmem => by cases hmem
  opening := fun _ _ => (Nat.zero_min _).symm
  opened := fun _ => Nat.zero_le _

theorem Tracks.later (htracks : Tracks limits start_time before since log tracker) {now : Nat} (hnow : since ≤ now) :
    Tracks limits start_time before now log tracker :=
  { htracks with
    since_start := htracks.since_start.trans hnow
    log_within := fun datagram hmem => by
      obtain ⟨hstart, hbefore, hlast⟩ := htracks.log_within datagram hmem
      exact ⟨hstart, hbefore.trans hnow, hlast⟩
    opening := fun hrate hearly => htracks.opening hrate (lt_of_le_of_lt hnow hearly) }

/-- As long as the limits are kept, no more datagrams than may come in one second have been recorded
in the first one. -/
theorem Tracks.length_le_of_first_second (htracks : Tracks limits start_time before since log tracker)
    (hkeeps : KeepsLimits limits created_at log)
    (hfirst : ∀ datagram ∈ log, datagram.at_ns < start_time + NANOS_PER_SEC) :
    log.length ≤ limits.max_datagram_rate := by
  have hload := hkeeps.rate start_time
  rwa [window.load_eq_length fun datagram hmem => ⟨(htracks.log_within datagram hmem).1, hfirst datagram hmem⟩]
    at hload

/-- As long as the limits are kept, the average of a session that is two seconds old keeps to the
rate. -/
theorem Tracks.length_lt_of_late (htracks : Tracks limits start_time before since log tracker)
    (hkeeps : KeepsLimits limits created_at log) (hrate : limits.max_datagram_rate + 1 < 2 ^ 32) {secs : Nat}
    (hsecs : 2 ≤ secs) (hlog : since < start_time + (secs + 1) * NANOS_PER_SEC) :
    log.length < (limits.max_datagram_rate + 1) * secs := by
  obtain ⟨seconds, rfl⟩ := Nat.exists_eq_add_of_le hsecs
  have hall : recorded_before (start_time + 2 * NANOS_PER_SEC + (seconds + 1) * NANOS_PER_SEC) log = log.length := by
    refine window.before_eq_length fun datagram hmem => ?_
    have hle := (htracks.log_within datagram hmem).2.1
    have heq : (2 + seconds + 1) * NANOS_PER_SEC = 2 * NANOS_PER_SEC + (seconds + 1) * NANOS_PER_SEC := by ring
    omega
  calc log.length
      = recorded_before (start_time + 2 * NANOS_PER_SEC + (seconds + 1) * NANOS_PER_SEC) log := hall.symm
    _ ≤ recorded_before (start_time + 2 * NANOS_PER_SEC) log + (seconds + 1) * limits.max_datagram_rate :=
      hkeeps.rate.before_le _ _
    _ ≤ limits.max_datagram_rate + 1 + (seconds + 1) * limits.max_datagram_rate :=
      Nat.add_le_add_right (htracks.opened hrate) _
    _ < limits.max_datagram_rate + 1 + (seconds + 1) * limits.max_datagram_rate + (seconds + 1) := by omega
    _ = (limits.max_datagram_rate + 1) * (2 + seconds) := by ring

theorem Tracks.count_le (htracks : Tracks limits start_time before since log tracker) :
    tracker.datagram_count ≤ log.length := htracks.count ▸ Nat.mod_le ..

/-- An average that keeps to the rate does so also when it is cut to 32 bits. -/
theorem not_average_exceeded (secs : Nat)
    (hsecs : max ((clock.average - tracker.start_time) / NANOS_PER_SEC) 1 = secs)
    (hcount : tracker.datagram_count < (limits.max_datagram_rate + 1) * secs) :
    ¬ AverageExceeded limits tracker clock := by
  rintro ⟨-, hexceeds⟩
  rw [hsecs] at hexceeds
  have haverage := Nat.div_lt_of_lt_mul (Nat.mul_comm _ secs ▸ hcount)
  have hcut := Nat.mod_le (tracker.datagram_count / secs) (2 ^ 32)
  omega

/-- As long as the limits are kept, the average takes notice of nothing but a burst in the second
second. -/
theorem Tracks.average_exceeded_iff (htracks : Tracks limits start_time before since log tracker)
    (hkeeps : KeepsLimits limits created_at log) (haverage : since ≤ clock.average) :
    AverageExceeded limits tracker clock ↔ InSecondBurst limits start_time before clock := by
  by_cases hrate : limits.max_datagram_rate + 1 < 2 ^ 32
  · replace htracks := htracks.later haverage
    have hbefore : clock.average <
        start_time + ((clock.average - start_time) / NANOS_PER_SEC + 1) * NANOS_PER_SEC := by
      have hpositive : 0 < NANOS_PER_SEC := by decide
      have hdiv := Nat.lt_mul_div_succ (clock.average - start_time) hpositive
      rw [Nat.mul_comm] at hdiv
      omega
    have hstart := htracks.start
    generalize hsecs : (clock.average - start_time) / NANOS_PER_SEC = secs at hbefore
    have hcount := htracks.count_le
    obtain rfl | rfl | hlate : secs = 0 ∨ secs = 1 ∨ 2 ≤ secs := by omega
    · have hlength := htracks.length_le_of_first_second hkeeps fun datagram hmem => by
        have hle := (htracks.log_within datagram hmem).2.1
        omega
      refine iff_of_false (not_average_exceeded 1 (by rw [hstart, hsecs]; rfl) (by omega)) ?_
      rintro ⟨-, hone, -⟩
      omega
    · have hlength := htracks.opening hrate (by omega)
      have hexact : tracker.datagram_count / max ((clock.average - tracker.start_time) / NANOS_PER_SEC) 1 % 2 ^ 32 =
          log.length := by
        rw [hstart, hsecs, Nat.max_self, Nat.div_one, htracks.count, Nat.mod_eq_of_lt (by omega),
          Nat.mod_eq_of_lt (by omega)]
      rw [AverageExceeded, hexact, InSecondBurst, hsecs]
      constructor
      · rintro ⟨-, hexceeds⟩
        exact ⟨hrate, rfl, by omega⟩
      · rintro ⟨-, -, hburst⟩
        refine ⟨?_, by omega⟩
        -- an idle second before would leave them all in the first one
        by_contra hidle
        have hlength' := htracks.length_le_of_first_second hkeeps fun datagram hmem => by
          have hle := (htracks.log_within datagram hmem).2.2
          have hle' := clock.recent_le_average
          omega
        omega
    · have hlength := htracks.length_lt_of_late hkeeps hrate hlate hbefore
      refine iff_of_false (not_average_exceeded secs (by rw [hstart, hsecs]; omega) (by omega)) ?_
      rintro ⟨-, hone, -⟩
      omega
  · refine iff_of_false (fun hexceeds => ?_) fun hburst => hrate hburst.1
    have hcut := Nat.mod_lt (tracker.datagram_count / max ((clock.average - tracker.start_time) / NANOS_PER_SEC) 1)
      (show 0 < 2 ^ 32 by decide)
    have hexceeds' := hexceeds.2
    omega

/-- A datagram of a burst is left out of account. -/
theorem Tracks.burst (htracks : Tracks limits start_time before since log tracker)
    (haverage : since ≤ clock.average) (hburst : InSecondBurst limits start_time before clock) :
    Tracks limits start_time (before + 1) clock.sent log tracker := by
  have hlater := htracks.later (haverage.trans clock.average_le_sent)
  refine { hlater with opening := fun hrate hearly => ?_ }
  rw [hlater.opening hrate hearly]
  have hmore := hburst.2.2
  omega

/-- Any other datagram is recorded. -/
theorem Tracks.record (htracks : Tracks limits start_time before since log tracker)
    (hkeeps : KeepsLimits limits created_at log) (haverage : since ≤ clock.average)
    (hburst : ¬ InSecondBurst limits start_time before clock) (size : Nat) :
    Tracks limits start_time (before + 1) clock.sent (log ++ [⟨clock.sent, size⟩])
      (tracker.record_send size clock.sent) := by
  have hlater := htracks.later (haverage.trans clock.average_le_sent)
  -- in the first two seconds the datagram is at most the one too many
  have hroom (hrate : limits.max_datagram_rate + 1 < 2 ^ 32)
      (hearly : clock.average < start_time + 2 * NANOS_PER_SEC) :
      log.length = before ∧ before ≤ limits.max_datagram_rate := by
    have hlength := (htracks.later haverage).opening hrate hearly
    have hpositive : 0 < NANOS_PER_SEC := by decide
    obtain hsecs | hsecs : (clock.average - start_time) / NANOS_PER_SEC = 1 ∨
        clock.average < start_time + NANOS_PER_SEC := by
      rw [Nat.div_eq_iff hpositive]
      omega
    · have hfew : ¬ limits.max_datagram_rate < before := fun hmore => hburst ⟨hrate, hsecs, hmore⟩
      omega
    · have hfew := (htracks.later haverage).length_le_of_first_second hkeeps fun datagram hmem =>
        lt_of_le_of_lt ((htracks.later haverage).log_within datagram hmem).2.1 hsecs
      omega
  refine ⟨htracks.start, ?_, hlater.since_start, List.forall_mem_append.mpr ⟨fun datagram hmem => ?_, ?_⟩,
    fun hrate hearly => ?_, fun hrate => ?_⟩
  · simp [SessionTracker.record_send, htracks.count]
  · obtain ⟨hstart, hbefore, -⟩ := hlater.log_within datagram hmem
    exact ⟨hstart, hbefore, hbefore⟩
  · exact List.forall_mem_singleton.mpr ⟨hlater.since_start, le_rfl, le_rfl⟩
  · have hlength := hroom hrate (lt_of_le_of_lt clock.average_le_sent hearly)
    rw [List.length_append, List.length_singleton]
    omega
  · by_cases hearly : clock.average < start_time + 2 * NANOS_PER_SEC
    · have hlength := hroom hrate hearly
      refine (window.before_le_length _).trans ?_
      rw [List.length_append, List.length_singleton]
      omega
    · have hlate := clock.average_le_sent
      rw [recorded_before, window.before_append_of_le]
      · exact htracks.opened hrate
      · exact (Nat.not_lt.mp hearly).trans hlate

variable {call_id : String} {proxy : MasqueProxy} {events : List SessionEvent}

theorem relayed_cons_refused (event : SessionEvent) (past : List (SessionEvent × Bool)) :
    relayed ((event, false) :: past) = relayed past := by
  cases event <;> rfl

theorem relayed_cons_accepted (clock : Readings) (size : Nat) (past : List (SessionEvent × Bool)) :
    relayed ((.datagram clock size, true) :: past) = ⟨clock.sent, size⟩ :: relayed past := rfl

theorem relayed_of_missing (hsession : proxy.sessions.lookup call_id = none) (events : List SessionEvent) :
    relayed (machine.history (step call_id) proxy events) = [] := by
  induction events generalizing proxy with
  | nil => rfl
  | cons event events ih =>
    obtain ⟨hrefused, hmissing⟩ := lookup_step_of_missing hsession event
    rw [machine.history, hrefused, relayed_cons_refused, ih hmissing]

/-- The limits are kept with what is relayed exactly when they are kept with what counts. -/
theorem keeps_limits_append_iff (hlimits : proxy.limits = limits)
    (hsession : proxy.sessions.lookup call_id = some ⟨created_at, tracker⟩)
    (htracks : Tracks limits start_time before since log tracker) (htimeline : Timeline since events) :
    KeepsLimits limits created_at (log ++ relayed (machine.history (step call_id) proxy events)) ↔
      KeepsLimits limits created_at (log ++ counted limits created_at start_time before events) := by
  induction events generalizing proxy before since log tracker with
  | nil => exact Iff.rfl
  | cons event events ih =>
    obtain ⟨hsince, hlater⟩ := htimeline
    subst hlimits
    cases event with
    | cleanup now =>
      rw [machine.history, step, relayed_cons_refused, counted]
      by_cases hyoung : now - created_at < proxy.limits.max_duration_secs * NANOS_PER_SEC
      · rw [if_pos hyoung]
        exact ih rfl (lookup_cleanup_of_young hsession hyoung) (htracks.later hsince) hlater
      · rw [if_neg hyoung, relayed_of_missing (lookup_cleanup_of_old hsession hyoung)]
    | datagram clock size =>
      replace hsince : since ≤ clock.age := hsince
      have haverage : since ≤ clock.average := (hsince.trans clock.age_le_recent).trans clock.recent_le_average
      rw [machine.history, step, counted]
      by_cases heligible : Eligible proxy.limits created_at clock size
      · by_cases hkeeps : KeepsLimits proxy.limits created_at log
        · have hexceeded := htracks.average_exceeded_iff hkeeps haverage
          rw [if_neg (not_not_intro heligible)]
          by_cases hburst : InSecondBurst proxy.limits start_time before clock
          · have hrefused : proxy.check_datagram call_id size clock ≠ .ok () := fun hok =>
              ((check_datagram_eq_ok hsession).mp hok).2 (hexceeded.mpr hburst)
            rw [relay_of_refused hrefused, relayed_cons_refused, if_pos hburst]
            exact ih rfl hsession (htracks.burst haverage hburst) hlater
          · have hok := (check_datagram_eq_ok hsession).mpr ⟨heligible, mt hexceeded.mp hburst⟩
            rw [relay_of_accepted hsession hok, relayed_cons_accepted, if_neg hburst, List.append_cons]
            nth_rewrite 2 [List.append_cons]
            exact ih rfl lookup_record (htracks.record hkeeps haverage hburst size) hlater
        · exact iff_of_false (fun hall => hkeeps hall.of_append) fun hall => hkeeps hall.of_append
      · have hrefused : proxy.check_datagram call_id size clock ≠ .ok () := fun hok =>
          heligible ((check_datagram_eq_ok hsession).mp hok).1
        rw [relay_of_refused hrefused, relayed_cons_refused, if_pos heligible]
        exact ih rfl hsession (htracks.later (haverage.trans clock.average_le_sent)) hlater

end run

/-- A session keeps its limits exactly when what is offered to it and counts keeps them. -/
theorem keeps_limits_iff (proxy : MasqueProxy) (call_id : String) (created_at start_time last_datagram_time : Nat)
    (events : List SessionEvent)
    (hsession : proxy.sessions.lookup call_id = some ⟨created_at, .new start_time last_datagram_time⟩)
    (htimeline : Timeline start_time events) :
    KeepsLimits proxy.limits created_at (relayed (machine.history (step call_id) proxy events)) ↔
      KeepsLimits proxy.limits created_at (counted proxy.limits created_at start_time 0 events) := by
  have hiff := keeps_limits_append_iff rfl hsession (tracks_new start_time last_datagram_time) htimeline
  rwa [List.nil_append, List.nil_append] at hiff

/-- The proxy with one session, that was opened at the instant 0. -/
def MasqueProxy.one_session (limits : ProxyLimits) : MasqueProxy where
  sessions := AList.singleton "call" ⟨0, .new 0 0⟩
  limits := limits

def one_datagram_per_sec : ProxyLimits := { ProxyLimits.default with max_datagram_rate := 1 }

/-- The third datagram comes in the second second behind two others, the fifth after the session
has been cleaned up. -/
def refused_burst : List SessionEvent :=
  [.datagram (.same 0) 1280, .datagram (.same 1000000000) 1280, .datagram (.same 1000000000) 1280,
    .datagram (.same 2500000000) 1280, .cleanup 14400000000000, .datagram (.same 14400000000000) 1280]

theorem keeps_limits_of_refused_burst :
    KeepsLimits one_datagram_per_sec 0
      (relayed (machine.history (step "call") (.one_session one_datagram_per_sec) refused_burst)) := by
  refine (keeps_limits_iff (.one_session one_datagram_per_sec) "call" 0 0 0 refused_burst (by decide +kernel)
    ?_).mpr ?_
  · exact ⟨by decide, by decide, by decide, by decide, by decide, by decide, trivial⟩
  · have hcounted : counted one_datagram_per_sec 0 0 0 refused_burst =
        [⟨0, 1280⟩, ⟨1000000000, 1280⟩, ⟨2500000000, 1280⟩] := by decide +kernel
    change KeepsLimits one_datagram_per_sec 0 (counted one_datagram_per_sec 0 0 0 refused_burst)
    rw [hcounted]
    refine ⟨fun start => ?_, fun start => ?_, by decide⟩
    all_goals
      simp only [window.load_cons, window.load_nil, NANOS_PER_SEC, one_datagram_per_sec, ProxyLimits.default]
      split_ifs <;> omega

/-- The lifetime average admits one datagram too many in the first second, no check is made of
the bits, and the age may still be what it must not reach. -/
theorem not_keeps_limits_of_bursts :
    ¬ KeepsLimits .default 0 (relayed (machine.history (step "call") (.one_session .default)
        (List.replicate 201 (.datagram (.same 0) 0)))) ∧
      ¬ KeepsLimits .default 0 (relayed (machine.history (step "call") (.one_session .default)
        (List.replicate 49 (.datagram (.same 0) 1280)))) ∧
      ¬ KeepsLimits .default 0 (relayed (machine.history (step "call") (.one_session .default)
        [.datagram (.same 14400000000000) 1280])) := by
  refine ⟨fun hkeeps => ?_, fun hkeeps => ?_, fun hkeeps => ?_⟩
  · exact absurd (hkeeps.rate 0) (by decide +kernel)
  · exact absurd (hkeeps.bandwidth 0) (by decide +kernel)
  · exact absurd (hkeeps.duration ⟨14400000000000, 1280⟩ (by decide +kernel)) (by decide)

end voip_client.proxy
