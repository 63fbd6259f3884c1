import Mathlib.Data.Finset.Max
import Mathlib.Order.Interval.Finset.Nat
import Voip.Client.MoqDatagram
import Voip.Machine.Checked

namespace voip_client.moq

open checked

structure QualityReport where
  track_alias : UInt32
  last_seq : Nat
  received : Nat
  lost : Nat
  rtt_us : Nat
  jitter_us : Nat
  report_time : Nat
  deriving DecidableEq

def QualityReport.new (now : Nat) (track_alias : UInt32) : QualityReport where
  track_alias
  last_seq := 0
  received := 0
  lost := 0
  rtt_us := 0
  jitter_us := 0
  report_time := now

def quality_report (track_alias : UInt32) (reports : List QualityReport) : Option QualityReport :=
  reports.find? fun r => r.track_alias = track_alias

/-- The walk finds the report of the track, or comes to the end and puts a new one there. -/
def record_received_datagram (build : Build) (now : Nat) (datagram : MoqDatagram) :
    List QualityReport → Except Fault (List QualityReport)
  | [] =>
    .ok [{ QualityReport.new now datagram.track_alias with
      last_seq := datagram.sequence.toNat
      received := 1 }]
  | report :: reports =>
    if report.track_alias = datagram.track_alias then do
      let received ← build.word 64 (report.received + 1)
      return { report with last_seq := datagram.sequence.toNat, received } :: reports
    else do
      return report :: (← record_received_datagram build now datagram reports)

/-- A datagram and the instant at which it is recorded. -/
structure Arrival where
  now : Nat
  datagram : MoqDatagram

/-- The reports of a session after these arrivals, or the fault that ended them. -/
def recorded (build : Build) (arrivals : List Arrival) : Except Fault (List QualityReport) :=
  arrivals.foldlM (fun reports arrival =>
    record_received_datagram build arrival.now arrival.datagram reports) []

/-- The sequence numbers received on a track, in the order of their arrival. -/
def sequences (track_alias : UInt32) (arrivals : List Arrival) : List Nat :=
  (arrivals.filter fun arrival => arrival.datagram.track_alias = track_alias).map
    fun arrival => arrival.datagram.sequence.toNat

/-- What a report should say of the numbers received on its track. -/
structure QualityReport.Accurate (report : QualityReport) (received : List Nat) : Prop where
  highest : report.last_seq ∈ received ∧ ∀ sequence ∈ received, sequence ≤ report.last_seq
  distinct : report.received = received.toFinset.card
  missing : ∀ lowest ∈ received, (∀ sequence ∈ received, lowest ≤ sequence) →
    report.lost = (Finset.Icc lowest report.last_seq \ received.toFinset).card

/-- In every build each track that was heard of has an accurate report. -/
def AccurateReports (arrivals : List Arrival) : Prop :=
  ∀ build, ∃ reports, recorded build arrivals = .ok reports ∧
    ∀ arrival ∈ arrivals, ∃ report,
      quality_report arrival.datagram.track_alias reports = some report ∧
        report.Accurate (sequences arrival.datagram.track_alias arrivals)

/-- Numbers that came once each, without a gap and with the highest one last. -/
structure Gapless (received : List Nat) : Prop where
  nodup : received.Nodup
  last : ∀ sequence ∈ received, ∀ final, received.getLast? = some final → sequence ≤ final
  dense : ∀ first ∈ received, ∀ second ∈ received, ∀ sequence, first ≤ sequence → sequence ≤ second →
    sequence ∈ received
  countable : received.length < 2 ^ 64

/-- What the code knows of the numbers of a track: the last one and how many came. -/
def Tracked (received : List Nat) (found : Option QualityReport) : Prop :=
  match found with
  | none => received = []
  | some report => received.getLast? = some report.last_seq ∧ report.received = received.length ∧
    report.lost = 0

section recording

/-- The report of a track after one more datagram. -/
def QualityReport.renew (now : Nat) (datagram : MoqDatagram) (received : Nat)
    (found : Option QualityReport) : QualityReport :=
  { found.getD (.new now datagram.track_alias) with last_seq := datagram.sequence.toNat, received }

/-- The number of datagrams of the track with the next one. -/
def next_count (build : Build) (found : Option QualityReport) : Except Fault Nat :=
  found.elim (.ok 1) fun report => build.word 64 (report.received + 1)

/-- The reports with the count of the datagram's track set. -/
def put (now : Nat) (datagram : MoqDatagram) (received : Nat) : List QualityReport → List QualityReport
  | [] => [.renew now datagram received none]
  | report :: reports =>
    if report.track_alias = datagram.track_alias then .renew now datagram received (some report) :: reports
    else report :: put now datagram received reports

variable {build : Build} {now : Nat} {datagram : MoqDatagram} {reports : List QualityReport}

theorem record_received_datagram_eq :
    record_received_datagram build now datagram reports =
      (put now datagram · reports) <$> next_count build (quality_report datagram.track_alias reports) := by
  induction reports with
  | nil => rfl
  | cons report reports ih =>
    by_cases halias : report.track_alias = datagram.track_alias
    · have hfind : quality_report datagram.track_alias (report :: reports) = some report :=
        List.find?_cons_of_pos (by simpa using halias)
      simp only [record_received_datagram, put, if_pos halias, hfind, next_count, Option.elim_some]
      cases build.word 64 (report.received + 1) <;> rfl
    · have hfind : quality_report datagram.track_alias (report :: reports) =
          quality_report datagram.track_alias reports := by
        simp [quality_report, halias]
      simp only [record_received_datagram, put, halias, if_false, ih, hfind]
      cases next_count build (quality_report datagram.track_alias reports) <;> rfl

theorem quality_report_put (received : Nat) :
    quality_report datagram.track_alias (put now datagram received reports) =
      some (.renew now datagram received (quality_report datagram.track_alias reports)) := by
  induction reports with
  | nil => simp [put, quality_report, QualityReport.renew, QualityReport.new]
  | cons report reports ih =>
    by_cases halias : report.track_alias = datagram.track_alias
    · simp [put, quality_report, halias, QualityReport.renew]
    · simpa [put, quality_report, halias] using ih

theorem quality_report_put_of_ne {track_alias : UInt32} (hother : datagram.track_alias ≠ track_alias)
    (received : Nat) :
    quality_report track_alias (put now datagram received reports) = quality_report track_alias reports := by
  induction reports with
  | nil => simp [put, quality_report, QualityReport.renew, QualityReport.new, hother]
  | cons report reports ih =>
    by_cases halias : report.track_alias = datagram.track_alias
    · simp [put, quality_report, halias, QualityReport.renew, hother]
    · by_cases hhere : report.track_alias = track_alias
      · simp [put, quality_report, hhere, Ne.symm hother]
      · simpa [put, quality_report, halias, hhere] using ih

end recording

section tracking

variable {build : Build} {received : List Nat} {found : Option QualityReport}

theorem Tracked.next_count_eq (htracked : Tracked received found) (hfits : received.length + 1 < 2 ^ 64) :
    next_count build found = .ok (received.length + 1) := by
  cases found with
  | none =>
    cases (htracked : received = [])
    rfl
  | some report =>
    obtain ⟨-, hcount, -⟩ := htracked
    rw [next_count, Option.elim_some, hcount]
    exact build.word_of_lt hfits

/-- With overflow checks the next datagram is counted only if there is room for it. -/
theorem Tracked.lt_of_next_count (htracked : Tracked received found) {count : Nat}
    (hcount : next_count .checks found = .ok count) : received.length + 1 < 2 ^ 64 := by
  cases found with
  | none =>
    cases (htracked : received = [])
    decide
  | some report =>
    obtain ⟨-, hreceived, -⟩ := htracked
    rw [← hreceived]
    exact (Build.checks_word_eq_ok.1 hcount).1

theorem Tracked.renew (htracked : Tracked received found) (now : Nat) (datagram : MoqDatagram) :
    Tracked (received ++ [datagram.sequence.toNat])
      (some (.renew now datagram (received.length + 1) found)) := by
  refine ⟨by simp [QualityReport.renew], by simp [QualityReport.renew], ?_⟩
  cases found with
  | none => rfl
  | some report => exact htracked.2.2

variable {arrivals : List Arrival} {arrival : Arrival}

theorem sequences_append_self :
    sequences arrival.datagram.track_alias (arrivals ++ [arrival]) =
      sequences arrival.datagram.track_alias arrivals ++ [arrival.datagram.sequence.toNat] := by
  simp [sequences]

theorem sequences_append_of_ne {track_alias : UInt32} (hother : arrival.datagram.track_alias ≠ track_alias) :
    sequences track_alias (arrivals ++ [arrival]) = sequences track_alias arrivals := by
  simp [sequences, hother]

theorem length_sequences_le (track_alias : UInt32) :
    (sequences track_alias arrivals).length ≤ (sequences track_alias (arrivals ++ [arrival])).length := by
  simp [sequences]

/-- Every track has its last number and its count as long as the count fits. -/
theorem recorded_tracks (build : Build) (arrivals : List Arrival)
    (hfits : ∀ track_alias, (sequences track_alias arrivals).length < 2 ^ 64) :
    ∃ reports, recorded build arrivals = .ok reports ∧
      ∀ track_alias, Tracked (sequences track_alias arrivals) (quality_report track_alias reports) := by
  induction arrivals using List.reverseRecOn with
  | nil => exact ⟨[], rfl, fun _ => rfl⟩
  | append_singleton arrivals arrival ih =>
    obtain ⟨reports, hrecorded, htracked⟩ :=
      ih fun track_alias => Nat.lt_of_le_of_lt (length_sequences_le track_alias) (hfits track_alias)
    have htrack := htracked arrival.datagram.track_alias
    have hroom := hfits arrival.datagram.track_alias
    rw [sequences_append_self, List.length_append, List.length_singleton] at hroom
    refine ⟨put arrival.now arrival.datagram ((sequences arrival.datagram.track_alias arrivals).length + 1)
      reports, ?_, fun track_alias => ?_⟩
    · rw [recorded, List.foldlM_append, ← recorded, hrecorded, result.ok_bind, List.foldlM_cons,
        record_received_datagram_eq, htrack.next_count_eq hroom]
      rfl
    · by_cases halias : arrival.datagram.track_alias = track_alias
      · subst halias
        rw [sequences_append_self, quality_report_put]
        exact htrack.renew _ _
      · rw [sequences_append_of_ne halias, quality_report_put_of_ne halias]
        exact htracked track_alias

/-- A run with overflow checks that comes to its end has counted every track within its words. -/
theorem length_sequences_lt {reports : List QualityReport} (hrecorded : recorded .checks arrivals = .ok reports)
    (track_alias : UInt32) : (sequences track_alias arrivals).length < 2 ^ 64 := by
  induction arrivals using List.reverseRecOn generalizing track_alias reports with
  | nil => exact Nat.two_pow_pos 64
  | append_singleton arrivals arrival ih =>
    rw [recorded, List.foldlM_append, ← recorded] at hrecorded
    obtain ⟨before, hbefore, hlast⟩ := result.bind_eq_ok.1 hrecorded
    obtain ⟨reports', hreports', htracked⟩ := recorded_tracks .checks arrivals (ih hbefore)
    cases hbefore.symm.trans hreports'
    by_cases halias : arrival.datagram.track_alias = track_alias
    · subst halias
      rw [List.foldlM_cons, record_received_datagram_eq] at hlast
      obtain ⟨_, hput, _⟩ := result.bind_eq_ok.1 hlast
      obtain ⟨count, hcount, _⟩ := result.map_eq_ok.1 hput
      rw [sequences_append_self, List.length_append, List.length_singleton]
      exact (htracked arrival.datagram.track_alias).lt_of_next_count hcount
    · rw [sequences_append_of_ne halias]
      exact ih hbefore track_alias

end tracking

section accuracy

variable {received : List Nat} {report : QualityReport}

theorem card_toFinset_eq_length_iff : received.length = received.toFinset.card ↔ received.Nodup := by
  rw [eq_comm]
  exact Multiset.toFinset_card_eq_card_iff_nodup

/-- A report that was tracked is accurate just when nothing was lost, repeated or overtaken. -/
theorem Tracked.accurate_iff (htracked : Tracked received (some report))
    (hfits : received.length < 2 ^ 64) : report.Accurate received ↔ Gapless received := by
  obtain ⟨hlast, hcount, hlost⟩ := htracked
  have hmem : report.last_seq ∈ received := List.mem_of_getLast? hlast
  constructor
  · intro haccurate
    refine ⟨?_, ?_, ?_, hfits⟩
    · rw [← card_toFinset_eq_length_iff, ← hcount]
      exact haccurate.distinct
    · intro sequence hsequence final hfinal
      rw [hlast] at hfinal
      cases hfinal
      exact haccurate.highest.2 sequence hsequence
    · intro first hfirst second hsecond sequence hlow hhigh
      obtain ⟨lowest, hlowest, hleast⟩ :=
        received.toFinset.exists_min_image id ⟨first, List.mem_toFinset.2 hfirst⟩
      simp only [List.mem_toFinset, id] at hlowest hleast
      have hnone := haccurate.missing lowest hlowest hleast
      rw [hlost, eq_comm, Finset.card_eq_zero, Finset.sdiff_eq_empty_iff_subset] at hnone
      have hinside : sequence ∈ Finset.Icc lowest report.last_seq :=
        Finset.mem_Icc.2 ⟨(hleast first hfirst).trans hlow,
          hhigh.trans (haccurate.highest.2 second hsecond)⟩
      exact List.mem_toFinset.1 (hnone hinside)
  · intro hgapless
    refine ⟨⟨hmem, fun sequence hsequence => hgapless.last sequence hsequence _ hlast⟩, ?_, ?_⟩
    · rw [hcount, card_toFinset_eq_length_iff]
      exact hgapless.nodup
    · intro lowest hlowest _
      rw [hlost, eq_comm, Finset.card_eq_zero, Finset.sdiff_eq_empty_iff_subset]
      intro sequence hsequence
      obtain ⟨hlow, hhigh⟩ := Finset.mem_Icc.1 hsequence
      exact List.mem_toFinset.2 (hgapless.dense lowest hlowest _ hmem sequence hlow hhigh)

theorem Tracked.exists_report {found : Option QualityReport} (htracked : Tracked received found)
    (hreceived : received ≠ []) : ∃ report, found = some report := by
  cases found with
  | none => exact absurd htracked hreceived
  | some report => exact ⟨report, rfl⟩

theorem sequences_ne_nil {arrivals : List Arrival} {arrival : Arrival} (harrival : arrival ∈ arrivals) :
    sequences arrival.datagram.track_alias arrivals ≠ [] := by
  refine List.ne_nil_of_mem (a := arrival.datagram.sequence.toNat) ?_
  exact List.mem_map.2 ⟨arrival, List.mem_filter.2 ⟨harrival, by simp⟩, rfl⟩

/-- The reports are accurate just when on every track the numbers come once each and without a gap,
and the highest one comes last. -/
theorem accurateReports_iff (arrivals : List Arrival) :
    AccurateReports arrivals ↔
      ∀ arrival ∈ arrivals, Gapless (sequences arrival.datagram.track_alias arrivals) := by
  constructor
  · intro haccurate arrival harrival
    obtain ⟨reports, hrecorded, hreports⟩ := haccurate .checks
    have hfits := length_sequences_lt hrecorded
    obtain ⟨reports', hrecorded', htracked⟩ := recorded_tracks .checks arrivals hfits
    cases hrecorded.symm.trans hrecorded'
    obtain ⟨report, hfound, hreport⟩ := hreports arrival harrival
    have htrack := htracked arrival.datagram.track_alias
    rw [hfound] at htrack
    exact (htrack.accurate_iff (hfits _)).1 hreport
  · intro hgapless build
    have hfits (track_alias : UInt32) : (sequences track_alias arrivals).length < 2 ^ 64 := by
      by_cases hseen : ∃ arrival ∈ arrivals, arrival.datagram.track_alias = track_alias
      · obtain ⟨arrival, harrival, rfl⟩ := hseen
        exact (hgapless arrival harrival).countable
      · have hnone : sequences track_alias arrivals = [] := by
          rw [sequences, List.map_eq_nil_iff, List.filter_eq_nil_iff]
          intro arrival harrival halias
          exact hseen ⟨arrival, harrival, by simpa using halias⟩
        rw [hnone]
        exact Nat.two_pow_pos 64
    obtain ⟨reports, hrecorded, htracked⟩ := recorded_tracks build arrivals hfits
    refine ⟨reports, hrecorded, fun arrival harrival => ?_⟩
    have htrack := htracked arrival.datagram.track_alias
    obtain ⟨report, hfound⟩ := htrack.exists_report (sequences_ne_nil harrival)
    rw [hfound] at htrack
    exact ⟨report, hfound, (htrack.accurate_iff (hfits _)).2 (hgapless arrival harrival)⟩

end accuracy

/-- A datagram of the first track with this number. -/
def heard (sequence : UInt64) : Arrival := ⟨0, .audio 1 sequence 0 []⟩

/-- A lost datagram is not counted, a late one takes back the last number, and a repeated one
counts twice. -/
theorem not_accurateReports :
    (recorded .checks [heard 5, heard 7]).map (·.map fun r => (r.last_seq, r.received, r.lost)) =
        .ok [(7, 2, 0)] ∧
      (recorded .checks [heard 5, heard 7, heard 6, heard 6]).map
        (·.map fun r => (r.last_seq, r.received, r.lost)) = .ok [(6, 4, 0)] ∧
      ¬ AccurateReports [heard 5, heard 7] := by
  refine ⟨by decide, by decide, fun haccurate => ?_⟩
  obtain ⟨reports, hrecorded, hreports⟩ := haccurate .checks
  cases hrecorded
  obtain ⟨report, hfound, hreport⟩ := hreports (heard 5) List.mem_cons_self
  cases hfound
  have hmissing := hreport.missing 5 (by decide) (by decide)
  exact absurd hmissing (by decide)

end voip_client.moq
