import Mathlib.Data.List.TakeWhile
import Voip.Client.TicketFreshness

namespace voip_client.session_store

open machine queue

variable {ν τ : Type} [DecidableEq ν]

/-- Each timestamp is the time at which the ticket at its place was inserted. -/
def Aligned (data : ServerData (Inserted τ)) : Prop :=
  data.tls13_timestamps = data.tls13.map Inserted.inserted_at

instance (data : ServerData (Inserted τ)) : Decidable (Aligned data) :=
  inferInstanceAs (Decidable (data.tls13_timestamps = data.tls13.map Inserted.inserted_at))

namespace Aligned

variable {data : ServerData (Inserted τ)}

theorem pop_front (hdata : Aligned data) :
    Aligned { tls13 := data.tls13.tail, tls13_timestamps := data.tls13_timestamps.tail } :=
  (congrArg List.tail hdata).trans List.map_tail.symm

theorem evict (hdata : Aligned data) (ttl now : Nat) : Aligned (data.evict_expired_tickets ttl now) :=
  ServerData.evict_invariant (P := fun tls13 timestamps => Aligned ⟨tls13, timestamps⟩)
    (fun _ _ hdata => hdata.pop_front) hdata ttl now

/-- As long as the queues are aligned, the eviction drops the tickets that have expired. -/
theorem evict_tls13 (hdata : Aligned data) (ttl now : Nat) :
    (data.evict_expired_tickets ttl now).tls13 =
      data.tls13.dropWhile fun ticket => decide (ttl ≤ now - ticket.inserted_at) := by
  obtain ⟨tls13, timestamps⟩ := data
  obtain rfl : timestamps = tls13.map Inserted.inserted_at := hdata
  unfold ServerData.evict_expired_tickets
  induction tls13 with
  | nil => rfl
  | cons ticket tls13 ih =>
    simp only [List.map_cons, ServerData.evict_while, List.dropWhile_cons, decide_eq_true_eq]
    split
    · exact ih
    · rfl

theorem push_back (hdata : Aligned data) (ticket : Inserted τ) :
    Aligned (data.push_back ticket ticket.inserted_at) := by
  have happend : ∀ {data : ServerData (Inserted τ)}, Aligned data →
      Aligned ⟨data.tls13 ++ [ticket], data.tls13_timestamps ++ [ticket.inserted_at]⟩ := by
    intro data hdata
    unfold Aligned at hdata ⊢
    rw [List.map_append, ← hdata, List.map_singleton]
  unfold ServerData.push_back
  split
  · exact happend hdata.pop_front
  · exact happend hdata

/-- A take that finds a ticket leaves a timestamp too many. -/
theorem pop_back_iff (hdata : Aligned data) : Aligned data.pop_back ↔ data.tls13 = [] := by
  constructor
  · intro hpopped
    have hlength : data.tls13_timestamps.length = (data.tls13.dropLast.map Inserted.inserted_at).length :=
      congrArg List.length hpopped
    rw [hdata, List.length_map, List.length_map, List.length_dropLast] at hlength
    exact List.length_eq_zero_iff.mp (by omega)
  · intro hempty
    unfold Aligned ServerData.pop_back
    rw [hdata, hempty]
    rfl

end Aligned

theorem ServerData.length_push_back {data : ServerData τ} (hfew : data.tls13.length ≤ 4) (value : τ) (now : Nat) :
    (data.push_back value now).tls13.length ≤ 4 := by
  have hmax : MAX_TLS13_TICKETS_PER_SERVER = 4 := rfl
  by_cases hfull : MAX_TLS13_TICKETS_PER_SERVER ≤ data.tls13.length
  · simp only [push_back, if_pos hfull, List.length_append, List.length_tail, List.length_singleton]
    omega
  · simp only [push_back, if_neg hfull, List.length_append, List.length_singleton]
    omega

/-- Pushing displaces a ticket only when four are there. -/
theorem ServerData.mem_push_back {data : ServerData τ} {ticket : τ} (hticket : ticket ∈ data.tls13)
    (value : τ) (now : Nat) : ticket ∈ (data.push_back value now).tls13 ∨ 4 ≤ data.tls13.length := by
  by_cases hfull : MAX_TLS13_TICKETS_PER_SERVER ≤ data.tls13.length
  · exact Or.inr hfull
  · simp only [push_back, if_neg hfull]
    exact Or.inl (List.mem_append_left _ hticket)

namespace Watched

/-- A ticket may go missing from a server's tickets in a call: it is returned, its age has
reached the time to live, or the call inserts a fifth ticket to four that are still live. -/
def MayLeave (watched : Watched ν τ) (call : Call ν τ) (name : ν) (ticket : Inserted τ) : Prop :=
  (watched.step call).1 = some ticket ∨ watched.store.ttl ≤ call.evict_now - ticket.inserted_at ∨
    call.inserts = 1 ∧ call.server_name = name ∧
      4 ≤ ((watched.data name).tls13.filter fun stored =>
        decide (call.evict_now - stored.inserted_at < watched.store.ttl)).length

/-- A call leaves at most four tickets with their own timestamps, and loses no live one. -/
structure Keeps (watched : Watched ν τ) (call : Call ν τ) : Prop where
  aligned : ∀ name, Aligned ((watched.step call).2.data name)
  few : ∀ name, ((watched.step call).2.data name).tls13.length ≤ 4
  leaves : ∀ name, ∀ ticket ∈ (watched.data name).tls13,
    ticket ∉ ((watched.step call).2.data name).tls13 → watched.MayLeave call name ticket

/-- A take comes when all tickets of its server have expired. -/
def TakesNone (watched : Watched ν τ) : Call ν τ → Prop
  | .insert_tls13_ticket _ _ _ _ => True
  | .take_tls13_ticket server_name evict_now =>
    ∀ ticket ∈ (watched.data server_name).tls13, watched.store.ttl ≤ evict_now - ticket.inserted_at

instance (watched : Watched ν τ) : (call : Call ν τ) → Decidable (watched.TakesNone call)
  | .insert_tls13_ticket _ _ _ _ => isTrue trivial
  | .take_tls13_ticket server_name evict_now =>
    inferInstanceAs (Decidable (∀ ticket ∈ (watched.data server_name).tls13,
      watched.store.ttl ≤ evict_now - ticket.inserted_at))

variable {past : List (Call ν τ × Option (Inserted τ))} {watched : Watched ν τ} {call : Call ν τ}

omit [DecidableEq ν] in
theorem evicted_eq_nil_iff (call : Call ν τ) (haligned : ∀ name, Aligned (watched.data name)) :
    (watched.evicted call).tls13 = [] ↔
      ∀ ticket ∈ (watched.data call.server_name).tls13,
        watched.store.ttl ≤ call.evict_now - ticket.inserted_at := by
  unfold evicted
  rw [(haligned _).evict_tls13, List.dropWhile_eq_nil_iff]
  simp only [decide_eq_true_eq]

omit [DecidableEq ν] in
/-- What an eviction drops has expired. -/
theorem mem_evicted_or (call : Call ν τ) (haligned : ∀ name, Aligned (watched.data name)) {ticket : Inserted τ}
    (hticket : ticket ∈ (watched.data call.server_name).tls13) :
    ticket ∈ (watched.evicted call).tls13 ∨ watched.store.ttl ≤ call.evict_now - ticket.inserted_at := by
  unfold evicted
  rw [(haligned _).evict_tls13]
  rw [← List.takeWhile_append_dropWhile (p := fun ticket : Inserted τ =>
    decide (watched.store.ttl ≤ call.evict_now - ticket.inserted_at))
    (l := (watched.data call.server_name).tls13)] at hticket
  rcases List.mem_append.mp hticket with hdropped | hleft
  · exact Or.inr (by simpa using List.mem_takeWhile_imp hdropped)
  · exact Or.inl hleft

omit [DecidableEq ν] in
/-- What an eviction leaves is live. -/
theorem length_evicted_le (hsound : Sound past watched) (call : Call ν τ) :
    (watched.evicted call).tls13.length ≤
      ((watched.data call.server_name).tls13.filter fun stored =>
        decide (call.evict_now - stored.inserted_at < watched.store.ttl)).length := by
  have hlive : (watched.evicted call).tls13.filter (fun stored =>
      decide (call.evict_now - stored.inserted_at < watched.store.ttl)) = (watched.evicted call).tls13 :=
    List.filter_eq_self.mpr fun stored hstored => decide_eq_true ((hsound.ordered _).fresh hstored)
  rw [← hlive]
  exact (((watched.data _).evict_suffix _ _).sublist.filter _).length_le

theorem Keeps.of_takesNone (hsound : Sound past watched) (haligned : ∀ name, Aligned (watched.data name))
    (hfew : ∀ name, (watched.data name).tls13.length ≤ 4) (htakes : watched.TakesNone call) :
    watched.Keeps call := by
  have hevicted : Aligned (watched.evicted call) := (haligned _).evict _ _
  have hlength : (watched.evicted call).tls13.length ≤ 4 :=
    ((watched.data _).evict_suffix _ _).length_le.trans (hfew _)
  have hlive := length_evicted_le hsound call
  cases call with
  | insert_tls13_ticket server_name value now evict_now =>
    refine ⟨fun name => ?_, fun name => ?_, fun name ticket hticket hgone => ?_⟩
    · rw [data_step]
      split
      · exact hevicted.push_back ⟨value, watched.inserts, now⟩
      · exact haligned name
    · rw [data_step]
      split
      · exact ServerData.length_push_back hlength _ _
      · exact hfew name
    · rw [data_step] at hgone
      split at hgone
      next hname =>
        subst hname
        rcases mem_evicted_or (.insert_tls13_ticket name value now evict_now) haligned hticket with hleft | hexpired
        · refine Or.inr (Or.inr ⟨rfl, rfl, ?_⟩)
          have hfull := (ServerData.mem_push_back hleft ⟨value, watched.inserts, now⟩ now).resolve_left hgone
          exact hfull.trans hlive
        · exact Or.inr (Or.inl hexpired)
      next => exact absurd hticket hgone
  | take_tls13_ticket server_name evict_now =>
    have hempty := (evicted_eq_nil_iff (.take_tls13_ticket server_name evict_now) haligned).mpr htakes
    refine ⟨fun name => ?_, fun name => ?_, fun name ticket hticket hgone => ?_⟩
    · rw [data_step]
      split
      · exact hevicted.pop_back_iff.mpr hempty
      · exact haligned name
    · rw [data_step]
      split
      · exact (List.dropLast_sublist _).length_le.trans hlength
      · exact hfew name
    · rw [data_step] at hgone
      split at hgone
      next hname =>
        subst hname
        exact Or.inr (Or.inl (htakes ticket hticket))
      next => exact absurd hticket hgone

theorem Keeps.takesNone (haligned : ∀ name, Aligned (watched.data name)) (hkeeps : watched.Keeps call) :
    watched.TakesNone call := by
  cases call with
  | insert_tls13_ticket => trivial
  | take_tls13_ticket server_name evict_now =>
    have hpopped := hkeeps.aligned server_name
    rw [data_step, if_pos (show server_name = Call.server_name (.take_tls13_ticket server_name evict_now) from rfl)]
      at hpopped
    exact (evicted_eq_nil_iff _ haligned).mp (((haligned _).evict _ _).pop_back_iff.mp hpopped)

end Watched

/-- A run keeps every ticket with its own timestamp, and loses no live one, exactly as long as no
take finds a ticket: a take leaves the timestamp of the ticket it returns behind, and from then on
tickets are evicted at the times of older ones. -/
theorem keeps_live_tickets_iff (ttl_secs : Nat) (calls : List (Call ν τ)) (hclock : MonotoneClock calls) :
    Along Watched.step (fun _ watched call => watched.Keeps call) [] (Watched.new ttl_secs) calls ↔
      Along Watched.step (fun _ watched call => watched.TakesNone call) [] (Watched.new ttl_secs) calls := by
  have hadvances := MonotoneClock.along (Watched.new ttl_secs)
    (List.pairwise_cons.mpr ⟨fun _ _ => Nat.zero_le _, hclock⟩) []
  refine Along.iff_of_invariant
    (I := fun past (watched : Watched ν τ) => Watched.Sound past watched ∧ (∀ name, Aligned (watched.data name)) ∧
      ∀ name, (watched.data name).tls13.length ≤ 4)
    ?_ ⟨Watched.Sound.new ttl_secs, fun _ => rfl, fun _ => Nat.zero_le _⟩ hadvances
  rintro past watched call ⟨hsound, haligned, hfew⟩ hnow
  refine ⟨⟨Watched.Keeps.takesNone haligned, Watched.Keeps.of_takesNone hsound haligned hfew⟩, fun hkeeps => ?_⟩
  exact ⟨hsound.step hnow, hkeeps.aligned, hkeeps.few⟩

/-- Tickets that expire before anyone asks for them. -/
def unused_tickets : List (Call String String) :=
  [.insert_tls13_ticket "relay" "A" 0 0, .insert_tls13_ticket "relay" "B" 10000000000 10000000001,
    .take_tls13_ticket "relay" 110000000000]

theorem keeps_unused_tickets :
    Along Watched.step (fun _ watched call => watched.Keeps call) [] (Watched.new 100) unused_tickets :=
  (keeps_live_tickets_iff 100 unused_tickets (by decide)).mpr (by decide)

/-- With a time to live of 100 s: B is taken, and its timestamp then stands at the place of C. -/
def drifting_tickets : List (Call String String) :=
  [.insert_tls13_ticket "relay" "A" 0 0, .insert_tls13_ticket "relay" "B" 10000000000 10000000000,
    .take_tls13_ticket "relay" 20000000000, .insert_tls13_ticket "relay" "C" 90000000000 90000000000,
    .take_tls13_ticket "relay" 110000000000]

theorem not_keeps_drifting_tickets :
    ¬ Along Watched.step (fun _ watched call => watched.Keeps call) [] (Watched.new 100) drifting_tickets ∧
      "C" ∈ ((final SessionTicketStore.step (.new 100) (drifting_tickets.take 4)).data "relay").tls13 ∧
      (final SessionTicketStore.step (.new 100) drifting_tickets).data "relay" = ⟨[], [90000000000]⟩ ∧
      (history SessionTicketStore.step (.new 100) drifting_tickets).map Prod.snd =
        [none, none, some "B", none, none] := by
  refine ⟨fun hkeeps => ?_, by decide, by decide, by decide⟩
  exact absurd (hkeeps.2.2.1.aligned "relay") (by decide)

end voip_client.session_store
