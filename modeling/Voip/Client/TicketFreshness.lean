import Mathlib.Order.Lattice
import Voip.Client.TicketHistory
import Voip.Queue.Stamped

namespace voip_client.session_store

open machine queue

variable {ν τ : Type} [DecidableEq ν]

namespace ServerData

/-- The rule for the loop that evicts: what popping both queues preserves. -/
theorem evict_invariant {P : List τ → List Nat → Prop}
    (hpop : ∀ tls13 timestamps, P tls13 timestamps → P tls13.tail timestamps.tail)
    {data : ServerData τ} (hdata : P data.tls13 data.tls13_timestamps) (ttl now : Nat) :
    P (data.evict_expired_tickets ttl now).tls13 (data.evict_expired_tickets ttl now).tls13_timestamps := by
  obtain ⟨tls13, timestamps⟩ := data
  unfold evict_expired_tickets
  induction timestamps generalizing tls13 with
  | nil => exact hdata
  | cons stored_at later ih =>
    dsimp only [evict_while]
    split
    · exact ih tls13.tail (hpop tls13 _ hdata)
    · exact hdata

theorem evict_suffix (data : ServerData τ) (ttl now : Nat) :
    (data.evict_expired_tickets ttl now).tls13 <:+ data.tls13 :=
  evict_invariant (P := fun tls13 _ => tls13 <:+ data.tls13)
    (fun tls13 _ hsuffix => (List.tail_suffix tls13).trans hsuffix) (List.suffix_refl _) ttl now

/-- The loop stops at a timestamp that has not expired. -/
theorem evict_head_live (data : ServerData τ) (ttl now : Nat) :
    ∀ stored_at ∈ (data.evict_expired_tickets ttl now).tls13_timestamps.head?, now - stored_at < ttl := by
  obtain ⟨tls13, timestamps⟩ := data
  unfold evict_expired_tickets
  induction timestamps generalizing tls13 with
  | nil => simp [evict_while]
  | cons stored_at later ih =>
    dsimp only [evict_while]
    split
    · exact ih tls13.tail
    next hlive => simpa using hlive

end ServerData

/-- The timestamps ascend and cover the tickets: at the place of a ticket there is one that is no
later than its insertion. The tickets are in the order of their insertions. -/
structure Ordered (inserts clock : Nat) (data : ServerData (Inserted τ)) : Prop where
  stamped : Stamped Inserted.inserted_at data.tls13_timestamps data.tls13
  ascending : data.tls13_timestamps.Pairwise (· ≤ ·)
  past : ∀ stored_at ∈ data.tls13_timestamps, stored_at ≤ clock
  numbers : data.tls13.Pairwise fun older newer => older.number < newer.number
  inserted : ∀ ticket ∈ data.tls13, ticket.number < inserts ∧ ticket.inserted_at ≤ clock

namespace Ordered

variable {inserts clock : Nat} {data : ServerData (Inserted τ)}

theorem empty : Ordered inserts clock ({} : ServerData (Inserted τ)) where
  stamped := .nil _
  ascending := .nil
  past := by simp
  numbers := .nil
  inserted := by simp

theorem later {clock' : Nat} (hdata : Ordered inserts clock data) (hclock : clock ≤ clock') :
    Ordered inserts clock' data where
  stamped := hdata.stamped
  ascending := hdata.ascending
  past := fun stored_at hstored => (hdata.past stored_at hstored).trans hclock
  numbers := hdata.numbers
  inserted := fun ticket hticket =>
    ⟨(hdata.inserted ticket hticket).1, (hdata.inserted ticket hticket).2.trans hclock⟩

theorem pop_front (hdata : Ordered inserts clock data) :
    Ordered inserts clock
      { tls13 := data.tls13.tail, tls13_timestamps := data.tls13_timestamps.tail } where
  stamped := hdata.stamped.tail
  ascending := hdata.ascending.tail
  past := fun stored_at hstored => hdata.past stored_at (List.mem_of_mem_tail hstored)
  numbers := hdata.numbers.tail
  inserted := fun ticket hticket => hdata.inserted ticket (List.mem_of_mem_tail hticket)

theorem evict (hdata : Ordered inserts clock data) (ttl now : Nat) :
    Ordered inserts clock (data.evict_expired_tickets ttl now) :=
  ServerData.evict_invariant (P := fun tls13 timestamps => Ordered inserts clock ⟨tls13, timestamps⟩)
    (fun _ _ hdata => hdata.pop_front) hdata ttl now

theorem pop_back (hdata : Ordered inserts clock data) : Ordered inserts clock data.pop_back where
  stamped := hdata.stamped.dropLast
  ascending := hdata.ascending
  past := hdata.past
  numbers := hdata.numbers.sublist (List.dropLast_sublist _)
  inserted := fun ticket hticket => hdata.inserted ticket ((List.dropLast_sublist _).subset hticket)

theorem push_back (hdata : Ordered inserts clock data) (value : τ) {now : Nat} (hnow : clock ≤ now) :
    Ordered (inserts + 1) now (data.push_back ⟨value, inserts, now⟩ now) := by
  -- the limit pops both fronts, so the rest is about appending to ordered data
  have happend : ∀ {data : ServerData (Inserted τ)}, Ordered inserts clock data →
      Ordered (inserts + 1) now
        ⟨data.tls13 ++ [⟨value, inserts, now⟩], data.tls13_timestamps ++ [now]⟩ := by
    intro data hdata
    refine ⟨?_, ?_, ?_, ?_, ?_⟩
    · exact hdata.stamped.append_singleton ⟨value, inserts, now⟩
        fun stored_at hstored => (hdata.past stored_at hstored).trans hnow
    · refine List.pairwise_append.mpr ⟨hdata.ascending, List.pairwise_singleton .., ?_⟩
      intro stored_at hstored _ hlast
      rw [List.mem_singleton.mp hlast]
      exact (hdata.past stored_at hstored).trans hnow
    · refine List.forall_mem_append.mpr ⟨fun stored_at hstored => ?_, by simp⟩
      exact (hdata.past stored_at hstored).trans hnow
    · refine List.pairwise_append.mpr ⟨hdata.numbers, List.pairwise_singleton .., ?_⟩
      intro ticket hticket _ hlast
      rw [List.mem_singleton.mp hlast]
      exact (hdata.inserted ticket hticket).1
    · refine List.forall_mem_append.mpr ⟨fun ticket hticket => ?_, by simp⟩
      obtain ⟨hnumber, hclock⟩ := hdata.inserted ticket hticket
      exact ⟨by omega, hclock.trans hnow⟩
  unfold ServerData.push_back
  split
  · exact happend hdata.pop_front
  · exact happend hdata

/-- After the eviction no ticket is older than the first timestamp allows. -/
theorem fresh (hdata : Ordered inserts clock data) {ttl now : Nat} {ticket : Inserted τ}
    (hticket : ticket ∈ (data.evict_expired_tickets ttl now).tls13) : now - ticket.inserted_at < ttl := by
  have hevicted := hdata.evict ttl now
  have hlive := data.evict_head_live ttl now
  obtain ⟨stored_at, hstored, hle⟩ := hevicted.stamped.exists_stamp_le hticket
  have hascending := hevicted.ascending
  cases htimestamps : (data.evict_expired_tickets ttl now).tls13_timestamps with
  | nil => simp [htimestamps] at hstored
  | cons first later =>
    rw [htimestamps] at hlive hstored hascending
    have hfirst : first ≤ stored_at := by
      rcases List.mem_cons.mp hstored with rfl | hstored
      · exact Nat.le_refl _
      · exact List.rel_of_pairwise_cons hascending hstored
    have := hlive first rfl
    omega

theorem lt_last (hdata : Ordered inserts clock data) {front : List (Inserted τ)} {last ticket : Inserted τ}
    (hsplit : data.tls13 = front ++ [last]) (hticket : ticket ∈ front) : ticket.number < last.number := by
  have hnumbers := hdata.numbers
  rw [hsplit] at hnumbers
  exact (List.pairwise_append.mp hnumbers).2.2 ticket hticket last List.mem_cons_self

/-- Of the tickets before an eviction, the last one after it has the greatest number. -/
theorem le_last (hdata : Ordered inserts clock data) {ttl now : Nat} {last ticket : Inserted τ}
    (hlast : last ∈ (data.evict_expired_tickets ttl now).tls13.getLast?) (hticket : ticket ∈ data.tls13) :
    ticket.number ≤ last.number := by
  obtain ⟨front, hfront⟩ := data.evict_suffix ttl now
  rw [← List.dropLast_append_getLast? last hlast, ← List.append_assoc] at hfront
  rw [← hfront] at hticket
  rcases List.mem_append.mp hticket with hticket | hticket
  · exact (hdata.lt_last hfront.symm hticket).le
  · rw [List.mem_singleton.mp hticket]

end Ordered

namespace Watched

/-- A number is on no two tickets of the store, and on none that has been taken. -/
structure Sound (past : List (Call ν τ × Option (Inserted τ))) (watched : Watched ν τ) : Prop where
  ordered : ∀ name, Ordered watched.inserts watched.clock (watched.data name)
  apart : ∀ name other, name ≠ other → ∀ ticket ∈ (watched.data name).tls13,
    ∀ elsewhere ∈ (watched.data other).tls13, ticket.number ≠ elsewhere.number
  taken : ∀ entry ∈ past, ∀ gone ∈ entry.2, gone.number < watched.inserts ∧
    ∀ name, ∀ ticket ∈ (watched.data name).tls13, ticket.number ≠ gone.number

variable {past : List (Call ν τ × Option (Inserted τ))} {watched : Watched ν τ} {call : Call ν τ}

omit [DecidableEq ν] in
theorem Sound.new (ttl_secs : Nat) : Sound [] (Watched.new ttl_secs : Watched ν τ) where
  ordered := fun _ => Ordered.empty
  apart := by simp [data, Watched.new]
  taken := by simp

/-- The tickets of a server after a call: some of those before, and the one the call inserts. -/
theorem mem_step (name : ν) {ticket : Inserted τ} (hticket : ticket ∈ ((watched.step call).2.data name).tls13) :
    ticket ∈ (watched.data name).tls13 ∨
      name = call.server_name ∧ ticket.number = watched.inserts ∧ call.inserts = 1 := by
  rw [data_step] at hticket
  split at hticket
  next hname =>
    subst hname
    have hsuffix := ServerData.evict_suffix (watched.data call.server_name) watched.store.ttl call.evict_now
    cases call with
    | insert_tls13_ticket server_name value now evict_now =>
      simp only [Call.watched, Call.update, ServerData.push_back, List.mem_append, List.mem_singleton] at hticket
      rcases hticket with hticket | rfl
      · refine Or.inl (hsuffix.subset ?_)
        split at hticket
        · exact List.mem_of_mem_tail hticket
        · exact hticket
      · exact Or.inr ⟨rfl, rfl, rfl⟩
    | take_tls13_ticket server_name evict_now =>
      exact Or.inl (hsuffix.subset ((List.dropLast_sublist _).subset hticket))
  next => exact Or.inl hticket

theorem Sound.ordered_step (hsound : Sound past watched) (hclock : watched.Advances call) (name : ν) :
    Ordered (watched.step call).2.inserts (watched.step call).2.clock ((watched.step call).2.data name) := by
  have hevicted : Ordered watched.inserts watched.clock (watched.evicted call) :=
    (hsound.ordered call.server_name).evict _ _
  rw [data_step]
  cases call with
  | insert_tls13_ticket server_name value now evict_now =>
    obtain ⟨hnow, hevict⟩ := hclock
    split
    · exact (hevicted.push_back value hnow).later hevict
    · have hdata := (hsound.ordered name).later (hnow.trans hevict)
      exact ⟨hdata.stamped, hdata.ascending, hdata.past, hdata.numbers,
        fun ticket hticket =>
          ⟨Nat.lt_succ_of_lt (hdata.inserted ticket hticket).1, (hdata.inserted ticket hticket).2⟩⟩
  | take_tls13_ticket server_name evict_now =>
    split
    · exact hevicted.pop_back.later hclock
    · exact (hsound.ordered name).later hclock

/-- A ticket that is returned was the last of its server, and its number stays with none. -/
theorem Sound.answer (hsound : Sound past watched) {server_name : ν} {evict_now : Nat}
    {gone : Inserted τ} (hgone : gone ∈ (watched.step (.take_tls13_ticket server_name evict_now)).1) :
    gone ∈ (watched.data server_name).tls13 ∧
      ∀ name, ∀ ticket ∈ ((watched.step (.take_tls13_ticket server_name evict_now)).2.data name).tls13,
        ticket.number ≠ gone.number := by
  rw [step_answer] at hgone
  have hstored : gone ∈ (watched.data server_name).tls13 :=
    (ServerData.evict_suffix _ _ _).subset (List.mem_of_getLast? hgone)
  refine ⟨hstored, fun name ticket hticket => ?_⟩
  rw [data_step] at hticket
  split at hticket
  next =>
    have hsplit := List.dropLast_append_getLast? gone hgone
    exact (((hsound.ordered server_name).evict _ _).lt_last hsplit.symm hticket).ne
  next hname => exact hsound.apart name server_name hname ticket hticket gone hstored

theorem Sound.step (hsound : Sound past watched) (hclock : watched.Advances call) :
    Sound (past ++ [(call, (watched.step call).1)]) (watched.step call).2 := by
  refine ⟨hsound.ordered_step hclock, ?_, ?_⟩
  · intro name other hne ticket hticket elsewhere helsewhere
    rcases mem_step name hticket with hticket | ⟨hname, hnumber, -⟩
    · rcases mem_step other helsewhere with helsewhere | ⟨-, hnumber, -⟩
      · exact hsound.apart name other hne ticket hticket elsewhere helsewhere
      · exact hnumber ▸ ((hsound.ordered name).inserted ticket hticket).1.ne
    · rcases mem_step other helsewhere with helsewhere | ⟨hother, -, -⟩
      · exact hnumber ▸ ((hsound.ordered other).inserted elsewhere helsewhere).1.ne'
      · exact absurd (hname.trans hother.symm) hne
  · refine List.forall_mem_append.mpr ⟨fun entry hentry gone hgone => ?_, ?_⟩
    · obtain ⟨hnumber, hnowhere⟩ := hsound.taken entry hentry gone hgone
      refine ⟨Nat.lt_add_right _ hnumber, fun name ticket hticket => ?_⟩
      rcases mem_step name hticket with hticket | ⟨-, heq, -⟩
      · exact hnowhere name ticket hticket
      · exact heq ▸ hnumber.ne'
    · intro entry hentry gone hgone
      rw [List.mem_singleton.mp hentry] at hgone
      cases call with
      | insert_tls13_ticket => cases hgone
      | take_tls13_ticket server_name evict_now =>
        obtain ⟨hstored, hnowhere⟩ := hsound.answer hgone
        exact ⟨((hsound.ordered server_name).inserted gone hstored).1, hnowhere⟩

/-- A returned ticket: younger than the time to live, not returned before, and the last inserted
of those that were stored. -/
structure Served (past : List (Call ν τ × Option (Inserted τ))) (stored : List (Inserted τ))
    (ttl now : Nat) (ticket : Inserted τ) : Prop where
  fresh : ticket.inserted_at ≤ now ∧ now - ticket.inserted_at < ttl
  once : ∀ entry ∈ past, ∀ gone ∈ entry.2, gone.number ≠ ticket.number
  latest : ticket ∈ stored ∧ ∀ other ∈ stored, other.number ≤ ticket.number

/-- What a take may answer. It returns nothing only if the eviction leaves nothing. -/
def Serves (past : List (Call ν τ × Option (Inserted τ))) (watched : Watched ν τ) : Call ν τ → Prop
  | .insert_tls13_ticket _ _ _ _ => True
  | .take_tls13_ticket server_name evict_now =>
    match (watched.step (.take_tls13_ticket server_name evict_now)).1 with
    | some ticket => Served past (watched.data server_name).tls13 watched.store.ttl evict_now ticket
    | none => (watched.evicted (.take_tls13_ticket server_name evict_now)).tls13 = []

theorem Sound.serves (hsound : Sound past watched) (hclock : watched.Advances call) :
    Serves past watched call := by
  cases call with
  | insert_tls13_ticket => trivial
  | take_tls13_ticket server_name evict_now =>
    dsimp only [Serves]
    have hdata := hsound.ordered server_name
    split
    next ticket hanswer =>
      obtain ⟨hstored, -⟩ := hsound.answer hanswer
      rw [step_answer] at hanswer
      refine ⟨⟨(hdata.inserted ticket hstored).2.trans hclock, hdata.fresh (List.mem_of_getLast? hanswer)⟩,
        fun entry hentry gone hgone => ?_, hstored, fun other hother => ?_⟩
      · exact ((hsound.taken entry hentry gone hgone).2 server_name ticket hstored).symm
      · exact hdata.le_last hanswer hother
    next hanswer =>
      rw [step_answer] at hanswer
      exact List.getLast?_eq_none_iff.mp hanswer

end Watched

/-- Along every sequence of calls, numbering the inserted tickets, a take returns a ticket only
before its age reaches the time to live, never one that was returned before, and of the stored ones
the last inserted. -/
theorem takes_fresh_once_latest (ttl_secs : Nat) (calls : List (Call ν τ)) (hclock : MonotoneClock calls) :
    history SessionTicketStore.step (SessionTicketStore.new ttl_secs) calls =
        (history Watched.step (Watched.new ttl_secs) calls).map
          (fun entry => (entry.1, entry.2.map Inserted.ticket)) ∧
      Along Watched.step Watched.Serves [] (Watched.new ttl_secs) calls := by
  refine ⟨Watched.history_erase ttl_secs calls, ?_⟩
  have hadvances := MonotoneClock.along (Watched.new ttl_secs)
    (List.pairwise_cons.mpr ⟨fun _ _ => Nat.zero_le _, hclock⟩) []
  refine Along.of_invariant (I := Watched.Sound) ?_ (Watched.Sound.new ttl_secs) hadvances
  intro past watched call hsound hnow
  exact ⟨hsound.serves hnow, hsound.step hnow⟩

/-- Two tickets for a server, taken one after the other half a second later. -/
def two_tickets : List (Call String String) :=
  [.insert_tls13_ticket "relay" "first" 0 0, .insert_tls13_ticket "relay" "second" 5 6,
    .take_tls13_ticket "relay" 500000000, .take_tls13_ticket "relay" 500000001]

theorem takes_second_before_first :
    (history SessionTicketStore.step (SessionTicketStore.new 1) two_tickets).map Prod.snd =
        [none, none, some "second", some "first"] ∧
      Along Watched.step Watched.Serves [] (Watched.new 1) two_tickets :=
  ⟨by decide, (takes_fresh_once_latest 1 two_tickets (by decide)).2⟩

end voip_client.session_store
