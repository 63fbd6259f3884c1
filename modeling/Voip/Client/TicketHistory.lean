import Voip.Client.SessionStore

namespace voip_client.session_store

open machine

/-- A ticket with the number of its insertion and the time of it. The store never looks into a
ticket, so it runs on these as on tickets. -/
structure Inserted (τ : Type) where
  ticket : τ
  number : Nat
  inserted_at : Nat
  deriving DecidableEq

/-- A store of numbered tickets, how many were inserted, and the last reading of the clock. -/
structure Watched (ν τ : Type) where
  store : SessionTicketStore ν (Inserted τ)
  inserts : Nat
  clock : Nat

variable {ν τ : Type} [DecidableEq ν]

/-- The call with the ticket it inserts numbered. -/
def Call.watched (inserts : Nat) : Call ν τ → Call ν (Inserted τ)
  | .insert_tls13_ticket server_name value now evict_now =>
    .insert_tls13_ticket server_name ⟨value, inserts, now⟩ now evict_now
  | .take_tls13_ticket server_name evict_now => .take_tls13_ticket server_name evict_now

def Call.inserts : Call ν τ → Nat
  | .insert_tls13_ticket _ _ _ _ => 1
  | .take_tls13_ticket _ _ => 0

namespace Watched

def new (ttl_secs : Nat) : Watched ν τ := ⟨.new ttl_secs, 0, 0⟩

def step (watched : Watched ν τ) (call : Call ν τ) : Option (Inserted τ) × Watched ν τ :=
  let (answer, store) := watched.store.step (call.watched watched.inserts)
  (answer, { store, inserts := watched.inserts + call.inserts, clock := call.evict_now })

end Watched

section Erasure

variable {ρ : Type} (f : ρ → τ)

def ServerData.map (data : ServerData ρ) : ServerData τ :=
  { tls13 := data.tls13.map f, tls13_timestamps := data.tls13_timestamps }

def SessionTicketStore.map (store : SessionTicketStore ν ρ) : SessionTicketStore ν τ :=
  { servers := fun name => (store.servers name).map (ServerData.map f), ttl := store.ttl }

theorem ServerData.map_evict_while (ttl now : Nat) (tls13 : List ρ) (timestamps : List Nat) :
    (evict_while ttl now tls13 timestamps).map f = evict_while ttl now (tls13.map f) timestamps := by
  induction timestamps generalizing tls13 with
  | nil => rfl
  | cons stored_at later ih =>
    simp only [evict_while]
    split
    · rw [ih, List.map_tail]
    · rfl

theorem ServerData.map_push_back (data : ServerData ρ) (value : ρ) (now : Nat) :
    (data.push_back value now).map f = (data.map f).push_back (f value) now := by
  simp only [push_back, map, List.length_map]
  split <;> simp [List.map_tail]

theorem ServerData.map_pop_back (data : ServerData ρ) : data.pop_back.map f = (data.map f).pop_back := by
  simp [pop_back, map, List.map_dropLast]

theorem ServerData.map_evict (data : ServerData ρ) (ttl now : Nat) :
    (data.evict_expired_tickets ttl now).map f = (data.map f).evict_expired_tickets ttl now :=
  map_evict_while f ttl now data.tls13 data.tls13_timestamps

theorem SessionTicketStore.map_update (store : SessionTicketStore ν ρ) (name : ν) (data : ServerData ρ) :
    ({ store with servers := Function.update store.servers name (some data) } : SessionTicketStore ν ρ).map f =
      { store.map f with servers := Function.update (store.map f).servers name (some (data.map f)) } := by
  simp only [SessionTicketStore.map, mk.injEq, and_true]
  funext n
  by_cases hname : n = name <;> simp [hname]

theorem SessionTicketStore.map_insert (store : SessionTicketStore ν ρ) (name : ν) (value : ρ)
    (now evict_now : Nat) :
    (store.insert_tls13_ticket name value now evict_now).map f =
      (store.map f).insert_tls13_ticket name (f value) now evict_now := by
  have hdata : ((store.map f).servers name).getD {} = ((store.servers name).getD {}).map f := by
    cases hfound : store.servers name <;> simp [SessionTicketStore.map, hfound, ServerData.map]
  simp only [insert_tls13_ticket, map_update, ServerData.map_push_back, ServerData.map_evict, hdata]
  rfl

theorem SessionTicketStore.map_take (store : SessionTicketStore ν ρ) (name : ν) (evict_now : Nat) :
    (store.map f).take_tls13_ticket name evict_now =
      ((store.take_tls13_ticket name evict_now).1.map f, (store.take_tls13_ticket name evict_now).2.map f) := by
  cases hfound : store.servers name with
  | none => simp [take_tls13_ticket, SessionTicketStore.map, hfound]
  | some data =>
    have hdata : (store.map f).servers name = some (data.map f) := by simp [SessionTicketStore.map, hfound]
    have hlast : ((data.map f).evict_expired_tickets store.ttl evict_now).tls13.getLast? =
        (data.evict_expired_tickets store.ttl evict_now).tls13.getLast?.map f := by
      rw [← ServerData.map_evict, ServerData.map, List.getLast?_map]
    simp only [take_tls13_ticket, hfound, hdata, map_update, ServerData.map_pop_back,
      ServerData.map_evict]
    exact Prod.ext hlast rfl

end Erasure

/-- The clock has moved on since the last call, and does so during this one. -/
def Watched.Advances (watched : Watched ν τ) : Call ν τ → Prop
  | .insert_tls13_ticket _ _ now evict_now => watched.clock ≤ now ∧ now ≤ evict_now
  | .take_tls13_ticket _ evict_now => watched.clock ≤ evict_now

theorem MonotoneClock.along (watched : Watched ν τ) {calls : List (Call ν τ)}
    (hclock : (watched.clock :: calls.flatMap Call.readings).Pairwise (· ≤ ·))
    (past : List (Call ν τ × Option (Inserted τ))) :
    Along Watched.step (fun _ watched call => watched.Advances call) past watched calls := by
  induction calls generalizing past watched with
  | nil => trivial
  | cons call calls ih =>
    cases call with
    | insert_tls13_ticket server_name value now evict_now =>
      simp only [List.flatMap_cons, Call.readings, List.cons_append, List.nil_append,
        List.pairwise_cons, List.forall_mem_cons] at hclock
      obtain ⟨⟨hnow, -, -⟩, ⟨hevict, -⟩, hlater, hrest⟩ := hclock
      exact ⟨⟨hnow, hevict⟩, ih _ (List.pairwise_cons.mpr ⟨hlater, hrest⟩) _⟩
    | take_tls13_ticket server_name evict_now =>
      simp only [List.flatMap_cons, Call.readings, List.cons_append, List.nil_append,
        List.pairwise_cons, List.forall_mem_cons] at hclock
      obtain ⟨⟨hevict, -⟩, hlater, hrest⟩ := hclock
      exact ⟨hevict, ih _ (List.pairwise_cons.mpr ⟨hlater, hrest⟩) _⟩

namespace Watched

def data (watched : Watched ν τ) (name : ν) : ServerData (Inserted τ) := watched.store.data name

/-- What a call finds of its server once it has evicted. -/
def evicted (watched : Watched ν τ) (call : Call ν τ) : ServerData (Inserted τ) :=
  (watched.data call.server_name).evict_expired_tickets watched.store.ttl call.evict_now

omit [DecidableEq ν] in
theorem watched_evicted (watched : Watched ν τ) (call : Call ν τ) :
    watched.store.evicted (call.watched watched.inserts) = watched.evicted call := by
  cases call <;> rfl

theorem step_answer (watched : Watched ν τ) (call : Call ν τ) :
    (watched.step call).1 = (call.watched watched.inserts).answer (watched.evicted call) := by
  rw [← watched_evicted]
  exact watched.store.step_answer _

theorem data_step (watched : Watched ν τ) (call : Call ν τ) (name : ν) :
    (watched.step call).2.data name =
      if name = call.server_name then (call.watched watched.inserts).update (watched.evicted call)
      else watched.data name := by
  have hname : (call.watched watched.inserts).server_name = call.server_name := by cases call <;> rfl
  rw [← watched_evicted, ← hname]
  exact watched.store.data_step _ name

/-- The store without the numbers. -/
def erase (watched : Watched ν τ) : SessionTicketStore ν τ := watched.store.map Inserted.ticket

/-- Numbering the tickets changes nothing the store does. -/
theorem step_erase (watched : Watched ν τ) (call : Call ν τ) :
    watched.erase.step call =
      ((watched.step call).1.map Inserted.ticket, (watched.step call).2.erase) := by
  cases call with
  | insert_tls13_ticket server_name value now evict_now =>
    have hstore := SessionTicketStore.map_insert Inserted.ticket watched.store server_name
      ⟨value, watched.inserts, now⟩ now evict_now
    exact Prod.ext rfl hstore.symm
  | take_tls13_ticket server_name evict_now =>
    exact SessionTicketStore.map_take Inserted.ticket watched.store server_name evict_now

/-- The history of the store is that of the store of numbered tickets without the numbers. -/
theorem history_erase (ttl_secs : Nat) (calls : List (Call ν τ)) :
    history SessionTicketStore.step (SessionTicketStore.new ttl_secs) calls =
      (history step (new ttl_secs) calls).map fun entry => (entry.1, entry.2.map Inserted.ticket) :=
  history_of_simulation erase (Option.map Inserted.ticket) step_erase (new ttl_secs) calls

end Watched

end voip_client.session_store
