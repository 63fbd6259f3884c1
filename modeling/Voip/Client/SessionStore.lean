import Mathlib.Logic.Function.Basic
import Voip.Machine.History

namespace voip_client.session_store

def MAX_TLS13_TICKETS_PER_SERVER : Nat := 4

/-- What is kept for a server, oldest first: its TLS 1.3 tickets and, in a queue of its own, when
they were stored. -/
structure ServerData (τ : Type) where
  tls13 : List τ := []
  tls13_timestamps : List Nat := []
  deriving DecidableEq

structure SessionTicketStore (ν τ : Type) where
  servers : ν → Option (ServerData τ)
  ttl : Nat

namespace ServerData

variable {τ : Type}

/-- The loop that evicts, on the two queues. `duration_since` saturates. -/
def evict_while (ttl now : Nat) (tls13 : List τ) : List Nat → ServerData τ
  | [] => ⟨tls13, []⟩
  | stored_at :: later =>
    if ttl ≤ now - stored_at then evict_while ttl now tls13.tail later
    else ⟨tls13, stored_at :: later⟩

def evict_expired_tickets (data : ServerData τ) (ttl now : Nat) : ServerData τ :=
  evict_while ttl now data.tls13 data.tls13_timestamps

/-- The limit on the number of tickets, and the new ticket at the back. -/
def push_back (data : ServerData τ) (value : τ) (now : Nat) : ServerData τ :=
  let data :=
    if MAX_TLS13_TICKETS_PER_SERVER ≤ data.tls13.length then
      { tls13 := data.tls13.tail, tls13_timestamps := data.tls13_timestamps.tail }
    else data
  { tls13 := data.tls13 ++ [value], tls13_timestamps := data.tls13_timestamps ++ [now] }

/-- Taking a ticket leaves the timestamps as they are. -/
def pop_back (data : ServerData τ) : ServerData τ := { data with tls13 := data.tls13.dropLast }

end ServerData

variable {ν τ : Type} [DecidableEq ν]

namespace SessionTicketStore

/-- The clock is in nanoseconds. -/
def new (ttl_secs : Nat) : SessionTicketStore ν τ :=
  { servers := fun _ => none, ttl := ttl_secs * 1000000000 }

/-- The first reading of the clock becomes the timestamp, the second decides which tickets have
expired. -/
def insert_tls13_ticket (store : SessionTicketStore ν τ) (server_name : ν) (value : τ)
    (now evict_now : Nat) : SessionTicketStore ν τ :=
  let data := (store.servers server_name).getD {}
  let data := data.evict_expired_tickets store.ttl evict_now
  { store with servers := Function.update store.servers server_name (some (data.push_back value now)) }

def take_tls13_ticket (store : SessionTicketStore ν τ) (server_name : ν) (evict_now : Nat) :
    Option τ × SessionTicketStore ν τ :=
  match store.servers server_name with
  | none => (none, store)
  | some data =>
    let data := data.evict_expired_tickets store.ttl evict_now
    (data.tls13.getLast?,
      { store with servers := Function.update store.servers server_name (some data.pop_back) })

end SessionTicketStore

/-- A use of the store, with the readings of the clock during it. -/
inductive Call (ν τ : Type) where
  | insert_tls13_ticket (server_name : ν) (value : τ) (now evict_now : Nat)
  | take_tls13_ticket (server_name : ν) (evict_now : Nat)
  deriving DecidableEq

namespace Call

def server_name : Call ν τ → ν
  | insert_tls13_ticket server_name _ _ _ => server_name
  | take_tls13_ticket server_name _ => server_name

def evict_now : Call ν τ → Nat
  | insert_tls13_ticket _ _ _ evict_now => evict_now
  | take_tls13_ticket _ evict_now => evict_now

def readings : Call ν τ → List Nat
  | insert_tls13_ticket _ _ now evict_now => [now, evict_now]
  | take_tls13_ticket _ evict_now => [evict_now]

/-- What a use of the store makes of the data of its server, once the expired tickets are gone. -/
def update : Call ν τ → ServerData τ → ServerData τ
  | insert_tls13_ticket _ value now _, data => data.push_back value now
  | take_tls13_ticket _ _, data => data.pop_back

def answer : Call ν τ → ServerData τ → Option τ
  | insert_tls13_ticket _ _ _ _, _ => none
  | take_tls13_ticket _ _, data => data.tls13.getLast?

end Call

/-- No reading of the clock is earlier than one before it. -/
def MonotoneClock (calls : List (Call ν τ)) : Prop := (calls.flatMap Call.readings).Pairwise (· ≤ ·)

instance (calls : List (Call ν τ)) : Decidable (MonotoneClock calls) :=
  inferInstanceAs (Decidable ((calls.flatMap Call.readings).Pairwise (· ≤ ·)))

namespace SessionTicketStore

def step (store : SessionTicketStore ν τ) : Call ν τ → Option τ × SessionTicketStore ν τ
  | .insert_tls13_ticket server_name value now evict_now =>
    (none, store.insert_tls13_ticket server_name value now evict_now)
  | .take_tls13_ticket server_name evict_now => store.take_tls13_ticket server_name evict_now

/-- The data of a server, empty where nothing has been stored. -/
def data (store : SessionTicketStore ν τ) (server_name : ν) : ServerData τ :=
  (store.servers server_name).getD {}

/-- The data of the server of a call as the call finds it once it has evicted. -/
def evicted (store : SessionTicketStore ν τ) (call : Call ν τ) : ServerData τ :=
  (store.data call.server_name).evict_expired_tickets store.ttl call.evict_now

omit [DecidableEq ν] in
@[simp] theorem data_new (ttl_secs : Nat) (name : ν) :
    (new ttl_secs : SessionTicketStore ν τ).data name = {} := rfl

omit [DecidableEq ν] in
theorem evict_empty (ttl now : Nat) : ({} : ServerData τ).evict_expired_tickets ttl now = {} := rfl

/-- The answer of a call. -/
theorem step_answer (store : SessionTicketStore ν τ) (call : Call ν τ) :
    (store.step call).1 = call.answer (store.evicted call) := by
  cases call with
  | insert_tls13_ticket => rfl
  | take_tls13_ticket server_name evict_now =>
    simp only [step, take_tls13_ticket, Call.answer, evicted, data, Call.server_name, Call.evict_now]
    cases store.servers server_name <;> rfl

/-- A call changes the data of its own server only. -/
theorem data_step (store : SessionTicketStore ν τ) (call : Call ν τ) (name : ν) :
    (store.step call).2.data name =
      if name = call.server_name then call.update (store.evicted call) else store.data name := by
  cases call with
  | insert_tls13_ticket server_name value now evict_now =>
    by_cases hname : name = server_name
    · subst hname
      simp [step, insert_tls13_ticket, data, evicted, Call.server_name, Call.evict_now, Call.update]
    · simp [step, insert_tls13_ticket, data, hname, Call.server_name]
  | take_tls13_ticket server_name evict_now =>
    simp only [step, take_tls13_ticket, Call.server_name, Call.update, evicted, Call.evict_now]
    by_cases hname : name = server_name
    · subst hname
      cases hdata : store.servers name with
      | none => simp [data, hdata, evict_empty, ServerData.pop_back]
      | some found => simp [data, hdata]
    · cases hdata : store.servers server_name with
      | none => simp [hname]
      | some found => simp [data, hname]

end SessionTicketStore

end voip_client.session_store
