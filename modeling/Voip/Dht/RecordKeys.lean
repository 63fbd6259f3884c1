import Mathlib.Data.Set.List
import Voip.Dht.QueryReplies
import Voip.Dht.Separation
import Voip.Wire.Tagged

namespace voip_dht.record

open wire

/-- What a record is kept for: the id of a peer, a username, or the id of a proxy node. -/
inductive RecordName where
  | Peer (peer_id : String)
  | Username (username : String)
  | Proxy (node_id : String)
  deriving DecidableEq

/-- What the text that is hashed for a kind starts with. -/
def SignedRecord.Kind.tag : SignedRecord.Kind → String
  | Peer => "voip:"
  | Username => "voip-name:"
  | Proxy => "masque-proxy:"

namespace RecordName

def kind : RecordName → SignedRecord.Kind
  | Peer _ => .Peer
  | Username _ => .Username
  | Proxy _ => .Proxy

def text : RecordName → String
  | Peer peer_id => peer_id
  | Username username => username
  | Proxy node_id => node_id

def key (sha256 : Bytes → Bytes) : RecordName → Bytes
  | Peer peer_id => peer_record_key sha256 peer_id
  | Username username => username_record_key sha256 username
  | Proxy node_id => proxy_record_key sha256 node_id

/-- The bytes that are hashed. -/
def preimage (name : RecordName) : Bytes := utf8 (name.kind.tag ++ name.text)

variable {first second : RecordName}

theorem eq_iff_kind_text : first = second ↔ first.kind = second.kind ∧ first.text = second.text := by
  cases first <;> cases second <;> simp [kind, text]

theorem key_eq (sha256 : Bytes → Bytes) (name : RecordName) : name.key sha256 = sha256 name.preimage := by
  cases name <;> rfl

/-- Two tags share `voip`, but the next character tells them apart. -/
theorem tag_prefixFree : PrefixFree fun kind : SignedRecord.Kind => utf8 kind.tag := by
  intro first second hstart
  cases first <;> cases second <;> first | rfl | exact absurd hstart (by decide)

theorem preimage_inj : first.preimage = second.preimage ↔ first = second := by
  rw [preimage, preimage, utf8_append, utf8_append, tag_prefixFree.append_inj, utf8_inj, eq_iff_kind_text]

theorem key_inj {sha256 : Bytes → Bytes} (hfree : ¬ Collision sha256 first.preimage second.preimage) :
    first.key sha256 = second.key sha256 ↔ first = second := by
  rw [key_eq, key_eq, digest_eq_iff hfree, preimage_inj]

end RecordName

end voip_dht.record

namespace voip_dht.node

open wire error async record

section puts

variable (sha256 : Bytes → Bytes)

def put_peer_record (peer_id : String) (record_data : Bytes) : Request :=
  .put_record (peer_record_key sha256 peer_id) record_data

def put_username_record (username : String) (record_data : Bytes) : Request :=
  .put_record (username_record_key sha256 username) record_data

def put_proxy_record (node_id : String) (record_data : Bytes) : Request :=
  .put_record (proxy_record_key sha256 node_id) record_data

/-- The call that puts a record of each kind. -/
def put (name : RecordName) (record_data : Bytes) : Request :=
  match name with
  | .Peer peer_id => put_peer_record sha256 peer_id record_data
  | .Username username => put_username_record sha256 username record_data
  | .Proxy node_id => put_proxy_record sha256 node_id record_data

theorem put_eq (name : RecordName) (record_data : Bytes) :
    put sha256 name record_data = .put_record (name.key sha256) record_data := by
  cases name <;> rfl

end puts

/-- What happens to a node whose records are put by kind and name only. -/
inductive RecordEvent where
  | put (name : RecordName) (record_data : Bytes)
  | other (event : LoopEvent) (hother : ∀ key value, event ≠ .call (.put_record key value))

def RecordEvent.event (sha256 : Bytes → Bytes) : RecordEvent → LoopEvent
  | put name record_data => .call (node.put sha256 name record_data)
  | other event _ => event

/-- The record that a command puts. -/
def DhtCommand.record : DhtCommand → Option (Bytes × Bytes)
  | PutRecord key value _ => some (key, value)
  | _ => none

/-- The commands that wait to be received. -/
def DhtNode.waiting (node : DhtNode) : List DhtCommand := node.sending ++ node.channel

/-- A command that waits has waited before, or it is the one of a call. -/
theorem DhtNode.mem_waiting_step {node next : DhtNode} {event : LoopEvent} (hstep : node.step event = some next)
    {command : DhtCommand} (hcommand : command ∈ next.waiting) :
    command ∈ node.waiting ∨ ∃ request, event = .call request ∧ command = request.command node.calls := by
  simp only [waiting, List.mem_append] at hcommand ⊢
  cases step_moves hstep with
  | called request hrunning hnext =>
    subst hnext
    rcases hcommand with hsending | hchannel
    · rcases List.mem_append.mp hsending with hsending | hcall
      · exact Or.inl (Or.inl hsending)
      · exact Or.inr ⟨request, rfl, List.mem_singleton.mp hcall⟩
    · exact Or.inl (Or.inr hchannel)
  | refused request hstopped hnext =>
    subst hnext
    exact Or.inl hcommand
  | sent index sent hsent hnext =>
    subst hnext
    rcases hcommand with hsending | hchannel
    · exact Or.inl (Or.inl (List.mem_of_mem_eraseIdx hsending))
    · rcases List.mem_append.mp hchannel with hchannel | hlast
      · exact Or.inl (Or.inr hchannel)
      · obtain rfl := List.mem_singleton.mp hlast
        exact Or.inl (Or.inl (List.mem_of_getElem? hsent))
  | added received channel hchannel hrequest hnext =>
    subst hnext
    rw [hchannel]
    exact Or.inl (hcommand.imp_right (List.mem_cons_of_mem received))
  | failed received channel debug display kind respond_to error hchannel hrequest hnext =>
    subst hnext
    rw [hchannel]
    exact Or.inl (hcommand.imp_right (List.mem_cons_of_mem received))
  | started received channel id kind respond_to hchannel hrequest hnext =>
    subst hnext
    rw [hchannel]
    cases kind <;> exact Or.inl (hcommand.imp_right (List.mem_cons_of_mem received))
  | stopped channel event hchannel hevent hnext =>
    subst hnext
    simp [shut_down] at hcommand
  | resolved id result kind reply hrunning hresult hnext =>
    subst hnext
    cases kind <;> exact Or.inl hcommand
  | ignored id result hrunning hresult hnext =>
    subst hnext
    exact Or.inl hcommand

namespace World

variable {sha256 : Bytes → Bytes} {world next : World}

/-- The records that Kademlia has taken, the latest first. -/
def records (world : World) : List (Bytes × Bytes) :=
  (world.issued.filterMap fun query => query.1.record).reverse

/-- The bytes that Kademlia has taken last under a key. -/
def stored (world : World) (key : Bytes) : Option Bytes := world.records.lookup key

def record_step (sha256 : Bytes → Bytes) (world : World) (event : RecordEvent) : Option World :=
  world.step (event.event sha256)

theorem mem_issued_step {event : LoopEvent} (hstep : world.step event = some next)
    {query : DhtCommand × QueryId} (hquery : query ∈ next.issued) :
    query ∈ world.issued ∨ query.1 ∈ world.state.waiting := by
  obtain ⟨-, -, hissued, -⟩ := step_eq_some hstep
  rw [hissued] at hquery
  unfold issue at hquery
  split at hquery
  next id =>
    rcases List.mem_append.mp hquery with hold | hnew
    · exact Or.inl hold
    · obtain ⟨command, hhead, rfl⟩ := List.mem_map.mp hnew
      have hchannel := List.mem_of_mem_head? (Option.mem_toList.mp hhead)
      exact Or.inr (List.mem_append_right _ hchannel)
  next => exact Or.inl hquery

/-- All commands that put a record do so for one of the named puts. -/
structure Named (sha256 : Bytes → Bytes) (puts : RecordName × Bytes → Prop) (world : World) : Prop where
  waiting : ∀ command ∈ world.state.waiting, ∀ record, command.record = some record →
    ∃ put, puts put ∧ (put.1.key sha256, put.2) = record
  issued : ∀ query ∈ world.issued, ∀ record, query.1.record = some record →
    ∃ put, puts put ∧ (put.1.key sha256, put.2) = record

theorem Named.new (sha256 : Bytes → Bytes) (puts : RecordName × Bytes → Prop) : Named sha256 puts World.new where
  waiting := by simp [World.new, DhtNode.new, DhtNode.waiting]
  issued := by simp [World.new]

/-- Only a named put calls for a record to be put. -/
theorem record_of_call {event : RecordEvent} {request : Request} (hevent : event.event sha256 = .call request)
    {respond_to : Sender} {record : Bytes × Bytes} (hrecord : (request.command respond_to).record = some record) :
    ∃ name record_data, event = .put name record_data ∧ (name.key sha256, record_data) = record := by
  cases event with
  | put name record_data =>
    rw [RecordEvent.event, put_eq] at hevent
    cases hevent
    exact ⟨name, record_data, rfl, Option.some.inj hrecord⟩
  | other event hother =>
    cases request with
    | put_record key value => exact absurd hevent (hother key value)
    | _ => cases hrecord

theorem Named.step {puts : RecordName × Bytes → Prop} (hnamed : Named sha256 puts world) {event : RecordEvent}
    (hputs : ∀ name record_data, event = .put name record_data → puts (name, record_data))
    (hstep : world.record_step sha256 event = some next) : Named sha256 puts next := by
  constructor
  · intro command hcommand record hrecord
    obtain ⟨-, hnode, -, -⟩ := step_eq_some hstep
    rcases DhtNode.mem_waiting_step hnode hcommand with hold | ⟨request, hevent, rfl⟩
    · exact hnamed.waiting command hold record hrecord
    · obtain ⟨name, record_data, hput, hrecord⟩ := record_of_call hevent hrecord
      exact ⟨(name, record_data), hputs name record_data hput, hrecord⟩
  · intro query hquery record hrecord
    rcases mem_issued_step hstep hquery with hold | hwaiting
    · exact hnamed.issued query hold record hrecord
    · exact hnamed.waiting query.1 hwaiting record hrecord

theorem Named.of_run {events : List RecordEvent} (hrun : exec (record_step sha256) World.new events = some world) :
    Named sha256 (fun put => .put put.1 put.2 ∈ events) world := by
  refine exec_invariant_of_mem (fun _ event _ hevent hnamed hstep => hnamed.step ?_ hstep) (.new sha256 _) hrun
  rintro name record_data rfl
  exact hevent

/-- The records that were taken are those of a list of named puts. -/
theorem Named.exists_records {puts : RecordName × Bytes → Prop} (hnamed : Named sha256 puts world) :
    ∃ named : List (RecordName × Bytes), (∀ put ∈ named, puts put) ∧
      world.records = named.map fun put => (put.1.key sha256, put.2) := by
  have hrange : world.records ∈
      Set.range (List.map fun put : { put // puts put } => (put.1.1.key sha256, put.1.2)) := by
    rw [Set.range_list_map]
    intro record hrecord
    obtain ⟨query, hquery, hrecord⟩ := List.mem_filterMap.mp (List.mem_reverse.mp hrecord)
    obtain ⟨put, hput, heq⟩ := hnamed.issued query hquery record hrecord
    exact ⟨⟨put, hput⟩, heq⟩
  obtain ⟨named, hrecords⟩ := hrange
  refine ⟨named.map Subtype.val, fun put hput => ?_, ?_⟩
  · obtain ⟨put, -, rfl⟩ := List.mem_map.mp hput
    exact put.2
  · rw [← hrecords, List.map_map]
    rfl

end World

/-- For every hash: two names have one key only if they are of the same kind and the same text, or the
hash collides on the two preimages. In every run of a node whose records are put by kind and name,
what is stored under the key of a name is what was put last for this very name. -/
theorem record_keys_collision_free (sha256 : Bytes → Bytes) :
    (∀ first second : RecordName, ¬ Collision sha256 first.preimage second.preimage →
      (first.key sha256 = second.key sha256 ↔ first = second)) ∧
    ∀ (events : List RecordEvent) (world : World),
      exec (World.record_step sha256) World.new events = some world →
      ∃ puts : List (RecordName × Bytes), (∀ put ∈ puts, .put put.1 put.2 ∈ events) ∧
        world.records = puts.map (fun put => (put.1.key sha256, put.2)) ∧
        ∀ name : RecordName, (∀ put ∈ puts, ¬ Collision sha256 put.1.preimage name.preimage) →
          world.stored (name.key sha256) = puts.lookup name := by
  refine ⟨fun first second hfree => RecordName.key_inj hfree, fun events world hrun => ?_⟩
  obtain ⟨puts, hputs, hrecords⟩ := (World.Named.of_run hrun).exists_records
  refine ⟨puts, hputs, hrecords, fun name hfree => ?_⟩
  rw [World.stored, hrecords]
  exact lookup_map_key (RecordName.key sha256) fun put hput => RecordName.key_inj (hfree put hput)

/-- The id of a peer that goes on like the tag of usernames, and the username it would stand for. -/
def puts_with_shared_start : List RecordEvent :=
  [.put (.Peer "-name:bob") [1], .put (.Username "bob") [2], .other (.send 0) nofun, .other (.send 0) nofun,
    .other (.recv (.query 0)) nofun, .other (.recv (.query 1)) nofun]

theorem stored_puts_with_shared_start :
    (RecordName.Peer "-name:bob").key id ≠ (RecordName.Username "bob").key id ∧
      ∃ world, exec (World.record_step id) World.new puts_with_shared_start = some world ∧
        world.stored ((RecordName.Peer "-name:bob").key id) = some [1] ∧
        world.stored ((RecordName.Username "bob").key id) = some [2] := by
  have hfree (first second : Bytes) : ¬ Collision id first second := fun hcollision =>
    hcollision.ne hcollision.digest_eq
  refine ⟨fun hkey => ?_, _, rfl, by decide, by decide⟩
  cases ((record_keys_collision_free id).1 _ _ (hfree _ _)).mp hkey

end voip_dht.node
