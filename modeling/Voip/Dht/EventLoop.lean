import Voip.Async.Pending
import Voip.Async.Trace
import Voip.Dht.Record

namespace voip_dht.node

open wire error async

abbrev QueryId := Nat

/-- What `{:?}` shows of an id. -/
def QueryId.debug (id : QueryId) : String := "QueryId(" ++ toString id ++ ")"

/-- A sender of a oneshot channel, named by the call that waits at the other end. -/
abbrev Sender := Nat

/-- What a call returns; only a get returns a value. -/
abbrev Reply := Except DhtError (Option Bytes)

inductive DhtCommand where
  | PutRecord (key value : Bytes) (respond_to : Sender)
  | GetRecord (key : Bytes) (respond_to : Sender)
  | Bootstrap (respond_to : Sender)
  | AddBootstrapNode (peer_id addr : String)
  | Shutdown
  deriving DecidableEq

inductive GetRecordOk where
  | FoundRecord (value : Bytes)
  | FinishedWithNoAdditionalRecord
  deriving DecidableEq

/-- The result of a progress event. An error is the text it is displayed as. -/
inductive QueryResult where
  | PutRecord (result : Except String Unit)
  | GetRecord (result : Except String GetRecordOk)
  | Bootstrap (result : Except String Unit)
  | other
  deriving DecidableEq

/-- What Kademlia makes of a command: it starts a query, or fails with an error that is shown by
`{:?}` and displayed; or it is not asked for one. -/
inductive Start where
  | query (id : QueryId)
  | failed (debug display : String)
  | nothing
  deriving DecidableEq

/-- The three kinds of queries that are waited for. -/
inductive Kind where
  | put
  | get
  | bootstrap
  deriving DecidableEq

def DhtCommand.request : DhtCommand → Option (Kind × Sender)
  | PutRecord _ _ respond_to => some (.put, respond_to)
  | GetRecord _ respond_to => some (.get, respond_to)
  | Bootstrap respond_to => some (.bootstrap, respond_to)
  | AddBootstrapNode _ _ => none
  | Shutdown => none

def DhtCommand.respond_to (command : DhtCommand) : Option Sender := command.request.map Prod.snd

/-- A node: the calls that wait for room in the channel, the channel, the tables of the event loop,
how many calls have been made, and what they have returned. -/
structure DhtNode where
  running : Bool
  sending : List DhtCommand
  channel : List DhtCommand
  pending_put : Pending QueryId Sender
  pending_get : Pending QueryId Sender
  pending_bootstrap : Pending QueryId Sender
  calls : Nat
  answers : List (Sender × Reply)

namespace DhtNode

def new : DhtNode where
  running := true
  sending := []
  channel := []
  pending_put := ∅
  pending_get := ∅
  pending_bootstrap := ∅
  calls := 0
  answers := []

def pending (node : DhtNode) : Kind → Pending QueryId Sender
  | .put => node.pending_put
  | .get => node.pending_get
  | .bootstrap => node.pending_bootstrap

def set_pending (node : DhtNode) (table : Pending QueryId Sender) : Kind → DhtNode
  | .put => { node with pending_put := table }
  | .get => { node with pending_get := table }
  | .bootstrap => { node with pending_bootstrap := table }

def answer (node : DhtNode) (senders : List Sender) (reply : Reply) : DhtNode :=
  { node with answers := node.answers ++ senders.map (·, reply) }

/-- A call whose sender is dropped returns `NotConnected`. -/
def drop_senders (node : DhtNode) (senders : List Sender) : DhtNode :=
  node.answer senders (.error .NotConnected)

/-- The senders that are held somewhere. -/
def held (node : DhtNode) : List Sender :=
  node.sending.filterMap DhtCommand.respond_to ++ node.channel.filterMap DhtCommand.respond_to ++
    (node.pending_put.senders ++ node.pending_get.senders ++ node.pending_bootstrap.senders)

/-- Inserts a sender into a table; one that was there under the id is dropped. -/
def register (node : DhtNode) (kind : Kind) (id : QueryId) (respond_to : Sender) : DhtNode :=
  (node.set_pending ((node.pending kind).insert id respond_to) kind).drop_senders
    ((node.pending kind).lookup id).toList

/-- Takes the sender under the id out of a table, if there is one, and sends it the reply. -/
def resolve (node : DhtNode) (kind : Kind) (id : QueryId) (reply : Reply) : DhtNode :=
  (node.set_pending ((node.pending kind).erase id) kind).answer ((node.pending kind).lookup id).toList reply

/-- The end of the loop. Its tables and the receiving half of the channel are dropped with all they
hold, and no call that waits for room gets its command through. -/
def shut_down (node : DhtNode) : DhtNode :=
  { node.drop_senders node.held with
    running := false
    sending := []
    channel := []
    pending_put := ∅
    pending_get := ∅
    pending_bootstrap := ∅ }

end DhtNode

def put_reply (id : QueryId) : Except String Unit → Reply
  | .ok () => .ok none
  | .error e => .error (.StoreFailed id.debug e)

def get_reply (id : QueryId) : Except String GetRecordOk → Reply
  | .ok (.FoundRecord value) => .ok (some value)
  | .ok .FinishedWithNoAdditionalRecord => .error (.NotFound id.debug)
  | .error e => .error (.LookupFailed id.debug e)

def bootstrap_reply : Except String Unit → Reply
  | .ok () => .ok none
  | .error e => .error (.BootstrapFailed [e])

/-- The calls on a node. -/
inductive Request where
  | put_record (key value : Bytes)
  | get_record (key : Bytes)
  | bootstrap
  | add_bootstrap_node (peer_id addr : String)
  | shutdown
  deriving DecidableEq

/-- The command that a call sends, with the sender of its channel. -/
def Request.command (respond_to : Sender) : Request → DhtCommand
  | put_record key value => .PutRecord key value respond_to
  | get_record key => .GetRecord key respond_to
  | bootstrap => .Bootstrap respond_to
  | add_bootstrap_node peer_id addr => .AddBootstrapNode peer_id addr
  | shutdown => .Shutdown

inductive LoopEvent where
  /-- a call is made -/
  | call (request : Request)
  /-- one of the calls that wait for room gets its command into the channel -/
  | send (index : Nat)
  /-- the loop receives a command -/
  | recv (start : Start)
  /-- the loop finds that all handles are gone -/
  | disconnected
  /-- the swarm reports progress of a query -/
  | progressed (id : QueryId) (result : QueryResult)
  deriving DecidableEq

namespace DhtNode

def handle_swarm_event (node : DhtNode) (id : QueryId) : QueryResult → DhtNode
  | .PutRecord result => node.resolve .put id (put_reply id result)
  | .GetRecord result => node.resolve .get id (get_reply id result)
  | .Bootstrap result => node.resolve .bootstrap id (bootstrap_reply result)
  | .other => node

/-- The arms of the loop for a command. `get_record` of the behaviour cannot fail. -/
def handle_command (node : DhtNode) : DhtCommand → Start → Option DhtNode
  | .PutRecord _ _ respond_to, .query id => some (node.register .put id respond_to)
  | .PutRecord _ _ respond_to, .failed debug display =>
    some (node.answer [respond_to] (.error (.StoreFailed debug display)))
  | .GetRecord _ respond_to, .query id => some (node.register .get id respond_to)
  | .Bootstrap respond_to, .query id => some (node.register .bootstrap id respond_to)
  | .Bootstrap respond_to, .failed _ display =>
    some (node.answer [respond_to] (.error (.BootstrapFailed [display])))
  | .AddBootstrapNode _ _, .nothing => some node
  | .Shutdown, .nothing => some node.shut_down
  | _, _ => none

/-- A call waits for room in the channel, or fails at once if the receiving half is gone. -/
def call (node : DhtNode) (request : Request) : DhtNode :=
  let command := request.command node.calls
  let node := { node with calls := node.calls + command.respond_to.toList.length }
  if node.running then { node with sending := node.sending ++ [command] }
  else node.drop_senders command.respond_to.toList

/-- The channel has room for 64 commands. -/
def send (node : DhtNode) (index : Nat) : Option DhtNode :=
  if node.channel.length < 64 then
    node.sending[index]?.map fun command =>
      { node with sending := node.sending.eraseIdx index, channel := node.channel ++ [command] }
  else none

def step (node : DhtNode) : LoopEvent → Option DhtNode
  | .call request => some (node.call request)
  | .send index => node.send index
  | .recv start =>
    match node.channel with
    | [] => none
    | command :: channel => ({ node with channel } : DhtNode).handle_command command start
  | .disconnected =>
    if node.running ∧ node.sending = [] ∧ node.channel = [] then some node.shut_down else none
  | .progressed id result => if node.running then some (node.handle_swarm_event id result) else none

end DhtNode

end voip_dht.node
