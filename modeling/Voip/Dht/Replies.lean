import Mathlib.Data.List.Perm.Basic
import Voip.Dht.EventLoop

namespace voip_dht.node

open wire error async

/-- Whose table an event looks into, and the reply it makes. -/
def QueryResult.reply (id : QueryId) : QueryResult → Option (Kind × Reply)
  | .PutRecord result => some (.put, put_reply id result)
  | .GetRecord result => some (.get, get_reply id result)
  | .Bootstrap result => some (.bootstrap, bootstrap_reply result)
  | .other => none

namespace DhtNode

variable {node next : DhtNode} {event : LoopEvent}

/-- The senders that a step makes. -/
def made (node : DhtNode) : LoopEvent → List Sender
  | .call request => (request.command node.calls).respond_to.toList
  | _ => []

/-- What the node may do: every step is one of these. -/
inductive Moves (node next : DhtNode) : LoopEvent → Prop where
  | called (request : Request) (hrunning : node.running)
      (hnext : next = { node with
        calls := node.calls + (node.made (.call request)).length
        sending := node.sending ++ [request.command node.calls] }) : Moves node next (.call request)
  | refused (request : Request) (hstopped : node.running = false)
      (hnext : next = ({ node with calls := node.calls + (node.made (.call request)).length } :
        DhtNode).drop_senders (node.made (.call request))) : Moves node next (.call request)
  | sent (index : Nat) (command : DhtCommand) (hcommand : node.sending[index]? = some command)
      (hnext : next = { node with
        sending := node.sending.eraseIdx index, channel := node.channel ++ [command] }) :
    Moves node next (.send index)
  | added (command : DhtCommand) (channel : List DhtCommand)
      (hchannel : node.channel = command :: channel) (hrequest : command.request = none)
      (hnext : next = { node with channel }) : Moves node next (.recv .nothing)
  | failed (command : DhtCommand) (channel : List DhtCommand) (debug display : String) (kind : Kind)
      (respond_to : Sender) (error : DhtError) (hchannel : node.channel = command :: channel)
      (hrequest : command.request = some (kind, respond_to))
      (hnext : next = ({ node with channel } : DhtNode).answer [respond_to] (.error error)) :
    Moves node next (.recv (.failed debug display))
  | started (command : DhtCommand) (channel : List DhtCommand) (id : QueryId) (kind : Kind)
      (respond_to : Sender) (hchannel : node.channel = command :: channel)
      (hrequest : command.request = some (kind, respond_to))
      (hnext : next = ({ node with channel } : DhtNode).register kind id respond_to) :
    Moves node next (.recv (.query id))
  | stopped (channel : List DhtCommand) (event : LoopEvent)
      (hchannel : node.running ∧ node.channel = channel ∨ node.channel = .Shutdown :: channel)
      (hevent : event = .disconnected ∨ event = .recv .nothing)
      (hnext : next = ({ node with channel } : DhtNode).shut_down) : Moves node next event
  | resolved (id : QueryId) (result : QueryResult) (kind : Kind) (reply : Reply)
      (hrunning : node.running) (hresult : result.reply id = some (kind, reply))
      (hnext : next = node.resolve kind id reply) : Moves node next (.progressed id result)
  | ignored (id : QueryId) (result : QueryResult) (hrunning : node.running)
      (hresult : result.reply id = none) (hnext : next = node) : Moves node next (.progressed id result)

theorem handle_command_moves {command : DhtCommand} {channel : List DhtCommand} {start : Start}
    (hchannel : node.channel = command :: channel)
    (hstep : ({ node with channel } : DhtNode).handle_command command start = some next) :
    Moves node next (.recv start) := by
  cases command with
  | PutRecord key value respond_to => cases start with
    | query id => exact .started _ channel id .put respond_to hchannel rfl (Option.some.inj hstep).symm
    | failed debug display =>
      exact .failed _ channel debug display .put respond_to _ hchannel rfl (Option.some.inj hstep).symm
    | nothing => cases hstep
  | GetRecord key respond_to => cases start with
    | query id => exact .started _ channel id .get respond_to hchannel rfl (Option.some.inj hstep).symm
    | failed debug display => cases hstep
    | nothing => cases hstep
  | Bootstrap respond_to => cases start with
    | query id => exact .started _ channel id .bootstrap respond_to hchannel rfl (Option.some.inj hstep).symm
    | failed debug display =>
      exact .failed _ channel debug display .bootstrap respond_to _ hchannel rfl (Option.some.inj hstep).symm
    | nothing => cases hstep
  | AddBootstrapNode peer_id addr => cases start with
    | query id => cases hstep
    | failed debug display => cases hstep
    | nothing => exact .added _ channel hchannel rfl (Option.some.inj hstep).symm
  | Shutdown => cases start with
    | query id => cases hstep
    | failed debug display => cases hstep
    | nothing => exact .stopped channel _ (Or.inr hchannel) (Or.inr rfl) (Option.some.inj hstep).symm

theorem step_moves (hstep : node.step event = some next) : Moves node next event := by
  cases event with
  | call request =>
    obtain rfl : node.call request = next := Option.some.inj hstep
    cases hrunning : node.running with
    | true =>
      refine .called request hrunning ?_
      simp only [call, hrunning, if_true]
      rfl
    | false =>
      refine .refused request hrunning ?_
      simp only [call, hrunning, Bool.false_eq_true, if_false]
      rfl
  | send index =>
    simp only [step, send] at hstep
    split at hstep
    · obtain ⟨command, hcommand, hnext⟩ := Option.map_eq_some_iff.mp hstep
      exact .sent index command hcommand hnext.symm
    · cases hstep
  | recv start =>
    simp only [step] at hstep
    split at hstep
    · cases hstep
    next command channel hchannel => exact handle_command_moves hchannel hstep
  | disconnected =>
    simp only [step] at hstep
    split at hstep
    next hdone =>
      exact .stopped node.channel _ (Or.inl ⟨hdone.1, rfl⟩) (Or.inl rfl) (Option.some.inj hstep).symm
    · cases hstep
  | progressed id result =>
    simp only [step] at hstep
    split at hstep
    next hrunning =>
      have hnext := (Option.some.inj hstep).symm
      cases result with
      | PutRecord result => exact .resolved id _ .put _ hrunning rfl hnext
      | GetRecord result => exact .resolved id _ .get _ hrunning rfl hnext
      | Bootstrap result => exact .resolved id _ .bootstrap _ hrunning rfl hnext
      | other => exact .ignored id _ hrunning rfl hnext
    · cases hstep

/-- Nothing waits for a loop that has ended. -/
def Idle (node : DhtNode) : Prop := node.running = false → node.sending = [] ∧ node.channel = []

/-- A node whose loop has ended only takes calls. -/
theorem Idle.step_of_stopped (hidle : node.Idle) (hstep : node.step event = some next)
    (hstopped : node.running = false) :
    ∃ request, event = .call request ∧
      next = ({ node with calls := node.calls + (node.made event).length } : DhtNode).drop_senders
        (node.made event) := by
  obtain ⟨hsending, hchannel⟩ := hidle hstopped
  cases step_moves hstep with
  | called request hrunning => simp [hstopped] at hrunning
  | refused request hstopped hnext => exact ⟨request, rfl, hnext⟩
  | sent index command hcommand => simp [hsending] at hcommand
  | stopped channel event hnode => simp [hstopped, hchannel] at hnode
  | resolved id result kind reply hrunning => simp [hstopped] at hrunning
  | ignored id result hrunning => simp [hstopped] at hrunning
  | _ => simp_all

/-- Of the steps of a running loop only one ends it. -/
theorem eq_shut_down_of_stop (hstep : node.step event = some next) (hrunning : node.running = true)
    (hstopped : next.running = false) :
    ∃ channel, (node.running ∧ node.channel = channel ∨ node.channel = .Shutdown :: channel) ∧
      (event = .disconnected ∨ event = .recv .nothing) ∧
      next = ({ node with channel } : DhtNode).shut_down := by
  cases step_moves hstep with
  | refused request hnot => simp [hrunning] at hnot
  | started command channel id kind => cases kind <;> simp_all [register, set_pending, drop_senders, answer]
  | stopped channel event hchannel hevent hnext => exact ⟨channel, hchannel, hevent, hnext⟩
  | resolved id result kind => cases kind <;> simp_all [resolve, set_pending, answer]
  | _ => simp_all [answer]

theorem Idle.step (hidle : node.Idle) (hstep : node.step event = some next) : next.Idle := by
  intro hstopped
  cases hrunning : node.running with
  | false =>
    obtain ⟨request, -, rfl⟩ := hidle.step_of_stopped hstep hrunning
    exact hidle hrunning
  | true =>
    obtain ⟨channel, -, -, rfl⟩ := eq_shut_down_of_stop hstep hrunning hstopped
    exact ⟨rfl, rfl⟩

/-- The loop goes on with the tables as they are. -/
structure SameTables (node next : DhtNode) : Prop where
  running : next.running = node.running
  pending_put : next.pending_put = node.pending_put
  pending_get : next.pending_get = node.pending_get
  pending_bootstrap : next.pending_bootstrap = node.pending_bootstrap

theorem SameTables.pending (hsame : SameTables node next) (kind : Kind) : next.pending kind = node.pending kind := by
  cases kind
  · exact hsame.pending_put
  · exact hsame.pending_get
  · exact hsame.pending_bootstrap

theorem pending_answer (senders : List Sender) (reply : Reply) (kind : Kind) :
    (node.answer senders reply).pending kind = node.pending kind :=
  SameTables.pending ⟨rfl, rfl, rfl, rfl⟩ kind

theorem pending_set_pending (table : Pending QueryId Sender) (kind other : Kind) :
    (node.set_pending table kind).pending other = if other = kind then table else node.pending other := by
  cases kind <;> cases other <;> rfl

/-- What a call has returned. -/
def replies (node : DhtNode) (sender : Sender) : List Reply :=
  (node.answers.filter fun answer => answer.1 = sender).map Prod.snd

theorem length_replies (node : DhtNode) (sender : Sender) :
    (node.replies sender).length = (node.answers.map Prod.fst).count sender := by
  rw [replies, List.length_map, List.count_eq_countP, List.countP_map, List.countP_eq_length_filter]
  rfl

theorem replies_answer (senders : List Sender) (reply : Reply) (sender : Sender) :
    (node.answer senders reply).replies sender =
      node.replies sender ++ List.replicate (senders.count sender) reply := by
  simp only [replies, answer, List.filter_append, List.map_append, List.append_cancel_left_eq]
  induction senders with
  | nil => rfl
  | cons first senders ih =>
    by_cases hfirst : first = sender
    · simp [hfirst, List.replicate_succ, ih]
    · simp [hfirst, ih]

theorem set_pending_running (table : Pending QueryId Sender) (kind : Kind) :
    (node.set_pending table kind).running = node.running := by
  cases kind <;> rfl

theorem set_pending_answers (table : Pending QueryId Sender) (kind : Kind) :
    (node.set_pending table kind).answers = node.answers := by
  cases kind <;> rfl

theorem lookup_register (kind other : Kind) (id query : QueryId) (respond_to : Sender) :
    ((node.register kind id respond_to).pending other).lookup query =
      if other = kind ∧ query = id then some respond_to else (node.pending other).lookup query := by
  rw [register, drop_senders, pending_answer, pending_set_pending]
  by_cases hkind : other = kind
  · subst hkind
    by_cases hquery : query = id
    · subst hquery
      simp
    · simp [hquery]
  · simp [hkind]

theorem lookup_resolve {other : Kind} {query : QueryId} (kind : Kind) {id : QueryId} (reply : Reply)
    (hquery : query ≠ id) :
    ((node.resolve kind id reply).pending other).lookup query = (node.pending other).lookup query := by
  rw [resolve, pending_answer, pending_set_pending]
  by_cases hkind : other = kind
  · subst hkind
    rw [if_pos rfl, AList.lookup_erase_ne hquery]
  · rw [if_neg hkind]

theorem replies_resolve (kind : Kind) (id : QueryId) (reply : Reply) (sender : Sender) :
    (node.resolve kind id reply).replies sender =
      node.replies sender ++ List.replicate (((node.pending kind).lookup id).toList.count sender) reply := by
  rw [resolve, replies_answer, replies, set_pending_answers, replies]

theorem replies_shut_down (sender : Sender) :
    node.shut_down.replies sender =
      node.replies sender ++ List.replicate (node.held.count sender) (.error .NotConnected) :=
  replies_answer node.held (.error .NotConnected) sender

/-- Nothing that was returned is taken back. -/
theorem answers_extended (hstep : node.step event = some next) : node.answers <+: next.answers := by
  cases step_moves hstep with
  | refused request hstopped hnext => exact hnext ▸ List.prefix_append _ _
  | failed command channel debug display kind respond_to error hchannel hrequest hnext =>
    exact hnext ▸ List.prefix_append _ _
  | started command channel id kind respond_to hchannel hrequest hnext =>
    subst hnext
    cases kind <;> exact List.prefix_append _ _
  | stopped channel event hchannel hevent hnext => exact hnext ▸ List.prefix_append _ _
  | resolved id result kind reply hrunning hresult hnext =>
    subst hnext
    cases kind <;> exact List.prefix_append _ _
  | _ =>
    subst next
    exact List.prefix_rfl

theorem replies_extended (hstep : node.step event = some next) (sender : Sender) :
    node.replies sender <+: next.replies sender :=
  ((answers_extended hstep).filter _).map _

/-- In how many places a sender is: held, or answered. -/
def tally (node : DhtNode) (sender : Sender) : Nat :=
  node.held.count sender + (node.answers.map Prod.fst).count sender

theorem count_answer (senders : List Sender) (reply : Reply) (sender : Sender) :
    ((node.answer senders reply).answers.map Prod.fst).count sender =
      (node.answers.map Prod.fst).count sender + senders.count sender := by
  have hsenders : (senders.map (·, reply)).map Prod.fst = senders := by
    rw [List.map_map]
    exact List.map_id senders
  rw [answer, List.map_append, List.count_append, hsenders]

theorem tally_answer (senders : List Sender) (reply : Reply) (sender : Sender) :
    (node.answer senders reply).tally sender = node.tally sender + senders.count sender := by
  have hheld : (node.answer senders reply).held = node.held := rfl
  rw [tally, tally, count_answer, hheld, Nat.add_assoc]

theorem tally_set_pending (node : DhtNode) (table : Pending QueryId Sender) (kind : Kind) (sender : Sender) :
    (node.set_pending table kind).tally sender + (node.pending kind).senders.count sender =
      node.tally sender + table.senders.count sender := by
  cases kind <;>
    simp only [tally, held, set_pending, pending, List.count_append] <;> omega

theorem tally_register (kind : Kind) (id : QueryId) (respond_to sender : Sender) :
    (node.register kind id respond_to).tally sender = node.tally sender + [respond_to].count sender := by
  have hset := tally_set_pending node ((node.pending kind).insert id respond_to) kind sender
  have hcount := Pending.count_senders (node.pending kind) id sender
  rw [Pending.senders_insert, List.count_cons] at hset
  rw [register, drop_senders, tally_answer, List.count_singleton]
  omega

theorem tally_resolve (kind : Kind) (id : QueryId) (reply : Reply) (sender : Sender) :
    (node.resolve kind id reply).tally sender = node.tally sender := by
  have hset := tally_set_pending node ((node.pending kind).erase id) kind sender
  have hcount := Pending.count_senders (node.pending kind) id sender
  rw [resolve, tally_answer]
  omega

theorem tally_shut_down (sender : Sender) : node.shut_down.tally sender = node.tally sender := by
  have hheld : node.shut_down.held = [] := rfl
  have hanswers : node.shut_down.answers = (node.answer node.held (.error .NotConnected)).answers := rfl
  rw [tally, tally, hheld, hanswers, count_answer, List.count_nil]
  omega

theorem respond_to_cons (command : DhtCommand) (commands : List DhtCommand) :
    (command :: commands).filterMap DhtCommand.respond_to =
      command.respond_to.toList ++ commands.filterMap DhtCommand.respond_to := by
  cases hrespond : command.respond_to <;> simp [hrespond]

theorem respond_to_of_request {command : DhtCommand} {kind : Kind} {respond_to : Sender}
    (hrequest : command.request = some (kind, respond_to)) : command.respond_to = some respond_to := by
  rw [DhtCommand.respond_to, hrequest]
  rfl

/-- Receiving a command takes its sender out of the channel. -/
theorem tally_channel {command : DhtCommand} {channel : List DhtCommand}
    (hchannel : node.channel = command :: channel) (sender : Sender) :
    node.tally sender =
      ({ node with channel } : DhtNode).tally sender + command.respond_to.toList.count sender := by
  simp only [tally, held, hchannel, respond_to_cons, List.count_append]
  omega

theorem tally_send {index : Nat} {command : DhtCommand} (hcommand : node.sending[index]? = some command)
    (sender : Sender) :
    ({ node with sending := node.sending.eraseIdx index, channel := node.channel ++ [command] } : DhtNode).tally
      sender = node.tally sender := by
  obtain ⟨hindex, rfl⟩ := List.getElem?_eq_some_iff.mp hcommand
  have hperm := (List.getElem_cons_eraseIdx_perm hindex).filterMap DhtCommand.respond_to
  have hcount := hperm.count_eq sender
  rw [respond_to_cons, List.count_append] at hcount
  simp only [tally, held, List.filterMap_append, respond_to_cons, List.count_append, List.filterMap_nil,
    List.count_nil]
  omega

theorem made_eq (node : DhtNode) (event : LoopEvent) :
    node.made event = [] ∨ node.made event = [node.calls] := by
  cases event with
  | call request => cases request with
    | put_record => exact Or.inr rfl
    | get_record => exact Or.inr rfl
    | bootstrap => exact Or.inr rfl
    | add_bootstrap_node => exact Or.inl rfl
    | shutdown => exact Or.inl rfl
  | _ => exact Or.inl rfl

theorem calls_step (hstep : node.step event = some next) :
    next.calls = node.calls + (node.made event).length := by
  cases step_moves hstep with
  | started command channel id kind =>
    subst next
    cases kind <;> rfl
  | stopped channel event hchannel hevent =>
    subst next
    rcases hevent with rfl | rfl <;> rfl
  | resolved id result kind =>
    subst next
    cases kind <;> rfl
  | _ =>
    subst next
    rfl

/-- A step loses no sender and answers none twice. -/
theorem tally_step (hstep : node.step event = some next) (sender : Sender) :
    next.tally sender = node.tally sender + (node.made event).count sender := by
  cases step_moves hstep with
  | called request hrunning hnext =>
    simp only [hnext, tally, held, made, List.filterMap_append, respond_to_cons, List.count_append,
      List.filterMap_nil, List.count_nil]
    omega
  | refused request hstopped hnext =>
    rw [hnext, drop_senders, tally_answer]
    rfl
  | sent index command hcommand hnext => exact hnext ▸ tally_send hcommand sender
  | added command channel hchannel hrequest hnext =>
    have hrespond : command.respond_to = none := by rw [DhtCommand.respond_to, hrequest]; rfl
    rw [hnext, tally_channel hchannel, hrespond]
    rfl
  | failed command channel debug display kind respond_to error hchannel hrequest hnext =>
    rw [hnext, tally_channel hchannel, tally_answer, respond_to_of_request hrequest]
    rfl
  | started command channel id kind respond_to hchannel hrequest hnext =>
    rw [hnext, tally_channel hchannel, tally_register, respond_to_of_request hrequest]
    rfl
  | stopped channel event hchannel hevent hnext =>
    have hmade : node.made event = [] := by rcases hevent with rfl | rfl <;> rfl
    rw [hnext, tally_shut_down, hmade]
    rcases hchannel with ⟨-, rfl⟩ | hchannel
    · rfl
    · rw [tally_channel hchannel]
      rfl
  | resolved id result kind reply hrunning hresult hnext => exact hnext ▸ tally_resolve kind id reply sender
  | ignored id result hrunning hresult hnext =>
    rw [hnext]
    rfl

/-- The step that ends the loop is no call, and answers `NotConnected` to all that is held. -/
theorem replies_of_stop (hstep : node.step event = some next) (hrunning : node.running = true)
    (hstopped : next.running = false) :
    node.made event = [] ∧ ∀ sender, next.replies sender =
      node.replies sender ++ List.replicate (node.held.count sender) (.error .NotConnected) := by
  obtain ⟨channel, hchannel, hevent, hnext⟩ := eq_shut_down_of_stop hstep hrunning hstopped
  refine ⟨by rcases hevent with rfl | rfl <;> rfl, fun sender => ?_⟩
  have hheld : ({ node with channel } : DhtNode).held.count sender = node.held.count sender := by
    rcases hchannel with ⟨-, rfl⟩ | hchannel
    · rfl
    · exact (Nat.add_right_cancel (tally_channel hchannel sender)).symm
  rw [hnext, replies_shut_down, hheld]
  rfl

end DhtNode

end voip_dht.node
