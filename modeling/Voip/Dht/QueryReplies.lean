import Voip.Dht.Replies

namespace voip_dht.node

open wire error async

/-- A node with what Kademlia has done for it: the queries it has started for commands and the
events it has reported, in order. -/
structure World where
  state : DhtNode
  issued : List (DhtCommand × QueryId)
  heard : List (QueryId × QueryResult)

namespace World

def new : World := ⟨.new, [], []⟩

/-- The first event that carries an id. -/
def first (world : World) (id : QueryId) : Option QueryResult :=
  (world.heard.find? fun event => event.1 = id).map Prod.snd

/-- Kademlia gives each command an id of its own, and reports the results of its queries as what
they are. -/
def Lawful (world : World) : LoopEvent → Prop
  | .recv (.query id) => id ∉ world.issued.map Prod.snd ∧ id ∉ world.heard.map Prod.fst
  | .progressed id result => ∀ query ∈ world.issued, query.2 = id →
      query.1.request.map Prod.fst = (result.reply id).map Prod.fst
  | _ => True

instance (world : World) : (event : LoopEvent) → Decidable (world.Lawful event)
  | .call _ => isTrue trivial
  | .send _ => isTrue trivial
  | .recv (.query id) =>
    inferInstanceAs (Decidable (id ∉ world.issued.map Prod.snd ∧ id ∉ world.heard.map Prod.fst))
  | .recv (.failed _ _) => isTrue trivial
  | .recv .nothing => isTrue trivial
  | .disconnected => isTrue trivial
  | .progressed id result =>
    inferInstanceAs (Decidable (∀ query ∈ world.issued, query.2 = id →
      query.1.request.map Prod.fst = (result.reply id).map Prod.fst))

/-- The queries after a step. -/
def issue (world : World) : LoopEvent → List (DhtCommand × QueryId)
  | .recv (.query id) => world.issued ++ (world.state.channel.head?.toList.map (·, id))
  | _ => world.issued

/-- The events after a step. -/
def hear (world : World) : LoopEvent → List (QueryId × QueryResult)
  | .progressed id result => world.heard ++ [(id, result)]
  | _ => world.heard

def step (world : World) (event : LoopEvent) : Option World :=
  if world.Lawful event then
    (world.state.step event).map fun node => ⟨node, world.issue event, world.hear event⟩
  else none

variable {world next : World} {event : LoopEvent}

theorem step_eq_some (hstep : world.step event = some next) :
    world.Lawful event ∧ world.state.step event = some next.state ∧ next.issued = world.issue event ∧
      next.heard = world.hear event := by
  unfold step at hstep
  split at hstep
  next hlawful =>
    obtain ⟨node, hnode, rfl⟩ := Option.map_eq_some_iff.mp hstep
    exact ⟨hlawful, hnode, rfl, rfl⟩
  · cases hstep

/-- Where the answer to a command stands that has started a query: an event has answered it, the
sender is in its table, or the loop has ended. -/
def Own (world : World) (id : QueryId) (kind : Kind) (respond_to : Sender) : Prop :=
  match world.first id with
  | some result => ∃ reply, result.reply id = some (kind, reply) ∧ world.state.replies respond_to = [reply]
  | none =>
    if world.state.running then (world.state.pending kind).lookup id = some respond_to
    else world.state.replies respond_to = [.error .NotConnected]

structure Sound (world : World) : Prop where
  tally : ∀ sender, world.state.tally sender = if sender < world.state.calls then 1 else 0
  idle : world.state.Idle
  own : ∀ query ∈ world.issued, ∀ kind respond_to, query.1.request = some (kind, respond_to) →
    world.Own query.2 kind respond_to

theorem Sound.new : Sound World.new where
  tally := fun sender => (if_neg (Nat.not_lt_zero sender)).symm
  idle := fun _ => ⟨rfl, rfl⟩
  own := by simp [World.new]

/-- A sender that is held has not been answered, and the other way round. -/
theorem Sound.tally_le (hsound : Sound world) (sender : Sender) :
    world.state.held.count sender + (world.state.replies sender).length ≤ 1 := by
  have htally := hsound.tally sender
  rw [DhtNode.length_replies]
  unfold DhtNode.tally at htally
  split at htally <;> omega

theorem count_made (sender calls : Nat) :
    (if sender < calls then 1 else 0) + [calls].count sender = if sender < calls + 1 then 1 else 0 := by
  simp only [List.count_singleton, beq_iff_eq]
  split_ifs <;> omega

theorem Sound.tally_step (hsound : Sound world) (hstep : world.state.step event = some next.state) (sender : Sender) :
    next.state.tally sender = if sender < next.state.calls then 1 else 0 := by
  rw [DhtNode.tally_step hstep, hsound.tally, DhtNode.calls_step hstep]
  rcases world.state.made_eq event with hmade | hmade
  · rw [hmade]
    rfl
  · rw [hmade]
    exact count_made sender world.state.calls

/-- An answer stays the only one. -/
theorem Sound.replies_stable (hsound : Sound world) (hstep : world.state.step event = some next.state)
    {sender : Sender} {reply : Reply} (hreply : world.state.replies sender = [reply]) :
    next.state.replies sender = [reply] := by
  obtain ⟨more, hmore⟩ := DhtNode.replies_extended hstep sender
  have htally := hsound.tally_step hstep sender
  have hlength := DhtNode.length_replies next.state sender
  rw [DhtNode.tally] at htally
  rw [← hmore, hreply, List.length_append, List.length_singleton] at hlength
  have hnone : more.length = 0 := by
    split at htally <;> omega
  rw [← hmore, hreply, List.length_eq_zero_iff.mp hnone, List.append_nil]

/-- A step does not change what the first event with an id was. -/
theorem first_step_of_some (hstep : world.step event = some next) {id : QueryId} {result : QueryResult}
    (hfirst : world.first id = some result) : next.first id = some result := by
  obtain ⟨-, -, -, hheard⟩ := step_eq_some hstep
  unfold first at hfirst ⊢
  obtain ⟨entry, hentry, rfl⟩ := Option.map_eq_some_iff.mp hfirst
  rw [hheard]
  cases event with
  | progressed other result => simp only [hear, List.find?_append, hentry, Option.some_or, Option.map_some]
  | _ => simp only [hear, hentry, Option.map_some]

/-- Only an event with the id can be the first one with it. -/
theorem first_step_of_none (hstep : world.step event = some next) {id : QueryId} (hfirst : world.first id = none) :
    next.first id = match event with
      | .progressed other result => if other = id then some result else none
      | _ => none := by
  obtain ⟨-, -, -, hheard⟩ := step_eq_some hstep
  have hnone := Option.map_eq_none_iff.mp hfirst
  unfold first
  rw [hheard]
  cases event with
  | progressed other result =>
    rw [hear, List.find?_append, hnone, Option.none_or]
    by_cases hother : other = id <;> simp [hother]
  | _ => simp only [hear, hnone, Option.map_none]

theorem Own.of_some {id : QueryId} {kind : Kind} {respond_to : Sender} {result : QueryResult} {reply : Reply}
    (hfirst : world.first id = some result) (hresult : result.reply id = some (kind, reply))
    (hreply : world.state.replies respond_to = [reply]) : world.Own id kind respond_to := by
  unfold Own
  rw [hfirst]
  exact ⟨reply, hresult, hreply⟩

theorem Own.of_pending {id : QueryId} {kind : Kind} {respond_to : Sender} (hfirst : world.first id = none)
    (hrunning : world.state.running) (hpending : (world.state.pending kind).lookup id = some respond_to) :
    world.Own id kind respond_to := by
  unfold Own
  rw [hfirst]
  exact (if_pos hrunning).mpr hpending

theorem Own.of_stopped {id : QueryId} {kind : Kind} {respond_to : Sender} (hfirst : world.first id = none)
    (hstopped : world.state.running = false) (hreply : world.state.replies respond_to = [.error .NotConnected]) :
    world.Own id kind respond_to := by
  unfold Own
  rw [hfirst, hstopped]
  exact hreply

/-- A sender in a table is held, so it has not been answered. -/
theorem Sound.replies_of_pending (hsound : Sound world) {id : QueryId} {kind : Kind} {respond_to : Sender}
    (hpending : (world.state.pending kind).lookup id = some respond_to) :
    world.state.held.count respond_to = 1 ∧ world.state.replies respond_to = [] := by
  have htable := Pending.count_senders (world.state.pending kind) id respond_to
  rw [hpending, Option.toList_some, List.count_singleton_self] at htable
  have hheld : (world.state.pending kind).senders.count respond_to ≤ world.state.held.count respond_to := by
    cases kind <;> simp only [DhtNode.held, DhtNode.pending, List.count_append] <;> omega
  have hle := hsound.tally_le respond_to
  exact ⟨by omega, List.length_eq_zero_iff.mp (by omega)⟩

/-- A query that no event has answered: its sender stays in the table until an event with the id
comes or the loop ends. -/
theorem Sound.own_of_pending (hsound : Sound world) (hstep : world.step event = some next)
    {query : DhtCommand × QueryId} (hquery : query ∈ world.issued) {kind : Kind} {respond_to : Sender}
    (hrequest : query.1.request = some (kind, respond_to)) (hfirst : world.first query.2 = none)
    (hrunning : world.state.running) (hpending : (world.state.pending kind).lookup query.2 = some respond_to) :
    next.Own query.2 kind respond_to := by
  obtain ⟨hlawful, hnode, -, -⟩ := step_eq_some hstep
  obtain ⟨hheld, hreplies⟩ := hsound.replies_of_pending hpending
  have hnext := first_step_of_none hstep hfirst
  have hkept : world.state.SameTables next.state → next.first query.2 = none → next.Own query.2 kind respond_to :=
    fun hsame hnext => .of_pending hnext (hsame.running.trans hrunning) (hsame.pending kind ▸ hpending)
  cases DhtNode.step_moves hnode with
  | called request hrunning' hnode' => exact hkept (hnode' ▸ ⟨rfl, rfl, rfl, rfl⟩) hnext
  | refused request hstopped => simp [hrunning] at hstopped
  | sent index command hcommand hnode' => exact hkept (hnode' ▸ ⟨rfl, rfl, rfl, rfl⟩) hnext
  | added command channel hchannel hcommand hnode' => exact hkept (hnode' ▸ ⟨rfl, rfl, rfl, rfl⟩) hnext
  | failed command channel debug display other sender error hchannel hcommand hnode' =>
    exact hkept (hnode' ▸ ⟨rfl, rfl, rfl, rfl⟩) hnext
  | started command channel id other sender hchannel hcommand hnode' =>
    have hfresh : query.2 ≠ id := by
      rintro rfl
      exact hlawful.1 (List.mem_map_of_mem hquery)
    refine .of_pending hnext ?_ ?_
    · rw [hnode']
      exact (DhtNode.set_pending_running _ other).trans hrunning
    · rw [hnode', DhtNode.lookup_register, if_neg fun hsame => hfresh hsame.2]
      exact (DhtNode.SameTables.pending ⟨rfl, rfl, rfl, rfl⟩ kind) ▸ hpending
  | stopped channel event hchannel hevent hnode' =>
    have hstopped : next.state.running = false := by
      rw [hnode']
      rfl
    refine .of_stopped ?_ hstopped ?_
    · rw [hnext]
      rcases hevent with rfl | rfl <;> rfl
    · rw [(DhtNode.replies_of_stop hnode hrunning hstopped).2, hheld, hreplies]
      rfl
  | resolved id result other reply hrunning' hresult hnode' =>
    by_cases hid : id = query.2
    · subst hid
      have hkinds := hlawful query hquery rfl
      rw [hrequest, hresult] at hkinds
      obtain rfl : kind = other := Option.some.inj hkinds
      refine .of_some (hnext.trans (if_pos rfl)) hresult ?_
      rw [hnode', DhtNode.replies_resolve, hpending, hreplies]
      simp
    · refine .of_pending (hnext.trans (if_neg hid)) ?_ ?_
      · rw [hnode']
        exact (DhtNode.set_pending_running _ other).trans hrunning
      · rw [hnode', DhtNode.lookup_resolve other reply (Ne.symm hid)]
        exact hpending
  | ignored id result hrunning' hresult hnode' =>
    have hid : id ≠ query.2 := by
      rintro rfl
      have hkinds := hlawful query hquery rfl
      rw [hrequest, hresult] at hkinds
      cases hkinds
    exact hkept (hnode' ▸ ⟨rfl, rfl, rfl, rfl⟩) (hnext.trans (if_neg hid))

theorem Sound.own_step (hsound : Sound world) (hstep : world.step event = some next) {query : DhtCommand × QueryId}
    (hquery : query ∈ world.issued) {kind : Kind} {respond_to : Sender}
    (hrequest : query.1.request = some (kind, respond_to)) : next.Own query.2 kind respond_to := by
  obtain ⟨-, hnode, -, -⟩ := step_eq_some hstep
  have hown := hsound.own query hquery kind respond_to hrequest
  unfold Own at hown
  cases hfirst : world.first query.2 with
  | some result =>
    rw [hfirst] at hown
    obtain ⟨reply, hresult, hreply⟩ := hown
    exact .of_some (first_step_of_some hstep hfirst) hresult (hsound.replies_stable hnode hreply)
  | none =>
    rw [hfirst] at hown
    cases hrunning : world.state.running with
    | true => exact hsound.own_of_pending hstep hquery hrequest hfirst hrunning (by simpa [hrunning] using hown)
    | false =>
      obtain ⟨request, rfl, hdropped⟩ := hsound.idle.step_of_stopped hnode hrunning
      have hstopped : next.state.running = false := by rw [hdropped]; exact hrunning
      exact .of_stopped (first_step_of_none hstep hfirst) hstopped
        (hsound.replies_stable hnode (by simpa [hrunning] using hown))

theorem Sound.step (hsound : Sound world) (hstep : world.step event = some next) : Sound next := by
  obtain ⟨hlawful, hnode, hissued, hheard⟩ := step_eq_some hstep
  refine ⟨hsound.tally_step hnode, hsound.idle.step hnode, fun query hquery kind respond_to hrequest => ?_⟩
  by_cases hold : query ∈ world.issued
  · exact hsound.own_step hstep hold hrequest
  -- a query that has just been started
  · rw [hissued] at hquery
    cases event with
    | recv start => cases start with
      | query id =>
        cases DhtNode.step_moves hnode with
        | started command channel id other sender hchannel hcommand hnode' =>
          obtain rfl : query = (command, id) := by simpa [issue, hchannel, hold] using hquery
          obtain ⟨rfl, rfl⟩ : other = kind ∧ sender = respond_to := by simpa [hcommand] using hrequest
          have hrunning : world.state.running = true := by
            by_contra hstopped
            simpa [hchannel] using hsound.idle (Bool.not_eq_true _ ▸ hstopped)
          refine .of_pending ?_ ?_ ?_
          · refine Option.map_eq_none_iff.mpr (List.find?_eq_none.mpr fun entry hentry => ?_)
            rw [hheard] at hentry
            simp only [decide_eq_true_eq]
            rintro rfl
            exact hlawful.2 (List.mem_map_of_mem hentry)
          · rw [hnode']
            exact (DhtNode.set_pending_running _ other).trans hrunning
          · rw [hnode', DhtNode.lookup_register, if_pos ⟨rfl, rfl⟩]
        | stopped channel event hchannel hevent => simp at hevent
      | failed debug display => exact absurd hquery hold
      | nothing => exact absurd hquery hold
    | _ => exact absurd hquery hold

/-- Once the loop has ended, the calls that had no answer then and those made later have returned
`NotConnected`. -/
structure Disconnected (stopping world : World) : Prop where
  sound : Sound world
  stopped : world.state.running = false
  replies : ∀ sender < world.state.calls, stopping.state.replies sender = [] →
    world.state.replies sender = [.error .NotConnected]

theorem Sound.replies_eq_nil (hsound : Sound world) {sender : Sender} (hsender : ¬ sender < world.state.calls) :
    world.state.replies sender = [] := by
  have htally := hsound.tally sender
  rw [if_neg hsender, DhtNode.tally, ← DhtNode.length_replies] at htally
  exact List.length_eq_zero_iff.mp (Nat.eq_zero_of_add_eq_zero_left htally)

theorem Disconnected.of_stop (hsound : Sound world) (hrunning : world.state.running = true)
    (hstep : world.step event = some next) (hstopped : next.state.running = false) : Disconnected world next := by
  obtain ⟨-, hnode, -, -⟩ := step_eq_some hstep
  refine ⟨hsound.step hstep, hstopped, fun sender hsender hnone => ?_⟩
  obtain ⟨hmade, hreplies⟩ := DhtNode.replies_of_stop hnode hrunning hstopped
  rw [DhtNode.calls_step hnode, hmade, List.length_nil, Nat.add_zero] at hsender
  have htally := hsound.tally sender
  rw [if_pos hsender, DhtNode.tally, ← DhtNode.length_replies, hnone, List.length_nil, Nat.add_zero] at htally
  rw [hreplies, hnone, htally]
  rfl

theorem Disconnected.step {stopping : World} (hdisconnected : Disconnected stopping world)
    (hstep : world.step event = some next) : Disconnected stopping next := by
  obtain ⟨-, hnode, -, -⟩ := step_eq_some hstep
  obtain ⟨request, -, hnext⟩ := hdisconnected.sound.idle.step_of_stopped hnode hdisconnected.stopped
  refine ⟨hdisconnected.sound.step hstep, by rw [hnext]; exact hdisconnected.stopped, fun sender hsender hnone => ?_⟩
  by_cases hold : sender < world.state.calls
  · exact hdisconnected.sound.replies_stable hnode (hdisconnected.replies sender hold hnone)
  · have hmade : world.state.made event = [sender] := by
      rw [DhtNode.calls_step hnode] at hsender
      rcases world.state.made_eq event with hmade | hmade
      · rw [hmade] at hsender
        exact absurd hsender hold
      · rw [hmade] at hsender ⊢
        exact congrArg (fun made => [made]) (Nat.le_antisymm (Nat.not_lt.mp hold) (Nat.lt_succ_iff.mp hsender))
    rw [hnext, hmade, DhtNode.drop_senders, DhtNode.replies_answer, List.count_singleton_self]
    exact congrArg (· ++ [_]) (hdisconnected.sound.replies_eq_nil hold)

theorem Sound.of_run {events : List LoopEvent} (hrun : exec World.step World.new events = some world) : Sound world :=
  exec_invariant (fun _ _ _ hsound hstep => hsound.step hstep) Sound.new hrun

/-- What a get has returned: the reply of the first event with its id, or nothing yet, or that the
node is not connected. -/
theorem Sound.get_replies (hsound : Sound world) {key : Bytes} {respond_to : Sender} {id : QueryId}
    (hquery : (.GetRecord key respond_to, id) ∈ world.issued) :
    (∃ result, world.first id = some (.GetRecord result) ∧
      world.state.replies respond_to = [get_reply id result]) ∨
    world.first id = none ∧ world.state.replies respond_to =
      if world.state.running then [] else [.error .NotConnected] := by
  have hown := hsound.own _ hquery .get respond_to rfl
  unfold Own at hown
  cases hfirst : world.first id with
  | some result =>
    rw [hfirst] at hown
    obtain ⟨reply, hresult, hreply⟩ := hown
    cases result with
    | GetRecord result =>
      cases hresult
      exact Or.inl ⟨result, rfl, hreply⟩
    | _ => cases hresult
  | none =>
    rw [hfirst] at hown
    refine Or.inr ⟨rfl, ?_⟩
    cases hrunning : world.state.running with
    | true =>
      rw [hrunning] at hown
      exact (hsound.replies_of_pending hown).2
    | false =>
      rw [hrunning] at hown
      exact hown

end World

/-- In every run each call has exactly one answer or its sender is still held; a get is answered by
the first event with the id of its own query; and when the loop has ended, whatever had no answer
has returned `NotConnected`. -/
theorem answers_once_by_own_query (events : List LoopEvent) (world : World)
    (hrun : exec World.step World.new events = some world) :
    (∀ sender < world.state.calls,
      (world.state.replies sender).length + world.state.held.count sender = 1) ∧
    (∀ key respond_to id, (.GetRecord key respond_to, id) ∈ world.issued →
      (∃ result, world.first id = some (.GetRecord result) ∧
        world.state.replies respond_to = [get_reply id result]) ∨
      world.first id = none ∧ world.state.replies respond_to =
        if world.state.running then [] else [.error .NotConnected]) ∧
    ∀ before event after stopping stopped, events = before ++ event :: after →
      exec World.step World.new before = some stopping → stopping.state.running = true →
      stopping.step event = some stopped → stopped.state.running = false →
      ∀ sender < world.state.calls, stopping.state.replies sender = [] →
        world.state.replies sender = [.error .NotConnected] := by
  have hsound := World.Sound.of_run hrun
  refine ⟨fun sender hsender => ?_, fun key respond_to id => hsound.get_replies, ?_⟩
  · have htally := hsound.tally sender
    rw [if_pos hsender, DhtNode.tally, ← DhtNode.length_replies] at htally
    rw [Nat.add_comm]
    exact htally
  · rintro before event after stopping stopped rfl hbefore hrunning hstep hstopped
    have hafter : exec World.step stopped after = some world := by
      rw [exec_append, hbefore, Option.bind_some, exec_cons_of_step hstep] at hrun
      exact hrun
    have hend : World.Disconnected stopping world :=
      exec_invariant (I := World.Disconnected stopping) (fun _ _ _ hend hstep => hend.step hstep)
        (.of_stop (World.Sound.of_run hbefore) hrunning hstep hstopped) hafter
    exact hend.replies

/-- Two events answer a get, the loop ends with a put pending and a get queued, and a last call
comes late. -/
def two_events_then_shutdown : List LoopEvent :=
  [.call (.get_record [1]), .call (.put_record [1] [2]), .send 0, .send 0, .recv (.query 7), .recv (.query 8),
    .progressed 7 (.GetRecord (.ok (.FoundRecord [2]))),
    .progressed 7 (.GetRecord (.ok .FinishedWithNoAdditionalRecord)),
    .call .shutdown, .call (.get_record [3]), .send 0, .send 0, .recv .nothing, .call .bootstrap]

theorem answers_two_events_then_shutdown : ∃ world,
    exec World.step World.new two_events_then_shutdown = some world ∧
      (List.range 4).map world.state.replies =
        [[.ok (some [2])], [.error .NotConnected], [.error .NotConnected], [.error .NotConnected]] ∧
      ∀ sender < world.state.calls, (world.state.replies sender).length + world.state.held.count sender = 1 :=
  ⟨_, rfl, rfl, (answers_once_by_own_query two_events_then_shutdown _ rfl).1⟩

end voip_dht.node
