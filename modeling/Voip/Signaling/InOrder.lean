import Voip.Async.Log
import Voip.Queue.Mailbox
import Voip.Signaling.Reference
import Voip.Signaling.Steady
import Voip.Signaling.TaskSlots

namespace voip_signaling.session

open state

variable {actor : Actor} {action : Action} {server after : Server} {answer : action.Answer} {s : SessionId}

/-- The messages that an action puts into the channel of a session. -/
def Action.posts (action : Action) (server : Server) (s : SessionId) : List FramedMessage :=
  ((action.sends server).filter fun sent => sent.1 = s).map Prod.snd

/-- What a channel looks like after an action: it has taken in what was sent to it, within its
capacity, if its receiver is there, and is as before otherwise. -/
structure Channel.Takes (before after : Channel) (messages : List FramedMessage) : Prop where
  receiver_open : after.receiver_open = before.receiver_open
  queue : after.queue = before.queue ++ messages
  taken : messages = [] ∨
    (∃ message, messages = [message]) ∧ before.receiver_open = true ∧
      before.queue.length < SESSION_CHANNEL_CAPACITY

theorem Channel.Takes.refl (channel : Channel) : channel.Takes channel [] where
  receiver_open := rfl
  queue := (List.append_nil _).symm
  taken := .inl rfl

/-- What a send puts into the channels. -/
theorem Server.channel_send_takes {message : FramedMessage} {sent : Bool} {target : SessionId}
    (hsend : server.channel_send target message = some (sent, after)) (s : SessionId) :
    (server.channels s).Takes (after.channels s)
      (if s = target ∧ (server.channels target).receiver_open = true then [message] else []) := by
  unfold Server.channel_send at hsend
  dsimp only at hsend
  split at hsend
  next hclosed =>
    cases hsend
    have hclosed : (server.channels target).receiver_open = false := by simpa using hclosed
    rw [if_neg (by simp [hclosed])]
    exact .refl _
  next hopen =>
    have hopen : (server.channels target).receiver_open = true := by simpa using hopen
    split at hsend
    next hroom =>
      cases hsend
      by_cases hs : s = target
      · subst hs
        rw [if_pos ⟨rfl, hopen⟩]
        simp only [Server.set_channel, Function.update_self]
        exact ⟨rfl, rfl, .inr ⟨⟨message, rfl⟩, hopen, hroom⟩⟩
      · rw [if_neg (by simp [hs])]
        simp only [Server.set_channel, ne_eq, hs, not_false_eq_true, Function.update_of_ne]
        exact .refl _
    next => contradiction

private theorem posts_of_sends {target : SessionId} {message : FramedMessage} {receiver_open : Bool}
    (hsends : action.sends server = if receiver_open then [(target, message)] else []) (s : SessionId) :
    action.posts server s = if s = target ∧ receiver_open = true then [message] else [] := by
  rw [Action.posts, hsends]
  cases receiver_open with
  | false => simp
  | true =>
    by_cases hs : s = target
    · simp [hs]
    · simp [hs, Ne.symm hs]

/-- An action puts into each channel what it sends to that session, and nothing else. -/
theorem exec_takes (hexec : exec actor action server = some (answer, after)) (s : SessionId) :
    (server.channels s).Takes (after.channels s) (action.posts server s) := by
  cases action with
  | send target message =>
    rw [posts_of_sends rfl]
    exact Server.channel_send_takes hexec s
  | send_holding_peers message =>
    simp only [exec] at hexec
    split at hexec
    next => contradiction
    next holder target hlock =>
      split at hexec
      next =>
        obtain ⟨⟨sent, middle⟩, hsend, heq⟩ := Option.map_eq_some_iff.mp hexec
        cases heq
        have hsends : (Action.send_holding_peers message).sends server =
            if (server.channels target).receiver_open then [(target, message)] else [] := by
          simp only [Action.sends, hlock]
        rw [posts_of_sends hsends]
        exact Server.channel_send_takes hsend s
      next => contradiction
  | lock_holder target | read_holder target | write_holder target _ =>
    obtain ⟨session, -, -, -, rfl⟩ := Server.with_holder_eq_some hexec
    exact .refl _
  | unlock_holder target | claim_disconnect target =>
    simp only [exec] at hexec
    split at hexec
    next => contradiction
    next =>
      cases hexec
      exact .refl _
  | find_sender peer_id =>
    obtain ⟨-, -, rfl⟩ := exec_find_sender_eq_some.mp hexec
    exact .refl _
  | now_secs =>
    cases hexec
    exact .refl _
  | state op =>
    obtain ⟨-, -, rfl⟩ := exec_state_eq_some.mp hexec
    exact .refl _

end voip_signaling.session

namespace voip_signaling.server

open async state session queue

variable {state : AppState} {sys next : System} {event : Event} {s : SessionId}

/-- What the forward task does as the reader of the channel of its session. -/
def Forward.reader : Forward → Reader FramedMessage
  | .receiving => .waiting
  | .writing message => .busy message
  | .finishing _ => .leaving
  | .ended => .gone

/-- The channel of a session with its forward task. -/
def System.mailbox (sys : System) (s : SessionId) : Mailbox FramedMessage where
  reader := if (sys.server.sessions s).isSome then (sys.forward s).reader else .expected
  pending := (sys.server.channels s).queue

/-- The messages that a step puts into the channel of a session. -/
def System.queues (sys : System) (event : Event) (s : SessionId) : List FramedMessage :=
  ((sys.performs event).map fun action => action.posts sys.server s).getD []

/-- The message that a forward task is writing. -/
def Forward.message : Forward → List FramedMessage
  | .writing message => [message]
  | _ => []

/-- The messages that a step has written to the client of a session. -/
def System.writes (sys : System) (event : Event) (s : SessionId) : List FramedMessage :=
  match event with
  | .wrote s' => if s = s' then (sys.forward s').message else []
  | _ => []

/-- The receiving end of a channel lives as long as the forward task of an open session, and
takes what is left in the channel with it. -/
structure System.Plumbed (sys : System) (s : SessionId) : Prop where
  live : (sys.server.channels s).receiver_open = true → sys.forward s ≠ .ended
  dropped : sys.forward s = .ended → (sys.server.channels s).queue = []
  opened : sys.forward s ≠ .ended → (sys.server.sessions s).isSome = true

/-- The step of a server as a session sees it: its mailbox takes in what is sent to the session
and gives out what is written to its client. -/
structure System.Delivers (sys : System) (event : Event) (next : System) (s : SessionId) : Prop where
  plumbed : next.Plumbed s
  moves : Mailbox.Run SESSION_CHANNEL_CAPACITY (sys.mailbox s) (sys.queues event s) (sys.writes event s)
    (next.mailbox s)

/-- A step that leaves a session alone. -/
structure System.LeavesAlone (sys next : System) (s : SessionId) : Prop where
  sessions : (next.server.sessions s).isSome = (sys.server.sessions s).isSome
  forward : next.forward s = sys.forward s
  channel : next.server.channels s = sys.server.channels s

theorem System.LeavesAlone.delivers (hleaves : sys.LeavesAlone next s) (hsys : sys.Plumbed s)
    (hqueues : sys.queues event s = []) (hwrites : sys.writes event s = []) :
    sys.Delivers event next s := by
  obtain ⟨hsessions, hforward, hchannel⟩ := hleaves
  have heq : next.mailbox s = sys.mailbox s := by
    simp only [System.mailbox, hsessions, hforward, hchannel]
  refine ⟨⟨?_, ?_, ?_⟩, ?_⟩
  · rw [hchannel, hforward]
    exact hsys.live
  · rw [hchannel, hforward]
    exact hsys.dropped
  · rw [hsessions, hforward]
    exact hsys.opened
  · rw [hqueues, hwrites, heq]
    exact .refl

/-- One move of the forward task of a session that stays open. -/
theorem System.delivers_of_step (done : List FramedMessage) (hlive : next.forward s ≠ .ended)
    (hopened : (next.server.sessions s).isSome = true) (hqueues : sys.queues event s = [])
    (hwrites : sys.writes event s = done)
    (hstep : Mailbox.Step SESSION_CHANNEL_CAPACITY (sys.mailbox s) [] done (next.mailbox s)) :
    sys.Delivers event next s where
  plumbed := ⟨fun _ => hlive, fun hended => absurd hended hlive, fun _ => hopened⟩
  moves := by
    rw [hqueues, hwrites]
    exact hstep.run

/-- A forward task that stays there makes one move. -/
theorem System.delivers_of_forward {s' : SessionId} {channel : Channel} {forward : Forward}
    (done : List FramedMessage) (hsys : sys.Plumbed s) (hsessions : next.server.sessions = sys.server.sessions)
    (hchannels : next.server.channels = Function.update sys.server.channels s' channel)
    (hforward : next.forward = Function.update sys.forward s' forward) (hbefore : sys.forward s' ≠ .ended)
    (hlive : forward ≠ .ended) (hqueues : sys.queues event s = [])
    (hwrites : sys.writes event s = if s = s' then done else [])
    (hstep : Mailbox.Step SESSION_CHANNEL_CAPACITY
      ⟨(sys.forward s').reader, (sys.server.channels s').queue⟩ [] done ⟨forward.reader, channel.queue⟩) :
    sys.Delivers event next s := by
  by_cases hs : s = s'
  · subst hs
    have hopened := hsys.opened hbefore
    rw [if_pos rfl] at hwrites
    refine System.delivers_of_step done ?_ (by rwa [hsessions]) hqueues hwrites ?_
    · simpa [hforward] using hlive
    · simpa [System.mailbox, hsessions, hchannels, hforward, hopened] using hstep
  · rw [if_neg hs] at hwrites
    refine System.LeavesAlone.delivers ⟨?_, ?_, ?_⟩ hsys hqueues hwrites
    · rw [hsessions]
    · simp [hforward, hs]
    · simp [hchannels, hs]

section Acting

variable {actor : Actor} {action : session.Action} {server : Server} {answer : action.Answer}

theorem exec_isSome {before : Server} (hexec : session.exec actor action before = some (answer, server))
    (s : SessionId) : (server.sessions s).isSome = (before.sessions s).isSome := by
  rw [exec_sessions hexec, Option.isSome_map]

/-- An action posts into the mailbox of a session what it sends there. -/
theorem System.Plumbed.exec (hsys : sys.Plumbed s)
    (hexec : session.exec actor action sys.server = some (answer, server)) :
    ({ sys with server } : System).Plumbed s ∧ Mailbox.Run SESSION_CHANNEL_CAPACITY (sys.mailbox s)
      (action.posts sys.server s) [] (({ sys with server } : System).mailbox s) := by
  obtain ⟨hreceiver, hqueue, htaken⟩ := exec_takes hexec s
  have hopened : sys.forward s ≠ .ended → (server.sessions s).isSome = true := fun hlive => by
    rw [exec_isSome hexec]
    exact hsys.opened hlive
  have hlive : (server.channels s).receiver_open = true → sys.forward s ≠ .ended := fun hopen =>
    hsys.live (hreceiver ▸ hopen)
  obtain hnone | ⟨⟨message, hmessage⟩, hopen, hroom⟩ := htaken
  · rw [hnone, List.append_nil] at hqueue
    have heq : ({ sys with server } : System).mailbox s = sys.mailbox s := by
      simp only [System.mailbox, exec_isSome hexec, hqueue]
    rw [hnone, heq]
    refine ⟨⟨hlive, fun hended => ?_, hopened⟩, .refl⟩
    rw [hqueue]
    exact hsys.dropped hended
  · have hforward := hsys.live hopen
    have hreader : (sys.mailbox s).reader ≠ .expected ∧ (sys.mailbox s).reader ≠ .gone := by
      simp only [System.mailbox, hsys.opened hforward, if_true]
      cases hcase : sys.forward s with
      | ended => exact absurd hcase hforward
      | _ => simp [Forward.reader]
    have heq : ({ sys with server } : System).mailbox s =
        ⟨(sys.mailbox s).reader, (sys.mailbox s).pending ++ [message]⟩ := by
      simp only [System.mailbox, exec_isSome hexec, hqueue, hmessage]
    rw [hmessage, heq]
    exact ⟨⟨hlive, fun hended => absurd hended hforward, hopened⟩,
      (Mailbox.Step.post message hroom hreader).run⟩

/-- A task of another session, or the receive loop of this one, performs an action. -/
theorem System.delivers_of_exec (hsys : sys.Plumbed s)
    (hexec : session.exec actor action sys.server = some (answer, server))
    (hperforms : sys.performs event = some action) (hwrites : sys.writes event s = [])
    (hleaves : ({ sys with server } : System).LeavesAlone next s) : sys.Delivers event next s := by
  obtain ⟨hplumbed, hmoves⟩ := hsys.exec hexec
  have hrest : ({ sys with server } : System).Delivers .cleanup next s := hleaves.delivers hplumbed rfl rfl
  refine ⟨hrest.plumbed, ?_⟩
  have hqueues : sys.queues event s = action.posts sys.server s := by
    simp only [System.queues, hperforms, Option.map_some, Option.getD_some]
  rw [hqueues, hwrites]
  simpa [System.queues, System.performs, System.writes] using hmoves.trans hrest.moves

/-- The forward task performs an action of its cleanup, and closes the channel when it returns. -/
theorem System.delivers_finish (hsys : sys.Plumbed s) {task rest : Async Unit}
    (hexec : session.exec actor action sys.server = some (answer, server))
    (hperforms : sys.performs (.forward_task s) = some action) (hfinishing : sys.forward s = .finishing task) :
    sys.Delivers (.forward_task s) (({ sys with server } : System).finish s rest) s := by
  obtain ⟨hplumbed, hmoves⟩ := hsys.exec hexec
  have hopened : (server.sessions s).isSome = true := hplumbed.opened (by simp [hfinishing])
  have hqueues : sys.queues (.forward_task s) s = action.posts sys.server s := by
    simp only [System.queues, hperforms, Option.map_some, Option.getD_some]
  have hbefore : ({ sys with server } : System).mailbox s = ⟨.leaving, (server.channels s).queue⟩ := by
    simp [System.mailbox, hopened, hfinishing, Forward.reader]
  cases rest with
  | done value =>
    refine ⟨⟨?_, ?_, ?_⟩, ?_⟩
    · simp [System.finish, System.set_forward, System.drop_receiver, Server.set_channel]
    · simp [System.finish, System.set_forward, System.drop_receiver, Server.set_channel]
    · simp [System.finish, System.set_forward]
    · have hafter : (({ sys with server } : System).finish s (.done value)).mailbox s = ⟨.gone, []⟩ := by
        simp [System.mailbox, System.finish, System.set_forward, System.drop_receiver, Server.set_channel,
          hopened, Forward.reader]
      rw [hbefore] at hmoves
      rw [hqueues, hafter]
      simpa [System.writes] using hmoves.tail (Mailbox.Step.drop _)
  | act action' resume =>
    have hlive : (({ sys with server } : System).finish s (.act action' resume)).forward s ≠ .ended := by
      simp [System.finish, System.set_forward]
    refine ⟨⟨fun _ => hlive, fun hended => absurd hended hlive, fun _ => hopened⟩, ?_⟩
    have hafter : (({ sys with server } : System).finish s (.act action' resume)).mailbox s =
        ({ sys with server } : System).mailbox s := by
      rw [hbefore]
      simp [System.mailbox, System.finish, System.set_forward, hopened, Forward.reader]
    rw [hqueues, hafter]
    exact hmoves

end Acting

/-- A session is opened. -/
theorem System.delivers_open {s' : SessionId} (hsys : sys.Plumbed s)
    (hfresh : (sys.server.sessions s').isSome = false) (token peer_id : String) :
    sys.Delivers (.upgrade s' token) (sys.open_session s' token peer_id) s := by
  by_cases hs : s = s'
  · subst hs
    have hended : sys.forward s = .ended := by
      by_contra hlive
      simpa [hfresh] using hsys.opened hlive
    refine System.delivers_of_step [] ?_ ?_ rfl rfl ?_
    · simp [System.open_session]
    · simp [System.open_session, Server.set_session, Server.set_channel]
    · have hbefore : sys.mailbox s = ⟨.expected, []⟩ := by
        simp [System.mailbox, hfresh, hsys.dropped hended]
      have hafter : (sys.open_session s token peer_id).mailbox s = ⟨.waiting, []⟩ := by
        simp [System.mailbox, System.open_session, Server.set_session, Server.set_channel, Forward.reader]
      rw [hbefore, hafter]
      exact .enter
  · refine System.LeavesAlone.delivers ⟨?_, ?_, ?_⟩ hsys rfl rfl
    · simp [System.open_session, Server.set_session, Server.set_channel, hs]
    · simp [System.open_session, hs]
    · simp [System.open_session, Server.set_session, Server.set_channel, hs]

theorem System.leavesAlone_finish {s' : SessionId} (hs : s ≠ s') (rest : Async Unit) :
    sys.LeavesAlone (sys.finish s' rest) s := by
  cases rest with
  | done value =>
    refine ⟨rfl, ?_, ?_⟩
    · simp [System.finish, System.set_forward, System.drop_receiver, hs]
    · simp [System.finish, System.set_forward, System.drop_receiver, Server.set_channel, hs]
  | act action resume => exact ⟨rfl, by simp [System.finish, System.set_forward, hs], rfl⟩

/-- Every step of the server is a run of each mailbox. -/
theorem step_delivers (hsys : sys.Plumbed s) (hstep : step state sys event = some next) :
    sys.Delivers event next s := by
  cases event with
  | upgrade s' token =>
    simp only [step] at hstep
    split at hstep
    next => contradiction
    next hfresh =>
      split at hstep
      next =>
        cases hstep
        exact System.LeavesAlone.delivers ⟨rfl, rfl, rfl⟩ hsys rfl rfl
      next claims hverified =>
        cases hstep
        exact System.delivers_open hsys (by simpa using hfresh) _ _
  | message s' data =>
    simp only [step] at hstep
    split at hstep
    next =>
      split at hstep <;>
      · cases hstep
        exact System.LeavesAlone.delivers ⟨rfl, rfl, rfl⟩ hsys rfl rfl
    next => contradiction
  | close s' =>
    simp only [step] at hstep
    split at hstep
    next =>
      cases hstep
      exact System.LeavesAlone.delivers ⟨rfl, rfl, rfl⟩ hsys rfl rfl
    next => contradiction
  | receive_loop s' =>
    simp only [step] at hstep
    split at hstep
    next framed action resume hrunning =>
      obtain ⟨⟨answer, server⟩, hdone, rfl⟩ := Option.map_eq_some_iff.mp hstep
      exact System.delivers_of_exec hsys hdone (by simp [System.performs, hrunning]) rfl ⟨rfl, rfl, rfl⟩
    next action resume hrunning =>
      obtain ⟨⟨answer, server⟩, hdone, rfl⟩ := Option.map_eq_some_iff.mp hstep
      exact System.delivers_of_exec hsys hdone (by simp [System.performs, hrunning]) rfl ⟨rfl, rfl, rfl⟩
    next => contradiction
  | take s' =>
    simp only [step] at hstep
    split at hstep
    next message queue hreceiving hqueue =>
      cases hstep
      refine System.delivers_of_forward [] hsys rfl rfl rfl (by simp [hreceiving]) (by simp) rfl
        (by simp [System.writes]) ?_
      rw [hreceiving, hqueue]
      exact .take message queue
    next => contradiction
  | wrote s' =>
    simp only [step] at hstep
    split at hstep
    next message hwriting =>
      cases hstep
      refine System.delivers_of_forward [message] hsys rfl (Function.update_eq_self s' _).symm rfl
        (by simp [hwriting]) (by simp) rfl (by simp [System.writes, Forward.message, hwriting]) ?_
      rw [hwriting]
      exact .finish message _
    next => contradiction
  | write_fails s' =>
    simp only [step] at hstep
    split at hstep
    next message hwriting =>
      cases hstep
      refine System.delivers_of_forward [] hsys rfl (Function.update_eq_self s' _).symm rfl
        (by simp [hwriting]) (by simp) rfl (by simp [System.writes]) ?_
      rw [hwriting]
      exact .fail message _
    next => contradiction
  | drained s' =>
    simp only [step] at hstep
    split at hstep
    next hreceiving hended =>
      split at hstep
      next hempty =>
        cases hstep
        refine System.delivers_of_forward [] hsys rfl (Function.update_eq_self s' _).symm rfl
          (by simp [hreceiving]) (by simp) rfl (by simp [System.writes]) ?_
        rw [hreceiving]
        exact .leave _
      next => contradiction
    next => contradiction
  | forward_task s' =>
    simp only [step] at hstep
    split at hstep
    next action resume hrunning =>
      obtain ⟨⟨answer, server⟩, hdone, rfl⟩ := Option.map_eq_some_iff.mp hstep
      have hperforms : sys.performs (.forward_task s') = some action := by simp [System.performs, hrunning]
      by_cases hs : s = s'
      · subst hs
        exact System.delivers_finish hsys hdone hperforms hrunning
      · exact System.delivers_of_exec hsys hdone hperforms rfl (System.leavesAlone_finish hs _)
    next => contradiction
  | request r endpoint authorization =>
    simp only [step] at hstep
    split at hstep
    next => contradiction
    next =>
      split at hstep <;>
      · cases hstep
        exact System.LeavesAlone.delivers ⟨rfl, rfl, rfl⟩ hsys rfl rfl
  | handler r =>
    simp only [step] at hstep
    split at hstep
    next endpoint authorization auth action resume hrunning =>
      obtain ⟨⟨answer, server⟩, hdone, rfl⟩ := Option.map_eq_some_iff.mp hstep
      exact System.delivers_of_exec hsys hdone (by simp [System.performs, hrunning]) rfl ⟨rfl, rfl, rfl⟩
    next => contradiction
  | cancel _ | add_proxy _ | set_clock _ | elapse _ | cleanup =>
    cases hstep
    exact System.LeavesAlone.delivers ⟨rfl, rfl, rfl⟩ hsys rfl rfl

/-- The messages that the tasks of the server put into the channel of a session during a run. -/
def queued (state : AppState) (s : SessionId) (sys : System) (events : List Event) : List FramedMessage :=
  gather (step state) (fun sys event _ => sys.queues event s) sys events

/-- The messages that the client of a session is sent during a run. -/
def written (state : AppState) (s : SessionId) (sys : System) (events : List Event) : List FramedMessage :=
  gather (step state) (fun sys event _ => sys.writes event s) sys events

/-- Every run of the server is a run of each mailbox. -/
theorem run_delivers {events : List Event} {last : System} (hsys : sys.Plumbed s)
    (hexec : async.exec (step state) sys events = some last) :
    last.Plumbed s ∧ Mailbox.Run SESSION_CHANNEL_CAPACITY (sys.mailbox s) (queued state s sys events)
      (written state s sys events) (last.mailbox s) := by
  induction events generalizing sys with
  | nil =>
    cases hexec
    exact ⟨hsys, .refl⟩
  | cons event events ih =>
    obtain ⟨next, hstep, hrest⟩ := Option.bind_eq_some_iff.mp hexec
    obtain ⟨hplumbed, hmoves⟩ := step_delivers hsys hstep
    obtain ⟨hlast, hrun⟩ := ih hplumbed hrest
    refine ⟨hlast, ?_⟩
    rw [queued, written, gather_cons_of_step hstep, gather_cons_of_step hstep]
    exact hmoves.trans hrun

/-- In every run each client is sent a first part of what was queued for it, in that order and
each message once; at most a full channel and the message being written are ever missing, and
none is while the forward task goes on. -/
theorem delivered_in_order (rate_limits : rate_limit.RateLimitConfig) {events : List Event} {last : System}
    (hexec : async.exec (step state) (System.init rate_limits state) events = some last) (s : SessionId) :
    let queued := queued state s (System.init rate_limits state) events
    let written := written state s (System.init rate_limits state) events
    written <+: queued ∧ queued.length ≤ written.length + (SESSION_CHANNEL_CAPACITY + 1) ∧
      (last.server.channels s).queue.length ≤ SESSION_CHANNEL_CAPACITY ∧
      (last.forward s = .receiving → queued = written ++ (last.server.channels s).queue) ∧
      ∀ message, last.forward s = .writing message →
        queued = written ++ message :: (last.server.channels s).queue := by
  intro queued written
  have hinit : (System.init rate_limits state).Plumbed s := by
    constructor <;> simp [System.init]
  obtain ⟨hplumbed, hrun⟩ := run_delivers hinit hexec
  have hbalanced : Mailbox.Balanced SESSION_CHANNEL_CAPACITY queued written (last.mailbox s) := hrun.balanced
  refine ⟨hbalanced.in_order, hbalanced.missing_le, hbalanced.bounded, fun hreceiving => ?_,
    fun message hwriting => ?_⟩
  · obtain ⟨-, lost, howes, haccounts⟩ := hbalanced
    have hopened := hplumbed.opened (by simp [hreceiving])
    simp only [Mailbox.Owes, System.mailbox, hopened, hreceiving, Forward.reader, if_true] at howes
    simpa [howes, System.mailbox] using haccounts
  · obtain ⟨-, lost, howes, haccounts⟩ := hbalanced
    have hopened := hplumbed.opened (by simp [hwriting])
    simp only [Mailbox.Owes, System.mailbox, hopened, hwriting, Forward.reader, if_true] at howes
    simpa [howes, System.mailbox] using haccounts

/-- Alice sends a message of an unknown kind, and the error is written to her. -/
def alice_gets_error : List Event :=
  .upgrade 1 (AppState.reference_token "alice") :: (exchange 1 99 [] 3 ++ [.take 1, .wrote 1])

theorem alice_error_delivered :
    (async.exec (step .reference) .reference alice_gets_error).isSome = true ∧
      written .reference 1 .reference alice_gets_error ≠ [] ∧
      written .reference 1 .reference alice_gets_error <+: queued .reference 1 .reference alice_gets_error := by
  have hstarts : ∀ events, async.exec (step .reference) .reference
      (.upgrade 1 (AppState.reference_token "alice") :: events) =
        async.exec (step .reference) .alice events :=
    fun events => exec_cons_of_step alice_connects
  have hsome : (async.exec (step .reference) .reference alice_gets_error).isSome = true := by
    rw [alice_gets_error, hstarts]
    decide
  refine ⟨hsome, ?_, ?_⟩
  · rw [written, alice_gets_error, gather_cons_of_step alice_connects]
    decide
  · obtain ⟨last, hlast⟩ := Option.isSome_iff_exists.mp hsome
    exact (delivered_in_order .default hlast 1).1

end voip_signaling.server
