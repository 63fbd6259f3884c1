import Voip.Signaling.PeerAuthority
import Voip.Signaling.Registration

namespace voip_signaling.server

open async state session handlers

variable {state : AppState} {sys next : System} {event : Event}

/-- A session that enters itself in the registry. -/
structure Registers (state : AppState) (sys : System) (event : Event) (s : SessionId) (p : String)
    (info : PeerInfo) (framed : FramedMessage)
    (resume : (Op.register_peer info (some s)).Answer → Async Unit) : Prop where
  label : event = .receive_loop s
  running : sys.Runs (.handling s framed) (.act (.state (.register_peer info (some s))) resume)
  peer_id : info.peer_id = p
  message : ∃ msg, client_message state framed = some (.PeerRegister msg) ∧ msg.peer_id = p
  done : ∃ answer after, exec (.receive_loop s) (.state (.register_peer info (some s))) sys.server =
    some (answer, after)

/-- The only task that enters a session in the registry is the one that handles its
messages. -/
theorem Disciplined.registers (hsys : Disciplined state sys) {role : Role} {info : PeerInfo}
    {s : SessionId} {resume : (Op.register_peer info (some s)).Answer → Async Unit}
    (hrunning : sys.Runs role (.act (.state (.register_peer info (some s))) resume)) :
    ∃ framed msg, role = .handling s framed ∧ client_message state framed = some (.PeerRegister msg) ∧
      info.peer_id = msg.peer_id := by
  have hkeeps := (hsys.keeps hrunning).1
  cases role with
  | handling s' framed =>
    obtain hreads | ⟨msg, hmsg, ⟨assigned, heq, -⟩ | ⟨op, heq, hwrites⟩⟩ := hkeeps
    · exact hreads.elim
    · contradiction
    · cases heq
      cases msg with
      | PeerRegister msg =>
        obtain ⟨hid, hsender⟩ := hwrites
        cases hsender
        exact ⟨framed, msg, rfl, hmsg, hid⟩
      | _ => exact hwrites.elim
  | closing s' => exact hkeeps.elim
  | finishing s' => exact hkeeps.elim

/-- A registry entry leads to a session because it did so before the step, or because the
session enters itself. -/
theorem Move.leads (hmove : Move state sys event next) (hsys : Disciplined state sys) {s : SessionId}
    {p : String} (hleads : Leads s p next.server) :
    Leads s p sys.server ∨ ∃ info framed resume, Registers state sys event s p info framed resume := by
  cases hmove with
  | started hagrees _ => exact .inl ((leads_of_agrees hagrees).mp hleads)
  | opened _ _ hserver _ =>
    rw [hserver] at hleads
    exact .inl hleads
  | acted role hlabel hrunning hdone hagrees _ =>
    obtain hbefore | ⟨info, rfl, hid⟩ := leads_of_exec hdone ((leads_of_agrees hagrees).mp hleads)
    · exact .inl hbefore
    · obtain ⟨framed, msg, rfl, hmsg, hpeer⟩ := hsys.registers hrunning
      exact .inr ⟨info, framed, _, hlabel, hrunning, hid, ⟨msg, hmsg, hpeer.symm.trans hid⟩, _, _, hdone⟩
  | served hlabel hrunning htask hdone _ =>
    obtain hbefore | ⟨info, rfl, -⟩ := leads_of_exec hdone hleads
    · exact .inl hbefore
    · have hserves := hsys.serves hrunning
      rw [htask] at hserves
      cases Serves.sender_eq_none hserves.1

/-- The invariant that ties the registry to the sessions: entries lead only to the
session of their peer, and never to a session that acts as no peer. -/
structure Registered (state : AppState) (sys : System) : Prop where
  own : OwnPeers state sys
  keys : ∀ {s p}, Leads s p sys.server → ∃ session, sys.server.sessions s = some session ∧ session.peer_id = p
  unheld : ∀ {s}, HolderIs s none sys.server → NoEntry s sys.server
  in_order : ∀ {role task s}, sys.Runs role task → (∃ framed, role = .handling s framed) →
    task.Safe (session.exec role.actor) (RegistrationRely s) (RegistersInOrder s) (fun _ _ => True) sys.server

theorem Registered.init (rate_limits : rate_limit.RateLimitConfig) :
    Registered state (System.init rate_limits state) where
  own := .init rate_limits
  keys := by simp [System.init, InnerState.new, Leads]
  unheld := by simp [System.init, HolderIs]
  in_order {role} := by cases role <;> simp [System.init, System.Runs]

theorem RegistrationRely.of_agrees {s : SessionId} {server after : Server} (hagrees : server.Agrees after) :
    RegistrationRely s server after := by
  refine ⟨fun holder hholder => ?_, fun p hleads => ?_⟩
  · simpa only [HolderIs, hagrees.sessions] using hholder
  · exact (leads_of_agrees hagrees).mp hleads

/-- While a session handles a message, the rest of the system leaves its holder alone and
points no entry at it. -/
private theorem registration_rely_of_interferes (hsys : Disciplined state sys) {s : SessionId}
    {after : Server} (hchange : Interferes state sys event (.receive_loop s) after) :
    RegistrationRely s sys.server after := by
  cases hchange with
  | agrees hagrees => exact RegistrationRely.of_agrees hagrees
  | @opened s' token peer_id hfresh =>
    refine ⟨?_, fun p hleads => hleads⟩
    rintro holder ⟨session, hsession, hholder⟩
    have hs : s ≠ s' := by
      rintro rfl
      simp [hfresh] at hsession
    exact ⟨session, by simpa [System.open_session, Server.set_session, Server.set_channel, hs], hholder⟩
  | @acted acting action resume answer server _ hlabel hrunning hother hdone hagrees =>
    have hrely : RegistrationRely s server after := RegistrationRely.of_agrees hagrees
    refine ⟨fun holder hholder => ?_, fun p hleads => ?_⟩
    · exact hrely.1 holder (hholder.exec (hsys.keeps_holder hrunning hother) hdone)
    · obtain hbefore | ⟨info, rfl, -⟩ := leads_of_exec hdone (hrely.2 p hleads)
      · exact hbefore
      · obtain ⟨framed, msg, rfl, -⟩ := hsys.registers hrunning
        exact absurd rfl hother
  | served hlabel hrunning htask hdone =>
    have hserves := hsys.serves hrunning
    rw [htask] at hserves
    replace hserves := hserves.1
    refine ⟨?_, fun p hleads => ?_⟩
    · rintro holder ⟨session, hsession, hholder⟩
      refine ⟨session, ?_, hholder⟩
      rw [exec_sessions hdone, hsession, Option.map_some, Serves.update_eq hserves]
    · obtain hbefore | ⟨info, rfl, -⟩ := leads_of_exec hdone hleads
      · exact hbefore
      · cases Serves.sender_eq_none hserves

private theorem keys_step (hsys : Registered state sys) (hmove : Move state sys event next)
    {s : SessionId} {p : String} (hleads : Leads s p next.server) :
    ∃ session, next.server.sessions s = some session ∧ session.peer_id = p := by
  have hbefore : ∃ session, sys.server.sessions s = some session ∧ session.peer_id = p := by
    obtain hbefore | ⟨info, framed, resume, hregisters⟩ := hmove.leads hsys.own.disciplined hleads
    · exact hsys.keys hbefore
    · obtain ⟨session, hsession⟩ := hsys.own.disciplined.opened (s := s)
        (.inl (by simp [show sys.receive s = .handling framed _ from hregisters.running]))
      obtain ⟨msg, hmsg, hpeer⟩ := hregisters.message
      refine ⟨session, hsession, ?_⟩
      rw [← hpeer, hsys.own.holder.registers hregisters.running hsession msg hmsg]
  obtain ⟨before, hsession, rfl⟩ := hbefore
  exact hmove.peer_id hsession

/-- A session's holder is as it was before the step, or has just been assigned. -/
private theorem holder_step (hsys : Disciplined state sys) (hmove : Move state sys event next)
    {s : SessionId} (hholder : HolderIs s none next.server) :
    HolderIs s none sys.server ∨ ∃ framed resume answer after, event = .receive_loop s ∧
      sys.Runs (.handling s framed) (.act (.write_holder s none) resume) ∧
      exec (.receive_loop s) (.write_holder s none) sys.server = some (answer, after) ∧
      after.Agrees next.server := by
  obtain ⟨session, hsession, hnone⟩ := hholder
  cases hmove with
  | started hagrees _ => exact .inl ⟨session, by rwa [← hagrees.sessions], hnone⟩
  | @opened s' token peer_id _ _ hserver _ =>
    by_cases hs : s = s'
    · subst hs
      obtain rfl : Session.new peer_id = session := by
        simpa [hserver, System.open_session, Server.set_session, Server.set_channel] using hsession
      contradiction
    · refine .inl ⟨session, ?_, hnone⟩
      simpa [hserver, System.open_session, Server.set_session, Server.set_channel, hs] using hsession
  | @acted role action resume answer after hlabel hrunning hdone hagrees _ =>
    rw [hagrees.sessions, exec_sessions hdone] at hsession
    obtain ⟨before, hbefore, rfl⟩ := Option.map_eq_some_iff.mp hsession
    obtain hsame | ⟨assigned, rfl, hassigned⟩ := Action.update_holder action role.actor s before
    · exact .inl ⟨before, hbefore, hsame ▸ hnone⟩
    · obtain rfl : none = assigned := hnone.symm.trans hassigned
      by_cases hactor : .receive_loop s = role.actor
      · cases role with
        | handling s' framed =>
          cases hactor
          exact .inr ⟨framed, resume, answer, after, hlabel, hrunning, hdone, hagrees⟩
        | closing s' => exact ((hsys.keeps hrunning).1).elim
        | finishing s' => contradiction
      · exact absurd rfl (hsys.keeps_holder hrunning hactor none)
  | served hlabel hrunning htask hdone _ =>
    rw [exec_sessions hdone] at hsession
    obtain ⟨before, hbefore, rfl⟩ := Option.map_eq_some_iff.mp hsession
    have hserves := hsys.serves hrunning
    rw [htask] at hserves
    rw [Serves.update_eq hserves.1] at hnone
    exact .inl ⟨before, hbefore, hnone⟩

private theorem unheld_step (hsys : Registered state sys) (hmove : Move state sys event next)
    {s : SessionId} (hholder : HolderIs s none next.server) : NoEntry s next.server := by
  intro p hleads
  obtain hbefore | ⟨framed, resume, answer, after, hlabel, hrunning, hdone, hagrees⟩ :=
    holder_step hsys.own.disciplined hmove hholder
  · obtain hled | ⟨info, framed, resume, hregisters⟩ := hmove.leads hsys.own.disciplined hleads
    · exact hsys.unheld hbefore p hled
    · -- a session that enters itself acts as a peer
      obtain ⟨answer, after, hdone⟩ := hregisters.done
      have hsafe := hsys.in_order hregisters.running ⟨framed, rfl⟩
      obtain ⟨hguar, -⟩ := hsafe.step (fun _ => ⟨fun _ h => h, fun _ h => h⟩) hdone
      obtain ⟨peer_id, session, hsession, hacts⟩ := hguar.1 info rfl
      obtain ⟨session', hsession', hnone⟩ := hbefore
      rw [hsession] at hsession'
      cases hsession'
      simp [hacts] at hnone
  · have hsafe := hsys.in_order hrunning ⟨framed, rfl⟩
    obtain ⟨hguar, -⟩ := hsafe.step (fun _ => ⟨fun _ h => h, fun _ h => h⟩) hdone
    obtain hled | ⟨info, heq, -⟩ := leads_of_exec hdone ((leads_of_agrees hagrees).mp hleads)
    · exact hguar.2 rfl p hled
    · cases heq

private theorem in_order_step (hsys : Registered state sys)
    (hunregisters : unregisters_own state sys event = true) (hmove : Move state sys event next)
    {role : Role} {task : Async Unit} {s : SessionId} (hruns : next.Runs role task)
    (hhandling : ∃ framed, role = .handling s framed) :
    task.Safe (session.exec role.actor) (RegistrationRely s) (RegistersInOrder s) (fun _ _ => True) next.server := by
  refine hmove.safe (fun role s => ∃ framed, role = .handling s framed) RegistrationRely RegistersInOrder
    (fun _ _ => ⟨fun _ h => h, fun _ h => h⟩)
    (fun _ _ _ _ hab hbc => ⟨fun h hh => hbc.1 h (hab.1 h hh), fun p hp => hab.2 p (hbc.2 p hp)⟩)
    RegistrationRely.of_agrees (fun hrunning hhas => hsys.in_order hrunning hhas) ?_ ?_ hruns hhandling
  · rintro role task s hstart ⟨framed, rfl⟩
    cases hstart with
    | message hidle hdecoded =>
      obtain ⟨session, hsession⟩ := hsys.own.disciplined.opened (s := s) (.inl (by simp [hidle]))
      refine receive_message_in_order session.peer_id (fun msg hmsg => ?_) fun p hleads => ?_
      · simpa [unregisters_own, Event.arrival_message hdecoded hmsg hsession] using hunregisters
      · obtain ⟨session', hsession', rfl⟩ := hsys.keys hleads
        obtain rfl : session = session' := by simpa [hsession] using hsession'
        rfl
  · rintro role task s hrunning ⟨framed, rfl⟩ hchange
    exact registration_rely_of_interferes hsys.own.disciplined hchange

theorem Registered.step (hsys : Registered state sys) (hregisters : registers_own state sys event = true)
    (hunregisters : unregisters_own state sys event = true)
    (hstep : server.step state sys event = some next) : Registered state next where
  own := hsys.own.step hregisters hunregisters hstep
  keys := keys_step hsys (move_of_step hstep)
  unheld := unheld_step hsys (move_of_step hstep)
  in_order := in_order_step hsys hunregisters (move_of_step hstep)

end voip_signaling.server
