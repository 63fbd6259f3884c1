import Voip.Signaling.CallChecks
import Voip.Signaling.Identity
import Voip.Signaling.Reference

namespace voip_signaling.server

open async state session auth handlers wire

variable {state : AppState} {sys next : System} {event : Event}

/-- A step changes the registry entry of a call only while a session handles a message
about that call, and the peer of the session's token has the role that the message
requires, both in the entry that is replaced and in the one that replaces it. -/
def CallAuthority (state : AppState) (sys : System) (event : Event) (next : System) : Prop :=
  ∀ c, next.server.inner.calls.peek c ≠ sys.server.inner.calls.peek c →
    ∃ s session framed task msg, event = .receive_loop s ∧ sys.server.sessions s = some session ∧
      sys.receive s = .handling framed task ∧ client_message state framed = some msg ∧
      msg.call_id = some c ∧ ∀ call, sys.server.inner.calls.peek c = some call ∨
        next.server.inner.calls.peek c = some call → msg.Authorizes call session.peer_id

/-- A message about a call arrives only on a session that acts as the peer of its token. -/
def acts_as_own (state : AppState) (sys : System) (event : Event) : Bool :=
  match event.arrival state sys with
  | some (session, msg) => msg.call_id = none ∨ session.peer_id_holder = some session.peer_id
  | none => true

namespace System

variable (sys : System)

/-- The call that an event is about to create, and the session that does. -/
def creates : Event → Option (SessionId × CallEntry)
  | .receive_loop s =>
    match sys.receive s with
    | .handling _ (.act (.state (.create_call call)) _) => some (s, call)
    | _ => none
  | _ => none

/-- The call named by the message that a session is handling. -/
def handles_call (state : AppState) (s : SessionId) : Option String :=
  match sys.receive s with
  | .handling framed _ => (client_message state framed).bind ClientMessage.call_id
  | _ => none

end System

/-- A new call is created only while the registry of calls has room for it. -/
def creates_with_room (sys : System) (event : Event) : Bool :=
  match sys.creates event with
  | some (_, call) => sys.server.inner.calls.contains call.call_id ∨
      sys.server.inner.calls.len < sys.server.inner.calls.cap
  | none => true

/-- A new call is created only while the other session is not handling a message about a
call of that id. -/
def creates_apart (state : AppState) (sys : System) (event : Event) (other : SessionId) : Bool :=
  match sys.creates event with
  | some (s, call) => sys.server.inner.calls.contains call.call_id ∨ other = s ∨
      sys.handles_call state other ≠ some call.call_id
  | none => true

/-- The session, the message and the call of a task that handles a message about a call. -/
inductive Role.About (state : AppState) : Role → SessionId × ClientMessage × String → Prop where
  | handling {s : SessionId} {framed : FramedMessage} {msg : ClientMessage} {c : String}
      (decoded : client_message state framed = some msg) (call_id : msg.call_id = some c) :
      About state (.handling s framed) (s, msg, c)

/-- The invariant behind the authority over calls. -/
structure OwnCalls (state : AppState) (sys : System) : Prop where
  disciplined : Disciplined state sys
  safe : ∀ {role task s msg c}, sys.Runs role task → role.About state (s, msg, c) →
    task.Safe (session.exec role.actor) (CallRely s c) (Allowed s msg) (fun _ _ => True) sys.server

theorem OwnCalls.init (rate_limits : rate_limit.RateLimitConfig) :
    OwnCalls state (System.init rate_limits state) where
  disciplined := .init rate_limits
  safe {role} := by cases role <;> simp [System.init, System.Runs]

/-- The only task that creates a call is a session's receive loop. -/
private theorem creates_of_running (hsys : Disciplined state sys) {role : Role} {call : CallEntry}
    {resume : (Op.create_call call).Answer → Async Unit} (hlabel : event = role.event)
    (hrunning : sys.Runs role (.act (.state (.create_call call)) resume)) :
    ∃ s framed, role = .handling s framed ∧ sys.creates event = some (s, call) := by
  have hkeeps := (hsys.keeps hrunning).1
  cases role with
  | handling s framed =>
    refine ⟨s, framed, rfl, ?_⟩
    have hreceive : sys.receive s = .handling framed (.act (.state (.create_call call)) resume) := hrunning
    simp [hlabel, Role.event, System.creates, hreceive]
  | closing s => exact hkeeps.elim
  | finishing s => exact hkeeps.elim

private theorem Role.About.handles_call {role : Role} {task : Async Unit} {s : SessionId}
    {msg : ClientMessage} {c : String} (habout : role.About state (s, msg, c))
    (hruns : sys.Runs role task) : role.actor = .receive_loop s ∧ sys.handles_call state s = some c := by
  cases habout with
  | @handling s framed msg c hmsg hcall =>
    have hreceive : sys.receive s = .handling framed task := hruns
    exact ⟨rfl, by simp [System.handles_call, hreceive, hmsg, hcall]⟩

/-- While a session handles a message about a call, the rest of the system leaves the
session's identity and the participants of the call alone. -/
private theorem call_rely_of_interferes (hsys : Disciplined state sys)
    (hapart : ∀ other, creates_apart state sys event other = true) {role : Role} {task : Async Unit}
    {s : SessionId} {msg : ClientMessage} {c : String} (hruns : sys.Runs role task)
    (habout : role.About state (s, msg, c)) {after : Server}
    (hchange : Interferes state sys event role.actor after) : CallRely s c sys.server after := by
  obtain ⟨hactor, hhandles⟩ := habout.handles_call hruns
  rw [hactor] at hchange
  cases hchange with
  | agrees hagrees => exact CallRely.of_agrees hagrees
  | @opened s' token peer_id' hfresh =>
    refine ⟨?_, fun call' hcall' => ⟨call', hcall', rfl, rfl⟩⟩
    rintro peer_id ⟨session, hsession, hacts⟩
    have hs : s ≠ s' := by
      rintro rfl
      simp [hfresh] at hsession
    exact ⟨session, by simpa [System.open_session, Server.set_session, Server.set_channel, hs], hacts⟩
  | @acted acting action resume answer server _ hlabel hrunning hother hdone hagrees =>
    refine CallRely.trans ⟨?_, ?_⟩ (CallRely.of_agrees hagrees)
    · intro peer_id hacting
      exact hacting.exec (hsys.keeps_holder hrunning hother) hdone
    · intro call' hcall'
      obtain hsame | ⟨op, rfl, hop⟩ := exec_calls hdone c
      · exact ⟨call', by rwa [← hsame], rfl, rfl⟩
      · obtain hkept | ⟨created, rfl, rfl, habsent⟩ := hop.participants hcall'
        · exact hkept
        · -- the call that appears is the one this session's message is about
          obtain ⟨s', framed, rfl, hcreates⟩ := creates_of_running hsys hlabel hrunning
          have hs : s ≠ s' := by
            rintro rfl
            exact hother rfl
          have hcond := hapart s
          simp [creates_apart, hcreates, lru.LruCache.contains, habsent, hs, hhandles] at hcond
  | served hlabel hrunning htask hdone =>
    have hserves := hsys.serves hrunning
    rw [htask] at hserves
    refine ⟨?_, ?_⟩
    · rintro peer_id ⟨session, hsession, hacts⟩
      refine ⟨session, ?_, hacts⟩
      rw [exec_sessions hdone, hsession, Option.map_some, Serves.update_eq hserves.1]
    · intro call' hcall'
      obtain hsame | ⟨op, rfl, hop⟩ := exec_calls hdone c
      · exact ⟨call', by rwa [← hsame], rfl, rfl⟩
      · exact absurd hop (Serves.not_changes_call hserves.1)

theorem OwnCalls.step (hsys : OwnCalls state sys) (hacts : acts_as_own state sys event = true)
    (hapart : ∀ other, creates_apart state sys event other = true)
    (hstep : step state sys event = some next) : OwnCalls state next where
  disciplined := hsys.disciplined.step hstep
  safe {role task s msg c} hruns habout := by
    refine (move_of_step hstep).safe (Role.About state) (fun i => CallRely i.1 i.2.2)
      (fun i => Allowed i.1 i.2.1) (fun i => CallRely.refl i.1 i.2.2) (fun i _ _ _ => CallRely.trans)
      CallRely.of_agrees
      (fun hrunning hhas => hsys.safe hrunning hhas) ?_
      (fun hrunning hhas hchange => call_rely_of_interferes hsys.disciplined hapart hrunning hhas hchange)
      hruns habout
    rintro role task ⟨s, msg, c⟩ hstart habout
    cases habout with
    | @handling s framed msg c hmsg hcall =>
      cases hstart with
      | message hidle hdecoded =>
        obtain ⟨session, hsession⟩ := hsys.disciplined.opened (s := s) (.inl (by simp [hidle]))
        have hholder : session.peer_id_holder = some session.peer_id := by
          simpa [acts_as_own, Event.arrival_message hdecoded hmsg hsession, hcall] using hacts
        exact receive_message_safe hmsg hcall ⟨session, hsession, rfl, hholder⟩

theorem OwnCalls.authority (hsys : OwnCalls state sys)
    (hroom : creates_with_room sys event = true) (hmove : Move state sys event next) :
    CallAuthority state sys event next := by
  intro c hchange
  obtain ⟨op, hop, ⟨role, resume, answer, after, hlabel, hrunning, hdone⟩ |
    ⟨r, pending, resume, -, hrunning, htask⟩⟩ :=
    hmove.call_change hchange
  · have hkept : ¬ (sys.server.inner.calls.Full ∧
        ∃ created, op = .create_call created ∧ sys.server.inner.calls.peek created.call_id = none) := by
      rintro ⟨hfull, created, rfl, habsent⟩
      obtain ⟨s, framed, rfl, hcreates⟩ := creates_of_running hsys.disciplined hlabel hrunning
      have hlen : sys.server.inner.calls.len = sys.server.inner.calls.cap := hfull
      simp [creates_with_room, hcreates, lru.LruCache.contains, habsent, hlen] at hroom
    obtain ⟨s, framed, msg, rfl, hmsg, hwrites⟩ := hsys.disciplined.call_writer hrunning hop
    have hcall := (hwrites.call_id hop).resolve_right hkept
    obtain ⟨session, hsession⟩ := hsys.disciplined.opened (s := s)
      (.inl (by simp [show sys.receive s = .handling framed _ from hrunning]))
    refine ⟨s, session, framed, _, msg, hlabel, hsession, hrunning, hmsg, hcall, fun call hentry => ?_⟩
    obtain ⟨concerned, hconcerns, hsame⟩ | ⟨hfull, -, hcreated⟩ := hop.concerns hentry
    · have hsafe := hsys.safe hrunning (.handling hmsg hcall)
      obtain ⟨hallowed, -⟩ := hsafe.step (CallRely.refl s c) hdone
      exact (hallowed op session concerned rfl hsession hconcerns).congr hsame
    · exact absurd ⟨hfull, hcreated⟩ hkept
  · have hserves := hsys.disciplined.serves hrunning
    rw [htask] at hserves
    exact absurd hop (Serves.not_changes_call hserves.1)

/-- In every run in which messages about calls arrive only on sessions that act as the
peer of their token, and in which calls are created with room in the registry and apart
from other sessions' messages about them, calls change only with the authority of the
peers that take part in them. -/
theorem call_authority_of_own_identity (state : AppState) (rate_limits : rate_limit.RateLimitConfig)
    (events : List Event)
    (hown : Along (step state) (fun sys event _ => (acts_as_own state sys event ∧
      creates_with_room sys event) ∧ ∀ other, creates_apart state sys event other)
      (System.init rate_limits state) events) :
    Along (step state) (CallAuthority state) (System.init rate_limits state) events := by
  refine Along.of_invariant (I := OwnCalls state) ?_ (.init rate_limits) hown
  intro sys event next hsys hcond hstep
  obtain ⟨⟨hacts, hroom⟩, hapart⟩ := hcond
  exact ⟨hsys.authority hroom (move_of_step hstep), hsys.step hacts hapart hstep⟩

/-- The condition of the theorem is met when alice calls bob, bob accepts, and alice ends
the call. -/
theorem call_authority_of_alice_and_bob :
    Along (step .reference) (CallAuthority .reference) (System.init .default .reference)
      (alice_and_bob_connect ++ (exchange 1 type_id.PEER_REGISTER (proto.string 1 "alice") 6 ++
        exchange 2 type_id.PEER_REGISTER (proto.string 1 "bob") 6 ++
        exchange 1 type_id.CALL_REQUEST_CS
          (proto.string 1 "call" ++ proto.string 2 "alice" ++ proto.string 3 "bob") 9 ++
        exchange 2 type_id.CALL_ACCEPT_CS (proto.string 1 "call") 9 ++
        exchange 1 type_id.CALL_ENDED (proto.string 1 "call") 9)) := by
  apply call_authority_of_own_identity
  apply along_opened_alice_and_bob
  · intro sys s token
    exact ⟨⟨rfl, rfl⟩, fun _ => rfl⟩
  · intro sys event s hended
    simp only [creates_apart, System.handles_call, hended]
    split <;> simp
  · decide +kernel

/-- Bob, on their own session, registers as carol and as alice, and then creates a
call from alice to carol. -/
theorem not_call_authority_of_foreign_registration :
    ¬ Along (step .reference) (CallAuthority .reference) (System.init .default .reference)
      ((alice_and_bob_connect ++ (exchange 2 type_id.PEER_REGISTER (proto.string 1 "carol") 6 ++
        exchange 2 type_id.PEER_REGISTER (proto.string 1 "alice") 6 ++
        exchange 2 type_id.CALL_REQUEST_CS
          (proto.string 1 "call" ++ proto.string 2 "alice" ++ proto.string 3 "carol") 6)) ++
        [.receive_loop 2]) := by
  refine not_along_alice_and_bob (fun middle next =>
    (middle.server.sessions 2).map Session.peer_id = some "bob" ∧
      middle.server.inner.calls.peek "call" = none ∧
      (next.server.inner.calls.peek "call").map (fun call => (call.caller_id, call.callee_id)) =
        some ("alice", "carol")) ?_ ?_
  · intro middle next hseen hauthority
    obtain ⟨hbob, hbefore, hafter⟩ := of_decide_eq_true hseen
    obtain ⟨call, hcall, hparticipants⟩ := Option.map_eq_some_iff.mp hafter
    obtain ⟨hcaller, hcallee⟩ := Prod.mk.inj hparticipants
    obtain ⟨s, session, framed, task, msg, hevent, hsession, -, -, -, hauthorizes⟩ :=
      hauthority "call" (by simp [hcall, hbefore])
    obtain rfl : 2 = s := by simpa using hevent
    have hpeer : session.peer_id = "bob" := by simpa [hsession] using hbob
    have hparticipant := (hauthorizes call (.inr hcall)).participant
    simp [hpeer, hcaller, hcallee] at hparticipant
  · decide +kernel

end voip_signaling.server
