import Voip.Signaling.CallSettling
import Voip.Signaling.Reference

namespace voip_signaling.state

/-- The order of call states: `RINGING` (0), `ACCEPTED` (1), `ENDED` (4). An entry stays
as it is or moves forward, and an ended one stays as it is. -/
def CallEntry.Advances (call call' : CallEntry) : Prop :=
  call' = call ∨ call.state = 0 ∧ call'.state = 1 ∨
    (call.state = 0 ∨ call.state = 1) ∧ call'.state = 4 ∧ call'.ended_at ≠ none

end voip_signaling.state

namespace voip_signaling.session

open state

/-- The entry that a message leaves behind: a ringing call it creates, or a call that it
accepts or ends. -/
theorem ClientMessage.Writes.entry {msg : ClientMessage} {s : SessionId} {op : Op}
    (hwrites : msg.Writes s op) {inner : InnerState} {c : String} {entry : Option CallEntry}
    (hop : op.ChangesCall inner c entry) {call' : CallEntry} (hentry : entry = some call') :
    (inner.calls.peek c = none ∧ call'.state = 0) ∨
      ∃ call, inner.calls.peek c = some call ∧ op.settles = some c ∧
        (call' = { call with state := 1 } ∨ call'.state = 4 ∧ call'.ended_at ≠ none) := by
  cases hop with
  | create hid habsent =>
    cases hentry
    cases msg with
    | CallRequest request =>
      obtain ⟨now, rfl⟩ := hwrites
      exact .inl ⟨habsent, rfl⟩
    | _ => exact hwrites.elim
  | evict habsent hfull hvictim => contradiction
  | @update call new_state hpresent =>
    cases hentry
    cases msg with
    | CallAccept accept =>
      obtain ⟨-, rfl⟩ := hwrites
      exact .inr ⟨call, hpresent, rfl, .inl rfl⟩
    | _ => exact hwrites.elim
  | @finish call at_secs reason hpresent =>
    cases hentry
    exact .inr ⟨call, hpresent, rfl, .inr ⟨rfl, by simp⟩⟩
  | remove hpresent => contradiction

end voip_signaling.session

namespace voip_signaling.server

open async state session handlers wire

variable {state : AppState} {sys next : System} {event : Event}

/-- A step leaves each call of the registry in its place of the order. -/
def CallLifecycle (sys : System) (_ : Event) (next : System) : Prop :=
  ∀ c call', next.server.inner.calls.peek c = some call' →
    (sys.server.inner.calls.peek c = none ∧ call'.state = 0) ∨
      ∃ call, sys.server.inner.calls.peek c = some call ∧ call.Advances call'

/-- The call that an arriving message is meant to settle, and the session it arrives on. -/
def Event.settles (state : AppState) : Event → Option (SessionId × String)
  | .message s data => do
    let framed ← FramedMessage.from_bytes data
    let msg ← client_message state framed
    let c ← msg.settles
    return (s, c)
  | _ => none

/-- The call that a session is settling. -/
def System.settling (sys : System) (state : AppState) (s : SessionId) : Option String :=
  match sys.receive s with
  | .handling framed _ => (client_message state framed).bind ClientMessage.settles
  | _ => none

/-- A message that accepts, rejects, fails or ends a call arrives only while the call has
not ended. -/
def settles_unended (state : AppState) (sys : System) (event : Event) : Bool :=
  match event.settles state with
  | some (_, c) => (sys.server.inner.calls.peek c).all fun call => call.state ≠ 4
  | none => true

/-- A message that accepts, rejects, fails or ends a call arrives only while the other
session is not handling such a message about the same call. -/
def settles_apart (state : AppState) (sys : System) (event : Event) (other : SessionId) : Bool :=
  match event.settles state with
  | some (s, c) => other = s ∨ sys.settling state other ≠ some c
  | none => true

/-- The session and the call of a task that settles a call. -/
inductive Role.Settling (state : AppState) : Role → SessionId × String → Prop where
  | handling {s : SessionId} {framed : FramedMessage} {msg : ClientMessage} {c : String}
      (decoded : client_message state framed = some msg) (settles : msg.settles = some c) :
      Settling state (.handling s framed) (s, c)

/-- The invariant behind the order of call states: at most one session settles a call,
and does so safely. -/
structure Orderly (state : AppState) (sys : System) : Prop where
  disciplined : Disciplined state sys
  states : ∀ {c call}, sys.server.inner.calls.peek c = some call →
    call.state = 0 ∨ call.state = 1 ∨ call.state = 4
  exclusive : ∀ {s s' c}, sys.settling state s = some c → sys.settling state s' = some c → s = s'
  safe : ∀ {role task s c}, sys.Runs role task → role.Settling state (s, c) →
    task.Safe (session.exec role.actor) (SettlingRely c) SettlesUnended (fun _ _ => True) sys.server

theorem Orderly.init (rate_limits : rate_limit.RateLimitConfig) :
    Orderly state (System.init rate_limits state) where
  disciplined := .init rate_limits
  states := by simp [System.init, InnerState.new]
  exclusive := by simp [System.init, System.settling]
  safe {role} := by cases role <;> simp [System.init, System.Runs]

theorem System.settling_eq_some {s : SessionId} {c : String} :
    sys.settling state s = some c ↔ ∃ framed task msg, sys.Runs (.handling s framed) task ∧
      client_message state framed = some msg ∧ msg.settles = some c := by
  unfold System.settling
  constructor
  · intro hsettling
    split at hsettling
    next framed task hreceive =>
      obtain ⟨msg, hmsg, hsettles⟩ := Option.bind_eq_some_iff.mp hsettling
      exact ⟨framed, task, msg, hreceive, hmsg, hsettles⟩
    next => contradiction
  · rintro ⟨framed, task, msg, hreceive, hmsg, hsettles⟩
    rw [show sys.receive s = .handling framed task from hreceive]
    simp [hmsg, hsettles]

/-- A session that is settling a call was settling it before, or begins to. -/
private theorem Move.settling (hmove : Move state sys event next) {s : SessionId} {c : String}
    (hsettling : next.settling state s = some c) :
    sys.settling state s = some c ∨ event.settles state = some (s, c) := by
  obtain ⟨framed, task, msg, hruns, hmsg, hsettles⟩ := System.settling_eq_some.mp hsettling
  obtain ⟨task', hruns'⟩ | ⟨data, rfl, hdecoded, -⟩ := hmove.handling hruns
  · exact .inl (System.settling_eq_some.mpr ⟨framed, task', msg, hruns', hmsg, hsettles⟩)
  · exact .inr (by simp [Event.settles, hdecoded, hmsg, hsettles])

private theorem exclusive_step (hsys : Orderly state sys)
    (hapart : ∀ other, settles_apart state sys event other = true) (hmove : Move state sys event next)
    {s s' : SessionId} {c : String} (hs : next.settling state s = some c)
    (hs' : next.settling state s' = some c) : s = s' := by
  have hbegins : ∀ {s s'}, event.settles state = some (s, c) → sys.settling state s' = some c → s' = s := by
    intro s s' hbegin hold
    have hcond := hapart s'
    simpa [settles_apart, hbegin, hold] using hcond
  obtain hold | hbegin := hmove.settling hs
  · obtain hold' | hbegin' := hmove.settling hs'
    · exact hsys.exclusive hold hold'
    · exact hbegins hbegin' hold
  · obtain hold' | hbegin' := hmove.settling hs'
    · exact (hbegins hbegin hold').symm
    · rw [hbegin] at hbegin'
      cases hbegin'
      rfl

/-- While a session settles a call, the rest of the system does not end it. -/
private theorem settling_rely_of_interferes (hsys : Orderly state sys) {role : Role} {task : Async Unit}
    {s : SessionId} {c : String} (hruns : sys.Runs role task) (hsettling : role.Settling state (s, c))
    {after : Server} (hchange : Interferes state sys event role.actor after) :
    SettlingRely c sys.server after := by
  intro hnot call' hcall'
  cases hchange with
  | agrees hagrees =>
    rw [hagrees.calls] at hcall'
    exact hnot call' hcall'
  | opened hfresh => exact hnot call' hcall'
  | acted hlabel hrunning hother hdone hagrees =>
    rw [hagrees.calls] at hcall'
    obtain hsame | ⟨op, rfl, hop⟩ := exec_calls hdone c
    · exact hnot call' (by rwa [← hsame])
    · obtain ⟨s', framed', msg', rfl, hmsg', hwrites⟩ := hsys.disciplined.call_writer hrunning hop
      obtain ⟨-, hringing⟩ | ⟨call, -, hsettles, rfl | ⟨hended, -⟩⟩ := hwrites.entry hop hcall'
      · simp [hringing]
      · simp
      · -- only a session that settles the call ends it, and that is this one
        cases hsettling with
        | handling hmsg hthis =>
          have hs : s = s' := hsys.exclusive
            (System.settling_eq_some.mpr ⟨_, _, _, hruns, hmsg, hthis⟩)
            (System.settling_eq_some.mpr ⟨_, _, _, hrunning, hmsg', hwrites.settles hsettles⟩)
          exact absurd (by rw [hs]; rfl) hother
  | served hlabel hrunning htask hdone =>
    have hserves := hsys.disciplined.serves hrunning
    rw [htask] at hserves
    obtain hsame | ⟨op, rfl, hop⟩ := exec_calls hdone c
    · exact hnot call' (by rwa [← hsame])
    · exact absurd hop (Serves.not_changes_call hserves.1)

/-- What a step makes of the entry of a call. -/
private theorem entry_step (hsys : Orderly state sys) (hmove : Move state sys event next) {c : String}
    {call' : CallEntry} (hcall' : next.server.inner.calls.peek c = some call') :
    (sys.server.inner.calls.peek c = none ∧ call'.state = 0) ∨
      ∃ call, sys.server.inner.calls.peek c = some call ∧ (call' = call ∨ call.state ≠ 4 ∧
        (call' = { call with state := 1 } ∨ call'.state = 4 ∧ call'.ended_at ≠ none)) := by
  by_cases hsame : next.server.inner.calls.peek c = sys.server.inner.calls.peek c
  · exact .inr ⟨call', by rwa [← hsame], .inl rfl⟩
  · obtain ⟨op, hop, ⟨role, resume, answer, after, -, hrunning, hdone⟩ |
      ⟨r, pending, resume, -, hrunning, htask⟩⟩ := hmove.call_change hsame
    · obtain ⟨s, framed, msg, rfl, hmsg, hwrites⟩ := hsys.disciplined.call_writer hrunning hop
      obtain hnew | ⟨call, hcall, hsettles, hwritten⟩ := hwrites.entry hop hcall'
      · exact .inl hnew
      · have hsafe := hsys.safe hrunning (.handling hmsg (hwrites.settles hsettles))
        obtain ⟨hunended, -⟩ := hsafe.step (fun _ h => h) hdone
        exact .inr ⟨call, hcall, .inr ⟨hunended op c rfl hsettles call hcall, hwritten⟩⟩
    · have hserves := hsys.disciplined.serves hrunning
      rw [htask] at hserves
      exact absurd hop (Serves.not_changes_call hserves.1)

theorem Orderly.step (hsys : Orderly state sys) (hunended : settles_unended state sys event = true)
    (hapart : ∀ other, settles_apart state sys event other = true)
    (hstep : step state sys event = some next) : Orderly state next where
  disciplined := hsys.disciplined.step hstep
  states {c call'} hcall' := by
    obtain ⟨-, hringing⟩ | ⟨call, hcall, rfl | ⟨-, rfl | ⟨hended, -⟩⟩⟩ :=
      entry_step hsys (move_of_step hstep) hcall'
    · exact .inl hringing
    · exact hsys.states hcall
    · exact .inr (.inl rfl)
    · exact .inr (.inr hended)
  exclusive := exclusive_step hsys hapart (move_of_step hstep)
  safe {role task s c} hruns hsettling := by
    refine (move_of_step hstep).safe (Role.Settling state) (fun i => SettlingRely i.2)
      (fun _ => SettlesUnended) (fun _ _ h => h)
      (fun _ _ _ _ hab hbc h => hbc (hab h)) ?_ (fun hrunning hhas => hsys.safe hrunning hhas) ?_
      (fun hrunning hhas hchange => settling_rely_of_interferes hsys hrunning hhas hchange)
      hruns hsettling
    · intro i server after hagrees hnot call' hcall'
      rw [hagrees.calls] at hcall'
      exact hnot call' hcall'
    · rintro role task ⟨s, c⟩ hstart hsettling
      cases hsettling with
      | handling hmsg hsettles =>
        cases hstart with
        | message hidle hdecoded =>
          refine receive_message_settles hmsg hsettles fun call hcall => ?_
          simpa [settles_unended, Event.settles, hdecoded, hmsg, hsettles, hcall] using hunended

theorem Orderly.lifecycle (hsys : Orderly state sys) (hmove : Move state sys event next) :
    CallLifecycle sys event next := by
  intro c call' hcall'
  obtain hnew | ⟨call, hcall, rfl | ⟨hunended, hwritten⟩⟩ := entry_step hsys hmove hcall'
  · exact .inl hnew
  · exact .inr ⟨call', hcall, .inl rfl⟩
  · refine .inr ⟨call, hcall, ?_⟩
    have hstates := hsys.states hcall
    obtain rfl | hended := hwritten
    · obtain hringing | haccepted | hended := hstates
      · exact .inr (.inl ⟨hringing, rfl⟩)
      · left
        rw [← haccepted]
      · exact absurd hended hunended
    · exact .inr (.inr ⟨by tauto, hended⟩)

/-- In every run in which messages that accept, reject, fail or end a call arrive only
while the call has not ended, and one at a time for each call, calls move only forward. -/
theorem call_lifecycle_of_settling_apart (state : AppState) (rate_limits : rate_limit.RateLimitConfig)
    (events : List Event)
    (hsettles : Along (step state) (fun sys event _ => settles_unended state sys event ∧
      ∀ other, settles_apart state sys event other) (System.init rate_limits state) events) :
    Along (step state) CallLifecycle (System.init rate_limits state) events := by
  refine Along.of_invariant (I := Orderly state) ?_ (.init rate_limits) hsettles
  intro sys event next hsys hcond hstep
  exact ⟨hsys.lifecycle (move_of_step hstep), hsys.step hcond.1 hcond.2 hstep⟩

/-- The condition of the theorem is met when alice calls bob, bob accepts and then ends
the call, and alice calls again and fails. -/
theorem call_lifecycle_of_alice_and_bob :
    Along (step .reference) CallLifecycle (System.init .default .reference)
      (alice_and_bob_connect ++ (exchange 1 type_id.PEER_REGISTER (proto.string 1 "alice") 6 ++
        exchange 2 type_id.PEER_REGISTER (proto.string 1 "bob") 6 ++
        exchange 1 type_id.CALL_REQUEST_CS
          (proto.string 1 "call" ++ proto.string 2 "alice" ++ proto.string 3 "bob") 9 ++
        exchange 2 type_id.CALL_ACCEPT_CS (proto.string 1 "call") 9 ++
        exchange 2 type_id.CALL_ENDED (proto.string 1 "call") 9 ++
        exchange 1 type_id.CALL_REQUEST_CS
          (proto.string 1 "call" ++ proto.string 2 "alice" ++ proto.string 3 "bob") 9 ++
        exchange 1 type_id.CALL_FAILED (proto.string 1 "call") 8)) := by
  apply call_lifecycle_of_settling_apart
  apply along_opened_alice_and_bob
  · intro sys s token
    exact ⟨rfl, fun _ => rfl⟩
  · intro sys event s hended
    simp only [settles_apart, System.settling, hended]
    split <;> simp
  · decide +kernel

/-- Alice's call to bob has failed and its entry has ended; bob accepts it all the same. -/
theorem not_call_lifecycle_of_late_accept :
    ¬ Along (step .reference) CallLifecycle (System.init .default .reference)
      ((alice_and_bob_connect ++ (exchange 1 type_id.PEER_REGISTER (proto.string 1 "alice") 6 ++
        exchange 2 type_id.PEER_REGISTER (proto.string 1 "bob") 6 ++
        exchange 1 type_id.CALL_REQUEST_CS
          (proto.string 1 "call" ++ proto.string 2 "alice" ++ proto.string 3 "bob") 9 ++
        exchange 1 type_id.CALL_FAILED (proto.string 1 "call") 8 ++
        exchange 2 type_id.CALL_ACCEPT_CS (proto.string 1 "call") 5)) ++ [.receive_loop 2]) := by
  refine not_along_alice_and_bob (fun middle next =>
    (middle.server.inner.calls.peek "call").map CallEntry.state = some 4 ∧
      (next.server.inner.calls.peek "call").map CallEntry.state = some 1) ?_ ?_
  · intro middle next hseen hlifecycle
    obtain ⟨hbefore, hafter⟩ := of_decide_eq_true hseen
    obtain ⟨call', hcall', haccepted⟩ := Option.map_eq_some_iff.mp hafter
    obtain ⟨hnone, -⟩ | ⟨call, hcall, hadvances⟩ := hlifecycle "call" call' hcall'
    · simp [hnone] at hbefore
    · have hended : call.state = 4 := by simpa [hcall] using hbefore
      obtain rfl | ⟨hringing, -⟩ | ⟨hlive, -⟩ := hadvances
      · simp [hended] at haccepted
      · simp [hended] at hringing
      · simp [hended] at hlive
  · decide +kernel

end voip_signaling.server
