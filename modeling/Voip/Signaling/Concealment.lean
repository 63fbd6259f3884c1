import Voip.Async.Unwinding
import Voip.Signaling.Identity
import Voip.Signaling.Likeness
import Voip.Signaling.TaskSlots

namespace voip_signaling.session

open async state

/-- Somebody else has claimed the end of the session. -/
def Unclaimed : (action : Action) → action.Answer → Prop
  | .claim_disconnect _, won => won = false
  | _, _ => True

/-- A task of a session that no other session notices. Once the session is disconnected, that is
also true of a task that still has to find this out. -/
def Quiet (s : SessionId) (disconnected : Bool) (task : Async Unit) : Prop :=
  task.Settles Unclaimed (fun action => disconnected = true ∧ action = Action.claim_disconnect s) Incidental

/-- A task of a session that only the given peer notices. -/
def Hidden (p : String) (server : Server) (s : SessionId) (task : Async Unit) : Prop :=
  ∀ session, server.sessions s = some session →
    session.peer_id = p ∨ Quiet s session.disconnected task

section Quiet

variable {p : String} {s : SessionId} {disconnected : Bool} {task : Async Unit} {actor : Actor}
  {action : Action} {rest : action.Answer → Async Unit} {answer : action.Answer}
  {server after other : Server} {session : Session}

theorem cleanup_quiet : Quiet s true (cleanup s) := by
  unfold cleanup
  refine .perform_bind ⟨rfl, rfl⟩ fun won hwon => ?_
  obtain rfl : won = false := hwon
  trivial

theorem Quiet.mono {disconnected' : Bool} (hquiet : Quiet s disconnected task)
    (hstays : disconnected = true → disconnected' = true) : Quiet s disconnected' task :=
  Task.Settles.mono hquiet fun _ haction => ⟨hstays haction.1, haction.2⟩

theorem Quiet.private (hquiet : Quiet s session.disconnected (.act action rest))
    (hsession : server.sessions s = some session) : Private p server action := by
  obtain hincidental | ⟨hdisconnected, rfl⟩ := Task.Settles.action hquiet
  · exact hincidental.private
  · intro session' hsession'
    cases hsession.symm.trans hsession'
    exact .inr hdisconnected

theorem Quiet.resume (hquiet : Quiet s session.disconnected (.act action rest))
    (hsession : server.sessions s = some session)
    (hexec : exec actor action server = some (answer, after)) :
    Quiet s session.disconnected (rest answer) := by
  obtain huses | ⟨⟨hdisconnected, rfl⟩, hrest⟩ := hquiet
  · exact .of_uses (huses.2 answer)
  · refine hrest answer ?_
    simp only [exec, hsession, hdisconnected] at hexec
    cases hexec
    rfl

/-- What is hidden in a state is hidden in all states that look alike. -/
theorem Hidden.like (hhidden : Hidden p server s task) (hlike : server.Like p other) :
    Hidden p other s task := by
  intro session hsession
  obtain ⟨session', hsession', hpeer, hfields⟩ := hlike.symm.exists_session hsession
  by_cases howner : session.peer_id = p
  · exact .inl howner
  · right
    have hquiet := (hhidden session' hsession').resolve_left (hpeer ▸ howner)
    rwa [(hfields howner).2] at hquiet

/-- What is hidden stays hidden, whatever the tasks do. -/
theorem Hidden.after_exec (hhidden : Hidden p server s task)
    (hexec : exec actor action server = some (answer, after)) : Hidden p after s task := by
  intro session hsession
  rw [exec_sessions hexec] at hsession
  obtain ⟨before, hbefore, rfl⟩ := Option.map_eq_some_iff.mp hsession
  rw [Action.update_peer_id]
  refine (hhidden before hbefore).imp_right fun hquiet => hquiet.mono fun hdisconnected => ?_
  obtain hsame | ⟨-, hraised⟩ := Action.update_disconnected action actor s before
  · rw [hsame, hdisconnected]
  · exact hraised

/-- The holder of an own session is read as the peer or as none. -/
theorem InName.acts_as {q : String} (haction : InName (some s) q action)
    (hholder : ∀ session, server.sessions s = some session →
      session.peer_id_holder = none ∨ session.peer_id_holder = some q)
    (hexec : exec actor action server = some (answer, after)) : ActsAs q action answer := by
  cases action with
  | lock_holder s' | read_holder s' =>
    cases haction
    obtain ⟨session, hsession, -, rfl, -⟩ := Server.with_holder_eq_some hexec
    exact hholder session hsession
  | _ => trivial

end Quiet

end voip_signaling.session

namespace voip_signaling.server

open async state session handlers

/-- A request that only the given peer notices. -/
def Pending.Hidden (p : String) (pending : Pending) : Prop :=
  pending.endpoint.key = some p ∨ pending.task.Uses Incidental

/-- Two systems that look alike to all peers but one. -/
structure System.Alike (p : String) (sys other : System) : Prop where
  like : sys.server.Like p other.server
  tasks : ∀ {actor s}, actor.session_id = some s →
    AgreeUpTo (Hidden p sys.server s) (sys.task actor) (other.task actor)
  requests : ∀ r, AgreeUpTo (Pending.Hidden p) (sys.requests r) (other.requests r)

namespace System.Alike

variable {p : String} {sys other last : System}

theorem refl (sys : System) : sys.Alike p sys :=
  ⟨.refl _, fun _ => .refl _, fun _ => .refl _⟩

theorem symm (halike : sys.Alike p other) : other.Alike p sys where
  like := halike.like.symm
  tasks hactor := ((halike.tasks hactor).mono fun _ hhidden => hhidden.like halike.like).symm
  requests r := (halike.requests r).symm

theorem trans (hfirst : sys.Alike p other) (hsecond : other.Alike p last) : sys.Alike p last where
  like := hfirst.like.trans hsecond.like
  tasks hactor := (hfirst.tasks hactor).trans
    ((hsecond.tasks hactor).mono fun _ hhidden => hhidden.like hfirst.like.symm)
  requests r := (hfirst.requests r).trans (hsecond.requests r)

end System.Alike

/-- The session was opened with a token of the peer. -/
def Owns (p : String) (server : Server) (s : SessionId) : Prop :=
  ∃ session, server.sessions s = some session ∧ session.peer_id = p

theorem Owns.hidden {p : String} {server : Server} {s : SessionId} (howns : Owns p server s)
    (task : Async Unit) : Hidden p server s task := by
  obtain ⟨session, hsession, hpeer⟩ := howns
  intro session' hsession'
  cases hsession.symm.trans hsession'
  exact .inl hpeer

theorem hidden_of_disconnected {p : String} {server : Server} {s : SessionId}
    (hdisconnected : Disconnected s server) : Hidden p server s (session.cleanup s) := by
  obtain ⟨session, hsession, hflag⟩ := hdisconnected
  intro session' hsession'
  cases hsession.symm.trans hsession'
  rw [hflag]
  exact .inr cleanup_quiet

/-- The events that only the given peer notices: what arrives on its own sessions, the steps of
hidden tasks, the end of sessions that are already disconnected, and the delivery of messages. -/
def Concealed (p : String) (sys : System) : Event → Prop
  | .message s _ => Owns p sys.server s
  | .close s | .write_fails s | .drained s => Owns p sys.server s ∨ Disconnected s sys.server
  | .receive_loop s => ∀ task ∈ sys.task (.receive_loop s), Hidden p sys.server s task
  | .forward_task s => ∀ task ∈ sys.task (.forward_task s), Hidden p sys.server s task
  | .take _ | .wrote _ => True
  | .handler r => ∀ pending ∈ sys.requests r, pending.Hidden p
  | _ => False

/-- The session that an event is a move of. -/
def Event.session : Event → Option SessionId
  | .message s _ | .close s | .receive_loop s | .take s | .wrote s | .write_fails s | .drained s
  | .forward_task s => some s
  | _ => none

theorem concealed_of_owns {p : String} {sys : System} {event : Event} {s : SessionId}
    (hevent : event.session = some s) (howns : Owns p sys.server s) : Concealed p sys event := by
  cases event with
  | message s' data =>
    cases hevent
    exact howns
  | close s' | write_fails s' | drained s' =>
    cases hevent
    exact .inl howns
  | receive_loop s' | forward_task s' =>
    cases hevent
    exact fun task _ => howns.hidden task
  | take _ | wrote _ => trivial
  | _ => contradiction

/-- A message about the limits or the registration of a peer arrives on a session of that peer. -/
def names_own (state : AppState) (sys : System) (event : Event) : Bool :=
  (event.arrival state sys).all fun (session, msg) => msg.names session.peer_id

/-- The scheduled task does not register a new peer at the full registry. -/
def evicts_none (sys : System) (event : Event) : Bool :=
  (sys.performs event).all fun action => action.evicts_none sys.server

/-- The periodic cleanup finds no more buckets than the limiter may keep. -/
def cleanup_fits (sys : System) (event : Event) : Bool :=
  match event with
  | .cleanup => [.Call, .Registration, .WsMessage].all fun kind =>
    let limiter := sys.server.inner.rate_limiter
    (rate_limit.retain (rate_limit.retained sys.server.instant) (limiter.buckets kind)).entries.length ≤
      limiter.config.max_entries
  | _ => true

theorem cleanup_fits_cleanup {sys : System} (hfits : cleanup_fits sys .cleanup = true) :
    sys.server.inner.rate_limiter.Fits sys.server.instant := by
  intro kind
  have hkind : kind ∈ [rate_limit.Action.Call, .Registration, .WsMessage] := by cases kind <;> decide
  exact of_decide_eq_true (List.all_eq_true.mp hfits kind hkind)

/-- What a step has to keep to, so that limits stay separate. -/
structure Separate (state : AppState) (sys : System) (event : Event) : Prop where
  names_own : names_own state sys event = true
  evicts_none : evicts_none sys event = true
  cleanup_fits : cleanup_fits sys event = true

instance {state : AppState} {sys : System} {event : Event} : Decidable (Separate state sys event) :=
  decidable_of_iff (server.names_own state sys event = true ∧ server.evicts_none sys event = true ∧
    server.cleanup_fits sys event = true)
    ⟨fun h => ⟨h.1, h.2.1, h.2.2⟩, fun h => ⟨h.names_own, h.evicts_none, h.cleanup_fits⟩⟩

theorem Separate.registers_own {state : AppState} {sys : System} {event : Event}
    (hcond : Separate state sys event) : registers_own state sys event = true := by
  have hnames := hcond.names_own
  unfold server.names_own at hnames
  unfold server.registers_own
  split
  next session msg harrival =>
    rw [harrival] at hnames
    exact hnames
  next => rfl

/-- The request is handled in the name of the peer of its endpoint. -/
def Pending.InName (pending : Pending) : Prop :=
  match pending.endpoint.key with
  | none => pending.task.Uses Incidental
  | some key => pending.task.Uses (session.InName none key)

/-- Every task works in the name of the peer that its session or its request belongs to. -/
structure Attributed (state : AppState) (sys : System) : Prop where
  disciplined : Disciplined state sys
  own : OwnHolder state sys
  tasks : ∀ {role task session}, sys.Runs role task → sys.server.sessions role.session = some session →
    task.Settles (ActsAs session.peer_id) (InName (some role.session) session.peer_id) Incidental
  requests : ∀ {r pending}, sys.requests r = some pending → pending.InName

section Attributed

variable {state : AppState} {sys next : System} {event : Event}

theorem Attributed.init (rate_limits : rate_limit.RateLimitConfig) :
    Attributed state (System.init rate_limits state) where
  disciplined := .init rate_limits
  own := .init rate_limits
  tasks {role} := by cases role <;> simp [System.init, System.Runs]
  requests := by simp [System.init]

private theorem Separate.starts (hcond : Separate state sys event) {role : Role} {task : Async Unit}
    (hstart : Starts state sys event role task) {session : Session}
    (hsession : sys.server.sessions role.session = some session) :
    task.Settles (ActsAs session.peer_id) (InName (some role.session) session.peer_id) Incidental := by
  cases hstart with
  | @message s data framed hidle hdecoded =>
    refine receive_message_in_name fun msg hmsg => ?_
    have hnames := hcond.names_own
    rw [server.names_own, Event.arrival_message (s := s) hdecoded hmsg hsession] at hnames
    exact hnames
  | close hidle => exact cleanup_in_name
  | write_fails hwriting => exact cleanup_in_name
  | drained _ _ => exact cleanup_in_name

private theorem Attributed.tasks_step (hsys : Attributed state sys) (hcond : Separate state sys event)
    (hmove : Move state sys event next) {role : Role} {task : Async Unit} {session : Session}
    (hruns : next.Runs role task) (hsession : next.server.sessions role.session = some session) :
    task.Settles (ActsAs session.peer_id) (InName (some role.session) session.peer_id) Incidental := by
  -- A session keeps its peer, so that all tasks can be looked at before the step.
  have hbefore {role : Role} {session before : Session}
      (hsession : next.server.sessions role.session = some session)
      (hold : sys.server.sessions role.session = some before) : session.peer_id = before.peer_id := by
    obtain ⟨after, hafter, hpeer⟩ := hmove.peer_id hold
    cases hafter.symm.trans hsession
    exact hpeer
  refine hmove.preserves (T := fun role task server => ∀ session,
    server.sessions role.session = some session →
      task.Settles (ActsAs session.peer_id) (InName (some role.session) session.peer_id) Incidental)
    ?_ ?_ ?_ hruns session hsession
  · intro role task hstart hagrees session hsession
    rw [hagrees.sessions] at hsession
    exact hcond.starts hstart hsession
  · intro role action resume answer after _ hrunning hdone hagrees session hsession
    obtain ⟨before, hold⟩ := hsys.disciplined.session hrunning
    rw [hbefore hsession hold]
    obtain huses | ⟨haction, hrest⟩ := hsys.tasks hrunning hold
    · exact .of_uses (huses.2 answer)
    · refine hrest answer (InName.acts_as haction (fun session' hsession' => ?_) hdone)
      cases hold.symm.trans hsession'
      exact hsys.own.holder hold
  · intro role task hrunning _ session hsession
    obtain ⟨before, hold⟩ := hsys.disciplined.session hrunning
    rw [hbefore hsession hold]
    exact hsys.tasks hrunning hold

private theorem Attributed.requests_step (hsys : Attributed state sys) (hstep : step state sys event = some next)
    {r : Nat} {pending : Pending} (hpending : next.requests r = some pending) : pending.InName := by
  obtain hbefore | ⟨-, -, -, htask⟩ | ⟨action, resume, answer, -, hrunning, -, htask⟩ :=
    requests_of_step hstep hpending
  · exact hsys.requests hbefore
  · unfold Pending.InName
    rw [htask]
    exact handle_in_name state pending.auth pending.endpoint
  · have hnamed := hsys.requests hrunning
    unfold Pending.InName at hnamed ⊢
    rw [htask]
    dsimp only at hnamed
    split at hnamed <;> exact hnamed.2 answer

/-- Tasks keep working in the name of their peers while messages name their sender. -/
theorem Attributed.step (hsys : Attributed state sys) (hcond : Separate state sys event)
    (hstep : step state sys event = some next) : Attributed state next where
  disciplined := hsys.disciplined.step hstep
  own := hsys.own.step hsys.disciplined hcond.registers_own (move_of_step hstep)
  tasks := hsys.tasks_step hcond (move_of_step hstep)
  requests := hsys.requests_step hstep

end Attributed

end voip_signaling.server
