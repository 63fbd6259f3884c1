import Voip.Signaling.Identity

namespace voip_signaling.session

open async state

/-- How far a cleanup has come. -/
inductive Phase where
  | claiming
  | claimed
  | disconnecting (peer_id : String)
  | unlocking
  | finished

def Phase.task (s : SessionId) : Phase → Async Unit
  | .claiming => cleanup s
  | .claimed => do
    let peer_id ← lock_holder s
    disconnect_holder peer_id
    unlock_holder s
  | .disconnecting peer_id => do
    disconnect_peer peer_id
    unlock_holder s
  | .unlocking => unlock_holder s
  | .finished => pure ()

/-- One action of a cleanup, given the session it finds, and the phase it leads to. -/
inductive Phase.Next (s : SessionId) (session : Session) : Phase → Action → Phase → Prop where
  | lost (disconnected : session.disconnected = true) :
      Next s session .claiming (.claim_disconnect s) .finished
  | won (connected : session.disconnected = false) :
      Next s session .claiming (.claim_disconnect s) .claimed
  | skipped (holder : session.peer_id_holder = none) : Next s session .claimed (.lock_holder s) .unlocking
  | locked {peer_id : String} (holder : session.peer_id_holder = some peer_id) :
      Next s session .claimed (.lock_holder s) (.disconnecting peer_id)
  | disconnected {peer_id : String} :
      Next s session (.disconnecting peer_id) (.state (.disconnect_peer peer_id)) .unlocking
  | unlocked : Next s session .unlocking (.unlock_holder s) .finished

/-- Every action of a cleanup takes it to its next phase. -/
theorem Phase.next_of_exec {s : SessionId} {phase : Phase} {action : Action}
    {resume : action.Answer → Async Unit} (htask : .act action resume = phase.task s) {actor : Actor}
    {server after : Server} {answer : action.Answer}
    (hexec : exec actor action server = some (answer, after)) {session : Session}
    (hsession : server.sessions s = some session) :
    ∃ phase', Phase.Next s session phase action phase' ∧ resume answer = phase'.task s := by
  cases phase with
  | claiming =>
    cases htask
    simp only [exec, hsession] at hexec
    cases hexec
    cases hflag : session.disconnected with
    | true => exact ⟨.finished, .lost hflag, rfl⟩
    | false => exact ⟨.claimed, .won hflag, rfl⟩
  | claimed =>
    cases htask
    obtain ⟨session', hsession', -, hanswer, -⟩ := Server.with_holder_eq_some hexec
    obtain rfl : session = session' := by simpa [hsession] using hsession'
    cases hholder : session.peer_id_holder with
    | none =>
      obtain rfl : answer = none := hanswer.trans hholder
      exact ⟨.unlocking, .skipped hholder, rfl⟩
    | some peer_id =>
      obtain rfl : answer = some peer_id := hanswer.trans hholder
      exact ⟨.disconnecting peer_id, .locked hholder, rfl⟩
  | disconnecting peer_id =>
    cases htask
    exact ⟨.unlocking, .disconnected, rfl⟩
  | unlocking =>
    cases htask
    exact ⟨.finished, .unlocked, rfl⟩
  | finished => contradiction

end voip_signaling.session

namespace voip_signaling.server

open async state session

variable {state : AppState} {sys next : System} {event : Event}

/-- The session that a task is cleaning up. -/
def Role.cleans : Role → Option SessionId
  | .handling .. => none
  | .closing s | .finishing s => some s

/-- Every running cleanup is in a phase that satisfies `Ok`. -/
def InPhase (Ok : SessionId → Phase → Server → Prop) (sys : System) : Prop :=
  ∀ role task s, sys.Runs role task → role.cleans = some s →
    ∃ phase, task = phase.task s ∧ Ok s phase sys.server

theorem InPhase.init (Ok : SessionId → Phase → Server → Prop) (rate_limits : rate_limit.RateLimitConfig) :
    InPhase Ok (System.init rate_limits state) := by
  intro role task s hruns
  cases role <;> simp [System.init, System.Runs] at hruns

theorem cleans_opened (hsys : Disciplined state sys) {role : Role} {task : Async Unit}
    {s : SessionId} (hruns : sys.Runs role task) (hcleans : role.cleans = some s) :
    ∃ session, sys.server.sessions s = some session := by
  cases role with
  | handling s' framed => contradiction
  | closing s' =>
    cases hcleans
    exact hsys.opened (.inl (by simp [show sys.receive s = .closing task from hruns]))
  | finishing s' =>
    cases hcleans
    exact hsys.opened (.inr (by simp [show sys.forward s = .finishing task from hruns]))

/-- The rule for cleanups: an assertion about their phases is preserved if it holds at
the start, survives the cleanup's own actions, and survives the rest of the system. -/
theorem InPhase.step {Ok : SessionId → Phase → Server → Prop} (hsys : Disciplined state sys)
    (hphase : InPhase Ok sys) (hmove : Move state sys event next)
    (hstarts : ∀ s, sys.server.Agrees next.server → Ok s .claiming next.server)
    (hown : ∀ {role s session phase phase' action resume answer after}, event = role.event →
      sys.Runs role (.act action resume) → role.cleans = some s → Ok s phase sys.server →
      sys.server.sessions s = some session → Phase.Next s session phase action phase' →
      exec role.actor action sys.server = some (answer, after) → after.Agrees next.server →
      Ok s phase' next.server)
    (hinterferes : ∀ {role s phase}, sys.Runs role (phase.task s) → role.cleans = some s →
      Ok s phase sys.server → Interferes state sys event role.actor next.server →
      Ok s phase next.server) :
    InPhase Ok next := by
  intro role task s hruns
  refine hmove.preserves (T := fun role task server => role.cleans = some s →
    ∃ phase, task = phase.task s ∧ Ok s phase server) ?_ ?_ ?_ hruns
  · intro role task hstart hagrees hcleans
    cases hstart with
    | message hidle hdecoded => contradiction
    | close hidle =>
      cases hcleans
      exact ⟨.claiming, rfl, hstarts s hagrees⟩
    | write_fails hwriting =>
      cases hcleans
      exact ⟨.claiming, rfl, hstarts s hagrees⟩
    | drained _ _ =>
      cases hcleans
      exact ⟨.claiming, rfl, hstarts s hagrees⟩
  · intro role action resume answer after hlabel hrunning hdone hagrees hcleans
    obtain ⟨phase, htask, hok⟩ := hphase _ _ s hrunning hcleans
    obtain ⟨session, hsession⟩ := cleans_opened hsys hrunning hcleans
    obtain ⟨phase', hnext, hresume⟩ := Phase.next_of_exec htask hdone hsession
    exact ⟨phase', hresume, hown hlabel hrunning hcleans hok hsession hnext hdone hagrees⟩
  · intro role task hrunning hchange hcleans
    obtain ⟨phase, rfl, hok⟩ := hphase _ _ s hrunning hcleans
    exact ⟨phase, rfl, hinterferes hrunning hcleans hok hchange⟩

end voip_signaling.server
