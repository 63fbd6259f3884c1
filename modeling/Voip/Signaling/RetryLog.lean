import Voip.Signaling.Changes
import Voip.Signaling.Pacing
import Voip.Signaling.PushRetry
import Voip.Signaling.RetryTasks
import Voip.Signaling.Steady

namespace voip_signaling.server

open async state session handlers voip_core.proto.signaling

/-- The messages that an event puts into channels. -/
def System.sends (sys : System) (event : Event) : List FramedMessage :=
  ((sys.performs event).elim [] fun action => action.sends sys.server).map Prod.snd

def read_push_retry (message : FramedMessage) : Option PushRetry :=
  if message.type_id = type_id.PUSH_RETRY then PushRetry.decode message.payload else none

/-- The `PushRetry` messages for a call that an event puts into channels. -/
def emitted (sys : System) (event : Event) (call_id : String) : List PushRetry :=
  ((sys.sends event).filterMap read_push_retry).filter (·.call_id = call_id)

/-- For each call, the `PushRetry` messages emitted since its entry came into the registry. -/
abbrev Retries := String → List PushRetry

/-- A step of the server, with what has been emitted for the calls in the registry. -/
def retries_step (state : AppState) (before : System × Retries) (event : Event) :
    Option (System × Retries) :=
  (step state before.1 event).map fun next => (next, fun call_id =>
    if next.server.inner.calls.contains call_id then before.2 call_id ++ emitted before.1 event call_id
    else [])

/-- There are no more `PushRetry` messages for a call than attempts, and the k-th one carries
the number and the delay of attempt k. -/
def BoundedRetries (state : AppState) (retries : Retries) : Prop :=
  ∀ call_id, (retries call_id).length ≤ state.config.push_retry_max_attempts ∧
    ∀ k retry, (retries call_id)[k]? = some retry → retry.retry_attempt = k + 1 ∧
      retry.retry_after_ms = state.config.retry_delay_secs (k + 1) * 1000 % 2 ^ 64

/-- The call that a client reports as failed for a reason that is worth a retry. -/
def retryable_failure (state : AppState) : Event → Option String
  | .message _ data => (FramedMessage.from_bytes data).bind (retryable_call state)
  | _ => none

/-- The call for which an event may make the server send a `PushRetry`, and on which session. -/
def Event.asks (state : AppState) : Event → Option (String × SessionId)
  | .message s data => (FramedMessage.from_bytes data).bind fun framed =>
      (asked_call state framed).map fun call_id => (call_id, s)
  | _ => none

def Role.asked (state : AppState) : Role → Option String
  | .handling _ framed => asked_call state framed
  | _ => none

section Steps

variable {state : AppState} {sys next : System} {event : Event}

/-- Calls are created without retries, and no operation counts one. -/
theorem unretried_step (hsys : Disciplined state sys) (hmove : Move state sys event next)
    (hunretried : Unretried sys.server) : Unretried next.server := by
  intro c call hcall
  by_cases hsame : next.server.inner.calls.peek c = sys.server.inner.calls.peek c
  · exact hunretried c call (hsame ▸ hcall)
  obtain ⟨op, hop, ⟨role, resume, answer, after, -, hrunning, -⟩ | ⟨r, pending, resume, -, hrunning, htask⟩⟩ :=
    hmove.call_change hsame
  · obtain ⟨s, framed, msg, -, -, hwrites⟩ := hsys.call_writer hrunning hop
    rw [hcall] at hop
    cases hop with
    | create =>
      cases msg with
      | CallRequest msg =>
        obtain ⟨now, rfl⟩ := hwrites
        rfl
      | _ => exact hwrites.elim
    | @update entry _ hpresent => exact hunretried c entry hpresent
    | @finish entry _ _ hpresent => exact hunretried c entry hpresent
  · have hserves := hsys.serves hrunning
    rw [htask] at hserves
    exact absurd hop (Serves.not_changes_call hserves.1)

/-- Which task performs the action of an event. -/
theorem System.performs_eq_some {action : session.Action} (hperforms : sys.performs event = some action) :
    (∃ role resume, event = role.event ∧ sys.Runs role (.act action resume)) ∨
      ∃ r pending resume, event = .handler r ∧ sys.requests r = some pending ∧
        pending.task = .act action resume := by
  cases event with
  | receive_loop s =>
    simp only [System.performs] at hperforms
    split at hperforms
    next framed action resume hrunning =>
      cases hperforms
      exact .inl ⟨.handling s framed, resume, rfl, hrunning⟩
    next action resume hrunning =>
      cases hperforms
      exact .inl ⟨.closing s, resume, rfl, hrunning⟩
    next => contradiction
  | forward_task s =>
    simp only [System.performs] at hperforms
    split at hperforms
    next action resume hrunning =>
      cases hperforms
      exact .inl ⟨.finishing s, resume, rfl, hrunning⟩
    next => contradiction
  | handler r =>
    simp only [System.performs] at hperforms
    split at hperforms
    next action resume hrunning =>
      cases hperforms
      exact .inr ⟨r, _, resume, rfl, hrunning, rfl⟩
    next => contradiction
  | _ => contradiction

/-- What a receive loop does with the message it is handling. -/
theorem step_handling {s : SessionId} {framed : FramedMessage} {action : session.Action}
    {resume : action.Answer → Async Unit} (hrunning : sys.receive s = .handling framed (.act action resume))
    (hstep : step state sys (.receive_loop s) = some next) :
    ∃ answer after, exec (.receive_loop s) action sys.server = some (answer, after) ∧
      next.receive s = .handled framed (resume answer) := by
  simp only [step, hrunning] at hstep
  obtain ⟨⟨answer, after⟩, hexec, rfl⟩ := Option.map_eq_some_iff.mp hstep
  exact ⟨answer, after, hexec, Function.update_self ..⟩

theorem length_sends_le (action : session.Action) (server : Server) :
    (action.sends server).length ≤ 1 := by
  cases action with
  | send s message =>
    simp only [Action.sends]
    split <;> simp
  | send_holding_peers message =>
    simp only [Action.sends]
    split
    · split <;> simp
    · simp
  | _ => simp [Action.sends]

/-- What an action sends is the message it carries. -/
theorem Sends.of_mem {M : FramedMessage → Prop} {action : session.Action} (hsends : Sends M action)
    {server : Server} {sent : SessionId × FramedMessage} (hsent : sent ∈ action.sends server) :
    M sent.2 := by
  cases action with
  | send s message =>
    simp only [Action.sends] at hsent
    split at hsent
    · rw [List.mem_singleton.mp hsent]
      exact hsends
    · contradiction
  | send_holding_peers message =>
    simp only [Action.sends] at hsent
    split at hsent
    · split at hsent
      · rw [List.mem_singleton.mp hsent]
        exact hsends
      · contradiction
    · contradiction
  | _ => contradiction

theorem Serves.sends_eq_nil {auth : auth.AuthenticatedPeer} {endpoint : Endpoint}
    {action : session.Action} (hserves : Serves auth endpoint action) (server : Server) :
    action.sends server = [] := by
  cases action with
  | send _ _ | send_holding_peers _ => cases endpoint <;> exact hserves.elim
  | _ => rfl

theorem read_push_retry_eq_some {message : FramedMessage} {retry : PushRetry}
    (hread : read_push_retry message = some retry) :
    message.type_id = type_id.PUSH_RETRY ∧ PushRetry.decode message.payload = some retry := by
  unfold read_push_retry at hread
  split at hread
  next htype => exact ⟨htype, hread⟩
  next => contradiction

theorem length_emitted_le (sys : System) (event : Event) (call_id : String) :
    (emitted sys event call_id).length ≤ 1 := by
  have hsends : (sys.sends event).length ≤ 1 := by
    unfold System.sends
    cases sys.performs event with
    | none => exact Nat.zero_le _
    | some action => simpa using length_sends_le action sys.server
  exact (List.length_filter_le ..).trans ((List.length_filterMap_le ..).trans hsends)

end Steps

end voip_signaling.server
