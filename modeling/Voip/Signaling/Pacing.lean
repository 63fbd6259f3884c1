import Voip.Signaling.Buckets
import Voip.Signaling.Exec
import Voip.Signaling.Server

namespace voip_signaling.state

open rate_limit

variable (kind : Action) (p : String) (now : Nat) (inner : InnerState)

/-- Whether a critical section allows an action of a peer. -/
def Op.allows (kind : Action) (p : String) (now : Nat) (inner : InnerState) : Op → Bool
  | .check action peer_id =>
    decide (action = kind ∧ peer_id = p) && (inner.rate_limiter.check peer_id action now now).1
  | _ => false

/-- Critical sections other than these three leave the rate limits alone. -/
theorem Op.run_rate_limiter (op : Op) :
    (op.run now inner).2.rate_limiter = inner.rate_limiter ∧ op.allows kind p now inner = false ∨
      (∃ action peer_id, op = .check action peer_id) ∨
      ∃ peer_id, (op.run now inner).2.rate_limiter = inner.rate_limiter.remove_peer peer_id ∧
        op.allows kind p now inner = false := by
  cases op with
  | check action peer_id => exact .inr (.inl ⟨action, peer_id, rfl⟩)
  | unregister_peer peer_id =>
    simp only [Op.run, InnerState.unregister_peer]
    split
    next => exact .inr (.inr ⟨peer_id, rfl, rfl⟩)
    next => exact .inl ⟨rfl, rfl⟩
  | disconnect_peer peer_id =>
    simp only [Op.run, InnerState.disconnect_peer]
    split
    next =>
      split
      next => exact .inl ⟨rfl, rfl⟩
      next => exact .inr (.inr ⟨peer_id, rfl, rfl⟩)
    next => exact .inr (.inr ⟨peer_id, rfl, rfl⟩)
  | register_peer info sender =>
    simp only [Op.run, InnerState.register_peer]
    split <;> exact .inl ⟨rfl, rfl⟩
  | create_call call =>
    simp only [Op.run, InnerState.create_call]
    (repeat' split) <;> exact .inl ⟨rfl, rfl⟩
  | update_call_state call_id new_state =>
    simp only [Op.run, InnerState.update_call_state, InnerState.modify_call]
    split <;> exact .inl ⟨rfl, rfl⟩
  | end_call call_id now reason =>
    simp only [Op.run, InnerState.end_call, InnerState.modify_call]
    split <;> exact .inl ⟨rfl, rfl⟩
  | _ => exact .inl ⟨rfl, rfl⟩

theorem Op.run_limited (op : Op) :
    (op.run now inner).2.rate_limiter.config = inner.rate_limiter.config ∧
      Limited (inner.rate_limiter.config.bucket kind) now (inner.rate_limiter.bucket kind p)
        (op.allows kind p now inner) ((op.run now inner).2.rate_limiter.bucket kind p) := by
  obtain ⟨hkept, hallows⟩ | ⟨action, peer_id, rfl⟩ | ⟨peer_id, hremoved, hallows⟩ :=
    op.run_rate_limiter kind p now inner
  · rw [hkept, hallows]
    exact ⟨rfl, Limited.kept _⟩
  · exact ⟨(check_eq inner.rate_limiter now now kind peer_id action).2.1, check_limited ..⟩
  · rw [hremoved, hallows]
    exact ⟨rfl, remove_peer_limited ..⟩

end voip_signaling.state

namespace voip_signaling.session

open async state rate_limit

def Action.allows (kind : rate_limit.Action) (p : String) (server : Server) : Action → Bool
  | .state op => op.allows kind p server.instant server.inner
  | _ => false

/-- An action of a task takes no time. -/
theorem exec_limited {actor : Actor} {action : Action} {server after : Server} {answer : action.Answer}
    (hexec : exec actor action server = some (answer, after)) (kind : rate_limit.Action) (p : String) :
    after.instant = server.instant ∧
      after.inner.rate_limiter.config = server.inner.rate_limiter.config ∧
      Limited (server.inner.rate_limiter.config.bucket kind) server.instant
        (server.inner.rate_limiter.bucket kind p) (action.allows kind p server)
        (after.inner.rate_limiter.bucket kind p) := by
  obtain ⟨hinstant, ⟨op, rfl, hinner⟩ | ⟨hop, hlimiter, -⟩⟩ := exec_registries hexec
  · rw [hinner]
    exact ⟨hinstant, Op.run_limited kind p _ _ op⟩
  · have hallows : action.allows kind p server = false := by
      cases action with
      | state op => exact absurd rfl (hop op)
      | _ => rfl
    rw [hlimiter, hallows]
    exact ⟨hinstant, rfl, Limited.kept _⟩

end voip_signaling.session

namespace voip_signaling.server

open async state session rate_limit

variable {state : AppState} {sys next : System} {event : Event}

/-- The action that the scheduled task performs next. -/
def System.performs (sys : System) : Event → Option session.Action
  | .receive_loop s =>
    match sys.receive s with
    | .handling _ (.act action _) => some action
    | .closing (.act action _) => some action
    | _ => none
  | .forward_task s =>
    match sys.forward s with
    | .finishing (.act action _) => some action
    | _ => none
  | .handler r =>
    match sys.requests r with
    | some { endpoint := _, authorization := _, auth := _, task := .act action _ } => some action
    | _ => none
  | _ => none

/-- The event allows an action of a peer. -/
def allows (kind : rate_limit.Action) (p : String) (sys : System) (event : Event) : Bool :=
  (sys.performs event).any fun action => action.allows kind p sys.server

def System.bucket (kind : rate_limit.Action) (p : String) (sys : System) : Option Bucket :=
  sys.server.inner.rate_limiter.bucket kind p

/-- What a step does to one bucket and to the clock of the rate limits. -/
structure Paces (kind : rate_limit.Action) (p : String) (sys : System) (event : Event) (next : System) :
    Prop where
  instant : sys.server.instant ≤ next.server.instant
  config : next.server.inner.rate_limiter.config = sys.server.inner.rate_limiter.config
  limited : Limited (sys.server.inner.rate_limiter.config.bucket kind) sys.server.instant
    (sys.bucket kind p) (allows kind p sys event) (next.bucket kind p)

theorem Paces.acted {actor : Actor} {action : session.Action} {answer : action.Answer} {server : Server}
    {kind : rate_limit.Action} {p : String} (hperforms : sys.performs event = some action)
    (hexec : session.exec actor action sys.server = some (answer, server))
    (hinner : next.server.inner = server.inner) (hinstant : next.server.instant = server.instant) :
    Paces kind p sys event next := by
  obtain ⟨hsame, hconfig, hlimited⟩ := exec_limited hexec kind p
  constructor
  · rw [hinstant, hsame]
  · rw [hinner, hconfig]
  · simpa [System.bucket, allows, hperforms, hinner] using hlimited

theorem paces_of_step (hstep : step state sys event = some next) (kind : rate_limit.Action) (p : String) :
    Paces kind p sys event next := by
  cases event with
  | receive_loop s =>
    simp only [step] at hstep
    split at hstep
    next framed action resume hrunning =>
      obtain ⟨⟨answer, server⟩, hdone, rfl⟩ := Option.map_eq_some_iff.mp hstep
      exact Paces.acted (by simp [System.performs, hrunning]) hdone rfl rfl
    next action resume hrunning =>
      obtain ⟨⟨answer, server⟩, hdone, rfl⟩ := Option.map_eq_some_iff.mp hstep
      exact Paces.acted (by simp [System.performs, hrunning]) hdone rfl rfl
    next => contradiction
  | forward_task s =>
    simp only [step] at hstep
    split at hstep
    next action resume hrunning =>
      obtain ⟨⟨answer, server⟩, hdone, rfl⟩ := Option.map_eq_some_iff.mp hstep
      have hperforms : sys.performs (.forward_task s) = some action := by
        simp [System.performs, hrunning]
      cases hresumed : resume answer with
      | done => exact Paces.acted hperforms hdone rfl rfl
      | act => exact Paces.acted hperforms hdone rfl rfl
    next => contradiction
  | handler r =>
    simp only [step] at hstep
    split at hstep
    next endpoint authorization auth action resume hrunning =>
      obtain ⟨⟨answer, server⟩, hdone, rfl⟩ := Option.map_eq_some_iff.mp hstep
      exact Paces.acted (by simp [System.performs, hrunning]) hdone rfl rfl
    next => contradiction
  | elapse nanos =>
    cases hstep
    exact ⟨Nat.le_add_right .., rfl, Limited.kept _⟩
  | cleanup =>
    cases hstep
    exact ⟨Nat.le_refl _, rfl, cleanup_limited ..⟩
  | upgrade | message | close | take | wrote | write_fails | drained | request | cancel | add_proxy |
      set_clock =>
    simp only [step] at hstep
    (repeat' split at hstep) <;> cases hstep <;>
      exact ⟨Nat.le_refl _, rfl, Limited.kept _⟩

end voip_signaling.server
