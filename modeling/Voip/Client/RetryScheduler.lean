import Voip.Client.PushRetry
import Voip.Machine.History

namespace voip_core.types

def CallEndReason.should_retry : CallEndReason → Bool
  | .FailedIpv4Random | .FailedMasqueUnreachable => true
  | _ => false

/-- The name that `Debug` prints. -/
def CallEndReason.debug : CallEndReason → String
  | .Normal => "Normal"
  | .Rejected => "Rejected"
  | .Timeout => "Timeout"
  | .FailedIpv4Random => "FailedIpv4Random"
  | .FailedUdpBlocked => "FailedUdpBlocked"
  | .FailedNetwork => "FailedNetwork"
  | .MigrationFailed => "MigrationFailed"
  | .FailedMasqueUnreachable => "FailedMasqueUnreachable"
  | .FailedTcpBlocked => "FailedTcpBlocked"

end voip_core.types

namespace voip_client.push_retry

open checked voip_core.config voip_core.types

inductive ClientError where
  | SignalingError (text : String)
  | CallSetupTimeout (text : String)
  deriving DecidableEq, Repr

/-- A spawned task that sleeps before it retries. -/
structure RetryTask where
  delay_secs : Nat
  attempt : Nat
  call_id : String
  peer_id : String
  deriving DecidableEq, Repr

/-- The scheduler with the runtime its tasks are spawned on: `pending` are the tasks, under their
handles, that have neither woken up nor been aborted. -/
structure RetryScheduler where
  handler : PushRetryHandler
  retry_task : Option Nat
  spawned : Nat
  pending : List (Nat × RetryTask)

namespace RetryScheduler

def new (config : RetryConfig) : RetryScheduler := ⟨.new config, none, 0, []⟩

/-- A task that wakes up or is aborted is pending no more. -/
def finish (handle : Nat) (self : RetryScheduler) : RetryScheduler :=
  { self with pending := self.pending.filter fun task => task.1 ≠ handle }

def spawn (task : RetryTask) (self : RetryScheduler) : RetryScheduler :=
  { self with
    spawned := self.spawned + 1
    pending := self.pending ++ [(self.spawned, task)]
    retry_task := some self.spawned }

def cancel (self : RetryScheduler) : RetryScheduler :=
  match self.retry_task with
  | some handle => { self.finish handle with retry_task := none }
  | none => self

def reset (self : RetryScheduler) : RetryScheduler :=
  { self.cancel with handler := self.cancel.handler.reset }

/-- A call returns, or it panics. -/
inductive Answer where
  | Returned (result : Except ClientError Unit)
  | Panicked (fault : Fault)
  deriving DecidableEq

/-- What follows the three checks, up to a panic. -/
def plan (build : Build) (now : Nat) (call_id peer_id : String) (reason : CallEndReason)
    (self : PushRetryHandler) : Except Fault (RetryTask × PushRetryHandler) := do
  let delay_secs ← self.next_retry_delay build
  let _ ← self.create_push_retry_message build call_id peer_id reason
  let attempt ← build.word 32 (self.retry_count + 1)
  return (⟨delay_secs, attempt, call_id, peer_id⟩, ← self.record_retry build now)

def schedule_retry (build : Build) (now : Nat) (call_id peer_id : String) (reason : CallEndReason)
    (self : RetryScheduler) : Answer × RetryScheduler :=
  if !self.handler.config.push_retry_enabled then
    (.Returned (.error (.SignalingError "Push retry is disabled")), self)
  else if !self.handler.can_retry then
    (.Returned (.error (.CallSetupTimeout "Max retry attempts exhausted")), self)
  else if !reason.should_retry then
    (.Returned (.error (.SignalingError ("Reason " ++ reason.debug ++ " does not warrant push retry"))), self)
  else
    let self := self.cancel
    match plan build now call_id peer_id reason self.handler with
    | .error fault => (.Panicked fault, self)
    | .ok (task, handler) => (.Returned (.ok ()), { self with handler }.spawn task)

/-- What is done with the scheduler, and the timer of a task that wakes it up. -/
inductive Event where
  | Schedule (now : Nat) (call_id peer_id : String) (reason : CallEndReason)
  | Cancel
  | Reset
  | Fire (handle : Nat)

def step (build : Build) (self : RetryScheduler) : Event → Answer × RetryScheduler
  | .Schedule now call_id peer_id reason => self.schedule_retry build now call_id peer_id reason
  | .Cancel => (.Returned (.ok ()), self.cancel)
  | .Reset => (.Returned (.ok ()), self.reset)
  | .Fire handle => (.Returned (.ok ()), self.finish handle)

/-- The retries scheduled since the last reset. -/
def since_reset (past : List (Event × Answer)) : Nat :=
  past.foldl (fun count entry =>
    match entry with
    | (.Reset, _) => 0
    | (.Schedule .., .Returned (.ok ())) => count + 1
    | _ => count) 0

variable {build : Build} {self : RetryScheduler}

@[simp] theorem handler_cancel : self.cancel.handler = self.handler := by
  unfold cancel
  split <;> rfl

/-- A pending task is the one whose handle is kept. -/
def Tidy (self : RetryScheduler) : Prop :=
  self.pending = [] ∨ ∃ handle task, self.pending = [(handle, task)] ∧ self.retry_task = some handle

theorem Tidy.pending_cancel (htidy : self.Tidy) : self.cancel.pending = [] := by
  obtain hnone | ⟨handle, task, hpending, hhandle⟩ := htidy
  · unfold cancel
    split <;> simp [finish, hnone]
  · simp [cancel, hhandle, finish, hpending]

theorem Tidy.finish (htidy : self.Tidy) (handle : Nat) : (self.finish handle).Tidy := by
  obtain hnone | ⟨kept, task, hpending, hhandle⟩ := htidy
  · exact .inl (by simp [RetryScheduler.finish, hnone])
  · by_cases hkept : kept = handle
    · exact .inl (by simp [RetryScheduler.finish, hpending, hkept])
    · exact .inr ⟨kept, task, by simp [RetryScheduler.finish, hpending, hkept], hhandle⟩

/-- What the steps behind the checks compute when none of them panics. -/
theorem plan_eq_ok {now : Nat} {call_id peer_id : String} {reason : CallEndReason}
    {handler next : PushRetryHandler} {task : RetryTask} (hcan : handler.can_retry = true)
    (hplan : plan build now call_id peer_id reason handler = .ok (task, next)) :
    handler.config.retry_delay_secs_in build (handler.retry_count + 1) = .ok task.delay_secs ∧
      next.config = handler.config ∧ next.retry_count = handler.retry_count + 1 := by
  have hattempts := handler.config.hattempts
  have hcount := PushRetryHandler.can_retry_iff.1 hcan
  have hword : build.word 32 (handler.retry_count + 1) = .ok (handler.retry_count + 1) :=
    build.word_of_lt (by omega)
  simp only [plan, PushRetryHandler.next_retry_delay, PushRetryHandler.record_retry, hword,
    result.bind_eq_ok, result.pure_eq_ok, Prod.mk.injEq] at hplan
  obtain ⟨delay, ⟨_, hattempt, hdelay⟩, _, _, _, _, _, ⟨_, hcounted, rfl⟩, rfl, rfl⟩ := hplan
  cases hattempt
  cases hcounted
  exact ⟨hdelay, rfl, rfl⟩

/-- A call fails and leaves everything as it was, panics behind the cancellation, or replaces the
pending task. -/
theorem schedule_retry_cases (build : Build) (now : Nat) (call_id peer_id : String)
    (reason : CallEndReason) (self : RetryScheduler) :
    (∃ error, self.schedule_retry build now call_id peer_id reason = (.Returned (.error error), self)) ∨
    (∃ fault, self.schedule_retry build now call_id peer_id reason = (.Panicked fault, self.cancel)) ∨
    ∃ task handler, self.handler.can_retry = true ∧
      plan build now call_id peer_id reason self.handler = .ok (task, handler) ∧
      self.schedule_retry build now call_id peer_id reason =
        (.Returned (.ok ()), { self.cancel with handler }.spawn task) := by
  by_cases henabled : self.handler.config.push_retry_enabled = true
  · by_cases hcan : self.handler.can_retry = true
    · by_cases hreason : reason.should_retry = true
      · cases hplan : plan build now call_id peer_id reason self.handler with
        | error fault => exact .inr (.inl ⟨fault, by simp [schedule_retry, henabled, hcan, hreason, hplan]⟩)
        | ok planned =>
          exact .inr (.inr ⟨planned.1, planned.2, hcan, rfl,
            by simp [schedule_retry, henabled, hcan, hreason, hplan]⟩)
      · exact .inl ⟨_, by simp only [schedule_retry, henabled, hcan, hreason]; rfl⟩
    · exact .inl ⟨_, by simp only [schedule_retry, henabled, hcan]; rfl⟩
  · exact .inl ⟨_, by simp only [schedule_retry, henabled]; rfl⟩

/-- What holds of the scheduler whatever was done with it. -/
structure Disciplined (config : RetryConfig) (past : List (Event × Answer))
    (scheduler : RetryScheduler) : Prop where
  tidy : scheduler.Tidy
  config_eq : scheduler.handler.config = config
  count : scheduler.handler.retry_count = since_reset past
  bounded : since_reset past ≤ config.push_retry_max_attempts

variable {config : RetryConfig} {past : List (Event × Answer)}

/-- The waiting time of a scheduled retry is that of the attempt with its number. -/
theorem Disciplined.delay_eq (hself : Disciplined config past self)
    (hfits : ∀ n, 1 ≤ n → n ≤ config.push_retry_max_attempts → config.backoff n < 2 ^ 64)
    {now : Nat} {call_id peer_id : String} {reason : CallEndReason} {handler : PushRetryHandler}
    {task : RetryTask} (hcan : self.handler.can_retry = true)
    (hplan : plan build now call_id peer_id reason self.handler = .ok (task, handler)) :
    task.delay_secs = config.backoff (since_reset past + 1) := by
  have hcount := PushRetryHandler.can_retry_iff.1 hcan
  obtain ⟨hdelay, -, -⟩ := plan_eq_ok hcan hplan
  rw [hself.config_eq] at hdelay hcount
  rw [hself.count] at hdelay hcount
  exact retry_delay_secs_in_eq_backoff (Nat.succ_ne_zero _)
    (hfits _ (Nat.le_add_left 1 _) (by omega)) hdelay

theorem since_reset_append (past : List (Event × Answer)) (entry : Event × Answer) :
    since_reset (past ++ [entry]) =
      match entry with
      | (.Reset, _) => 0
      | (.Schedule .., .Returned (.ok ())) => since_reset past + 1
      | _ => since_reset past := by
  simp [since_reset]

/-- A step that neither resets nor schedules leaves the count as it is. -/
theorem Disciplined.quiet (hself : Disciplined config past self) {entry : Event × Answer}
    {next : RetryScheduler} (hentry : since_reset (past ++ [entry]) = since_reset past) (htidy : next.Tidy)
    (hhandler : next.handler = self.handler) : Disciplined config (past ++ [entry]) next := by
  refine ⟨htidy, ?_, ?_, ?_⟩
  · rw [hhandler, hself.config_eq]
  · rw [hhandler, hentry, hself.count]
  · rw [hentry]
    exact hself.bounded

theorem Disciplined.step (hself : Disciplined config past self) (event : Event) :
    Disciplined config (past ++ [(event, (self.step build event).1)]) (self.step build event).2 := by
  have htidy := hself.tidy
  cases event with
  | Schedule now call_id peer_id reason =>
    obtain ⟨error, hcall⟩ | ⟨fault, hcall⟩ | ⟨task, handler, hcan, hplan, hcall⟩ :=
      schedule_retry_cases build now call_id peer_id reason self
    · simp only [RetryScheduler.step, hcall]
      exact hself.quiet (since_reset_append ..) htidy rfl
    · simp only [RetryScheduler.step, hcall]
      exact hself.quiet (since_reset_append ..) (.inl htidy.pending_cancel) handler_cancel
    · obtain ⟨-, hkept, hnext⟩ := plan_eq_ok hcan hplan
      have hless := PushRetryHandler.can_retry_iff.1 hcan
      rw [hself.config_eq, hself.count] at hless
      rw [hself.count] at hnext
      simp only [RetryScheduler.step, hcall]
      refine ⟨.inr ⟨self.cancel.spawned, task, ?_, rfl⟩, hkept.trans hself.config_eq, ?_, ?_⟩
      · simp [spawn, htidy.pending_cancel]
      · rw [since_reset_append]
        exact hnext
      · rw [since_reset_append]
        exact hless
  | Cancel => exact hself.quiet (since_reset_append ..) (.inl htidy.pending_cancel) handler_cancel
  | Reset =>
    refine ⟨.inl htidy.pending_cancel, ?_, ?_, ?_⟩
    · simpa [RetryScheduler.step, reset, PushRetryHandler.reset] using hself.config_eq
    · rw [since_reset_append]
      rfl
    · rw [since_reset_append]
      exact Nat.zero_le _
  | Fire handle => exact hself.quiet (since_reset_append ..) (htidy.finish handle) rfl

theorem disciplined_run (build : Build) (config : RetryConfig) (events : List Event) :
    Disciplined config (machine.history (RetryScheduler.step build) (.new config) events)
      (machine.final (RetryScheduler.step build) (.new config) events) :=
  machine.invariant (fun _ _ event hself => hself.step event)
    ⟨.inl rfl, rfl, rfl, Nat.zero_le _⟩ events

theorem Tidy.length_pending_le (htidy : self.Tidy) : self.pending.length ≤ 1 := by
  obtain hnone | ⟨handle, task, hpending, -⟩ := htidy
  · simp [hnone]
  · simp [hpending]

/-- After any calls and timers at most one retry is pending and at most as many as allowed were
scheduled since the last reset; the next one that is scheduled waits as long as its number says,
and a call that fails leaves the count and the pending retry alone. -/
theorem retry_discipline (build : Build) (config : RetryConfig)
    (hfits : ∀ n, 1 ≤ n → n ≤ config.push_retry_max_attempts → config.backoff n < 2 ^ 64)
    (events : List Event) :
    let past := machine.history (RetryScheduler.step build) (.new config) events
    let self := machine.final (RetryScheduler.step build) (.new config) events
    self.pending.length ≤ 1 ∧ since_reset past ≤ config.push_retry_max_attempts ∧
      ∀ now call_id peer_id reason self',
        (self.schedule_retry build now call_id peer_id reason = (.Returned (.ok ()), self') →
          ∃ handle task, self'.pending = [(handle, task)] ∧
            task.delay_secs = config.backoff (since_reset past + 1)) ∧
        ∀ error, self.schedule_retry build now call_id peer_id reason = (.Returned (.error error), self') →
          self'.handler.retry_count = self.handler.retry_count ∧ self'.pending = self.pending := by
  intro past self
  have hself : Disciplined config past self := disciplined_run build config events
  refine ⟨hself.tidy.length_pending_le, hself.bounded, fun now call_id peer_id reason self' => ?_⟩
  obtain ⟨error, hcall⟩ | ⟨fault, hcall⟩ | ⟨task, handler, hcan, hplan, hcall⟩ :=
    schedule_retry_cases build now call_id peer_id reason self
  · rw [hcall]
    refine ⟨nofun, fun _ hfailed => ?_⟩
    cases hfailed
    exact ⟨rfl, rfl⟩
  · rw [hcall]
    exact ⟨nofun, nofun⟩
  · rw [hcall]
    refine ⟨fun hdone => ?_, nofun⟩
    cases hdone
    exact ⟨self.cancel.spawned, task, by simp [spawn, hself.tidy.pending_cancel],
      hself.delay_eq hfits hcan hplan⟩

/-- One retry of a call, cancelled, and the next. -/
def two_retries : List Event :=
  [.Schedule 0 "call-1" "bob" .FailedIpv4Random, .Cancel,
    .Schedule 9 "call-1" "bob" .FailedIpv4Random]

def after_two_retries : RetryScheduler :=
  machine.final (RetryScheduler.step .checks) (.new default_retries) two_retries

/-- The third retry waits for 45 seconds, and one for a call that ended normally is refused. -/
theorem retry_discipline_two_retries :
    after_two_retries.pending.length ≤ 1 ∧
      since_reset (machine.history (RetryScheduler.step .checks) (.new default_retries) two_retries) ≤ 3 ∧
      (∃ self' handle task,
        after_two_retries.schedule_retry .checks 20 "call-1" "bob" .FailedIpv4Random = (.Returned (.ok ()), self') ∧
          self'.pending = [(handle, task)] ∧ task.delay_secs = default_retries.backoff 3) ∧
      ∃ error self',
        after_two_retries.schedule_retry .checks 20 "call-1" "bob" .Normal = (.Returned (.error error), self') ∧
          self'.handler.retry_count = 2 ∧ self'.pending = after_two_retries.pending := by
  have hfits : ∀ n, 1 ≤ n → n ≤ default_retries.push_retry_max_attempts →
      default_retries.backoff n < 2 ^ 64 := by
    intro n hn hmax
    have hmax : n ≤ 3 := hmax
    obtain rfl | rfl | rfl : n = 1 ∨ n = 2 ∨ n = 3 := by omega
    all_goals decide
  obtain ⟨hpending, hsince, hnext⟩ := retry_discipline .checks default_retries hfits two_retries
  refine ⟨hpending, hsince, ?_, ?_⟩
  · obtain ⟨handle, task, hspawned, hdelay⟩ := (hnext 20 "call-1" "bob" .FailedIpv4Random _).1 rfl
    exact ⟨_, handle, task, rfl, hspawned, hdelay⟩
  · obtain ⟨hcount, hkept⟩ := (hnext 20 "call-1" "bob" .Normal _).2 _ rfl
    exact ⟨_, _, rfl, hcount, hkept⟩

end RetryScheduler

end voip_client.push_retry
