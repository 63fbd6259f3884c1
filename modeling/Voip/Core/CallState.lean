import Voip.Core.Types
import Voip.Machine.History

namespace voip_core.state

open voip_core.types machine

inductive CallState where
  | Idle
  | Ringing
  | Accepted
  | Connected
  | Failed
  | Ended
  deriving DecidableEq, Repr

inductive TransitionResult where
  | Ok
  | Invalid (from_ to_ : CallState) (reason : String)
  deriving DecidableEq, Repr

set_option linter.dupNamespace false in
structure CallStateMachine where
  state : CallState
  method : Option ConnectionMethod
  end_reason : Option CallEndReason
  retry_count : UInt32
  max_retries : UInt32
  deriving DecidableEq, Repr

namespace CallStateMachine

def new (max_retries : UInt32) : CallStateMachine where
  state := .Idle
  method := none
  end_reason := none
  retry_count := 0
  max_retries

/-- The result of a transition method and the machine it leaves behind. -/
abbrev Transition := CallStateMachine → TransitionResult × CallStateMachine

/-- A transition that is valid in the given states only. -/
def advance (valid : List CallState) (to_ : CallState) (reason : String)
    (update : CallStateMachine → CallStateMachine) : Transition := fun self =>
  if self.state ∈ valid then (.Ok, { update self with state := to_ })
  else (.Invalid self.state to_ reason, self)

def ring : Transition := advance [.Idle] .Ringing "Can only ring from Idle state" id

def accept : Transition := advance [.Ringing] .Accepted "Can only accept from Ringing state" id

def connect (method : ConnectionMethod) : Transition :=
  advance [.Accepted] .Connected "Can only connect from Accepted state" ({ · with method := some method })

def end_ (reason : CallEndReason) : Transition :=
  advance [.Connected] .Ended "Can only end from Connected state" ({ · with end_reason := some reason })

/-- Each of the other states has its own reason. -/
def fail (reason : CallEndReason) : Transition := fun self =>
  match self.state with
  | .Ringing | .Accepted | .Connected =>
    (.Ok, { self with state := .Failed, end_reason := some reason })
  | .Idle => (.Invalid self.state .Failed "Cannot fail from Idle state", self)
  | .Failed => (.Invalid self.state .Failed "Call has already failed", self)
  | .Ended => (.Invalid self.state .Failed "Call has already ended normally", self)

def reject : Transition :=
  advance [.Ringing] .Failed "Can only reject from Ringing state" ({ · with end_reason := some .Rejected })

def timeout : Transition :=
  advance [.Ringing, .Accepted] .Failed "Can only timeout from Ringing or Accepted state"
    ({ · with end_reason := some .Timeout })

def retry : Transition := fun self =>
  match self.state with
  | .Failed =>
    if self.retry_count ≥ self.max_retries then (.Invalid self.state .Ringing "Max retries exceeded", self)
    else (.Ok, { self with retry_count := self.retry_count + 1, state := .Ringing, end_reason := none })
  | _ => (.Invalid self.state .Ringing "Can only retry from Failed state", self)

end CallStateMachine

/-- A call of one of the transition methods. -/
inductive Call where
  | ring
  | accept
  | connect (method : ConnectionMethod)
  | end_ (reason : CallEndReason)
  | fail (reason : CallEndReason)
  | reject
  | timeout
  | retry
  deriving DecidableEq, Repr

namespace CallStateMachine

def step (self : CallStateMachine) : Call → TransitionResult × CallStateMachine
  | .ring => self.ring
  | .accept => self.accept
  | .connect method => self.connect method
  | .end_ reason => self.end_ reason
  | .fail reason => self.fail reason
  | .reject => self.reject
  | .timeout => self.timeout
  | .retry => self.retry

/-- The diagram of the call states: what the transitions that succeed do. -/
inductive Moves (self : CallStateMachine) : Call → CallStateMachine → Prop where
  | ring : self.state = .Idle → Moves self .ring { self with state := .Ringing }
  | accept : self.state = .Ringing → Moves self .accept { self with state := .Accepted }
  | connect (method : ConnectionMethod) : self.state = .Accepted →
      Moves self (.connect method) { self with state := .Connected, method := some method }
  | end_ (reason : CallEndReason) : self.state = .Connected →
      Moves self (.end_ reason) { self with state := .Ended, end_reason := some reason }
  | fails (call : Call) (reason : CallEndReason) : call ≠ .retry →
      self.state = .Ringing ∨ self.state = .Accepted ∨ self.state = .Connected →
      Moves self call { self with state := .Failed, end_reason := some reason }
  | retry : self.state = .Failed → self.retry_count < self.max_retries →
      Moves self .retry { self with
        retry_count := self.retry_count + 1, state := .Ringing, end_reason := none }

theorem advance_cases {self : CallStateMachine} {call : Call} {valid : List CallState} {to_ : CallState}
    {reason : String} {update : CallStateMachine → CallStateMachine}
    (hmoves : self.state ∈ valid → Moves self call { update self with state := to_ }) :
    (advance valid to_ reason update self).1 = .Ok ∧ Moves self call (advance valid to_ reason update self).2 ∨
      (advance valid to_ reason update self).1 ≠ .Ok ∧ (advance valid to_ reason update self).2 = self := by
  unfold advance
  split
  next hvalid => exact .inl ⟨rfl, hmoves hvalid⟩
  next => exact .inr ⟨by simp, rfl⟩

/-- Each call moves the machine along the diagram or leaves it as it is. -/
theorem step_cases (self : CallStateMachine) (call : Call) :
    (self.step call).1 = .Ok ∧ Moves self call (self.step call).2 ∨
      (self.step call).1 ≠ .Ok ∧ (self.step call).2 = self := by
  cases call with
  | ring => exact advance_cases fun hvalid => .ring (by simpa using hvalid)
  | accept => exact advance_cases fun hvalid => .accept (by simpa using hvalid)
  | connect method => exact advance_cases fun hvalid => .connect method (by simpa using hvalid)
  | end_ reason => exact advance_cases fun hvalid => .end_ reason (by simpa using hvalid)
  | reject => exact advance_cases fun hvalid => .fails _ _ (by simp) (.inl (by simpa using hvalid))
  | timeout =>
    refine advance_cases fun hvalid => .fails _ _ (by simp) ?_
    rcases List.mem_cons.mp hvalid with hringing | haccepted
    · exact .inl hringing
    · exact .inr (.inl (by simpa using haccepted))
  | fail reason =>
    simp only [step, fail]
    split
    next hstate => exact .inl ⟨rfl, .fails _ _ (by simp) (.inl hstate)⟩
    next hstate => exact .inl ⟨rfl, .fails _ _ (by simp) (.inr (.inl hstate))⟩
    next hstate => exact .inl ⟨rfl, .fails _ _ (by simp) (.inr (.inr hstate))⟩
    next => exact .inr ⟨by simp, rfl⟩
    next => exact .inr ⟨by simp, rfl⟩
    next => exact .inr ⟨by simp, rfl⟩
  | retry =>
    simp only [step, retry]
    split
    next hstate =>
      split
      next => exact .inr ⟨by simp, rfl⟩
      next hleft => exact .inl ⟨rfl, .retry hstate (UInt32.not_le.mp hleft)⟩
    next => exact .inr ⟨by simp, rfl⟩

section

variable {self next : CallStateMachine} {call : Call}

theorem toNat_retry_count_succ (hleft : self.retry_count < self.max_retries) :
    (self.retry_count + 1).toNat = self.retry_count.toNat + 1 := by
  have hlt := UInt32.lt_iff_toNat_lt.mp hleft
  have hmax := self.max_retries.toNat_lt
  rw [UInt32.toNat_add, Nat.mod_eq_of_lt]
  · rfl
  · exact (Nat.succ_le_of_lt hlt).trans_lt hmax

theorem Moves.max_retries (hmoves : Moves self call next) : next.max_retries = self.max_retries := by
  cases hmoves <;> rfl

/-- Only a retry counts as one, and it stays within the limit. -/
theorem Moves.retry_count (hmoves : Moves self call next) :
    next.retry_count.toNat = self.retry_count.toNat + (call == .retry).toNat := by
  cases hmoves with
  | retry _ hleft => exact toNat_retry_count_succ hleft
  | fails call reason hcall _ => simp [hcall]
  | _ => rfl

theorem Moves.retry_count_le (hmoves : Moves self call next) (hle : self.retry_count ≤ self.max_retries) :
    next.retry_count ≤ next.max_retries := by
  cases hmoves with
  | retry _ hleft =>
    rw [UInt32.le_iff_toNat_le, toNat_retry_count_succ hleft]
    exact UInt32.lt_iff_toNat_lt.mp hleft
  | _ => exact hle

/-- How far a call has come since it last rang. -/
def progress : CallState → Nat
  | .Idle => 0
  | .Ringing => 1
  | .Accepted => 2
  | .Connected => 3
  | .Failed | .Ended => 4

theorem progress_le (state : CallState) : progress state ≤ 4 := by
  cases state <;> decide

/-- Every transition uses up part of what the attempts so far allow. -/
theorem Moves.progress_lt (hmoves : Moves self call next) :
    4 * self.retry_count.toNat + progress self.state < 4 * next.retry_count.toNat + progress next.state := by
  cases hmoves with
  | retry hstate hleft =>
    rw [hstate, toNat_retry_count_succ hleft]
    simp only [progress]
    omega
  | fails call reason _ hstate => rcases hstate with hstate | hstate | hstate <;> simp [hstate, progress]
  | ring hstate => simp [hstate, progress]
  | accept hstate => simp [hstate, progress]
  | connect method hstate => simp [hstate, progress]
  | end_ reason hstate => simp [hstate, progress]

/-- The reason and the method are there in the states that have one. -/
structure Described (machine : CallStateMachine) : Prop where
  end_reason : machine.end_reason.isSome ↔ machine.state = .Failed ∨ machine.state = .Ended
  method : machine.state = .Connected ∨ machine.state = .Ended → machine.method.isSome

theorem Described.moves (hself : self.Described) (hmoves : Moves self call next) : next.Described := by
  have hreason := hself.end_reason
  cases hmoves with
  | ring hstate => exact ⟨by simpa [hstate] using hreason, by simp⟩
  | accept hstate => exact ⟨by simpa [hstate] using hreason, by simp⟩
  | connect method hstate => exact ⟨by simpa [hstate] using hreason, by simp⟩
  | end_ reason hstate => exact ⟨by simp, fun _ => hself.method (.inl hstate)⟩
  | fails call reason _ _ => exact ⟨by simp, by simp⟩
  | retry hstate _ => exact ⟨by simp, by simp⟩

end

def succeeds (entry : Call × TransitionResult) : Bool := entry.2 = .Ok

def retries (entry : Call × TransitionResult) : Bool := entry.1 == .retry && entry.2 = .Ok

/-- What holds of a machine after the given calls. -/
structure Consistent (max_retries : UInt32) (past : List (Call × TransitionResult))
    (machine : CallStateMachine) : Prop where
  max_retries : machine.max_retries = max_retries
  retry_count_le : machine.retry_count ≤ machine.max_retries
  retry_count : machine.retry_count.toNat = past.countP retries
  described : machine.Described
  successes : past.countP succeeds ≤ 4 * machine.retry_count.toNat + progress machine.state

theorem consistent_new (max_retries : UInt32) : Consistent max_retries [] (new max_retries) where
  max_retries := rfl
  retry_count_le := UInt32.zero_le
  retry_count := rfl
  described := ⟨by simp [new], by simp [new]⟩
  successes := by simp

theorem Consistent.step {max_retries : UInt32} {past : List (Call × TransitionResult)}
    {machine : CallStateMachine} (hmachine : Consistent max_retries past machine) (call : Call) :
    Consistent max_retries (past ++ [(call, (machine.step call).1)]) (machine.step call).2 := by
  rcases machine.step_cases call with ⟨hok, hmoves⟩ | ⟨hinvalid, hsame⟩
  · rw [hok]
    refine ⟨hmoves.max_retries.trans hmachine.max_retries, hmoves.retry_count_le hmachine.retry_count_le,
      ?_, hmachine.described.moves hmoves, ?_⟩
    · rw [hmoves.retry_count, hmachine.retry_count, List.countP_append, List.countP_singleton]
      cases hcall : call == .retry <;> simp [retries, hcall]
    · have hcount : (past ++ [(call, TransitionResult.Ok)]).countP succeeds = past.countP succeeds + 1 := by
        simp [succeeds]
      rw [hcount]
      exact hmachine.successes.trans_lt hmoves.progress_lt
  · rw [hsame]
    exact { hmachine with
      retry_count := by simpa [retries, hinvalid] using hmachine.retry_count
      successes := by simpa [succeeds, hinvalid] using hmachine.successes }

/-- The machine after the given calls, and what each of them returned. -/
theorem consistent_final (max_retries : UInt32) (calls : List Call) :
    Consistent max_retries (history step (new max_retries) calls) (final step (new max_retries) calls) :=
  machine.invariant (fun _ _ call hmachine => hmachine.step call) (consistent_new max_retries) calls

/-- No call succeeds on a call that has ended. -/
theorem step_of_ended {self : CallStateMachine} (hended : self.state = .Ended) (call : Call) :
    (self.step call).1 ≠ .Ok := by
  rcases self.step_cases call with ⟨-, hmoves⟩ | ⟨hinvalid, -⟩
  · generalize (self.step call).2 = next at hmoves
    cases hmoves <;> simp_all
  · exact hinvalid

/-- After every sequence of calls: the retries counted are those that succeeded, within the
limit; a reason is there exactly in the two last states, a method when connected or ended; a
call that does not succeed changes nothing, none succeeds after the end, and all in all each
attempt allows four. -/
theorem call_state_machine_invariants (max_retries : UInt32) (calls : List Call) :
    let past := history step (new max_retries) calls
    let machine := final step (new max_retries) calls
    (machine.retry_count ≤ max_retries ∧ machine.retry_count.toNat = past.countP retries) ∧
    (machine.end_reason.isSome ↔ machine.state = .Failed ∨ machine.state = .Ended) ∧
    (machine.state = .Connected ∨ machine.state = .Ended → machine.method.isSome) ∧
    (∀ call, (machine.step call).1 ≠ .Ok → (machine.step call).2 = machine) ∧
    (machine.state = .Ended → ∀ call, (machine.step call).1 ≠ .Ok) ∧
    past.countP succeeds ≤ 4 * (max_retries.toNat + 1) := by
  intro past machine
  have hconsistent : Consistent max_retries past machine := consistent_final max_retries calls
  have hretries : machine.retry_count ≤ max_retries := hconsistent.max_retries ▸ hconsistent.retry_count_le
  refine ⟨⟨hretries, hconsistent.retry_count⟩, hconsistent.described.end_reason,
    hconsistent.described.method, ?_, step_of_ended, ?_⟩
  · intro call hinvalid
    rcases machine.step_cases call with ⟨hok, -⟩ | ⟨-, hsame⟩
    · exact absurd hok hinvalid
    · exact hsame
  · have hsuccesses := hconsistent.successes
    have hprogress := progress_le machine.state
    have hle := UInt32.le_iff_toNat_le.mp hretries
    omega

-- The bound is reached by two attempts that both get connected.
example : ((history step (new 1) [.ring, .accept, .connect .Ipv4Cone, .fail .FailedNetwork, .retry, .accept,
    .connect .Masque, .end_ .Normal]).countP succeeds) = 8 := by decide

end CallStateMachine

end voip_core.state
