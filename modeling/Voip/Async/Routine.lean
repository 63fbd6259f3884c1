import Voip.Async.Trace

namespace async

/-- Calls on a shared state whose code is a sequence of atomic steps. A step gets what the
environment answers to it, and the first step of a call that fails ends the call. -/
structure Routines where
  Call : Type
  Step : Type
  Answer : Type
  State : Type
  Error : Type
  code : Call → List Step
  perform : Answer → Step → State → Except Error Unit × State

/-- A call with the steps that it has still to make. -/
structure Running (R : Routines) where
  call : R.Call
  rest : List R.Step
  suffix : rest <:+ R.code call
  result : Except R.Error Unit

/-- Calls that share a state. -/
structure Pool (R : Routines) where
  state : R.State
  calls : List (Running R)

variable {R : Routines}

namespace Running

def start (call : R.Call) : Running R := ⟨call, R.code call, List.suffix_rfl, .ok ()⟩

/-- The call after a step with the given result. -/
def advance (running : Running R) : Except R.Error Unit → Running R
  | .ok () => { running with rest := running.rest.tail, suffix := (List.tail_suffix _).trans running.suffix }
  | .error e => { running with rest := [], suffix := List.nil_suffix, result := .error e }

end Running

/-- The steps of a call, with no other call in between. -/
def Routines.execute (R : Routines) (answer : R.Answer) : List R.Step → R.State → Except R.Error Unit × R.State
  | [], state => (.ok (), state)
  | step :: rest, state =>
    match R.perform answer step state with
    | (.ok (), state) => R.execute answer rest state
    | (.error e, state) => (.error e, state)

theorem Routines.execute_cons {answer : R.Answer} {next : R.Step} {state after : R.State}
    (hperform : R.perform answer next state = (.ok (), after)) (rest : List R.Step) :
    R.execute answer (next :: rest) state = R.execute answer rest after := by
  rw [execute, hperform]

namespace Pool

def start (state : R.State) (calls : List R.Call) : Pool R := ⟨state, calls.map .start⟩

/-- The i-th call makes its next step, which gets the answer. -/
def step (pool : Pool R) (event : Nat × R.Answer) : Option (Pool R) :=
  match pool.calls[event.1]? with
  | none => none
  | some running =>
    match running.rest with
    | [] => none
    | next :: _ =>
      let (result, state) := R.perform event.2 next pool.state
      some ⟨state, pool.calls.set event.1 (running.advance result)⟩

variable {pool after : Pool R} {i : Nat} {answer : R.Answer} {running : Running R} {next : R.Step}
  {rest : List R.Step}

theorem step_eq (hcall : pool.calls[i]? = some running) (hrest : running.rest = next :: rest) :
    pool.step (i, answer) =
      some ⟨(R.perform answer next pool.state).2,
        pool.calls.set i (running.advance (R.perform answer next pool.state).1)⟩ := by
  simp only [Pool.step, hcall, hrest]

/-- What a step does. -/
theorem step_cases {event : Nat × R.Answer} (hstep : pool.step event = some after) :
    ∃ running next rest, pool.calls[event.1]? = some running ∧ running.rest = next :: rest ∧
      after =
        ⟨(R.perform event.2 next pool.state).2,
          pool.calls.set event.1 (running.advance (R.perform event.2 next pool.state).1)⟩ := by
  obtain ⟨i, answer⟩ := event
  cases hcall : pool.calls[i]? with
  | none => simp [Pool.step, hcall] at hstep
  | some running =>
    cases hrest : running.rest with
    | nil => simp [Pool.step, hcall, hrest] at hstep
    | cons next rest =>
      rw [step_eq hcall hrest] at hstep
      exact ⟨running, next, rest, rfl, hrest, (Option.some.inj hstep).symm⟩

/-- An assertion about the state and assertions about the calls hold of a pool. -/
def Holds (S : R.State → Prop) (C : R.State → Running R → Prop) (pool : Pool R) : Prop :=
  S pool.state ∧ ∀ running ∈ pool.calls, C pool.state running

/-- A step keeps the assertions about the state and its own call, and no other call minds it. -/
def Keeps (S : R.State → Prop) (C : R.State → Running R → Prop) : Prop :=
  ∀ state running next rest answer, S state → C state running → running.rest = next :: rest →
    S (R.perform answer next state).2 ∧
    C (R.perform answer next state).2 (running.advance (R.perform answer next state).1) ∧
    ∀ other, C state other → C (R.perform answer next state).2 other

/-- The rule for one step. -/
theorem Holds.step {S : R.State → Prop} {C : R.State → Running R → Prop} (hkeeps : Keeps S C)
    (hholds : pool.Holds S C) {event : Nat × R.Answer} (hstep : pool.step event = some after) :
    after.Holds S C := by
  obtain ⟨hstate, hcalls⟩ := hholds
  obtain ⟨running, next, rest, hcall, hrest, rfl⟩ := step_cases hstep
  obtain ⟨hstate', hown, hothers⟩ :=
    hkeeps pool.state running next rest event.2 hstate (hcalls _ (List.mem_of_getElem? hcall)) hrest
  refine ⟨hstate', fun other hother => ?_⟩
  rcases List.mem_or_eq_of_mem_set hother with hother | rfl
  · exact hothers other (hcalls other hother)
  · exact hown

/-- A call that is left alone is executed. -/
theorem exec_alone (hcall : pool.calls[i]? = some running) (answer : R.Answer) :
    ∃ n after last, exec Pool.step pool (List.replicate n (i, answer)) = some after ∧
      after.calls[i]? = some last ∧ last.rest = [] ∧
      after.state = (R.execute answer running.rest pool.state).2 ∧
      (running.result = .ok () → last.result = (R.execute answer running.rest pool.state).1) := by
  generalize hrest : running.rest = rest
  induction rest generalizing pool running with
  | nil => exact ⟨0, pool, running, rfl, hcall, hrest, rfl, fun hresult => hresult⟩
  | cons next rest ih =>
    have hstep : pool.step (i, answer) = _ := step_eq hcall hrest
    have hbound : i < pool.calls.length := (List.getElem?_eq_some_iff.mp hcall).1
    rw [Routines.execute]
    obtain ⟨result, state, hperform⟩ : ∃ result state, R.perform answer next pool.state = (result, state) :=
      ⟨_, _, rfl⟩
    rw [hperform] at hstep ⊢
    cases result with
    | ok =>
      have hafter : (⟨state, pool.calls.set i (running.advance (.ok ()))⟩ : Pool R).calls[i]? =
          some (running.advance (.ok ())) := List.getElem?_set_self hbound
      obtain ⟨n, after, last, hexec, hlast⟩ := ih hafter (by simp [Running.advance, hrest])
      exact ⟨n + 1, after, last, (exec_cons_of_step hstep).trans hexec, hlast⟩
    | error e =>
      exact ⟨1, _, _, exec_cons_of_step hstep, List.getElem?_set_self hbound, rfl, rfl, fun _ => rfl⟩

end Pool

end async
