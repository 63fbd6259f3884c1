import Voip.Client.SessionCalls

namespace voip_client.moq

open wire async

section

variable {replace : Bytes → String}

def Step.is_write : Step → Bool
  | .write .. => true
  | _ => false

/-- The call has returned, or it is a `close` that has begun, or a handshake that has its message still
to write. -/
def Settled (running : Running (session_calls replace)) : Prop :=
  running.rest = [] ∨ (running.call = .close ∧ running.rest ≠ Call.close.code replace) ∨
    (running.call ≠ .close ∧ running.rest.any Step.is_write = true)

/-- What a step leaves behind for good. -/
def Step.Done (self : SharedSession) : Step → Prop
  | .store_send => self.control_send = true
  | .store_recv => self.control_recv = true
  | .close_connection => self.connection_closed = true
  | _ => True

/-- What a call that has not returned has left behind is there. -/
def Performed (self : SharedSession) (running : Running (session_calls replace)) : Prop :=
  running.rest = [] ∨ ∀ step ∈ running.call.code replace, step ∈ running.rest ∨ step.Done self

theorem done_perform_of_done (transport : Transport) (step : Step) {self : SharedSession} {other : Step}
    (hdone : other.Done self) : other.Done (step.perform transport self).2 := by
  cases other with
  | store_send | store_recv | close_connection =>
    fun_cases Step.perform transport step self <;> first | exact hdone | rfl
  | _ => trivial

theorem done_perform (transport : Transport) (step : Step) (self : SharedSession) :
    step.Done (step.perform transport self).2 := by
  cases step with
  | store_send | store_recv | close_connection => rfl
  | _ => trivial

/-- Only the second write of `close` closes a session. -/
theorem perform_closed {transport : Transport} {step : Step} {self : SharedSession}
    (hclosed : (step.perform transport self).2.state = .Closed) :
    self.state = .Closed ∨ step = .set_state .Closed := by
  revert hclosed
  fun_cases Step.perform transport step self with
  | case2 => nofun
  | case13 state => exact fun hclosed => .inr (congrArg Step.set_state hclosed)
  | _ => exact .inl

/-- A session that is closed has a closed connection. -/
def HangsUp (self : SharedSession) : Prop := self.state = .Closed → self.connection_closed = true

theorem rest_of_set_closed {running : Running (session_calls replace)} {rest : List Step}
    (hrest : running.rest = .set_state .Closed :: rest) : running.call = .close ∧ rest = [] := by
  have hsuffix := running.suffix
  cases hcall : running.call with
  | setup | accept => simp [hrest, hcall, Call.code, List.suffix_cons_iff] at hsuffix
  | close => exact ⟨rfl, by simpa [hrest, hcall, Call.code, List.suffix_cons_iff] using hsuffix⟩

theorem keeps_performed : Pool.Keeps (R := session_calls replace) HangsUp Performed := by
  intro self running next rest transport hangs hperformed hrest
  have hleft := hperformed.resolve_left (by simp [hrest])
  refine ⟨fun hclosed => ?_, ?_, fun other hother => hother.imp_right fun hall step hstep =>
    (hall step hstep).imp_right (done_perform_of_done transport next)⟩
  · rcases perform_closed hclosed with hbefore | rfl
    · exact @done_perform_of_done transport next self .close_connection (hangs hbefore)
    · obtain ⟨hcall, rfl⟩ := rest_of_set_closed hrest
      have hdone := (hleft .close_connection (by simp [hcall, Call.code])).resolve_left (by simp [hrest])
      exact hdone
  · cases hresult : ((session_calls replace).perform transport next self).1 with
    | error e => exact .inl rfl
    | ok =>
      refine .inr fun step hstep => ?_
      rcases hleft step hstep with hlater | hdone
      · rcases List.mem_cons.mp (hrest ▸ hlater) with rfl | hlater
        · exact .inr (done_perform transport step self)
        · exact .inl (by simpa [Running.advance, hrest] using hlater)
      · exact .inr (done_perform_of_done transport next hdone)

theorem perform_of_not_set {self : SharedSession} {next : Step} (transport : Transport)
    (hclosed : self.state = .Closed) (hnext : ∀ state, next ≠ .set_state state) :
    (next.perform transport self).2.state = .Closed := by
  fun_cases Step.perform transport next self with
  | case2 hidle => simp [hclosed] at hidle
  | case13 state => exact absurd rfl (hnext state)
  | _ => exact hclosed

/-- Once the connection is closed, a handshake that has its message still to write does not get beyond
that. -/
theorem perform_of_handshake {self : SharedSession} {call : Call} {next : Step} {rest : List Step}
    (transport : Transport) (hclosed : self.state = .Closed) (hconnection : self.connection_closed = true)
    (hcall : call ≠ .close) (hsuffix : next :: rest <:+ call.code replace)
    (hleft : ∀ step ∈ call.code replace, step ∈ next :: rest ∨ step.Done self)
    (hwrite : (next :: rest).any Step.is_write = true) :
    (next.perform transport self).2.state = .Closed ∧
      ((next.perform transport self).1 = .ok () → rest.any Step.is_write = true) := by
  refine ⟨perform_of_not_set transport hclosed fun state hset => ?_, fun hok => ?_⟩
  · -- the state is set behind the write
    subst hset
    cases call with
    | close => contradiction
    | setup | accept =>
      obtain ⟨-, rfl⟩ : state = .Active ∧ rest = [] := by
        simpa [Call.code, List.suffix_cons_iff] using hsuffix
      simp [Step.is_write] at hwrite
  · by_contra hlater
    have hnext : next.is_write = true := by simpa [hlater] using hwrite
    cases next with
    | write name message =>
      have hsend : self.control_send = true := by
        cases call with
        | close => contradiction
        | setup | accept =>
          refine (hleft .store_send (by simp [Call.code])).resolve_left ?_
          simp [Call.code, List.suffix_cons_iff] at hsuffix
          simp [hsuffix]
      simp [Step.perform, hsend, hconnection] at hok
    | _ => contradiction

/-- A `close` that has begun does not set the state of a closed session to anything else. -/
theorem perform_of_close {self : SharedSession} {next : Step} {rest : List Step} (transport : Transport)
    (hclosed : self.state = .Closed) (hsuffix : next :: rest <:+ Call.close.code replace)
    (hbegun : next :: rest ≠ Call.close.code replace) : (next.perform transport self).2.state = .Closed := by
  simp only [Call.code, List.suffix_cons_iff, List.suffix_nil, List.cons.injEq, reduceCtorEq, or_false] at hsuffix
  rcases hsuffix with ⟨rfl, rfl⟩ | ⟨rfl, rfl⟩ | ⟨rfl, rfl⟩
  · contradiction
  · exact hclosed
  · rfl

/-- No step of a settled call changes the state of a closed session. -/
theorem settled_step {self : SharedSession} {running : Running (session_calls replace)} {next : Step}
    {rest : List Step} (transport : Transport) (hclosed : self.state = .Closed) (hangs : HangsUp self)
    (hperformed : Performed self running) (hsettled : Settled running) (hrest : running.rest = next :: rest) :
    (next.perform transport self).2.state = .Closed ∧ Settled (running.advance (next.perform transport self).1) := by
  have hsuffix := running.suffix
  have hleft := hperformed.resolve_left (by simp [hrest])
  have hadvance : (running.advance (.ok ())).rest = rest := by simp [Running.advance, hrest]
  rcases hsettled.resolve_left (by simp [hrest]) with ⟨hcall, hbegun⟩ | ⟨hcall, hwrite⟩
  · rw [hrest] at hbegun hsuffix
    rw [hcall] at hsuffix
    refine ⟨perform_of_close transport hclosed hsuffix hbegun, ?_⟩
    cases (next.perform transport self).1 with
    | error e => exact .inl rfl
    | ok =>
      refine .inr (.inl ⟨hcall, fun hall => ?_⟩)
      have hless : (next :: rest).length ≤ (Call.close.code replace).length := hsuffix.length_le
      rw [← hall, hadvance, List.length_cons] at hless
      omega
  · rw [hrest] at hleft hwrite hsuffix
    obtain ⟨hstate, hlater⟩ :=
      perform_of_handshake transport hclosed (hangs hclosed) hcall hsuffix hleft hwrite
    refine ⟨hstate, ?_⟩
    cases hresult : (next.perform transport self).1 with
    | error e => exact .inl rfl
    | ok => exact .inr (.inr ⟨hcall, hadvance ▸ hlater hresult⟩)

theorem keeps_closed :
    Pool.Keeps (R := session_calls replace) (fun self => HangsUp self ∧ self.state = .Closed)
      fun self running => Performed self running ∧ Settled running := by
  intro self running next rest transport ⟨hangs, hclosed⟩ ⟨hperformed, hsettled⟩ hrest
  obtain ⟨hangs', hperformed', hothers⟩ := keeps_performed self running next rest transport hangs hperformed hrest
  obtain ⟨hclosed', hsettled'⟩ := settled_step transport hclosed hangs hperformed hsettled hrest
  exact ⟨⟨hangs', hclosed'⟩, ⟨hperformed', hsettled'⟩, fun other hother => ⟨hothers other hother.1, hother.2⟩⟩

/-- A call that is about to close the session finds all calls settled. -/
def ClosesLast (pool : Pool (session_calls replace)) (event : Nat × Transport) : Prop :=
  ∀ running, pool.calls[event.1]? = some running → running.rest.head? = some (.set_state .Closed) →
    ∀ other ∈ pool.calls, Settled other

/-- What holds of a session at any time if calls close it last. -/
structure Sealed (pool : Pool (session_calls replace)) : Prop where
  performed : pool.Holds HangsUp Performed
  settled : pool.state.state = .Closed → ∀ running ∈ pool.calls, Settled running

theorem Sealed.holds {pool : Pool (session_calls replace)} (hsealed : Sealed pool)
    (hclosed : pool.state.state = .Closed) :
    pool.Holds (fun (self : SharedSession) => HangsUp self ∧ self.state = .Closed) fun self running =>
      Performed self running ∧ Settled running :=
  ⟨⟨hsealed.performed.1, hclosed⟩, fun running hrunning =>
    ⟨hsealed.performed.2 running hrunning, hsealed.settled hclosed running hrunning⟩⟩

theorem Sealed.step {pool after : Pool (session_calls replace)} {event : Nat × Transport}
    (hsealed : Sealed pool) (hlast : ClosesLast pool event) (hstep : pool.step event = some after) :
    (pool.state.state = .Closed → after.state.state = .Closed) ∧ Sealed after := by
  have hperformed := hsealed.performed.step keeps_performed hstep
  by_cases hclosed : pool.state.state = .Closed
  · obtain ⟨hstate, hcalls⟩ := (hsealed.holds hclosed).step keeps_closed hstep
    exact ⟨fun _ => hstate.2, hperformed, fun _ running hrunning => (hcalls running hrunning).2⟩
  · refine ⟨fun h => absurd h hclosed, hperformed, fun hafter => ?_⟩
    obtain ⟨running, next, rest, hcall, hrest, rfl⟩ := Pool.step_cases hstep
    obtain rfl := (perform_closed hafter).resolve_left hclosed
    have hcalls := hlast running hcall (by simp [hrest])
    obtain ⟨-, rfl⟩ := rest_of_set_closed hrest
    intro other hother
    rcases List.mem_or_eq_of_mem_set hother with hother | rfl
    · exact hcalls other hother
    · exact .inl (by simp [Step.perform, Running.advance, hrest])

/-- A new session with the calls that are made on it. -/
def session_pool (replace : Bytes → String) (calls : List Call) : Pool (session_calls replace) :=
  .start .new calls

theorem performed_start (calls : List Call) : (session_pool replace calls).Holds HangsUp Performed := by
  refine ⟨nofun, fun running hrunning => ?_⟩
  obtain ⟨call, -, rfl⟩ := List.mem_map.mp hrunning
  exact .inr fun step hstep => .inl hstep

/-- The step does not change the state of a closed session. -/
def StaysClosed (pool : Pool (session_calls replace)) (_ : Nat × Transport) (after : Pool (session_calls replace)) :
    Prop :=
  pool.state.state = .Closed → after.state.state = .Closed

/-- A closed session stays closed if calls close it last. -/
theorem stays_closed (replace : Bytes → String) (calls : List Call) (events : List (Nat × Transport))
    (hlast : Along Pool.step (fun pool event _ => ClosesLast pool event) (session_pool replace calls) events) :
    Along Pool.step StaysClosed (session_pool replace calls) events := by
  have hinit : Sealed (session_pool replace calls) := ⟨performed_start calls, nofun⟩
  exact Along.of_invariant (fun pool event after hsealed hcloses hstep => hsealed.step hcloses hstep) hinit hlast

/-- A transport that brings every handshake to its end. -/
def agreeing (call : Call) : Transport where
  stream := .ok ()
  write := .ok ()
  read := .bytes (if call = .setup then server_setup_bytes else ClientSetup.voip_default.encode)

/-- A setup that waits for its stream when the session is closed fails. -/
theorem stays_closed_of_refused :
    Along Pool.step StaysClosed (session_pool (fun _ => "") [.setup, .close])
      [(0, agreeing .setup), (1, agreeing .close), (1, agreeing .close), (1, agreeing .close),
        (0, agreeing .setup)] := by
  refine stays_closed _ _ _ ((along_cons_of_step rfl).mpr ⟨?_, (along_cons_of_step rfl).mpr ⟨?_,
    (along_cons_of_step rfl).mpr ⟨?_, (along_cons_of_step rfl).mpr ⟨?_,
      (along_cons_of_step rfl).mpr ⟨?_, trivial⟩⟩⟩⟩⟩)
  case refine_4 =>
    intro _ _ _ other hother
    rcases List.mem_cons.mp hother with rfl | hother
    · exact .inr (.inr ⟨nofun, rfl⟩)
    · obtain rfl := List.mem_singleton.mp hother
      exact .inr (.inl ⟨rfl, nofun⟩)
  all_goals
    intro running hcall hhead
    obtain rfl := Option.some.inj hcall
    cases hhead

instance (pool after : Pool (session_calls replace)) (event : Nat × Transport) :
    Decidable (StaysClosed pool event after) :=
  inferInstanceAs (Decidable (_ → _))

/-- The calls that bring a handshake up to its last write, close the session and let the handshake
go on. -/
def late_handshake (call : Call) : List (Nat × Transport) :=
  List.replicate 6 (0, agreeing call) ++ List.replicate 3 (1, agreeing .close) ++ [(0, agreeing call)]

/-- A handshake that has its last write to make when the session is closed reopens it, and so does
a second `close`, if only for a moment. -/
theorem closed_reopened :
    ((exec Pool.step (session_pool (fun _ => "") [.setup, .close]) (late_handshake .setup)).map (·.state.state) =
        some .Active ∧
      ¬ Along Pool.step StaysClosed (session_pool (fun _ => "") [.setup, .close]) (late_handshake .setup)) ∧
    ((exec Pool.step (session_pool (fun _ => "") [.accept, .close]) (late_handshake .accept)).map (·.state.state) =
        some .Active ∧
      ¬ Along Pool.step StaysClosed (session_pool (fun _ => "") [.accept, .close]) (late_handshake .accept)) ∧
    ¬ Along Pool.step StaysClosed (session_pool (fun _ => "") [.close, .close])
      (List.replicate 3 (0, agreeing .close) ++ [(1, agreeing .close)]) := by
  decide

/-- A handshake that has no message to write any more gets to `Active`, if the answer of the peer has
arrived. -/
theorem execute_of_written {self : SharedSession} {call : Call} {rest : List Step} (hcall : call ≠ .close)
    (hsuffix : rest <:+ call.code replace) (hrest : rest ≠ [])
    (hleft : ∀ step ∈ call.code replace, step ∈ rest ∨ step.Done self)
    (hwritten : rest.any Step.is_write = false) :
    ((session_calls replace).execute (agreeing call) rest self).2.state = .Active := by
  have hcases : rest = [.set_state .Active] ∨ call = .setup ∧
      rest = [.read "SERVER_SETUP" (check_server_setup replace), .set_state .Active] := by
    cases call with
    | close => contradiction
    | setup | accept =>
      simp only [Call.code, List.suffix_cons_iff, List.suffix_nil, hrest, or_false] at hsuffix
      rcases hsuffix with rfl | rfl | rfl | rfl | rfl | rfl | rfl <;> simp [Step.is_write] at hwritten ⊢
  rcases hcases with rfl | ⟨rfl, rfl⟩
  · rfl
  · have hrecv : self.control_recv = true := (hleft .store_recv (by simp [Call.code])).resolve_left (by simp)
    have hread : (session_calls replace).perform (agreeing .setup)
        (.read "SERVER_SETUP" (check_server_setup replace)) self = (.ok (), self) := if_pos hrecv
    rw [Routines.execute_cons hread]
    rfl

/-- A call that is not settled can change the state of a closed session. -/
theorem exists_reopening {pool : Pool (session_calls replace)} {running : Running (session_calls replace)}
    (hrunning : running ∈ pool.calls) (hperformed : Performed pool.state running) (hunsettled : ¬ Settled running) :
    ∃ later after, exec Pool.step pool later = some after ∧ after.state.state ≠ .Closed := by
  obtain ⟨i, hcall⟩ := List.getElem?_of_mem hrunning
  simp only [Settled, not_or, not_and, not_not, Bool.not_eq_true] at hunsettled
  obtain ⟨hunder, hbegun, hwritten⟩ := hunsettled
  by_cases hclose : running.call = .close
  · exact ⟨[(i, agreeing .close)], _, exec_cons_of_step (Pool.step_eq hcall (hbegun hclose)),
      show SessionState.Closing ≠ .Closed by decide⟩
  · obtain ⟨n, after, -, hexec, -, -, hstate, -⟩ := Pool.exec_alone hcall (agreeing running.call)
    refine ⟨_, after, hexec, ?_⟩
    rw [hstate, execute_of_written hclose running.suffix hunder (hperformed.resolve_left hunder) (hwritten hclose)]
    decide

/-- A session is closed for good exactly when all calls are settled. -/
theorem closed_for_good_iff {calls : List Call} {events : List (Nat × Transport)}
    {pool : Pool (session_calls replace)} (hexec : exec Pool.step (session_pool replace calls) events = some pool)
    (hclosed : pool.state.state = .Closed) :
    (∀ later after, exec Pool.step pool later = some after → after.state.state = .Closed) ↔
      ∀ running ∈ pool.calls, Settled running := by
  have hperformed : pool.Holds HangsUp Performed :=
    exec_invariant (fun _ _ _ hholds hstep => Pool.Holds.step keeps_performed hholds hstep) (performed_start calls)
      hexec
  constructor
  · intro hgood running hrunning
    by_contra hunsettled
    obtain ⟨later, after, hlater, hreopened⟩ :=
      exists_reopening hrunning (hperformed.2 running hrunning) hunsettled
    exact hreopened (hgood later after hlater)
  · intro hsettled later after hlater
    have hsealed : Sealed pool := ⟨hperformed, fun _ => hsettled⟩
    exact (exec_invariant (fun _ _ _ hholds hstep => Pool.Holds.step keeps_closed hholds hstep)
      (hsealed.holds hclosed) hlater).1.2

/-- A setup that waits for its stream when the session is closed never opens it. -/
theorem closed_for_good_before_stream :
    ∃ pool, exec Pool.step (session_pool (fun _ => "") [.setup, .close])
        ((0, agreeing .setup) :: List.replicate 3 (1, agreeing .close)) = some pool ∧
      ∀ later after, exec Pool.step pool later = some after → after.state.state = .Closed := by
  refine ⟨_, rfl, (@closed_for_good_iff _ [.setup, .close]
    ((0, agreeing .setup) :: List.replicate 3 (1, agreeing .close)) _ rfl rfl).mpr ?_⟩
  intro running hrunning
  rcases List.mem_cons.mp hrunning with rfl | hrunning
  · exact .inr (.inr ⟨nofun, rfl⟩)
  · obtain rfl := List.mem_singleton.mp hrunning
    exact .inl rfl

end

end voip_client.moq
