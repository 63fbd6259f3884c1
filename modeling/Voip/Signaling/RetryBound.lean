import Voip.Signaling.Reference
import Voip.Signaling.RetryLog

namespace voip_signaling.server

open async state session handlers wire voip_core.proto.signaling

/-- No call is ever retried. A task that may still send a `PushRetry` handles the only report
that its call has failed, and nothing has been emitted for that call yet. -/
structure Retrying (state : AppState) (past : List (String × SessionId)) (sys : System)
    (retries : Retries) : Prop where
  disciplined : Disciplined state sys
  unretried : Unretried sys.server
  sends_first : ∀ {role task}, sys.Runs role task →
    SendsFirst state role.actor (role.asked state) task sys.server
  all_but_one : ∀ {role task}, sys.Runs role task → task.AllButOne Silent
  asked : ∀ {role task}, sys.Runs role task → ¬ task.Uses Silent → ∃ s framed call_id,
    role = .handling s framed ∧ asked_call state framed = some call_id ∧ (call_id, s) ∈ past ∧
      retries call_id = []
  first : ∀ call_id, retries call_id = [] ∨ call_id ∈ past.map Prod.fst ∧
    state.config.push_retry_max_attempts ≠ 0 ∧ ∃ retry, retries call_id = [retry] ∧
      retry.retry_attempt = 1 ∧ retry.retry_after_ms = state.config.retry_delay_secs 1 * 1000 % 2 ^ 64

namespace Retrying

variable {state : AppState} {past : List (String × SessionId)} {sys next : System} {retries : Retries}
  {event : Event}

theorem init (rate_limits : rate_limit.RateLimitConfig) :
    Retrying state [] (System.init rate_limits state) fun _ => [] where
  disciplined := .init rate_limits
  unretried c call hcall := by simp [System.init, InnerState.new] at hcall
  sends_first {role} := by cases role <;> simp [System.init, System.Runs]
  all_but_one {role} := by cases role <;> simp [System.init, System.Runs]
  asked {role} := by cases role <;> simp [System.init, System.Runs]
  first call_id := .inl rfl

/-- What is emitted comes from the only task that may emit it. -/
theorem emitted_eq (hsys : Retrying state past sys retries) (hstep : server.step state sys event = some next)
    {call_id : String} (hemitted : emitted sys event call_id ≠ []) :
    ∃ s framed action, ∃ resume : action.Answer → Async Unit, event = .receive_loop s ∧
      sys.receive s = .handling framed (.act action resume) ∧ ¬ Silent action ∧
      asked_call state framed = some call_id ∧ (call_id, s) ∈ past ∧ retries call_id = [] ∧
      ∃ retry, emitted sys event call_id = [retry] ∧ retry.retry_attempt = 1 ∧
        retry.retry_after_ms = state.config.retry_delay_secs 1 * 1000 % 2 ^ 64 := by
  obtain ⟨retry, hretry⟩ := List.exists_mem_of_ne_nil _ hemitted
  obtain ⟨hfound, hid⟩ := List.mem_filter.mp hretry
  obtain ⟨message, hmessage, hread⟩ := List.mem_filterMap.mp hfound
  obtain ⟨sent, hsent, rfl⟩ := List.mem_map.mp hmessage
  obtain ⟨htype, hdecode⟩ := read_push_retry_eq_some hread
  cases hperforms : sys.performs event with
  | none => simp [hperforms] at hsent
  | some action =>
    simp only [hperforms, Option.elim_some] at hsent
    have hloud : ¬ Silent action := fun hsilent => Sends.of_mem hsilent hsent htype
    obtain ⟨role, resume, rfl, hrunning⟩ | ⟨r, pending, resume, rfl, hrunning, htask⟩ :=
      System.performs_eq_some hperforms
    · obtain ⟨s, framed, c, rfl, hasked, hpast, hnone⟩ := hsys.asked hrunning fun huses => hloud huses.1
      obtain ⟨answer, after, hexec, -⟩ := step_handling hrunning hstep
      obtain ⟨hsends, -⟩ := hsys.sends_first hrunning _ hsys.unretried answer after hexec
      obtain ⟨c', caller_id, callee_id, reason, hcall, hbuilt⟩ := Sends.of_mem hsends hsent htype
      obtain rfl : c = c' := Option.some.inj (hasked.symm.trans hcall)
      rw [hbuilt] at hdecode
      obtain ⟨hread_id, hattempt, hdelay⟩ := PushRetry.decode_encode_to_vec hdecode
      obtain rfl : c = call_id := hread_id.symm.trans (of_decide_eq_true hid)
      refine ⟨s, framed, action, resume, rfl, hrunning, hloud, hasked, hpast, hnone, retry, ?_, hattempt, ?_⟩
      · obtain ⟨only, honly⟩ := List.length_eq_one_iff.mp
          (Nat.le_antisymm (length_emitted_le ..) (List.length_pos_of_mem hretry))
        rw [honly] at hretry
        rw [honly, List.mem_singleton.mp hretry]
      · rw [hdelay, Nat.mod_mod]
    · have hserves := hsys.disciplined.serves hrunning
      rw [htask] at hserves
      rw [Serves.sends_eq_nil hserves.1] at hsent
      contradiction

private theorem sends_first_step (hsys : Retrying state past sys retries)
    (hmove : Move state sys event next) (hnext : Unretried next.server) {role : Role} {task : Async Unit}
    (hruns : next.Runs role task) :
    SendsFirst state role.actor (role.asked state) task next.server := by
  refine hmove.preserves (T := fun role task server =>
    SendsFirst state role.actor (role.asked state) task server) ?_ ?_ ?_ hruns
  · intro role task hstart _
    cases hstart with
    | message hidle hdecoded => exact receive_message_sends_first _ _
    | close hidle => exact .of_silent (cleanup_silent _) _
    | write_fails hwriting => exact .of_silent (cleanup_silent _) _
    | drained _ _ => exact .of_silent (cleanup_silent _) _
  · intro role action resume answer after _ hrunning hexec _
    obtain ⟨-, hrest⟩ := hsys.sends_first hrunning _ hsys.unretried answer after hexec
    exact hrest.interfere (fun _ _ _ _ h => h) hnext
  · intro role task hrunning _
    exact (hsys.sends_first hrunning).interfere (fun _ _ _ _ h => h) hnext

private theorem all_but_one_step (hsys : Retrying state past sys retries)
    (hmove : Move state sys event next) {role : Role} {task : Async Unit} (hruns : next.Runs role task) :
    task.AllButOne Silent := by
  refine hmove.preserves (T := fun _ task _ => task.AllButOne Silent) ?_ ?_ ?_ hruns
  · intro role task hstart _
    cases hstart with
    | message hidle hdecoded => exact receive_message_all_but_one
    | close hidle => exact .of_uses (cleanup_silent _)
    | write_fails hwriting => exact .of_uses (cleanup_silent _)
    | drained _ _ => exact .of_uses (cleanup_silent _)
  · exact fun _ hrunning _ _ => (hsys.all_but_one hrunning).resume _
  · exact fun hrunning _ => hsys.all_but_one hrunning

/-- A task that may send a `PushRetry` after a step was allowed to before, or has just started. -/
private theorem asked_step (hsys : Retrying state past sys retries) (hmove : Move state sys event next)
    (hnodup : ((past ++ (event.asks state).toList).map Prod.fst).Nodup) {role : Role} {task : Async Unit}
    (hruns : next.Runs role task) : task.Uses Silent ∨ ∃ s framed call_id, role = .handling s framed ∧
      asked_call state framed = some call_id ∧ (call_id, s) ∈ past ++ (event.asks state).toList ∧
      retries call_id = [] := by
  have hbefore {role task} (hrunning : sys.Runs role task) (hloud : ¬ task.Uses Silent) :
      ∃ s framed call_id, role = .handling s framed ∧ asked_call state framed = some call_id ∧
        (call_id, s) ∈ past ++ (event.asks state).toList ∧ retries call_id = [] := by
    obtain ⟨s, framed, call_id, hrole, hasked, hpast, hnone⟩ := hsys.asked hrunning hloud
    exact ⟨s, framed, call_id, hrole, hasked, List.mem_append_left _ hpast, hnone⟩
  refine hmove.preserves (T := fun role task _ => task.Uses Silent ∨ ∃ s framed call_id,
    role = .handling s framed ∧ asked_call state framed = some call_id ∧
      (call_id, s) ∈ past ++ (event.asks state).toList ∧ retries call_id = []) ?_ ?_ ?_ hruns
  · intro role task hstart _
    cases hstart with
    | @message s data framed hidle hdecoded =>
      cases hasked : asked_call state framed with
      | none => exact .inl (receive_message_silent hasked)
      | some call_id =>
        have hasks : (Event.message s data).asks state = some (call_id, s) := by
          simp [Event.asks, hdecoded, hasked]
        rw [hasks] at hnodup ⊢
        refine .inr ⟨s, framed, call_id, rfl, hasked, by simp, ?_⟩
        refine (hsys.first call_id).resolve_right fun hlisted => ?_
        rw [List.map_append] at hnodup
        exact List.disjoint_of_nodup_append hnodup hlisted.1 (List.mem_singleton_self call_id)
    | close hidle => exact .inl (cleanup_silent _)
    | write_fails hwriting => exact .inl (cleanup_silent _)
    | drained _ _ => exact .inl (cleanup_silent _)
  · intro role action resume answer after _ hrunning _ _
    refine or_iff_not_imp_left.mpr fun hloud => hbefore hrunning fun huses => hloud (huses.2 answer)
  · exact fun hrunning _ => or_iff_not_imp_left.mpr (hbefore hrunning)

/-- The task that emits for a call may not send another `PushRetry`, and no other one may. -/
private theorem emitted_eq_nil (hsys : Retrying state past sys retries)
    (hstep : server.step state sys event = some next)
    (hnodup : ((past ++ (event.asks state).toList).map Prod.fst).Nodup) {s : SessionId}
    {framed : FramedMessage} {task : Async Unit} {call_id : String}
    (hruns : next.receive s = .handling framed task) (hloud : ¬ task.Uses Silent)
    (hlisted : (call_id, s) ∈ past ++ (event.asks state).toList) : emitted sys event call_id = [] := by
  by_contra hemitted
  obtain ⟨s', framed', action, resume, rfl, hrunning, haction, -, hpast, -⟩ := hsys.emitted_eq hstep hemitted
  obtain ⟨answer, after, -, hnext⟩ := step_handling hrunning hstep
  obtain rfl : s = s' := by
    have heq := List.inj_on_of_nodup_map hnodup hlisted (List.mem_append_left _ hpast) rfl
    exact congrArg Prod.snd heq
  rw [hnext] at hruns
  obtain ⟨-, rfl⟩ := handled_eq_handling hruns
  have hruns' : sys.Runs (.handling s framed') (.act action resume) := hrunning
  exact hloud ((hsys.all_but_one hruns').uses_of_not haction answer)

/-- Every step after which no two reports name the same call keeps the invariant. -/
theorem step (hsys : Retrying state past sys retries) {after : System × Retries}
    (hafter : retries_step state (sys, retries) event = some after)
    (hnodup : ((past ++ (event.asks state).toList).map Prod.fst).Nodup) :
    Retrying state (past ++ (event.asks state).toList) after.1 after.2 := by
  obtain ⟨next, hstep, rfl⟩ := Option.map_eq_some_iff.mp hafter
  have hmove := move_of_step hstep
  have hnext := unretried_step hsys.disciplined hmove hsys.unretried
  refine ⟨hsys.disciplined.step hstep, hnext, sends_first_step hsys hmove hnext, all_but_one_step hsys hmove,
    ?_, ?_⟩
  · intro role task hruns hloud
    obtain ⟨s, framed, call_id, rfl, hasked, hlisted, hnone⟩ :=
      (asked_step hsys hmove hnodup hruns).resolve_left hloud
    refine ⟨s, framed, call_id, rfl, hasked, hlisted, ?_⟩
    dsimp only
    rw [hnone, emitted_eq_nil hsys hstep hnodup hruns hloud hlisted]
    exact ite_self _
  · intro call_id
    dsimp only
    split
    next =>
      by_cases hemitted : emitted sys event call_id = []
      · rw [hemitted, List.append_nil]
        obtain hnone | ⟨hlisted, hfirst⟩ := hsys.first call_id
        · exact .inl hnone
        · exact .inr ⟨by rw [List.map_append]; exact List.mem_append_left _ hlisted, hfirst⟩
      · obtain ⟨s, framed, action, resume, -, -, -, hasked, hpast, hnone, retry, heq, hfirst⟩ :=
          hsys.emitted_eq hstep hemitted
        rw [hnone, heq]
        refine .inr ⟨List.mem_map_of_mem (List.mem_append_left _ hpast), ?_, retry, rfl, hfirst⟩
        intro hmax
        simp [asked_call, hmax] at hasked
    next => exact .inl rfl

theorem bounded (hsys : Retrying state past sys retries) : BoundedRetries state retries := by
  intro call_id
  obtain hnone | ⟨-, hmax, retry, heq, hattempt, hdelay⟩ := hsys.first call_id
  · simp [hnone]
  · rw [heq]
    refine ⟨Nat.one_le_iff_ne_zero.mpr hmax, fun k found hfound => ?_⟩
    obtain ⟨rfl, rfl⟩ : k = 0 ∧ retry = found := by
      cases k with
      | zero => exact ⟨rfl, Option.some.inj hfound⟩
      | succ k => simp at hfound
    exact ⟨hattempt, hdelay⟩

theorem run (hsys : Retrying state past sys retries) {events : List Event}
    (hnodup : ((past ++ events.filterMap (Event.asks state)).map Prod.fst).Nodup) :
    Along (retries_step state) (fun _ _ after => BoundedRetries state after.2) (sys, retries) events := by
  induction events generalizing past sys retries with
  | nil => trivial
  | cons event events ih =>
    intro after hafter
    have hsplit : past ++ (event :: events).filterMap (Event.asks state) =
        (past ++ (event.asks state).toList) ++ events.filterMap (Event.asks state) := by
      cases hasks : event.asks state <;> simp [hasks]
    rw [hsplit] at hnodup
    have hstep : ((past ++ (event.asks state).toList).map Prod.fst).Nodup := by
      rw [List.map_append] at hnodup
      exact hnodup.of_append_left
    have hnext := hsys.step hafter hstep
    exact ⟨hnext.bounded, ih hnext hnodup⟩

end Retrying

theorem Event.map_fst_asks (state : AppState) (event : Event) : (event.asks state).map Prod.fst =
    if state.config.push_retry_max_attempts = 0 then none else retryable_failure state event := by
  cases event with
  | message s data =>
    simp only [Event.asks, retryable_failure, asked_call]
    cases FramedMessage.from_bytes data with
    | none => simp
    | some framed =>
      simp only [Option.bind_some]
      split
      · rfl
      · cases retryable_call state framed <;> rfl
  | _ => simp [Event.asks, retryable_failure]

/-- In every run in which clients report each call at most once as failed for a retryable
reason, and in every run of a server that allows no attempts, retries are bounded. -/
theorem bounded_retries_of_single_failures (state : AppState) (rate_limits : rate_limit.RateLimitConfig)
    (events : List Event)
    (hsingle : state.config.push_retry_max_attempts = 0 ∨
      (events.filterMap (retryable_failure state)).Nodup) :
    Along (retries_step state) (fun _ _ after => BoundedRetries state after.2)
      (System.init rate_limits state, fun _ => []) events := by
  refine (Retrying.init rate_limits).run ?_
  rw [List.nil_append, List.map_filterMap]
  by_cases hmax : state.config.push_retry_max_attempts = 0
  · simp [Event.map_fst_asks, hmax]
  · simpa [Event.map_fst_asks, hmax] using hsingle

/-- Alice calls bob, and then reports some number of times that no relay can be reached. -/
def alice_call_fails (reports : Nat) : List Event :=
  exchange 1 type_id.PEER_REGISTER (proto.string 1 "alice") 6 ++
    exchange 2 type_id.PEER_REGISTER (proto.string 1 "bob") 6 ++
    exchange 1 type_id.CALL_REQUEST_CS
      (proto.string 1 "call" ++ proto.string 2 "alice" ++ proto.string 3 "bob") 9 ++
    (List.replicate reports (exchange 1 type_id.CALL_FAILED (proto.string 1 "call" ++ proto.int 2 7) 11)).flatten

/-- The condition of the theorem is met when the failure is reported once. -/
theorem bounded_retries_of_single_report :
    Along (retries_step .reference) (fun _ _ after => BoundedRetries .reference after.2)
      (System.init .default .reference, fun _ => []) (alice_and_bob_connect ++ alice_call_fails 1) := by
  apply bounded_retries_of_single_failures
  decide +kernel

theorem retries_step_upgrade {state : AppState} {sys next : System} {s : SessionId} {token : String}
    (hstep : step state sys (.upgrade s token) = some next) :
    retries_step state (sys, fun _ => []) (.upgrade s token) = some (next, fun _ => []) := by
  simp [retries_step, hstep, emitted, System.sends, System.performs]

theorem exec_retries_alice_and_bob_connect (events : List Event) :
    async.exec (retries_step .reference) (.reference, fun _ => []) (alice_and_bob_connect ++ events) =
      async.exec (retries_step .reference) (.alice_and_bob, fun _ => []) events := by
  rw [alice_and_bob_connect, List.cons_append, exec_cons_of_step (retries_step_upgrade alice_connects)]
  rw [List.cons_append, exec_cons_of_step (retries_step_upgrade bob_connects)]
  rfl

/-- The second `PushRetry` for a call carries the number of the first attempt. -/
theorem not_bounded_retries_after_two_reports :
    ¬ Along (retries_step .reference) (fun _ _ after => BoundedRetries .reference after.2)
      (System.init .default .reference, fun _ => [])
      ((alice_and_bob_connect ++ (alice_call_fails 1 ++
        exchange 1 type_id.CALL_FAILED (proto.string 1 "call" ++ proto.int 2 7) 7)) ++ [.receive_loop 1]) := by
  refine Along.not_of_seen (fun _ after =>
    ((after.2 "call")[1]?.map PushRetry.retry_attempt) = some 1) ?_ ?_
  · intro before after hseen hbounded
    obtain ⟨retry, hretry, hattempt⟩ := Option.map_eq_some_iff.mp (of_decide_eq_true hseen)
    obtain ⟨hnumber, -⟩ := (hbounded "call").2 1 retry hretry
    simp [hattempt] at hnumber
  · have hconnect := exec_retries_alice_and_bob_connect (alice_call_fails 1 ++
      exchange 1 type_id.CALL_FAILED (proto.string 1 "call" ++ proto.int 2 7) 7)
    rw [show (System.init .default .reference, fun _ => []) = ((System.reference, fun _ => []) : System × Retries)
      from rfl, hconnect]
    decide +kernel

end voip_signaling.server
