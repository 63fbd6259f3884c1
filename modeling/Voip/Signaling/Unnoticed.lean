import Voip.Signaling.Concealment

namespace voip_signaling.server

open async state session handlers

variable {state : AppState} {p : String} {sys next other next' : System} {event : Event} {s : SessionId}

section Alike

variable {actor : Actor} {slot : Option (Async Unit)}

/-- Nobody else notices that a hidden task makes way for another. -/
theorem System.Alike.of_task (hactor : actor.session_id = some s) (hlike : sys.server.Like p next.server)
    (htask : next.task = Function.update sys.task actor slot) (hrequests : next.requests = sys.requests)
    (hbefore : ∀ task ∈ sys.task actor, Hidden p sys.server s task)
    (hafter : ∀ task ∈ slot, Hidden p sys.server s task) : sys.Alike p next where
  like := hlike
  tasks {actor' s'} hactor' := by
    rw [htask]
    by_cases heq : actor' = actor
    · subst heq
      cases hactor.symm.trans hactor'
      rw [Function.update_self]
      exact .inr ⟨hbefore, hafter⟩
    · rw [Function.update_of_ne heq]
      exact .refl _
  requests r := by
    rw [hrequests]
    exact .refl _

/-- Systems still look alike when the same task takes the same place in both. -/
theorem System.Alike.set_task (halike : sys.Alike p other) (hlike : next.server.Like p next'.server)
    (hstays : ∀ {s task}, Hidden p sys.server s task → Hidden p next.server s task)
    (htask : next.task = Function.update sys.task actor slot)
    (htask' : next'.task = Function.update other.task actor slot)
    (hrequests : next.requests = sys.requests) (hrequests' : next'.requests = other.requests) :
    next.Alike p next' where
  like := hlike
  tasks hactor := by
    rw [htask, htask']
    exact ((halike.tasks hactor).mono fun _ => hstays).update _ _
  requests r := by
    rw [hrequests, hrequests']
    exact halike.requests r

/-- Systems still look alike when the server changes alike in both. -/
theorem System.Alike.set_server (halike : sys.Alike p other) (hlike : next.server.Like p next'.server)
    (hstays : ∀ {s task}, Hidden p sys.server s task → Hidden p next.server s task)
    (htask : next.task = sys.task) (htask' : next'.task = other.task)
    (hrequests : next.requests = sys.requests) (hrequests' : next'.requests = other.requests) :
    next.Alike p next' where
  like := hlike
  tasks hactor := by
    rw [htask, htask']
    exact (halike.tasks hactor).mono fun _ => hstays
  requests r := by
    rw [hrequests, hrequests']
    exact halike.requests r

/-- Systems still look alike when the same request takes the same place in both. -/
theorem System.Alike.set_request (halike : sys.Alike p other) (r : Nat) (pending : Option Pending) :
    System.Alike p { sys with requests := Function.update sys.requests r pending }
      { other with requests := Function.update other.requests r pending } where
  like := halike.like
  tasks := halike.tasks
  requests r' := (halike.requests r').update r pending

/-- Systems still look alike when the same peer opens a session in both. -/
theorem System.Alike.open_session (halike : sys.Alike p other) (s : SessionId) (token peer_id : String) :
    (sys.open_session s token peer_id).Alike p (other.open_session s token peer_id) where
  like := by
    refine ⟨halike.like.now_secs, halike.like.instant, halike.like.same, fun s' => ?_⟩
    by_cases hs : s' = s
    · simp [System.open_session, Server.set_session, Server.set_channel, hs]
    · simpa [System.open_session, Server.set_session, Server.set_channel, hs] using halike.like.sessions s'
  tasks {actor s'} hactor := by
    by_cases hs : s' = s
    · subst hs
      have hnone (sys : System) : (sys.open_session s' token peer_id).task actor = none := by
        cases actor with
        | receive_loop s | forward_task s =>
          cases hactor
          simp [System.task, System.open_session, Receive.task, Forward.task]
        | request r => rfl
      rw [hnone, hnone]
      exact .refl _
    · have hsame (sys : System) : (sys.open_session s token peer_id).task actor = sys.task actor := by
        cases actor with
        | receive_loop s | forward_task s =>
          cases hactor
          simp [System.task, System.open_session, hs]
        | request r => rfl
      rw [hsame, hsame]
      refine (halike.tasks hactor).mono fun task hhidden session hsession => hhidden session ?_
      simpa [System.open_session, Server.set_session, Server.set_channel, hs] using hsession
  requests := halike.requests

end Alike

section Concealed

variable {actor : Actor}

theorem Performed.evicts_none (hcond : Separate state sys event) {action : session.Action}
    (hperforms : sys.performs event = some action) : action.evicts_none sys.server = true := by
  have hroom := hcond.evicts_none
  rw [server.evicts_none, hperforms] at hroom
  exact hroom

/-- Nobody else notices a step of a hidden task. -/
theorem Performed.alike (hperformed : Performed sys actor event next) (hsys : Attributed state sys)
    (hcond : Separate state sys event) (hactor : actor.session_id = some s)
    (hhidden : ∀ task ∈ sys.task actor, Hidden p sys.server s task) : sys.Alike p next := by
  cases hperformed with
  | @mk action resume answer server hbefore hperforms hdone htask hrequests hchannels =>
    obtain ⟨role, hruns, rfl⟩ := System.exists_role hactor hbefore
    obtain ⟨session, hsession⟩ := hsys.disciplined.session hruns
    have hroom := Performed.evicts_none hcond hperforms
    have hlike (hprivate : Private p sys.server action) : sys.server.Like p next.server := by
      have hdone := hprivate.like hroom hdone
      rw [hchannels]
      exact ⟨hdone.now_secs, hdone.instant, hdone.same, hdone.sessions⟩
    obtain hpeer | hquiet := hhidden _ hbefore session hsession
    · have howns : Owns p sys.server role.session := ⟨session, hsession, hpeer⟩
      have hprivate : Private p sys.server action := by
        obtain hincidental | hnamed := (hsys.tasks hruns hsession).action
        · exact Incidental.private hincidental
        · rw [hpeer] at hnamed
          refine InName.private hnamed fun s session' hs hsession' => ?_
          cases hs
          cases hsession.symm.trans hsession'
          exact hpeer
      exact .of_task hactor (hlike hprivate) htask hrequests hhidden fun task _ => howns.hidden task
    · refine .of_task hactor (hlike (hquiet.private hsession)) htask hrequests hhidden fun task hmem => ?_
      intro session' hsession'
      cases hsession.symm.trans hsession'
      rw [eq_of_mem_unfinished hmem]
      exact .inr (hquiet.resume hsession hdone)

private theorem handler_alike (hsys : Attributed state sys) {r : Nat} (hcond : Separate state sys (.handler r))
    (hconcealed : ∀ pending ∈ sys.requests r, pending.Hidden p)
    (hstep : step state sys (.handler r) = some next) : sys.Alike p next := by
  simp only [step] at hstep
  split at hstep
  next endpoint authorization auth action resume hrunning =>
    obtain ⟨⟨answer, server⟩, hdone, rfl⟩ := Option.map_eq_some_iff.mp hstep
    have hperforms : sys.performs (.handler r) = some action := by simp [System.performs, hrunning]
    have hnamed := hsys.requests hrunning
    have hhidden := hconcealed _ hrunning
    obtain ⟨hprivate, hrest⟩ : Private p sys.server action ∧
        Pending.Hidden p { endpoint, authorization, auth, task := resume answer } := by
      obtain hkey | huses := hhidden
      · unfold Pending.InName at hnamed
        simp only [hkey] at hnamed
        exact ⟨InName.private hnamed.1 (by simp), .inl hkey⟩
      · exact ⟨Incidental.private huses.1, .inr (huses.2 answer)⟩
    refine ⟨hprivate.like (Performed.evicts_none hcond hperforms) hdone, fun _ => .refl _, fun r' => ?_⟩
    by_cases hr : r' = r
    · subst hr
      refine .inr ⟨hconcealed, fun pending hpending => ?_⟩
      obtain rfl : _ = pending := by simpa using hpending
      exact hrest
    · dsimp only
      rw [Function.update_of_ne hr]
      exact .refl _
  next => contradiction

/-- Nobody else notices a hidden task that starts. -/
private theorem starts_alike {task : Async Unit} (hstarts : event.starts state = some (actor, task))
    (hstep : step state sys event = some next) (hactor : actor.session_id = some s)
    (hhidden : Hidden p sys.server s task) : sys.Alike p next := by
  obtain ⟨hidle, htask, hserver, hrequests⟩ := step_starts hstarts hstep
  refine .of_task hactor (hserver ▸ .refl _) htask hrequests (by simp [hidle]) fun task' hmem => ?_
  cases hmem
  exact hhidden

/-- Nobody else notices a concealed step. -/
theorem alike_of_concealed (hsys : Attributed state sys) (hcond : Separate state sys event)
    (hconcealed : Concealed p sys event) (hstep : step state sys event = some next) : sys.Alike p next := by
  cases event with
  | message s data =>
    cases hdecoded : FramedMessage.from_bytes data with
    | none =>
      rw [step_message_of_invalid hdecoded hstep]
      exact .refl sys
    | some framed =>
      exact starts_alike (starts_message hdecoded) hstep rfl (Owns.hidden hconcealed _)
  | close s | write_fails s | drained s =>
    exact starts_alike rfl hstep rfl (hconcealed.elim (Owns.hidden · _) hidden_of_disconnected)
  | receive_loop s => exact (performed_receive_loop hstep).alike hsys hcond rfl hconcealed
  | forward_task s => exact (performed_forward_task hstep).alike hsys hcond rfl hconcealed
  | take s =>
    simp only [step] at hstep
    split at hstep
    next message queue hforward hqueue =>
      cases hstep
      exact .of_task (show (Actor.forward_task s).session_id = some s from rfl)
        ⟨rfl, rfl, fun _ => .refl _, fun _ => rfl⟩ (System.task_of_forward rfl rfl) rfl
        (by simp [System.task, hforward, Forward.task]) (by simp [Forward.task])
    next => contradiction
  | wrote s =>
    simp only [step] at hstep
    split at hstep
    next message hwriting =>
      cases hstep
      exact .of_task (show (Actor.forward_task s).session_id = some s from rfl) (.refl _)
        (System.task_of_forward rfl rfl) rfl (by simp [System.task, hwriting, Forward.task])
        (by simp [Forward.task])
    next => contradiction
  | handler r => exact handler_alike hsys hcond hconcealed hstep
  | _ => exact hconcealed.elim

end Concealed

section Visible

variable {actor : Actor}

/-- A task that others notice performs the same action in both systems, with the same answer. -/
theorem Performed.alike_both (hperformed : Performed sys actor event next)
    (hperformed' : Performed other actor event next') (halike : sys.Alike p other)
    (hsys : Attributed state sys) (hcond : Separate state sys event) (hcond' : Separate state other event)
    (hactor : actor.session_id = some s)
    (hvisible : ¬ ∀ task ∈ sys.task actor, Hidden p sys.server s task) : next.Alike p next' := by
  cases hperformed with
  | @mk action resume answer server hbefore hperforms hdone htask hrequests hchannels =>
  cases hperformed' with
  | @mk action' resume' answer' server' hbefore' hperforms' hdone' htask' hrequests' hchannels' =>
    obtain ⟨role, hruns, rfl⟩ := System.exists_role hactor hbefore
    obtain ⟨session, hsession⟩ := hsys.disciplined.session hruns
    have hnot : ¬ Hidden p sys.server role.session (.act action resume) := by
      simpa [hbefore] using hvisible
    have hsame : other.task actor = some (.act action resume) := by
      have hagree := halike.tasks hactor
      rw [hbefore] at hagree
      exact hagree.eq_some hnot
    cases hbefore'.symm.trans hsame
    have hshown : ∀ session', sys.server.sessions role.session = some session' →
        session'.peer_id ≠ p ∧ ¬ Quiet role.session session'.disconnected (.act action resume) := by
      intro session' hsession'
      rw [← not_or]
      intro hhidden
      refine hnot fun session'' hsession'' => ?_
      cases hsession'.symm.trans hsession''
      exact hhidden
    obtain ⟨hpeer, hloud⟩ := hshown session hsession
    obtain huses | ⟨hnamed, -⟩ := hsys.tasks hruns hsession
    · exact absurd (.of_uses huses) hloud
    have hroom := Performed.evicts_none hcond hperforms
    have hroom' := Performed.evicts_none hcond' hperforms'
    have hown (s : SessionId) (session' : Session) (hs : some role.session = some s)
        (hsession' : sys.server.sessions s = some session') : session'.peer_id ≠ p := by
      cases hs
      exact (hshown session' hsession').1
    obtain rfl := InName.answer_eq hnamed hpeer hown halike.like hroom hroom' hdone hdone'
    have hlike := InName.like hnamed halike.like hroom hroom' hdone hdone'
    refine halike.set_task ?_ (fun {s task} hhidden => ?_) htask htask' hrequests hrequests'
    · rw [hchannels, hchannels']
      exact ⟨hlike.now_secs, hlike.instant, hlike.same, hlike.sessions⟩
    · have hstays := hhidden.after_exec hdone
      rw [hchannels]
      exact hstays

private theorem handler_alike_both (halike : sys.Alike p other) (hsys : Attributed state sys) {r : Nat}
    (hcond : Separate state sys (.handler r)) (hcond' : Separate state other (.handler r))
    (hvisible : ¬ ∀ pending ∈ sys.requests r, pending.Hidden p)
    (hstep : step state sys (.handler r) = some next)
    (hstep' : step state other (.handler r) = some next') : next.Alike p next' := by
  simp only [step] at hstep
  split at hstep
  next endpoint authorization auth action resume hrunning =>
    obtain ⟨⟨answer, server⟩, hdone, rfl⟩ := Option.map_eq_some_iff.mp hstep
    have hnot : ¬ Pending.Hidden p { endpoint, authorization, auth, task := .act action resume } := by
      simpa [hrunning] using hvisible
    have hsame : other.requests r = some { endpoint, authorization, auth, task := .act action resume } := by
      have hagree := halike.requests r
      rw [hrunning] at hagree
      exact hagree.eq_some hnot
    simp only [step, hsame] at hstep'
    obtain ⟨⟨answer', server'⟩, hdone', rfl⟩ := Option.map_eq_some_iff.mp hstep'
    have hperforms : sys.performs (.handler r) = some action := by simp [System.performs, hrunning]
    have hperforms' : other.performs (.handler r) = some action := by simp [System.performs, hsame]
    obtain ⟨hkey, hloud⟩ := not_or.mp hnot
    have hnamed := hsys.requests hrunning
    unfold Pending.InName at hnamed
    dsimp only at hnamed hkey
    split at hnamed
    next => exact absurd hnamed hloud
    next key heq =>
      have hne : key ≠ p := fun h => hkey (h ▸ heq)
      have hroom := Performed.evicts_none hcond hperforms
      have hroom' := Performed.evicts_none hcond' hperforms'
      obtain rfl := InName.answer_eq hnamed.1 hne (by simp) halike.like hroom hroom' hdone hdone'
      have hlike := InName.like hnamed.1 halike.like hroom hroom' hdone hdone'
      have hserved : System.Alike p { sys with server } { other with server := server' } :=
        halike.set_server hlike (fun hhidden => hhidden.after_exec hdone) rfl rfl rfl rfl
      exact hserved.set_request r _
  next => contradiction

private theorem upgrade_alike_both (halike : sys.Alike p other) {token : String}
    (hstep : step state sys (.upgrade s token) = some next)
    (hstep' : step state other (.upgrade s token) = some next') : next.Alike p next' := by
  simp only [step, halike.like.now_secs] at hstep hstep'
  split at hstep
  next => contradiction
  next hfresh =>
    split at hstep'
    next => contradiction
    next hfresh' =>
      split at hstep
      next hrefused =>
        simp only [hrefused] at hstep'
        cases hstep
        cases hstep'
        exact halike
      next claims hverified =>
        simp only [hverified] at hstep'
        cases hstep
        cases hstep'
        exact halike.open_session s token claims.sub

private theorem request_alike_both (halike : sys.Alike p other) {r : Nat} {endpoint : Endpoint}
    {authorization : Option wire.Bytes}
    (hstep : step state sys (.request r endpoint authorization) = some next)
    (hstep' : step state other (.request r endpoint authorization) = some next') : next.Alike p next' := by
  simp only [step, halike.like.now_secs] at hstep hstep'
  split at hstep
  next => contradiction
  next hfree =>
    split at hstep'
    next => contradiction
    next hfree' =>
      split at hstep
      next hrefused =>
        simp only [hrefused] at hstep'
        cases hstep
        cases hstep'
        exact halike
      next auth hpassed =>
        simp only [hpassed] at hstep'
        cases hstep
        cases hstep'
        exact halike.set_request r _

/-- A task that starts in both systems is the same in both. -/
private theorem starts_alike_both {task : Async Unit} (halike : sys.Alike p other)
    (hstarts : event.starts state = some (actor, task)) (hstep : step state sys event = some next)
    (hstep' : step state other event = some next') : next.Alike p next' := by
  obtain ⟨-, htask, hserver, hrequests⟩ := step_starts hstarts hstep
  obtain ⟨-, htask', hserver', hrequests'⟩ := step_starts hstarts hstep'
  refine halike.set_task ?_ (fun hhidden => ?_) htask htask' hrequests hrequests'
  · rw [hserver, hserver']
    exact halike.like
  · rw [hserver]
    exact hhidden

/-- A visible step changes systems that look alike in the same way. -/
theorem alike_of_visible (halike : sys.Alike p other) (hsys : Attributed state sys)
    (hcond : Separate state sys event) (hcond' : Separate state other event)
    (hvisible : ¬ Concealed p sys event) (hstep : step state sys event = some next)
    (hstep' : step state other event = some next') : next.Alike p next' := by
  cases event with
  | upgrade s token => exact upgrade_alike_both halike hstep hstep'
  | message s data =>
    cases hdecoded : FramedMessage.from_bytes data with
    | none =>
      rw [step_message_of_invalid hdecoded hstep, step_message_of_invalid hdecoded hstep']
      exact halike
    | some framed => exact starts_alike_both halike (starts_message hdecoded) hstep hstep'
  | close s | write_fails s | drained s => exact starts_alike_both halike rfl hstep hstep'
  | receive_loop s =>
    exact (performed_receive_loop hstep).alike_both (performed_receive_loop hstep') halike hsys hcond hcond'
      rfl hvisible
  | forward_task s =>
    exact (performed_forward_task hstep).alike_both (performed_forward_task hstep') halike hsys hcond hcond'
      rfl hvisible
  | take s | wrote s => exact absurd trivial hvisible
  | request r endpoint authorization => exact request_alike_both halike hstep hstep'
  | handler r => exact handler_alike_both halike hsys hcond hcond' hvisible hstep hstep'
  | cancel r =>
    cases hstep
    cases hstep'
    exact halike.set_request r none
  | add_proxy proxy =>
    cases hstep
    cases hstep'
    exact halike.set_server ⟨halike.like.now_secs, halike.like.instant,
      fun hq => ⟨(halike.like.same hq).config, (halike.like.same hq).bucket, (halike.like.same hq).entry⟩,
      halike.like.sessions⟩ id rfl rfl rfl rfl
  | set_clock secs =>
    cases hstep
    cases hstep'
    exact halike.set_server ⟨rfl, halike.like.instant, halike.like.same, halike.like.sessions⟩
      id rfl rfl rfl rfl
  | elapse nanos =>
    cases hstep
    cases hstep'
    exact halike.set_server ⟨halike.like.now_secs, congrArg (· + nanos) halike.like.instant,
      halike.like.same, halike.like.sessions⟩ id rfl rfl rfl rfl
  | cleanup =>
    cases hstep
    cases hstep'
    refine halike.set_server ⟨halike.like.now_secs, halike.like.instant, fun hq => ?_,
      halike.like.sessions⟩ id rfl rfl rfl rfl
    have hfits := cleanup_fits_cleanup hcond.cleanup_fits
    have hfits' := cleanup_fits_cleanup hcond'.cleanup_fits
    rw [halike.like.instant] at hfits'
    dsimp only
    rw [halike.like.instant]
    exact (halike.like.same hq).cleanup hfits hfits'

end Visible

end voip_signaling.server
