import Voip.Client.Connection

namespace voip_client.connection

open wire fallback voip_core.config voip_core.types voip_core.proto.signaling

/-- All batches of a run belong to one stage. -/
def OfStage {α : Type} (stage : Stage) (run : Run Batch α) : Prop := ∀ batch ∈ run.batches, batch.stage = stage

theorem ofStage_skip {α : Type} {stage : Stage} : OfStage stage (.skip : Run Batch α) := by
  simp [OfStage]

/-- The attempts made in a stage. -/
def attempts_at (stage : Stage) (batches : List Batch) : List Attempt :=
  (batches.filter (·.stage = stage)).flatMap (·.attempts)

theorem attempts_at_append (stage : Stage) (batches more : List Batch) :
    attempts_at stage (batches ++ more) = attempts_at stage batches ++ attempts_at stage more := by
  simp [attempts_at]

theorem attempts_at_orElse_le {α : Type} (stage : Stage) (run next : Run Batch α) :
    (attempts_at stage (run.orElse next).batches).length ≤
      (attempts_at stage run.batches).length + (attempts_at stage next.batches).length := by
  obtain ⟨rest, hrest⟩ := run.orElse_batches_isPrefix next
  rw [← List.length_append, ← attempts_at_append, ← hrest, attempts_at_append, List.length_append]
  omega

theorem OfStage.attempts_at_eq_nil {α : Type} {stage other : Stage} {run : Run Batch α} (hrun : OfStage stage run)
    (hne : stage ≠ other) : attempts_at other run.batches = [] := by
  have hfilter : run.batches.filter (·.stage = other) = [] := by
    rw [List.filter_eq_nil_iff]
    intro batch hbatch
    simpa [hrun batch hbatch] using hne
  rw [attempts_at, hfilter, List.flatMap_nil]

/-- What another stage does first adds nothing to the attempts of a stage. -/
theorem OfStage.attempts_at_next_le {α : Type} {stage other : Stage} {run next : Run Batch α} {n : Nat}
    (hrun : OfStage other run) (hne : other ≠ stage) (hnext : (attempts_at stage next.batches).length ≤ n) :
    (attempts_at stage (run.orElse next).batches).length ≤ n := by
  refine (attempts_at_orElse_le stage run next).trans ?_
  rwa [hrun.attempts_at_eq_nil hne, List.length_nil, Nat.zero_add]

private theorem forall_mem_zipIdx_iff {ι : Type} (candidates : List ι) (start : Nat) (P : Nat → Prop) :
    (∀ entry ∈ candidates.zipIdx start, P entry.2) ↔ ∀ i < candidates.length, P (start + i) := by
  constructor
  · intro hall i hi
    exact hall (candidates[i], start + i) (List.mk_add_mem_zipIdx_iff_getElem?.mpr (List.getElem?_eq_getElem hi))
  · rintro hall ⟨candidate, i⟩ hmem
    obtain ⟨hstart, hi, -⟩ := List.mem_zipIdx hmem
    have hi := hall (i - start) (by omega)
    rwa [Nat.add_sub_cancel' hstart] at hi

section in_turn

variable {ι α : Type} {network : Network} {stage : Stage} {start : Nat} {candidates : List ι}
  {target : ι → Target} {wrap : ι → Connection → α}

theorem in_turn_batches_isPrefix :
    (in_turn network stage start candidates target wrap).batches <+:
      (candidates.zipIdx start).map fun (candidate, i) =>
        ⟨stage, [⟨target candidate, (network.connect stage i).conn⟩], List.cons_ne_nil _ _⟩ := by
  have hprefix := Run.firstOf_batches_isPrefix <| (candidates.zipIdx start).map fun (candidate, i) =>
    ((⟨stage, [⟨target candidate, (network.connect stage i).conn⟩], List.cons_ne_nil _ _⟩ : Batch),
      (network.connect stage i).conn.map (wrap candidate))
  rwa [List.map_map] at hprefix

theorem in_turn_ofStage : OfStage stage (in_turn network stage start candidates target wrap) := by
  intro batch hbatch
  have hmem := in_turn_batches_isPrefix.subset hbatch
  obtain ⟨candidate, -, rfl⟩ := List.mem_map.mp hmem
  rfl

theorem in_turn_honest : (in_turn network stage start candidates target wrap).Honest Batch.Won := by
  apply Run.honest_firstOf
  intro attempt hattempt
  obtain ⟨candidate, -, rfl⟩ := List.mem_map.mp hattempt
  simp [Batch.Won]

/-- One attempt is made for a candidate. -/
theorem attempts_at_in_turn_le :
    (attempts_at stage (in_turn network stage start candidates target wrap).batches).length ≤ candidates.length := by
  obtain ⟨rest, hrest⟩ : (in_turn network stage start candidates target wrap).batches <+: _ :=
    in_turn_batches_isPrefix
  have hall : (attempts_at stage ((candidates.zipIdx start).map fun (candidate, i) =>
      (⟨stage, [⟨target candidate, (network.connect stage i).conn⟩], List.cons_ne_nil _ _⟩ : Batch))).length =
        candidates.length := by
    simp [attempts_at, List.filter_map, List.length_flatMap, Function.comp_def]
  rw [← hrest, attempts_at_append, List.length_append] at hall
  omega

theorem in_turn_failed_iff :
    (in_turn network stage start candidates target wrap).outcome = .failed ↔
      ∀ i < candidates.length, (network.connect stage (start + i)).conn = none := by
  rw [in_turn, Run.firstOf_outcome_eq_failed]
  simp only [List.forall_mem_map, Option.map_eq_none_iff]
  exact forall_mem_zipIdx_iff candidates start fun i => (network.connect stage i).conn = none

theorem in_turn_ok {value : α} (hok : (in_turn network stage start candidates target wrap).outcome = .ok value) :
    ∃ candidate conn, value = wrap candidate conn := by
  obtain ⟨attempt, hattempt, hvalue⟩ := Run.firstOf_ok hok
  obtain ⟨⟨candidate, i⟩, -, rfl⟩ := List.mem_map.mp hattempt
  obtain ⟨conn, -, hvalue⟩ := Option.map_eq_some_iff.mp hvalue
  exact ⟨candidate, conn, hvalue.symm⟩

end in_turn

section at_once

variable {network : Network} {stage : Stage} {addrs : List SocketAddr}

theorem first_success_eq_none_iff (trials : List Trial) :
    first_success trials = none ↔ ∀ trial ∈ trials, trial.conn = none := by
  unfold first_success
  rw [Option.bind_eq_none_iff]
  constructor
  · intro hnone trial htrial
    by_contra hsome
    have hmem : trial ∈ trials.filter (·.conn.isSome) :=
      List.mem_filter.mpr ⟨htrial, Option.isSome_iff_ne_none.mpr hsome⟩
    obtain ⟨found, hfound⟩ := Option.ne_none_iff_exists'.mp
      (mt List.argmin_eq_none.mp (List.ne_nil_of_mem hmem) :
        (trials.filter (·.conn.isSome)).argmin (·.finished_at) ≠ none)
    have hwon := (List.mem_filter.mp (List.argmin_mem hfound)).2
    simp [hnone found hfound] at hwon
  · intro hnone found hfound
    exact hnone found (List.mem_filter.mp (List.argmin_mem hfound)).1

theorem at_once_ofStage : OfStage stage (at_once network stage addrs) := by
  unfold at_once
  split
  · exact ofStage_skip
  · simp [OfStage, Run.single]

theorem at_once_failed_iff :
    (at_once network stage addrs).outcome = .failed ↔
      ∀ i < addrs.length, (network.connect stage i).conn = none := by
  unfold at_once
  split
  next haddrs => simp [haddrs]
  next =>
    rw [Run.single_outcome_eq_failed, first_success_eq_none_iff, List.forall_mem_map]
    have hzip := forall_mem_zipIdx_iff addrs 0 fun i => (network.connect stage i).conn = none
    simpa only [Nat.zero_add] using hzip

theorem at_once_honest : (at_once network stage addrs).Honest Batch.Won := by
  unfold at_once
  split
  · exact Run.honest_skip
  · apply Run.honest_single
    rw [Option.isSome_iff_ne_none, ne_eq, first_success_eq_none_iff, Batch.Won]
    simp [Option.isSome_iff_ne_none]

end at_once

section simultaneous_open

variable (network : Network) (peer_addrs : List SocketAddr)

/-- The race ends as its tasks did: the side that is taken first has a connection, or it has none
and the other side has finished without one, or is found ready by a second `select!` that polls
it first. -/
def Race.Settles (race : Race) (accepted connected : Prop) : Prop :=
  let (first, other) := match race.first with
    | .accept => (accepted, connected)
    | .connect => (connected, accepted)
  first ∨ (race.finished 1 = true ∧ ¬ other) ∨
    (race.finished 1 = false ∧ race.polls_other_first = true ∧ race.finished 2 = true)

/-- Some address of the peer answers during the simultaneous open. -/
def Connected : Prop :=
  ∃ i < peer_addrs.length, (network.connect .SimultaneousOpen i).conn.isSome

theorem select_loop_of_none (race : Race) (other : Option Connection) :
    select_loop race none other =
      if race.finished 1 then .failed
      else if race.polls_other_first && race.finished 2 then .ofOption other
      else .panicked := by
  unfold select_loop
  cases hlooked : race.finished 0 with
  | true => simp [race.lasting 0 hlooked]
  | false => simp

/-- What the loop gives fits what its tasks got exactly when the race settles. Only a race that is
over needs to have seen the result of the other side. -/
theorem select_loop_fits_iff {race : Race} {first other : Option Connection} {won : Prop}
    (hfirst : first.isSome → won)
    (hother : first = none → race.finished 1 = true ∨ (race.polls_other_first && race.finished 2) = true →
      (won ↔ other.isSome)) :
    (select_loop race first other ≠ .panicked ∧ (select_loop race first other = .failed ↔ ¬ won)) ↔
      (first.isSome ∨ (race.finished 1 = true ∧ ¬ other.isSome) ∨
        (race.finished 1 = false ∧ race.polls_other_first = true ∧ race.finished 2 = true)) := by
  cases first with
  | some conn => simpa [select_loop] using hfirst rfl
  | none =>
    rw [select_loop_of_none]
    cases hfinished : race.finished 1 with
    | true => simp [hother rfl (.inl hfinished)]
    | false =>
      cases hready : race.polls_other_first && race.finished 2 with
      | true =>
        have hwon := hother rfl (.inr hready)
        rw [Bool.and_eq_true] at hready
        cases other <;> simp_all [Outcome.ofOption]
      | false =>
        rw [Bool.and_eq_false_imp] at hready
        simpa using hready

/-- A loop that settles fails exactly if neither side has a connection. -/
theorem select_loop_failed_iff {race : Race} {first other : Option Connection}
    (hsettles : first.isSome ∨ (race.finished 1 = true ∧ ¬ other.isSome) ∨
      (race.finished 1 = false ∧ race.polls_other_first = true ∧ race.finished 2 = true)) :
    select_loop race first other = .failed ↔ first = none ∧ other = none := by
  cases first with
  | some conn => simp [select_loop]
  | none =>
    rw [select_loop_of_none]
    rcases hsettles with hsome | ⟨hfinished, hnone⟩ | ⟨hfinished, hpolls, hready⟩
    · contradiction
    · simpa [hfinished] using hnone
    · cases other <;> simp [hfinished, hpolls, hready, Outcome.ofOption]

theorem connect_task_failed_iff :
    (connect_task network peer_addrs).outcome = .failed ↔ ¬ Connected network peer_addrs := by
  rw [connect_task, in_turn_failed_iff, Connected]
  simp [Option.isSome_iff_ne_none]

theorem connect_task_honest : (connect_task network peer_addrs).Honest Batch.Won := in_turn_honest

theorem connect_task_isSome_iff :
    (connect_task network peer_addrs).outcome.toOption.isSome ↔ Connected network peer_addrs := by
  have hfailed := connect_task_failed_iff network peer_addrs
  have hpanicked := (connect_task_honest network peer_addrs).not_panicked
  cases hout : (connect_task network peer_addrs).outcome <;> simp_all [Outcome.toOption]

/-- An attempt of a connect task that has finished succeeds exactly when the task does. -/
theorem exists_connect_won_iff (hfinished : connect_finished network = true) :
    (∃ attempt ∈ connects_made network peer_addrs, attempt.conn.isSome) ↔ Connected network peer_addrs := by
  have hwon := (connect_task_honest network peer_addrs).exists_won_iff
  rw [ne_eq, connect_task_failed_iff, not_not] at hwon
  rw [← hwon, connects_made, if_pos hfinished]
  simp only [List.mem_flatMap, Batch.Won]
  exact ⟨fun ⟨attempt, ⟨batch, hbatch, hattempt⟩, hsome⟩ => ⟨batch, hbatch, attempt, hattempt, hsome⟩,
    fun ⟨batch, hbatch, attempt, hattempt, hsome⟩ => ⟨attempt, ⟨batch, hbatch, hattempt⟩, hsome⟩⟩

theorem try_simultaneous_open_full_honest_iff :
    (try_simultaneous_open_full network peer_addrs).Honest Batch.Won ↔
      network.race.Settles network.accept.isSome (Connected network peer_addrs) := by
  rw [Run.honest_of_batches_singleton (show (try_simultaneous_open_full network peer_addrs).batches = [_] from rfl)]
  have hconnected := connect_task_isSome_iff network peer_addrs
  have hconnects := exists_connect_won_iff network peer_addrs
  unfold try_simultaneous_open_full Race.Settles Batch.Won
  simp only [List.exists_mem_cons_iff, ← hconnected] at hconnects ⊢
  cases hside : network.race.first with
  | accept =>
    refine select_loop_fits_iff .inl fun hnone hover => ?_
    have hfinished : connect_finished network = true := by
      rcases hover with hover | hover <;> simp [connect_finished, hnone, hover]
    simp only [hnone, Option.isSome_none, Bool.false_eq_true, false_or, hconnects hfinished]
  | connect =>
    have hfinished : connect_finished network = true := by simp [connect_finished, hside]
    rw [hconnects hfinished]
    exact select_loop_fits_iff .inr fun hnone _ => by simp [hnone]

theorem try_simultaneous_open_full_failed_iff
    (hsettles : network.race.Settles network.accept.isSome (Connected network peer_addrs)) :
    (try_simultaneous_open_full network peer_addrs).outcome = .failed ↔
      network.accept = none ∧ ¬ Connected network peer_addrs := by
  have hconnected := connect_task_isSome_iff network peer_addrs
  unfold Race.Settles at hsettles
  rw [← hconnected] at hsettles ⊢
  rw [Option.not_isSome_iff_eq_none]
  unfold try_simultaneous_open_full
  cases hside : network.race.first with
  | accept =>
    rw [hside] at hsettles
    exact select_loop_failed_iff hsettles
  | connect =>
    rw [hside] at hsettles
    exact (select_loop_failed_iff hsettles).trans and_comm

end simultaneous_open

end voip_client.connection
