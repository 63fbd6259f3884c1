import Mathlib.Data.List.Infix

namespace fallback

/-- How a method of a fallback chain ends. -/
inductive Outcome (α : Type) where
  | ok (value : α)
  | failed
  | panicked
  deriving DecidableEq

def Outcome.ofOption {α : Type} : Option α → Outcome α
  | some value => .ok value
  | none => .failed

def Outcome.toOption {α : Type} : Outcome α → Option α
  | .ok value => some value
  | .failed | .panicked => none

def Outcome.map {α γ : Type} (f : α → γ) : Outcome α → Outcome γ
  | .ok value => .ok (f value)
  | .failed => .failed
  | .panicked => .panicked

/-- What a method tries, batch after batch, and how it ends. The attempts of one batch run at
the same time. -/
structure Run (β α : Type) where
  batches : List β
  outcome : Outcome α
  deriving DecidableEq

namespace Run

variable {β α γ : Type}

def skip : Run β α := ⟨[], .failed⟩

/-- A method that panics before it tries anything. -/
def panic : Run β α := ⟨[], .panicked⟩

def single (batch : β) (result : Option α) : Run β α := ⟨[batch], .ofOption result⟩

def map (f : α → γ) (run : Run β α) : Run β γ := ⟨run.batches, run.outcome.map f⟩

/-- Goes on with the next method if this one has failed. -/
def orElse (run next : Run β α) : Run β α :=
  match run.outcome with
  | .failed => ⟨run.batches ++ next.batches, next.outcome⟩
  | .ok _ | .panicked => run

/-- Makes one attempt after the other until one succeeds. -/
def firstOf : List (β × Option α) → Run β α
  | [] => skip
  | (batch, result) :: rest => (single batch result).orElse (firstOf rest)

/-- The run stops with its first success, and fails only if nothing succeeded. -/
def Honest (won : β → Prop) (run : Run β α) : Prop :=
  match run.outcome with
  | .ok _ => ∃ before last, run.batches = before ++ [last] ∧ (∀ batch ∈ before, ¬ won batch) ∧ won last
  | .failed => ∀ batch ∈ run.batches, ¬ won batch
  | .panicked => False

/-- The ranks of the batches never go down, and start at `k` or above. -/
structure OrderedFrom (rank : β → Nat) (k : Nat) (run : Run β α) : Prop where
  ordered : run.batches.Pairwise fun earlier later => rank earlier ≤ rank later
  from_ : ∀ batch ∈ run.batches, k ≤ rank batch

variable {run next : Run β α} {won : β → Prop} {rank : β → Nat}

@[simp] theorem map_batches (f : α → γ) (run : Run β α) : (run.map f).batches = run.batches := rfl

theorem map_outcome_eq_failed (f : α → γ) (run : Run β α) :
    (run.map f).outcome = .failed ↔ run.outcome = .failed := by
  unfold map
  cases run.outcome <;> simp [Outcome.map]

theorem honest_map (f : α → γ) (run : Run β α) : (run.map f).Honest won ↔ run.Honest won := by
  unfold map Honest
  cases run.outcome <;> rfl

theorem map_ok {f : α → γ} {run : Run β α} {value : γ} (hok : (run.map f).outcome = .ok value) :
    ∃ found, value = f found := by
  unfold map at hok
  cases hout : run.outcome with
  | ok found => exact ⟨found, by simpa [hout, Outcome.map] using hok.symm⟩
  | failed => simp [hout, Outcome.map] at hok
  | panicked => simp [hout, Outcome.map] at hok

@[simp] theorem skip_batches : (skip : Run β α).batches = [] := rfl

@[simp] theorem skip_outcome : (skip : Run β α).outcome = .failed := rfl

theorem single_outcome_eq_failed {batch : β} {result : Option α} :
    (single batch result).outcome = .failed ↔ result = none := by
  cases result <;> simp [single, Outcome.ofOption]

theorem orElse_of_failed (hrun : run.outcome = .failed) :
    run.orElse next = ⟨run.batches ++ next.batches, next.outcome⟩ := by
  simp only [orElse, hrun]

theorem orElse_of_ne_failed (hrun : run.outcome ≠ .failed) : run.orElse next = run := by
  unfold orElse
  cases hout : run.outcome with
  | failed => exact absurd hout hrun
  | ok value => rfl
  | panicked => rfl

@[simp] theorem skip_orElse : skip.orElse next = next := rfl

theorem orElse_batches_isPrefix (run next : Run β α) :
    (run.orElse next).batches <+: run.batches ++ next.batches := by
  by_cases hrun : run.outcome = .failed
  · rw [orElse_of_failed hrun]
  · rw [orElse_of_ne_failed hrun]
    exact List.prefix_append _ _

/-- What holds of the batches of both methods holds of those of the chain. -/
theorem forall_mem_orElse {P : β → Prop} (hrun : ∀ batch ∈ run.batches, P batch)
    (hnext : ∀ batch ∈ next.batches, P batch) : ∀ batch ∈ (run.orElse next).batches, P batch :=
  fun batch hbatch => List.forall_mem_append.mpr ⟨hrun, hnext⟩ batch
    ((orElse_batches_isPrefix run next).subset hbatch)

theorem orElse_batches_ne_nil (hrun : run.batches ≠ []) : (run.orElse next).batches ≠ [] := by
  by_cases hfailed : run.outcome = .failed
  · rw [orElse_of_failed hfailed]
    exact List.append_ne_nil_of_left_ne_nil hrun _
  · rwa [orElse_of_ne_failed hfailed]

/-- The first batch of a chain, if a method that tries nothing does not end the chain. -/
theorem orElse_batches_head? (hrun : run.batches = [] → run.outcome = .failed) :
    (run.orElse next).batches.head? = run.batches.head?.or next.batches.head? := by
  by_cases hfailed : run.outcome = .failed
  · rw [orElse_of_failed hfailed, List.head?_append]
  · rw [orElse_of_ne_failed hfailed]
    obtain ⟨batch, rest, hbatches⟩ := List.exists_cons_of_ne_nil (mt hrun hfailed)
    simp [hbatches]

theorem orElse_failed_iff :
    (run.orElse next).outcome = .failed ↔ run.outcome = .failed ∧ next.outcome = .failed := by
  by_cases hrun : run.outcome = .failed
  · rw [orElse_of_failed hrun]
    exact (and_iff_right hrun).symm
  · rw [orElse_of_ne_failed hrun]
    exact iff_of_false hrun fun hboth => hrun hboth.1

theorem orElse_ok {value : α} (hok : (run.orElse next).outcome = .ok value) :
    run.outcome = .ok value ∨ next.outcome = .ok value := by
  by_cases hrun : run.outcome = .failed
  · rw [orElse_of_failed hrun] at hok
    exact .inr hok
  · rw [orElse_of_ne_failed hrun] at hok
    exact .inl hok

theorem OrderedFrom.of_eq {k : Nat} (hrun : ∀ batch ∈ run.batches, rank batch = k) : run.OrderedFrom rank k where
  ordered := List.pairwise_of_forall_mem_list fun a ha b hb => ((hrun a ha).trans (hrun b hb).symm).le
  from_ batch hbatch := (hrun batch hbatch).ge

theorem OrderedFrom.orElse {j k : Nat} (hrun : ∀ batch ∈ run.batches, rank batch = j)
    (hnext : next.OrderedFrom rank k) (hjk : j ≤ k) : (run.orElse next).OrderedFrom rank j := by
  by_cases hfailed : run.outcome = .failed
  · rw [orElse_of_failed hfailed]
    have hrun' := OrderedFrom.of_eq hrun
    refine ⟨List.pairwise_append.mpr ⟨hrun'.ordered, hnext.ordered, fun a ha b hb => ?_⟩,
      List.forall_mem_append.mpr ⟨hrun'.from_, fun batch hbatch => hjk.trans (hnext.from_ batch hbatch)⟩⟩
    exact (hrun a ha).le.trans (hjk.trans (hnext.from_ b hb))
  · rw [orElse_of_ne_failed hfailed]
    exact .of_eq hrun

theorem Honest.not_panicked (hrun : run.Honest won) : run.outcome ≠ .panicked := by
  intro hout
  simp [Honest, hout] at hrun

theorem Honest.failed_of_batches_eq_nil (hrun : run.Honest won) (hnil : run.batches = []) :
    run.outcome = .failed := by
  unfold Honest at hrun
  cases hout : run.outcome with
  | failed => rfl
  | panicked => simp [hout] at hrun
  | ok value => simp [hout, hnil] at hrun

/-- An honest run that ends fails exactly when none of its batches won. -/
theorem Honest.exists_won_iff (hrun : run.Honest won) :
    (∃ batch ∈ run.batches, won batch) ↔ run.outcome ≠ .failed := by
  unfold Honest at hrun
  cases hout : run.outcome with
  | failed => simpa [hout] using hrun
  | panicked => simp [hout] at hrun
  | ok value =>
    simp only [hout] at hrun
    obtain ⟨before, last, hbatches, -, hwon⟩ := hrun
    exact iff_of_true ⟨last, by simp [hbatches], hwon⟩ (by simp)

/-- After a method that has failed honestly, the chain is as honest as its continuation. -/
theorem Honest.orElse_iff (hrun : run.Honest won) (hfailed : run.outcome = .failed) :
    (run.orElse next).Honest won ↔ next.Honest won := by
  rw [orElse_of_failed hfailed]
  simp only [Honest, hfailed] at hrun ⊢
  cases next.outcome with
  | failed => exact List.forall_mem_append.trans (and_iff_right hrun)
  | panicked => rfl
  | ok value =>
    constructor
    · rintro ⟨before, last, hbatches, hbefore, hlast⟩
      rcases List.eq_nil_or_concat' next.batches with hnil | ⟨init, last', hnext⟩
      · have hmem : last ∈ run.batches := by
          simp [show run.batches = before ++ [last] by simpa [hnil] using hbatches]
        exact absurd hlast (hrun last hmem)
      · rw [hnext, ← List.append_assoc] at hbatches
        obtain ⟨hinit, hlast'⟩ := List.append_inj' hbatches rfl
        refine ⟨init, last', hnext, fun batch hbatch => hbefore batch (hinit ▸ List.mem_append_right _ hbatch), ?_⟩
        rwa [List.singleton_inj.mp hlast']
    · rintro ⟨before, last, hbatches, hbefore, hlast⟩
      exact ⟨run.batches ++ before, last, by rw [hbatches, List.append_assoc],
        List.forall_mem_append.mpr ⟨hrun, hbefore⟩, hlast⟩

theorem Honest.orElse (hrun : run.Honest won) (hnext : run.outcome = .failed → next.Honest won) :
    (run.orElse next).Honest won := by
  by_cases hfailed : run.outcome = .failed
  · exact (hrun.orElse_iff hfailed).mpr (hnext hfailed)
  · rwa [orElse_of_ne_failed hfailed]

/-- A continuation that is honest or panics does not hide that the first method was not. -/
theorem Honest.of_orElse (hnext : next.outcome ≠ .panicked → next.Honest won)
    (hchain : (run.orElse next).Honest won) : run.Honest won := by
  by_cases hfailed : run.outcome = .failed
  · rw [orElse_of_failed hfailed] at hchain
    replace hnext := hnext fun hpanicked => hchain.not_panicked hpanicked
    simp only [Honest, hfailed] at hchain hnext ⊢
    intro batch hbatch hwon
    cases hout : next.outcome with
    | failed =>
      simp only [hout] at hchain
      exact hchain batch (List.mem_append_left _ hbatch) hwon
    | ok value =>
      simp only [hout] at hchain hnext
      obtain ⟨before, last, hchain, hbefore, -⟩ := hchain
      obtain ⟨before', last', hbatches, -, -⟩ := hnext
      rw [hbatches, ← List.append_assoc] at hchain
      obtain ⟨hinit, -⟩ := List.append_inj' hchain rfl
      exact hbefore batch (hinit ▸ List.mem_append_left _ hbatch) hwon
    | panicked => simp only [hout] at hnext
  · rwa [orElse_of_ne_failed hfailed] at hchain

theorem honest_skip : (skip : Run β α).Honest won := by
  simp [Honest]

/-- A run of one batch is honest if it succeeds exactly when the batch does. -/
theorem honest_of_batches_singleton {batch : β} (hbatches : run.batches = [batch]) :
    run.Honest won ↔ run.outcome ≠ .panicked ∧ (run.outcome = .failed ↔ ¬ won batch) := by
  unfold Honest
  cases run.outcome with
  | ok value =>
    simp only [hbatches, reduceCtorEq, ne_eq, not_false_eq_true, false_iff, not_not, true_and]
    constructor
    · rintro ⟨before, last, hlast, -, hwon⟩
      have heq : [batch] = [last] := (List.append_inj' (show [] ++ [batch] = _ from hlast) rfl).2
      rwa [List.singleton_inj.mp heq]
    · exact fun hwon => ⟨[], batch, rfl, by simp, hwon⟩
  | failed => simp [hbatches]
  | panicked => simp

theorem honest_single {batch : β} {result : Option α} (hwon : won batch ↔ result.isSome) :
    (single batch result).Honest won := by
  rw [honest_of_batches_singleton (show (single batch result).batches = [batch] from rfl)]
  cases result <;> simp_all [single, Outcome.ofOption]

theorem honest_firstOf {attempts : List (β × Option α)}
    (hwon : ∀ attempt ∈ attempts, (won attempt.1 ↔ attempt.2.isSome)) : (firstOf attempts).Honest won := by
  induction attempts with
  | nil => exact honest_skip
  | cons attempt rest ih =>
    rw [List.forall_mem_cons] at hwon
    exact (honest_single hwon.1).orElse fun _ => ih hwon.2

/-- No attempt is made that is not listed, and each at most once. -/
theorem firstOf_batches_isPrefix (attempts : List (β × Option α)) :
    (firstOf attempts).batches <+: attempts.map Prod.fst := by
  induction attempts with
  | nil => exact List.prefix_rfl
  | cons attempt rest ih =>
    obtain ⟨batch, result⟩ := attempt
    cases result with
    | none => exact (List.prefix_cons_inj batch).mpr ih
    | some value => exact ⟨_, rfl⟩

theorem firstOf_batches_eq_nil {attempts : List (β × Option α)} :
    (firstOf attempts).batches = [] ↔ attempts = [] := by
  cases attempts with
  | nil => simp [firstOf]
  | cons attempt rest =>
    obtain ⟨batch, result⟩ := attempt
    cases result <;> simp [firstOf, single, Outcome.ofOption, orElse]

theorem firstOf_outcome_eq_failed (attempts : List (β × Option α)) :
    (firstOf attempts).outcome = .failed ↔ ∀ attempt ∈ attempts, attempt.2 = none := by
  induction attempts with
  | nil => simp [firstOf]
  | cons attempt rest ih =>
    obtain ⟨batch, result⟩ := attempt
    cases result with
    | none => simpa [firstOf, single, Outcome.ofOption, orElse] using ih
    | some value => simp [firstOf, single, Outcome.ofOption, orElse]

theorem firstOf_ok {attempts : List (β × Option α)} {value : α} (hok : (firstOf attempts).outcome = .ok value) :
    ∃ attempt ∈ attempts, attempt.2 = some value := by
  induction attempts with
  | nil => simp [firstOf] at hok
  | cons attempt rest ih =>
    obtain ⟨batch, result⟩ := attempt
    cases result with
    | none =>
      obtain ⟨attempt, hattempt, hvalue⟩ := ih hok
      exact ⟨attempt, List.mem_cons_of_mem _ hattempt, hvalue⟩
    | some found =>
      cases hok
      exact ⟨(batch, some value), List.mem_cons_self, rfl⟩

end Run

end fallback
