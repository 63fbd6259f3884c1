import Voip.Client.Attempts

namespace voip_client.connection

open fallback

/-- The errors of a simultaneous open. -/
inductive ConnectError where
  | QuicError (error : String)
  | NetworkError (text : String)
  | QuicTimeout (timeout_ms : UInt64)
  deriving DecidableEq, Repr

/-- What the handle of a task gives: the result of the task, or a join error. -/
abbrev TaskResult := Except String (Except ConnectError Connection)

/-- A join error is reported as a network error. -/
def connect_result : TaskResult → Except ConnectError Connection
  | .ok result => result
  | .error e => .error (.NetworkError ("task error: " ++ e))

def Side.other : Side → Side
  | .accept => .connect
  | .connect => .accept

/-- How the tasks and the loop that waits for them interleave. The looks of the loop are the polls of
its `select!` and its calls of `is_finished`, in the order in which they are made. -/
structure Schedule where
  /-- whether a task has finished when the loop looks for the n-th time -/
  finished : Side → Nat → Bool
  lasting : ∀ side n, finished side n = true → finished side (n + 1) = true
  eventually : ∀ side, ∃ n, finished side n = true
  /-- the branch that the poll of `select!` tries first, if the n-th look is one -/
  polled_first : Nat → Side

/-- What a poll comes to. Polling a handle whose result has been taken is a panic. -/
inductive Poll where
  | ready (side : Side)
  | pending
  | panicked

namespace Schedule

def poll_handle (schedule : Schedule) (taken : Side → Bool) (look : Nat) (side : Side) : Poll :=
  if taken side then .panicked
  else if schedule.finished side look then .ready side
  else .pending

/-- `select!` takes the first branch that is ready. -/
def select (schedule : Schedule) (taken : Side → Bool) (look : Nat) : Poll :=
  match schedule.poll_handle taken look (schedule.polled_first look) with
  | .pending => schedule.poll_handle taken look (schedule.polled_first look).other
  | poll => poll

end Schedule

/-- How the race ends. -/
inductive Ending where
  | returned (result : Except ConnectError Connection)
  | panicked
  deriving DecidableEq

/-- The loop of `try_simultaneous_open_full`: the number of looks so far and the handles whose
results have been taken. The value that `last_error` starts with is never returned. -/
def race_loop (schedule : Schedule) (results : Side → TaskResult) : Nat → Nat → (Side → Bool) → Option Ending
  | 0, _, _ => none
  | fuel + 1, look, taken =>
    match schedule.select taken look with
    | .panicked => some .panicked
    | .pending => race_loop schedule results fuel (look + 1) taken
    | .ready side =>
      match connect_result (results side) with
      | .ok conn => some (.returned (.ok conn))
      | .error last_error =>
        if schedule.finished side.other (look + 1) then some (.returned (.error last_error))
        -- the look at both sides at the end of the loop
        else if schedule.finished .accept (look + 2) && schedule.finished .connect (look + 2) then
          some (.returned (.error last_error))
        else race_loop schedule results fuel (look + 3) fun s => taken s || s = side

/-- The race, for at most `fuel` polls. -/
def simultaneous_open_race (schedule : Schedule) (results : Side → TaskResult) (fuel : Nat) : Option Ending :=
  race_loop schedule results fuel 0 fun _ => false

/-- The n-th look is the first to find a task finished, and the poll takes its result. -/
def TakenFirst (schedule : Schedule) (n : Nat) (side : Side) : Prop :=
  (∀ m < n, ∀ s, schedule.finished s m = false) ∧ schedule.finished side n = true ∧
    (schedule.finished side.other n = true → schedule.polled_first n = side)

section

variable {schedule : Schedule} {results : Side → TaskResult} {n : Nat} {side : Side}

@[simp] theorem Side.other_other (side : Side) : side.other.other = side := by cases side <;> rfl

theorem Side.eq_or_eq_other (s side : Side) : s = side ∨ s = side.other := by
  cases s <;> cases side <;> simp [Side.other]

theorem exists_takenFirst (schedule : Schedule) : ∃ n side, TakenFirst schedule n side := by
  have hsome : ∃ n, ∃ s, schedule.finished s n = true := by
    obtain ⟨n, hn⟩ := schedule.eventually .accept
    exact ⟨n, .accept, hn⟩
  classical
  obtain ⟨s, hs⟩ := Nat.find_spec hsome
  have hbefore : ∀ m < Nat.find hsome, ∀ s, schedule.finished s m = false := by
    intro m hm s
    exact Bool.eq_false_iff.mpr fun hfinished => Nat.find_min hsome hm ⟨s, hfinished⟩
  -- if both have finished, the one that is polled first is taken
  cases hother : schedule.finished s.other (Nat.find hsome) with
  | false => exact ⟨_, s, hbefore, hs, fun h => absurd h (by simp [hother])⟩
  | true =>
    rcases Side.eq_or_eq_other (schedule.polled_first (Nat.find hsome)) s with hfirst | hfirst
    · exact ⟨_, s, hbefore, hs, fun _ => hfirst⟩
    · exact ⟨_, s.other, hbefore, hother, fun _ => hfirst⟩

/-- Nothing happens while no task has finished. -/
theorem race_loop_wait {look count : Nat}
    (hpending : ∀ m, look ≤ m → m < look + count → ∀ s, schedule.finished s m = false) (fuel : Nat) :
    race_loop schedule results (fuel + count) look (fun _ => false) =
      race_loop schedule results fuel (look + count) fun _ => false := by
  induction count generalizing look with
  | zero => rfl
  | succ count ih =>
    have hselect : schedule.select (fun _ => false) look = .pending := by
      simp [Schedule.select, Schedule.poll_handle, hpending look (Nat.le_refl _) (by omega)]
    rw [← Nat.add_assoc, race_loop, hselect]
    dsimp only
    rw [ih fun m hle hlt => hpending m (by omega) (by omega), Nat.add_right_comm, Nat.add_assoc]

/-- The poll that finds a task finished takes its result. -/
theorem select_of_takenFirst (hfirst : TakenFirst schedule n side) :
    schedule.select (fun _ => false) n = .ready side := by
  obtain ⟨-, hfinished, hpolled⟩ := hfirst
  rcases Side.eq_or_eq_other (schedule.polled_first n) side with hside | hother
  · simp [Schedule.select, Schedule.poll_handle, hside, hfinished]
  · have hpending : schedule.finished side.other n = false := by
      refine Bool.eq_false_iff.mpr fun hready => ?_
      rw [hpolled hready] at hother
      cases side <;> contradiction
    simp [Schedule.select, Schedule.poll_handle, hother, hpending, hfinished]

/-- The second `select!` finds the other task ready, or polls a handle that is used up. -/
theorem select_of_taken (look : Nat) :
    schedule.select (fun s => false || s = side) look =
      if schedule.polled_first look = side.other ∧ schedule.finished side.other look = true then .ready side.other
      else .panicked := by
  have hne : ¬side = side.other := by cases side <;> nofun
  have hne' : ¬side.other = side := fun h => hne h.symm
  rcases Side.eq_or_eq_other (schedule.polled_first look) side with hside | hother
  · simp [Schedule.select, Schedule.poll_handle, hside, hne]
  · cases hready : schedule.finished side.other look <;>
      simp [Schedule.select, Schedule.poll_handle, hother, hready, hne']

/-- More polls do not change how the race has ended. -/
theorem race_loop_mono {fuel look : Nat} {taken : Side → Bool} {ending : Ending}
    (hended : race_loop schedule results fuel look taken = some ending) (more : Nat) :
    race_loop schedule results (fuel + more) look taken = some ending := by
  induction fuel generalizing look taken with
  | zero => contradiction
  | succ fuel ih =>
    rw [Nat.add_right_comm]
    rw [race_loop] at hended ⊢
    cases hselect : schedule.select taken look with
    | panicked => simpa only [hselect] using hended
    | pending =>
      simp only [hselect] at hended ⊢
      exact ih hended
    | ready side =>
      simp only [hselect] at hended ⊢
      cases hresult : connect_result (results side) with
      | ok conn => simpa only [hresult] using hended
      | error last_error =>
        simp only [hresult] at hended ⊢
        split at hended
        next hother => rwa [if_pos hother]
        next hother =>
          rw [if_neg hother]
          split at hended
          next hboth => rwa [if_pos hboth]
          next hboth =>
            rw [if_neg hboth]
            exact ih hended

/-- A race has one ending. -/
theorem simultaneous_open_race_unique {fuel fuel' : Nat} {ending ending' : Ending}
    (hended : simultaneous_open_race schedule results fuel = some ending)
    (hended' : simultaneous_open_race schedule results fuel' = some ending') : ending = ending' := by
  have hmore := race_loop_mono hended fuel'
  rw [Nat.add_comm, race_loop_mono hended' fuel] at hmore
  exact (Option.some.inj hmore).symm

end

/-- The connection that a task has produced. -/
def produced (result : TaskResult) : Option Connection := (connect_result result).toOption

def Ending.outcome : Ending → Outcome Connection
  | .returned (.ok conn) => .ok conn
  | .returned (.error _) => .failed
  | .panicked => .panicked

/-- What is left of a schedule once the result of the first side has been taken. -/
def Schedule.race (schedule : Schedule) (n : Nat) (side : Side) : Race where
  first := side
  finished k := schedule.finished side.other (n + 1 + k)
  lasting k := schedule.lasting side.other (n + 1 + k)
  polls_other_first := schedule.polled_first (n + 3) = side.other
  begun := 0

section

variable {schedule : Schedule} {results : Side → TaskResult} {n : Nat} {side : Side}

theorem finished_of_le {m : Nat} (hfinished : schedule.finished side n = true) (hle : n ≤ m) :
    schedule.finished side m = true := by
  induction hle with
  | refl => exact hfinished
  | step _ ih => exact schedule.lasting side _ ih

/-- The end of the loop looks at both sides, but the one that has been taken has finished. -/
theorem both_finished_eq (hfinished : schedule.finished side n = true) :
    (schedule.finished .accept n && schedule.finished .connect n) = schedule.finished side.other n := by
  cases side <;> simp [Side.other, hfinished]

/-- The second round of the loop is its last. -/
theorem race_loop_taken {look : Nat} (hfinished : schedule.finished side look = true) :
    ∃ ending, race_loop schedule results 1 look (fun s => false || s = side) = some ending ∧
      ending.outcome =
        if schedule.polled_first look = side.other ∧ schedule.finished side.other look = true then
          .ofOption (produced (results side.other))
        else .panicked := by
  rw [race_loop, select_of_taken]
  by_cases hready : schedule.polled_first look = side.other ∧ schedule.finished side.other look = true
  · -- the side that was taken in the first round has finished, so an error ends the loop
    have hother : schedule.finished side.other.other (look + 1) = true := by
      rw [Side.other_other]
      exact schedule.lasting side look hfinished
    simp only [if_pos hready, produced]
    cases connect_result (results side.other) with
    | ok conn => exact ⟨_, rfl, rfl⟩
    | error last_error => exact ⟨_, if_pos hother, rfl⟩
  · simp only [if_neg hready]
    exact ⟨_, rfl, rfl⟩

/-- The loop ends in its second round at the latest, as the race of the fallback chain does. -/
theorem simultaneous_open_race_eq (results : Side → TaskResult) (hfirst : TakenFirst schedule n side) :
    ∃ ending, simultaneous_open_race schedule results (2 + n) = some ending ∧
      ending.outcome =
        select_loop (schedule.race n side) (produced (results side)) (produced (results side.other)) := by
  have hwait : race_loop schedule results (2 + n) 0 (fun _ => false) = _ :=
    race_loop_wait (fun m _ hm => hfirst.1 m (by omega)) 2
  rw [simultaneous_open_race, hwait, Nat.zero_add, race_loop, select_of_takenFirst hfirst]
  dsimp only
  cases hresult : connect_result (results side) with
  | ok conn =>
    have hsome : produced (results side) = some conn := by simp [produced, hresult, Except.toOption]
    rw [hsome]
    exact ⟨_, rfl, rfl⟩
  | error last_error =>
    dsimp only
    have hnone : produced (results side) = none := by simp [produced, hresult, Except.toOption]
    have hfinished (k : Nat) : schedule.finished side (n + k) = true :=
      finished_of_le hfirst.2.1 (Nat.le_add_right n k)
    rw [hnone, select_loop_of_none]
    simp only [both_finished_eq (hfinished 2), Schedule.race, Nat.add_assoc, Nat.reduceAdd]
    cases hother : schedule.finished side.other (n + 2) with
    | true => exact ⟨_, ite_self _, rfl⟩
    | false =>
      have hother' : schedule.finished side.other (n + 1) = false :=
        Bool.eq_false_iff.mpr fun h => by simp [schedule.lasting _ _ h] at hother
      simpa [hother'] using race_loop_taken (hfinished 3)

end

/-- The simultaneous open returns, and with a connection exactly when one of its tasks has
produced one. It does not return if it polls a handle again. -/
def LosesNoConnection (schedule : Schedule) (results : Side → TaskResult) : Prop :=
  ∃ fuel result, simultaneous_open_race schedule results fuel = some (.returned result) ∧
    (result.isOk ↔ ∃ side, (produced (results side)).isSome)

/-- The task that is taken at the n-th look has produced a connection, or the other one has
finished without one when the loop ends its first round, or it finishes between that and the second
`select!`, which polls it first. -/
def Schedule.SettlesAt (schedule : Schedule) (results : Side → TaskResult) (n : Nat) (side : Side) : Prop :=
  (produced (results side)).isSome ∨
    (schedule.finished side.other (n + 2) = true ∧ ¬ (produced (results side.other)).isSome) ∨
    (schedule.finished side.other (n + 2) = false ∧ schedule.polled_first (n + 3) = side.other ∧
      schedule.finished side.other (n + 3) = true)

theorem exists_produced_iff (results : Side → TaskResult) (side : Side) :
    (∃ s, (produced (results s)).isSome) ↔
      (produced (results side)).isSome ∨ (produced (results side.other)).isSome := by
  constructor
  · rintro ⟨s, hs⟩
    rcases Side.eq_or_eq_other s side with rfl | rfl
    · exact .inl hs
    · exact .inr hs
  · rintro (hs | hs)
    · exact ⟨_, hs⟩
    · exact ⟨_, hs⟩

theorem losesNoConnection_iff_settlesAt {schedule : Schedule} {n : Nat} {side : Side}
    (hfirst : TakenFirst schedule n side) (results : Side → TaskResult) :
    LosesNoConnection schedule results ↔ schedule.SettlesAt results n side := by
  obtain ⟨ending, hended, houtcome⟩ := simultaneous_open_race_eq results hfirst
  have hfits : LosesNoConnection schedule results ↔
      ending.outcome ≠ .panicked ∧ (ending.outcome = .failed ↔ ¬ ∃ s, (produced (results s)).isSome) := by
    constructor
    · rintro ⟨fuel, result, hreturned, hok⟩
      obtain rfl := simultaneous_open_race_unique hended hreturned
      rw [← hok]
      cases result <;> simp [Ending.outcome, Except.isOk, Except.toBool]
    · rintro ⟨hpanicked, hfailed⟩
      cases ending with
      | panicked => contradiction
      | returned result =>
        refine ⟨_, result, hended, ?_⟩
        rw [← not_iff_not, ← hfailed]
        cases result <;> simp [Ending.outcome, Except.isOk, Except.toBool]
  rw [hfits, houtcome, exists_produced_iff results side, Schedule.SettlesAt]
  refine (select_loop_fits_iff .inl fun hnone _ => by simp [hnone]).trans ?_
  simp [Schedule.race, Nat.add_assoc]

/-- No connection is lost exactly when the race settles. -/
theorem loses_no_connection_iff (schedule : Schedule) (results : Side → TaskResult) :
    LosesNoConnection schedule results ↔
      ∀ n side, TakenFirst schedule n side → schedule.SettlesAt results n side := by
  constructor
  · intro hloses n side hfirst
    exact (losesNoConnection_iff_settlesAt hfirst results).mp hloses
  · intro hsettles
    obtain ⟨n, side, hfirst⟩ := exists_takenFirst schedule
    exact (losesNoConnection_iff_settlesAt hfirst results).mpr (hsettles n side hfirst)

/-- The schedule in which the tasks finish just before the given looks and `select!` always polls
the accept task first. -/
def Schedule.of_looks (looks : Side → Nat) : Schedule where
  finished side n := decide (looks side ≤ n)
  lasting _ _ h := decide_eq_true (Nat.le_succ_of_le (of_decide_eq_true h))
  eventually side := ⟨looks side, decide_eq_true (Nat.le_refl _)⟩
  polled_first _ := .accept

/-- The first task fails and the second gets a connection. -/
def one_connection (failing : Side) : Side → TaskResult := fun side =>
  if side = failing then .ok (.error (.QuicTimeout 5000)) else .ok (.ok ⟨⟨.V4 0, 5004⟩⟩)

theorem exists_produced_one_connection (failing : Side) :
    ∃ side, (produced (one_connection failing side)).isSome := by
  cases failing with
  | accept => exact ⟨.connect, rfl⟩
  | connect => exact ⟨.accept, rfl⟩

/-- A connect task that fails while the accept task still waits makes the loop poll its handle
again. A connection that the connect task gets while the loop handles the error of the accept task
is lost. -/
theorem connection_lost :
    (let schedule := Schedule.of_looks fun side => if side = .connect then 0 else 10
     simultaneous_open_race schedule (one_connection .connect) 2 = some .panicked ∧
       ¬ LosesNoConnection schedule (one_connection .connect)) ∧
    (let schedule := Schedule.of_looks fun side => if side = .accept then 0 else 1
     simultaneous_open_race schedule (one_connection .accept) 1 = some (.returned (.error (.QuicTimeout 5000))) ∧
       ¬ LosesNoConnection schedule (one_connection .accept)) := by
  constructor
  · intro schedule
    have hended : simultaneous_open_race schedule (one_connection .connect) 2 = some .panicked := by decide
    refine ⟨hended, ?_⟩
    rintro ⟨fuel, result, hreturned, -⟩
    cases simultaneous_open_race_unique hended hreturned
  · intro schedule
    have hended : simultaneous_open_race schedule (one_connection .accept) 1 =
        some (.returned (.error (.QuicTimeout 5000))) := by decide
    refine ⟨hended, ?_⟩
    rintro ⟨fuel, result, hreturned, hok⟩
    injection simultaneous_open_race_unique hended hreturned with hresult
    rw [← hresult] at hok
    exact absurd (hok.mpr (exists_produced_one_connection .accept)) (by decide)

end voip_client.connection
