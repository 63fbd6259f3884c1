import Mathlib.Algebra.BigOperators.Group.List.Basic
import Mathlib.Algebra.Ring.Nat

namespace window

variable {α : Type} (time weight : α → Nat) (width : Nat)

/-- What the entries of a log weigh whose time lies in the window that begins at an instant. -/
def load (start : Nat) (log : List α) : Nat :=
  ((log.filter fun entry => start ≤ time entry ∧ time entry < start + width).map weight).sum

/-- The entries in any one window weigh at most so much. -/
def Bounded (bound : Nat) (log : List α) : Prop := ∀ start, load time weight width start log ≤ bound

/-- What the entries of a log weigh that come before an instant. -/
def before (instant : Nat) (log : List α) : Nat :=
  ((log.filter fun entry => time entry < instant).map weight).sum

variable {time weight width} {log : List α} {bound : Nat}

theorem load_nil (start : Nat) : load time weight width start [] = 0 := rfl

theorem load_cons (start : Nat) (entry : α) (log : List α) :
    load time weight width start (entry :: log) =
      (if start ≤ time entry ∧ time entry < start + width then weight entry else 0) +
        load time weight width start log := by
  simp only [load, List.filter_cons, decide_eq_true_eq]
  split
  next => rw [List.map_cons, List.sum_cons]
  next => rw [Nat.zero_add]

theorem before_cons (instant : Nat) (entry : α) (log : List α) :
    before time weight instant (entry :: log) =
      (if time entry < instant then weight entry else 0) + before time weight instant log := by
  simp only [before, List.filter_cons, decide_eq_true_eq]
  split
  next => rw [List.map_cons, List.sum_cons]
  next => rw [Nat.zero_add]

/-- What keeps to a bound has done so at any time before. -/
theorem Bounded.of_append {later : List α} (hbounded : Bounded time weight width bound (log ++ later)) :
    Bounded time weight width bound log := by
  intro start
  have hstart := hbounded start
  rw [load, List.filter_append, List.map_append, List.sum_append] at hstart
  exact (Nat.le_add_right _ _).trans hstart

theorem before_append_of_le {instant : Nat} {entry : α} (hlate : instant ≤ time entry) :
    before time weight instant (log ++ [entry]) = before time weight instant log := by
  rw [before, List.filter_append, List.filter_cons_of_neg (by simpa using hlate), List.filter_nil, List.append_nil,
    before]

/-- What comes before the end of a window comes before it or lies in it. -/
theorem before_add_width (instant : Nat) :
    before time weight (instant + width) log =
      before time weight instant log + load time weight width instant log := by
  induction log with
  | nil => rfl
  | cons entry log ih =>
    rw [before_cons, before_cons, load_cons, ih]
    split_ifs <;> omega

/-- Every further window adds at most the bound. -/
theorem Bounded.before_le (hbounded : Bounded time weight width bound log) (instant windows : Nat) :
    before time weight (instant + windows * width) log ≤ before time weight instant log + windows * bound := by
  induction windows with
  | zero => simp
  | succ windows ih =>
    have hlast := hbounded (instant + windows * width)
    have hsplit : before time weight (instant + windows * width + width) log = _ := before_add_width _
    rw [Nat.succ_mul, Nat.succ_mul, ← Nat.add_assoc, hsplit]
    omega

/-- Where each entry weighs 1, those before an instant are not more than all. -/
theorem before_le_length (instant : Nat) : before time (fun _ => 1) instant log ≤ log.length := by
  rw [before, List.map_const', List.sum_replicate, Nat.nsmul_eq_mul, Nat.mul_one]
  exact List.length_filter_le ..

theorem before_eq_length {instant : Nat} (hlog : ∀ entry ∈ log, time entry < instant) :
    before time (fun _ => 1) instant log = log.length := by
  rw [before, List.map_const', List.sum_replicate, Nat.nsmul_eq_mul, Nat.mul_one]
  exact congrArg List.length (List.filter_eq_self.mpr fun entry hentry => decide_eq_true (hlog entry hentry))

theorem load_eq_length {start : Nat} (hlog : ∀ entry ∈ log, start ≤ time entry ∧ time entry < start + width) :
    load time (fun _ => 1) width start log = log.length := by
  rw [load, List.map_const', List.sum_replicate, Nat.nsmul_eq_mul, Nat.mul_one]
  exact congrArg List.length (List.filter_eq_self.mpr fun entry hentry => decide_eq_true (hlog entry hentry))

end window
