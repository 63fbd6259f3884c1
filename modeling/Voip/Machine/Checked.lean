import Mathlib.Algebra.Group.Nat.Defs
import Voip.Result.Except

namespace checked

/-- How a step of a program fails that should not. -/
inductive Fault where
  | overflow
  | underflow
  | slice
  deriving DecidableEq, Repr

/-- Addition in words of `width` bits. -/
def add (width a b : Nat) : Except Fault Nat :=
  if a + b < 2 ^ width then .ok (a + b) else .error .overflow

def sub (a b : Nat) : Except Fault Nat := if b ≤ a then .ok (a - b) else .error .underflow

/-- What a build of a program does with a result that is larger than its words. -/
inductive Build where
  | checks
  | wraps
  deriving DecidableEq, Repr

/-- A result in words of `width` bits. -/
def Build.word (build : Build) (width result : Nat) : Except Fault Nat :=
  match build with
  | .checks => if result < 2 ^ width then .ok result else .error .overflow
  | .wraps => .ok (result % 2 ^ width)

/-- Subtraction in words of `width` bits. -/
def Build.sub (build : Build) (width a b : Nat) : Except Fault Nat :=
  match build with
  | .checks => checked.sub a b
  | .wraps => .ok ((2 ^ width + a - b) % 2 ^ width)

variable {α : Type}

/-- The items from `start` to `stop`. -/
def slice (items : List α) (start stop : Nat) : Except Fault (List α) :=
  if start ≤ stop ∧ stop ≤ items.length then .ok ((items.take stop).drop start) else .error .slice

/-- The items from `start` on. -/
def sliceFrom (items : List α) (start : Nat) : Except Fault (List α) :=
  if start ≤ items.length then .ok (items.drop start) else .error .slice

/-- What `f` finds along the items. The first fault ends it. -/
def filterMap {β : Type} (f : α → Except Fault (Option β)) : List α → Except Fault (List β)
  | [] => .ok []
  | item :: items => do
    let found ← f item
    return found.toList ++ (← filterMap f items)

variable {width a b start stop : Nat} {items : List α}

theorem sub_eq_ok {difference : Nat} : sub a b = .ok difference ↔ b ≤ a ∧ a - b = difference := by
  unfold sub
  split
  next hle => simp [hle]
  next hless => simp [hless]

theorem add_of_lt (hfits : a + b < 2 ^ width) : add width a b = .ok (a + b) := if_pos hfits

theorem add_of_le (hlarge : 2 ^ width ≤ a + b) : add width a b = .error .overflow :=
  if_neg (Nat.not_lt.mpr hlarge)

theorem Build.word_of_lt {result : Nat} (build : Build) (hfits : result < 2 ^ width) :
    build.word width result = .ok result := by
  cases build with
  | checks => exact if_pos hfits
  | wraps => rw [word, Nat.mod_eq_of_lt hfits]

theorem Build.checks_word_eq_ok {result word : Nat} :
    Build.checks.word width result = .ok word ↔ result < 2 ^ width ∧ result = word := by
  change (if result < 2 ^ width then Except.ok result else .error Fault.overflow) = _ ↔ _
  split
  next hfits => simp [hfits]
  next hlarge => simp [hlarge]

theorem sub_of_le (hle : b ≤ a) : sub a b = .ok (a - b) := if_pos hle

theorem slice_of_le (hstart : start ≤ stop) (hstop : stop ≤ items.length) :
    slice items start stop = .ok ((items.take stop).drop start) :=
  if_pos ⟨hstart, hstop⟩

theorem slice_of_lt (hstop : stop < start) : slice items start stop = .error .slice :=
  if_neg fun hrange => Nat.not_lt.mpr hrange.1 hstop

theorem sliceFrom_of_le (hstart : start ≤ items.length) : sliceFrom items start = .ok (items.drop start) :=
  if_pos hstart

/-- A run that gives a value under a condition and overflows otherwise. -/
structure Guarded (run : Except Fault α) (value : α) (Safe : Prop) : Prop where
  eq_ok : Safe → run = .ok value
  eq_overflow : ¬Safe → run = .error .overflow

theorem add_guarded : Guarded (add width a b) (a + b) (a + b < 2 ^ width) where
  eq_ok := add_of_lt
  eq_overflow hlarge := add_of_le (Nat.not_lt.mp hlarge)

namespace Guarded

variable {β : Type} {run : Except Fault α} {value : α} {Safe : Prop}

theorem eq_ok_iff (hguarded : Guarded run value Safe) : run = .ok value ↔ Safe := by
  refine ⟨fun hok => Classical.byContradiction fun hunsafe => ?_, hguarded.eq_ok⟩
  cases hok.symm.trans (hguarded.eq_overflow hunsafe)

theorem of_eq_ok (hok : run = .ok value) (hsafe : Safe) : Guarded run value Safe :=
  ⟨fun _ => hok, fun hunsafe => absurd hsafe hunsafe⟩

/-- What follows a guarded run has no fault of its own. -/
theorem bind {next : α → Except Fault β} {result : β} (hguarded : Guarded run value Safe)
    (hnext : Safe → next value = .ok result) : Guarded (run >>= next) result Safe where
  eq_ok hsafe := by rw [hguarded.eq_ok hsafe]; exact hnext hsafe
  eq_overflow hunsafe := by rw [hguarded.eq_overflow hunsafe]; rfl

/-- A walk has no fault just when every item is safe. -/
theorem filterMap {f : α → Except Fault (Option β)} {g : α → Option β} {Safe : α → Prop}
    (hguarded : ∀ item, Guarded (f item) (g item) (Safe item)) :
    Guarded (filterMap f items) (items.filterMap g) (∀ item ∈ items, Safe item) := by
  induction items with
  | nil => exact of_eq_ok rfl (by simp)
  | cons item items ih =>
    rw [List.forall_mem_cons]
    have hcons : (item :: items).filterMap g = (g item).toList ++ items.filterMap g := by
      cases hfound : g item <;> simp [hfound]
    rw [hcons]
    by_cases hitem : Safe item
    · simp only [checked.filterMap, (hguarded item).eq_ok hitem, hitem, true_and]
      exact ih.bind fun _ => rfl
    · simp only [hitem, false_and]
      refine ⟨False.elim, fun _ => ?_⟩
      rw [checked.filterMap, (hguarded item).eq_overflow hitem]
      rfl

end Guarded

end checked
