import Mathlib.Order.Basic

namespace queue

variable {α κ : Type} [Preorder κ] (time : α → κ)

/-- Two queues side by side: at the place of each item there is a stamp that is not later than the
item's own time. There may be stamps left over behind. -/
def Stamped : List κ → List α → Prop
  | _, [] => True
  | [], _ :: _ => False
  | stamp :: stamps, item :: items => stamp ≤ time item ∧ Stamped stamps items

namespace Stamped

variable {time} {stamps : List κ} {items : List α}

theorem nil (stamps : List κ) : Stamped time stamps ([] : List α) := by
  cases stamps <;> trivial

theorem tail (hstamped : Stamped time stamps items) : Stamped time stamps.tail items.tail := by
  cases stamps with
  | nil => cases items with
    | nil => exact nil _
    | cons item items => exact hstamped.elim
  | cons stamp stamps => cases items with
    | nil => exact nil _
    | cons item items => exact hstamped.2

theorem dropLast (hstamped : Stamped time stamps items) : Stamped time stamps items.dropLast := by
  induction items generalizing stamps with
  | nil => exact hstamped
  | cons item items ih => cases stamps with
    | nil => exact hstamped.elim
    | cons stamp stamps => cases items with
      | nil => exact nil _
      | cons next items => exact ⟨hstamped.1, ih hstamped.2⟩

/-- A new item may come behind older stamps than its own. -/
theorem append_singleton (hstamped : Stamped time stamps items) (item : α)
    (hearlier : ∀ stamp ∈ stamps, stamp ≤ time item) :
    Stamped time (stamps ++ [time item]) (items ++ [item]) := by
  induction stamps generalizing items with
  | nil => cases items with
    | nil => exact ⟨le_refl _, nil _⟩
    | cons first items => exact hstamped.elim
  | cons stamp stamps ih =>
    obtain ⟨hstamp, hearlier⟩ := List.forall_mem_cons.mp hearlier
    cases items with
    | nil => exact ⟨hstamp, nil _⟩
    | cons first items => exact ⟨hstamped.1, ih hstamped.2 hearlier⟩

theorem exists_stamp_le {item : α} (hstamped : Stamped time stamps items) (hitem : item ∈ items) :
    ∃ stamp ∈ stamps, stamp ≤ time item := by
  induction stamps generalizing items with
  | nil => cases items with
    | nil => cases hitem
    | cons first items => exact hstamped.elim
  | cons stamp stamps ih => cases items with
    | nil => cases hitem
    | cons first items =>
      rcases List.mem_cons.mp hitem with rfl | hitem
      · exact ⟨stamp, List.mem_cons_self, hstamped.1⟩
      · obtain ⟨other, hother, hle⟩ := ih hstamped.2 hitem
        exact ⟨other, List.mem_cons_of_mem _ hother, hle⟩

end Stamped

end queue
