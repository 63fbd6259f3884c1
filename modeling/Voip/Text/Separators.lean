import Mathlib.Data.List.Basic

namespace text

variable {α : Type} [DecidableEq α]

/-- What stands before and behind the first separator. -/
def splitFirst (sep : α) : List α → Option (List α × List α)
  | [] => none
  | item :: items =>
    if item = sep then some ([], items)
    else (splitFirst sep items).map fun (before, after) => (item :: before, after)

/-- What stands before and behind the last separator. -/
def splitLast (sep : α) (items : List α) : Option (List α × List α) :=
  (splitFirst sep items.reverse).map fun (after, before) => (before.reverse, after.reverse)

/-- At most so many pieces, cut at the first separators. -/
def splitn (sep : α) : Nat → List α → List (List α)
  | 0, _ => []
  | 1, items => [items]
  | count + 2, items =>
    match splitFirst sep items with
    | some (before, after) => before :: splitn sep (count + 1) after
    | none => [items]

/-- The items behind all the copies of a pattern that they start with. -/
def trimStart (pattern : List α) : Nat → List α → List α
  | 0, items => items
  | fuel + 1, items =>
    if pattern <+: items then trimStart pattern fuel (items.drop pattern.length) else items

variable {sep : α} {items before after : List α}

theorem splitFirst_append (hbefore : sep ∉ before) :
    splitFirst sep (before ++ sep :: after) = some (before, after) := by
  induction before with
  | nil => simp [splitFirst]
  | cons item before ih =>
    rw [List.mem_cons, not_or] at hbefore
    rw [List.cons_append, splitFirst, if_neg (Ne.symm hbefore.1), ih hbefore.2]
    rfl

theorem splitFirst_of_not_mem (hitems : sep ∉ items) : splitFirst sep items = none := by
  induction items with
  | nil => rfl
  | cons item items ih =>
    rw [List.mem_cons, not_or] at hitems
    rw [splitFirst, if_neg (Ne.symm hitems.1), ih hitems.2]
    rfl

theorem splitLast_append (hafter : sep ∉ after) :
    splitLast sep (before ++ sep :: after) = some (before, after) := by
  have hreverse : (before ++ sep :: after).reverse = after.reverse ++ sep :: before.reverse := by simp
  rw [splitLast, hreverse, splitFirst_append (by simpa using hafter)]
  simp

theorem splitLast_of_not_mem (hitems : sep ∉ items) : splitLast sep items = none := by
  rw [splitLast, splitFirst_of_not_mem (by simpa using hitems)]
  rfl

omit [DecidableEq α] in
/-- Where there is a separator, there is a last one. -/
theorem exists_last (hmem : sep ∈ items) :
    ∃ before after, items = before ++ sep :: after ∧ sep ∉ after := by
  obtain ⟨first, rest, hsplit, hfirst⟩ :=
    List.eq_append_cons_of_mem (List.mem_reverse.2 hmem)
  refine ⟨rest.reverse, first.reverse, ?_, by simpa using hfirst⟩
  rw [← List.reverse_reverse items, hsplit]
  simp

theorem trimStart_eq_self {pattern : List α} (hpattern : ¬ pattern <+: items) (fuel : Nat) :
    trimStart pattern fuel items = items := by
  cases fuel with
  | zero => rfl
  | succ fuel => rw [trimStart, if_neg hpattern]

/-- One copy is cut off where no second one follows. -/
theorem trimStart_append {pattern : List α} (hpattern : ¬ pattern <+: items) (fuel : Nat) :
    trimStart pattern (fuel + 1) (pattern ++ items) = items := by
  rw [trimStart, if_pos (List.prefix_append pattern items), List.drop_left,
    trimStart_eq_self hpattern]

end text
