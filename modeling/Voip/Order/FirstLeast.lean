import Mathlib.Data.List.Basic

namespace order

variable {α κ : Type} [LE κ]

/-- No item of the list has a lower key, and no earlier one has the same. -/
structure FirstLeast [DecidableEq κ] (key : α → κ) (items : List α) (item : α) : Prop where
  least : ∀ other ∈ items, key item ≤ key other
  first : items.find? (fun other => key other = key item) = some item

variable {key : α → κ} {items : List α} {item : α}

theorem FirstLeast.mem [DecidableEq κ] (hitem : FirstLeast key items item) : item ∈ items :=
  List.mem_of_find?_eq_some hitem.first

theorem FirstLeast.map [DecidableEq κ] {β : Type} {f : β → α} {items : List β} {item : β}
    (hitem : FirstLeast (fun other => key (f other)) items item) :
    FirstLeast key (items.map f) (f item) := by
  refine ⟨?_, ?_⟩
  · intro other hother
    obtain ⟨source, hsource, rfl⟩ := List.mem_map.1 hother
    exact hitem.least source hsource
  · rw [List.find?_map, Function.comp_def, hitem.first]
    rfl

variable [Std.IsLinearOrder κ]

section comparison

variable [DecidableLE κ] (key items)

theorem le_trans_key (first second third : α) (hfirst : decide (key first ≤ key second) = true)
    (hsecond : decide (key second ≤ key third) = true) : decide (key first ≤ key third) = true := by
  simp only [decide_eq_true_eq] at *
  exact Std.le_trans hfirst hsecond

theorem le_total_key (first second : α) :
    (decide (key first ≤ key second) || decide (key second ≤ key first)) = true := by
  simpa using Std.le_total

theorem pairwise_mergeSort_key :
    (items.mergeSort fun first second => key first ≤ key second).Pairwise
      fun first second => key first ≤ key second := by
  have hsorted := List.pairwise_mergeSort (le_trans_key key) (le_total_key key) items
  simpa using hsorted

end comparison

variable [DecidableEq κ]

theorem FirstLeast.unique {other : α} (hitem : FirstLeast key items item)
    (hother : FirstLeast key items other) : item = other := by
  have hkey : key item = key other :=
    Std.le_antisymm (hitem.least other hother.mem) (hother.least item hitem.mem)
  have hfirst := hitem.first
  rw [hkey, hother.first] at hfirst
  exact (Option.some.inj hfirst).symm

section searching

variable [LT κ] [Std.LawfulOrderLT κ] [DecidableLT κ]

/-- The step of a search that keeps the better of two items, the earlier one of two equals. -/
theorem FirstLeast.cons_cons {next best : α}
    (hbest : FirstLeast key ((if key next < key item then next else item) :: items) best) :
    FirstLeast key (item :: next :: items) best := by
  obtain ⟨hleast, hfirst⟩ := hbest
  by_cases hlt : key next < key item
  · rw [if_pos hlt] at hleast hfirst
    have hbelow : key best < key item := by grind
    refine ⟨by grind, ?_⟩
    rw [List.find?_cons_of_neg (by grind)]
    exact hfirst
  · rw [if_neg hlt] at hleast hfirst
    have hnext : key item ≤ key next := Std.not_lt.1 hlt
    refine ⟨by grind, ?_⟩
    by_cases hkey : key item = key best
    · rw [List.find?_cons_of_pos (by simpa using hkey)] at hfirst ⊢
      exact hfirst
    · rw [List.find?_cons_of_neg (by simpa using hkey)] at hfirst
      rw [List.find?_cons_of_neg (by simpa using hkey), List.find?_cons_of_neg (by grind)]
      exact hfirst

/-- A search through the list finds the first of the least items. -/
theorem firstLeast_foldl :
    FirstLeast key (item :: items)
      (items.foldl (fun best next => if key next < key best then next else best) item) := by
  induction items generalizing item with
  | nil => exact ⟨by simp, by simp⟩
  | cons next items ih => exact ih.cons_cons

end searching

section sorting

variable [DecidableLE κ] (key items)

/-- Items with the same key keep their order. -/
theorem filter_mergeSort_key (k : κ) :
    ((items.mergeSort fun first second => key first ≤ key second).filter fun item => key item = k) =
      items.filter fun item => key item = k := by
  have hequal : (items.filter fun item => key item = k).Pairwise
      fun first second => decide (key first ≤ key second) = true := by
    refine List.Pairwise.imp_of_mem ?_ (List.pairwise_of_forall (R := fun _ _ => True) fun _ _ => trivial)
    intro first second hfirst hsecond _
    grind
  have hsublist := (List.sublist_mergeSort (le_trans_key key) (le_total_key key) hequal
    List.filter_sublist).filter fun item => key item = k
  rw [List.filter_filter] at hsublist
  simp only [Bool.and_self] at hsublist
  exact (hsublist.eq_of_length ((List.mergeSort_perm items _).filter _).length_eq.symm).symm

/-- A stable sort puts the first of the least items at the front. -/
theorem firstLeast_of_head_mergeSort
    (hhead : (items.mergeSort fun first second => key first ≤ key second).head? = some item) :
    FirstLeast key items item := by
  obtain ⟨rest, hsort⟩ := List.head?_eq_some_iff.1 hhead
  have hsorted := pairwise_mergeSort_key key items
  have hstable := filter_mergeSort_key key items (key item)
  rw [hsort] at hsorted hstable
  refine ⟨fun other hother => ?_, ?_⟩
  · have hmem : other ∈ item :: rest := by rw [← hsort]; simpa using hother
    rw [List.mem_cons] at hmem
    obtain rfl | hmem := hmem
    · exact Std.le_refl _
    · exact List.rel_of_pairwise_cons hsorted hmem
  · rw [← List.head?_filter, ← hstable, List.filter_cons_of_pos (by simp)]
    rfl

end sorting

end order
