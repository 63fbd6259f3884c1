import Mathlib.Order.Lattice

namespace queue

variable {α κ : Type} [LinearOrder κ] (key : α → κ)

/-- The keys of the items increase. -/
def Ascending (items : List α) : Prop := items.Pairwise fun first second => key first < key second

instance (items : List α) : Decidable (Ascending key items) := inferInstanceAs (Decidable (items.Pairwise _))

/-- Puts an item in front of the first one with a larger key. -/
def insert (item : α) (items : List α) : List α :=
  items.insertIdx (items.findIdx fun other => key item < key other) item

variable {key} {item : α} {items : List α}

/-- Insertion adds the item and nothing else. -/
theorem insert_perm (item : α) (items : List α) : (insert key item items).Perm (item :: items) :=
  List.perm_insertIdx item items List.findIdx_le_length

theorem insert_cons (item other : α) (items : List α) :
    insert key item (other :: items) =
      if key item < key other then item :: other :: items else other :: insert key item items := by
  unfold insert
  rw [List.findIdx_cons]
  by_cases hless : key item < key other
  · simp [hless]
  · simp [hless]

theorem mem_insert {other : α} : other ∈ insert key item items ↔ other = item ∨ other ∈ items := by
  rw [(insert_perm item items).mem_iff, List.mem_cons]

/-- An item whose key is new finds its place. -/
theorem Ascending.insert (hitems : Ascending key items) (hnew : ∀ other ∈ items, key other ≠ key item) :
    Ascending key (queue.insert key item items) := by
  induction items with
  | nil => exact List.pairwise_singleton ..
  | cons first items ih =>
    obtain ⟨hfirst, hrest⟩ := List.pairwise_cons.mp hitems
    obtain ⟨hne, hnew⟩ := List.forall_mem_cons.mp hnew
    rw [insert_cons]
    split
    next hless =>
      refine List.pairwise_cons.mpr ⟨?_, hitems⟩
      exact List.forall_mem_cons.mpr ⟨hless, fun other hother => lt_trans hless (hfirst other hother)⟩
    next hnot =>
      refine List.pairwise_cons.mpr ⟨?_, ih hrest hnew⟩
      intro other hother
      rcases mem_insert.mp hother with rfl | hmem
      · exact lt_of_le_of_ne (not_lt.mp hnot) hne
      · exact hfirst other hmem

/-- The same behind items with smaller keys. -/
theorem Ascending.append_insert {front : List α} (hitems : Ascending key (front ++ items))
    (hnew : ∀ other ∈ items, key other ≠ key item) (hfront : ∀ other ∈ front, key other < key item) :
    Ascending key (front ++ queue.insert key item items) := by
  obtain ⟨hbefore, hafter, hacross⟩ := List.pairwise_append.mp hitems
  refine List.pairwise_append.mpr ⟨hbefore, Ascending.insert hafter hnew, ?_⟩
  intro first hfirst second hsecond
  rcases mem_insert.mp hsecond with rfl | hmem
  · exact hfront first hfirst
  · exact hacross first hfirst second hmem

/-- Whole keys below a bound leave room for so many items only. -/
theorem Ascending.length_le {key : α → Nat} {items : List α} {first bound : Nat}
    (hitems : Ascending key items) (hkeys : ∀ item ∈ items, first ≤ key item ∧ key item < first + bound) :
    items.length ≤ bound := by
  induction items generalizing first bound with
  | nil => exact Nat.zero_le bound
  | cons item items ih =>
    obtain ⟨hless, hrest⟩ := List.pairwise_cons.mp hitems
    obtain ⟨⟨hfirst, hbound⟩, hkeys⟩ := List.forall_mem_cons.mp hkeys
    have hlength : items.length ≤ first + bound - (key item + 1) := by
      refine ih hrest fun other hother => (?_ : key item + 1 ≤ _ ∧ _)
      have := hless other hother
      have := (hkeys other hother).2
      omega
    rw [List.length_cons]
    omega

/-- Of ascending items that all occur among others in ascending order, none is out of place. -/
theorem Ascending.sublist_of_subset {others : List α} (hitems : Ascending key items) (hothers : Ascending key others)
    (hmem : ∀ item ∈ items, item ∈ others) : List.Sublist items others := by
  induction others generalizing items with
  | nil =>
    cases items with
    | nil => exact .slnil
    | cons item items => exact absurd (hmem item List.mem_cons_self) List.not_mem_nil
  | cons other others ih =>
    obtain ⟨hfirst, hrest⟩ := List.pairwise_cons.mp hothers
    cases items with
    | nil => exact List.nil_sublist _
    | cons item items =>
      obtain ⟨hless, hlater⟩ := List.pairwise_cons.mp hitems
      obtain ⟨hitem, hmem⟩ := List.forall_mem_cons.mp hmem
      -- an item after the first one is not the least of the others
      have htail (later : α) (hlt : key item < key later) (hin : later ∈ other :: others) : later ∈ others := by
        rcases List.mem_cons.mp hin with rfl | hin
        · rcases List.mem_cons.mp hitem with rfl | hitem
          · exact absurd hlt (lt_irrefl _)
          · exact absurd hlt (hfirst item hitem).not_gt
        · exact hin
      have hsubset : ∀ later ∈ items, later ∈ others := fun later hin =>
        htail later (hless later hin) (hmem later hin)
      rcases List.mem_cons.mp hitem with rfl | hitem
      · exact (ih hlater hrest hsubset).cons_cons _
      · exact (ih hitems hrest (List.forall_mem_cons.mpr ⟨hitem, hsubset⟩)).cons _

end queue
