import Mathlib.Data.List.Basic
import Mathlib.Data.List.Infix

namespace wire

variable {ι α β γ : Type}

/-- No tag is the start of another one. -/
def PrefixFree (tag : ι → List α) : Prop := ∀ i j, tag i <+: tag j → i = j

/-- What a tag of a prefix-free table is put before can be read back together with the tag. -/
theorem PrefixFree.append_inj {tag : ι → List α} (htag : PrefixFree tag) {i j : ι} {body body' : List α} :
    tag i ++ body = tag j ++ body' ↔ i = j ∧ body = body' := by
  constructor
  · intro heq
    have hfirst : tag i <+: tag j ++ body' := heq ▸ List.prefix_append (tag i) body
    have hsecond : tag j <+: tag j ++ body' := List.prefix_append (tag j) body'
    obtain rfl : i = j := by
      -- of two starts of one list the shorter one is the start of the other
      rcases List.prefix_or_prefix_of_prefix hfirst hsecond with hstart | hstart
      · exact htag i j hstart
      · exact (htag j i hstart).symm
    exact ⟨rfl, List.append_cancel_left heq⟩
  · rintro ⟨rfl, rfl⟩
    rfl

/-- Two different messages with one digest. -/
structure Collision (hash : α → β) (first second : α) : Prop where
  ne : first ≠ second
  digest_eq : hash first = hash second

theorem digest_eq_iff {hash : α → β} {first second : α} (hfree : ¬ Collision hash first second) :
    hash first = hash second ↔ first = second := by
  constructor
  · intro hdigest
    by_contra hne
    exact hfree ⟨hne, hdigest⟩
  · exact congrArg hash

/-- A table kept by the keys of names answers for a name as the one kept by names does, if the key of
no other name in it is the same. -/
theorem lookup_map_key [BEq α] [LawfulBEq α] [BEq β] [LawfulBEq β] (key : α → β) {name : α} {table : List (α × γ)}
    (hkey : ∀ entry ∈ table, key entry.1 = key name ↔ entry.1 = name) :
    (table.map fun entry => (key entry.1, entry.2)).lookup (key name) = table.lookup name := by
  induction table with
  | nil => rfl
  | cons entry table ih =>
    obtain ⟨hhead, htail⟩ := List.forall_mem_cons.mp hkey
    have hbeq : (key name == key entry.1) = (name == entry.1) := by
      rw [Bool.eq_iff_iff, beq_iff_eq, beq_iff_eq, eq_comm, hhead, eq_comm]
    rw [List.map_cons, List.lookup_cons, List.lookup_cons, hbeq, ih htail]

end wire
