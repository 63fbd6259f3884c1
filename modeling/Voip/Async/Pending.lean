import Mathlib.Data.List.AList

namespace async

variable {κ ρ : Type} [DecidableEq κ] [DecidableEq ρ]

/-- The senders of the answers that are still owed, each under a key. -/
abbrev Pending (κ ρ : Type) [DecidableEq κ] := AList fun _ : κ => ρ

namespace Pending

def senders (table : Pending κ ρ) : List ρ := table.entries.map Sigma.snd

omit [DecidableEq ρ] in
theorem senders_insert (table : Pending κ ρ) (key : κ) (sender : ρ) :
    senders (table.insert key sender) = sender :: senders (table.erase key) := rfl

/-- A sender is under the key or stays when the key is erased. -/
theorem count_senders (table : Pending κ ρ) (key : κ) (sender : ρ) :
    (senders table).count sender =
      (senders (table.erase key)).count sender + (table.lookup key).toList.count sender := by
  by_cases hkey : key ∈ table
  · obtain ⟨found, front, back, hfront, hentries, herased⟩ := List.exists_of_kerase (AList.mem_keys.mp hkey)
    have hlookup : found ∈ table.lookup key := AList.mem_lookup_iff.mpr (by simp [hentries])
    have herase : (table.erase key).entries = front ++ back := herased
    rw [Option.mem_def.mp hlookup, senders, senders, hentries, herase]
    simp only [List.map_append, List.map_cons, List.count_append, List.count_cons, Option.toList_some,
      List.count_nil]
    omega
  · have herase : (table.erase key).entries = table.entries :=
      List.kerase_of_notMem_keys (mt AList.mem_keys.mpr hkey)
    rw [AList.lookup_eq_none.mpr hkey, senders, senders, herase]
    rfl

end Pending

end async
