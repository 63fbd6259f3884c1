import Mathlib.Data.List.Nodup
import Mathlib.Logic.Function.Basic

namespace async

/-- What a task has to do with the numbers of a shared counter: nothing, a number that it has
drawn but not used, or one that it has used. -/
inductive Claim where
  | none
  | drawn (number : Nat)
  | spent (number : Nat)

def Claim.number : Claim → Option Nat
  | none => .none
  | drawn number | spent number => some number

/-- Tasks draw numbers from a counter, and each number is used at most once. -/
structure Ticketed (claims : Nat → Claim) (used : List Nat) (next : Nat) : Prop where
  apart : ∀ {i j number}, (claims i).number = some number → (claims j).number = some number → i = j
  below : ∀ {i number}, (claims i).number = some number → number < next
  used_below : ∀ {number}, number ∈ used → number < next
  nodup : used.Nodup
  drawn : ∀ {i number}, claims i = .drawn number → number ∉ used
  spent : ∀ {i number}, claims i = .spent number → number ∈ used

variable {claims : Nat → Claim} {used : List Nat} {next : Nat}

theorem Ticketed.start (next : Nat) : Ticketed (fun _ => .none) [] next where
  apart := by simp [Claim.number]
  below := by simp [Claim.number]
  used_below := by simp
  nodup := List.nodup_nil
  drawn := by simp
  spent := by simp

/-- A task gives up its number. -/
theorem Ticketed.forget (htickets : Ticketed claims used next) (i : Nat) :
    Ticketed (Function.update claims i .none) used next := by
  have hkept {j : Nat} {claim : Claim} (hclaim : Function.update claims i .none j = claim)
      (hnone : claim ≠ .none) : claims j = claim := by
    by_cases hj : j = i
    · subst hj
      exact absurd (by simpa using hclaim.symm) hnone
    · simpa [hj] using hclaim
  have hnumber {j number : Nat} (hclaim : (Function.update claims i .none j).number = some number) :
      (claims j).number = some number := by
    rwa [hkept rfl fun hnone => by simp [hnone, Claim.number] at hclaim]
  exact {
    apart := fun hi hj => htickets.apart (hnumber hi) (hnumber hj)
    below := fun hi => htickets.below (hnumber hi)
    used_below := htickets.used_below
    nodup := htickets.nodup
    drawn := fun hi => htickets.drawn (hkept hi (by simp))
    spent := fun hi => htickets.spent (hkept hi (by simp)) }

/-- A task draws the next number. -/
theorem Ticketed.draw (htickets : Ticketed claims used next) (i : Nat) :
    Ticketed (Function.update claims i (.drawn next)) used (next + 1) := by
  have hcases {j number : Nat} (hclaim : (Function.update claims i (.drawn next) j).number = some number) :
      j = i ∧ number = next ∨ (claims j).number = some number ∧ number < next := by
    by_cases hj : j = i
    · subst hj
      exact .inl ⟨rfl, by simpa [Claim.number, eq_comm] using hclaim⟩
    · rw [Function.update_of_ne hj] at hclaim
      exact .inr ⟨hclaim, htickets.below hclaim⟩
  refine ⟨fun hi hj => ?_, fun hi => ?_, fun hmem => ?_, htickets.nodup, fun {j number} hi => ?_,
    fun {j number} hi => ?_⟩
  · obtain ⟨rfl, rfl⟩ | ⟨hi, hlt⟩ := hcases hi
    · obtain ⟨rfl, -⟩ | ⟨-, hlt⟩ := hcases hj
      · rfl
      · exact absurd hlt (Nat.lt_irrefl _)
    · obtain ⟨rfl, rfl⟩ | ⟨hj, -⟩ := hcases hj
      · exact absurd hlt (Nat.lt_irrefl _)
      · exact htickets.apart hi hj
  · obtain ⟨-, rfl⟩ | ⟨-, hlt⟩ := hcases hi
    · exact Nat.lt_succ_self _
    · exact Nat.lt_succ_of_lt hlt
  · exact Nat.lt_succ_of_lt (htickets.used_below hmem)
  · by_cases hj : j = i
    · subst hj
      obtain rfl : next = number := by simpa using hi
      exact fun hmem => Nat.lt_irrefl _ (htickets.used_below hmem)
    · exact htickets.drawn (by simpa [hj] using hi)
  · by_cases hj : j = i
    · subst hj
      simp at hi
    · exact htickets.spent (by simpa [hj] using hi)

/-- A task uses the number that it has drawn. -/
theorem Ticketed.spend (htickets : Ticketed claims used next) {i number : Nat} (hdrawn : claims i = .drawn number) :
    Ticketed (Function.update claims i (.spent number)) (used ++ [number]) next := by
  have hnumbers (j : Nat) : (Function.update claims i (.spent number) j).number = (claims j).number := by
    by_cases hj : j = i
    · subst hj
      simp [hdrawn, Claim.number]
    · simp [hj]
  have hown : (claims i).number = some number := by simp [hdrawn, Claim.number]
  refine ⟨fun hi hj => ?_, fun hi => ?_, fun hmem => ?_, ?_, fun {j other} hi => ?_, fun {j other} hi => ?_⟩
  · rw [hnumbers] at hi hj
    exact htickets.apart hi hj
  · rw [hnumbers] at hi
    exact htickets.below hi
  · rcases List.mem_append.mp hmem with hmem | hmem
    · exact htickets.used_below hmem
    · rw [List.mem_singleton.mp hmem]
      exact htickets.below hown
  · rw [List.nodup_append_comm]
    exact List.nodup_cons.mpr ⟨htickets.drawn hdrawn, htickets.nodup⟩
  · have hj : j ≠ i := by
      rintro rfl
      simp at hi
    rw [Function.update_of_ne hj] at hi
    intro hmem
    rcases List.mem_append.mp hmem with hmem | hmem
    · exact htickets.drawn hi hmem
    · rw [List.mem_singleton.mp hmem] at hi
      exact hj (htickets.apart (by simp [hi, Claim.number]) hown)
  · by_cases hj : j = i
    · subst hj
      obtain rfl : number = other := by simpa using hi
      simp
    · rw [Function.update_of_ne hj] at hi
      exact List.mem_append_left _ (htickets.spent hi)

end async
