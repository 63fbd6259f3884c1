import Mathlib.Logic.Basic

namespace token_bucket

/-- How many tokens a bucket holds at most, and how many it is granted for each full
interval. -/
structure Params where
  capacity : Nat
  amount : Nat
  interval : Nat

/-- The tokens of a bucket and the time of its last grant. -/
structure Level where
  tokens : Nat
  granted_at : Nat

namespace Params

variable (params : Params)

/-- What a bucket is granted for a span of time. -/
def grant (span : Nat) : Nat := span / params.interval * params.amount

theorem grant_mono {short long : Nat} (hle : short ≤ long) : params.grant short ≤ params.grant long :=
  Nat.mul_le_mul_right _ (Nat.div_le_div_right hle)

/-- Cutting a span into two loses what the parts have beyond full intervals. -/
theorem grant_add_le (first second : Nat) :
    params.grant first + params.grant second ≤ params.grant (first + second) := by
  unfold grant
  rw [← Nat.add_mul]
  apply Nat.mul_le_mul_right
  obtain hzero | hpos := Nat.eq_zero_or_pos params.interval
  · simp [hzero]
  · rw [Nat.le_div_iff_mul_le hpos, Nat.add_mul]
    have hfirst := Nat.div_mul_le_self first params.interval
    have hsecond := Nat.div_mul_le_self second params.interval
    omega

/-- The invariant behind the bound on what is spent since a given time. A bucket without
a grant since then has only what it held; its first grant leaves at most a full bucket,
and each later one adds what its own span is worth. A bucket that is missing counts as
full. -/
def Budget (since now spent : Nat) : Option Level → Prop
  | none => spent ≤ params.capacity + params.grant (now - since)
  | some level =>
    level.granted_at < since ∧ spent + level.tokens ≤ params.capacity ∨
      since ≤ level.granted_at ∧
        spent + level.tokens ≤ 2 * params.capacity + params.grant (level.granted_at - since)

namespace Budget

variable {params} {since now spent : Nat} {level : Level}

/-- Nothing is spent at the start, whatever the bucket holds. -/
theorem start {bucket : Option Level} (hfits : ∀ level ∈ bucket, level.tokens ≤ params.capacity) :
    params.Budget since since 0 bucket := by
  cases bucket with
  | none => exact Nat.zero_le _
  | some level =>
    have hlevel := hfits level rfl
    obtain hearlier | hlater := Nat.lt_or_ge level.granted_at since
    · exact .inl ⟨hearlier, by omega⟩
    · exact .inr ⟨hlater, by omega⟩

theorem later {bucket : Option Level} {now' : Nat} (hbudget : params.Budget since now spent bucket)
    (hle : now ≤ now') : params.Budget since now' spent bucket := by
  cases bucket with
  | none =>
    have hmono : params.grant (now - since) ≤ params.grant (now' - since) :=
      params.grant_mono (by omega)
    exact Nat.le_trans hbudget (Nat.add_le_add_left hmono _)
  | some level => exact hbudget

theorem grant (hbudget : params.Budget since now spent (some level)) (hsince : since ≤ now)
    (hnow : level.granted_at ≤ now) {tokens : Nat} (hfits : tokens ≤ params.capacity)
    (hgrant : tokens ≤ level.tokens + params.grant (now - level.granted_at)) :
    params.Budget since now spent (some ⟨tokens, now⟩) := by
  obtain ⟨hearlier, hspent⟩ | ⟨hlater, hspent⟩ := hbudget
  · exact .inr ⟨hsince, by dsimp only; omega⟩
  · have hadd := params.grant_add_le (level.granted_at - since) (now - level.granted_at)
    rw [show level.granted_at - since + (now - level.granted_at) = now - since by omega] at hadd
    exact .inr ⟨hsince, by dsimp only; omega⟩

theorem spend {tokens granted_at : Nat} (hbudget : params.Budget since now spent (some ⟨tokens, granted_at⟩))
    (hpositive : 0 < tokens) : params.Budget since now (spent + 1) (some ⟨tokens - 1, granted_at⟩) := by
  obtain ⟨hearlier, hspent⟩ | ⟨hlater, hspent⟩ := hbudget
  · exact .inl ⟨hearlier, by dsimp only at *; omega⟩
  · exact .inr ⟨hlater, by dsimp only at *; omega⟩

theorem fill (hbudget : params.Budget since now spent none) (hsince : since ≤ now) :
    params.Budget since now spent (some ⟨params.capacity, now⟩) := by
  unfold Budget at hbudget
  exact .inr ⟨hsince, by dsimp only; omega⟩

/-- A bucket may be dropped once a grant would fill it. -/
theorem drop (hbudget : params.Budget since now spent (some level)) (hnow : level.granted_at ≤ now)
    (hfull : params.capacity ≤ level.tokens + params.grant (now - level.granted_at)) :
    params.Budget since now spent none := by
  unfold Budget
  obtain ⟨hearlier, hspent⟩ | ⟨hlater, hspent⟩ := hbudget
  · omega
  · have hadd := params.grant_add_le (level.granted_at - since) (now - level.granted_at)
    rw [show level.granted_at - since + (now - level.granted_at) = now - since by omega] at hadd
    omega

theorem spent_le {bucket : Option Level} (hbudget : params.Budget since now spent bucket)
    (hnow : ∀ level ∈ bucket, level.granted_at ≤ now) :
    spent ≤ 2 * params.capacity + params.grant (now - since) := by
  cases bucket with
  | none =>
    unfold Budget at hbudget
    omega
  | some level =>
    have hlevel := hnow level rfl
    have hmono : params.grant (level.granted_at - since) ≤ params.grant (now - since) :=
      params.grant_mono (by omega)
    obtain ⟨hearlier, hspent⟩ | ⟨hlater, hspent⟩ := hbudget
    · omega
    · omega

end Budget

end Params

end token_bucket
