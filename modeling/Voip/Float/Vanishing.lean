import Mathlib.Logic.Basic

namespace float

open Float.Model (UnpackedFloat Format pack)
open Float.Model.UnpackedFloat

/-- A number is a zero of either sign, or no number at all. -/
def Nought : UnpackedFloat → Prop
  | .notANumber => True
  | .zero _ => True
  | _ => False

section

variable (spec : Format) {x y : UnpackedFloat}

/-- Two equal numbers cancel without rounding; infinite ones leave no number. -/
theorem nought_sub_self (x : UnpackedFloat) : Nought (x.sub spec x) := by
  cases x with
  | infinity sign => cases sign <;> trivial
  | notANumber => trivial
  | zero sign => cases sign <;> trivial
  | finite sign mantissa exponent hpos =>
    unfold UnpackedFloat.sub
    dsimp only
    rw [Int.sub_self]
    trivial

theorem Nought.mul (hx : Nought x) (hy : Nought y) : Nought (x.mul spec y) := by
  cases x <;> cases y <;> trivial

theorem Nought.add (hx : Nought x) (hy : Nought y) : Nought (x.add spec y) := by
  cases x <;> cases y <;> first | contradiction | trivial | skip
  next sign sign' => cases sign <;> cases sign' <;> trivial

theorem Nought.div (hx : Nought x) (y : UnpackedFloat) : Nought (x.div spec y) := by
  cases x <;> cases y <;> first | contradiction | trivial

theorem Nought.sqrt (hx : Nought x) : Nought (x.sqrt spec) := by
  cases x <;> first | contradiction | trivial

theorem Nought.toInt (hx : Nought x) (negativeInfinity positiveInfinity : Int) :
    x.toInt negativeInfinity positiveInfinity = 0 := by
  cases x <;> first | contradiction | rfl

end

theorem nought_unpack_pack {x : UnpackedFloat} (hx : Nought x) : Nought (pack x).unpack := by
  cases x with
  | infinity sign => contradiction
  | notANumber => exact trivial
  | zero sign => cases sign <;> exact trivial
  | finite sign mantissa exponent hpos => contradiction

/-- The float is a zero, or no number. -/
def Vanishes (x : Float.Model) : Prop := Nought x.unpack

variable {x y : Float.Model}

theorem vanishes_sub_self (x : Float.Model) : Vanishes (x - x) :=
  nought_unpack_pack (nought_sub_self _ x.unpack)

theorem Vanishes.mul (hx : Vanishes x) (hy : Vanishes y) : Vanishes (x * y) :=
  nought_unpack_pack (Nought.mul _ hx hy)

theorem Vanishes.add (hx : Vanishes x) (hy : Vanishes y) : Vanishes (x + y) :=
  nought_unpack_pack (Nought.add _ hx hy)

theorem Vanishes.div (hx : Vanishes x) (y : Float.Model) : Vanishes (x / y) :=
  nought_unpack_pack (Nought.div _ hx y.unpack)

theorem Vanishes.sqrt (hx : Vanishes x) : Vanishes x.sqrt :=
  nought_unpack_pack (Nought.sqrt _ hx)

/-- What vanishes is cut to zero. -/
theorem Vanishes.toInt32 (hx : Vanishes x) : x.toInt32 = 0 := by
  rw [Float.Model.toInt32, UnpackedFloat.toInt32, Nought.toInt hx]
  rfl

theorem Vanishes.foldl_add (items : List Float.Model) (hitems : ∀ item ∈ items, Vanishes item)
    (hx : Vanishes x) : Vanishes (items.foldl (· + ·) x) := by
  induction items generalizing x with
  | nil => exact hx
  | cons item items ih =>
    obtain ⟨hitem, hitems⟩ := List.forall_mem_cons.mp hitems
    exact ih hitems (hx.add hitem)

end float
