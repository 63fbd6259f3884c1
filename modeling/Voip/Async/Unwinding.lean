import Voip.Async.Trace
import Mathlib.Logic.Function.Basic

namespace async

/-- Two slots that hold the same, or nothing but what is hidden. -/
def AgreeUpTo {α : Type} (hidden : α → Prop) (first second : Option α) : Prop :=
  second = first ∨ (∀ a ∈ first, hidden a) ∧ ∀ a ∈ second, hidden a

namespace AgreeUpTo

variable {α : Type} {hidden hidden' : α → Prop} {first second third : Option α}

theorem refl (slot : Option α) : AgreeUpTo hidden slot slot := .inl rfl

theorem symm (hagree : AgreeUpTo hidden first second) : AgreeUpTo hidden second first :=
  hagree.imp Eq.symm And.symm

theorem trans (hfirst : AgreeUpTo hidden first second) (hsecond : AgreeUpTo hidden second third) :
    AgreeUpTo hidden first third := by
  obtain rfl | ⟨hhidden, hhidden'⟩ := hfirst
  · exact hsecond
  · obtain rfl | ⟨-, hthird⟩ := hsecond
    · exact .inr ⟨hhidden, hhidden'⟩
    · exact .inr ⟨hhidden, hthird⟩

theorem mono (hagree : AgreeUpTo hidden first second) (himp : ∀ a, hidden a → hidden' a) :
    AgreeUpTo hidden' first second :=
  hagree.imp_right fun ⟨hfirst, hsecond⟩ =>
    ⟨fun a ha => himp a (hfirst a ha), fun a ha => himp a (hsecond a ha)⟩

/-- What is not hidden is in both slots. -/
theorem eq_some {a : α} (hagree : AgreeUpTo hidden (some a) second) (hvisible : ¬ hidden a) :
    second = some a :=
  hagree.resolve_right fun h => hvisible (h.1 a rfl)

/-- Slots that agree still do when the same is put into the same place of both. -/
theorem update {ι : Type} [DecidableEq ι] {slots slots' : ι → Option α} (i : ι) (slot : Option α) {j : ι}
    (hagree : AgreeUpTo hidden (slots j) (slots' j)) :
    AgreeUpTo hidden (Function.update slots i slot j) (Function.update slots' i slot j) := by
  by_cases hj : j = i
  · subst hj
    rw [Function.update_self, Function.update_self]
    exact .refl slot
  · rwa [Function.update_of_ne hj, Function.update_of_ne hj]

end AgreeUpTo

variable {σ ε : Type}

/-- Two runs that differ only in what is concealed: each takes concealed steps on its own, and
all other steps they take together. -/
inductive Variants (step : σ → ε → Option σ) (concealed : σ → ε → Prop) :
    σ → List ε → σ → List ε → Prop where
  | nil (first second : σ) : Variants step concealed first [] second []
  | first {first next second : σ} {label : ε} {labels others : List ε} (hidden : concealed first label)
      (taken : step first label = some next) (rest : Variants step concealed next labels second others) :
      Variants step concealed first (label :: labels) second others
  | second {first second next : σ} {label : ε} {labels others : List ε} (hidden : concealed second label)
      (taken : step second label = some next) (rest : Variants step concealed first labels next others) :
      Variants step concealed first labels second (label :: others)
  | both {first second next next' : σ} {label : ε} {labels others : List ε}
      (visible : ¬ concealed first label) (taken : step first label = some next)
      (taken' : step second label = some next') (rest : Variants step concealed next labels next' others) :
      Variants step concealed first (label :: labels) second (label :: others)

variable {step : σ → ε → Option σ} {concealed : σ → ε → Prop}

/-- A run of concealed steps is a variant of doing nothing. -/
theorem Variants.of_concealed {first second last : σ} {labels : List ε}
    (hhidden : Along step (fun state label _ => concealed state label) first labels)
    (hexec : exec step first labels = some last) : Variants step concealed first labels second [] := by
  induction labels generalizing first with
  | nil => exact .nil first second
  | cons label labels ih =>
    obtain ⟨next, hnext, hrest⟩ := Option.bind_eq_some_iff.mp hexec
    obtain ⟨hlabel, hhidden⟩ := hhidden next hnext
    exact .first hlabel hnext (ih hhidden hrest)

/-- The unwinding rule: a symmetric relation that concealed steps of one run respect, and that
visible steps of both runs preserve, holds between the last states of two variants. -/
theorem Variants.related {R : σ → σ → Prop} {C : σ → ε → σ → Prop}
    (hsymm : ∀ first second, R first second → R second first)
    (hrespects : ∀ first second label next, R first second → concealed first label →
      C first label next → step first label = some next → R next second)
    (hpreserves : ∀ first second label next next', R first second → ¬ concealed first label →
      C first label next → C second label next' → step first label = some next →
      step second label = some next' → R next next')
    {first second last last' : σ} {labels others : List ε}
    (hvariants : Variants step concealed first labels second others)
    (hfirst : Along step C first labels) (hsecond : Along step C second others)
    (hlast : exec step first labels = some last) (hlast' : exec step second others = some last')
    (hinit : R first second) : R last last' := by
  induction hvariants with
  | nil =>
    cases hlast
    cases hlast'
    exact hinit
  | first hhidden htaken _ ih =>
    rw [exec_cons_of_step htaken] at hlast
    obtain ⟨hcond, hrest⟩ := hfirst _ htaken
    exact ih hrest hsecond hlast hlast' (hrespects _ _ _ _ hinit hhidden hcond htaken)
  | second hhidden htaken _ ih =>
    rw [exec_cons_of_step htaken] at hlast'
    obtain ⟨hcond, hrest⟩ := hsecond _ htaken
    have hnext := hrespects _ _ _ _ (hsymm _ _ hinit) hhidden hcond htaken
    exact ih hfirst hrest hlast hlast' (hsymm _ _ hnext)
  | both hvisible htaken htaken' _ ih =>
    rw [exec_cons_of_step htaken] at hlast
    rw [exec_cons_of_step htaken'] at hlast'
    obtain ⟨hcond, hrest⟩ := hfirst _ htaken
    obtain ⟨hcond', hrest'⟩ := hsecond _ htaken'
    exact ih hrest hrest' hlast hlast' (hpreserves _ _ _ _ _ hinit hvisible hcond hcond' htaken htaken')

end async
