import Mathlib.Tactic.Common
import Mathlib.Data.List.Infix

/-!
Systems that take one act after the other: the state is a function of the acts, an act that is
not enabled leaves it as it is, and a condition on the acts is asked in the state in which each
of them happens. A history is the list of what happened, the latest first, so that `m :: before`
is a suffix of it when `m` happened after `before`.
-/

namespace YogaUsb4.Steps

variable {σ α : Type} {step : σ → α → σ} {C : σ → α → Prop} {I : σ → Prop}

def run (step : σ → α → σ) (s : σ) (as : List α) : σ := as.foldl step s

/-- Every act meets `C` in the state in which it happens. -/
def Meets (step : σ → α → σ) (C : σ → α → Prop) (s : σ) : List α → Prop
  | [] => True
  | a :: as => C s a ∧ Meets step C (step s a) as

@[simp] lemma run_nil (s : σ) : run step s [] = s := rfl

@[simp] lemma run_cons (s : σ) (a : α) (as : List α) :
    run step s (a :: as) = run step (step s a) as := rfl

instance instDecidableMeets [∀ s a, Decidable (C s a)] (s : σ) (as : List α) :
    Decidable (Meets step C s as) :=
  match as with
  | [] => isTrue trivial
  | a :: as =>
    have := instDecidableMeets (step s a) as
    inferInstanceAs (Decidable (C s a ∧ Meets step C (step s a) as))

/-- What every act keeps holds after any acts. -/
theorem run_invariant (h : ∀ s a, I s → I (step s a)) {s : σ} (as : List α) (hs : I s) :
    I (run step s as) := by
  induction as generalizing s with
  | nil => exact hs
  | cons a as ih => exact ih (h s a hs)

/-- What every act keeps that meets `C` holds after any acts that do. -/
theorem Meets.invariant (h : ∀ s a, C s a → I s → I (step s a)) {s : σ} {as : List α}
    (hm : Meets step C s as) (hs : I s) : I (run step s as) := by
  induction as generalizing s with
  | nil => exact hs
  | cons a as ih => exact ih hm.2 (h s a hm.1 hs)

section

variable {μ : Type} {P : μ → Prop} {x m : μ} {h : List μ}

/-- What is asked of everything that happened and of what came before it, when one more happens. -/
lemma forall_suffix_cons {R : μ → List μ → Prop} :
    (∀ m' before, m' :: before <:+ m :: h → R m' before) ↔
      R m h ∧ ∀ m' before, m' :: before <:+ h → R m' before := by
  constructor
  · intro hall
    exact ⟨hall m h List.suffix_rfl, fun m' before hs =>
      hall m' before (hs.trans (List.suffix_cons m h))⟩
  · rintro ⟨hm, hall⟩ m' before hs
    rcases List.suffix_cons_iff.1 hs with heq | hs
    · obtain ⟨rfl, rfl⟩ := List.cons_eq_cons.1 heq
      exact hm
    · exact hall m' before hs

/-- Whenever something of `P` happened, `x` had not. -/
def NeverAfter (P : μ → Prop) (x : μ) (h : List μ) : Prop :=
  ∀ m before, m :: before <:+ h → P m → x ∉ before

lemma NeverAfter.of_notMem (hx : x ∉ h) : NeverAfter P x h :=
  fun _ _ hs _ hmem => hx (hs.subset (List.mem_cons_of_mem _ hmem))

lemma NeverAfter.cons (hh : NeverAfter P x h) (hm : P m → x ∉ h) : NeverAfter P x (m :: h) :=
  forall_suffix_cons.2 ⟨hm, hh⟩

end

end YogaUsb4.Steps
