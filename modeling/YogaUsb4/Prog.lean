import Mathlib.Tactic.Common
import Mathlib.Data.List.Basic

/-!
Programs over a visible state. A program maps a start state to the trace of labelled
states it passes through and to a result, so that what holds at every moment of a run can
be stated, and not only what holds at its end.
-/

namespace YogaUsb4

namespace Prog

/-- What a program did: the label and the new state of each step, and how it ended. -/
structure Out (σ ℓ ε α : Type) where
  trace : List (ℓ × σ)
  res : Except ε α

/-- The state a trace from `s` ends in. -/
def final {σ ℓ : Type} (s : σ) : List (ℓ × σ) → σ
  | [] => s
  | (_, t) :: tr => final t tr

/-- Every step of a trace from `s` is in `R`. -/
def Along {σ ℓ : Type} (R : σ → ℓ → σ → Prop) (s : σ) : List (ℓ × σ) → Prop
  | [] => True
  | (l, t) :: tr => R s l t ∧ Along R t tr

end Prog

/-- A program on states `σ` that takes steps labelled in `ℓ` and may fail with an `ε`. -/
def Prog (σ ℓ ε α : Type) := σ → Prog.Out σ ℓ ε α

namespace Prog

variable {σ ℓ ε α β : Type} {R S : σ → ℓ → σ → Prop}

/-! ### Traces -/

@[simp] lemma final_nil (s : σ) : final s ([] : List (ℓ × σ)) = s := rfl

@[simp] lemma final_cons (s t : σ) (l : ℓ) (tr : List (ℓ × σ)) :
    final s ((l, t) :: tr) = final t tr := rfl

lemma final_append (s : σ) (tr us : List (ℓ × σ)) :
    final s (tr ++ us) = final (final s tr) us := by
  induction tr generalizing s with
  | nil => rfl
  | cons x tr ih => exact ih x.2

@[simp] lemma along_nil (s : σ) : Along R s [] ↔ True := Iff.rfl

@[simp] lemma along_cons (s t : σ) (l : ℓ) (tr : List (ℓ × σ)) :
    Along R s ((l, t) :: tr) ↔ R s l t ∧ Along R t tr := Iff.rfl

instance instDecidableAlong [∀ s l t, Decidable (R s l t)] (s : σ) : ∀ tr, Decidable (Along R s tr)
  | [] => isTrue trivial
  | (l, t) :: tr =>
    have := instDecidableAlong t tr
    inferInstanceAs (Decidable (R s l t ∧ Along R t tr))

lemma along_append (s : σ) (tr us : List (ℓ × σ)) :
    Along R s (tr ++ us) ↔ Along R s tr ∧ Along R (final s tr) us := by
  induction tr generalizing s with
  | nil => simp
  | cons x tr ih =>
    obtain ⟨l, t⟩ := x
    simp only [List.cons_append, along_cons, final_cons, ih, and_assoc]

lemma Along.mono (h : ∀ s l t, R s l t → S s l t) {s : σ} {tr : List (ℓ × σ)}
    (hr : Along R s tr) : Along S s tr := by
  induction tr generalizing s with
  | nil => trivial
  | cons x tr ih => exact ⟨h _ _ _ hr.1, ih hr.2⟩

lemma along_true (s : σ) (tr : List (ℓ × σ)) : Along (fun _ _ _ => True) s tr := by
  induction tr generalizing s with
  | nil => trivial
  | cons x tr ih => exact ⟨trivial, ih _⟩

lemma Along.and {s : σ} {tr : List (ℓ × σ)} (hr : Along R s tr) (hs : Along S s tr) :
    Along (fun s l t => R s l t ∧ S s l t) s tr := by
  induction tr generalizing s with
  | nil => trivial
  | cons x tr ih => exact ⟨⟨hr.1, hs.1⟩, ih hr.2 hs.2⟩

/-- A property that every step keeps holds after every step, and at the end. -/
lemma Along.invariant {I : σ → Prop} (h : ∀ s l t, R s l t → I s → I t) {s : σ}
    {tr : List (ℓ × σ)} (hr : Along R s tr) (hs : I s) :
    Along (fun s _ t => I s ∧ I t) s tr ∧ I (final s tr) := by
  induction tr generalizing s with
  | nil => exact ⟨trivial, hs⟩
  | cons x tr ih =>
    have ht := h _ _ _ hr.1 hs
    exact ⟨⟨⟨hs, ht⟩, (ih hr.2 ht).1⟩, (ih hr.2 ht).2⟩

/-! ### The monad -/

protected def pure (a : α) : Prog σ ℓ ε α := fun _ => ⟨[], .ok a⟩

/-- Runs `m`, then `f` on its result from the state `m` ended in. -/
protected def bind (m : Prog σ ℓ ε α) (f : α → Prog σ ℓ ε β) : Prog σ ℓ ε β := fun s =>
  let o := m s
  match o.res with
  | .ok a => let p := f a (final s o.trace); ⟨o.trace ++ p.trace, p.res⟩
  | .error e => ⟨o.trace, .error e⟩

/-- Runs `m`, and `h` on its error if it fails. -/
protected def tryCatch (m : Prog σ ℓ ε α) (h : ε → Prog σ ℓ ε α) : Prog σ ℓ ε α := fun s =>
  let o := m s
  match o.res with
  | .ok a => ⟨o.trace, .ok a⟩
  | .error e => let p := h e (final s o.trace); ⟨o.trace ++ p.trace, p.res⟩

instance : Monad (Prog σ ℓ ε) where
  pure := Prog.pure
  bind := Prog.bind

instance : MonadExceptOf ε (Prog σ ℓ ε) where
  throw e := fun _ => ⟨[], .error e⟩
  tryCatch := Prog.tryCatch

def mapError {ε' : Type} (f : ε → ε') (m : Prog σ ℓ ε α) : Prog σ ℓ ε' α := fun s =>
  ⟨(m s).trace, (m s).res.mapError f⟩

def get : Prog σ ℓ ε σ := fun s => ⟨[], .ok s⟩

/-- One step: labelled `l`, to the state `f` computes. -/
def step (l : ℓ) (f : σ → σ) : Prog σ ℓ ε Unit := fun s => ⟨[(l, f s)], .ok ()⟩

variable {m : Prog σ ℓ ε α}

lemma bind_ok {s : σ} {a : α} (h : (m s).res = .ok a) (f : α → Prog σ ℓ ε β) :
    (m >>= f) s = ⟨(m s).trace ++ (f a (final s (m s).trace)).trace,
      (f a (final s (m s).trace)).res⟩ := by
  show Prog.bind m f s = _
  simp only [Prog.bind, h]

lemma bind_error {s : σ} {e : ε} (h : (m s).res = .error e)
    (f : α → Prog σ ℓ ε β) : (m >>= f) s = ⟨(m s).trace, .error e⟩ := by
  show Prog.bind m f s = _
  simp only [Prog.bind, h]

lemma tryCatch_ok {s : σ} {a : α} (h : (m s).res = .ok a)
    (f : ε → Prog σ ℓ ε α) : tryCatchThe ε m f s = ⟨(m s).trace, .ok a⟩ := by
  show Prog.tryCatch m f s = _
  simp only [Prog.tryCatch, h]

lemma tryCatch_error {s : σ} {e : ε} (h : (m s).res = .error e) (f : ε → Prog σ ℓ ε α) :
    tryCatchThe ε m f s = ⟨(m s).trace ++ (f e (final s (m s).trace)).trace,
      (f e (final s (m s).trace)).res⟩ := by
  show Prog.tryCatch m f s = _
  simp only [Prog.tryCatch, h]

/-- A program whose every step is in `R`, from every state. -/
def Within (R : σ → ℓ → σ → Prop) (m : Prog σ ℓ ε α) : Prop := ∀ s, Along R s (m s).trace

section Within

lemma within_pure (a : α) : Within R (pure a : Prog σ ℓ ε α) := fun _ => trivial

lemma within_throw (e : ε) : Within R (throw e : Prog σ ℓ ε α) := fun _ => trivial

lemma within_get : Within R (get : Prog σ ℓ ε σ) := fun _ => trivial

lemma within_step {l : ℓ} {f : σ → σ} (h : ∀ s, R s l (f s)) :
    Within R (step l f : Prog σ ℓ ε Unit) := fun s => ⟨h s, trivial⟩

lemma Within.bind {f : α → Prog σ ℓ ε β} (hm : Within R m)
    (hf : ∀ a, Within R (f a)) : Within R (m >>= f) := by
  intro s
  cases h : (m s).res with
  | error e => rw [bind_error h]; exact hm s
  | ok a => rw [bind_ok h]; exact (along_append _ _ _).mpr ⟨hm s, hf a _⟩

lemma Within.tryCatch {f : ε → Prog σ ℓ ε α} (hm : Within R m)
    (hf : ∀ e, Within R (f e)) : Within R (tryCatchThe ε m f) := by
  intro s
  cases h : (m s).res with
  | ok a => rw [tryCatch_ok h]; exact hm s
  | error e => rw [tryCatch_error h]; exact (along_append _ _ _).mpr ⟨hm s, hf e _⟩

lemma Within.mono (h : ∀ s l t, R s l t → S s l t) (hm : Within R m) :
    Within S m := fun s => (hm s).mono h

end Within

end Prog

/-- The programs that stay in `R`: the bound on what a program may do to the state travels
with the program. -/
def Guarded (σ ℓ ε : Type) (R : σ → ℓ → σ → Prop) (α : Type) :=
  { m : Prog σ ℓ ε α // Prog.Within R m }

namespace Guarded

open Prog

variable {σ ℓ ε α β : Type} {R S : σ → ℓ → σ → Prop}

instance : Monad (Guarded σ ℓ ε R) where
  pure a := ⟨pure a, within_pure a⟩
  bind m f := ⟨m.1 >>= fun a => (f a).1, m.2.bind fun a => (f a).2⟩

instance : MonadExceptOf ε (Guarded σ ℓ ε R) where
  throw e := ⟨throw e, within_throw e⟩
  tryCatch m f := ⟨tryCatchThe ε m.1 fun e => (f e).1, m.2.tryCatch fun e => (f e).2⟩

def weaken (h : ∀ s l t, R s l t → S s l t) (m : Guarded σ ℓ ε R α) : Guarded σ ℓ ε S α :=
  ⟨m.1, m.2.mono h⟩

/-- A guarded program with its errors renamed. -/
def mapError {ε' : Type} (f : ε → ε') (m : Guarded σ ℓ ε R α) : Guarded σ ℓ ε' R α :=
  ⟨m.1.mapError f, m.2⟩

def get : Guarded σ ℓ ε R σ := ⟨Prog.get, within_get⟩

@[simp] lemma val_pure (a : α) : (pure a : Guarded σ ℓ ε R α).1 = pure a := rfl

@[simp] lemma val_bind (m : Guarded σ ℓ ε R α) (f : α → Guarded σ ℓ ε R β) :
    (m >>= f).1 = m.1 >>= fun a => (f a).1 := rfl

@[simp] lemma val_throw (e : ε) : (throw e : Guarded σ ℓ ε R α).1 = throw e := rfl

@[simp] lemma val_tryCatch (m : Guarded σ ℓ ε R α) (f : ε → Guarded σ ℓ ε R α) :
    (tryCatchThe ε m f).1 = tryCatchThe ε m.1 fun e => (f e).1 := rfl

@[simp] lemma val_get : (get : Guarded σ ℓ ε R σ).1 = Prog.get := rfl

@[simp] lemma val_weaken (h : ∀ s l t, R s l t → S s l t) (m : Guarded σ ℓ ε R α) :
    (weaken h m).1 = m.1 := rfl

end Guarded

end YogaUsb4
