import YogaUsb4.Keeps

/-!
Verification conditions for programs, as a class: the condition under which a program meets a
postcondition is put together from the conditions of its parts, and a function may give one of
its own, from a specification or from what its steps leave alone.
-/

namespace YogaUsb4

open Prog

/-- A condition on the start state under which `m` meets its postconditions. -/
class Vc {σ ℓ ε α : Type} {R : σ → ℓ → σ → Prop} (A G : σ → ℓ → σ → Prop)
    (m : Guarded σ ℓ ε R α) where
  vc : (α → σ → Prop) → (ε → σ → Prop) → σ → Prop
  sound : ∀ {Q E s}, vc Q E s → wp A G m.1 Q E s

attribute [simp] Vc.vc

namespace Vc

variable {σ ℓ ε α β : Type} {R R' A G : σ → ℓ → σ → Prop}

instance (a : α) : Vc A G (pure a : Guarded σ ℓ ε R α) where
  vc Q _ s := Q a s
  sound h := h

instance (e : ε) : Vc A G (throw e : Guarded σ ℓ ε R α) where
  vc _ E s := E e s
  sound h := h

instance : Vc A G (Guarded.get : Guarded σ ℓ ε R σ) where
  vc Q _ s := Q s s
  sound h := h

instance (m : Guarded σ ℓ ε R α) (f : α → Guarded σ ℓ ε R β) [hm : Vc A G m]
    [hf : ∀ a, Vc A G (f a)] : Vc A G (m >>= f) where
  vc Q E s := hm.vc (fun a => (hf a).vc Q E) E s
  sound h := (wp_bind m.1 _).mpr
    (wp_mono (fun a _ ht => (hf a).sound ht) (fun _ _ ht => ht) (hm.sound h))

instance (m : Guarded σ ℓ ε R α) (n : Guarded σ ℓ ε R β) [hm : Vc A G m] [hn : Vc A G n] :
    Vc A G (m >>= fun _ => n) where
  vc Q E s := hm.vc (fun _ => hn.vc Q E) E s
  sound h := (wp_bind m.1 _).mpr
    (wp_mono (fun _ _ ht => hn.sound ht) (fun _ _ ht => ht) (hm.sound h))

instance (m : Guarded σ ℓ ε R α) (f : ε → Guarded σ ℓ ε R α) [hm : Vc A G m]
    [hf : ∀ e, Vc A G (f e)] : Vc A G (tryCatchThe ε m f) where
  vc Q E s := hm.vc Q (fun e => (hf e).vc Q E) s
  sound h := (wp_tryCatch m.1 _).mpr
    (wp_mono (fun _ _ ht => ht) (fun e _ ht => (hf e).sound ht) (hm.sound h))

instance (c : Prop) [Decidable c] (m n : Guarded σ ℓ ε R α) [hm : Vc A G m] [hn : Vc A G n] :
    Vc A G (if c then m else n) where
  vc Q E s := if c then hm.vc Q E s else hn.vc Q E s
  sound h := by
    by_cases hc : c
    · rw [if_pos hc] at h ⊢; exact hm.sound h
    · rw [if_neg hc] at h ⊢; exact hn.sound h

instance {ε' : Type} (f : ε → ε') (m : Guarded σ ℓ ε R α) [hm : Vc A G m] :
    Vc A G (m.mapError f) where
  vc Q E s := hm.vc Q (fun e => E (f e)) s
  sound h := (wp_mapError f m.1).mpr (hm.sound h)

/-- The condition that a specification gives: its precondition, and that its postconditions
are enough. -/
abbrev ofSpec (m : Guarded σ ℓ ε R α) (P : σ → Prop) (Q₀ : σ → α → σ → Prop)
    (E₀ : σ → ε → σ → Prop) (h : ∀ s, P s → wp A G m.1 (Q₀ s) (E₀ s) s) : Vc A G m where
  vc Q E s := P s ∧ (∀ a t, Q₀ s a t → Q a t) ∧ ∀ e t, E₀ s e t → E e t
  sound hs := wp_mono hs.2.1 hs.2.2 (h _ hs.1)

/-- No start state meets this condition: it is for programs that are not reached. -/
abbrev unreached (m : Guarded σ ℓ ε R α) : Vc A G m where
  vc _ _ _ := False
  sound h := h.elim

/-- The condition for a program whose every step is in `S`: what follows from `F` alone, which
relates the start to every state the steps lead to. -/
abbrev ofKeeps (S : σ → ℓ → σ → Prop) (m : Guarded σ ℓ ε R α) [hm : Keeps S m] (P : σ → Prop)
    (F : σ → σ → Prop) (refl : ∀ s, F s s)
    (step : ∀ s t l u, P s → F s t → S t l u → A t l u → G t l u ∧ F s u) : Vc A G m where
  vc Q E s := P s ∧ ∀ t, F s t → (∀ a, Q a t) ∧ ∀ e, E e t
  sound := by
    rintro Q E s ⟨hP, h⟩
    have hk : Keeps (fun t l u => A t l u → F s t → G t l u ∧ F s u) m :=
      ⟨hm.within.mono fun t l u hS hA hF => step s t l u hP hF hS hA⟩
    exact Keeps.wp_of_invariant m (refl s) (fun a t ht => (h t ht).1 a) fun e t ht => (h t ht).2 e

/-- The condition for a program of which nothing is known, where nothing is owed. -/
abbrev havoc (m : Guarded σ ℓ ε R α) : Vc A (fun _ _ _ => True) m :=
  have : Keeps (fun _ _ _ => True) m := ⟨fun s => along_true s _⟩
  .ofKeeps (fun _ _ _ => True) m (fun _ => True) (fun _ _ => True) (fun _ => trivial)
    fun _ _ _ _ _ _ _ _ => ⟨trivial, trivial⟩

end Vc

/-- From a state in `I`, `m` keeps the guarantee and ends in `I`, whether it fails or not. -/
class Preserves {σ ℓ ε α : Type} {R : σ → ℓ → σ → Prop} (A G : σ → ℓ → σ → Prop) (I : σ → Prop)
    (m : Guarded σ ℓ ε R α) : Prop where
  sound : ∀ s, I s → wp A G m.1 (fun _ => I) (fun _ => I) s

namespace Preserves

variable {σ ℓ ε α β : Type} {R R' A G : σ → ℓ → σ → Prop} {I : σ → Prop}

instance (a : α) : Preserves A G I (pure a : Guarded σ ℓ ε R α) := ⟨fun _ hs => hs⟩

instance (e : ε) : Preserves A G I (throw e : Guarded σ ℓ ε R α) := ⟨fun _ hs => hs⟩

instance : Preserves A G I (Guarded.get : Guarded σ ℓ ε R σ) := ⟨fun _ hs => hs⟩

instance (m : Guarded σ ℓ ε R α) (f : α → Guarded σ ℓ ε R β) [hm : Preserves A G I m]
    [hf : ∀ a, Preserves A G I (f a)] : Preserves A G I (m >>= f) :=
  ⟨fun s hs => (wp_bind m.1 _).mpr
    (wp_mono (fun a t ht => (hf a).sound t ht) (fun _ _ ht => ht) (hm.sound s hs))⟩

instance (m : Guarded σ ℓ ε R α) (n : Guarded σ ℓ ε R β) [hm : Preserves A G I m]
    [hn : Preserves A G I n] : Preserves A G I (m >>= fun _ => n) :=
  ⟨fun s hs => (wp_bind m.1 _).mpr
    (wp_mono (fun _ t ht => hn.sound t ht) (fun _ _ ht => ht) (hm.sound s hs))⟩

instance (m : Guarded σ ℓ ε R α) (f : ε → Guarded σ ℓ ε R α) [hm : Preserves A G I m]
    [hf : ∀ e, Preserves A G I (f e)] : Preserves A G I (tryCatchThe ε m f) :=
  ⟨fun s hs => (wp_tryCatch m.1 _).mpr
    (wp_mono (fun _ _ ht => ht) (fun e t ht => (hf e).sound t ht) (hm.sound s hs))⟩

instance (c : Prop) [Decidable c] (m n : Guarded σ ℓ ε R α) [Preserves A G I m]
    [Preserves A G I n] : Preserves A G I (if c then m else n) := by
  split <;> infer_instance

/-- What follows a part that reaches `I` may be left to its instance. -/
lemma after {m : Guarded σ ℓ ε R α} {f : α → Guarded σ ℓ ε R β} {s : σ}
    [hf : ∀ a, Preserves A G I (f a)] (hm : wp A G m.1 (fun _ => I) (fun _ => I) s) :
    wp A G (m >>= f).1 (fun _ => I) (fun _ => I) s :=
  (wp_bind m.1 _).mpr (wp_mono (fun a t ht => (hf a).sound t ht) (fun _ _ ht => ht) hm)

lemma step (I : σ → Prop) {m : Guarded σ ℓ ε R α} {f : α → Guarded σ ℓ ε R β} {s : σ}
    {Q : β → σ → Prop} {E : ε → σ → Prop} [hm : Preserves A G I m] (hs : I s)
    (hE : ∀ e t, I t → E e t) (hf : ∀ a t, I t → wp A G (f a).1 Q E t) :
    wp A G (m >>= f).1 Q E s :=
  (wp_bind m.1 _).mpr (wp_mono hf hE (hm.sound s hs))

end Preserves

end YogaUsb4
