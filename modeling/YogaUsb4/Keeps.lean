import YogaUsb4.Triple

/-!
Programs whose every step is in a relation, as a class: the fact for a program is found from
the facts for its parts, so a function states once what its steps may do.

Inference limits the size of an instance, and counts a part twice where a result that was in use is
used no more and where two branches meet again. Modules with long functions raise that limit.
-/

namespace YogaUsb4

open Prog

/-- Every step of `m`, from every state, is in `S`. -/
class Keeps {σ ℓ ε α : Type} {R : σ → ℓ → σ → Prop} (S : σ → ℓ → σ → Prop)
    (m : Guarded σ ℓ ε R α) : Prop where
  within : Within S m.1

namespace Keeps

variable {σ ℓ ε α β : Type} {R R' S : σ → ℓ → σ → Prop}

instance (a : α) : Keeps S (pure a : Guarded σ ℓ ε R α) := ⟨within_pure a⟩

instance (e : ε) : Keeps S (throw e : Guarded σ ℓ ε R α) := ⟨within_throw e⟩

instance : Keeps S (Guarded.get : Guarded σ ℓ ε R σ) := ⟨within_get⟩

instance (m : Guarded σ ℓ ε R α) (f : α → Guarded σ ℓ ε R β) [hm : Keeps S m]
    [hf : ∀ a, Keeps S (f a)] : Keeps S (m >>= f) :=
  ⟨hm.within.bind fun a => (hf a).within⟩

/-- A statement without a result leaves nothing that inference would have to drop. -/
instance (m : Guarded σ ℓ ε R α) (n : Guarded σ ℓ ε R β) [hm : Keeps S m] [hn : Keeps S n] :
    Keeps S (m >>= fun _ => n) :=
  ⟨hm.within.bind fun _ => hn.within⟩

instance (m : Guarded σ ℓ ε R α) (f : ε → Guarded σ ℓ ε R α) [hm : Keeps S m]
    [hf : ∀ e, Keeps S (f e)] : Keeps S (tryCatchThe ε m f) :=
  ⟨hm.within.tryCatch fun e => (hf e).within⟩

instance (c : Prop) [Decidable c] (m n : Guarded σ ℓ ε R α) [Keeps S m] [Keeps S n] :
    Keeps S (if c then m else n) := by
  split <;> infer_instance

variable {A G : σ → ℓ → σ → Prop} {E : ε → σ → Prop} {s : σ}

/-- A property that every step of `m` keeps, where the assumption holds, is all there is to
know about `m`. -/
lemma wp_of_invariant {I : σ → Prop} (m : Guarded σ ℓ ε R α)
    [h : Keeps (fun s l t => A s l t → I s → G s l t ∧ I t) m] {Q : α → σ → Prop} (hs : I s)
    (hQ : ∀ a t, I t → Q a t) (hE : ∀ e t, I t → E e t) : wp A G m.1 Q E s := by
  have hw : Follow A G s (m.1 s).trace I := by
    have hr := h.within s
    generalize (m.1 s).trace = tr at hr
    -- The induction is on the steps that `m` takes.
    induction tr generalizing s with
    | nil => exact hs
    | cons x tr ih =>
      intro ha
      obtain ⟨hg, ht⟩ := hr.1 ha hs
      exact ⟨hg, ih ht hr.2⟩
  refine hw.mono (fun _ _ _ h => h) (fun _ _ _ h => h) fun t ht => ?_
  cases (m.1 s).res with
  | ok a => exact hQ a t ht
  | error e => exact hE e t ht

/-- A property that every step of `m` keeps may be added to what is known about `m`. -/
lemma wp_and {I : σ → Prop} {m : Guarded σ ℓ ε R α} [h : Keeps (fun s _ t => I s → I t) m]
    {Q : α → σ → Prop} (hs : I s) (hw : wp A G m.1 Q E s) :
    wp A G m.1 (fun a t => Q a t ∧ I t) (fun e t => E e t ∧ I t) s := by
  have hr : I (final s (m.1 s).trace) := by
    have hr := h.within s
    clear hw
    generalize (m.1 s).trace = tr at hr
    induction tr generalizing s with
    | nil => exact hs
    | cons x tr ih => exact ih (hr.1 hs) hr.2
  unfold wp at hw ⊢
  refine (follow_congr ?_).mp hw
  cases (m.1 s).res with
  | ok a => exact (and_iff_left hr).symm
  | error e => exact (and_iff_left hr).symm

end Keeps

/-! ### Programs that fail early -/

section Early

variable {σ ℓ ε α β : Type} {S : σ → ℓ → σ → Prop}

/-- Where `m` takes a step outside `S`, its result and its last state are in `P`. -/
def Early (S : σ → ℓ → σ → Prop) (m : Prog σ ℓ ε α) (P : Except ε α → σ → Prop) : Prop :=
  ∀ s, Along S s (m s).trace ∨ P (m s).res (final s (m s).trace)

variable {m : Prog σ ℓ ε α}

lemma Early.of_within {P : Except ε α → σ → Prop} (h : Within S m) :
    Early S m P :=
  fun s => .inl (h s)

variable {P : Except ε β → σ → Prop}

lemma Early.bind {f : α → Prog σ ℓ ε β}
    {T : α → σ → Prop} (hm : Early S m fun r t => ∃ a, r = .ok a ∧ T a t)
    (hf : ∀ a, Early S (f a) P)
    (hP : ∀ a t, T a t → P (f a t).res (final t (f a t).trace)) : Early S (m >>= f) P := by
  intro s
  rcases hm s with h | ⟨a, ha, h⟩
  · cases hr : (m s).res with
    | error e => exact .inl (by rw [bind_error hr]; exact h)
    | ok a =>
      rw [bind_ok hr]
      refine (hf a (final s (m s).trace)).imp (fun h' => ?_) fun h' => ?_
      · exact (along_append _ _ _).mpr ⟨h, h'⟩
      · rw [final_append]; exact h'
  · right
    rw [bind_ok ha, final_append]
    exact hP a _ h

/-- Behind a part whose steps are all in `S` only the rest matters. -/
lemma Early.after {f : α → Prog σ ℓ ε β}
    (hm : Within S m) (hf : ∀ a, Early S (f a) P) : Early S (m >>= f) P :=
  Early.bind (T := fun _ _ => False) (.of_within hm) hf fun _ _ h => h.elim

lemma Early.tryCatch {f : ε → Prog σ ℓ ε α} {P : Except ε α → σ → Prop}
    (hm : Early S m fun r t => ∃ a, r = .ok a ∧ P (.ok a) t) (hf : ∀ e, Early S (f e) P) :
    Early S (tryCatchThe ε m f) P := by
  intro s
  rcases hm s with h | ⟨a, ha, h⟩
  · cases hr : (m s).res with
    | ok a => exact .inl (by rw [tryCatch_ok hr]; exact h)
    | error e =>
      rw [tryCatch_error hr]
      refine (hf e (final s (m s).trace)).imp (fun h' => ?_) fun h' => ?_
      · exact (along_append _ _ _).mpr ⟨h, h'⟩
      · rw [final_append]; exact h'
  · right
    rw [tryCatch_ok ha]
    exact h

lemma Early.step {R : σ → ℓ → σ → Prop} {m : Guarded σ ℓ ε R α} {f : α → Guarded σ ℓ ε R β}
    [hm : Keeps S m] (hf : ∀ a, Early S (f a).1 P) :
    Early S (m >>= f).1 P :=
  Early.after hm.within hf

end Early

end YogaUsb4
