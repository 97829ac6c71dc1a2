import YogaUsb4.Prog

/-!
Pre- and postconditions for programs over a visible state, with an assumption on the steps
(what the surroundings are trusted to do) and a guarantee about them (what holds at every
moment). The guarantee is owed for as long as the assumption has held.
-/

namespace YogaUsb4.Prog

variable {σ ℓ ε α β : Type} {A B G H : σ → ℓ → σ → Prop}

/-- Along a trace from `s`: as long as the steps are in `A` they are in `G`, and if they all
are, `Q` holds at the end. -/
def Follow (A G : σ → ℓ → σ → Prop) (s : σ) : List (ℓ × σ) → (σ → Prop) → Prop
  | [], Q => Q s
  | (l, t) :: tr, Q => A s l t → G s l t ∧ Follow A G t tr Q

lemma follow_append (s : σ) (tr us : List (ℓ × σ)) (Q : σ → Prop) :
    Follow A G s (tr ++ us) Q ↔ Follow A G s tr (fun t => Follow A G t us Q) := by
  induction tr generalizing s with
  | nil => rfl
  | cons x tr ih => simp only [List.cons_append, Follow, ih]

variable {tr : List (ℓ × σ)}

lemma follow_congr {s : σ} {Q Q' : σ → Prop}
    (h : Q (final s tr) ↔ Q' (final s tr)) : Follow A G s tr Q ↔ Follow A G s tr Q' := by
  induction tr generalizing s with
  | nil => exact h
  | cons x tr ih => simp only [Follow, ih h]

lemma Follow.mono {s : σ} {Q Q' : σ → Prop}
    (hA : ∀ s l t, B s l t → A s l t) (hG : ∀ s l t, G s l t → H s l t)
    (hQ : ∀ t, Q t → Q' t) (h : Follow A G s tr Q) : Follow B H s tr Q' := by
  induction tr generalizing s with
  | nil => exact hQ _ h
  | cons x tr ih =>
    intro ha
    obtain ⟨hg, hr⟩ := h (hA _ _ _ ha)
    exact ⟨hG _ _ _ hg, ih hr⟩

lemma Follow.along {s : σ} {Q : σ → Prop} (h : Follow A G s tr Q)
    (ha : Along A s tr) : Along G s tr ∧ Q (final s tr) := by
  induction tr generalizing s with
  | nil => exact ⟨trivial, h⟩
  | cons x tr ih =>
    obtain ⟨hg, hr⟩ := h ha.1
    exact ⟨⟨hg, (ih hr ha.2).1⟩, (ih hr ha.2).2⟩

lemma Follow.and {s : σ} {Q Q' : σ → Prop} (h : Follow A G s tr Q) (h' : Follow A H s tr Q') :
    Follow A (fun s l t => G s l t ∧ H s l t) s tr fun t => Q t ∧ Q' t := by
  induction tr generalizing s with
  | nil => exact ⟨h, h'⟩
  | cons x tr ih =>
    intro ha
    obtain ⟨hg, hr⟩ := h ha
    obtain ⟨hg', hr'⟩ := h' ha
    exact ⟨⟨hg, hg'⟩, ih hr hr'⟩

/-- The weakest precondition: from `s`, `m` keeps the guarantee, and ends in `Q` with its
result or in `E` with its error. -/
def wp (A G : σ → ℓ → σ → Prop) (m : Prog σ ℓ ε α) (Q : α → σ → Prop) (E : ε → σ → Prop)
    (s : σ) : Prop :=
  Follow A G s (m s).trace fun t =>
    match (m s).res with
    | .ok a => Q a t
    | .error e => E e t

section Rules

variable {Q Q' : α → σ → Prop} {E E' : ε → σ → Prop} {s : σ}

@[simp] lemma wp_pure (a : α) : wp A G (pure a : Prog σ ℓ ε α) Q E s ↔ Q a s := Iff.rfl

@[simp] lemma wp_throw (e : ε) : wp A G (throw e : Prog σ ℓ ε α) Q E s ↔ E e s := Iff.rfl

@[simp] lemma wp_get {Q : σ → σ → Prop} :
    wp A G (get : Prog σ ℓ ε σ) Q E s ↔ Q s s := Iff.rfl

@[simp] lemma wp_step {Q : Unit → σ → Prop} (l : ℓ) (f : σ → σ) :
    wp A G (step l f : Prog σ ℓ ε Unit) Q E s ↔ (A s l (f s) → G s l (f s) ∧ Q () (f s)) :=
  Iff.rfl

@[simp] lemma wp_bind {Q : β → σ → Prop} (m : Prog σ ℓ ε α) (f : α → Prog σ ℓ ε β) :
    wp A G (m >>= f) Q E s ↔ wp A G m (fun a => wp A G (f a) Q E) E s := by
  unfold wp
  cases h : (m s).res with
  | error e => simp only [bind_error h]
  | ok a =>
    simp only [bind_ok h, follow_append]
    exact follow_congr Iff.rfl

@[simp] lemma wp_tryCatch (m : Prog σ ℓ ε α) (f : ε → Prog σ ℓ ε α) :
    wp A G (tryCatchThe ε m f) Q E s ↔ wp A G m Q (fun e => wp A G (f e) Q E) s := by
  unfold wp
  cases h : (m s).res with
  | ok a => simp only [tryCatch_ok h]
  | error e =>
    simp only [tryCatch_error h, follow_append]
    exact follow_congr Iff.rfl

@[simp] lemma wp_mapError {ε' : Type} {E : ε' → σ → Prop} (f : ε → ε') (m : Prog σ ℓ ε α) :
    wp A G (m.mapError f) Q E s ↔ wp A G m Q (fun e => E (f e)) s := by
  unfold wp mapError
  refine follow_congr ?_
  cases (m s).res <;> rfl

variable {m : Prog σ ℓ ε α}

lemma wp_mono (hQ : ∀ a t, Q a t → Q' a t) (hE : ∀ e t, E e t → E' e t)
    (h : wp A G m Q E s) : wp A G m Q' E' s := by
  refine Follow.mono (fun _ _ _ h => h) (fun _ _ _ h => h) (fun t => ?_) h
  cases (m s).res with
  | ok a => exact hQ a t
  | error e => exact hE e t

/-- Two guarantees of one program, with their postconditions. -/
lemma wp_and (h : wp A G m Q E s) (h' : wp A H m Q' E' s) :
    wp A (fun s l t => G s l t ∧ H s l t) m (fun a t => Q a t ∧ Q' a t)
      (fun e t => E e t ∧ E' e t) s := by
  refine Follow.mono (fun _ _ _ h => h) (fun _ _ _ h => h) (fun t ht => ?_) (Follow.and h h')
  cases hm : (m s).res with
  | ok a => rw [hm] at ht; exact ht
  | error e => rw [hm] at ht; exact ht

lemma wp_run (h : wp A G m Q E s) :
    wp A G m (fun a t => Q a t ∧ (m s).res = .ok a ∧ t = final s (m s).trace)
      (fun e t => E e t ∧ (m s).res = .error e ∧ t = final s (m s).trace) s := by
  unfold wp at h ⊢
  refine (follow_congr ?_).mp h
  cases (m s).res with
  | ok a => exact (and_iff_left ⟨rfl, rfl⟩).symm
  | error e => exact (and_iff_left ⟨rfl, rfl⟩).symm

/-- Of a run that returns only the postcondition for that matters. -/
lemma wp_of_ok {a : α} (hr : (m s).res = .ok a) (h : wp A G m Q E s) :
    wp A G m Q E' s := by
  unfold wp at h ⊢
  rw [hr] at h ⊢
  exact h

/-- The guarantee may be traded for one that is known of the steps anyway. -/
lemma wp_of_within (hm : Within H m) (h : wp A G m Q E s) :
    wp A H m Q E s := by
  have hr := hm s
  unfold wp at h ⊢
  generalize hQ : (fun t => match (m s).res with | .ok a => Q a t | .error e => E e t) = R at h ⊢
  clear hQ hm
  generalize (m s).trace = tr at hr h
  induction tr generalizing s with
  | nil => exact h
  | cons x tr ih => exact fun ha => ⟨hr.1, ih hr.2 (h ha).2⟩

lemma wp_weaken (hA : ∀ s l t, B s l t → A s l t) (h : wp A G m Q E s) :
    wp B G m Q E s :=
  Follow.mono hA (fun _ _ _ h => h) (fun _ h => h) h

end Rules

/-- `{P} m {Q | E}` under the assumption `A` with the guarantee `G`. -/
def Triple (A G : σ → ℓ → σ → Prop) (P : σ → Prop) (m : Prog σ ℓ ε α) (Q : α → σ → Prop)
    (E : ε → σ → Prop) : Prop :=
  ∀ s, P s → wp A G m Q E s

namespace Triple

variable {P P' : σ → Prop} {Q Q' : α → σ → Prop} {E E' : ε → σ → Prop} {m : Prog σ ℓ ε α}

lemma conseq (h : Triple A G P m Q E) (hP : ∀ s, P' s → P s) (hQ : ∀ a s, Q a s → Q' a s)
    (hE : ∀ e s, E e s → E' e s) : Triple A G P' m Q' E' := fun s hs =>
  wp_mono hQ hE (h s (hP s hs))

lemma bind {R : α → σ → Prop} {f : α → Prog σ ℓ ε β} {Q : β → σ → Prop}
    (hm : Triple A G P m R E) (hf : ∀ a, Triple A G (R a) (f a) Q E) :
    Triple A G P (m >>= f) Q E := fun s hs =>
  (wp_bind m f).mpr (wp_mono (fun a t => hf a t) (fun _ _ h => h) (hm s hs))

/-- What the guarantee and the postcondition of a triple say about a finished run. -/
theorem run (h : Triple A G P m Q E) {s : σ} (hs : P s) (ha : Along A s (m s).trace) :
    Along G s (m s).trace ∧
      match (m s).res with
      | .ok a => Q a (final s (m s).trace)
      | .error e => E e (final s (m s).trace) :=
  Follow.along (h s hs) ha

end Triple

/-! ### Runs of many operations -/

/-- Runs the operations one after the other; a failed one does not stop the rest. -/
def runAll : List (Prog σ ℓ ε Unit) → Prog σ ℓ ε Unit
  | [] => pure ()
  | m :: ms => do
    tryCatchThe ε m fun _ => pure ()
    runAll ms

/-- An invariant that every operation keeps, whether it fails or not, holds after any run of
them, and the guarantee holds all along. -/
theorem Triple.runAll {I : σ → Prop} {ms : List (Prog σ ℓ ε Unit)}
    (h : ∀ m ∈ ms, Triple A G I m (fun _ => I) fun _ => I) :
    Triple A G I (runAll ms) (fun _ => I) fun _ _ => False := by
  induction ms with
  | nil => exact fun s hs => hs
  | cons m ms ih =>
    refine Triple.bind (R := fun _ => I) (fun s hs => ?_)
      fun _ => ih fun n hn => h n (List.mem_cons_of_mem _ hn)
    rw [wp_tryCatch]
    exact wp_mono (fun _ _ h => h) (fun _ _ h => h) (h m List.mem_cons_self s hs)

end YogaUsb4.Prog
