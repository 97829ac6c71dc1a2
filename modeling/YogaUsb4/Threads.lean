import YogaUsb4.Steps
import Mathlib.Algebra.Order.BigOperators.Group.List
import Mathlib.Algebra.Order.Group.Nat
import Mathlib.Algebra.Ring.Nat

/-!
Threads over a shared state. Each thread is a value that says where it is; a step of one of them
changes the shared state and the thread, and may start further threads. What all of them do to one
number is known from what a single step does to it.
-/

namespace YogaUsb4.Threads

variable {σ τ γ : Type}

/-- What a step of a thread leaves: the shared state, the thread, and what it started. -/
structure Move (σ τ : Type) where
  shared : σ
  self : τ
  started : List τ := []

/-- A shared state and the threads over it, those that are done included. -/
structure Pool (σ τ : Type) where
  shared : σ
  threads : List τ

/-- Thread `i` takes a step; one that waits, or is not there, takes none. -/
def Pool.move (next : σ → τ → γ → Option (Move σ τ)) (s : Pool σ τ) (i : ℕ) (c : γ) : Pool σ τ :=
  match s.threads[i]? with
  | none => s
  | some t =>
    match next s.shared t c with
    | none => s
    | some m => ⟨m.shared, s.threads.set i m.self ++ m.started⟩

/-- What the threads have of a quantity together. -/
def Pool.total (w : τ → ℕ) (s : Pool σ τ) : ℕ := (s.threads.map w).sum

variable {next : σ → τ → γ → Option (Move σ τ)} {s : Pool σ τ}

lemma mem_set_append {l new : List τ} {i : ℕ} {b t : τ} (h : t ∈ l.set i b ++ new) :
    t ∈ l ∨ t = b ∨ t ∈ new := by
  rcases List.mem_append.1 h with h | h
  · rcases List.mem_or_eq_of_mem_set h with h | h
    · exact .inl h
    · exact .inr (.inl h)
  · exact .inr (.inr h)

lemma mem_or_mem_set {l : List τ} {i : ℕ} {t u : τ} (ht : l[i]? = some t) (hu : u ∈ l) (b : τ) :
    u = t ∨ u ∈ l.set i b := by
  obtain ⟨j, hj⟩ := List.mem_iff_getElem?.1 hu
  by_cases hij : i = j
  · subst hij
    exact .inl (Option.some.inj (hj.symm.trans ht))
  · refine .inr (List.mem_iff_getElem?.2 ⟨j, ?_⟩)
    rw [List.getElem?_set_ne hij]
    exact hj

/-- Everything a step can do. -/
theorem Pool.move_cases (i : ℕ) (c : γ) :
    s.move next i c = s ∨
      ∃ t m, s.threads[i]? = some t ∧ next s.shared t c = some m ∧
        s.move next i c = ⟨m.shared, s.threads.set i m.self ++ m.started⟩ := by
  unfold Pool.move
  cases ht : s.threads[i]? with
  | none => exact .inl rfl
  | some t =>
    cases hm : next s.shared t c with
    | none => simp [hm]
    | some m => exact .inr ⟨t, m, rfl, hm, by simp [hm]⟩

lemma sum_map_set (w : τ → ℕ) {l : List τ} {i : ℕ} {a : τ} (h : l[i]? = some a) (b : τ) :
    ((l.set i b).map w).sum + w a = (l.map w).sum + w b := by
  induction l generalizing i with
  | nil => simp at h
  | cons x l ih =>
    cases i with
    | zero =>
      obtain rfl : x = a := by simpa using h
      simp only [List.set_cons_zero, List.map_cons, List.sum_cons]
      omega
    | succ i =>
      have := ih (i := i) (by simpa using h)
      simp only [List.set_cons_succ, List.map_cons, List.sum_cons]
      omega

/-- The total after a step, from what the step did to the thread and what it started. -/
lemma Pool.total_move (w : τ → ℕ) {i : ℕ} {t : τ} {m : Move σ τ} (ht : s.threads[i]? = some t) :
    Pool.total w ⟨m.shared, s.threads.set i m.self ++ m.started⟩ + w t =
      s.total w + w m.self + (m.started.map w).sum := by
  have := sum_map_set w ht m.self
  simp only [Pool.total, List.map_append, List.sum_append]
  omega

lemma Pool.le_total (w : τ → ℕ) {t : τ} (h : t ∈ s.threads) : w t ≤ s.total w :=
  List.le_sum_of_mem (List.mem_map_of_mem h)

lemma Pool.add_le_total (w : τ → ℕ) {t u : τ} (ht : t ∈ s.threads) (hu : u ∈ s.threads)
    (hne : t ≠ u) : w t + w u ≤ s.total w := by
  obtain ⟨shared, threads⟩ := s
  simp only [Pool.total] at ht hu ⊢
  induction threads with
  | nil => cases ht
  | cons x l ih =>
    simp only [List.map_cons, List.sum_cons]
    rcases List.mem_cons.1 ht with rfl | ht' <;> rcases List.mem_cons.1 hu with rfl | hu'
    · exact absurd rfl hne
    · have := List.le_sum_of_mem (List.mem_map_of_mem (f := w) hu')
      omega
    · have := List.le_sum_of_mem (List.mem_map_of_mem (f := w) ht')
      omega
    · have := ih ht' hu'
      omega

lemma Pool.total_eq_zero (w : τ → ℕ) (h : ∀ t ∈ s.threads, w t = 0) : s.total w = 0 := by
  refine List.sum_eq_zero fun n hn => ?_
  obtain ⟨t, ht, rfl⟩ := List.mem_map.1 hn
  exact h t ht

@[simp] lemma Pool.total_append (w : τ → ℕ) (d : σ) (ts us : List τ) :
    Pool.total w ⟨d, ts ++ us⟩ = Pool.total w ⟨d, ts⟩ + Pool.total w ⟨d, us⟩ := by
  simp [Pool.total]

@[simp] lemma Pool.total_singleton (w : τ → ℕ) (d : σ) (t : τ) : Pool.total w ⟨d, [t]⟩ = w t := by
  simp [Pool.total]

end YogaUsb4.Threads
