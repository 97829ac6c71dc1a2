import YogaUsb4.Daemon.Rules

/-!
Rules for one question at a time, where the kernel's own answer is at hand, and events that stay
in the log.
-/

namespace YogaUsb4.Daemon

open Prog

variable {κ : Type} {K : Kernel κ} {s : World κ} {A : World κ → Label → World κ → Prop}

lemma wp_self {ε : Type} {Q : Service → World κ → Prop} {E : ε → World κ → Prop} :
    wp A Free (self : Guarded (World κ) Label ε Interface Service).1 Q E s ↔ Q s.service s :=
  Iff.rfl

lemma wp_ask {α : Type} {q : Ask α} {Q : α → World κ → Prop} {E : Fault → World κ → Prop}
    (hok : ∀ a, (K.answer q s.kernel).1 = .ok a →
      Q a (s.asked (K.answer q s.kernel).2 (q.event (.ok a))))
    (herror : ∀ f, (K.answer q s.kernel).1 = .error f →
      E f (s.asked (K.answer q s.kernel).2 (q.event (.error f)))) :
    wp A Free (ask K q).1 Q E s := by
  rcases hr : K.answer q s.kernel with ⟨r | r, k⟩
  · rw [wp_ask_error hr]
    rw [hr] at herror
    exact fun _ => ⟨trivial, herror r rfl⟩
  · rw [wp_ask_ok hr]
    rw [hr] at hok
    exact fun _ => ⟨trivial, hok r rfl⟩

variable {α ε : Type}

lemma wp_if {c : Prop} [Decidable c] {m n : Guarded (World κ) Label ε Interface α}
    {Q : α → World κ → Prop} {E : ε → World κ → Prop} (hm : c → wp A Free m.1 Q E s)
    (hn : ¬ c → wp A Free n.1 Q E s) : wp A Free (if c then m else n).1 Q E s := by
  by_cases h : c
  · rw [if_pos h]
    exact hm h
  · rw [if_neg h]
    exact hn h

lemma wp_true (m : Guarded (World κ) Label ε Interface α) (s : World κ) :
    wp A Free m.1 (fun _ _ => True) (fun _ _ => True) s :=
  (Vc.havoc _).sound ⟨trivial, fun _ _ => ⟨fun _ => trivial, fun _ => trivial⟩⟩

lemma final_of_wp {m : Prog (World κ) Label ε α} {P : World κ → Prop}
    (h : wp Free Free m (fun _ => P) (fun _ => P) s) : P (final s (m s).trace) := by
  have hf := (Follow.along h (along_true s _)).2
  cases hr : (m s).res with
  | ok a => simpa [hr] using hf
  | error e => simpa [hr] using hf

lemma wp_known {m : Prog (World κ) Label ε α} {Q : α → World κ → Prop}
    {E : ε → World κ → Prop} {a : α} (hr : (m s).res = .ok a) (h : Q a (final s (m s).trace)) :
    wp A Free m Q E s := by
  unfold wp
  rw [hr]
  clear hr
  generalize (m s).trace = tr at h
  induction tr generalizing s with
  | nil => exact h
  | cons x tr ih => exact fun _ => ⟨trivial, ih h⟩

lemma exists_of_not_along {P : World κ → Prop} {tr : List (Label × World κ)}
    (h : ¬ Along (fun _ _ t => ¬ P t) s tr) : ∃ x ∈ tr, P x.2 := by
  induction tr generalizing s with
  | nil => exact absurd trivial h
  | cons x tr ih =>
    by_cases hx : P x.2
    · exact ⟨x, by simp, hx⟩
    · obtain ⟨y, hy, hp⟩ := ih fun ht => h ⟨hx, ht⟩
      exact ⟨y, by simp [hy], hp⟩

/-- An event with the property was recorded since `s`. -/
def Happened (p : Event → Prop) (s t : World κ) : Prop :=
  ∃ es, t.log = s.log ++ es ∧ ∃ e ∈ es, p e

lemma wp_happened {p : Event → Prop} {u : World κ} (hu : Happened p s u)
    (m : Guarded (World κ) Label ε Interface α) :
    wp Free Free m.1 (fun _ => Happened p s) (fun _ => Happened p s) u := by
  have : Keeps (fun t l t' => Free t l t' → Happened p s t → Free t l t' ∧ Happened p s t') m := by
    refine ⟨m.2.mono fun t l t' h _ hg => ⟨trivial, ?_⟩⟩
    obtain ⟨es, hes, e, he, hp⟩ := hg
    cases l with
    | asked ev =>
      obtain ⟨k, rfl⟩ := h
      exact ⟨es ++ ev.toList, by simp [World.asked, hes], e, List.mem_append_left _ he, hp⟩
    | own => exact ⟨es, by rw [h.2.2, hes], e, he, hp⟩
    | between => exact h.elim
  exact Keeps.wp_of_invariant m hu (fun _ _ h => h) (fun _ _ h => h)

lemma wp_ask_happened {α : Type} {p : Event → Prop} {q : Ask α}
    (h : ∀ r, ∃ e, q.event r = some e ∧ p e) :
    wp Free Free (ask K q).1 (fun _ => Happened p s) (fun _ => Happened p s) s := by
  have hs : ∀ r, Happened p s (s.asked (K.answer q s.kernel).2 (q.event r)) := fun r => by
    obtain ⟨e, he, hp⟩ := h r
    exact ⟨[e], by rw [he]; rfl, e, by simp, hp⟩
  exact wp_ask (fun a _ => hs (.ok a)) fun f _ => hs (.error f)

end YogaUsb4.Daemon
