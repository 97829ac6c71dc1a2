import Mathlib.Tactic.Common
import Mathlib.Data.List.Basic
import Mathlib.Data.Int.Notation

/-!
Programs that call out. A dialog makes one call after another and goes on with the answers; what
answers is arbitrary, and may depend on all that was said before. An act is a dialog of a C
function on a state: it returns an `int`, and 0 is success.

`Act.Meets` is a triple whose assertions speak about the whole conversation so far. An act has one
assertion for success and one for failure, and a sequence of acts ends at the first failure.
-/

namespace YogaUsb4

/-- A program that makes calls `Q`, is answered by `A`s and ends with an `α`. -/
inductive Dialog (Q A α : Type) where
  | done (a : α)
  | call (q : Q) (next : A → Dialog Q A α)

namespace Dialog

variable {Q A α β : Type}

protected def bind : Dialog Q A α → (α → Dialog Q A β) → Dialog Q A β
  | .done a, f => f a
  | .call q next, f => .call q fun r => (next r).bind f

instance : Monad (Dialog Q A) where
  pure := .done
  bind := Dialog.bind

def ask (q : Q) : Dialog Q A A := .call q .done

/-! ### Conversations -/

/-- The dialog can have this conversation and end so. -/
inductive Does : Dialog Q A α → List (Q × A) → α → Prop
  | done (a : α) : Does (.done a) [] a
  | call {q : Q} {next : A → Dialog Q A α} {r : A} {tr : List (Q × A)} {a : α}
      (h : Does (next r) tr a) : Does (.call q next) ((q, r) :: tr) a

variable {tr : List (Q × A)}

@[simp] lemma does_pure {a b : α} :
    Does (pure a : Dialog Q A α) tr b ↔ tr = [] ∧ b = a := by
  constructor
  · rintro (⟨⟩ | ⟨⟩)
    exact ⟨rfl, rfl⟩
  · rintro ⟨rfl, rfl⟩
    exact .done _

variable {d : Dialog Q A α}

lemma does_bind {f : α → Dialog Q A β} {b : β} :
    Does (d >>= f) tr b ↔ ∃ t a u, tr = t ++ u ∧ Does d t a ∧ Does (f a) u b := by
  constructor
  · intro h
    induction d generalizing tr with
    | done a => exact ⟨[], a, tr, rfl, .done a, h⟩
    | call q next ih =>
      obtain _ | ⟨h⟩ := (h : Does (.call q fun r => (next r).bind f) tr b)
      obtain ⟨t, a, u, rfl, ht, hu⟩ := ih _ h
      exact ⟨_ :: t, a, u, rfl, .call ht, hu⟩
  · rintro ⟨t, a, u, rfl, ht, hu⟩
    induction ht with
    | done a => exact hu
    | call _ ih => exact .call (ih hu)

@[simp] lemma does_ask {q : Q} {r : A} :
    Does (ask q) tr r ↔ tr = [(q, r)] := by
  constructor
  · rintro (⟨⟩ | ⟨⟨⟩ | ⟨⟩⟩)
    rfl
  · rintro rfl
    exact .call (.done r)

@[simp] lemma does_ask_bind {q : Q} {f : A → Dialog Q A β} {b : β} :
    Does (ask q >>= f) tr b ↔ ∃ r u, tr = (q, r) :: u ∧ Does (f r) u b := by
  rw [does_bind]
  constructor
  · rintro ⟨t, r, u, rfl, ht, hu⟩
    rw [does_ask] at ht
    subst ht
    exact ⟨r, u, rfl, hu⟩
  · rintro ⟨r, u, rfl, hu⟩
    exact ⟨_, r, u, rfl, does_ask.2 rfl, hu⟩

lemma Does.unique {a b : α} (ha : Does d tr a) (hb : Does d tr b) : a = b := by
  induction ha with
  | done a =>
    cases hb
    rfl
  | call _ ih =>
    obtain _ | ⟨hb⟩ := hb
    exact ih hb

/-- Whatever it is answered, the dialog makes only calls in `S` and ends in `R`. -/
def All (S : Q → Prop) (R : α → Prop) : Dialog Q A α → Prop
  | .done a => R a
  | .call q next => S q ∧ ∀ r, All S R (next r)

section All

variable {S : Q → Prop} {R : α → Prop}

@[simp] lemma all_pure {a : α} : All S R (pure a : Dialog Q A α) ↔ R a := Iff.rfl

@[simp] lemma all_ask_bind {q : Q} {f : A → Dialog Q A α} :
    All S R (ask q >>= f) ↔ S q ∧ ∀ r, All S R (f r) := Iff.rfl

lemma All.bind {T : β → Prop} {f : α → Dialog Q A β} (hd : All S R d)
    (hf : ∀ a, R a → All S T (f a)) : All S T (d >>= f) := by
  induction d with
  | done a => exact hf a hd
  | call q next ih => exact ⟨hd.1, fun r => ih r (hd.2 r)⟩

lemma All.mono {T : α → Prop} (hR : ∀ a, R a → T a) (hd : All S R d) :
    All S T d := by
  induction d with
  | done a => exact hR a hd
  | call q next ih => exact ⟨hd.1, fun r => ih r (hd.2 r)⟩

lemma All.does {a : α} (h : All S R d) (hd : Does d tr a) :
    (∀ x ∈ tr, S x.1) ∧ R a := by
  induction hd with
  | done a => exact ⟨fun _ hx => absurd hx List.not_mem_nil, h⟩
  | call _ ih => exact ⟨List.forall_mem_cons.2 ⟨h.1, (ih (h.2 _)).1⟩, (ih (h.2 _)).2⟩

end All

/-- The conversation with someone who answers by what was said, latest first. -/
def run (answer : List (Q × A) → Q → A) : List (Q × A) → Dialog Q A α → List (Q × A) × α
  | _, .done a => ([], a)
  | past, .call q next =>
    let r := answer past q
    let rest := run answer ((q, r) :: past) (next r)
    ((q, r) :: rest.1, rest.2)

lemma run_does (answer : List (Q × A) → Q → A) (past : List (Q × A)) (d : Dialog Q A α) :
    Does d (run answer past d).1 (run answer past d).2 := by
  induction d generalizing past with
  | done a => exact .done a
  | call q next ih => exact .call (ih _ _)

lemma run_reply (answer : List (Q × A) → Q → A) (past : List (Q × A)) (d : Dialog Q A α) :
    ∀ e ∈ (run answer past d).1, ∃ now, e.2 = answer now e.1 := by
  induction d generalizing past with
  | done a => exact fun e he => absurd he List.not_mem_nil
  | call q next ih =>
    intro e he
    rcases List.mem_cons.1 he with rfl | he
    · exact ⟨past, rfl⟩
    · exact ih _ _ e he

end Dialog

open Dialog

/-- A C function on a state `σ`; it returns 0 on success. -/
abbrev Act (Q A σ : Type) := σ → Dialog Q A (σ × ℤ)

namespace Act

variable {Q A σ ι : Type}

/-- An assignment. -/
def set (f : σ → σ) : Act Q A σ := fun s => pure (f s, 0)

/-- `ret = f(); if (ret) return ret; return g();` -/
def seq (f g : Act Q A σ) : Act Q A σ := fun s => do
  let (s, ret) ← f s
  if ret ≠ 0 then return (s, ret) else g s

/-- The acts in order, up to the first that fails. -/
def list : List (Act Q A σ) → Act Q A σ
  | [] => fun s => pure (s, 0)
  | f :: l => seq f (list l)

variable {tr : List (Q × A)}

lemma does_return {ρ : Type} {s s' : σ} {r ret : ρ} :
    Does (pure (s, r) : Dialog Q A (σ × ρ)) tr (s', ret) ↔ tr = [] ∧ s' = s ∧ ret = r := by
  rw [does_pure, Prod.mk.injEq]

lemma does_set {f : σ → σ} {s s' : σ} {ret : ℤ} :
    Does (set f s) tr (s', ret) ↔ tr = [] ∧ s' = f s ∧ ret = 0 := does_return

lemma does_seq {f g : Act Q A σ} {s s' : σ} {ret : ℤ} :
    Does (seq f g s) tr (s', ret) ↔ (Does (f s) tr (s', ret) ∧ ret ≠ 0) ∨
      ∃ t u s₁, tr = t ++ u ∧ Does (f s) t (s₁, 0) ∧ Does (g s₁) u (s', ret) := by
  unfold seq
  rw [does_bind]
  constructor
  · rintro ⟨t, ⟨s₁, ret₁⟩, u, rfl, hf, hg⟩
    dsimp only at hg
    split at hg
    · obtain ⟨rfl, rfl, rfl⟩ := does_return.1 hg
      rw [List.append_nil]
      exact .inl ⟨hf, ‹_›⟩
    · obtain rfl : ret₁ = 0 := not_not.1 ‹_›
      exact .inr ⟨t, u, s₁, rfl, hf, hg⟩
  · rintro (⟨hf, h⟩ | ⟨t, u, s₁, rfl, hf, hg⟩)
    · exact ⟨tr, _, [], (List.append_nil tr).symm, hf, by simp [h]⟩
    · exact ⟨t, _, u, rfl, hf, by simpa using hg⟩

lemma does_list_nil {s s' : σ} {ret : ℤ} :
    Does (list [] s) tr (s', ret) ↔ tr = [] ∧ s' = s ∧ ret = 0 := does_return

lemma does_nil {s : σ} : Does (list [] s : Dialog Q A (σ × ℤ)) [] (s, 0) := .done _

variable {l : List (Act Q A σ)}

lemma does_cons {f : Act Q A σ} {s s₁ s₂ : σ} {t u : List (Q × A)} {ret : ℤ}
    (hf : Does (f s) t (s₁, 0)) (hl : Does (list l s₁) u (s₂, ret)) :
    Does (list (f :: l) s) (t ++ u) (s₂, ret) :=
  does_bind.2 ⟨t, (s₁, 0), u, rfl, hf, by simpa using hl⟩

lemma does_list_unit {l : List (Act Q A Unit)}
    (h : Does (list l ()) tr ((), 0)) : ∀ f ∈ l, ∃ t, t ⊆ tr ∧ Does (f ()) t ((), 0) := by
  induction l generalizing tr with
  | nil => exact fun f hf => absurd hf List.not_mem_nil
  | cons g l ih =>
    rcases does_seq.1 h with ⟨-, h0⟩ | ⟨t, u, ⟨⟩, rfl, hg, hl⟩
    · exact absurd rfl h0
    intro f hf
    rcases List.mem_cons.1 hf with rfl | hf
    · exact ⟨t, List.subset_append_left t u, hg⟩
    · obtain ⟨v, hv, hdoes⟩ := ih hl f hf
      exact ⟨v, List.subset_append_of_subset_right t hv, hdoes⟩

/-! ### Triples -/

/-- From a conversation and a state in `P`, a run of the act that succeeds leads to `R`, and one
that fails leads to `E`. -/
def Meets (P : List (Q × A) → σ → Prop) (f : Act Q A σ) (R : List (Q × A) → σ → Prop)
    (E : List (Q × A) → σ → ℤ → Prop) : Prop :=
  ∀ ⦃past s⦄, P past s → ∀ ⦃tr s' ret⦄, Does (f s) tr (s', ret) →
    (ret = 0 → R (past ++ tr) s') ∧ (ret ≠ 0 → E (past ++ tr) s' ret)

variable {P P' R R' : List (Q × A) → σ → Prop} {E E' : List (Q × A) → σ → ℤ → Prop}
variable {f g : Act Q A σ}

lemma Meets.conseq (h : Meets P f R E) (hp : ∀ past s, P' past s → P past s)
    (hr : ∀ past s, R past s → R' past s) (he : ∀ past s ret, E past s ret → E' past s ret) :
    Meets P' f R' E' := by
  intro past s hs tr s' ret hd
  obtain ⟨h₁, h₂⟩ := h (hp _ _ hs) hd
  exact ⟨fun h0 => hr _ _ (h₁ h0), fun h0 => he _ _ _ (h₂ h0)⟩

lemma Meets.exists {P : ι → List (Q × A) → σ → Prop} (h : ∀ x, Meets (P x) f R E) :
    Meets (fun past s => ∃ x, P x past s) f R E := by
  rintro past s ⟨x, hs⟩ tr s' ret hd
  exact h x hs hd

lemma Meets.true : Meets P f (fun _ _ => True) (fun _ _ _ => True) :=
  fun _ _ _ _ _ _ _ => ⟨fun _ => trivial, fun _ => trivial⟩

lemma Meets.set {u : σ → σ} (h : ∀ past s, P past s → R past (u s)) :
    Meets P (Act.set u) R E := by
  intro past s hs tr s' ret hd
  simp only [Act.set, does_pure, Prod.mk.injEq] at hd
  obtain ⟨rfl, rfl, rfl⟩ := hd
  rw [List.append_nil]
  exact ⟨fun _ => h _ _ hs, fun h0 => absurd rfl h0⟩

lemma Meets.seq (hf : Meets P f R E) (hg : Meets R g R' E) : Meets P (seq f g) R' E := by
  intro past s hs tr s' ret hd
  obtain ⟨t, ⟨s₁, ret₁⟩, u, rfl, ht, hu⟩ := does_bind.1 hd
  obtain ⟨h₁, h₂⟩ := hf hs ht
  by_cases h0 : ret₁ = 0
  · simp only [h0, ne_eq, not_true_eq_false, if_false] at hu
    rw [← List.append_assoc]
    exact hg (h₁ h0) hu
  · simp only [h0, ne_eq, not_false_eq_true, if_true, does_pure, Prod.mk.injEq] at hu
    obtain ⟨rfl, rfl, rfl⟩ := hu
    rw [List.append_nil]
    exact ⟨fun h => absurd h h0, h₂⟩

lemma Meets.nil : Meets P (list []) P E := Meets.set (u := id) fun _ _ h => h

lemma Meets.cons (hf : Meets P f R E) (hl : Meets R (list l) R' E) :
    Meets P (list (f :: l)) R' E := hf.seq hl

/-- The rule of a loop over a table: `I` knows the entries that are done. -/
lemma Meets.table (act : ι → Act Q A σ) (I : List ι → List (Q × A) → σ → Prop) (l : List ι)
    (h : ∀ l₁ x l₂, l = l₁ ++ x :: l₂ → Meets (I l₁) (act x) (I (l₁ ++ [x])) E) :
    Meets (I []) (list (l.map act)) (I l) E := by
  -- Generalized to a loop that is under way, with `l₁` done and `l₂` left.
  suffices hgen : ∀ l₂ l₁, l = l₁ ++ l₂ → Meets (I l₁) (list (l₂.map act)) (I l) E from
    hgen l [] rfl
  intro l₂
  induction l₂ with
  | nil =>
    rintro l₁ rfl
    rw [List.append_nil]
    exact Meets.nil
  | cons x l₂ ih =>
    intro l₁ hl
    exact (h l₁ x l₂ hl).cons (ih (l₁ ++ [x]) (by rw [hl, List.append_assoc]; rfl))

/-! ### Frames -/

/-- Whatever it is answered, the act makes only calls in `S` and relates the states by `K`. -/
def Within (S : Q → Prop) (K : σ → σ → Prop) (f : Act Q A σ) : Prop :=
  ∀ s, (f s).All S fun x => K s x.1

section Within

variable {S : Q → Prop} {K : σ → σ → Prop}

lemma Within.seq (ht : ∀ s s' s'', K s s' → K s' s'' → K s s'') (hf : Within S K f)
    (hg : Within S K g) : Within S K (seq f g) := by
  intro s
  refine (hf s).bind fun x hx => ?_
  dsimp only
  split
  · exact hx
  · exact All.mono (fun y hy => ht _ _ _ hx hy) (hg x.1)

lemma Within.list (hr : ∀ s, K s s) (ht : ∀ s s' s'', K s s' → K s' s'' → K s s'')
    {l : List (Act Q A σ)} (h : ∀ f ∈ l, Within S K f) : Within S K (list l) := by
  induction l with
  | nil => exact hr
  | cons f l ih =>
    exact Within.seq ht (h f List.mem_cons_self) (ih fun g hg => h g (List.mem_cons_of_mem _ hg))

end Within

/-- The act leaves this part of the state as it is. -/
def Fixes {β : Type} (p : σ → β) (f : Act Q A σ) : Prop :=
  ∀ ⦃s tr s' ret⦄, Does (f s) tr (s', ret) → p s' = p s

variable {β : Type} {p : σ → β}

lemma Fixes.set {u : σ → σ} (h : ∀ s, p (u s) = p s) : Fixes p (Act.set u : Act Q A σ) := by
  intro s tr s' ret hd
  simp only [Act.set, does_pure, Prod.mk.injEq] at hd
  obtain ⟨-, rfl, -⟩ := hd
  exact h s

lemma Fixes.seq (hf : Fixes p f) (hg : Fixes p g) : Fixes p (seq f g) := by
  intro s tr s' ret hd
  obtain ⟨t, ⟨s₁, ret₁⟩, u, rfl, ht, hu⟩ := does_bind.1 hd
  by_cases h0 : ret₁ = 0
  · simp only [h0, ne_eq, not_true_eq_false, if_false] at hu
    rw [hg hu, hf ht]
  · simp only [h0, ne_eq, not_false_eq_true, if_true, does_pure, Prod.mk.injEq] at hu
    obtain ⟨-, rfl, -⟩ := hu
    exact hf ht

lemma Fixes.list (h : ∀ f ∈ l, Fixes p f) : Fixes p (list l) := by
  induction l with
  | nil => exact Fixes.set (u := id) fun _ => rfl
  | cons f l ih =>
    exact (h f List.mem_cons_self).seq (ih fun g hg => h g (List.mem_cons_of_mem _ hg))

end Act

/-! ### Results of C functions -/

/-- The `errno` numbers. -/
def eperm : ℤ := 1
def enoent : ℤ := 2
def eio : ℤ := 5
def eagain : ℤ := 11
def enomem : ℤ := 12
def ebusy : ℤ := 16
def enodev : ℤ := 19
def einval : ℤ := 22
def efbig : ℤ := 27
def enospc : ℤ := 28
def erange : ℤ := 34
def eloop : ℤ := 40
def etime : ℤ := 62
def enolink : ℤ := 67
def eproto : ℤ := 71
def ebadmsg : ℤ := 74
def eoverflow : ℤ := 75
def eprotonosupport : ℤ := 93
def eopnotsupp : ℤ := 95
def enotconn : ℤ := 107
def eshutdown : ℤ := 108
def etimedout : ℤ := 110
def ehostdown : ℤ := 112
def ealready : ℤ := 114
def estale : ℤ := 116
def eremoteio : ℤ := 121
def eprobeDefer : ℤ := 517

/-- `ret > 0 ? -EIO : ret`. -/
def orEio (ret : ℤ) : ℤ := if 0 < ret then -eio else ret

@[simp] lemma orEio_eq_zero {ret : ℤ} : orEio ret = 0 ↔ ret = 0 := by
  unfold orEio eio
  split <;> omega

end YogaUsb4
