import YogaUsb4.Dialog

/-!
Dialogs under observation. An observer keeps a state of its own of what was said; it says which
calls are allowed in that state, and which answers are to be expected. A dialog is safe if, for as
long as the answers are the expected ones, its calls are allowed and its end is as announced.

A dialog whose calls are carried out by dialogs of the level below is `serve`d by them, and what is
known of the upper level holds of the whole (`Safe.serve`).
-/

namespace YogaUsb4

/-- An observer with the state `γ`. -/
structure Watch (Q A γ : Type) where
  look : γ → Q → A → γ
  allow : γ → Q → Prop := fun _ _ => True
  expect : γ → Q → A → Prop := fun _ _ _ => True

namespace Watch

variable {Q A γ : Type} (w : Watch Q A γ)

/-- What the observer knows after a conversation. -/
def after (g : γ) (tr : List (Q × A)) : γ := tr.foldl (fun g e => w.look g e.1 e.2) g

/-- Every call was allowed when it was made. -/
def Allowed (g : γ) (tr : List (Q × A)) : Prop :=
  ∀ pre q r post, tr = pre ++ (q, r) :: post → w.allow (w.after g pre) q

/-- Every answer was to be expected. -/
def Honest (g : γ) (tr : List (Q × A)) : Prop :=
  ∀ pre q r post, tr = pre ++ (q, r) :: post → w.expect (w.after g pre) q r

variable {w}

@[simp] lemma after_nil (g : γ) : w.after g [] = g := rfl

@[simp] lemma after_cons (g : γ) (q : Q) (r : A) (tr : List (Q × A)) :
    w.after g ((q, r) :: tr) = w.after (w.look g q r) tr := rfl

lemma after_append (g : γ) (t u : List (Q × A)) : w.after g (t ++ u) = w.after (w.after g t) u :=
  List.foldl_append

variable {tr : List (Q × A)}

lemma Allowed.cons {g : γ} {q : Q} {r : A}
    (h : w.Allowed (w.look g q r) tr) (hq : w.allow g q) : w.Allowed g ((q, r) :: tr) := by
  intro pre p s post heq
  cases pre with
  | nil =>
    obtain ⟨⟨rfl, -⟩, -⟩ := by simpa using heq
    exact hq
  | cons e pre =>
    obtain ⟨rfl, rfl⟩ := by simpa using heq
    exact h pre p s post rfl

lemma Allowed.head {g : γ} {q : Q} {r : A} (h : w.Allowed g ((q, r) :: tr)) :
    w.allow g q := h [] q r tr rfl

lemma Allowed.tail {g : γ} {q : Q} {r : A} (h : w.Allowed g ((q, r) :: tr)) :
    w.Allowed (w.look g q r) tr := by
  intro pre p s post heq
  exact h ((q, r) :: pre) p s post (by rw [heq]; rfl)

lemma Allowed.append {g : γ} {t u : List (Q × A)} (ht : w.Allowed g t)
    (hu : w.Allowed (w.after g t) u) : w.Allowed g (t ++ u) := by
  induction t generalizing g with
  | nil => exact hu
  | cons e t ih => exact (ih ht.tail hu).cons ht.head

lemma Honest.tail {g : γ} {q : Q} {r : A} (h : w.Honest g ((q, r) :: tr)) :
    w.Honest (w.look g q r) tr := by
  intro pre p s post heq
  exact h ((q, r) :: pre) p s post (by rw [heq]; rfl)

def prod {δ : Type} (w : Watch Q A γ) (v : Watch Q A δ) : Watch Q A (γ × δ) where
  look g q r := (w.look g.1 q r, v.look g.2 q r)
  allow g q := w.allow g.1 q ∧ v.allow g.2 q
  expect g q r := w.expect g.1 q r ∧ v.expect g.2 q r

end Watch

namespace Dialog

variable {Q A α β γ : Type} (w : Watch Q A γ)

protected lemma bind_assoc {δ : Type} (d : Dialog Q A α) (f : α → Dialog Q A β)
    (k : β → Dialog Q A δ) : d >>= f >>= k = d >>= fun a => f a >>= k := by
  induction d with
  | done a => rfl
  | call q next ih => exact congrArg (Dialog.call q) (funext ih)

/-- From the observer's state on, the calls are allowed and the end is in `R`. -/
def Safe (R : γ → α → Prop) : Dialog Q A α → γ → Prop
  | .done a, g => R g a
  | .call q next, g => w.allow g q ∧ ∀ r, w.expect g q r → Safe R (next r) (w.look g q r)

variable {w} {R : γ → α → Prop} {g : γ}

@[simp] lemma safe_pure {a : α} : Safe w R (pure a : Dialog Q A α) g ↔ R g a := Iff.rfl

@[simp] lemma safe_ask {R : γ → A → Prop} {q : Q} :
    Safe w R (ask q) g ↔ w.allow g q ∧ ∀ r, w.expect g q r → R (w.look g q r) r := Iff.rfl

lemma safe_ask_bind {q : Q} {f : A → Dialog Q A α} : Safe w R (ask q >>= f) g ↔
    w.allow g q ∧ ∀ r, w.expect g q r → Safe w R (f r) (w.look g q r) := Iff.rfl

variable {d : Dialog Q A α}

@[simp] lemma safe_bind {R : γ → β → Prop} {f : α → Dialog Q A β} :
    Safe w R (d >>= f) g ↔ Safe w (fun g a => Safe w R (f a) g) d g := by
  induction d generalizing g with
  | done a => rfl
  | call q next ih => exact and_congr_right fun _ => forall₂_congr fun r _ => ih r

@[simp] lemma safe_ite {c : Prop} [Decidable c] {d e : Dialog Q A α} :
    Safe w R (if c then d else e) g ↔ if c then Safe w R d g else Safe w R e g := by
  split <;> rfl

lemma Safe.mono {R' : γ → α → Prop} (h : Safe w R d g)
    (hR : ∀ g a, R g a → R' g a) : Safe w R' d g := by
  induction d generalizing g with
  | done a => exact hR g a h
  | call q next ih => exact ⟨h.1, fun r hr => ih r (h.2 r hr)⟩

lemma Safe.prod {δ : Type} {v : Watch Q A δ} {R' : δ → α → Prop} {g' : δ}
    (h : Safe w R d g) (h' : Safe v R' d g') :
    Safe (w.prod v) (fun x a => R x.1 a ∧ R' x.2 a) d (g, g') := by
  induction d generalizing g g' with
  | done a => exact ⟨h, h'⟩
  | call q next ih =>
    exact ⟨⟨h.1, h'.1⟩, fun r hr => ih r (h.2 r hr.1) (h'.2 r hr.2)⟩

lemma safe_seq {σ : Type} {R : γ → σ × ℤ → Prop} {f h : Act Q A σ} {s : σ} :
    Safe w R (Act.seq f h s) g ↔
      Safe w (fun g x => if x.2 ≠ 0 then R g x else Safe w R (h x.1) g) (f s) g := by
  unfold Act.seq
  rw [safe_bind]
  simp only [safe_ite, safe_pure]

/-- What an observed conversation was like. -/
theorem Safe.does {tr : List (Q × A)} {a : α} (h : Safe w R d g)
    (hd : Does d tr a) (ht : w.Honest g tr) : w.Allowed g tr ∧ R (w.after g tr) a := by
  induction hd generalizing g with
  | done a => exact ⟨fun pre _ _ post heq => absurd heq (by simp), h⟩
  | call _ ih =>
    obtain ⟨hall, hend⟩ := ih (h.2 _ (ht [] _ _ _ rfl)) ht.tail
    exact ⟨hall.cons h.1, hend⟩

/-- One who answers as expected has an honest conversation. -/
lemma run_honest {answer : List (Q × A) → Q → A}
    (h : ∀ past q, w.expect (w.after g past.reverse) q (answer past q)) (d : Dialog Q A α) :
    w.Honest g (run answer [] d).1 := by
  suffices hgen : ∀ past, w.Honest (w.after g past.reverse) (run answer past d).1 from hgen []
  induction d with
  | done a => exact fun past pre q r post heq => absurd heq (by simp [run])
  | call q next ih =>
    intro past pre p r post heq
    cases pre with
    | nil =>
      obtain ⟨⟨rfl, rfl⟩, -⟩ := by simpa [run] using heq
      exact h past q
    | cons e pre =>
      obtain ⟨rfl, hrest⟩ := by simpa [run] using heq
      have := ih _ ((q, answer past q) :: past) pre p r post hrest
      simpa [Watch.after_append] using this

/-! ### Dialogs that may fail -/

/-- A dialog that ends with an error or a value. -/
abbrev Try (Q A α : Type) := ExceptT ℤ (Dialog Q A) α

def Try.ask (q : Q) : Try Q A A := ExceptT.lift (Dialog.ask q)

/-- The calls are allowed, and the end is in `R` with its value or in `E` with its error. -/
def Runs (w : Watch Q A γ) (R : γ → α → Prop) (E : γ → ℤ → Prop) (m : Try Q A α) (g : γ) : Prop :=
  Safe w (fun g r => match r with | .ok a => R g a | .error e => E g e) m.run g

section Runs

variable {E : γ → ℤ → Prop}

@[simp] lemma runs_pure {a : α} : Runs w R E (pure a : Try Q A α) g ↔ R g a := Iff.rfl

@[simp] lemma runs_throw {e : ℤ} : Runs w R E (throw e : Try Q A α) g ↔ E g e := Iff.rfl

lemma runs_ask {R : γ → A → Prop} {q : Q} : Runs w R E (Try.ask q) g ↔
    w.allow g q ∧ ∀ r, w.expect g q r → R (w.look g q r) r := Iff.rfl

lemma runs_bind {R : γ → β → Prop} {m : Try Q A α} {f : α → Try Q A β} :
    Runs w R E (m >>= f) g ↔ Runs w (fun g a => Runs w R E (f a) g) E m g := by
  change Safe w _ (m.run >>= ExceptT.bindCont f) g ↔ _
  rw [safe_bind, Runs]
  have hcont : ∀ g (x : Except ℤ α), Safe w (fun g r => match r with
      | .ok a => R g a | .error e => E g e) (ExceptT.bindCont f x) g ↔
      match x with | .ok a => Runs w R E (f a) g | .error e => E g e := by
    intro g x
    cases x <;> rfl
  simp only [hcont]

lemma runs_lift : Runs w R E (ExceptT.lift d) g ↔ Safe w R d g := by
  change Safe w _ (d >>= fun a => pure (Except.ok a : Except ℤ α)) g ↔ _
  rw [safe_bind]
  rfl

lemma Runs.mono {R' : γ → α → Prop} {E' : γ → ℤ → Prop} {m : Try Q A α} (h : Runs w R E m g)
    (hR : ∀ g a, R g a → R' g a) (hE : ∀ g e, E g e → E' g e) : Runs w R' E' m g := by
  refine Safe.mono h fun g r hr => ?_
  cases r with
  | ok a => exact hR g a hr
  | error e => exact hE g e hr

end Runs

/-! ### Two levels -/

variable {P B σ δ : Type}

/-- Each call is carried out by a dialog of the level below, which may keep a state. -/
def serve (f : Q → σ → Dialog P B (σ × A)) : Dialog Q A α → σ → Dialog P B (σ × α)
  | .done a, s => pure (s, a)
  | .call q next, s => f q s >>= fun x => serve f (next x.2) x.1

/-- What is safe above is safe in whole, if every call above is carried out as the upper observer
expects and `I` ties the two observers and the state together. -/
theorem Safe.serve {v : Watch P B δ} {f : Q → σ → Dialog P B (σ × A)} {I : γ → δ → σ → Prop}
    (hf : ∀ q g e s, I g e s → w.allow g q →
      Safe v (fun e x => w.expect g q x.2 ∧ I (w.look g q x.2) e x.1) (f q s) e)
    {d : Dialog Q A α} (hd : Safe w R d g) {e : δ} {s : σ} (hI : I g e s) :
    Safe v (fun e x => ∃ g, R g x.2 ∧ I g e x.1) (serve f d s) e := by
  induction d generalizing g e s with
  | done a => exact ⟨g, hd, hI⟩
  | call q next ih =>
    refine safe_bind.2 ((hf q g e s hI hd.1).mono fun e x hx => ?_)
    exact ih x.2 (hd.2 x.2 hx.1) hx.2

end Dialog

end YogaUsb4
