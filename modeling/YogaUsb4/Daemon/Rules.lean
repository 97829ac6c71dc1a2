import YogaUsb4.Daemon.Serve

/-!
Rules of pre- and postconditions for the code of the service. What is known after a question
depends on the kernel; for a kernel that may answer anything it is the event alone.
-/

namespace YogaUsb4.Daemon

open HostState Prog

variable {κ α ε : Type} {K : Kernel κ} {A G S : World κ → Label → World κ → Prop}

/-- Nothing is assumed, or nothing is owed. -/
abbrev Free : World κ → Label → World κ → Prop := fun _ _ _ => True

/-- After each operation that the loop goes on from, `P` holds. -/
def Between (P : World κ → Prop) (s : World κ) (l : Label) (_ : World κ) : Prop :=
  l = .between → P s

lemma Interface.between {P : World κ → Prop} {s t : World κ} {l : Label} (h : Interface s l t) :
    Between P s l t := by
  rintro rfl
  exact h.elim

instance (P : World κ → Prop) [DecidablePred P] (s : World κ) (l : Label) (t : World κ) :
    Decidable (Between P s l t) :=
  match l with
  | .between => decidable_of_iff (P s) ⟨fun h _ => h, fun h => h rfl⟩
  | .asked _ => isTrue (by rintro ⟨⟩)
  | .own => isTrue (by rintro ⟨⟩)

/-! ### Conditions of the primitive programs -/

section Ask

variable {Q : α → World κ → Prop} {E : Fault → World κ → Prop} {s : World κ} {q : Ask α} {k : κ}

lemma wp_ask_ok {a : α} (h : K.answer q s.kernel = (.ok a, k)) :
    wp A G (ask K q).1 Q E s ↔
      (A s (.asked (q.event (.ok a))) (s.asked k (q.event (.ok a))) →
        G s (.asked (q.event (.ok a))) (s.asked k (q.event (.ok a))) ∧
          Q a (s.asked k (q.event (.ok a)))) := by
  simp only [wp, ask, h]
  rfl

lemma wp_ask_error {f : Fault} (h : K.answer q s.kernel = (.error f, k)) :
    wp A G (ask K q).1 Q E s ↔
      (A s (.asked (q.event (.error f))) (s.asked k (q.event (.error f))) →
        G s (.asked (q.event (.error f))) (s.asked k (q.event (.error f))) ∧
          E f (s.asked k (q.event (.error f)))) := by
  simp only [wp, ask, h]
  rfl

end Ask

instance (f : Service → Service) :
    Vc A G (assign f : Guarded (World κ) Label ε Interface Unit) where
  vc Q _ s := A s .own { s with service := f s.service } →
    G s .own { s with service := f s.service } ∧ Q () { s with service := f s.service }
  sound h := h

instance (op : Op) : Vc A G (begins op : LoopProg κ Unit) where
  vc Q _ s := A s .own { s with op := op } →
    G s .own { s with op := op } ∧ Q () { s with op := op }
  sound h := h

instance : Vc A G (goOn : LoopProg κ Unit) where
  vc Q _ s := A s .between s → G s .between s ∧ Q () s
  sound h := h

instance : Vc A G (self : Guarded (World κ) Label ε Interface Service) where
  vc Q _ s := Q s.service s
  sound h := h

instance (ok : Bool) (message : String) : Vc A G (require ok message : ServiceProg κ Unit) where
  vc Q E s := if ok then Q () s else E (.stop message) s
  sound {Q E s} h := by
    unfold require
    cases ok with
    | true => exact h
    | false => exact h

instance (m : ServiceProg κ α) (h : Errno → Fault → ServiceProg κ α) [hm : Vc A G m]
    [hh : ∀ n f, Vc A G (h n f)] : Vc A G (onOSError m h) where
  vc Q E s := hm.vc Q (fun f t =>
    match f with
    | .osError n x => (hh n (.osError n x)).vc Q E t
    | f => E f t) s
  sound {Q E s} hs := by
    refine (wp_tryCatch m.1 _).mpr (wp_mono (fun _ _ ht => ht) (fun f t ht => ?_) (hm.sound hs))
    cases f with
    | osError n x => exact (hh n (.osError n x)).sound ht
    | _ => exact ht

instance (m : ServiceProg κ α) (h : Fault → ServiceProg κ α) [hm : Vc A G m]
    [hh : ∀ f, Vc A G (h f)] : Vc A G (onFault m h) :=
  inferInstanceAs (Vc A G (tryCatchThe Fault m fun f => if f.handled then h f else throw f))

instance (m : ServiceProg κ α) [hm : Vc A G m] : Vc A G (liftM m : SleepProg κ α) :=
  inferInstanceAs (Vc A G (m.mapError Exn.fault))

instance (m : SleepProg κ α) [hm : Vc A G m] : Vc A G (liftM m : LoopProg κ α) where
  vc := hm.vc
  sound := hm.sound

instance (value : Fields) (f : Field) : Vc A G (number K value f) where
  vc Q E s := match value f with
    | none => E (.keyError f) s
    | some t => match K.int t with
      | none => E (.valueError ("invalid literal for int() with base 10: '" ++ t ++ "'")) s
      | some n => Q n s
  sound {Q E s} h := by
    unfold number
    cases hf : value f with
    | none => rw [hf] at h; exact h
    | some t =>
      rw [hf] at h
      cases ht : K.int t with
      | none => simp only [ht] at h ⊢; exact h
      | some n => simp only [ht] at h ⊢; exact h

/-! ### Conditions of the handlers -/

instance (f : Fault) : Vc A G (ejectRefused f : ServiceProg κ Unit) where
  vc Q E s := match f with
    | .stop _ => Q () s
    | f => E f s
  sound h := by
    cases f with
    | stop _ => exact h
    | _ => exact h

instance (desktop : Bool) (e : Exn) [hr : ∀ message, Vc A G (refuse K desktop message)]
    [hf : ∀ f, Vc A G (failAnswer K f)] : Vc A G (answerExn K desktop e) where
  vc Q E s := match e with
    | .busy message => (hr message).vc Q (fun f => E (.fault f)) s
    | .fault f =>
      if f.handled then (hf f).vc Q (fun f => E (.fault f)) s else E (.fault f) s
  sound {Q E s} h := by
    cases e with
    | busy message => exact (wp_mapError Exn.fault _).mpr ((hr message).sound h)
    | fault f =>
      exact Vc.sound (A := A) (G := G) (Q := Q) (E := E)
        (m := (if f.handled then liftM (failAnswer K f) else throw (.fault f) :
          SleepProg κ (Bool × String))) h

/-! ### Steps of the primitive programs -/

/-- The relation allows every answer to the question. -/
class Allows (S : World κ → Label → World κ → Prop) (q : Ask α) : Prop where
  step : ∀ (s : World κ) (k : κ) (r : Except Fault α),
    S s (.asked (q.event r)) (s.asked k (q.event r))

instance (q : Ask α) [h : Allows S q] : Keeps S (ask K q) :=
  ⟨fun s => ⟨h.step s _ _, trivial⟩⟩

instance : Keeps S (self : Guarded (World κ) Label ε Interface Service) := by
  unfold self; infer_instance

instance (ok : Bool) (message : String) : Keeps S (require ok message : ServiceProg κ Unit) := by
  unfold require; infer_instance

instance (m : ServiceProg κ α) (h : Errno → Fault → ServiceProg κ α) [Keeps S m]
    [hh : ∀ n f, Keeps S (h n f)] : Keeps S (onOSError m h) := by
  unfold onOSError
  have : ∀ f : Fault, Keeps S (match f with | .osError n _ => h n f | _ => throw f) := by
    intro f
    cases f <;> infer_instance
  infer_instance

instance (m : ServiceProg κ α) [hm : Keeps S m] : Keeps S (liftM m : SleepProg κ α) :=
  ⟨hm.within⟩

namespace AnyKernel

/-- A kernel that may answer anything: all that is known is the event. -/
scoped instance (q : Ask α) : Vc A G (ask K q) where
  vc Q E s := ∀ k, (∀ a, A s (.asked (q.event (.ok a))) (s.asked k (q.event (.ok a))) →
      G s (.asked (q.event (.ok a))) (s.asked k (q.event (.ok a))) ∧
        Q a (s.asked k (q.event (.ok a)))) ∧
    ∀ f, A s (.asked (q.event (.error f))) (s.asked k (q.event (.error f))) →
      G s (.asked (q.event (.error f))) (s.asked k (q.event (.error f))) ∧
        E f (s.asked k (q.event (.error f)))
  sound {Q E s} h := by
    rcases hr : K.answer q s.kernel with ⟨r | r, k⟩
    · exact (wp_ask_error hr).mpr ((h k).2 r)
    · exact (wp_ask_ok hr).mpr ((h k).1 r)

end AnyKernel

end YogaUsb4.Daemon
