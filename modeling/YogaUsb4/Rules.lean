import YogaUsb4.Run
import YogaUsb4.Vc

/-!
Rules of pre- and postconditions for driver code, one for each primitive program. A call lets
the surroundings act first, so what is known about the system across it is a property that
their acts keep; what only operations write is unchanged by them.

A contract says what is assumed of the steps of a run, what is owed about them, and what the
surroundings may meanwhile have done to the part they write. Under a contract every primitive
program has a verification condition, and so has the code built from them.
-/

namespace YogaUsb4.Rules

open HostState Typec Driver Prog

variable {mp : Params} {A G : Sys → Label → Sys → Prop} {s : Sys}

@[simp] lemma act_back (a : EnvAct) (s : Sys) : (s.act mp a).back = s.back := rfl

@[simp] lemma act_env (a : EnvAct) (s : Sys) : (s.act mp a).env = s.env := rfl

variable (mp A G) in
/-- The acts of the surroundings keep `P`, and are in the guarantee where it holds. -/
def Stable (P : Sys → Prop) : Prop :=
  ∀ s a, P s → A s (.env a) (s.act mp a) →
    G s (.env a) (s.act mp a) ∧ P (s.act mp a)

@[simp] lemma back_eta (b : Back) :
    Back.mk b.host b.nextGeneration b.moduleHeld b.runtimeEnabled b.baselineReleased b.x1Pcie
      b.pcieResetHeld b.x1ImsiActive b.hw b.hostLocked b.configLocked b.history = b := rfl

/-- The system after a call was answered. -/
@[simp] def answered (s : Sys) (f : Hw → Hw) : Sys :=
  { s with back := { s.back with hw := f s.back.hw }, env := s.env.tail }

variable {Q : Unit → Sys → Prop}

lemma wp_surroundings {P : Sys → Prop} {E : Errno → Sys → Prop}
    (hP : Stable mp A G P) (as : List EnvAct) (hs : P s)
    (hQ : ∀ t, P t → t.back = s.back → t.env = s.env → Q () t) :
    wp A G (surroundings mp as).1 Q E s := by
  induction as generalizing s with
  | nil => exact hQ s hs rfl rfl
  | cons a as ih =>
    simp only [surroundings]
    intro ha
    obtain ⟨hg, ht⟩ := hP s a hs ha
    exact ⟨hg, ih ht fun t hPt hb he => hQ t hPt hb he⟩

section Calls

variable {P : Sys → Prop} {E : Errno → Sys → Prop} {c : Call}

lemma wp_callVal {Q : ℕ → Sys → Prop} (hP : Stable mp A G P) (hs : P s)
    (hok : ∀ t v, P t → t.back = s.back →
      A t (.call c none) (answered t c.effect) →
        G t (.call c none) (answered t c.effect) ∧ Q v (answered t c.effect))
    (herr : ∀ t e v, P t → t.back = s.back →
      A t (.call c (some e)) (answered t (c.failure · v)) →
        G t (.call c (some e)) (answered t (c.failure · v)) ∧
          E e (answered t (c.failure · v))) :
    wp A G (callVal mp c).1 Q E s := by
  simp only [callVal, Guarded.val_bind, Guarded.val_get, wp_bind, wp_get]
  refine wp_surroundings hP _ hs fun t hPt hb _ => ?_
  cases s.next.err with
  | none => exact fun ha => hok t _ hPt hb ha
  | some e => exact fun ha => herr t e _ hPt hb ha

lemma wp_call (hP : Stable mp A G P) (hs : P s) (hok : ∀ t, P t → t.back = s.back →
      A t (.call c none) (answered t c.effect) →
        G t (.call c none) (answered t c.effect) ∧ Q () (answered t c.effect))
    (herr : ∀ t e v, P t → t.back = s.back →
      A t (.call c (some e)) (answered t (c.failure · v)) →
        G t (.call c (some e)) (answered t (c.failure · v)) ∧
          E e (answered t (c.failure · v))) :
    wp A G (call mp c).1 Q E s := by
  simp only [call, Guarded.val_bind, wp_bind]
  exact wp_callVal hP hs (fun t _ hPt hb ha => hok t hPt hb ha) herr

lemma wp_perform (hP : Stable mp A G P) (hs : P s) (hok : ∀ t, P t → t.back = s.back →
      A t (.call c none) (answered t c.effect) →
        G t (.call c none) (answered t c.effect) ∧ Q () (answered t c.effect)) :
    wp A G (perform mp c).1 Q E s := by
  simp only [perform, Guarded.val_bind, Guarded.val_get, wp_bind, wp_get]
  exact wp_surroundings hP _ hs fun t hPt hb _ ha => hok t hPt hb ha

end Calls

section Control

variable {R : Sys → Label → Sys → Prop} {E : Errno → Sys → Prop}

lemma wp_attempt {Q : Option Errno → Sys → Prop} (m : Guarded Sys Label Errno R Unit) :
    wp A G (attempt m).1 Q E s ↔ wp A G m.1 (fun _ => Q none) (fun e => Q (some e)) s := by
  simp only [attempt, Guarded.val_tryCatch, Guarded.val_bind, Guarded.val_pure, wp_tryCatch,
    wp_bind]
  exact Iff.rfl

lemma wp_require (c : Bool) (e : Errno) :
    wp A G (require c e : Guarded Sys Label Errno R Unit).1 Q E s ↔
      if c then Q () s else E e s := by
  cases c <;> rfl

lemma wp_raise (r : Option Errno) :
    wp A G (raise r : Guarded Sys Label Errno R Unit).1 Q E s ↔
      match r with
      | none => Q () s
      | some e => E e s := by
  cases r <;> rfl

lemma wp_withCtx {α : Type} {Q : α → Sys → Prop} (k : X1PcieContext → BackProg mp α) :
    wp A G (Pcie.withCtx mp k).1 Q E s ↔
      match s.back.x1Pcie with
      | none => E .eperm s
      | some c => wp A G (k c).1 Q E s := by
  unfold Pcie.withCtx
  simp only [Guarded.val_bind, Guarded.val_get, wp_bind, wp_get]
  cases s.back.x1Pcie with
  | none => rfl
  | some c => rfl

lemma wp_getHost {Q : X1Host → Sys → Prop} :
    wp A G (getHost mp).1 Q E s ↔ Q s.back.host s := Iff.rfl

end Control

/-! ### Contracts -/

/-- What is assumed of the steps (`A`), what is owed about them (`G`), and how the acts of the
surroundings together may change what callbacks write (`rely`). -/
structure Contract (mp : Params) where
  A : Sys → Label → Sys → Prop
  G : Sys → Label → Sys → Prop
  rely : Back → Front → Front → Prop
  refl : ∀ b fr, rely b fr fr
  trans : ∀ b fr₁ fr₂ fr₃, rely b fr₁ fr₂ → rely b fr₂ fr₃ → rely b fr₁ fr₃
  act : ∀ s a, A s (.env a) (s.act mp a) →
    G s (.env a) (s.act mp a) ∧ rely s.back s.front (s.act mp a).front

variable {K : Contract mp}

lemma Contract.stable (K : Contract mp) (s : Sys) :
    Stable mp K.A K.G fun t => K.rely s.back s.front t.front ∧ t.back = s.back := by
  rintro t a ⟨hr, hb⟩ hA
  obtain ⟨hg, ht⟩ := K.act t a hA
  rw [hb] at ht
  exact ⟨hg, K.trans _ _ _ _ hr ht, hb⟩

/-! ### Conditions of the primitive programs -/

attribute [simp] Call.effect Call.failure onPm RuntimePm.get RuntimePm.put RuntimePm.forbid
  RuntimePm.allow

section Primitive

variable {R : Sys → Label → Sys → Prop} {α : Type}

instance (c : Call) : Vc K.A K.G (callVal mp c) where
  vc Q E s := ∀ fr env, K.rely s.back s.front fr →
    (∀ v, K.A ⟨fr, s.back, env⟩ (.call c none) (answered ⟨fr, s.back, env⟩ c.effect) →
      K.G ⟨fr, s.back, env⟩ (.call c none) (answered ⟨fr, s.back, env⟩ c.effect) ∧
        Q v (answered ⟨fr, s.back, env⟩ c.effect)) ∧
    ∀ e v, K.A ⟨fr, s.back, env⟩ (.call c (some e)) (answered ⟨fr, s.back, env⟩ (c.failure · v)) →
      K.G ⟨fr, s.back, env⟩ (.call c (some e)) (answered ⟨fr, s.back, env⟩ (c.failure · v)) ∧
        E e (answered ⟨fr, s.back, env⟩ (c.failure · v))
  sound {Q E s} h := by
    refine wp_callVal (K.stable s) ⟨K.refl _ _, rfl⟩ ?_ ?_
    · rintro ⟨fr, b, env⟩ v ⟨hr, rfl⟩ - hA
      exact (h fr env hr).1 v hA
    · rintro ⟨fr, b, env⟩ e v ⟨hr, rfl⟩ - hA
      exact (h fr env hr).2 e v hA

instance (c : Call) : Vc K.A K.G (call mp c) :=
  inferInstanceAs (Vc K.A K.G (do let _ ← callVal mp c))

instance (c : Call) : Vc K.A K.G (perform mp c) where
  vc Q _ s := ∀ fr env, K.rely s.back s.front fr →
    K.A ⟨fr, s.back, env⟩ (.call c none) (answered ⟨fr, s.back, env⟩ c.effect) →
      K.G ⟨fr, s.back, env⟩ (.call c none) (answered ⟨fr, s.back, env⟩ c.effect) ∧
        Q () (answered ⟨fr, s.back, env⟩ c.effect)
  sound {Q E s} h := by
    refine wp_perform (K.stable s) ⟨K.refl _ _, rfl⟩ ?_
    rintro ⟨fr, b, env⟩ ⟨hr, rfl⟩ - hA
    exact h fr env hr hA

instance (m : BackProg mp α) [hm : Vc K.A K.G m] : Vc K.A K.G (liftM m : DriverProg mp α) where
  vc := hm.vc
  sound := hm.sound

instance (m : Guarded Sys Label Errno R Unit) [hm : Vc K.A K.G m] : Vc K.A K.G (attempt m) where
  vc Q _ s := hm.vc (fun _ => Q none) (fun e => Q (some e)) s
  sound h := (wp_attempt m).mpr (hm.sound h)

instance (c : Bool) (e : Errno) :
    Vc K.A K.G (require c e : Guarded Sys Label Errno R Unit) where
  vc Q E s := if c then Q () s else E e s
  sound h := (wp_require c e).mpr h

instance (r : Option Errno) : Vc K.A K.G (raise r : Guarded Sys Label Errno R Unit) where
  vc Q E s := match r with
    | none => Q () s
    | some e => E e s
  sound h := (wp_raise r).mpr h

instance (f : Back → Back) : Vc K.A K.G (assign mp f) where
  vc Q _ s := K.A s .drv { s with back := f s.back } →
    K.G s .drv { s with back := f s.back } ∧ Q () { s with back := f s.back }
  sound h := h

instance (f : Back → Front → Front) : Vc K.A K.G (assignFront mp f) where
  vc Q _ s := K.A s .drv { s with front := f s.back s.front } →
    K.G s .drv { s with front := f s.back s.front } ∧ Q () { s with front := f s.back s.front }
  sound h := h

instance : Vc K.A K.G (Renew.publish mp) where
  vc Q _ s := K.A s .drv (Renew.publishSession s) →
    K.G s .drv (Renew.publishSession s) ∧ Q () (Renew.publishSession s)
  sound h := h

instance (k : X1PcieContext → BackProg mp α) [hk : ∀ c, Vc K.A K.G (k c)] :
    Vc K.A K.G (Pcie.withCtx mp k) where
  vc Q E s := match s.back.x1Pcie with
    | none => E .eperm s
    | some c => (hk c).vc Q E s
  sound {Q E s} h := by
    rw [wp_withCtx]
    cases hc : s.back.x1Pcie with
    | none => rw [hc] at h; exact h
    | some c => rw [hc] at h; exact (hk c).sound h

end Primitive

section Assignments

instance : Vc K.A K.G (getHost mp) :=
  inferInstanceAs (Vc K.A K.G (do return (← Guarded.get).back.host))

instance (f : X1Host → X1Host) : Vc K.A K.G (assignHost mp f) :=
  inferInstanceAs (Vc K.A K.G (assign mp fun b => { b with host := f b.host }))

instance (f : X1Power → X1Power) : Vc K.A K.G (assignPower mp f) :=
  inferInstanceAs (Vc K.A K.G (assignHost mp fun h => { h with power := f h.power }))

instance (f : X1PowerStop → X1PowerStop) : Vc K.A K.G (assignPowerStop mp f) :=
  inferInstanceAs (Vc K.A K.G (assignHost mp fun h => { h with powerStop := f h.powerStop }))

instance (f : X1Restore → X1Restore) : Vc K.A K.G (assignRestore mp f) :=
  inferInstanceAs (Vc K.A K.G (assignHost mp fun h => { h with restore := f h.restore }))

instance (f : X1Batch → X1Batch) : Vc K.A K.G (assignBatch mp f) :=
  inferInstanceAs (Vc K.A K.G (assignHost mp fun h => { h with batch := f h.batch }))

instance (f : X1Tunnel → X1Tunnel) : Vc K.A K.G (assignTunnel mp f) :=
  inferInstanceAs (Vc K.A K.G (assignHost mp fun h => { h with tunnel := f h.tunnel }))

instance (f : QcomUsb4Nhi → QcomUsb4Nhi) : Vc K.A K.G (assignQnhi mp f) :=
  inferInstanceAs (Vc K.A K.G (assignHost mp fun h => { h with qnhi := f h.qnhi }))

instance (f : X1DomainRetire → X1DomainRetire) : Vc K.A K.G (assignDomain mp f) :=
  inferInstanceAs (Vc K.A K.G (assignHost mp fun h => { h with domain := f h.domain }))

instance (f : X1PcieState → X1PcieState) : Vc K.A K.G (assignPcie mp f) :=
  inferInstanceAs (Vc K.A K.G (assignHost mp fun h => { h with pcie := f h.pcie }))

instance (f : X1PcieRetire → X1PcieRetire) : Vc K.A K.G (PcieRetire.assignRetire mp f) :=
  inferInstanceAs (Vc K.A K.G (assignPcie mp fun p => { p with retire := f p.retire }))

instance (f : X1PcieBus → X1PcieBus) : Vc K.A K.G (assignBus mp f) :=
  inferInstanceAs (Vc K.A K.G (assign mp fun b =>
    { b with x1Pcie := b.x1Pcie.map fun c => { c with toX1PcieBus := f c.toX1PcieBus } }))

instance (f : X1PcieHold → X1PcieHold) : Vc K.A K.G (assignHold mp f) :=
  inferInstanceAs (Vc K.A K.G (assign mp fun b =>
    { b with x1Pcie := b.x1Pcie.map fun c => { c with toX1PcieHold := f c.toX1PcieHold } }))

instance (m : ℕ → Mark) : Vc K.A K.G (mark mp m) :=
  inferInstanceAs
    (Vc K.A K.G (assign mp fun b => { b with history := b.history ++ [m b.host.generation] }))

instance : Vc K.A K.G (lockHost mp) :=
  inferInstanceAs (Vc K.A K.G (do
    perform mp (.check .lock)
    assign mp fun b => { b with hostLocked := true }))

instance : Vc K.A K.G (unlockHost mp) :=
  inferInstanceAs (Vc K.A K.G (assign mp fun b => { b with hostLocked := false }))

instance (c : Check) (e : Errno) : Vc K.A K.G (Cm.checkOr mp c e) :=
  inferInstanceAs (Vc K.A K.G (tryCatchThe Errno (call mp (.check c)) fun _ => throw e))

end Assignments

/-! ### Invariants of programs -/

section Preserves

variable {R : Sys → Label → Sys → Prop} {α : Type} {I : Sys → Prop}

instance (m : BackProg mp α) [hm : Preserves A G I m] :
    Preserves A G I (liftM m : DriverProg mp α) :=
  ⟨hm.sound⟩

instance (m : Guarded Sys Label Errno R Unit) [Preserves A G I m] :
    Preserves A G I (attempt m) := by
  unfold attempt; infer_instance

instance (c : Bool) (e : Errno) :
    Preserves A G I (require c e : Guarded Sys Label Errno R Unit) := by
  unfold require; infer_instance

instance (r : Option Errno) :
    Preserves A G I (raise r : Guarded Sys Label Errno R Unit) := by
  unfold raise; cases r <;> infer_instance

instance : Preserves A G I (getHost mp) := by unfold getHost; infer_instance

instance (k : X1PcieContext → BackProg mp α) [hk : ∀ c, Preserves A G I (k c)] :
    Preserves A G I (Pcie.withCtx mp k) := by
  refine ⟨fun s hs => ?_⟩
  rw [wp_withCtx]
  cases s.back.x1Pcie with
  | none => exact hs
  | some c => exact (hk c).sound s hs

instance (m : BackProg mp Unit) [hm : Preserves A G I m] (n : ℕ) :
    Preserves A G I (Pcie.times mp m n) := by
  induction n with
  | zero => unfold Pcie.times; infer_instance
  | succ n ih => unfold Pcie.times; infer_instance

end Preserves

end YogaUsb4.Rules
