import YogaUsb4.Daemon.Agreement

/-!
What a sleep request leaves powered. `sleep_pre` decides from the phase, and a phase in which the
service never started or has retired its session is taken for a router that holds nothing. A
service that was started again is in such a phase, while the session of its predecessor may still
be powered with a cable in the port.
-/

set_option synthInstance.maxSize 1000

namespace YogaUsb4.Daemon

open HostState Prog
open scoped OnBench

variable {P : World Bench → Prop}

attribute [local simp] Between

/-- The session is neither pristine nor fully retired. -/
@[mk_iff]
structure FakeSession.Powered (c : FakeSession) : Prop where
  prepared : c.prepared
  retired : c.retired = false

lemma FakeSession.Gone.not_powered {c : FakeSession} {g : ℤ} (h : c.Gone g) : ¬c.Powered :=
  fun hp => by
    have hr := h.retired
    rw [hp.retired] at hr
    cases hr

/-- The service has not begun a session, and the one it found is powered. -/
@[mk_iff]
structure LeftPowered (s : World Bench) : Prop where
  phase : s.service.phase = .starting ∨ s.service.phase = .unplugToStart
  powered : s.session.Powered

variable {s : World Bench}

/-- In a quiet phase only a session that was left powered is. -/
lemma Agreed.not_powered (h : Agreed s) (hl : ¬LeftPowered s)
    (hq : s.service.phase.isQuiet) : ¬s.session.Powered := by
  obtain ⟨-, -, hgone, hasleep⟩ := h.agreement
  cases hp : s.service.phase with
  | starting => exact fun hw => hl ⟨.inl hp, hw⟩
  | unplugToStart => exact fun hw => hl ⟨.inr hp, hw⟩
  | asleep => exact (hasleep hp).1.not_powered
  | safeToUnplug => exact (hgone (.inl hp)).not_powered
  | ejectedForSleep => exact (hgone (.inr (.inl hp))).not_powered
  | pulled => exact (hgone (.inr (.inr (.inl hp)))).not_powered
  | replugAfterPull => exact (hgone (.inr (.inr (.inr hp)))).not_powered
  | _ => rw [hp] at hq; cases hq

/-! ### The sleep request -/

def Begun (s : World Bench) : Prop :=
  s.service.phase ≠ .starting ∧ s.service.phase ≠ .unplugToStart

lemma Begun.not_left (h : Begun s) : ¬LeftPowered s := fun hl =>
  hl.phase.elim h.1 h.2

local instance (n : ℕ) : Vc Free (Between P) (connect bench n) :=
  .ofSpec _ (fun s => Agreed s ∧ s.service.phase = .waiting)
    (fun _ _ t => Agreed t ∧ Begun t) Sound fun s hs => by
      obtain ⟨⟨ha, hs, h0⟩, hp⟩ := hs
      have hw := ha.waits (.inl hp)
      have hg := hs.ne_zero hw.generation
      unfold connect
      refine Vc.sound ?_
      simp +contextual [agreed_iff, agreement_iff, Begun, hs, hw, hg]

local instance (n : ℕ) (deadline : ℚ) : Vc Free (Between P) (powerDown bench n deadline) :=
  .ofSpec _ (fun s => Agreed s ∧ (s.service.phase = .waiting ∨ s.service.phase = .replugRequired))
    (fun _ b t => Agreed t ∧ Begun t ∧ (b → t.service.phase = .asleep)) Sound fun s hs => by
    obtain ⟨hs, hp⟩ := hs
    have hw := hs.agreement.waits hp
    obtain ⟨ha, hs, h0⟩ := hs
    have hg := hs.ne_zero hw.generation
    unfold powerDown
    refine Vc.sound ?_
    rcases hp with hp | hp <;>
      simp +contextual [kept_iff, agreed_iff, agreement_iff, Begun, hp, hs, hw, hg]

local instance (n : ℕ) (deadline : ℚ) (desktop : Bool) :
    Vc Free (Between P) (releaseForSleep bench n deadline desktop) :=
  .ofSpec _ Mounted (fun _ _ t => Agreed t ∧ t.service.phase = .ejectedForSleep)
    (fun _ e t => Broken e t) fun s hs => by
    obtain ⟨hp, hs, hd, h0⟩ := hs
    unfold releaseForSleep
    refine Vc.sound ?_
    simp +contextual [kept_iff, broken_iff, mounted_iff, agreed_iff, agreement_iff, hp, hs, hd, h0]

lemma quietForSleep_not_powered (n : ℕ) (deadline : ℚ) (desktop : Bool) (m : ℕ)
    (hs : Agreed s) (hl : ¬LeftPowered s) :
    wp Free (Between P) (quietForSleep bench n deadline desktop m).1
      (fun _ t => ¬t.session.Powered) (fun _ _ => True) s := by
  induction m generalizing s with
  | zero => trivial
  | succ m ih =>
    let rest : Vc Free (Between P) (quietForSleep bench n deadline desktop m) :=
      .ofSpec _ (fun s => Agreed s ∧ ¬LeftPowered s) (fun _ _ t => ¬t.session.Powered)
        (fun _ _ _ => True) fun s hs => ih hs.1 hs.2
    have hq := hs.not_powered hl
    have hm (hp : s.service.phase = .connected ∨ s.service.phase = .releasing) := hs.mounted hp
    unfold quietForSleep
    refine Vc.sound ?_
    simp +contextual [rest, hs, hq, hm, hs.sane]
    intro _ _
    -- Powered down, ejected, or paused with the phase as it was.
    split_ifs
    · refine ⟨fun t _ hb => hb.not_left, fun t ht hb hp => ?_⟩
      exact ht.not_powered hb.not_left (by rw [hp]; rfl)
    · intro t ht hp
      exact ht.not_powered (fun hl => by simp [leftPowered_iff, hp] at hl) (by rw [hp]; rfl)
    · intro t hk
      refine ⟨hs.of_kept hk, fun ht => hl ?_⟩
      rwa [leftPowered_iff, hk.service, hk.session, ← leftPowered_iff] at ht

lemma sleepPre_not_powered (n : ℕ) (desktop : Bool) (hs : Agreed s) (hl : ¬LeftPowered s) :
    wp Free (Between P) (sleepPre bench n desktop).1 (fun _ t => ¬t.session.Powered)
      (fun _ _ => True) s := by
  let quiet (deadline : ℚ) : Vc Free (Between P) (quietForSleep bench n deadline desktop n) :=
    .ofSpec _ (fun s => Agreed s ∧ ¬LeftPowered s) (fun _ _ t => ¬t.session.Powered)
      (fun _ _ _ => True) fun s hs => quietForSleep_not_powered n deadline desktop n hs.1 hs.2
  unfold sleepPre
  refine Vc.sound ?_
  simp +contextual [quiet, leftPowered_iff, hs]
  rw [leftPowered_iff, not_and] at hl
  exact fun _ => hl

/-! ### Histories -/

/-- Services were started one after the other, however each of them ended, and the last one has
come through these operations. -/
def history (n : ℕ) (opss : List (List Op)) (ops : List Op) :
    Prog (World Bench) Label Exn Unit := do
  lives bench n opss
  (life bench n ops).1

lemma history_agreed (n : ℕ) (opss : List (List Op)) (ops : List Op)
    (hs : s.session.Sane) (hr : (history n opss ops s).res = .ok ()) :
    Agreed (final s (history n opss ops s).trace) := by
  have hlast : Triple Free (Between Agreement) (fun s => s.session.Sane) (history n opss ops)
      (fun _ t => Agreed t) (fun _ t => t.session.Sane) :=
    ((lives_sane n opss).conseq (fun _ h => h) (fun _ _ h => h) (fun _ _ h => h.elim)).bind
      fun _ s hs => life_agreed n ops hs
  have hrun := (hlast.run hs (along_true _ _)).2
  rw [hr] at hrun
  exact hrun

/-- Whatever happens from now on: once `sleep_pre` returns, the session is not powered. -/
def Unpowers (n : ℕ) (desktop : Bool) (s : World Bench) : Prop :=
  ∀ ts, let t : World Bench := { s with kernel := { s.kernel with ticks := ts } }
    let r := (sleepPre bench n desktop).1 t
    r.res = .ok () → ¬(final t r.trace).session.Powered

lemma agreed_ticks (hs : Agreed s) (ts : List Tick) :
    Agreed { s with kernel := { s.kernel with ticks := ts } } := hs.of_kept ⟨rfl, rfl⟩

lemma Agreed.unpowers (hs : Agreed s) (hl : ¬LeftPowered s) (n : ℕ)
    (desktop : Bool) : Unpowers n desktop s := by
  intro ts t r hr
  have hw := sleepPre_not_powered (P := fun _ => True) n desktop (agreed_ticks hs ts)
    fun h => hl ⟨h.phase, h.powered⟩
  have hrun := (Follow.along hw (along_true _ _)).2
  rw [hr] at hrun
  exact hrun

lemma sleepPre_of_left (n : ℕ) (desktop : Bool) (hl : LeftPowered s) (ht : s.kernel.ticks = []) :
    let r := (sleepPre bench (n + 1) desktop).1 s
    r.res = .ok () ∧ (final s r.trace).session = s.session := by
  obtain ⟨sv, op, ⟨k, ts⟩, log⟩ := s
  obtain ⟨phase, g, d, m, e, i, sl, st, re, f⟩ := sv
  obtain rfl : ts = [] := ht
  rcases hl.phase with hp | hp <;> (cases hp; exact ⟨rfl, rfl⟩)

/-- **A sleep request leaves nothing powered** from exactly those states of a run in which the
service does not stand before a session that its predecessor left powered. -/
theorem sleepPre_unpowers_iff (n m : ℕ) (desktop : Bool) (opss : List (List Op)) (ops : List Op)
    (c : FakeSession) (p : Port) (ts : List Tick) (sv : Service) (hc : c.Sane)
    (hr : (history n opss ops { service := sv, kernel := ⟨⟨c, p⟩, ts⟩ }).res = .ok ()) :
    let s : World Bench := { service := sv, kernel := ⟨⟨c, p⟩, ts⟩ }
    let t := final s (history n opss ops s).trace
    Unpowers (m + 1) desktop t ↔ ¬LeftPowered t := by
  intro s t
  have ht : Agreed t := history_agreed n opss ops hc hr
  refine ⟨fun h hl => ?_, fun hl => ht.unpowers hl (m + 1) desktop⟩
  let u : World Bench := { t with kernel := { t.kernel with ticks := [] } }
  have hu : LeftPowered u := ⟨hl.phase, hl.powered⟩
  obtain ⟨hres, hsession⟩ := sleepPre_of_left m desktop hu rfl
  have hno := h [] hres
  rw [hsession] at hno
  exact hno hl.powered

def plugAtRestart : List Tick := List.replicate 9 ({} : Tick) ++ [{ acts := [.plug] }]

theorem sleepPre_unpowers_iff_restart :
    let s : World Bench := { kernel := ⟨{}, plugAtRestart⟩ }
    let t := final s (history 3 [[.poll]] [.poll] s).trace
    Unpowers 3 false t ↔ ¬LeftPowered t :=
  sleepPre_unpowers_iff 3 2 false [[.poll]] [.poll] {} {} plugAtRestart {} sane_fresh
    (by decide +kernel)

instance (c : FakeSession) : Decidable c.Powered :=
  decidable_of_iff (c.prepared = true ∧ c.retired = false) (FakeSession.powered_iff c).symm

/-- A service prepares the router and is stopped; the next one finds a cable in the port and lets
the laptop sleep, with the router powered. -/
theorem sleepPre_leaves_powered :
    let s : World Bench := { kernel := ⟨{}, plugAtRestart⟩ }
    let h := history 3 [[.poll]] [.poll] s
    let t := final s h.trace
    let r := (sleepPre bench 3 false).1 t
    h.res = .ok () ∧ t.service.phase = .unplugToStart ∧ r.res = .ok () ∧
      (final t r.trace).session.Powered := by
  decide +kernel

end YogaUsb4.Daemon
