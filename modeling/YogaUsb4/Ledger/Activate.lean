import Mathlib.Algebra.Order.Ring.Int
import YogaUsb4.Ledger.Basic

/-!
The books of an activation: whatever it reaches, and wherever it stops, what is held is what
the flags say.
-/

set_option synthInstance.maxSize 1000

namespace YogaUsb4.Ledger

open HostState Typec Driver Prog Rules Frames Footprint Cm Pcie Activate

variable {mp : Params}

/-- A session that was started and is not retired, with its books in order. -/
@[mk_iff] structure Open (b : Back) : Prop extends Balanced b where
  restore : b.host.restore.attempted = false
  fresh : b.host.batch.waiting = true → b.host.retainedTb = false
  imsi : (held b.x1Pcie).receiver = false → b.x1ImsiActive = none
  stop : b.host.tunnel.stopComplete = true → (held b.x1Pcie).receiverRetained = true
  started : b.host.startupAttempted = true
  going : b.host.fullyRetired = false
  covered : Covered b.hw

lemma Open.inv {b : Back} (h : Open b) : Inv b :=
  .inr ⟨h.covered,
    { h.toBalanced with
      restore := h.restore
      wait := fun _ => h.started
      fresh := h.fresh
      imsi := h.imsi
      stop := fun hs => .inr (h.stop hs)
      quiet := by simp [h.started, h.going]
      retired := by simp [h.going]
      baseline := by simp [h.started, h.going] }⟩

@[grind →] lemma Same.opened {b b' : Back} (h : Same b b') (hb : Open b) : Open b' :=
  { h.balanced hb.toBalanced with
    restore := by rw [h.restore, hb.restore]
    fresh := by rw [h.waiting, h.retainedTb]; exact hb.fresh
    imsi := by rw [h.held]; exact fun hr => h.noReceiver (hb.imsi hr)
    stop := by rw [h.stopComplete, h.held]; exact hb.stop
    started := by rw [h.startupAttempted, hb.started]
    going := by rw [h.fullyRetired, hb.going]
    covered := h.hw ▸ hb.covered }

@[mk_iff] structure Calm (hw : Hw) : Prop where
  resets : hw.resets = 0
  bcr : hw.tunnelBcr = false

lemma releasePower (s : Sys) (h : Open s.back ∧ Calm s.back.hw) :
    wp (votes mp).A (votes mp).G (x1ReleasePower mp).1
      (fun _ t => Open t.back ∧ Calm t.back.hw) (fun _ _ => False) s := by
  unfold x1ReleasePower
  refine Vc.sound ?_
  obtain ⟨fr, b, env⟩ := s
  simp only [open_iff, balanced_iff, calm_iff] at h
  cases h1 : b.host.power.gcc <;> cases h2 : b.host.power.clocksOn <;>
    cases h3 : b.host.power.runtimeHeld <;>
    simp +contextual [open_iff, balanced_iff, Covered, calm_iff, h, h1, h2, h3]

instance : Vc (votes mp).A (votes mp).G (x1ReleasePower mp) := Vc.ofSpec _ _ _ _ releasePower

/-! A general session finds the lines released, so it neither releases nor holds them. -/

instance (is : List (Fin 11)) : Vc (votes mp).A (votes mp).G (deassertEach mp is) :=
  Vc.unreached _

instance : Vc (votes mp).A (votes mp).G (x1ReholdResets mp) := Vc.unreached _

/-- Before its router is on, a session holds at most the lease of the reset lines. -/
@[mk_iff] structure Cold (b : Back) : Prop where
  opened : Open b
  calm : Calm b.hw
  tb : b.host.tb = false
  untied : b.host.retainedTb = false
  clocks : b.host.power.clocksOn = false
  phyInit : b.host.power.phyInitialized = false
  phyPower : b.host.power.phyOn = false

/-- The first provider vote of a session is still to come. -/
@[mk_iff] structure Untaken (b : Back) : Prop where
  gcc : b.host.power.gcc = false
  runtime : b.host.power.runtimeHeld = false
  base : 1 < b.host.generation → b.baselineReleased = true

lemma admission (s : Sys) (h : Cold s.back ∧ Untaken s.back) :
    wp (votes mp).A (votes mp).G (x1Admission mp).1
      (fun _ t => Cold t.back ∧ Untaken t.back) (fun _ t => Open t.back) s := by
  unfold x1Admission
  refine Vc.sound ?_
  obtain ⟨fr, b, env⟩ := s
  simp only [cold_iff, untaken_iff, open_iff, balanced_iff, calm_iff] at h
  simp +contextual [cold_iff, untaken_iff, open_iff, balanced_iff, Covered, calm_iff, h]
  grind

section General

variable [hg : Fact (mp.general = true)]

lemma restoreBaseline (s : Sys) (h : Cold s.back ∧ Untaken s.back) :
    wp (votes mp).A (votes mp).G (x1RestoreBaseline mp).1
      (fun _ t => Cold t.back ∧ t.back.host.power.runtimeHeld = false ∧
        t.back.host.power.gcc = decide (1 < t.back.host.generation))
      (fun _ t => Open t.back) s := by
  unfold x1RestoreBaseline leaseGcc x1GccUsb4Get orRelease releaseStarted x1RestoreResets
    readRestoreState x1GccUsb4ResetState qcomUsb4X1ReleaseRetiredReset
  refine Vc.sound ?_
  obtain ⟨fr, b, env⟩ := s
  simp only [cold_iff, untaken_iff, open_iff, balanced_iff, calm_iff] at h
  by_cases hn : 1 < b.host.generation <;>
    simp +contextual [cold_iff, open_iff, balanced_iff, Covered, calm_iff, h, hg.out, hn]
  grind

end General

lemma resume (s : Sys) (h : Cold s.back ∧ s.back.host.power.runtimeHeld = false) :
    wp (votes mp).A (votes mp).G (x1Resume mp).1
      (fun _ t => Cold t.back ∧ t.back.host.power.runtimeHeld = true ∧
        t.back.host.power.gcc = s.back.host.power.gcc ∧
        t.back.host.generation = s.back.host.generation)
      (fun _ t => Open t.back) s := by
  unfold x1Resume releaseStarted
  refine Vc.sound ?_
  obtain ⟨fr, b, env⟩ := s
  simp only [cold_iff, open_iff, balanced_iff, calm_iff] at h
  simp +contextual [cold_iff, open_iff, balanced_iff, Covered, calm_iff, h]
  grind

/-- With its router on, a session holds the lease, the vote and the clocks. -/
@[mk_iff] structure Warm (b : Back) : Prop where
  opened : Open b
  gcc : b.host.power.gcc = true
  runtime : b.host.power.runtimeHeld = true
  clocks : b.host.power.clocksOn = true
  tb : b.host.tb = false
  untied : b.host.retainedTb = false

@[grind →] lemma Same.warm {b b' : Back} (h : Same b b') (hb : Warm b) : Warm b' where
  opened := h.opened hb.opened
  gcc := by rw [h.power, hb.gcc]
  runtime := by rw [h.power, hb.runtime]
  clocks := by rw [h.power, hb.clocks]
  tb := by rw [h.tb, hb.tb]
  untied := by rw [h.retainedTb, hb.untied]

lemma providers [hg : Fact (mp.general = true)] (s : Sys)
    (h : Cold s.back ∧ s.back.host.power.runtimeHeld = true ∧
      s.back.host.power.gcc = decide (1 < s.back.host.generation)) :
    wp (votes mp).A (votes mp).G (orRelease mp (x1Providers mp)).1
      (fun _ t => Warm t.back ∧ t.back.host.power.phyInitialized = false ∧
        t.back.host.power.phyOn = false)
      (fun _ t => Open t.back) s := by
  unfold orRelease releaseStarted x1Providers leaseGcc x1GccUsb4Get x1RestoreResets
    readRestoreState x1GccUsb4ResetState
  refine Vc.sound ?_
  obtain ⟨fr, b, env⟩ := s
  simp only [cold_iff, open_iff, balanced_iff, calm_iff] at h
  by_cases hn : 1 < b.host.generation <;>
    simp +contextual [warm_iff, open_iff, balanced_iff, Covered, calm_iff, h, hg.out, hn]

/-- The two steps of the startup that take something. -/
def takesPhy : Operation := .provider .phyPrepare
def powersPhy : Operation := .provider .phyComposite

lemma execute (op : Operation) (s : Sys)
    (h : Warm s.back ∧ (op = takesPhy → s.back.host.power.phyInitialized = false) ∧
      (op = powersPhy → s.back.host.power.phyOn = false)) :
    wp (votes mp).A (votes mp).G (Activate.execute mp op).1
      (fun _ t => Warm t.back ∧
        t.back.host.power.phyInitialized =
          (s.back.host.power.phyInitialized || op == takesPhy) ∧
        t.back.host.power.phyOn = (s.back.host.power.phyOn || op == powersPhy))
      (fun _ t => Open t.back) s := by
  obtain ⟨fr, b, env⟩ := s
  obtain ⟨h, hi, hp⟩ := h
  have ho := h.opened
  unfold Activate.execute
  cases op with
  | provider st =>
    simp only [warm_iff, open_iff, balanced_iff] at h
    cases st <;> unfold x1Step <;> refine Vc.sound ?_ <;>
      simp [warm_iff, open_iff, balanced_iff, Covered, takesPhy, powersPhy, h] at hi hp ⊢
    all_goals grind
  | update | delay | releaseDelay =>
    refine Vc.sound ?_
    simp [takesPhy, powersPhy, h]
  | clear1200c =>
    refine Vc.sound ?_
    simp only [Vc.vc, takesPhy, powersPhy]
    refine ⟨trivial, fun t ht => ⟨fun _ => ⟨ht.warm h, ?_, ?_⟩, fun _ => ht.opened ho⟩⟩
    · rw [ht.power]; simp
    · rw [ht.power]; simp

lemma executeAll (ops : List Operation) (s : Sys)
    (h : Warm s.back ∧ ops.count takesPhy + s.back.host.power.phyInitialized.toNat ≤ 1 ∧
      ops.count powersPhy + s.back.host.power.phyOn.toNat ≤ 1) :
    wp (votes mp).A (votes mp).G (Activate.executeAll mp ops).1
      (fun _ t => Warm t.back) (fun _ t => Open t.back) s := by
  induction ops generalizing s with
  | nil => exact h.1
  | cons op ops ih =>
    obtain ⟨hw, hi, hp⟩ := h
    rw [List.count_cons] at hi hp
    -- The table takes and powers the PHY once, so neither is done when it was done before.
    have once {c : ℕ} {p : Bool} {q : Operation}
        (h : (c + if op == q then 1 else 0) + p.toNat ≤ 1) :
        (op = q → p = false) ∧ c + (p || op == q).toNat ≤ 1 := by
      rcases eq_or_ne op q with rfl | hq <;> cases p
      · simpa using h
      · simp at h
      · simpa [beq_false_of_ne hq, hq] using h
      · simpa [beq_false_of_ne hq, hq] using h
    refine (wp_bind _ _).mpr (wp_mono ?_ (fun _ _ ht => ht)
      (execute op s ⟨hw, (once hi).1, (once hp).1⟩))
    rintro _ t ⟨ht, hti, htp⟩
    exact ih t ⟨ht, hti ▸ (once hi).2, htp ▸ (once hp).2⟩

instance (ops : List Operation) : Vc (votes mp).A (votes mp).G (Activate.executeAll mp ops) :=
  Vc.ofSpec _ _ _ _ (executeAll ops)

lemma startupRun (s : Sys)
    (h : Warm s.back ∧ s.back.host.power.phyInitialized = false ∧
      s.back.host.power.phyOn = false) :
    wp (votes mp).A (votes mp).G (x1StartupRun mp).1
      (fun _ t => Warm t.back) (fun _ t => Open t.back) s := by
  have hi : operations.count takesPhy = 1 := by decide
  have hp : operations.count powersPhy = 1 := by decide
  unfold x1StartupRun x1Owner
  refine Vc.sound ?_
  obtain ⟨fr, b, env⟩ := s
  simp only [warm_iff, open_iff, balanced_iff] at h
  simp +contextual [warm_iff, open_iff, balanced_iff, h, hi, hp]

/-- A session that votes on its router, before its tunnel is held. -/
@[mk_iff] structure Voting (b : Back) : Prop where
  opened : Open b
  runtime : b.host.power.runtimeHeld = true
  untied : b.host.retainedTb = false

@[grind →] lemma Same.voting {b b' : Back} (h : Same b b') (hb : Voting b) : Voting b' where
  opened := h.opened hb.opened
  runtime := by rw [h.power, hb.runtime]
  untied := by rw [h.retainedTb, hb.untied]

lemma startDomain (s : Sys) (h : Warm s.back) :
    wp (votes mp).A (votes mp).G (x1StartDomain mp).1
      (fun _ t => Voting t.back) (fun _ t => Open t.back) s := by
  unfold x1StartDomain
  refine Vc.sound ?_
  obtain ⟨fr, b, env⟩ := s
  simp only [warm_iff, open_iff, balanced_iff, Covered] at h
  simp +contextual [voting_iff, open_iff, balanced_iff, Covered, h]

lemma publish (s : Sys) (h : Voting s.back) :
    wp (votes mp).A (votes mp).G (x1Publish mp).1
      (fun _ t => Voting t.back) (fun _ t => Open t.back) s := by
  refine Vc.sound ?_
  simp only [Vc.vc]
  exact ⟨trivial, fun t ht => ⟨fun _ => ht.voting h, fun _ => ht.opened h.opened⟩⟩

lemma stopped (e : Errno) (s : Sys) (h : Open s.back) :
    wp (votes mp).A (votes mp).G (x1Stopped mp e).1
      (fun _ t => Open t.back) (fun _ t => Open t.back) s := by
  unfold x1Stopped
  refine Vc.sound ?_
  obtain ⟨fr, b, env⟩ := s
  simp only [open_iff, balanced_iff] at h
  simp +contextual [open_iff, balanced_iff, h]

lemma begins (s : Sys) (h : Sound s.back ∧ s.back.host.startupAttempted = false) :
    wp (votes mp).A (votes mp).G (assignHost mp fun h => { h with startupAttempted := true }).1
      (fun _ t => Cold t.back ∧ Untaken t.back) (fun _ _ => False) s := by
  refine Vc.sound ?_
  obtain ⟨fr, b, env⟩ := s
  have hr : b.host.fullyRetired = false := by
    by_contra hr
    have := (h.1.retired (by simpa using hr)).2
    rw [h.2] at this; cases this
  simp only [sound_iff, balanced_iff, quiet_iff] at h
  simp [cold_iff, untaken_iff, open_iff, balanced_iff, Covered, calm_iff, h, hr]
  grind

@[mk_iff] structure Fresh (b : Back) : Prop where
  warm : Warm b
  phyInit : b.host.power.phyInitialized = false
  phyPower : b.host.power.phyOn = false

@[grind →] lemma Same.freshlyOn {b b' : Back} (h : Same b b') (hb : Fresh b) : Fresh b' where
  warm := h.warm hb.warm
  phyInit := by rw [h.power, hb.phyInit]
  phyPower := by rw [h.power, hb.phyPower]

lemma powersUp [Fact (mp.general = true)] (s : Sys) (h : Cold s.back ∧ Untaken s.back) :
    wp (votes mp).A (votes mp).G (x1PowerUp mp).1
      (fun _ t => Fresh t.back) (fun _ t => Open t.back) s := by
  unfold x1PowerUp
  refine (wp_bind _ _).mpr (wp_mono ?_ (fun _ _ ht => ht) (admission s h))
  intro _ t ht
  refine (wp_bind _ _).mpr (wp_mono ?_ (fun _ _ ht => ht) (restoreBaseline t ht))
  rintro _ t ⟨hc, hr, hl⟩
  refine (wp_bind _ _).mpr (wp_mono ?_ (fun _ _ ht => ht) (resume t ⟨hc, hr⟩))
  rintro _ u ⟨hu, hv, hg, hn⟩
  refine wp_mono ?_ (fun _ _ ht => ht) (providers u ⟨hu, hv, ?_⟩)
  · rintro _ v ⟨hw, hi, hp⟩
    exact ⟨hw, hi, hp⟩
  · rw [hg, hl, hn]

lemma starts [Fact (mp.general = true)] (s : Sys) (h : Cold s.back ∧ Untaken s.back) :
    wp (votes mp).A (votes mp).G (x1Start mp).1
      (fun _ t => Voting t.back) (fun _ t => Open t.back) s := by
  unfold x1Start
  refine (wp_bind _ _).mpr (wp_mono ?_ (fun _ _ ht => ht) (powersUp s h))
  intro _ t ht
  refine (wp_bind _ _).mpr ((wp_step _ _).mpr fun _ => ⟨id, ?_⟩)
  have ht : Fresh { t.back with host.activated := true } :=
    Same.freshlyOn (by constructor <;> rfl) ht
  refine (wp_bind _ _).mpr (wp_mono ?_ (fun _ _ hu => hu)
    (startupRun _ ⟨ht.warm, ht.phyInit, ht.phyPower⟩))
  intro _ u hu
  refine (wp_bind _ _).mpr (wp_mono ?_ (fun _ _ hv => hv) (startDomain u hu))
  intro _ v hv
  exact publish v hv

lemma activate [Fact (mp.general = true)] (s : Sys)
    (h : Sound s.back ∧ s.back.host.startupAttempted = false) :
    wp (votes mp).A (votes mp).G (x1Activate mp).1
      (fun _ t => Voting t.back) (fun _ t => Open t.back ∨ t.back = s.back) s := by
  unfold x1Activate
  refine (wp_bind _ _).mpr (wp_getHost.mpr ((wp_bind _ _).mpr ((wp_require _ _).mpr ?_)))
  rw [if_pos (by simp [h.2])]
  refine (wp_bind _ _).mpr ((wp_require _ _).mpr ?_)
  split; swap
  · exact .inr rfl
  refine (wp_bind _ _).mpr ((wp_require _ _).mpr ?_)
  split; swap
  · exact .inr rfl
  refine (wp_bind _ _).mpr (wp_mono ?_ (fun _ _ ht => ht.elim) (begins s h))
  intro _ t ht
  refine (wp_tryCatch _ _).mpr (wp_mono (fun _ _ hu => hu) ?_ (starts t ht))
  intro e u hu
  exact (wp_bind _ _).mpr (wp_mono (fun _ _ hv => .inl hv) (fun _ _ hv => .inl hv)
    (stopped e u hu))

instance [Fact (mp.general = true)] : Vc (votes mp).A (votes mp).G (x1Activate mp) :=
  Vc.ofSpec _ _ _ _ activate

end YogaUsb4.Ledger
