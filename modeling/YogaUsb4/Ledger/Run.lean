import YogaUsb4.Run
import YogaUsb4.Ledger.Retire

/-!
The books over whole runs: every operation keeps them, so in every state that a run leads to
the lines are covered by a vote, and a session that may be suspended holds nothing.
-/

set_option synthInstance.maxSize 1000

namespace YogaUsb4.Ledger

open HostState Typec Driver Prog Rules Frames Footprint Cm Pcie Activate PcieRetire Quiesce Renew
open Run

variable {mp : Params}

/-! ### Renewal -/

@[mk_iff] structure Retired (b : Back) : Prop where
  sound : Sound b
  retired : b.host.fullyRetired = true

@[grind →] lemma Same.retired {b b' : Back} (h : Same b b') (hb : Retired b) : Retired b' :=
  ⟨h.sound hb.sound, by rw [h.fullyRetired, hb.retired]⟩

lemma Inv.retired {b : Back} (h : Inv b) (hr : b.host.fullyRetired = true) : Retired b := by
  rcases h with h | h
  · rw [h.2.2] at hr; cases hr
  · exact ⟨h.2, hr⟩

lemma published (s : Sys) (h : Retired s.back) :
    wp (votes mp).A (votes mp).G (Renew.publish mp).1
      (fun _ t => Inv t.back) (fun _ _ => False) s := by
  obtain ⟨fr, b, env⟩ := s
  simp only [retired_iff, sound_iff, balanced_iff, quiet_iff] at h
  refine (wp_step _ _).mpr fun _ => ?_
  simp [publishSession, Inv, Covered, sound_iff, balanced_iff, quiet_iff, h]

instance : Vc (votes mp).A (votes mp).G (Renew.publish mp) := Vc.ofSpec _ _ _ _ published

open scoped Forget

local instance (priority := high) : Vc (votes mp).A (votes mp).G
    (assign mp fun b => { b with nextGeneration := b.nextGeneration + 1 }) :=
  forget _ fun _ => ⟨_, rfl, by constructor <;> rfl⟩

instance (w : Write) : Saves mp Inv (renewSession mp w) := by
  refine ⟨fun s h => ?_⟩
  unfold renewSession
  cases kstrtou64 w.buf with
  | error e =>
    refine Vc.sound ?_
    simp [h]
  | ok generation =>
    refine Vc.sound ?_
    simp
    grind [Inv.retired]

instance : Saves mp Inv (x1Suspend mp) := by unfold x1Suspend; infer_instance

instance : Saves mp Inv (x1PmComplete mp) := by unfold x1PmComplete; infer_instance

instance [Fact (mp.general = true)] : Saves mp Inv (x1Probe mp) := by
  unfold x1Probe; infer_instance

/-! ### Shutdown -/

/-- The steps of the driver with nothing owed about them. -/
@[simps] def plain (mp : Params) : Contract mp where
  A _ _ _ := True
  G _ _ _ := True
  rely _ _ _ := True
  refl _ _ := trivial
  trans _ _ _ _ _ _ := trivial
  act _ _ _ := ⟨trivial, trivial⟩

/-- A session that was not started owns nothing that a shutdown would stop. -/
def Unowned (b : Back) : Prop := b.host.startupAttempted = false → b.host.activated = false

/-- The sections that say whether a session was started, stopped or retired. -/
@[reducible] def keepsStage : Section → Bool
  | .started | .startup | .stopping | .retired => false
  | _ => true

/-- The two states agree about the stage of the session. -/
def Staged (s : Sys) (_ : Label) (t : Sys) : Prop :=
  t.back.host.startupAttempted = s.back.host.startupAttempted ∧
    t.back.host.activated = s.back.host.activated ∧
    t.back.host.stopping = s.back.host.stopping ∧
    t.back.host.fullyRetired = s.back.host.fullyRetired

instance : Acts mp Staged := ⟨fun _ _ => ⟨rfl, rfl, rfl, rfl⟩⟩

instance : Silent Staged := ⟨fun _ _ _ _ _ => ⟨rfl, rfl, rfl, rfl⟩⟩

instance (k : Section) [h : Holds (keepsStage k)] : Writes Staged k := by
  have h := h.out
  refine ⟨fun s b hd => ?_⟩
  cases k
  all_goals first
    | exact absurd h Bool.false_ne_true
    | (obtain ⟨x, rfl⟩ := hd; exact ⟨rfl, rfl, rfl, rfl⟩)
    | (obtain ⟨x, y, rfl⟩ := hd; exact ⟨rfl, rfl, rfl, rfl⟩)
    | (obtain ⟨x, y, z, rfl⟩ := hd; exact ⟨rfl, rfl, rfl, rfl⟩)
    | (obtain ⟨w, x, y, z, rfl⟩ := hd; exact ⟨rfl, rfl, rfl, rfl⟩)

-- each of its five branches goes on with what follows them
set_option synthInstance.maxSize 20000 in
instance : Keeps Staged (shutdownOwned mp) := by unfold shutdownOwned; infer_instance

instance : Keeps Staged (shutdownSession mp) := by unfold shutdownSession; infer_instance

lemma sessionShut (s : Sys) (_ : True) :
    wp (plain mp).A (plain mp).G (shutdownSession mp).1
      (fun _ t => Staged s .drv t ∧ (s.back.host.activated = false → t.back = s.back))
      (fun _ t => Staged s .drv t ∧ (s.back.host.activated = false → t.back = s.back)) s := by
  cases ha : s.back.host.activated with
  | false =>
    unfold shutdownSession
    refine (wp_bind _ _).mpr (wp_getHost.mpr ?_)
    simp [ha, Staged]
  | true =>
    refine (Vc.ofKeeps Staged _ (fun _ => True) (fun s t => Staged s .drv t)
      (fun _ => ⟨rfl, rfl, rfl, rfl⟩) fun _ _ _ _ _ hF hS _ => ⟨trivial, ?_⟩).sound
        ⟨trivial, fun t ht => ⟨fun _ => ⟨ht, nofun⟩, fun _ => ⟨ht, nofun⟩⟩⟩
    obtain ⟨h₁, h₂, h₃, h₄⟩ := hF
    obtain ⟨g₁, g₂, g₃, g₄⟩ := hS
    exact ⟨g₁.trans h₁, g₂.trans h₂, g₃.trans h₃, g₄.trans h₄⟩

instance : Vc (plain mp).A (plain mp).G (shutdownSession mp) := Vc.ofSpec _ _ _ _ sessionShut

lemma shutDown (s : Sys) (h : Inv s.back) (hu : Unowned s.back) :
    wp (plain mp).A (plain mp).G (x1Shutdown mp).1
      (fun _ t => Inv t.back ∧ Unowned t.back) (fun _ t => Inv t.back ∧ Unowned t.back) s := by
  unfold x1Shutdown
  refine Vc.sound ?_
  obtain ⟨fr, b, env⟩ := s
  cases hs : b.host.startupAttempted with
  | true =>
    -- Started: it is left for dead with its power, unless it was stopped already.
    have hr : b.host.stopping = false → b.host.fullyRetired = false := by
      intro hn
      rcases h with h | h
      · exact h.2.2
      · by_contra hr
        have := (h.2.retired (by simpa using hr)).1
        rw [hn] at this; cases this
    simp
    split
    · exact ⟨h, hu⟩
    · rename_i hn
      have hr := hr (by simpa using hn)
      simp +contextual [Staged, Inv, Dead, Unowned, hs, hr]
  | false =>
    -- Never started: it has no wait, no retirement and no context, so nothing is held.
    have hb := h.sound hs
    have ha := hu hs
    have hq := hb.quiet (.inl hs)
    have hw : b.host.batch.waiting = false := by
      by_contra hw
      have := hb.wait (by simpa using hw)
      rw [hs] at this; cases this
    have hr : b.host.fullyRetired = false := by
      by_contra hr
      have := (hb.retired (by simpa using hr)).2
      rw [hs] at this; cases this
    have ht : b.host.tunnel.stopComplete = false := by
      by_contra ht
      rcases hb.stop (by simpa using ht) with hf | hf
      · rw [show b.host.fullyRetired = true from hf] at hr; cases hr
      · rw [show b.x1Pcie = none from hq.context] at hf; cases hf
    simp only [sound_iff, balanced_iff, quiet_iff] at ha hb
    simp +contextual [Inv, Covered, sound_iff, balanced_iff, quiet_iff, Unowned, hs, ha, hb, hw,
      hr, ht]

/-! ### What was not started is not activated -/

def Begun (s : Sys) (_ : Label) (t : Sys) : Prop :=
  t.back.host.startupAttempted = s.back.host.startupAttempted ∧
    t.back.host.activated = s.back.host.activated

instance : Acts mp Begun := ⟨fun _ _ => ⟨rfl, rfl⟩⟩

instance : WritesFront Begun := ⟨fun _ _ => ⟨rfl, rfl⟩⟩

instance : Silent Begun := ⟨fun _ _ _ _ _ => ⟨rfl, rfl⟩⟩

instance : Answers Begun .configRead := ⟨fun _ => ⟨rfl, rfl⟩, fun _ _ _ => ⟨rfl, rfl⟩⟩

instance (k : Section) [h : Writes Staged k] : Writes Begun k :=
  ⟨fun s b hd => ⟨(h.step s b hd).1, (h.step s b hd).2.1⟩⟩

instance : Writes Begun .stopping := ⟨by rintro s _ ⟨x, rfl⟩; exact ⟨rfl, rfl⟩⟩

instance : Writes Begun .retired := ⟨by rintro s _ ⟨x, rfl⟩; exact ⟨rfl, rfl⟩⟩

variable {α : Type} {R : Sys → Label → Sys → Prop}

/-- From a state in which an unstarted session owns nothing, `m` leads to such a state. -/
abbrev Disowns (mp : Params) (m : Guarded Sys Label Errno R α) : Prop :=
  Preserves (plain mp).A (plain mp).G (fun s => Unowned s.back) m

instance (priority := low) (m : Guarded Sys Label Errno R α) [hm : Keeps Begun m] :
    Disowns mp m := by
  refine ⟨fun s hs => ?_⟩
  have : Keeps (fun s l t => (plain mp).A s l t → Unowned s.back →
      (plain mp).G s l t ∧ Unowned t.back) m := by
    refine ⟨hm.within.mono fun s l t h _ hs => ⟨trivial, ?_⟩⟩
    unfold Unowned at hs ⊢
    rw [h.1, h.2]
    exact hs
  exact Keeps.wp_of_invariant m hs (fun _ _ ht => ht) fun _ _ ht => ht

/-- Once a session was started it stays so. -/
def Started (s : Sys) (_ : Label) (t : Sys) : Prop :=
  s.back.host.startupAttempted = true → t.back.host.startupAttempted = true

instance : Acts mp Started := ⟨fun _ _ => id⟩

instance : WritesFront Started := ⟨fun _ _ => id⟩

instance : Silent Started := ⟨fun _ _ _ _ _ => id⟩

instance (k : Section) [h : Writes Begun k] : Writes Started k :=
  ⟨fun s b hd hs => (h.step s b hd).1.trans hs⟩

instance : Writes Started .startup := ⟨by rintro s _ ⟨x, y, z, rfl⟩; exact id⟩

instance (priority := low) (m : Guarded Sys Label Errno R α) [hm : Keeps Started m] :
    Preserves (plain mp).A (plain mp).G (fun s => s.back.host.startupAttempted = true) m := by
  refine ⟨fun s hs => ?_⟩
  have : Keeps (fun s l t => (plain mp).A s l t → s.back.host.startupAttempted = true →
      (plain mp).G s l t ∧ t.back.host.startupAttempted = true) m :=
    ⟨hm.within.mono fun s l t h _ hs => ⟨trivial, h hs⟩⟩
  exact Keeps.wp_of_invariant m hs (fun _ _ ht => ht) fun _ _ ht => ht

/-- A session is activated only after its start was recorded. -/
instance : Disowns mp (x1Activate mp) := by
  refine ⟨fun s hs => ?_⟩
  unfold x1Activate
  refine (wp_bind _ _).mpr (wp_getHost.mpr ?_)
  refine (wp_bind _ _).mpr ((wp_require _ _).mpr ?_)
  split; swap
  · exact hs
  refine (wp_bind _ _).mpr ((wp_require _ _).mpr ?_)
  split; swap
  · exact hs
  refine (wp_bind _ _).mpr ((wp_require _ _).mpr ?_)
  split; swap
  · exact hs
  refine (wp_bind _ _).mpr ((wp_step _ _).mpr fun _ => ⟨trivial, ?_⟩)
  refine wp_mono (fun _ t ht => ?_) (fun _ t ht => ?_)
    (Preserves.sound (I := fun s => s.back.host.startupAttempted = true) _ rfl)
  · exact fun hn => by rw [ht] at hn; cases hn
  · exact fun hn => by rw [ht] at hn; cases hn

instance (w : Write) : Disowns mp (activateOnce mp w) := by unfold activateOnce; infer_instance

instance : Disowns mp (Renew.publish mp) :=
  ⟨fun _ _ => (wp_step _ _).mpr fun _ => ⟨trivial, fun _ => rfl⟩⟩

instance (w : Write) : Disowns mp (renewSession mp w) := by
  unfold renewSession
  cases kstrtou64 w.buf with
  | error e => infer_instance
  | ok generation => dsimp only; infer_instance

instance (a : Batch.Admitted) : Disowns mp (Batch.startBatch mp a) := by
  unfold Batch.startBatch; infer_instance

instance (w : Write) : Disowns mp (Batch.inventoryOnce mp w) := by
  unfold Batch.inventoryOnce Batch.leave
  cases Batch.x1BatchParse mp w with
  | none => infer_instance
  | some a => dsimp only; infer_instance

instance : Disowns mp (x1RetireSession mp) := by unfold x1RetireSession; infer_instance

instance (w : Write) : Disowns mp (powerQuiesceOnce mp w) := by
  unfold powerQuiesceOnce retireAll; infer_instance

instance (e : Errno) : Disowns mp (Batch.leave mp e) := by unfold Batch.leave; infer_instance

instance : Disowns mp (stopPulled mp) := by unfold stopPulled; infer_instance

instance : Disowns mp (retireStopped mp) := by unfold retireStopped; infer_instance

instance (w : Write) : Disowns mp (pulledRetireOnce mp w) := by
  unfold pulledRetireOnce retirePulled; infer_instance

instance : Disowns mp (x1IdlePowerStopRun mp) := by
  unfold x1IdlePowerStopRun idlePowerDown; infer_instance

instance : Disowns mp (retireIdle mp) := by unfold retireIdle dropStoreVote; infer_instance

instance (w : Write) : Disowns mp (idleRetireOnce mp w) := by
  unfold idleRetireOnce retireFrozen endWait; infer_instance

instance : Disowns mp (x1Probe mp) := by unfold x1Probe; infer_instance

/-! ### Runs -/

def Asserted (hw : Hw) : Prop := hw.resets ≠ 0 ∨ hw.tunnelBcr = true

lemma keepsBooks [Fact (mp.general = true)] (op : Op) (hop : op ≠ .shutdown) :
    Saves mp Inv (op.prog mp) := by
  cases op with
  | shutdown => exact absurd rfl hop
  | _ => unfold Op.prog; infer_instance

lemma keepsUnowned (op : Op) (hop : op ≠ .shutdown) : Disowns mp (op.prog mp) := by
  cases op with
  | shutdown => exact absurd rfl hop
  | _ => unfold Op.prog; infer_instance

lemma probed_inv (env : List Answer) : Inv (probed env).back := by
  refine .inr ⟨by simp [Covered, probed], ?_⟩
  simp [sound_iff, balanced_iff, quiet_iff, probed]

/-- At every step of a run, a vote on the router is held while a line is asserted. So the count
of votes falls to zero, and the router's domain may go off, only with the lines released; and it
leaves zero, and the domain is asked on, only with the lines released. -/
theorem asserted_covered (hg : mp.general = true) (ops : List Op)
    (hops : ∀ op ∈ ops, op ≠ .shutdown) (env : List Answer) :
    Along (fun s _ t =>
        (Asserted s.back.hw → 0 < s.back.hw.router.usage) ∧
        (Asserted t.back.hw → 0 < t.back.hw.router.usage) ∧
        (0 < s.back.hw.router.usage ∧ t.back.hw.router.usage ≤ 0 → ¬ Asserted t.back.hw) ∧
        (s.back.hw.router.usage ≤ 0 ∧ 0 < t.back.hw.router.usage → ¬ Asserted s.back.hw))
      (probed env) (runOps mp ops (probed env)).trace := by
  have : Fact (mp.general = true) := ⟨hg⟩
  have hrun := runOps_keeps (Preserves.sound (A := (votes mp).A) (G := (votes mp).G)
    (I := fun s => Inv s.back)) fun op hop => (keepsBooks op (hops op hop)).sound
  have hsteps := (hrun.run (probed_inv env) (along_true _ _)).1
  have hcov := (hsteps.invariant (I := fun s : Sys => Covered s.back.hw) (fun _ _ _ h => h)
    (by simp [Covered, probed])).1
  refine hcov.mono fun s _ t h => ⟨h.1, h.2, ?_, ?_⟩
  · rintro ⟨-, ht⟩ ha
    exact absurd (h.2 ha) (by omega)
  · rintro ⟨hs, -⟩ ha
    exact absurd (h.1 ha) (by omega)

theorem asserted_covered_eject :
    required.general = true ∧ Along (fun s _ t =>
        (Asserted s.back.hw → 0 < s.back.hw.router.usage) ∧
        (Asserted t.back.hw → 0 < t.back.hw.router.usage) ∧
        (0 < s.back.hw.router.usage ∧ t.back.hw.router.usage ≤ 0 → ¬ Asserted t.back.hw) ∧
        (s.back.hw.router.usage ≤ 0 ∧ 0 < t.back.hw.router.usage → ¬ Asserted s.back.hw))
      (probed undisturbed)
      (runOps required (connectOps ++ ejectOps) (probed undisturbed)).trace :=
  ⟨rfl, asserted_covered rfl _ (by simp [connectOps, ejectOps, plug]) _⟩

/-! ### The session that may be suspended -/

/-- Nothing is taken but the one reference that pins the port's module. -/
structure Released (b : Back) : Prop where
  gcc : b.hw.gccLease = 0
  routerClocks : b.hw.routerClocks = 0
  pci0Clocks : b.hw.pci0Clocks = 0
  phyPower : b.hw.phyPower = 0
  phyInit : b.hw.phyInit = 0
  icc : b.hw.iccApps = 0 ∧ b.hw.iccDdr = 0 ∧ b.hw.iccMem = 0 ∧ b.hw.iccCfg = 0
  router : b.hw.router.usage = 0
  pci0 : b.hw.pci0.usage = 0
  domain : b.hw.domainRefs = 0 ∧ b.host.tb = false ∧ b.host.retainedTb = false
  context : b.x1Pcie = none
  receiver : b.x1ImsiActive = none
  module : b.hw.moduleRefs = b.moduleHeld.toInt
  resets : b.hw.resets = 0
  bcr : b.hw.tunnelBcr = false

lemma Sound.released {b : Back} (h : Sound b)
    (hq : b.host.startupAttempted = false ∨ b.host.fullyRetired = true) : Released b := by
  have q := h.quiet hq
  have hb := h.toBalanced
  simp only [quiet_iff] at q
  simp only [balanced_iff, q, held_none] at hb
  constructor <;> simp_all

lemma keepsAll [Fact (mp.general = true)] (op : Op) :
    Triple (plain mp).A (plain mp).G (fun s => Inv s.back ∧ Unowned s.back) (op.prog mp).1
      (fun _ s => Inv s.back ∧ Unowned s.back) fun _ s => Inv s.back ∧ Unowned s.back := by
  intro s hs
  by_cases hop : op = .shutdown
  · subst hop
    exact shutDown s hs.1 hs.2
  · exact (wp_and ((keepsBooks op hop).sound s hs.1) ((keepsUnowned op hop).sound s hs.2)).mono
      (fun _ _ _ h => h) (fun _ _ _ _ => trivial) fun _ h => h

lemma runOps_inv (hg : mp.general = true) (ops : List Op) (env : List Answer) :
    Inv (final (probed env) (runOps mp ops (probed env)).trace).back := by
  have : Fact (mp.general = true) := ⟨hg⟩
  have hprobe : Triple (plain mp).A (plain mp).G (fun s => Inv s.back ∧ Unowned s.back)
      (x1Probe mp).1 (fun _ s => Inv s.back ∧ Unowned s.back)
      (fun _ s => Inv s.back ∧ Unowned s.back) := fun s hs =>
    (wp_and (A := (votes mp).A) (Preserves.sound (m := x1Probe mp) (G := (votes mp).G)
      (I := fun s => Inv s.back) s hs.1) (Preserves.sound (A := (plain mp).A) (G := (plain mp).G)
      (I := fun s => Unowned s.back) s hs.2)).mono
        (fun _ _ _ h => h) (fun _ _ _ _ => trivial) fun _ h => h
  have hrun : Triple (plain mp).A (plain mp).G (fun s => Inv s.back ∧ Unowned s.back)
      (runOps mp ops) (fun _ s => Inv s.back ∧ Unowned s.back)
      (fun _ s => Inv s.back ∧ Unowned s.back) := runOps_keeps hprobe fun op _ => keepsAll op
  have hend := (hrun.run (s := probed env) ⟨probed_inv env, fun _ => rfl⟩ (along_true _ _)).2
  split at hend
  · exact hend.1
  · exact hend.1

lemma suspend_ok {s : Sys} (h : ((x1Suspend mp).1 s).res = .ok ()) :
    s.back.host.startupAttempted = false ∨ s.back.host.fullyRetired = true := by
  have hw : wp (plain mp).A (plain mp).G (x1Suspend mp).1
      (fun _ _ => s.back.host.startupAttempted = false ∨ s.back.host.fullyRetired = true)
      (fun _ _ => True) s := by
    unfold x1Suspend
    refine Vc.sound ?_
    simp
    grind
  have := (hw.along (along_true _ _)).2
  rw [h] at this
  exact this

/-- Whatever operations were run and whatever failed: where a suspend is accepted, the session is
pristine or retired, and everything that was ever taken has been given back. -/
theorem suspendable_released (hg : mp.general = true) (ops : List Op) (env : List Answer)
    (hs : ((x1Suspend mp).1 (final (probed env) (runOps mp ops (probed env)).trace)).res = .ok ()) :
    Released (final (probed env) (runOps mp ops (probed env)).trace).back := by
  have hq := suspend_ok hs
  rcases runOps_inv hg ops env with hd | ⟨-, hb⟩
  · rcases hq with hq | hq
    · rw [hd.1] at hq; cases hq
    · rw [hd.2.2] at hq; cases hq
  · exact hb.released hq

theorem suspendable_released_eject :
    Released (final (probed undisturbed)
      (runOps required (connectOps ++ ejectOps) (probed undisturbed)).trace).back :=
  suspendable_released rfl _ _ (by decide +kernel)

end YogaUsb4.Ledger
