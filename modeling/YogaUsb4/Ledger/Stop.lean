import YogaUsb4.Ledger.Batch

/-!
The books of the ordered teardown up to the power stop: the stop of the tunnel, which a
session with a receiver only reaches, and the stop of the router's power, which leaves the
receiver's vote to cover the resets it asserts.
-/

namespace YogaUsb4.Ledger

open HostState Typec Driver Prog Rules Frames Footprint Cm Pcie Activate PcieRetire Quiesce

variable {mp : Params}

/-! ### Losing power -/

/-- A stopped session on its way to retirement: its books are in order, apart from `extra` votes
on the router that no flag stands for, and a vote besides the session's own covers the lines. -/
@[mk_iff] structure Halted (extra : ℤ) (b : Back) : Prop where
  dead : Dead b.host
  books : Balanced { b with hw.router.usage := b.hw.router.usage - extra }
  restore : b.host.restore.attempted = false
  imsi : (held b.x1Pcie).receiver = false → b.x1ImsiActive = none
  cover : 0 < (held b.x1Pcie).receiverRetained.toInt + extra
  vote : 0 < b.hw.router.usage

variable {extra : ℤ} {b b' : Back}

@[grind →] lemma Same.halted (h : Same b b') (hb : Halted extra b) :
    Halted extra b' where
  dead := h.dead hb.dead
  books := by
    have := hb.books
    rw [balanced_iff] at this ⊢
    simpa only [h.hw, h.power, h.held, h.tb, h.retainedTb, h.moduleHeld] using this
  restore := by rw [h.restore, hb.restore]
  imsi := by rw [h.held]; exact fun hr => h.noReceiver (hb.imsi hr)
  cover := by rw [h.held]; exact hb.cover
  vote := by rw [h.hw]; exact hb.vote

lemma Halted.inv {b : Back} (h : Halted extra b) : Inv b := .inl h.dead

/-- A stopped session whose router is still powered. -/
@[mk_iff] structure Powered (extra : ℤ) (b : Back) : Prop where
  halted : Halted extra b
  gcc : b.host.power.gcc = true
  clocks : b.host.power.clocksOn = true
  runtime : b.host.power.runtimeHeld = true
  phyPower : b.host.power.phyOn = true
  phyInit : b.host.power.phyInitialized = true

@[grind →] lemma Same.powered (h : Same b b') (hb : Powered extra b) :
    Powered extra b' where
  halted := h.halted hb.halted
  gcc := by rw [h.power, hb.gcc]
  clocks := by rw [h.power, hb.clocks]
  runtime := by rw [h.power, hb.runtime]
  phyPower := by rw [h.power, hb.phyPower]
  phyInit := by rw [h.power, hb.phyInit]

instance (extra : ℤ) : Booked (Powered extra) := ⟨Same.powered⟩

instance (extra : ℤ) (is : List (Fin 11)) : Saves mp (Powered extra) (assertCounted mp is) := by
  induction is with
  | nil => unfold assertCounted; infer_instance
  | cons i is ih =>
    have : Saves mp (Powered extra) (call mp (.resetAssert i)) := by
      refine ⟨fun s h => Vc.sound ?_⟩
      obtain ⟨fr, b, env⟩ := s
      simp only [powered_iff, halted_iff, balanced_iff] at h
      simp [powered_iff, halted_iff, balanced_iff, Covered, h]
      grind
    unfold assertCounted; infer_instance

instance (extra : ℤ) : Saves mp (Powered extra) (resetRouter mp) := by
  unfold resetRouter; infer_instance

/-- The same without its power. -/
@[mk_iff] structure Unpowered (extra : ℤ) (b : Back) : Prop where
  halted : Halted extra b
  gcc : b.host.power.gcc = false
  clocks : b.host.power.clocksOn = false
  phyPower : b.host.power.phyOn = false
  phyInit : b.host.power.phyInitialized = false
  apps : b.hw.iccApps = 0
  ddr : b.hw.iccDdr = 0

@[grind →] lemma Same.unpowered (h : Same b b') (hb : Unpowered extra b) : Unpowered extra b' where
  halted := h.halted hb.halted
  gcc := by rw [h.power, hb.gcc]
  clocks := by rw [h.power, hb.clocks]
  phyPower := by rw [h.power, hb.phyPower]
  phyInit := by rw [h.power, hb.phyInit]
  apps := by rw [h.hw, hb.apps]
  ddr := by rw [h.hw, hb.ddr]

lemma routerReleased (extra : ℤ) (s : Sys) (h : Powered extra s.back) :
    wp (votes mp).A (votes mp).G (releaseRouter mp).1
      (fun _ t => Unpowered extra t.back ∧ t.back.host.power.runtimeHeld = true)
      (fun _ t => Inv t.back) s := by
  unfold releaseRouter
  refine Vc.sound ?_
  obtain ⟨fr, b, env⟩ := s
  have hd := h.halted.dead
  simp only [powered_iff, halted_iff, balanced_iff, Dead] at h hd
  simp +contextual [unpowered_iff, halted_iff, balanced_iff, Covered, Inv, Dead, h]

/-- A stopped session without power or vote of its own. -/
@[mk_iff] structure Off (extra : ℤ) (b : Back) : Prop where
  unpowered : Unpowered extra b
  runtime : b.host.power.runtimeHeld = false

@[grind →] lemma Same.off (h : Same b b') (hb : Off extra b) :
    Off extra b' where
  unpowered := h.unpowered hb.unpowered
  runtime := by rw [h.power, hb.runtime]

lemma Off.inv {b : Back} (h : Off extra b) : Inv b := h.unpowered.halted.inv

lemma runtimePut (extra : ℤ) (s : Sys)
    (h : Unpowered extra s.back ∧ s.back.host.power.runtimeHeld = true) :
    wp (votes mp).A (votes mp).G (putRuntime mp).1
      (fun _ t => Off extra t.back) (fun _ _ => False) s := by
  unfold putRuntime
  refine Vc.sound ?_
  obtain ⟨fr, b, env⟩ := s
  simp only [unpowered_iff, halted_iff, balanced_iff, Dead] at h
  simp [off_iff, unpowered_iff, halted_iff, balanced_iff, Covered, Dead, h]
  grind

lemma poweredDown (extra : ℤ) (s : Sys) (h : Powered extra s.back) :
    wp (votes mp).A (votes mp).G (powerDown mp).1
      (fun _ t => Unpowered extra t.back ∧ t.back.host.power.runtimeHeld = true)
      (fun _ t => Inv t.back) s := by
  unfold powerDown
  refine Preserves.step (fun s => Powered extra s.back) h (fun _ _ ht => ht.halted.inv)
    fun _ t ht => ?_
  exact routerReleased extra t ht

/-- A session that may be stopped: it is powered, and its tunnel was stopped. -/
@[mk_iff] structure Stoppable (b : Back) : Prop where
  opened : Open b
  complete : b.host.tunnel.stopComplete = true
  gcc : b.host.power.gcc = true
  clocks : b.host.power.clocksOn = true
  runtime : b.host.power.runtimeHeld = true
  phyPower : b.host.power.phyOn = true
  phyInit : b.host.power.phyInitialized = true

@[grind →] lemma Same.stoppable (h : Same b b') (hb : Stoppable b) :
    Stoppable b' where
  opened := h.opened hb.opened
  complete := by rw [h.stopComplete, hb.complete]
  gcc := by rw [h.power, hb.gcc]
  clocks := by rw [h.power, hb.clocks]
  runtime := by rw [h.power, hb.runtime]
  phyPower := by rw [h.power, hb.phyPower]
  phyInit := by rw [h.power, hb.phyInit]

lemma halts (s : Sys) (h : Stoppable s.back) :
    wp (votes mp).A (votes mp).G (assignHost mp fun h => { h with stopping := true }).1
      (fun _ t => Powered 0 t.back) (fun _ _ => False) s := by
  refine Vc.sound ?_
  obtain ⟨fr, b, env⟩ := s
  have hr := h.opened.stop h.complete
  simp only [stoppable_iff, open_iff, balanced_iff] at h hr
  simp [powered_iff, halted_iff, balanced_iff, Dead, h]
  grind

open scoped Forget

/-! ### The tunnel -/

instance : Booked Open := ⟨Same.opened⟩

/-- A session whose receiver holds its vote. -/
@[mk_iff] structure Retained (b : Back) : Prop where
  opened : Open b
  receiver : (held b.x1Pcie).receiverRetained = true

@[grind →] lemma Same.retained (h : Same b b') (hb : Retained b) : Retained b' :=
  ⟨h.opened hb.opened, by rw [h.held, hb.receiver]⟩

lemma fenced (stop : BackProg mp Unit) [Keeps Aside stop] (s : Sys) (h : Open s.back) :
    wp (votes mp).A (votes mp).G (qcomUsb4X1FenceAndQuiesce mp stop).1
      (fun _ t => Retained t.back) (fun _ t => Open t.back) s := by
  unfold qcomUsb4X1FenceAndQuiesce
  refine Vc.sound ?_
  cases hc : s.back.x1Pcie with
  | none => simp [hc, h]
  | some c =>
    have hr : c.receiverRetained = true → Retained s.back := fun hr => ⟨h, by simp [hc, hr]⟩
    simp [boundContext]
    simp only [hc]
    grind [Retained.opened]

instance (stop : BackProg mp Unit) [Keeps Aside stop] :
    Vc (votes mp).A (votes mp).G (qcomUsb4X1FenceAndQuiesce mp stop) :=
  Vc.ofSpec _ _ _ _ (fenced stop)

lemma stopReceipt (r : Option Errno) (s : Sys) (h : Open s.back ∧ (r = none → Retained s.back)) :
    wp (votes mp).A (votes mp).G
      (assignTunnel mp fun x => { x with stopError := r, stopComplete := r.isNone }).1
      (fun _ t => Open t.back ∧ (r = none → Retained t.back ∧
        t.back.host.tunnel.stopComplete = true)) (fun _ _ => False) s := by
  refine Vc.sound ?_
  obtain ⟨fr, b, env⟩ := s
  simp only [retained_iff, open_iff, balanced_iff] at h
  cases r <;> simp [retained_iff, open_iff, balanced_iff, h]
  all_goals grind

instance (r : Option Errno) : Vc (votes mp).A (votes mp).G
    (assignTunnel mp fun x => { x with stopError := r, stopComplete := r.isNone }) :=
  Vc.ofSpec _ _ _ _ (stopReceipt r)

lemma fenceStopped (stop : BackProg mp Unit) [Keeps Aside stop] (s : Sys) (h : Open s.back) :
    wp (votes mp).A (votes mp).G (fenceAndStop mp stop).1
      (fun _ t => Open t.back ∧ t.back.host.tunnel.stopComplete = true)
      (fun _ t => Open t.back) s := by
  unfold fenceAndStop
  refine Preserves.step (fun s => Open s.back) h (fun _ _ ht => ht) fun _ t h => ?_
  refine Vc.sound ?_
  simp [h]
  grind [Retained.opened]

instance (w : Write) : Saves mp Inv (endpointRemoveOnce mp w) := inferInstance

instance (w : Write) : Saves mp Inv (hostQuiesceOnce mp w) := inferInstance

lemma Inv.opened {b : Back} (h : Inv b) (hs : b.host.stopping = false)
    (ht : b.host.tb = true ∨ b.host.power.gcc = true) : Open b := by
  rcases h with h | ⟨hc, h⟩
  · rw [h.2.1] at hs; cases hs
  · have hq (hq : b.host.startupAttempted = false ∨ b.host.fullyRetired = true) : False := by
      rcases ht with ht | ht
      · have := (h.quiet hq).tb
        rw [ht] at this; cases this
      · have := (h.quiet hq).gcc
        rw [ht] at this; cases this
    have hr : b.host.fullyRetired = false := by
      by_contra hr
      exact hq (.inr (by simpa using hr))
    exact { h.toBalanced with
      restore := h.restore
      fresh := h.fresh
      imsi := h.imsi
      stop := fun ht => (h.stop ht).resolve_left (by simp [hr])
      started := by
        by_contra hn
        exact hq (.inl (by simpa using hn))
      going := hr
      covered := hc }

instance (stop : BackProg mp Unit) [Keeps Aside stop] :
    Vc (votes mp).A (votes mp).G (fenceAndStop mp stop) :=
  Vc.ofSpec _ _ _ _ (fenceStopped stop)

instance (w : Write) : Saves mp Inv (tunnelQuiesceOnce mp w) := by
  refine ⟨fun s h => ?_⟩
  unfold tunnelQuiesceOnce locked
  refine Vc.sound ?_
  simp [connected]
  grind [Inv.opened, Open.inv]

/-! ### The power stop -/

section Eject

local instance : Vc (votes mp).A (votes mp).G
    (assignHost mp fun h => { h with stopping := true }) :=
  Vc.ofSpec _ _ _ _ halts

local instance : Vc (votes mp).A (votes mp).G (powerDown mp) :=
  Vc.ofSpec _ _ _ _ (poweredDown 0)

local instance : Vc (votes mp).A (votes mp).G (putRuntime mp) :=
  Vc.ofSpec _ _ _ _ (runtimePut 0)

lemma powerStopped (s : Sys)
    (h : Inv s.back ∧ s.back.host.tunnel.stopComplete = true) :
    wp (votes mp).A (votes mp).G (x1PowerStopRun mp).1
      (fun _ t => Off 0 t.back) (fun _ t => Inv t.back) s := by
  unfold x1PowerStopRun powerStopReceipt
  refine Vc.sound ?_
  simp
  grind [Inv.opened, Off.inv, stoppable_iff]

end Eject

end YogaUsb4.Ledger
