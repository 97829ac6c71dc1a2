import YogaUsb4.Ledger.Stop

/-!
The books of the retirements. The store's own vote on the router covers the lines while the
context and its votes go, and falls only after the last line was released; then nothing is held.
-/

namespace YogaUsb4.Ledger

open HostState Typec Driver Prog Rules Frames Footprint Cm Pcie Activate PcieRetire Quiesce Renew

variable {mp : Params}

/-! ### The resets -/

/-- The states that differ from `b` in the resets and in the receipt of the stop at most. -/
def Rinsed (b b' : Back) : Prop := ∃ r x, b' = { b with hw.resets := r, host.powerStop := x }

/-- While a vote is held, the resets may be in any state. -/
def Rinsing (b b' : Back) : Prop := 0 < b.hw.router.usage ∧ Rinsed b b'

instance (b : Back) (f : X1PowerStop → X1PowerStop) :
    Saves mp (Rinsing b) (assignPowerStop mp f) := by
  refine ⟨?_⟩
  rintro ⟨fr, _, env⟩ ⟨hv, r, x, rfl⟩
  refine Vc.sound ?_
  simp [Rinsing, Rinsed, hv]

instance (b : Back) (i : Fin 11) : Saves mp (Rinsing b) (call mp (.resetDeassert i)) := by
  refine ⟨?_⟩
  rintro ⟨fr, _, env⟩ ⟨hv, r, x, rfl⟩
  refine Vc.sound ?_
  simp [Rinsing, Rinsed, Covered, hv]

instance (b : Back) (is : List (Fin 11)) : Saves mp (Rinsing b) (deassertCounted mp is) := by
  induction is with
  | nil => unfold deassertCounted; infer_instance
  | cons i is ih => unfold deassertCounted; infer_instance

instance (is : List (Fin 11)) : Vc (votes mp).A (votes mp).G (deassertCounted mp is) :=
  Vc.ofSpec _ (fun s => 0 < s.back.hw.router.usage) (fun s _ t => Rinsed s.back t.back)
    (fun s _ t => Rinsed s.back t.back) fun s h =>
      wp_mono (fun _ _ ht => ht.2) (fun _ _ ht => ht.2)
        (Preserves.sound (I := fun t => Rinsing s.back t.back) s ⟨h, _, _, rfl⟩)

lemma resetsReleased (s : Sys) (h : 0 < s.back.hw.router.usage ∧ Dead s.back.host) :
    wp (votes mp).A (votes mp).G (x1StopReleaseResets mp).1
      (fun _ t => ∃ x, t.back = { s.back with
        hw.resets := 0, baselineReleased := true, host.powerStop := x })
      (fun _ t => Dead t.back.host) s := by
  unfold x1StopReleaseResets x1GccUsb4Get x1GccUsb4ResetState
  refine Vc.sound ?_
  simp only [Dead] at h
  simp +contextual [h, Rinsed, Covered, Dead]

instance : Vc (votes mp).A (votes mp).G (x1StopReleaseResets mp) :=
  Vc.ofSpec _ _ _ _ resetsReleased

/-! ### The platform context -/

/-- A stopped session without power or domain. -/
@[mk_iff] structure Orphaned (extra : ℤ) (b : Back) : Prop where
  off : Off extra b
  tb : b.host.tb = false
  retainedTb : b.host.retainedTb = false

variable {b b' : Back}

@[grind →] lemma Same.orphaned {extra : ℤ} (h : Same b b')
    (hb : Orphaned extra b) : Orphaned extra b' where
  off := h.off hb.off
  tb := by rw [h.tb, hb.tb]
  retainedTb := by rw [h.retainedTb, hb.retainedTb]

lemma Orphaned.inv {extra : ℤ} {b : Back} (h : Orphaned extra b) : Inv b := h.off.inv

lemma domainDropped (s : Sys) (h : Off 0 s.back) :
    wp (votes mp).A (votes mp).G
      (unregisterDomain mp (fun h => h.tb && h.retainedTb) (perform mp .domainPut)).1
      (fun _ t => Orphaned 0 t.back) (fun _ t => Inv t.back) s := by
  unfold unregisterDomain locked
  refine Vc.sound ?_
  obtain ⟨fr, b, env⟩ := s
  simp only [off_iff, unpowered_iff, halted_iff, balanced_iff, Dead] at h
  simp +contextual [orphaned_iff, off_iff, unpowered_iff, halted_iff, balanced_iff, Dead, Inv,
    Covered, h]
  grind

lemma domainRemoved (s : Sys) (h : Off 1 s.back ∧ s.back.host.retainedTb = false) :
    wp (votes mp).A (votes mp).G (unregisterDomain mp (fun h => h.tb) (pure ())).1
      (fun _ t => Orphaned 1 t.back) (fun _ t => Inv t.back) s := by
  unfold unregisterDomain locked
  refine Vc.sound ?_
  obtain ⟨fr, b, env⟩ := s
  simp only [off_iff, unpowered_iff, halted_iff, balanced_iff, Dead] at h
  simp +contextual [orphaned_iff, off_iff, unpowered_iff, halted_iff, balanced_iff, Dead, Inv,
    Covered, h]

lemma storeVotes (s : Sys) (h : Orphaned 0 s.back) :
    wp (votes mp).A (votes mp).G (perform mp (.pmGetNoresume .router)).1
      (fun _ t => Orphaned 1 t.back) (fun _ _ => False) s := by
  refine Vc.sound ?_
  obtain ⟨fr, b, env⟩ := s
  simp only [orphaned_iff, off_iff, unpowered_iff, halted_iff, balanced_iff, Dead] at h
  simp [orphaned_iff, off_iff, unpowered_iff, halted_iff, balanced_iff, Dead, Covered, h]
  grind

/-- The same with a complete context, covered by the vote of the store; `r` says whether its
receiver is retained. -/
@[mk_iff] structure Housed (r : Bool) (b : Back) : Prop where
  orphaned : Orphaned 1 b
  retained : (held b.x1Pcie).receiverRetained = r
  idle : r = false → (held b.x1Pcie).receiver = false
  runtime : (held b.x1Pcie).runtimeHeld = true
  clocks : (held b.x1Pcie).clocksEnabled = 8

@[grind →] lemma Same.housed {r : Bool} (h : Same b b') (hb : Housed r b) :
    Housed r b' where
  orphaned := h.orphaned hb.orphaned
  retained := by rw [h.held, hb.retained]
  idle := by rw [h.held]; exact hb.idle
  runtime := by rw [h.held, hb.runtime]
  clocks := by rw [h.held, hb.clocks]

/-- The same on its way out of the platform, with `n` clocks left. -/
@[mk_iff] structure Leaving (r : Bool) (n : ℕ) (b : Back) : Prop where
  orphaned : Orphaned 1 b
  retained : (held b.x1Pcie).receiverRetained = r
  idle : r = false → (held b.x1Pcie).receiver = false
  runtime : (held b.x1Pcie).runtimeHeld = true
  clocks : (held b.x1Pcie).clocksEnabled = n
  mem : b.hw.iccMem = 0
  cfg : b.hw.iccCfg = 0
  reset : b.pcieResetHeld = true

lemma Leaving.context {r : Bool} {n : ℕ} {b : Back} (h : Leaving r n b) :
    ∃ c, b.x1Pcie = some c := by
  cases hc : b.x1Pcie with
  | none =>
    have := h.runtime
    rw [hc] at this
    cases this
  | some c => exact ⟨c, rfl⟩

lemma clockDisabled (r : Bool) (n : ℕ) (s : Sys) (h : Leaving r (n + 1) s.back) :
    wp (votes mp).A (votes mp).G (disableClock mp).1
      (fun _ t => Leaving r n t.back) (fun _ _ => False) s := by
  unfold disableClock
  refine Vc.sound ?_
  obtain ⟨c, hc⟩ := h.context
  obtain ⟨fr, b, env⟩ := s
  simp only [leaving_iff, orphaned_iff, off_iff, unpowered_iff, halted_iff, balanced_iff, Dead]
    at h hc
  simp [leaving_iff, orphaned_iff, off_iff, unpowered_iff, halted_iff, balanced_iff, Dead,
    Covered, h, hc]
  grind

lemma drained (r : Bool) (n : ℕ) (s : Sys) (h : Leaving r n s.back) :
    wp (votes mp).A (votes mp).G (times mp (disableClock mp) n).1
      (fun _ t => Leaving r 0 t.back) (fun _ _ => False) s := by
  induction n generalizing s with
  | zero => exact h
  | succ n ih =>
    unfold times
    exact (wp_bind _ _).mpr (wp_mono (fun _ t ht => ih t ht) (fun _ _ ht => ht.elim)
      (clockDisabled r n s h))

lemma platformStopped (r : Bool) (s : Sys) (h : Housed r s.back) :
    wp (votes mp).A (votes mp).G (stopPlatform mp).1
      (fun _ t => Leaving r 0 t.back) (fun _ t => Inv t.back) s := by
  let : Vc (votes mp).A (votes mp).G (times mp (disableClock mp) 8) :=
    Vc.ofSpec _ _ _ _ (drained r 8)
  unfold stopPlatform
  refine Vc.sound ?_
  obtain ⟨fr, b, env⟩ := s
  simp only [housed_iff, orphaned_iff, off_iff, unpowered_iff, halted_iff, balanced_iff, Dead]
    at h
  simp [this, leaving_iff, orphaned_iff, off_iff, unpowered_iff, halted_iff, balanced_iff, Dead,
    Inv, Covered, h]
  grind

/-- The context gave its providers back. What its receiver took may be left: the vote on the
router, by `r`, and the reference on the module, by `m`. -/
@[mk_iff] structure Vacated (r m : Bool) (b : Back) : Prop where
  dead : Dead b.host
  restore : b.host.restore.attempted = false
  books : Balanced { b with
    x1Pcie := none
    hw.router := ⟨b.hw.router.usage - r.toInt - 1, false⟩
    hw.moduleRefs := b.hw.moduleRefs - m.toInt }
  forbid : b.hw.router.forbidden = r
  quiet : Quiet { b with
    x1Pcie := none, x1ImsiActive := none, hw.resets := 0, hw.tunnelBcr := false }
  reset : b.pcieResetHeld = true

@[grind →] lemma Same.vacated {r m : Bool} (h : Same b b') (hb : Vacated r m b) :
    Vacated r m b' where
  dead := h.dead hb.dead
  restore := by rw [h.restore, hb.restore]
  books := by
    have := hb.books
    rw [balanced_iff] at this ⊢
    simpa only [h.hw, h.power, h.tb, h.retainedTb, h.moduleHeld] using this
  forbid := by rw [h.hw, hb.forbid]
  quiet := by
    have := hb.quiet
    rw [quiet_iff] at this ⊢
    simpa only [h.hw, h.power, h.tb, h.retainedTb] using this
  reset := by rw [h.pcieResetHeld, hb.reset]

lemma Vacated.inv {r m : Bool} {b : Back} (h : Vacated r m b) : Inv b := .inl h.dead

lemma platformSuspended (r : Bool) (s : Sys) (h : Leaving r 0 s.back) :
    wp (votes mp).A (votes mp).G (suspendPlatform mp).1
      (fun _ t => Vacated r r t.back ∧ (r = false → t.back.x1ImsiActive = none))
      (fun _ t => Inv t.back) s := by
  unfold suspendPlatform
  refine Vc.sound ?_
  obtain ⟨c, hc⟩ := h.context
  obtain ⟨fr, b, env⟩ := s
  simp only [leaving_iff, orphaned_iff, off_iff, unpowered_iff, halted_iff, balanced_iff, Dead]
    at h hc
  simp [balanced_iff, Dead, vacated_iff, quiet_iff, Inv, Covered, h, hc]
  grind

lemma platformReleased (r : Bool) (s : Sys) (h : Housed r s.back) :
    wp (votes mp).A (votes mp).G (releasePlatform mp).1
      (fun _ t => Vacated r r t.back ∧ (r = false → t.back.x1ImsiActive = none))
      (fun _ t => Inv t.back) s := by
  unfold releasePlatform
  exact (wp_bind _ _).mpr (wp_mono (fun _ t ht => platformSuspended r t ht) (fun _ _ ht => ht)
    (platformStopped r s h))

/-- Only the vote of the store and the lines are left, and by `m` the reference on the module. -/
@[mk_iff] structure Freed (m : Bool) (b : Back) : Prop where
  vacated : Vacated false m b
  context : b.x1Pcie = none
  receiver : b.x1ImsiActive = none

@[grind →] lemma Same.freed {m : Bool} (h : Same b b') (hb : Freed m b) :
    Freed m b' :=
  ⟨h.vacated hb.vacated, h.noContext hb.context, h.noReceiver hb.receiver⟩

lemma contextFreed (m : Bool) (s : Sys)
    (h : Vacated false m s.back ∧ s.back.x1ImsiActive = none) :
    wp (votes mp).A (votes mp).G (freeContext mp).1
      (fun _ t => Freed m t.back) (fun _ _ => False) s := by
  unfold freeContext
  refine Vc.sound ?_
  obtain ⟨fr, b, env⟩ := s
  simp [vacated_iff, balanced_iff, quiet_iff, Dead] at h
  simp [freed_iff, vacated_iff, balanced_iff, quiet_iff, Dead, h]

lemma routerAllowed (s : Sys) (h : Vacated true true s.back) :
    wp (votes mp).A (votes mp).G (perform mp (.pmAllow .router)).1
      (fun _ t => Vacated false true t.back) (fun _ _ => False) s := by
  refine Vc.sound ?_
  obtain ⟨fr, b, env⟩ := s
  simp [vacated_iff, balanced_iff, quiet_iff, Dead] at h
  simp [vacated_iff, balanced_iff, quiet_iff, Dead, Covered, h]
  grind

lemma modulePut (s : Sys) (h : Freed true s.back) :
    wp (votes mp).A (votes mp).G (perform mp .modulePut).1
      (fun _ t => Freed false t.back) (fun _ _ => False) s := by
  refine Vc.sound ?_
  obtain ⟨fr, b, env⟩ := s
  simp [freed_iff, vacated_iff, balanced_iff, quiet_iff, Dead] at h
  simp [freed_iff, vacated_iff, balanced_iff, quiet_iff, Dead, Covered, h]

lemma receiverRetired (checkStopped : BackProg mp Unit) [Keeps Aside checkStopped] (s : Sys)
    (h : Vacated false true s.back) :
    wp (votes mp).A (votes mp).G (x1ImsiRetireContext mp checkStopped).1
      (fun _ t => Vacated false true t.back ∧ t.back.x1ImsiActive = none)
      (fun _ t => Inv t.back) s := by
  unfold x1ImsiRetireContext
  refine (wp_bind _ _).mpr ?_
  cases hr : s.back.x1ImsiActive with
  | none => simpa [hr] using h.inv
  | some r =>
    refine wp_get.mpr ?_
    simp only [hr]
    have hx : ∀ b, Vacated false true b → Vacated false true { b with x1ImsiActive := none } := by
      intro b hb
      simpa [vacated_iff, balanced_iff, quiet_iff] using hb
    refine Vc.sound ?_
    simp
    grind [Vacated.inv]

/-! ### Nothing is left -/

@[mk_iff] structure Clear (b : Back) : Prop where
  dead : Dead b.host
  restore : b.host.restore.attempted = false
  books : Balanced b
  quiet : Quiet b
  baseline : b.baselineReleased = true

lemma retiredReleased (s : Sys) (h : Freed false s.back) :
    wp (votes mp).A (votes mp).G (x1RetiredRelease mp).1
      (fun _ t => Clear t.back) (fun _ t => Inv t.back) s := by
  unfold x1RetiredRelease qcomUsb4X1ReleaseRetiredReset
  refine Vc.sound ?_
  obtain ⟨fr, b, env⟩ := s
  simp [freed_iff, vacated_iff, balanced_iff, quiet_iff, Dead] at h
  simp +contextual [clear_iff, balanced_iff, quiet_iff, Dead, Inv, Covered, h]
  grind

@[grind →] lemma Same.clear (h : Same b b') (hb : Clear b) : Clear b' where
  dead := h.dead hb.dead
  restore := by rw [h.restore, hb.restore]
  books := h.balanced hb.books
  quiet := h.quiet hb.quiet
  baseline := by rw [h.baselineReleased, hb.baseline]

lemma retires (s : Sys) (h : Clear s.back) :
    wp (votes mp).A (votes mp).G (assignHost mp fun h => { h with fullyRetired := true }).1
      (fun _ t => Inv t.back) (fun _ _ => False) s := by
  refine Vc.sound ?_
  obtain ⟨fr, b, env⟩ := s
  have hq := h.quiet
  simp only [clear_iff, balanced_iff, Dead, quiet_iff] at h hq
  simp [Inv, Covered, sound_iff, balanced_iff, quiet_iff, h]

instance : Vc (votes mp).A (votes mp).G
    (assignHost mp fun h => { h with fullyRetired := true }) :=
  Vc.ofSpec _ _ _ _ retires

/-! ### The released resets of an idle session stay released -/

/-- The resets were read back as released. -/
def Clean (b : Back) : Prop := b.hw.resets = 0 ∧ b.baselineReleased = true

abbrev Spares (s : Sys) (_ : Label) (t : Sys) : Prop := Clean s.back → Clean t.back

section Spares

instance : Acts mp Spares := ⟨fun _ _ h => h⟩

instance : Checks Spares := ⟨fun _ _ _ h => h⟩

instance (d : Dev) : Answers Spares (.pmPutSync d) :=
  ⟨fun _ h => by cases d <;> exact h, fun _ _ _ h => h⟩

instance (d : Dev) : Answers Spares (.pmAllow d) :=
  ⟨fun _ h => by cases d <;> exact h, fun _ _ _ h => h⟩

instance (p : Icc) (bw : ℕ) : Answers Spares (.iccSetBw p bw) :=
  ⟨fun _ h => by cases p <;> exact h, fun _ _ _ h => h⟩

instance : Answers Spares .bcrAssert := ⟨fun _ h => h, fun _ _ _ h => h⟩
instance : Answers Spares .pci0ClkDisable := ⟨fun _ h => h, fun _ _ _ h => h⟩
instance : Answers Spares .domainRemove := ⟨fun _ h => h, fun _ _ _ h => h⟩

instance : Writes Spares .power := ⟨by rintro s _ ⟨x, rfl⟩ h; exact h⟩
instance : Writes Spares .powerStop := ⟨by rintro s _ ⟨x, rfl⟩ h; exact h⟩
instance : Writes Spares .domain := ⟨by rintro s _ ⟨x, rfl⟩ h; exact h⟩
instance : Writes Spares .tb := ⟨by rintro s _ ⟨x, y, rfl⟩ h; exact h⟩
instance : Writes Spares .cm := ⟨by rintro s _ ⟨x, rfl⟩ h; exact h⟩
instance : Writes Spares .cmRetire := ⟨by rintro s _ ⟨x, rfl⟩ h; exact h⟩
instance : Writes Spares .pcie := ⟨by rintro s _ ⟨x, rfl⟩ h; exact h⟩
instance : Writes Spares .bus := ⟨by rintro s _ ⟨x, rfl⟩ h; exact h⟩
instance : Writes Spares .hold := ⟨by rintro s _ ⟨x, rfl⟩ h; exact h⟩
instance : Writes Spares .newContext := ⟨by rintro s _ ⟨x, rfl⟩ h; exact h⟩
instance : Writes Spares .history := ⟨by rintro s _ ⟨x, rfl⟩ h; exact h⟩
instance : Writes Spares .hostLock := ⟨by rintro s _ ⟨x, rfl⟩ h; exact h⟩

instance : Keeps Spares (assign mp fun b => { b with pcieResetHeld := true }) :=
  ⟨within_step fun _ h => h⟩

instance : Keeps Spares (putRuntime mp) := by unfold putRuntime; infer_instance

instance : Keeps Spares (disableClock mp) := by unfold disableClock; infer_instance

instance : Keeps Spares (stopPlatform mp) := by unfold stopPlatform; infer_instance

instance : Keeps Spares (suspendPlatform mp) := by unfold suspendPlatform; infer_instance

instance : Keeps Spares (releasePlatform mp) := by unfold releasePlatform; infer_instance

instance (checkStopped : BackProg mp Unit) [Keeps Spares checkStopped] :
    Keeps Spares (qcomUsb4X1IdleRetirePlatform mp checkStopped) := by
  unfold qcomUsb4X1IdleRetirePlatform; infer_instance

instance : Keeps Spares (unregisterDomain mp (fun h => h.tb) (pure ())) := by
  unfold unregisterDomain; infer_instance

instance : Keeps Spares (x1IdleRetireDomain mp) := by
  unfold x1IdleRetireDomain; infer_instance

end Spares

/-! ### The idle session -/

lemma waitEnded (s : Sys) (h : Awaiting s.back) :
    wp (votes mp).A (votes mp).G (endWait mp).1
      (fun _ t => Halted 1 t.back) (fun _ _ => False) s := by
  unfold endWait
  refine Vc.sound ?_
  obtain ⟨fr, b, env⟩ := s
  have hc := h.opened.covered
  simp only [awaiting_iff, open_iff, balanced_iff, Covered] at h hc
  simp [halted_iff, balanced_iff, Dead, Covered, h]
  have hr := toInt_nonneg b.host.power.runtimeHeld
  have hv := toInt_nonneg (held b.x1Pcie).receiverRetained
  grind

instance : Vc (votes mp).A (votes mp).G (endWait mp) := Vc.ofSpec _ _ _ _ waitEnded

lemma idleResetsReleased (s : Sys)
    (h : Unpowered 1 s.back ∧ s.back.host.power.runtimeHeld = true) :
    wp (votes mp).A (votes mp).G (x1StopReleaseResets mp).1
      (fun _ t => (Unpowered 1 t.back ∧ t.back.host.power.runtimeHeld = true) ∧ Clean t.back)
      (fun _ t => Inv t.back) s := by
  refine wp_mono (fun _ t ht => ?_) (fun _ _ ht => .inl ht)
    (resetsReleased s ⟨h.1.halted.vote, h.1.halted.dead⟩)
  obtain ⟨x, ht⟩ := ht
  rw [ht]
  simp only [unpowered_iff, halted_iff, balanced_iff, Dead] at h
  simp [unpowered_iff, halted_iff, balanced_iff, Dead, Clean, h]
  grind

lemma idleRuntimePut (s : Sys)
    (h : (Unpowered 1 s.back ∧ s.back.host.power.runtimeHeld = true) ∧ Clean s.back) :
    wp (votes mp).A (votes mp).G (putRuntime mp).1
      (fun _ t => Off 1 t.back ∧ Clean t.back) (fun _ _ => False) s :=
  wp_mono (fun _ _ ht => ht) (fun _ _ ht => ht.1)
    (Keeps.wp_and (I := fun s => Clean s.back) h.2 (runtimePut 1 s h.1))

lemma idleReleased (s : Sys) (h : Freed false s.back ∧ Clean s.back) :
    wp (votes mp).A (votes mp).G (dropStoreVote mp).1
      (fun _ t => Clear t.back) (fun _ t => Inv t.back) s := by
  unfold dropStoreVote qcomUsb4X1ReleaseRetiredReset
  refine Vc.sound ?_
  obtain ⟨fr, b, env⟩ := s
  simp [freed_iff, vacated_iff, balanced_iff, quiet_iff, Dead, Clean] at h
  simp +contextual [clear_iff, balanced_iff, quiet_iff, Dead, Inv, Covered, h]

open scoped Forget

section Eject

local instance : Vc (votes mp).A (votes mp).G (releasePlatform mp) :=
  Vc.ofSpec _ _ _ _ (platformReleased true)

local instance : Vc (votes mp).A (votes mp).G (perform mp (.pmAllow .router)) :=
  Vc.ofSpec _ _ _ _ routerAllowed

local instance (checkStopped : BackProg mp Unit) [Keeps Aside checkStopped] :
    Vc (votes mp).A (votes mp).G (x1ImsiRetireContext mp checkStopped) :=
  Vc.ofSpec _ _ _ _ (receiverRetired checkStopped)

local instance : Vc (votes mp).A (votes mp).G (freeContext mp) :=
  Vc.ofSpec _ _ _ _ (contextFreed true)

local instance : Vc (votes mp).A (votes mp).G (perform mp .modulePut) :=
  Vc.ofSpec _ _ _ _ modulePut

lemma platformRetired (checkStopped : BackProg mp Unit) [Keeps Aside checkStopped] (s : Sys)
    (h : Orphaned 1 s.back) :
    wp (votes mp).A (votes mp).G (qcomUsb4X1RetirePlatform mp checkStopped).1
      (fun _ t => Freed false t.back) (fun _ t => Inv t.back) s := by
  unfold qcomUsb4X1RetirePlatform
  refine Vc.sound ?_
  have hi := h.off.inv
  cases hc : s.back.x1Pcie with
  | none => simp [hc, hi]
  | some c =>
    have hh (hr : c.receiverRetained = true) (hv : c.runtimeHeld = true)
        (hk : c.clocksEnabled = 8) : Housed true s.back := 
      ⟨h, by simp [hc, hr], nofun, by simp [hc, hv], by simp [hc, hk]⟩
    simp
    simp only [hc]
    grind

local instance : Vc (votes mp).A (votes mp).G
    (unregisterDomain mp (fun h => h.tb && h.retainedTb) (perform mp .domainPut)) :=
  Vc.ofSpec _ _ _ _ domainDropped

lemma domainRetired (s : Sys) (h : Off 0 s.back) :
    wp (votes mp).A (votes mp).G (x1RetireDomain mp).1
      (fun _ t => Orphaned 0 t.back) (fun _ t => Inv t.back) s := by
  unfold x1RetireDomain
  refine Vc.sound ?_
  simp
  grind [Off.inv]

local instance : Vc (votes mp).A (votes mp).G (x1RetireDomain mp) :=
  Vc.ofSpec _ _ _ _ domainRetired

local instance : Vc (votes mp).A (votes mp).G (perform mp (.pmGetNoresume .router)) :=
  Vc.ofSpec _ _ _ _ storeVotes

local instance (checkStopped : BackProg mp Unit) [Keeps Aside checkStopped] :
    Vc (votes mp).A (votes mp).G (qcomUsb4X1RetirePlatform mp checkStopped) :=
  Vc.ofSpec _ _ _ _ (platformRetired checkStopped)

local instance : Vc (votes mp).A (votes mp).G (x1RetiredRelease mp) :=
  Vc.ofSpec _ _ _ _ retiredReleased

variable [hg : Fact (mp.general = true)]

lemma sessionRetired (s : Sys) (h : Orphaned 0 s.back) :
    wp (votes mp).A (votes mp).G (x1RetireSession mp).1
      (fun _ t => Inv t.back) (fun _ t => Inv t.back) s := by
  unfold x1RetireSession
  refine Vc.sound ?_
  simp [hg.out]
  grind [Orphaned.inv, Off.inv]

local instance : Vc (votes mp).A (votes mp).G (x1RetireSession mp) :=
  Vc.ofSpec _ _ _ _ sessionRetired

lemma allRetired (s : Sys) (h : Off 0 s.back) :
    wp (votes mp).A (votes mp).G (retireAll mp).1
      (fun _ t => Inv t.back) (fun _ t => Inv t.back) s := by
  unfold retireAll
  refine Vc.sound ?_
  simp
  grind [Orphaned.inv, Off.inv]

local instance : Vc (votes mp).A (votes mp).G (retireAll mp) :=
  Vc.ofSpec _ _ _ _ allRetired

local instance : Vc (votes mp).A (votes mp).G (x1PowerStopRun mp) :=
  Vc.ofSpec _ _ _ _ powerStopped

instance (w : Write) : Saves mp Inv (powerQuiesceOnce mp w) := by
  refine ⟨fun s h => ?_⟩
  unfold powerQuiesceOnce locked
  refine Vc.sound ?_
  simp [tunnelReceipt]
  grind [Off.inv, → Same.stopComplete]

local instance (priority := high) : Vc (votes mp).A (votes mp).G
    (assignHost mp fun h => { h with pulledRetired := true }) :=
  forget _ fun _ => ⟨_, rfl, by constructor <;> rfl⟩

omit hg in
lemma pulledStopped (s : Sys) (h : Open s.back) :
    wp (votes mp).A (votes mp).G (stopPulled mp).1
      (fun _ t => Off 0 t.back) (fun _ t => Inv t.back) s := by
  unfold stopPulled locked
  refine Vc.sound ?_
  simp
  grind [Open.inv, → Same.stopComplete]

local instance : Vc (votes mp).A (votes mp).G (stopPulled mp) :=
  Vc.ofSpec _ _ _ _ pulledStopped

lemma stoppedRetired (s : Sys) (h : Off 0 s.back) :
    wp (votes mp).A (votes mp).G (retireStopped mp).1
      (fun _ t => Inv t.back) (fun _ t => Inv t.back) s := by
  unfold retireStopped
  refine Vc.sound ?_
  simp
  grind [Off.inv, Orphaned.inv]

local instance : Vc (votes mp).A (votes mp).G (retireStopped mp) :=
  Vc.ofSpec _ _ _ _ stoppedRetired

lemma pulledRetired (s : Sys) (h : Open s.back) :
    wp (votes mp).A (votes mp).G (retirePulled mp).1
      (fun _ t => Inv t.back) (fun _ t => Inv t.back) s := by
  unfold retirePulled
  refine Vc.sound ?_
  simp
  grind [Open.inv, Off.inv]

local instance : Vc (votes mp).A (votes mp).G (retirePulled mp) :=
  Vc.ofSpec _ _ _ _ pulledRetired

local instance (priority := high) : Vc (votes mp).A (votes mp).G
    (assignHost mp fun h => { h with pulledRetireAttempted := true, pulled := true }) :=
  forget _ fun _ => ⟨_, rfl, by constructor <;> rfl⟩

local instance (priority := high) (r : Option Errno) : Vc (votes mp).A (votes mp).G
    (assignHost mp fun h => { h with pulledRetireError := r }) :=
  forget _ fun _ => ⟨_, rfl, by constructor <;> rfl⟩

instance (w : Write) : Saves mp Inv (pulledRetireOnce mp w) := by
  refine ⟨fun s h => ?_⟩
  unfold pulledRetireOnce Batch.leave
  refine Vc.sound ?_
  simp [pulledReady]
  grind [Inv.opened]

end Eject

section Idle

local instance : Vc (votes mp).A (votes mp).G (powerDown mp) :=
  Vc.ofSpec _ _ _ _ (poweredDown 1)

local instance : Vc (votes mp).A (votes mp).G (x1StopReleaseResets mp) :=
  Vc.ofSpec _ _ _ _ idleResetsReleased

local instance : Vc (votes mp).A (votes mp).G (putRuntime mp) :=
  Vc.ofSpec _ _ _ _ idleRuntimePut

@[grind →] lemma Same.clean (h : Same b b') (hb : Clean b) : Clean b' :=
  ⟨by rw [h.hw, hb.1], by rw [h.baselineReleased, hb.2]⟩

lemma idlePoweredDown (s : Sys) (h : Powered 1 s.back) :
    wp (votes mp).A (votes mp).G (idlePowerDown mp).1
      (fun _ t => Off 1 t.back ∧ Clean t.back) (fun _ t => Inv t.back) s := by
  unfold idlePowerDown
  refine Vc.sound ?_
  simp
  grind [Off.inv]

local instance : Vc (votes mp).A (votes mp).G (idlePowerDown mp) :=
  Vc.ofSpec _ _ _ _ idlePoweredDown

lemma idlePowerStopped (s : Sys) (h : Halted 1 s.back) :
    wp (votes mp).A (votes mp).G (x1IdlePowerStopRun mp).1
      (fun _ t => Off 1 t.back ∧ Clean t.back) (fun _ t => Inv t.back) s := by
  unfold x1IdlePowerStopRun powerStopReceipt
  refine Vc.sound ?_
  simp
  grind [Halted.inv, Off.inv, powered_iff, → Same.power]

local instance : Vc (votes mp).A (votes mp).G (x1IdlePowerStopRun mp) :=
  Vc.ofSpec _ _ _ _ idlePowerStopped

lemma idleUntied (s : Sys) (_ : True) :
    wp (votes mp).A (votes mp).G (x1IdleCmOwnerStopped mp).1
      (fun _ t => Same s.back t.back ∧ t.back.host.retainedTb = false)
      (fun _ t => Same s.back t.back) s := by
  unfold x1IdleCmOwnerStopped x1IdleOwnerStopped
  refine Vc.sound ?_
  have := Same.refl s.back
  simp
  grind

local instance : Vc (votes mp).A (votes mp).G (x1IdleCmOwnerStopped mp) :=
  Vc.ofSpec _ _ _ _ idleUntied

local instance : Vc (votes mp).A (votes mp).G
    (unregisterDomain mp (fun h => h.tb) (pure ())) :=
  Vc.ofSpec _ _ _ _ domainRemoved

lemma idleDomainRetired (s : Sys) (h : Off 1 s.back) :
    wp (votes mp).A (votes mp).G (x1IdleRetireDomain mp).1
      (fun _ t => Orphaned 1 t.back) (fun _ t => Inv t.back) s := by
  unfold x1IdleRetireDomain
  refine Vc.sound ?_
  simp
  grind [Off.inv, → Same.retainedTb]

local instance : Vc (votes mp).A (votes mp).G (releasePlatform mp) :=
  Vc.ofSpec _ _ _ _ (platformReleased false)

local instance : Vc (votes mp).A (votes mp).G (freeContext mp) :=
  Vc.ofSpec _ _ _ _ (contextFreed false)

lemma idlePlatformRetired (checkStopped : BackProg mp Unit) [Keeps Aside checkStopped] (s : Sys)
    (h : Orphaned 1 s.back) :
    wp (votes mp).A (votes mp).G (qcomUsb4X1IdleRetirePlatform mp checkStopped).1
      (fun _ t => Freed false t.back) (fun _ t => Inv t.back) s := by
  unfold qcomUsb4X1IdleRetirePlatform
  refine Vc.sound ?_
  have hi := h.off.inv
  cases hc : s.back.x1Pcie with
  | none => simp [hc, hi]
  | some c =>
    have hh (hr : c.receiverRetained = false) (hi : c.receiver = false)
        (hv : c.runtimeHeld = true) (hk : c.clocksEnabled = 8) : Housed false s.back :=
      ⟨h, by simp [hc, hr], by simp [hc, hi], by simp [hc, hv], by simp [hc, hk]⟩
    simp
    simp only [hc]
    grind

local instance : Vc (votes mp).A (votes mp).G (x1IdleRetireDomain mp) :=
  Vc.ofSpec _ (fun s => Off 1 s.back ∧ Clean s.back)
    (fun _ _ t => Orphaned 1 t.back ∧ Clean t.back) (fun _ _ t => Inv t.back) fun s h =>
      wp_mono (fun _ _ ht => ht) (fun _ _ ht => ht.1)
        (Keeps.wp_and (I := fun s => Clean s.back) h.2 (idleDomainRetired s h.1))

local instance (checkStopped : BackProg mp Unit) [Keeps Aside checkStopped]
    [Keeps Spares checkStopped] :
    Vc (votes mp).A (votes mp).G (qcomUsb4X1IdleRetirePlatform mp checkStopped) :=
  Vc.ofSpec _ (fun s => Orphaned 1 s.back ∧ Clean s.back)
    (fun _ _ t => Freed false t.back ∧ Clean t.back) (fun _ _ t => Inv t.back) fun s h =>
      wp_mono (fun _ _ ht => ht) (fun _ _ ht => ht.1)
        (Keeps.wp_and (I := fun s => Clean s.back) h.2 (idlePlatformRetired checkStopped s h.1))

local instance : Vc (votes mp).A (votes mp).G (dropStoreVote mp) :=
  Vc.ofSpec _ _ _ _ idleReleased

local instance (priority := high) : Vc (votes mp).A (votes mp).G
    (assignHost mp fun h => { h with idleRetired := true }) :=
  forget _ fun _ => ⟨_, rfl, by constructor <;> rfl⟩

lemma idleRetired (s : Sys) (h : Off 1 s.back ∧ Clean s.back) :
    wp (votes mp).A (votes mp).G (retireIdle mp).1
      (fun _ t => Inv t.back) (fun _ t => Inv t.back) s := by
  unfold retireIdle
  refine Vc.sound ?_
  simp
  grind [Off.inv]

local instance : Vc (votes mp).A (votes mp).G (retireIdle mp) :=
  Vc.ofSpec _ _ _ _ idleRetired

local instance (priority := high) (r : Option Errno) : Vc (votes mp).A (votes mp).G
    (assignHost mp fun h => { h with idleRetireError := r }) :=
  forget _ fun _ => ⟨_, rfl, by constructor <;> rfl⟩

lemma frozenRetired (s : Sys) (h : Awaiting s.back) :
    wp (votes mp).A (votes mp).G (retireFrozen mp).1
      (fun _ t => Inv t.back) (fun _ t => Inv t.back) s := by
  unfold retireFrozen
  refine Vc.sound ?_
  simp
  grind [Halted.inv, Off.inv]

local instance : Vc (votes mp).A (votes mp).G (retireFrozen mp) :=
  Vc.ofSpec _ _ _ _ frozenRetired

instance (w : Write) : Saves mp Inv (idleRetireOnce mp w) := by
  refine ⟨fun s h => ?_⟩
  unfold idleRetireOnce Batch.leave
  refine Vc.sound ?_
  simp [idleReady]
  grind [Inv.awaiting, Awaiting.inv]

end Idle

end YogaUsb4.Ledger
