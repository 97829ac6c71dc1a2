import YogaUsb4.Footprint
import Mathlib.Tactic.MkIffOfInductiveProp

/-!
What the driver holds, against what its flags say. Every vote, lease, clock and reference has
a flag of the session, of the PCIe context or of the port beside it; between two operations
the two agree, except in a session that was stopped and not retired, which no operation
touches again.
-/

namespace YogaUsb4.Ledger

open HostState Typec Driver Prog Rules Frames

/-- No reset line of the router or of the tunnel is asserted without a vote on the router. -/
def Covered (hw : Hw) : Prop := hw.resets ≠ 0 ∨ hw.tunnelBcr = true → 0 < hw.router.usage

lemma toInt_nonneg (x : Bool) : 0 ≤ x.toInt := by cases x <;> decide

@[simp] lemma one_add_toInt_pos (x : Bool) : 0 < 1 + x.toInt := by cases x <;> decide

/-- What the PCIe context holds with its providers: nothing, if there is none. -/
def held (c : Option X1PcieContext) : X1PcieHold := (c.map (·.toX1PcieHold)).getD {}

@[simp, grind =] lemma held_none : held none = {} := rfl

@[simp, grind =] lemma held_some (c : X1PcieContext) : held (some c) = c.toX1PcieHold := rfl

/-- Every count is the number of the flags that stand for it. -/
@[mk_iff] structure Balanced (b : Back) : Prop where
  gcc : b.hw.gccLease = b.host.power.gcc.toInt
  clocks : b.hw.routerClocks = b.host.power.clocksOn.toInt
  phyInit : b.hw.phyInit = b.host.power.phyInitialized.toInt
  phyPower : b.hw.phyPower = b.host.power.phyOn.toInt
  router : b.hw.router.usage =
    b.host.power.runtimeHeld.toInt + (held b.x1Pcie).receiverRetained.toInt
  forbid : b.hw.router.forbidden = (held b.x1Pcie).receiverRetained
  pci0 : b.hw.pci0.usage = (held b.x1Pcie).runtimeHeld.toInt + b.hw.pci0.forbidden.toInt
  pci0Forbid : b.hw.pci0.forbidden =
    ((held b.x1Pcie).runtimeHeld || (held b.x1Pcie).receiverRetained)
  pci0Clocks : b.hw.pci0Clocks = (held b.x1Pcie).clocksEnabled
  domain : b.hw.domainRefs = b.host.tb.toInt + b.host.retainedTb.toInt
  module : b.hw.moduleRefs = b.moduleHeld.toInt + (held b.x1Pcie).receiverRetained.toInt

@[mk_iff] structure Quiet (b : Back) : Prop where
  gcc : b.host.power.gcc = false
  clocks : b.host.power.clocksOn = false
  phyInit : b.host.power.phyInitialized = false
  phyPower : b.host.power.phyOn = false
  router : b.host.power.runtimeHeld = false
  apps : b.hw.iccApps = 0
  ddr : b.hw.iccDdr = 0
  mem : b.hw.iccMem = 0
  cfg : b.hw.iccCfg = 0
  tb : b.host.tb = false
  retainedTb : b.host.retainedTb = false
  context : b.x1Pcie = none
  receiver : b.x1ImsiActive = none
  resets : b.hw.resets = 0
  bcr : b.hw.tunnelBcr = false

/-- The books of a session that operations may still change. -/
@[mk_iff] structure Sound (b : Back) : Prop extends Balanced b where
  restore : b.host.restore.attempted = false
  wait : b.host.batch.waiting = true → b.host.startupAttempted = true
  fresh : b.host.batch.waiting = true → b.host.retainedTb = false
  imsi : (held b.x1Pcie).receiver = false → b.x1ImsiActive = none
  stop : b.host.tunnel.stopComplete = true →
    b.host.fullyRetired = true ∨ (held b.x1Pcie).receiverRetained = true
  quiet : b.host.startupAttempted = false ∨ b.host.fullyRetired = true → Quiet b
  retired : b.host.fullyRetired = true →
    b.host.stopping = true ∧ b.host.startupAttempted = true
  baseline : b.host.startupAttempted = false ∧ 1 < b.host.generation ∨
    b.host.fullyRetired = true → b.baselineReleased = true

/-- A session that was started and stopped, and is not retired. -/
def Dead (h : X1Host) : Prop :=
  h.startupAttempted = true ∧ h.stopping = true ∧ h.fullyRetired = false

/-- What holds between two operations. -/
def Inv (b : Back) : Prop := Dead b.host ∨ Covered b.hw ∧ Sound b

/-- Every step keeps the lines covered; nothing is known about what callbacks write. -/
@[simps] def votes (mp : Params) : Contract mp where
  A _ _ _ := True
  G s _ t := Covered s.back.hw → Covered t.back.hw
  rely _ _ _ := True
  refl _ _ := trivial
  trans _ _ _ _ _ _ := trivial
  act _ _ _ := ⟨id, trivial⟩

/-! ### What leaves the books alone -/

/-- The two states agree in everything the books look at. -/
@[mk_iff] structure Same (b b' : Back) : Prop where
  hw : b'.hw = b.hw
  power : b'.host.power = b.host.power
  restore : b'.host.restore = b.host.restore
  waiting : b'.host.batch.waiting = b.host.batch.waiting
  stopComplete : b'.host.tunnel.stopComplete = b.host.tunnel.stopComplete
  startupAttempted : b'.host.startupAttempted = b.host.startupAttempted
  stopping : b'.host.stopping = b.host.stopping
  fullyRetired : b'.host.fullyRetired = b.host.fullyRetired
  generation : b'.host.generation = b.host.generation
  tb : b'.host.tb = b.host.tb
  retainedTb : b'.host.retainedTb = b.host.retainedTb
  moduleHeld : b'.moduleHeld = b.moduleHeld
  baselineReleased : b'.baselineReleased = b.baselineReleased
  pcieResetHeld : b'.pcieResetHeld = b.pcieResetHeld
  context : b'.x1Pcie.map (·.toX1PcieHold) = b.x1Pcie.map (·.toX1PcieHold)
  receiver : b'.x1ImsiActive.isSome = b.x1ImsiActive.isSome

attribute [grind →] Same.startupAttempted Same.stopping Same.fullyRetired

lemma Same.refl (b : Back) : Same b b := by constructor <;> rfl

lemma Same.trans {b b' b'' : Back} (h : Same b b') (h' : Same b' b'') : Same b b'' := by
  constructor
  · rw [h'.hw, h.hw]
  · rw [h'.power, h.power]
  · rw [h'.restore, h.restore]
  · rw [h'.waiting, h.waiting]
  · rw [h'.stopComplete, h.stopComplete]
  · rw [h'.startupAttempted, h.startupAttempted]
  · rw [h'.stopping, h.stopping]
  · rw [h'.fullyRetired, h.fullyRetired]
  · rw [h'.generation, h.generation]
  · rw [h'.tb, h.tb]
  · rw [h'.retainedTb, h.retainedTb]
  · rw [h'.moduleHeld, h.moduleHeld]
  · rw [h'.baselineReleased, h.baselineReleased]
  · rw [h'.pcieResetHeld, h.pcieResetHeld]
  · rw [h'.context, h.context]
  · rw [h'.receiver, h.receiver]

variable {b b' : Back}

@[grind →] lemma Same.held (h : Same b b') : held b'.x1Pcie = held b.x1Pcie := by
  unfold Ledger.held; rw [h.context]

lemma Same.balanced (h : Same b b') (hb : Balanced b) : Balanced b' := by
  rw [balanced_iff] at hb ⊢
  simpa only [h.hw, h.power, h.held, h.tb, h.retainedTb, h.moduleHeld] using hb

@[grind →] lemma Same.noContext (h : Same b b') (hb : b.x1Pcie = none) :
    b'.x1Pcie = none := by
  have := h.context
  rw [hb, Option.map_none, Option.map_eq_none_iff] at this
  exact this

@[grind →] lemma Same.noReceiver (h : Same b b') (hb : b.x1ImsiActive = none) :
    b'.x1ImsiActive = none := by
  have := h.receiver
  rw [hb, Option.isSome_none, Option.isSome_eq_false_iff, Option.isNone_iff_eq_none] at this
  exact this

lemma Same.quiet (h : Same b b') (hb : Quiet b) : Quiet b' := by
  constructor
  · rw [h.power, hb.gcc]
  · rw [h.power, hb.clocks]
  · rw [h.power, hb.phyInit]
  · rw [h.power, hb.phyPower]
  · rw [h.power, hb.router]
  · rw [h.hw, hb.apps]
  · rw [h.hw, hb.ddr]
  · rw [h.hw, hb.mem]
  · rw [h.hw, hb.cfg]
  · rw [h.tb, hb.tb]
  · rw [h.retainedTb, hb.retainedTb]
  · exact h.noContext hb.context
  · exact h.noReceiver hb.receiver
  · rw [h.hw, hb.resets]
  · rw [h.hw, hb.bcr]

@[grind →] lemma Same.sound (h : Same b b') (hb : Sound b) : Sound b' :=
  { h.balanced hb.toBalanced with
    restore := by rw [h.restore, hb.restore]
    wait := by rw [h.waiting, h.startupAttempted]; exact hb.wait
    fresh := by rw [h.waiting, h.retainedTb]; exact hb.fresh
    imsi := by rw [h.held]; exact fun hr => h.noReceiver (hb.imsi hr)
    stop := by rw [h.stopComplete, h.fullyRetired, h.held]; exact hb.stop
    quiet := by rw [h.startupAttempted, h.fullyRetired]; exact fun hq => h.quiet (hb.quiet hq)
    retired := by rw [h.fullyRetired, h.stopping, h.startupAttempted]; exact hb.retired
    baseline := by
      rw [h.startupAttempted, h.fullyRetired, h.generation, h.baselineReleased]
      exact hb.baseline }

@[grind →] lemma Same.dead (h : Same b b') (hb : Dead b.host) : Dead b'.host := by
  unfold Dead
  rw [h.startupAttempted, h.stopping, h.fullyRetired]
  exact hb

@[grind →] lemma Same.inv (h : Same b b') (hb : Inv b) : Inv b' :=
  hb.imp h.dead fun hb => ⟨h.hw ▸ hb.1, h.sound hb.2⟩

/-- A step that leaves the books alone. -/
def Aside (s : Sys) (_ : Label) (t : Sys) : Prop := Same s.back t.back

section Aside

instance {mp : Params} : Acts mp Aside := ⟨fun s _ => Same.refl s.back⟩

instance : WritesFront Aside := ⟨fun s _ => Same.refl s.back⟩

instance : Checks Aside := ⟨fun s _ _ => Same.refl s.back⟩

instance : Answers Aside .configRead := ⟨fun s => Same.refl s.back, fun s _ _ => Same.refl s.back⟩

instance : Writes Aside .powerStop := ⟨by rintro s _ ⟨x, rfl⟩; constructor <;> rfl⟩
instance : Writes Aside .switch := ⟨by rintro s _ ⟨x, y, rfl⟩; constructor <;> rfl⟩
instance : Writes Aside .bind := ⟨by rintro s _ ⟨x, y, z, rfl⟩; constructor <;> rfl⟩
instance : Writes Aside .tunnelStage := ⟨by rintro s _ ⟨x, y, z, rfl⟩; constructor <;> rfl⟩
instance : Writes Aside .ctl := ⟨by rintro s _ ⟨x, rfl⟩; constructor <;> rfl⟩
instance : Writes Aside .qnhi := ⟨by rintro s _ ⟨x, rfl⟩; constructor <;> rfl⟩
instance : Writes Aside .controlRetire := ⟨by rintro s _ ⟨x, rfl⟩; constructor <;> rfl⟩
instance : Writes Aside .hostStop := ⟨by rintro s _ ⟨x, rfl⟩; constructor <;> rfl⟩
instance : Writes Aside .cm := ⟨by rintro s _ ⟨x, rfl⟩; constructor <;> rfl⟩
instance : Writes Aside .cmRetire := ⟨by rintro s _ ⟨x, rfl⟩; constructor <;> rfl⟩
instance : Writes Aside .pcie := ⟨by rintro s _ ⟨x, rfl⟩; constructor <;> rfl⟩
instance : Writes Aside .ready := ⟨by rintro s _ ⟨x, rfl⟩; constructor <;> rfl⟩
instance : Writes Aside .suspended := ⟨by rintro s _ ⟨x, rfl⟩; constructor <;> rfl⟩
instance : Writes Aside .stages := ⟨by rintro s _ ⟨x, y, rfl⟩; constructor <;> rfl⟩
instance : Writes Aside .hostStopAttempted := ⟨by rintro s _ ⟨x, rfl⟩; constructor <;> rfl⟩
instance : Writes Aside .history := ⟨by rintro s _ ⟨x, rfl⟩; constructor <;> rfl⟩
instance : Writes Aside .hostLock := ⟨by rintro s _ ⟨x, rfl⟩; constructor <;> rfl⟩
instance : Writes Aside .configLock := ⟨by rintro s _ ⟨x, rfl⟩; constructor <;> rfl⟩

instance : Writes Aside .bus := ⟨by
  rintro s _ ⟨f, rfl⟩
  constructor <;> first | rfl | (cases s.back.x1Pcie <;> rfl)⟩

instance : Writes Aside .receiver := ⟨by
  rintro s _ ⟨f, rfl⟩
  constructor <;> first | rfl | (cases s.back.x1ImsiActive <;> rfl)⟩

end Aside

variable {mp : Params} {α : Type} {R : Sys → Label → Sys → Prop}

/-- All that is known about a program that leaves the books alone. -/
instance (priority := low) (m : Guarded Sys Label Errno R α) [Keeps Aside m] :
    Vc (votes mp).A (votes mp).G m :=
  Vc.ofKeeps Aside m (fun _ => True) (fun s t => Same s.back t.back) (fun s => Same.refl s.back)
    fun _ _ _ _ _ hF hS _ => ⟨fun h => hS.hw ▸ h, hF.trans hS⟩

/-- A property of the books: steps that leave them alone keep it. -/
class Booked (I : Back → Prop) : Prop where
  same : ∀ {b b' : Back}, Same b b' → I b → I b'

/-- From a state in `I`, `m` ends in `I` and keeps the lines covered all along. -/
abbrev Saves (mp : Params) (I : Back → Prop) (m : Guarded Sys Label Errno R α) : Prop :=
  Preserves (votes mp).A (votes mp).G (fun s => I s.back) m

instance (priority := low) (I : Back → Prop) [hI : Booked I] (m : Guarded Sys Label Errno R α)
    [Keeps Aside m] : Saves mp I m := by
  refine ⟨fun s hs => Vc.sound ?_⟩
  simp only [Vc.vc]
  exact ⟨trivial, fun _ ht => ⟨fun _ => hI.same ht hs, fun _ => hI.same ht hs⟩⟩

/-! An assignment that leaves the books alone may be forgotten: what it wrote is then not known
any more, which keeps the conditions of longer programs small. -/

abbrev forget (m : BackProg mp Unit)
    (h : ∀ s, ∃ b, m.1 s = ⟨[(.drv, { s with back := b })], .ok ()⟩ ∧ Same s.back b) :
    Vc (votes mp).A (votes mp).G m where
  vc Q _ s := ∀ b, Same s.back b → Q () { s with back := b }
  sound {Q E s} hs := by
    obtain ⟨b, hm, hb⟩ := h s
    unfold wp
    rw [hm]
    exact fun _ => ⟨fun hc => hb.hw ▸ hc, hs b hb⟩

namespace Forget

scoped instance (priority := high) (f : X1PcieBus → X1PcieBus) :
    Vc (votes mp).A (votes mp).G (assignBus mp f) :=
  forget _ fun s => ⟨_, rfl, Writes.step (S := Aside) (k := .bus) s _ ⟨_, rfl⟩⟩

scoped instance (priority := high) (f : X1PcieState → X1PcieState) :
    Vc (votes mp).A (votes mp).G (assignPcie mp f) :=
  forget _ fun _ => ⟨_, rfl, by constructor <;> rfl⟩

scoped instance (priority := high) (f : X1PcieRetire → X1PcieRetire) :
    Vc (votes mp).A (votes mp).G (PcieRetire.assignRetire mp f) :=
  forget _ fun _ => ⟨_, rfl, by constructor <;> rfl⟩

scoped instance (priority := high) (f : X1PowerStop → X1PowerStop) :
    Vc (votes mp).A (votes mp).G (assignPowerStop mp f) :=
  forget _ fun _ => ⟨_, rfl, by constructor <;> rfl⟩

scoped instance (priority := high) (f : X1DomainRetire → X1DomainRetire) :
    Vc (votes mp).A (votes mp).G (assignDomain mp f) :=
  forget _ fun _ => ⟨_, rfl, by constructor <;> rfl⟩

scoped instance (priority := high) (m : ℕ → Mark) : Vc (votes mp).A (votes mp).G (mark mp m) :=
  forget _ fun _ => ⟨_, rfl, by constructor <;> rfl⟩

scoped instance (priority := high) : Vc (votes mp).A (votes mp).G (unlockHost mp) :=
  forget _ fun _ => ⟨_, rfl, by constructor <;> rfl⟩

scoped instance (priority := high) : Vc (votes mp).A (votes mp).G (lockHost mp) where
  vc Q _ s := ∀ fr b env, Same s.back b → Q () ⟨fr, b, env⟩
  sound {Q E s} h := by
    refine (wp_bind _ _).mpr (wp_perform ((votes mp).stable s) ⟨trivial, rfl⟩ ?_)
    rintro ⟨fr, b, env⟩ ⟨-, rfl⟩ - -
    exact ⟨id, fun _ => ⟨id, h _ _ _ (by constructor <;> rfl)⟩⟩

end Forget

end YogaUsb4.Ledger
