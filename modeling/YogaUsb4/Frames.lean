import YogaUsb4.Rules

/-!
What single steps of the driver may write. The state that only operations write is cut into
sections, each assignment of the driver stays in one of them, and a relation that allows the
assignments to a section is kept by every one of them.
-/

namespace YogaUsb4.Frames

open HostState Typec Driver Prog Rules

/-- The sections of the state that a single assignment of the driver stays in. -/
inductive Section
  | power | powerStop | restore | batch | switch | bind | tunnel | tunnelStage | ctl | qnhi
  | controlRetire | hostStop | domain | cm | cmRetire | pcie | started | startup | ready | stopping
  | suspended | stages | tb
  | hostStopAttempted | idle | pulled | retired | port | counter
  | bus | hold | newContext | receiver | newReceiver | history | hostLock | configLock

/-- The state `b'` differs from `b` in the section at most. -/
def Section.Differ (b b' : Back) : Section → Prop
  | .power => ∃ x, b' = { b with host.power := x }
  | .powerStop => ∃ x, b' = { b with host.powerStop := x }
  | .restore => ∃ x, b' = { b with host.restore := x }
  | .batch => ∃ x, b' = { b with host.batch := x }
  | .switch => ∃ x y, b' =
      { b with host.batch := { b.host.batch with switch := x, uid := y } }
  | .bind => ∃ x y z, b' =
      { b with host.batch := { b.host.batch with error := x, complete := y, bindPending := z } }
  | .tunnel => ∃ x, b' = { b with host.tunnel := x }
  | .tunnelStage => ∃ x y z, b' =
      { b with host.tunnel := { b.host.tunnel with held := x, stopAttempted := y, stop := z } }
  | .ctl => ∃ x, b' = { b with host.ctl := x }
  | .qnhi => ∃ x, b' = { b with host.qnhi := x }
  | .controlRetire => ∃ x, b' = { b with host.controlRetire := x }
  | .hostStop => ∃ x, b' = { b with host.hostStop := x }
  | .domain => ∃ x, b' = { b with host.domain := x }
  | .cm => ∃ x, b' = { b with host.cm := x }
  | .cmRetire => ∃ x, b' = { b with host.cmRetire := x }
  | .pcie => ∃ x, b' = { b with host.pcie := x }
  | .started => ∃ x, b' = { b with host.startupAttempted := x }
  | .startup => ∃ x y z, b' =
      { b with host := { b.host with activated := x, coldOwned := y, phase := z } }
  | .ready => ∃ x, b' = { b with host.ready := x }
  | .stopping => ∃ x, b' = { b with host.stopping := x }
  | .suspended => ∃ x, b' = { b with host.suspended := x }
  | .stages => ∃ x y, b' = { b with host := { b.host with training := x, inventory := y } }
  | .tb => ∃ x y, b' = { b with host := { b.host with tb := x, retainedTb := y } }
  | .hostStopAttempted => ∃ x, b' = { b with host.hostStopAttempted := x }
  | .idle => ∃ x y z, b' =
      { b with host := { b.host with idleRetireAttempted := x, idleRetired := y
                                     idleRetireError := z } }
  | .pulled => ∃ w x y z, b' =
      { b with host := { b.host with pulled := w, pulledRetireAttempted := x
                                     pulledRetired := y, pulledRetireError := z } }
  | .retired => ∃ x, b' = { b with host.fullyRetired := x }
  | .port => ∃ w x y z, b' =
      { b with moduleHeld := w, runtimeEnabled := x, baselineReleased := y, pcieResetHeld := z }
  | .counter => ∃ x, b' = { b with nextGeneration := x }
  | .bus => ∃ f : X1PcieBus → X1PcieBus, b' =
      { b with x1Pcie := b.x1Pcie.map fun c => { c with toX1PcieBus := f c.toX1PcieBus } }
  | .hold => ∃ f : X1PcieHold → X1PcieHold, b' =
      { b with x1Pcie := b.x1Pcie.map fun c => { c with toX1PcieHold := f c.toX1PcieHold } }
  | .newContext => ∃ x, b' = { b with x1Pcie := x }
  | .receiver => ∃ f, b' = { b with x1ImsiActive := b.x1ImsiActive.map f }
  | .newReceiver => ∃ x, b' = { b with x1ImsiActive := x }
  | .history => ∃ m : ℕ → Mark, b' = { b with history := b.history ++ [m b.host.generation] }
  | .hostLock => ∃ x, b' = { b with hostLocked := x }
  | .configLock => ∃ x, b' = { b with configLocked := x }

/-- A test that instance search runs. -/
class Holds (b : Bool) : Prop where
  out : b = true

instance : Holds true := ⟨rfl⟩

/-- The relation allows every assignment that stays in the section. -/
class Writes (S : Sys → Label → Sys → Prop) (k : Section) : Prop where
  step : ∀ (s : Sys) (b : Back), k.Differ s.back b → S s .drv { s with back := b }

/-- The relation allows the driver to write what callbacks write. -/
class WritesFront (S : Sys → Label → Sys → Prop) : Prop where
  step : ∀ (s : Sys) (fr : Front), S s .drv { s with front := fr }

/-- The relation allows every act of the surroundings. -/
class Acts (mp : Params) (S : Sys → Label → Sys → Prop) : Prop where
  step : ∀ (s : Sys) (a : EnvAct), S s (.env a) (s.act mp a)

/-- The relation allows every answer to the call. -/
class Answers (S : Sys → Label → Sys → Prop) (c : Call) : Prop where
  ok : ∀ s : Sys, S s (.call c none) (answered s c.effect)
  fail : ∀ (s : Sys) (e : Errno) (v : ℕ), S s (.call c (some e)) (answered s (c.failure · v))

/-- The relation allows every answer to the calls that change nothing the model keeps. -/
class Checks (S : Sys → Label → Sys → Prop) : Prop where
  step : ∀ (s : Sys) (c : Check) (e : Option Errno),
    S s (.call (.check c) e) { s with env := s.env.tail }

/-- The relation allows every answer to every call that does not reach the endpoint. -/
class Silent (S : Sys → Label → Sys → Prop) : Prop where
  step : ∀ (s : Sys) (c : Call) (e : Option Errno) (f : Hw → Hw), c ≠ .configRead →
    S s (.call c e) (answered s f)

variable {mp : Params} {R S : Sys → Label → Sys → Prop}

instance [h : Checks S] (c : Check) : Answers S (.check c) :=
  ⟨fun s => h.step s c none, fun s e _ => h.step s c (some e)⟩

instance [h : Writes S .batch] : Writes S .switch :=
  ⟨by rintro s _ ⟨x, y, rfl⟩; exact h.step s _ ⟨_, rfl⟩⟩

instance [h : Writes S .tunnel] : Writes S .tunnelStage :=
  ⟨by rintro s _ ⟨x, y, z, rfl⟩; exact h.step s _ ⟨_, rfl⟩⟩

instance [h : Silent S] : Checks S := ⟨fun s c e => h.step s (.check c) e id (by simp)⟩

section Silent

variable [h : Silent S]

lemma Silent.answers (c : Call) (hc : c ≠ .configRead) : Answers S c :=
  ⟨fun s => h.step s c none _ hc, fun s e _ => h.step s c (some e) _ hc⟩

instance : Answers S .moduleGet := Silent.answers _ (by simp)
instance : Answers S .modulePut := Silent.answers _ (by simp)
instance : Answers S .gccGet := Silent.answers _ (by simp)
instance : Answers S .gccPut := Silent.answers _ (by simp)
instance (d : Dev) : Answers S (.pmResumeAndGet d) := Silent.answers _ (by simp)
instance (d : Dev) : Answers S (.pmGetNoresume d) := Silent.answers _ (by simp)
instance (d : Dev) : Answers S (.pmPutSync d) := Silent.answers _ (by simp)
instance (d : Dev) : Answers S (.pmForbid d) := Silent.answers _ (by simp)
instance (d : Dev) : Answers S (.pmAllow d) := Silent.answers _ (by simp)
instance (p : Icc) (n : ℕ) : Answers S (.iccSetBw p n) := Silent.answers _ (by simp)
instance : Answers S .clkBulkEnable := Silent.answers _ (by simp)
instance : Answers S .clkBulkDisable := Silent.answers _ (by simp)
instance : Answers S .pci0ClkEnable := Silent.answers _ (by simp)
instance : Answers S .pci0ClkDisable := Silent.answers _ (by simp)
instance : Answers S .phyInit := Silent.answers _ (by simp)
instance : Answers S .phyExit := Silent.answers _ (by simp)
instance : Answers S .phyPowerOn := Silent.answers _ (by simp)
instance : Answers S .phyPowerOff := Silent.answers _ (by simp)
instance (i : Fin 11) : Answers S (.resetAssert i) := Silent.answers _ (by simp)
instance (i : Fin 11) : Answers S (.resetDeassert i) := Silent.answers _ (by simp)
instance : Answers S .bulkAssert := Silent.answers _ (by simp)
instance : Answers S .bulkDeassert := Silent.answers _ (by simp)
instance : Answers S .bcrAssert := Silent.answers _ (by simp)
instance : Answers S .bcrDeassert := Silent.answers _ (by simp)
instance : Answers S .domainAdd := Silent.answers _ (by simp)
instance : Answers S .domainGet := Silent.answers _ (by simp)
instance : Answers S .domainPut := Silent.answers _ (by simp)
instance : Answers S .domainRemove := Silent.answers _ (by simp)

end Silent

/-! ### Primitive programs -/

instance [h : Acts mp S] (as : List EnvAct) : Keeps S (surroundings mp as) := by
  induction as with
  | nil => unfold surroundings; infer_instance
  | cons a as ih => exact ⟨Within.bind (within_step fun s => h.step s a) fun _ => ih.within⟩

instance [Acts mp S] (c : Call) [h : Answers S c] : Keeps S (callVal mp c) := by
  unfold callVal
  refine ⟨Within.bind within_get fun s => ?_⟩
  refine Within.bind (inferInstance : Keeps S (surroundings mp s.next.acts)).within fun _ => ?_
  cases s.next.err with
  | none => exact Within.bind (within_step h.ok) fun _ => within_pure _
  | some e => exact Within.bind (within_step fun s => h.fail s e _) fun _ => within_throw _

instance [Acts mp S] (c : Call) [Answers S c] : Keeps S (call mp c) := by
  unfold call; infer_instance

instance [Acts mp S] (c : Call) [h : Answers S c] : Keeps S (perform mp c) := by
  unfold perform
  refine ⟨Within.bind within_get fun s => ?_⟩
  exact Within.bind (inferInstance : Keeps S (surroundings mp s.next.acts)).within fun _ =>
    within_step h.ok

instance {α : Type} (m : BackProg mp α) [hm : Keeps S m] :
    Keeps S (liftM m : DriverProg mp α) :=
  ⟨hm.within⟩

instance (m : Guarded Sys Label Errno R Unit) [Keeps S m] : Keeps S (attempt m) := by
  unfold attempt; infer_instance

instance (c : Bool) (e : Errno) : Keeps S (require c e : Guarded Sys Label Errno R Unit) := by
  unfold require; infer_instance

instance (r : Option Errno) : Keeps S (raise r : Guarded Sys Label Errno R Unit) := by
  unfold raise; cases r <;> infer_instance

instance : Keeps S (getHost mp) := by unfold getHost; infer_instance

instance {α : Type} (k : X1PcieContext → BackProg mp α) [hk : ∀ c, Keeps S (k c)] :
    Keeps S (Pcie.withCtx mp k) := by
  refine ⟨Within.bind within_get fun s => ?_⟩
  dsimp only
  cases s.back.x1Pcie with
  | none => exact within_throw _
  | some c => exact (hk c).within

instance (m : BackProg mp Unit) [hm : Keeps S m] (n : ℕ) : Keeps S (Pcie.times mp m n) := by
  induction n with
  | zero => unfold Pcie.times; infer_instance
  | succ n ih => unfold Pcie.times; infer_instance

/-! ### Assignments -/

instance [h : WritesFront S] (f : Back → Front → Front) : Keeps S (assignFront mp f) :=
  ⟨within_step fun s => h.step s _⟩

instance [h : Writes S .power] (f : X1Power → X1Power) : Keeps S (assignPower mp f) :=
  ⟨within_step fun s => h.step s _ ⟨_, rfl⟩⟩

instance [h : Writes S .powerStop] (f : X1PowerStop → X1PowerStop) :
    Keeps S (assignPowerStop mp f) :=
  ⟨within_step fun s => h.step s _ ⟨_, rfl⟩⟩

instance [h : Writes S .restore] (f : X1Restore → X1Restore) : Keeps S (assignRestore mp f) :=
  ⟨within_step fun s => h.step s _ ⟨_, rfl⟩⟩

instance [h : Writes S .batch] (f : X1Batch → X1Batch) : Keeps S (assignBatch mp f) :=
  ⟨within_step fun s => h.step s _ ⟨_, rfl⟩⟩

instance [h : Writes S .switch] (x : Option ℕ) :
    Keeps S (assignBatch mp fun b => { b with switch := x }) :=
  ⟨within_step fun s => h.step s _ ⟨_, _, rfl⟩⟩

instance [h : Writes S .switch] (x : ℕ) : Keeps S (assignBatch mp fun b => { b with uid := x }) :=
  ⟨within_step fun s => h.step s _ ⟨_, _, rfl⟩⟩

instance [h : Writes S .bind] (x : Option Errno) (y z : Bool) :
    Keeps S (assignBatch mp fun b => { b with error := x, complete := y, bindPending := z }) :=
  ⟨within_step fun s => h.step s _ ⟨_, _, _, rfl⟩⟩

instance [h : Writes S .tunnel] (f : X1Tunnel → X1Tunnel) : Keeps S (assignTunnel mp f) :=
  ⟨within_step fun s => h.step s _ ⟨_, rfl⟩⟩

instance [h : Writes S .ctl] (f : TbCtl → TbCtl) : Keeps S (assignCtl mp f) :=
  ⟨within_step fun s => h.step s _ ⟨_, rfl⟩⟩

instance [h : Writes S .qnhi] (f : QcomUsb4Nhi → QcomUsb4Nhi) : Keeps S (assignQnhi mp f) :=
  ⟨within_step fun s => h.step s _ ⟨_, rfl⟩⟩

instance [h : Writes S .controlRetire] (f : QcomUsb4NhiRetire → QcomUsb4NhiRetire) :
    Keeps S (assignControlRetire mp f) :=
  ⟨within_step fun s => h.step s _ ⟨_, rfl⟩⟩

instance [h : Writes S .hostStop] (f : QcomUsb4NhiStop → QcomUsb4NhiStop) :
    Keeps S (assignHostStop mp f) :=
  ⟨within_step fun s => h.step s _ ⟨_, rfl⟩⟩

instance [h : Writes S .domain] (f : X1DomainRetire → X1DomainRetire) :
    Keeps S (assignDomain mp f) :=
  ⟨within_step fun s => h.step s _ ⟨_, rfl⟩⟩

instance [h : Writes S .cm] (f : TbCm → TbCm) : Keeps S (assignCm mp f) :=
  ⟨within_step fun s => h.step s _ ⟨_, rfl⟩⟩

instance [h : Writes S .cmRetire] (f : TbX1CmRetire → TbX1CmRetire) :
    Keeps S (assignCmRetire mp f) :=
  ⟨within_step fun s => h.step s _ ⟨_, rfl⟩⟩

instance [h : Writes S .pcie] (f : X1PcieState → X1PcieState) : Keeps S (assignPcie mp f) :=
  ⟨within_step fun s => h.step s _ ⟨_, rfl⟩⟩

instance [Writes S .pcie] (f : X1PcieRetire → X1PcieRetire) :
    Keeps S (PcieRetire.assignRetire mp f) := by
  unfold PcieRetire.assignRetire; infer_instance

instance [h : Writes S .tunnelStage] (f : TbX1TunnelStop → TbX1TunnelStop) :
    Keeps S (Cm.assignTunnelStop mp f) :=
  ⟨within_step fun s => h.step s _ ⟨_, _, _, rfl⟩⟩

instance [h : Writes S .tunnelStage] (x : Bool) :
    Keeps S (assignTunnel mp fun t => { t with stopAttempted := x }) :=
  ⟨within_step fun s => h.step s _ ⟨_, _, _, rfl⟩⟩

instance [h : Writes S .tunnelStage] (x : Bool) :
    Keeps S (assignTunnel mp fun t => { t with held := x }) :=
  ⟨within_step fun s => h.step s _ ⟨_, _, _, rfl⟩⟩

section Host

variable (x : Bool) (e : Option Errno)

instance [h : Writes S .counter] :
    Keeps S (assign mp fun b => { b with nextGeneration := b.nextGeneration + 1 }) :=
  ⟨within_step fun s => h.step s _ ⟨_, rfl⟩⟩

instance [h : Writes S .startup] : Keeps S (assignHost mp fun h => { h with activated := x }) :=
  ⟨within_step fun s => h.step s _ ⟨_, _, _, rfl⟩⟩

instance [h : Writes S .startup] : Keeps S (assignHost mp fun h => { h with coldOwned := x }) :=
  ⟨within_step fun s => h.step s _ ⟨_, _, _, rfl⟩⟩

instance [h : Writes S .startup] (p : X1Phase) :
    Keeps S (assignHost mp fun h => { h with phase := p }) :=
  ⟨within_step fun s => h.step s _ ⟨_, _, _, rfl⟩⟩

instance [h : Writes S .ready] : Keeps S (assignHost mp fun h => { h with ready := x }) :=
  ⟨within_step fun s => h.step s _ ⟨_, rfl⟩⟩

instance [h : Writes S .stopping] : Keeps S (assignHost mp fun h => { h with stopping := x }) :=
  ⟨within_step fun s => h.step s _ ⟨_, rfl⟩⟩

instance [h : Writes S .suspended] : Keeps S (assignHost mp fun h => { h with suspended := x }) :=
  ⟨within_step fun s => h.step s _ ⟨_, rfl⟩⟩

instance [h : Writes S .stages] (st : X1Stage) :
    Keeps S (assignHost mp fun h => { h with training := st }) :=
  ⟨within_step fun s => h.step s _ ⟨_, _, rfl⟩⟩

instance [h : Writes S .stages] (st : X1Stage) :
    Keeps S (assignHost mp fun h => { h with inventory := st }) :=
  ⟨within_step fun s => h.step s _ ⟨_, _, rfl⟩⟩

instance [h : Writes S .tb] : Keeps S (assignHost mp fun h => { h with tb := x }) :=
  ⟨within_step fun s => h.step s _ ⟨_, _, rfl⟩⟩

instance [h : Writes S .tb] : Keeps S (assignHost mp fun h => { h with retainedTb := x }) :=
  ⟨within_step fun s => h.step s _ ⟨_, _, rfl⟩⟩

instance [h : Writes S .tb] (y : Bool) :
    Keeps S (assignHost mp fun h => { h with retainedTb := x, tb := y }) :=
  ⟨within_step fun s => h.step s _ ⟨_, _, rfl⟩⟩

instance [h : Writes S .hostStopAttempted] :
    Keeps S (assignHost mp fun h => { h with hostStopAttempted := x }) :=
  ⟨within_step fun s => h.step s _ ⟨_, rfl⟩⟩

instance [h : Writes S .idle] :
    Keeps S (assignHost mp fun h => { h with idleRetireAttempted := x }) :=
  ⟨within_step fun s => h.step s _ ⟨_, _, _, rfl⟩⟩

instance [h : Writes S .idle] : Keeps S (assignHost mp fun h => { h with idleRetired := x }) :=
  ⟨within_step fun s => h.step s _ ⟨_, _, _, rfl⟩⟩

instance [h : Writes S .idle] : Keeps S (assignHost mp fun h => { h with idleRetireError := e }) :=
  ⟨within_step fun s => h.step s _ ⟨_, _, _, rfl⟩⟩

instance [h : Writes S .pulled] (y : Bool) :
    Keeps S (assignHost mp fun h => { h with pulledRetireAttempted := x, pulled := y }) :=
  ⟨within_step fun s => h.step s _ ⟨_, _, _, _, rfl⟩⟩

instance [h : Writes S .pulled] : Keeps S (assignHost mp fun h => { h with pulledRetired := x }) :=
  ⟨within_step fun s => h.step s _ ⟨_, _, _, _, rfl⟩⟩

instance [h : Writes S .pulled] :
    Keeps S (assignHost mp fun h => { h with pulledRetireError := e }) :=
  ⟨within_step fun s => h.step s _ ⟨_, _, _, _, rfl⟩⟩

instance [h : Writes S .retired] : Keeps S (assignHost mp fun h => { h with fullyRetired := x }) :=
  ⟨within_step fun s => h.step s _ ⟨_, rfl⟩⟩

instance [h : Writes S .port] : Keeps S (assign mp fun b => { b with moduleHeld := x }) :=
  ⟨within_step fun s => h.step s _ ⟨_, _, _, _, rfl⟩⟩

instance [h : Writes S .port] : Keeps S (assign mp fun b => { b with runtimeEnabled := x }) :=
  ⟨within_step fun s => h.step s _ ⟨_, _, _, _, rfl⟩⟩

instance [h : Writes S .port] : Keeps S (assign mp fun b => { b with baselineReleased := x }) :=
  ⟨within_step fun s => h.step s _ ⟨_, _, _, _, rfl⟩⟩

instance [h : Writes S .port] : Keeps S (assign mp fun b => { b with pcieResetHeld := x }) :=
  ⟨within_step fun s => h.step s _ ⟨_, _, _, _, rfl⟩⟩

instance [h : Writes S .configLock] : Keeps S (assign mp fun b => { b with configLocked := x }) :=
  ⟨within_step fun s => h.step s _ ⟨_, rfl⟩⟩

end Host

instance [h : Writes S .bus] (f : X1PcieBus → X1PcieBus) : Keeps S (assignBus mp f) :=
  ⟨within_step fun s => h.step s _ ⟨_, rfl⟩⟩

instance [h : Writes S .hold] (f : X1PcieHold → X1PcieHold) : Keeps S (assignHold mp f) :=
  ⟨within_step fun s => h.step s _ ⟨_, rfl⟩⟩

instance [h : Writes S .receiver] (f : X1ImsiReceipt → X1ImsiReceipt) :
    Keeps S (Pcie.assignImsi mp f) :=
  ⟨within_step fun s => h.step s _ ⟨_, rfl⟩⟩

instance [h : Writes S .newReceiver] (x : Option X1ImsiReceipt) :
    Keeps S (assign mp fun b => { b with x1ImsiActive := x }) :=
  ⟨within_step fun s => h.step s _ ⟨_, rfl⟩⟩

instance [h : Writes S .history] (m : ℕ → Mark) : Keeps S (mark mp m) :=
  ⟨within_step fun s => h.step s _ ⟨_, rfl⟩⟩

instance [Acts mp S] [Checks S] [h : Writes S .hostLock] : Keeps S (lockHost mp) := by
  have : Keeps S (assign mp fun b => { b with hostLocked := true }) :=
    ⟨within_step fun s => h.step s _ ⟨_, rfl⟩⟩
  unfold lockHost; infer_instance

instance [h : Writes S .hostLock] : Keeps S (unlockHost mp) :=
  ⟨within_step fun s => h.step s _ ⟨_, rfl⟩⟩

end YogaUsb4.Frames
