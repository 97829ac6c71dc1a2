import YogaUsb4.Cm

/-!
PCIe0 of the driver, up to a bound endpoint: the local preparation, the batch that trains the
link, inventories the endpoint, prepares the message receiver and scans the bus, and the bind
of the NVMe driver.
-/

namespace YogaUsb4.Pcie

open HostState Typec Driver Cm

variable (mp : Params)

/-- Runs `k` on the PCIe context; without one the caller is refused. -/
def withCtx {α : Type} (k : X1PcieContext → BackProg mp α) : BackProg mp α := do
  match (← Guarded.get).back.x1Pcie with
  | none => throw .eperm
  | some ctx => k ctx

def times (m : BackProg mp Unit) : ℕ → BackProg mp Unit
  | 0 => pure ()
  | n + 1 => do m; times m n

/-! ### Local preparation -/

/-- The one mode transition: the tunnel reset is pulsed with the gate set. -/
def x1PcieMode : BackProg mp Unit := do
  call mp (.check .pcieQuiescent)
  call mp (.check .pcieMask)
  call mp (.check .pcieGate)
  call mp .bcrAssert
  call mp .bcrDeassert
  call mp (.check .pcieQuiescent)
  call mp (.check .pcieMask)
  call mp (.check .pcieQuiescent)
  call mp (.check .pcieGate)
  call mp (.check .pcieRootValidate)

def x1PcieInspect : BackProg mp Unit := do
  call mp (.check .pcieInspect)
  assignPcie mp fun p => { p with inspectComplete := true }

def x1PcieLocalCfg0 : BackProg mp Unit := do
  call mp (.check .pcieDecoder)
  call mp (.check .pcieCfg0)
  call mp (.check .pcieRootValidate)
  assignPcie mp fun p => { p with cfg0Complete := true }

/-- Releases a tunnel reset that a retirement left asserted, with a lease of its own that the
new context keeps. -/
def x1PcieReleaseRetiredReset : BackProg mp Unit := do
  let s ← Guarded.get
  if s.back.pcieResetHeld then
    call mp (.check .resetGet)
    assignBus mp fun c => { c with resetEarly := true }
    call mp .bcrDeassert
    assign mp fun b => { b with pcieResetHeld := false }

/-- Releases a tunnel reset that a retirement left asserted, once its context is gone. -/
def qcomUsb4X1ReleaseRetiredReset : BackProg mp Unit := do
  let s ← Guarded.get
  if s.back.pcieResetHeld then
    require s.back.x1Pcie.isNone .ebusy
    checkOr mp .pcieAdmission .enodev
    call mp (.check .resetGet)
    call mp .bcrDeassert
    assign mp fun b => { b with pcieResetHeld := false }

def enableClock : BackProg mp Unit := do
  call mp .pci0ClkEnable
  assignHold mp fun c => { c with clocksEnabled := c.clocksEnabled + 1 }

/-- Both runtime votes on PCIe0's device. -/
def resumePlatform : BackProg mp Unit := do
  call mp (.pmResumeAndGet .pci0)
  assignHold mp fun c => { c with runtimeHeld := true }
  perform mp (.pmForbid .pci0)

/-- The bandwidth votes of PCIe0. -/
def votePlatform : BackProg mp Unit := do
  call mp (.iccSetBw .mem 2000000)
  call mp (.iccSetBw .cfg 75000)

/-- What the probe acquires, in order. A failure keeps what was acquired. -/
def x1PciePrepareProviders : BackProg mp Unit := do
  resumePlatform mp
  call mp (.check .mapRegisters)
  call mp (.check .mapRegisters)
  call mp (.check .mapRegisters)
  assignBus mp fun c => { c with config := true }
  withCtx mp fun c => if c.resetEarly then pure () else call mp (.check .resetGet)
  times mp (call mp (.check .getClock)) 8
  times mp (call mp (.check .getIcc)) 2
  times mp (enableClock mp) 8
  votePlatform mp
  x1PcieMode mp
  x1PcieInspect mp
  x1PcieLocalCfg0 mp

def x1PciePrepareProbe : BackProg mp Unit := do
  assignBus mp fun c => { c with entered := true }
  assignBus mp fun c => { c with runtimeEnabled := true }
  let ret ← attempt (x1PciePrepareProviders mp)
  assignPcie mp fun p => { p with error := ret, prepared := ret.isNone }

def newContext : BackProg mp Unit := do
  checkOr mp .allocate .enomem
  assign mp fun b => { b with x1Pcie := some { state := b.host.generation } }

def x1PciePrepareOnce (inventory : Bool) : BackProg mp Unit := do
  let s ← Guarded.get
  require (inventory && s.back.host.pcie.receiverRequested) .eperm
  require (!s.back.host.pcie.attempted && s.back.x1Pcie.isNone) .ealready
  assignPcie mp fun p => { p with attempted := true }
  let ret ← attempt (do
    newContext mp
    assignPcie mp fun p =>
      { p with inventoryRequested := inventory, inspectRequested := true
               cfg0Requested := true, prepared := false }
    call mp (.check .pcieAdmission)
    x1PcieReleaseRetiredReset mp
    assignBus mp fun c => { c with window := true }
    let ret ← attempt (do
      call mp (.check .genpdAttach)
      x1PciePrepareProbe mp)
    assignBus mp fun c => { c with window := false }
    raise ret
    assignBus mp fun c => { c with driverRegistered := true }
    raise (← getHost mp).pcie.error)
  assignPcie mp fun p => { p with error := ret }
  raise ret

/-! ### The batch -/

/-- `x1_pcie_batch_live`: the frontend's own liveness check, then the local gate. -/
def x1PcieBatchLive (batchLive : BackProg mp Unit) : BackProg mp Unit := do
  withCtx mp fun c => do
    let h ← getHost mp
    require (c.batchActive && h.pcie.inventoryRequested && h.pcie.inventoryAttempted &&
      h.pcie.prepared && h.pcie.error.isNone) .eperm
  batchLive
  call mp (.check .pcieGate)
  call mp (.check .pcieRootValidate)

def x1PcieWindowSurvived (batchLive : BackProg mp Unit) : BackProg mp Unit := do
  x1PcieBatchLive mp batchLive
  call mp (.check .windowSurvived)

/-- A read of the endpoint's window inside the batch. -/
def x1PcieInventoryRead (batchLive : BackProg mp Unit) : BackProg mp Unit := do
  require (← getHost mp).training.complete .einval
  x1PcieWindowSurvived mp batchLive
  call mp .configRead

def x1PcieReceiverLive (batchLive : BackProg mp Unit) : BackProg mp Unit := do
  withCtx mp fun c => do
    let h ← getHost mp
    require (c.batchActive && h.inventory.complete && h.inventory.error.isNone &&
      h.pcie.receiverRequested && c.bridge && !c.bridgeBus) .eperm
  -- Identity, command, MSI-X and, where the endpoint has it, MSI.
  x1PcieInventoryRead mp batchLive
  x1PcieInventoryRead mp batchLive
  x1PcieInventoryRead mp batchLive
  x1PcieInventoryRead mp batchLive
  x1PcieBatchLive mp batchLive

/-- The receiver's lifetime: a module reference and votes on both devices. -/
def retainReceiver : BackProg mp Unit := do
  withCtx mp fun c => require (!c.receiverRetained) .ebusy
  checkOr mp .pmEnable .ebusy
  call mp .moduleGet
  perform mp (.pmForbid .router)
  perform mp (.pmForbid .pci0)
  assignHold mp fun c => { c with receiverRetained := true }

def x1PcieReceiverRetain (batchLive : BackProg mp Unit) : BackProg mp Unit := do
  x1PcieReceiverLive mp batchLive
  retainReceiver mp

def assignImsi (f : X1ImsiReceipt → X1ImsiReceipt) : BackProg mp Unit :=
  assign mp fun b => { b with x1ImsiActive := b.x1ImsiActive.map f }

/-- `x1_imsi_cached`: copies the receipt of the context's receiver. -/
def x1ImsiCached : BackProg mp Unit := do
  let s ← Guarded.get
  withCtx mp fun c =>
    if c.receiver then
      assignPcie mp fun p => { p with receiver := s.back.x1ImsiActive.getD {} }
    else pure ()

def newReceiver : BackProg mp Unit := do
  checkOr mp .allocate .enomem
  assign mp fun b => { b with x1ImsiActive := some { attempted := true } }
  assignHold mp fun c => { c with receiver := true }

def x1ImsiPrepare (retain : BackProg mp Unit) : BackProg mp Unit := do
  let s ← Guarded.get
  require s.back.x1ImsiActive.isNone .ealready
  newReceiver mp
  let ret ← attempt (do
    call mp (.check .imsiAdmit)
    retain
    assignImsi mp fun r => { r with retained := true }
    call mp (.check .imsiSetup)
    assignImsi mp fun r =>
      { r with domainReady := true, targetReserved := true, associated := true, ready := true })
  assignImsi mp fun r => { r with error := ret }
  raise ret

def x1PcieReceiverPrepare (batchLive : BackProg mp Unit) : BackProg mp Unit := do
  withCtx mp fun c => require (!c.bridge && !c.receiver) .ealready
  x1PcieWindowSurvived mp batchLive
  checkOr mp .allocate .enomem
  assignBus mp fun c => { c with bridge := true }
  assignPcie mp fun p => { p with bridgeAllocated := true }
  let ret ← attempt (x1ImsiPrepare mp (x1PcieReceiverRetain mp batchLive))
  x1ImsiCached mp
  raise ret
  x1PcieReceiverLive mp batchLive

/-- The local checks before an access: two of its reads are of the endpoint's window. -/
def x1PcieHostLocal : BackProg mp Unit := do
  let s ← Guarded.get
  let h := s.back.host
  withCtx mp fun c =>
    require (c.state == h.generation && h.pcie.nvmeRequested && c.receiverRetained &&
      h.pcie.receiver.ready && h.training.complete && h.pcie.error.isNone &&
      h.pcie.hostError.isNone && s.front.cfgError.isNone) .eperm
  call mp (.check .hostLocal)
  call mp .configRead
  call mp .configRead

/-- The first failed configuration access, if there was one, ends the caller. -/
def raiseCfgError : BackProg mp Unit := do
  raise (← Guarded.get).front.cfgError

/-- `x1_pcie_scan_identity`: also pins the two devices. -/
def x1PcieScanIdentity : BackProg mp Unit := do
  call mp (.check .scanIdentity)
  assignBus mp fun c => { c with rootPort := true, endpoint := true }

/-- `x1_pcie_assigned_bars`: its last reads are of the endpoint's window. -/
def x1PcieAssignedBars : BackProg mp Unit := do
  call mp (.check .assignedBars)
  call mp .configRead

def x1PcieHostScan (batchLive : BackProg mp Unit) : BackProg mp Unit := do
  require (!(← getHost mp).pcie.hostAttempted) .ealready
  assignPcie mp fun p => { p with hostAttempted := true }
  let ret ← attempt (do
    x1PcieReceiverLive mp batchLive
    x1PcieHostLocal mp
    call mp (.check .memPrepare)
    x1PcieReceiverLive mp batchLive
    assignBus mp fun c => { c with configOpen := true, scanWrites := true }
    call mp (.check .scanRootBus)
    assignBus mp fun c => { c with bridgeBus := true }
    assignPcie mp fun p => { p with hostPublished := true }
    -- PCI core reads and writes configuration while it scans.
    perform mp (.check .scanIdentity)
    raiseCfgError mp
    x1PcieScanIdentity mp
    call mp (.check .driverOverride)
    call mp (.check .driverOverride)
    perform mp (.check .assignedBars)
    raiseCfgError mp
    x1PcieAssignedBars mp
    x1PcieBatchLive mp batchLive
    assignBus mp fun c => { c with scanWrites := false }
    perform mp (.check .addDevices)
    raiseCfgError mp
    x1PcieScanIdentity mp
    x1PcieAssignedBars mp
    x1PcieBatchLive mp batchLive
    assignPcie mp fun p => { p with hostPrepared := true })
  assignBus mp fun c => { c with scanWrites := false }
  assignPcie mp fun p => { p with hostError := ret }
  raise ret

/-- Training and inventory are bounded one-shot stages of their own. -/
def runStage (set : X1Stage → X1Host → X1Host) (c : Check) : BackProg mp Unit := do
  assignHost mp (set { attempted := true })
  let ret ← attempt (call mp (.check c))
  assignHost mp (set { attempted := true, complete := ret.isNone, error := ret })
  raise ret

def x1PcieTrain : BackProg mp Unit :=
  runStage mp (fun st h => { h with training := st }) .train

/-- The inventory reads the endpoint's window. -/
def qcomUsb4X1Inventory (batchLive : BackProg mp Unit) : BackProg mp Unit := do
  x1PcieInventoryRead mp batchLive
  runStage mp (fun st h => { h with inventory := st }) .inventory

def qcomUsb4X1BatchInventory (batchLive : BackProg mp Unit) (vendor device : ℕ) :
    BackProg mp Unit := do
  let h ← getHost mp
  withCtx mp fun c =>
    require (c.state == h.generation && h.pcie.inventoryRequested && h.pcie.prepared &&
      h.pcie.error.isNone && h.pcie.cfg0Complete && !c.window && c.config) .eperm
  require (!h.pcie.inventoryAttempted) .ealready
  assignPcie mp fun p => { p with inventoryAttempted := true }
  assignBus mp fun c => { c with batchActive := true }
  let ret ← attempt (do
    x1PcieWindowSurvived mp batchLive
    x1PcieTrain mp
    x1PcieWindowSurvived mp batchLive
    if h.pcie.general && vendor == 0 && device == 0 then
      x1PcieInventoryRead mp batchLive
    qcomUsb4X1Inventory mp batchLive
    x1PcieWindowSurvived mp batchLive
    x1PcieReceiverPrepare mp batchLive
    if h.pcie.nvmeRequested then
      x1PcieHostScan mp batchLive)
  assignBus mp fun c => { c with batchActive := false }
  assignPcie mp fun p => { p with error := ret }
  raise ret

/-! ### Bind -/

/-- Binds the NVMe driver, with no frontend lock held. -/
def qcomUsb4X1NvmeBind : BackProg mp Unit := do
  let h ← getHost mp
  withCtx mp fun c =>
    require (c.state == h.generation && h.pcie.nvmeRequested && h.pcie.hostPrepared &&
      h.pcie.hostPublished && h.pcie.error.isNone && !c.batchActive && c.endpoint &&
      c.rootPort) .eperm
  require (!h.pcie.nvmeBindAttempted) .ealready
  assignPcie mp fun p => { p with nvmeBindAttempted := true }
  let ret ← attempt (do
    x1PcieHostLocal mp
    x1PcieScanIdentity mp
    x1PcieAssignedBars mp
    if !h.pcie.general then
      call mp (.check .nvmeOpenSession)
      assignBus mp fun c => { c with nvmeSession := true }
    call mp (.check .driverOverride)
    assignBus mp fun c => { c with bindWrites := true }
    call mp (.check .driverAttach)
    raiseCfgError mp
    assignPcie mp fun p => { p with nvmeBound := true }
    mark mp .bound)
  assignPcie mp fun p => { p with hostError := ret, error := ret <|> p.error }
  raise ret

end YogaUsb4.Pcie
