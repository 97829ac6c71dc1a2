import YogaUsb4.Pcie

/-!
PCIe0 of the driver, from a bound endpoint to nothing: the removal of the endpoint, the fence
of configuration access with the stop of the receiver behind it, and the retirement of the
bus, the receiver and the platform context.
-/

namespace YogaUsb4.PcieRetire

open HostState Typec Driver Cm Pcie

variable (mp : Params)

def assignRetire (f : X1PcieRetire → X1PcieRetire) : BackProg mp Unit :=
  assignPcie mp fun p => { p with retire := f p.retire }

/-- The context serves the session `h`, whose endpoint was bound, and nothing failed since. -/
def boundContext (c : X1PcieContext) (h : X1Host) (cfgError : Option Errno) : Bool :=
  c.state == h.generation && h.pcie.nvmeRequested && h.pcie.hostPrepared &&
    h.pcie.hostPublished && h.pcie.nvmeBound && h.pcie.nvmeBindAttempted &&
    h.pcie.error.isNone && h.pcie.hostError.isNone && cfgError.isNone && !c.batchActive &&
    c.endpoint && c.rootPort && c.receiverRetained && h.pcie.receiver.ready

def imsiStopComplete (s : X1ImsiStop) : Bool :=
  s.finished && s.error.isNone && s.banksDisabled == 8 && s.parentsDetached == 8

def configClosed (c : X1PcieContext) : Bool := !c.configOpen && !c.scanWrites && !c.bindWrites

/-! ### The endpoint -/

/-- The normal removal of the endpoint, as PCI core runs it, and what must be gone after. -/
def removeEndpoint : BackProg mp Unit := do
  perform mp (.check .removeEndpoint)
  checkOr mp .endpointGone .eio

def endpointReceipt (ret : Option Errno) : BackProg mp Unit := do
  assignPcie mp fun p =>
    { p with endpointRemoveError := ret, endpointRemoved := ret.isNone
             error := ret <|> p.error }
  if ret.isNone then mark mp (.done · .endpointRemoved)
  raise ret

/-- With the tunnel still up: after its removal the endpoint must have dropped bus mastering
and MSI-X, which is read from its window. -/
def qcomUsb4X1GeneralRemove : BackProg mp Unit := do
  let s ← Guarded.get
  let h := s.back.host
  withCtx mp fun c =>
    require (boundContext c h s.front.cfgError && h.pcie.general && !h.pcie.configFenced) .eperm
  require (!h.pcie.endpointRemoveAttempted) .ealready
  assignPcie mp fun p => { p with endpointRemoveAttempted := true }
  mark mp (.start · .endpointRemoved)
  let ret ← attempt (do
    removeEndpoint mp
    assign mp fun b => { b with configLocked := true }
    let ret ← attempt (do
      x1PcieHostLocal mp
      perform mp .configRead
      -- The MSI-X flags are read only where the inventory found the capability.
      tryCatchThe Errno (call mp .configRead) fun _ => throw .eio)
    assign mp fun b => { b with configLocked := false }
    raise ret)
  endpointReceipt mp ret

/-- After the cable left: nothing is read from the endpoint. -/
def qcomUsb4X1PulledRemove : BackProg mp Unit := do
  let s ← Guarded.get
  let h := s.back.host
  withCtx mp fun c =>
    require (boundContext c h s.front.cfgError && h.pcie.general && s.front.pulled &&
      !h.pcie.configFenced) .eperm
  require (!h.pcie.endpointRemoveAttempted) .ealready
  assignPcie mp fun p => { p with endpointRemoveAttempted := true }
  mark mp (.start · .endpointRemoved)
  let ret ← attempt (removeEndpoint mp)
  endpointReceipt mp ret

/-! ### The fence -/

/-- Masks and disables the receiver's banks one by one, up to the first that fails. -/
def x1ImsiBanks : ℕ → BackProg mp (Option Errno)
  | 0 => pure none
  | n + 1 => do
    match ← attempt (call mp (.check .imsiBank)) with
    | some e => pure (some e)
    | none =>
      assignImsi mp fun r => { r with stop.banksDisabled := r.stop.banksDisabled + 1 }
      x1ImsiBanks n

/-- Detaches every parent interrupt, also after a failure. -/
def x1ImsiParents : ℕ → Option Errno → BackProg mp (Option Errno)
  | 0, ret => pure ret
  | n + 1, ret => do
    match ← attempt (call mp (.check .imsiParent)) with
    | some _ => x1ImsiParents n (some .eio)
    | none =>
      assignImsi mp fun r => { r with stop.parentsDetached := r.stop.parentsDetached + 1 }
      x1ImsiParents n ret

def x1ImsiStopRetained : BackProg mp Unit := do
  let s ← Guarded.get
  match s.back.x1ImsiActive with
  | none => throw .einval
  | some r =>
    require (!r.stop.attempted) .ealready
    require (r.ready && r.error.isNone && r.retained && r.associated && r.domainReady &&
      r.targetReserved) .eperm
    checkOr mp .imsiParent .eperm
    checkOr mp .imsiVectors .eperm
    mark mp (.start · .receiverStopped)
    assignImsi mp fun r => { r with stop.attempted := true }
    let ret ← x1ImsiBanks mp 8
    let ret ← x1ImsiParents mp 8 ret
    assignImsi mp fun r => { r with stop.error := ret, stop.finished := ret.isNone }
    if ret.isNone then mark mp (.done · .receiverStopped)
    raise ret

/-- Closes configuration access for good, then stops the receiver, then runs `action`. -/
def x1PcieFenceAction (action : BackProg mp Unit) : BackProg mp Unit := do
  assign mp fun b => { b with configLocked := true }
  let s ← Guarded.get
  let p := s.back.host.pcie
  let ret ← withCtx mp fun c =>
    if p.configFenced then pure (some .ealready)
    else do
      let ret := s.front.cfgError <|> p.hostError <|> p.error <|>
        (if c.configOpen then none else some .eperm)
      mark mp (.start · .configFenced)
      assignBus mp fun c => { c with configOpen := false, scanWrites := false, bindWrites := false }
      assignPcie mp fun p => { p with configFenced := true }
      if ret.isNone then mark mp (.done · .configFenced)
      pure ret
  assign mp fun b => { b with configLocked := false }
  raise ret
  let ret ← attempt (x1ImsiStopRetained mp)
  x1ImsiCached mp
  raise ret
  action

def qcomUsb4X1FenceAndQuiesce (action : BackProg mp Unit) : BackProg mp Unit := do
  let s ← Guarded.get
  let h := s.back.host
  withCtx mp fun c =>
    require (boundContext c h s.front.cfgError && h.pcie.general == h.pcie.endpointRemoved)
      .eperm
  if !h.pcie.general then call mp (.check .nvmeRetireIrqs)
  x1PcieFenceAction mp action

/-! ### Namespaces, bus and receiver -/

def qcomUsb4X1RetireNamespaces (checkStopped : BackProg mp Unit) : BackProg mp Unit := do
  let s ← Guarded.get
  let h := s.back.host
  withCtx mp fun c =>
    require (boundContext c h s.front.cfgError && imsiStopComplete h.pcie.receiver.stop &&
      h.pcie.configFenced && configClosed c) .eperm
  require (!h.pcie.retire.namespaceAttempted) .ealready
  assignRetire mp fun r => { r with namespaceAttempted := true }
  let ret ← attempt (
    if h.pcie.general then do
      require h.pcie.endpointRemoved .eperm
      checkStopped
    else do
      checkStopped
      call mp (.check .nvmeRetireNamespaces))
  assignRetire mp fun r => { r with namespaceError := ret, namespaceRetired := ret.isNone }
  raise ret

def x1PcieReceiverReleaseProof (checkStopped : BackProg mp Unit) : BackProg mp Unit := do
  let p := (← getHost mp).pcie
  withCtx mp fun c =>
    require (c.receiverRetained && p.configFenced && configClosed c && p.retire.pciAttempted &&
      p.retire.nvmeResourcesRetired && p.retire.pciRetired && p.retire.pciError.isNone &&
      !c.endpoint && !c.rootPort && c.bridge && !c.bridgeBus && !p.nvmeBound &&
      !p.hostPublished && !p.hostPrepared) .eperm
  checkStopped

/-- Frees the receiver's interrupt domain, then its message target. -/
def x1ImsiReleaseStopped (checkStopped : BackProg mp Unit) : BackProg mp Unit := do
  let s ← Guarded.get
  match s.back.x1ImsiActive with
  | none => throw .einval
  | some r =>
    require (!r.releaseAttempted) .ealready
    require (r.ready && r.error.isNone && r.retained && r.associated && r.domainReady &&
      r.targetReserved && r.stop.attempted && imsiStopComplete r.stop) .eperm
    checkOr mp .imsiVectors .eperm
    checkOr mp .imsiParent .eperm
    checkStopped
    mark mp (.start · .receiverReleased)
    assignImsi mp fun r =>
      { r with releaseAttempted := true, associated := false, domainReady := false
               ready := false }
    let ret ← attempt (call mp (.check .imsiGroup))
    match ret with
    | some e =>
      assignImsi mp fun r => { r with releaseError := some e }
      throw e
    | none =>
      assignImsi mp fun r => { r with targetReserved := false, released := true }
      mark mp (.done · .receiverReleased)

def qcomUsb4X1RetirePci (checkStopped : BackProg mp Unit) : BackProg mp Unit := do
  let s ← Guarded.get
  let h := s.back.host
  let p := h.pcie
  withCtx mp fun c =>
    require (c.state == h.generation && c.bridge && c.endpoint && c.rootPort &&
      c.receiverRetained && !c.batchActive && p.nvmeBound && p.hostPrepared &&
      p.hostPublished && p.error.isNone && p.hostError.isNone && s.front.cfgError.isNone &&
      p.retire.namespaceAttempted && p.retire.namespaceRetired &&
      p.retire.namespaceError.isNone && p.configFenced && configClosed c &&
      imsiStopComplete p.receiver.stop) .eperm
  require (!p.retire.pciAttempted) .ealready
  withCtx mp fun c => require (c.bridgeBus && (!p.general || p.endpointRemoved)) .eperm
  checkOr mp .busShape .eperm
  checkStopped
  assignRetire mp fun r => { r with pciAttempted := true }
  let ret ← attempt (do
    if !p.general then
      checkStopped
      call mp (.check .nvmeRetireResources)
    assignRetire mp fun r => { r with nvmeResourcesRetired := true }
    mark mp (.start · .rootBusRemoved)
    checkOr mp .stopRootBus .eio
    checkOr mp .removeRootBus .eio
    assignBus mp fun c => { c with bridgeBus := false }
    if !p.general then call mp (.check .nvmeCloseSession)
    assignBus mp fun c => { c with nvmeSession := false, endpoint := false, rootPort := false }
    assignPcie mp fun p =>
      { p with nvmeBound := false, hostPublished := false, hostPrepared := false }
    assignRetire mp fun r => { r with pciRetired := true }
    mark mp (.done · .rootBusRemoved)
    let ret ← attempt (x1ImsiReleaseStopped mp (x1PcieReceiverReleaseProof mp checkStopped))
    x1ImsiCached mp
    raise ret)
  assignRetire mp fun r => { r with pciError := ret }
  raise ret

/-! ### The platform context -/

def x1ImsiRetireContext (checkStopped : BackProg mp Unit) : BackProg mp Unit := do
  let s ← Guarded.get
  match s.back.x1ImsiActive with
  | none => throw .eperm
  | some r =>
    require (r.released && r.releaseError.isNone && r.stop.finished && r.stop.error.isNone &&
      !r.ready && !r.associated && !r.domainReady && !r.targetReserved) .eperm
    checkOr mp .imsiParent .eperm
    checkStopped
    assign mp fun b => { b with x1ImsiActive := none }

def disableClock : BackProg mp Unit := do
  perform mp .pci0ClkDisable
  assignHold mp fun c => { c with clocksEnabled := c.clocksEnabled - 1 }
  assignRetire mp fun r => { r with platformClocksReleased := r.platformClocksReleased + 1 }

/-- The tunnel reset is asserted; then the bandwidth votes and the clocks go. -/
def stopPlatform : BackProg mp Unit := do
  call mp .bcrAssert
  assignRetire mp fun r => { r with platformReset := true }
  assign mp fun b => { b with pcieResetHeld := true }
  call mp (.iccSetBw .cfg 0)
  call mp (.iccSetBw .mem 0)
  assignRetire mp fun r => { r with platformIccReleased := true }
  times mp (disableClock mp) 8

def suspendPlatform : BackProg mp Unit := do
  perform mp (.pmAllow .pci0)
  -- The vote goes even when the suspend behind it fails.
  perform mp (.pmPutSync .pci0)
  assignHold mp fun c => { c with runtimeHeld := false }
  call mp (.check .pmEnable)
  assignBus mp fun c => { c with runtimeEnabled := false }

/-- The providers of the context, in the order both retirements give them back. -/
def releasePlatform : BackProg mp Unit := do
  stopPlatform mp
  suspendPlatform mp

def freeContext : BackProg mp Unit := do
  assign mp fun b => { b with x1Pcie := none }
  perform mp (.check .driverUnregister)
  assignRetire mp fun r => { r with platformRetired := true }

def qcomUsb4X1RetirePlatform (checkStopped : BackProg mp Unit) : BackProg mp Unit := do
  let h ← getHost mp
  let p := h.pcie
  withCtx mp fun c =>
    require (c.state == h.generation && p.retire.pciRetired && p.retire.pciError.isNone &&
      p.receiver.released && p.receiver.releaseError.isNone && p.configFenced &&
      configClosed c && !c.batchActive && !c.window && !c.endpoint && !c.rootPort &&
      !c.nvmeSession && c.bridge && !c.bridgeBus && c.driverRegistered && c.receiverRetained &&
      c.runtimeEnabled && c.runtimeHeld && c.clocksEnabled == 8) .eperm
  checkOr mp .driverBound .eperm
  require (!p.retire.platformAttempted) .ealready
  checkStopped
  assignRetire mp fun r => { r with platformAttempted := true }
  let ret ← attempt (do
    mark mp (.start · .contextFreed)
    releasePlatform mp
    perform mp (.pmAllow .router)
    assignRetire mp fun r => { r with platformRuntimeReleased := true }
    x1ImsiRetireContext mp checkStopped
    freeContext mp
    perform mp .modulePut
    mark mp (.done · .contextFreed))
  if ret.isSome then assignRetire mp fun r => { r with platformError := ret }
  raise ret

/-- The same release for a preparation that never connected: there is no receiver, and so no
vote on the router and no module reference of its own. -/
def qcomUsb4X1IdleRetirePlatform (checkStopped : BackProg mp Unit) : BackProg mp Unit := do
  let h ← getHost mp
  let p := h.pcie
  withCtx mp fun c =>
    require (c.state == h.generation && p.general && p.prepared && p.error.isNone &&
      !p.inventoryAttempted && !p.hostAttempted && !p.bridgeAllocated &&
      !p.nvmeBindAttempted && !c.bridge && !c.receiver && !c.receiverRetained &&
      configClosed c && !c.batchActive && !c.window && !c.endpoint && !c.rootPort &&
      !c.nvmeSession && c.driverRegistered && c.runtimeEnabled && c.runtimeHeld &&
      c.clocksEnabled == 8) .eperm
  checkOr mp .driverBound .eperm
  require (!p.retire.platformAttempted) .ealready
  checkStopped
  assignRetire mp fun r => { r with platformAttempted := true }
  let ret ← attempt (do
    mark mp (.start · .contextFreed)
    releasePlatform mp
    assignRetire mp fun r => { r with platformRuntimeReleased := true }
    freeContext mp
    mark mp (.done · .contextFreed))
  if ret.isSome then assignRetire mp fun r => { r with platformError := ret }
  raise ret

end YogaUsb4.PcieRetire
