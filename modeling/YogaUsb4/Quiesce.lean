import YogaUsb4.Batch

/-!
The ordered teardown of a connected session: the endpoint, the tunnel, the control rings and
the power of the router, each admitted once and only behind the receipts of the one before,
and after the power stop the retirement of everything the session still owns.
-/

namespace YogaUsb4.Quiesce

open HostState Typec Driver Cm Pcie PcieRetire Activate

variable (mp : Params)

/-- The batch ended with a bound endpoint. -/
def batchDone (h : X1Host) : Bool :=
  h.batch.complete && h.batch.terminal && !h.batch.waiting && h.batch.error.isNone

/-- The link is the one the batch was connected over. -/
def linkKept (l : Link) : Bool :=
  l.error == some .eshutdown && l.orientation != .none && l.orientation == l.batchOrientation &&
    l.connectedCommand != 0 && l.pendingCommand == l.connectedCommand

/-- What the removal of the endpoint and the stop of the tunnel both ask for. -/
def connected (h : X1Host) (l : Link) : Bool :=
  h.tb && h.tunnel.held && h.coldOwned && h.ready && !h.stopping && !h.suspended &&
    h.batch.attempted && batchDone h && linkKept l && l.commandAttempted

/-- Runs the body of an attribute with the session's lock held. -/
def locked (m : BackProg mp Unit) : BackProg mp Unit := do
  lockHost mp
  let ret ← attempt m
  unlockHost mp
  raise ret

/-! ### Endpoint, tunnel and control rings -/

/-- The session's lock is not held across the driver's own shutdown. -/
def endpointRemoveOnce (w : Write) : BackProg mp Unit := do
  require (w.capable && mp.general && mp.managed && mp.tunnelQuiesce &&
    w.isWord "remove-endpoint-v1") .eperm
  checkOr mp .lock .ebusy
  locked mp (do
    let s ← Guarded.get
    require (connected s.back.host s.front.link && !s.back.host.tunnel.stopAttempted) .eperm)
  qcomUsb4X1GeneralRemove mp

/-- Stops the tunnel behind the fence, with `stop`, and keeps the receipt. -/
def fenceAndStop (stop : BackProg mp Unit) : BackProg mp Unit := do
  assignTunnel mp fun x => { x with stopAttempted := true }
  let ret ← attempt (qcomUsb4X1FenceAndQuiesce mp stop)
  assignTunnel mp fun x => { x with stopError := ret, stopComplete := ret.isNone }
  raise ret

def tunnelQuiesceOnce (w : Write) : BackProg mp Unit := do
  require (w.capable && mp.tunnelQuiesce && w.isWord "stop-retain-v1") .eperm
  checkOr mp .lock .ebusy
  locked mp (do
    let s ← Guarded.get
    let h := s.back.host
    require (!h.tunnel.stopAttempted) .ealready
    require (connected h s.front.link) .eperm
    fenceAndStop mp (do tbX1StopPcieRetained mp (← getHost mp).batch.uid))

def tunnelReceipt (h : X1Host) : Bool :=
  h.tunnel.stopComplete && h.tunnel.stopError.isNone && h.tunnel.stop.finished &&
    h.tunnel.stop.error.isNone && h.tunnel.stop.adapters == 2 && h.tunnel.stop.hops == 4

def receiverFenced (h : X1Host) : Bool :=
  h.pcie.configFenced && imsiStopComplete h.pcie.receiver.stop

/-- Stops the control rings between `before` and `after`, and keeps the receipt. -/
def stopControl (before after : BackProg mp Unit) : BackProg mp Unit := do
  assignHost mp fun h => { h with hostStopAttempted := true }
  let ret ← attempt (do
    before
    tbCtlStopX1Retained mp
    after
    require (QcomUsb4NhiStop.stopped (← getHost mp).hostStop) .eio)
  assignHostStop mp fun s => { s with error := ret, finished := ret.isNone }
  raise ret
  assignHost mp fun h => { h with ready := false }
  mark mp (.done · .controlStopped)

def hostQuiesceOnce (w : Write) : BackProg mp Unit := do
  require (w.capable && mp.hostQuiesce && mp.tunnelQuiesce && w.isWord "stop-host-retain-v1")
    .eperm
  checkOr mp .lock .ebusy
  locked mp (do
    let s ← Guarded.get
    let h := s.back.host
    require (!h.hostStopAttempted) .ealready
    require (h.tb && h.tunnel.held && receiverFenced h && h.tunnel.stopAttempted &&
      tunnelReceipt h && h.coldOwned && h.ready && !h.stopping && !h.suspended &&
      batchDone h && linkKept s.front.link) .eperm
    let stopped : BackProg mp Unit := do tbX1PcieStopped mp (← getHost mp).batch.uid
    stopControl mp stopped stopped)

/-! ### The power stop -/

def controlReceipt (h : X1Host) : Bool :=
  h.hostStopAttempted && h.hostStop.finished && h.hostStop.error.isNone &&
    h.hostStop.ctlClosed && h.hostStop.irqDisabled && h.hostStop.callbacksDrained &&
    h.hostStop.ringsDisabled == 2 && h.hostStop.rxOptions == 0 && h.hostStop.txOptions == 0 &&
    h.qnhi.retainedStopAttempted && h.qnhi.retainedIrqDisabled && !h.qnhi.acceptRearm

def assertCounted : List (Fin 11) → BackProg mp Unit
  | [] => pure ()
  | i :: is => do
    call mp (.resetAssert i)
    assignPowerStop mp fun s => { s with resetsAsserted := s.resetsAsserted + 1 }
    assertCounted is

def readStopRequests : BackProg mp Resets := do
  let r ← x1GccUsb4ResetState mp
  assignPowerStop mp fun s => { s with resetRequests := r }
  return r

def resetRouter : BackProg mp Unit := do
  require ((← readStopRequests mp) == 0) .eio
  mark mp (.start · .routerReset)
  checkOr mp .mcuStop .eio
  assignPowerStop mp fun s => { s with mcuRequestCleared := true }
  assertCounted mp (List.finRange 11)
  require ((← readStopRequests mp) == BitVec.allOnes 11) .eio

/-- Releases everything but the runtime vote. -/
def releaseRouter : BackProg mp Unit := do
  -- The RX mux leaves its PHY parent before that parent powers down.
  call mp (.check .rxSelect)
  assignPowerStop mp fun s => { s with rxReference := true }
  call mp .phyPowerOff
  assignPower mp fun x => { x with phyOn := false }
  assignPowerStop mp fun x => { x with phyOff := true }
  call mp .phyExit
  assignPower mp fun x => { x with phyInitialized := false }
  assignPowerStop mp fun x => { x with phyExited := true }
  call mp (.check .tcsrRoute)
  checkOr mp .tcsrRoute .eio
  assignPowerStop mp fun s => { s with routeCleared := true }
  call mp (.check .sysForceMem)
  assignPowerStop mp fun s => { s with memoryForceCleared := true }
  call mp (.iccSetBw .apps 0)
  call mp (.iccSetBw .ddr 0)
  assignPowerStop mp fun s => { s with iccReleased := true }
  perform mp .gccPut
  assignPower mp fun x => { x with gcc := false }
  assignPowerStop mp fun x => { x with gccReleased := true }
  perform mp .clkBulkDisable
  assignPower mp fun x => { x with clocksOn := false }
  assignPowerStop mp fun x => { x with clocksReleased := true }

/-- The part that the power stops of a connected and of an idle session share. -/
def powerDown : BackProg mp Unit := do
  resetRouter mp
  releaseRouter mp

/-- Drops the runtime vote, which goes even when the suspend behind it fails; the result is
that of the suspend. -/
def putRuntime : BackProg mp (Option Errno) := do
  perform mp (.pmPutSync .router)
  assignPower mp fun x => { x with runtimeHeld := false }
  assignPowerStop mp fun x => { x with runtimeReleased := true }
  attempt (call mp (.check .pmEnable))

def powerStopReceipt (m : BackProg mp Unit) : BackProg mp Unit := do
  let ret ← attempt m
  assignPowerStop mp fun s => { s with error := ret, finished := ret.isNone }
  raise ret

def x1PowerStopRun : BackProg mp Unit := do
  let h ← getHost mp
  require (!h.powerStop.attempted) .ealready
  require (h.coldOwned && h.activated && receiverFenced h && !h.ready && !h.stopping &&
    !h.suspended && h.power.gcc && h.power.clocksOn && h.power.runtimeHeld && h.power.phyOn &&
    h.power.phyInitialized && controlReceipt h) .eperm
  assignPowerStop mp fun x => { x with attempted := true }
  assignHost mp fun h => { h with stopping := true }
  powerStopReceipt mp (do
    powerDown mp
    raise (← putRuntime mp))

/-- Counts the resets it deasserts. -/
def deassertCounted : List (Fin 11) → BackProg mp Unit
  | [] => pure ()
  | i :: is => do
    call mp (.resetDeassert i)
    assignPowerStop mp fun s => { s with resetsReleased := s.resetsReleased + 1 }
    deassertCounted is

/-- `x1_stop_release_resets`, under a lease of its own. -/
def x1StopReleaseResets : BackProg mp Unit := do
  let h ← getHost mp
  require (!h.power.gcc && !h.power.clocksOn && h.power.runtimeHeld &&
    h.powerStop.resetsAsserted == 11 && h.powerStop.resetsReleased == 0) .eperm
  x1GccUsb4Get mp
  let ret ← attempt (do
    deassertCounted mp (List.finRange 11)
    let r ← x1GccUsb4ResetState mp
    assignPowerStop mp fun s => { s with releaseRequests := r }
    require (r == 0) .eio)
  perform mp .gccPut
  raise ret
  assign mp fun b => { b with baselineReleased := true }

/-! ### Proofs of the owner -/

/-- `x1_tunnel_stopped`: the hardware receipt, or the software stop of a pulled drive. -/
def x1TunnelStopped (h : X1Host) (marked : Bool) : Bool :=
  h.tunnel.held && h.tunnel.stopComplete && h.tunnel.stopError.isNone &&
    h.tunnel.stop.finished && h.tunnel.stop.error.isNone &&
    if h.pulled then
      mp.general && marked && h.tunnel.stop.adapters == 0 && h.tunnel.stop.hops == 0
    else h.tunnel.stop.adapters == 2 && h.tunnel.stop.hops == 4

def powerReceipt (h : X1Host) : Bool :=
  let s := h.powerStop
  s.attempted && s.finished && s.error.isNone && s.mcuRequestCleared &&
    s.resetsAsserted == 11 && s.resetRequests == BitVec.allOnes 11 && s.rxReference &&
    s.phyOff && s.phyExited && s.routeCleared && s.memoryForceCleared && s.iccReleased &&
    s.gccReleased && s.clocksReleased && s.runtimeReleased && !h.power.gcc &&
    !h.power.clocksOn && !h.power.phyOn && !h.power.phyInitialized && !h.power.runtimeHeld

def x1NamespaceOwnerStopped : BackProg mp Unit := do
  let s ← Guarded.get
  let h := s.back.host
  require (h.stopping && !h.ready && !h.suspended && h.coldOwned && h.activated &&
    receiverFenced h && x1TunnelStopped mp h s.front.pulled && controlReceipt h &&
    powerReceipt h) .eperm

def x1ControlOwnerStopped : BackProg mp Unit := do
  x1NamespaceOwnerStopped mp
  let h ← getHost mp
  let p := h.pcie
  require (h.tb && h.retainedTb && p.retire.namespaceRetired && p.retire.nvmeResourcesRetired &&
    p.retire.pciAttempted && p.retire.pciError.isNone && p.retire.pciRetired &&
    !p.hostPrepared && !p.hostPublished && !p.nvmeBound && p.receiver.releaseAttempted &&
    p.receiver.released && p.receiver.releaseError.isNone && !p.receiver.ready &&
    !p.receiver.associated && !p.receiver.domainReady && !p.receiver.targetReserved) .eperm

def controlRetired (h : X1Host) : Bool :=
  let c := h.controlRetire
  c.attempted && c.finished && c.error.isNone && c.irqReleased && c.ringsDetached &&
    c.ringsFreed == 2 && c.packetsFreed == 10 && c.poolReleased && h.qnhi.released &&
    !h.qnhi.irqRequested && h.qnhi.goingAway && h.ctl.x1Retired

def x1CmOwnerStopped : BackProg mp Unit := do
  x1ControlOwnerStopped mp
  require (controlRetired (← getHost mp)) .eperm

def domainReceipt (h : X1Host) : Bool :=
  h.domain.retired && h.domain.error.isNone && h.domain.unregistered && h.domain.unpublished &&
    !h.tb && !h.retainedTb && h.cmRetire.finished && h.cmRetire.error.isNone &&
    h.controlRetire.finished && h.controlRetire.error.isNone && h.qnhi.released &&
    !h.qnhi.irqRequested && !h.qnhi.acceptRearm && h.qnhi.goingAway

def x1PlatformOwnerStopped : BackProg mp Unit := do
  x1NamespaceOwnerStopped mp
  require (domainReceipt (← getHost mp)) .eperm

/-! ### Retirement -/

/-- The domain after its connection manager retired; `put` drops further references. -/
def unregisterDomain (expected : X1Host → Bool) (put : BackProg mp Unit) : BackProg mp Unit := do
  locked mp (do
    require (expected (← getHost mp)) .estale
    assignHost mp fun h => { h with retainedTb := false, tb := false }
    assignDomain mp fun x => { x with unpublished := true })
  perform mp .domainRemove
  assignDomain mp fun d => { d with unregistered := true }
  put
  checkOr mp .domainReleased .etimedout
  assignDomain mp fun d => { d with retired := true }
  mark mp (.done · .domainUnregistered)

def x1RetireDomain : BackProg mp Unit := do
  require (!(← getHost mp).domain.attempted) .ealready
  x1CmOwnerStopped mp
  assignDomain mp fun d => { d with attempted := true }
  let ret ← attempt (do
    tbX1RetireCm mp (← getHost mp).batch.uid (x1CmOwnerStopped mp)
    -- The extra reference was taken with the hold of the tunnel.
    unregisterDomain mp (fun h => h.tb && h.retainedTb) (perform mp .domainPut))
  if ret.isSome then assignDomain mp fun d => { d with error := ret }
  raise ret

/-- `x1_retired_release`: the caller's vote keeps the domain on until nothing is held. -/
def x1RetiredRelease : BackProg mp Unit := do
  assignPower mp fun x => { x with runtimeHeld := true }
  x1StopReleaseResets mp
  qcomUsb4X1ReleaseRetiredReset mp
  perform mp (.pmPutSync .router)
  assignPower mp fun x => { x with runtimeHeld := false }

def x1RetireSession : BackProg mp Unit := do
  x1PlatformOwnerStopped mp
  if mp.general then perform mp (.pmGetNoresume .router)
  qcomUsb4X1RetirePlatform mp (x1PlatformOwnerStopped mp)
  if mp.general then x1RetiredRelease mp
  assignHost mp fun h => { h with fullyRetired := true }

/-- Everything after a successful power stop, as far as the parameters arm it. -/
def retireAll : BackProg mp Unit := do
  if mp.namespaceRetire then
    qcomUsb4X1RetireNamespaces mp (x1NamespaceOwnerStopped mp)
    if mp.pciRetire then
      qcomUsb4X1RetirePci mp (x1NamespaceOwnerStopped mp)
      if mp.controlRetire then
        tbCtlRetireX1Stopped mp (x1ControlOwnerStopped mp)
        if mp.cmRetire then
          x1RetireDomain mp
          if mp.managed then x1RetireSession mp

def powerQuiesceOnce (w : Write) : BackProg mp Unit := do
  require (w.capable && mp.powerQuiesce && mp.hostQuiesce && mp.tunnelQuiesce &&
    w.isWord "stop-power-retain-v1") .eperm
  checkOr mp .lock .ebusy
  locked mp (do
    let s ← Guarded.get
    let h := s.back.host
    require (!h.powerStop.attempted) .ealready
    require (h.tb && h.tunnel.held && tunnelReceipt h && batchDone h && linkKept s.front.link)
      .eperm
    let ret ← attempt (do
      tbX1PcieStopped mp h.batch.uid
      x1PowerStopRun mp
      tbX1PcieStopped mp h.batch.uid)
    if ret.isSome && (← getHost mp).powerStop.attempted then
      assignPowerStop mp fun s => { s with error := ret, finished := false }
    raise ret
    mark mp (.done · .routerReset))
  retireAll mp

end YogaUsb4.Quiesce
