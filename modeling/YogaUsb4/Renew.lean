import YogaUsb4.Quiesce

/-!
The two retirements besides the ordered teardown, of a session that never connected and of one
whose drive was pulled; the renewal that publishes the next session; and the entry points of
the device and power-management cores.
-/

namespace YogaUsb4.Renew

open HostState Typec Driver Cm Pcie PcieRetire Activate Batch Quiesce

variable (mp : Params)

/-! ### The idle retirement -/

/-- `x1_idle_session`: no connect command was sent, so there is no tunnel, bus or receiver. -/
def x1IdleSession (h : X1Host) (l : Link) : Bool :=
  mp.general && h.idleRetireAttempted && h.coldOwned && h.activated && !l.commandAttempted &&
    l.connectedCommand == 0 && !h.tunnel.held && !h.tunnel.stopAttempted &&
    !h.training.attempted && !h.inventory.attempted && !h.pcie.inventoryAttempted &&
    !h.pcie.hostAttempted

/-- The suspend behind the last vote may be deferred: the domain is still a child. -/
def deferred (ret : Option Errno) : Option Errno :=
  ret.filter fun e => e != .ebusy && e != .eagain

/-- The steps of the power stop of an idle session, which releases its resets again. -/
def idlePowerDown : BackProg mp Unit := do
  powerDown mp
  x1StopReleaseResets mp
  raise (deferred (← putRuntime mp))

def x1IdlePowerStopRun : BackProg mp Unit := do
  let s ← Guarded.get
  let h := s.back.host
  require (!h.powerStop.attempted) .ealready
  require (x1IdleSession mp h s.front.link && !h.ready && h.stopping && !h.suspended &&
    h.power.gcc && h.power.clocksOn && h.power.runtimeHeld && h.power.phyOn &&
    h.power.phyInitialized && controlReceipt h) .eperm
  assignPowerStop mp fun s => { s with attempted := true }
  powerStopReceipt mp (idlePowerDown mp)

def x1IdleOwnerStopped : BackProg mp Unit := do
  let s ← Guarded.get
  let h := s.back.host
  require (x1IdleSession mp h s.front.link && h.stopping && !h.ready && !h.suspended &&
    controlReceipt h && powerReceipt h && h.powerStop.resetsReleased == 11 &&
    h.powerStop.releaseRequests == 0) .eperm

def x1IdleCmOwnerStopped : BackProg mp Unit := do
  x1IdleOwnerStopped mp
  let h ← getHost mp
  require (h.tb && !h.retainedTb && controlRetired h) .eperm

def x1IdlePlatformOwnerStopped : BackProg mp Unit := do
  x1IdleOwnerStopped mp
  require (domainReceipt (← getHost mp)) .eperm

/-- No hold was taken on the domain, so there is no extra reference. -/
def x1IdleRetireDomain : BackProg mp Unit := do
  require (!(← getHost mp).domain.attempted) .ealready
  x1IdleCmOwnerStopped mp
  assignDomain mp fun d => { d with attempted := true }
  let ret ← attempt (do
    tbX1IdleRetireCm mp (x1IdleCmOwnerStopped mp)
    unregisterDomain mp (fun h => h.tb) (pure ()))
  if ret.isSome then assignDomain mp fun d => { d with error := ret }
  raise ret

/-- One try of `x1_idle_freeze_cm`. -/
def tryFreeze : BackProg mp Unit := do
  require ((← Guarded.get).front.cmPending == 0) .ebusy
  checkOr mp .ctlIdle .ebusy
  tbX1IdleFreeze mp

/-- `x1_idle_freeze_cm`, with `n` tries left before the deadline has passed for certain. -/
def x1IdleFreezeCm : ℕ → BackProg mp Unit
  | 0 => tryFreeze mp
  | n + 1 => do
    let ret ← attempt (tryFreeze mp)
    if ret != some .ebusy then raise ret
    else if ← expired mp then throw .ebusy
    else
      perform mp (.check .sleep)
      x1IdleFreezeCm n

/-- The tries that may find the deadline of 3 s not passed, 20 ms apart. -/
def freezeTries : ℕ := 3 * 1000 / 20 + 1

/-- A prepared session that waits for its first attachment. -/
def idleReady (h : X1Host) (l : Link) : Bool :=
  h.tb && h.activated && h.coldOwned && h.ready && !h.stopping && !h.suspended &&
    l.error.isNone && h.batch.attempted && h.batch.waiting && !h.batch.terminal &&
    !l.commandAttempted && l.connectedCommand == 0 && l.pendingCommand == 0 &&
    h.batch.switch.isNone && !h.tunnel.held && !h.training.attempted &&
    !h.inventory.attempted && h.pcie.prepared && h.pcie.error.isNone &&
    !h.pcie.inventoryAttempted && !h.pcie.hostAttempted && !h.hostStopAttempted

/-- The vote taken by the store goes last, after the tunnel reset. -/
def dropStoreVote : BackProg mp Unit := do
  qcomUsb4X1ReleaseRetiredReset mp
  perform mp (.pmPutSync .router)

/-- What an idle session still owns after its power stop, in the order of the tunnel path. -/
def retireIdle : BackProg mp Unit := do
  tbCtlRetireX1Stopped mp (x1IdleOwnerStopped mp)
  x1IdleRetireDomain mp
  qcomUsb4X1IdleRetirePlatform mp (x1IdlePlatformOwnerStopped mp)
  dropStoreVote mp
  assignHost mp fun h => { h with idleRetired := true }
  assignHost mp fun h => { h with fullyRetired := true }

/-- Ends the session's wait, under a vote of the store's own. -/
def endWait : BackProg mp Unit := do
  assignHost mp fun h => { h with idleRetireAttempted := true }
  assignHost mp fun h => { h with stopping := true }
  assignHost mp fun h => { h with ready := false }
  perform mp (.pmGetNoresume .router)
  assignBatch mp fun x => { x with waiting := false, terminal := true }

/-- From the frozen domain on every result is terminal. -/
def retireFrozen : DriverProg mp Unit := do
  endWait mp
  assignFront mp fun _ fr => { fr with link.error := some .eshutdown }
  let ret ← (attempt (do
    stopControl mp (pure ()) (pure ())
    x1IdlePowerStopRun mp) : BackProg mp (Option Errno))
  unlockHost mp
  let ret ← (attempt (do raise ret; retireIdle mp) : BackProg mp (Option Errno))
  assignHost mp fun h => { h with idleRetireError := ret }
  raise ret

/-- A refused freeze keeps the session. -/
def idleRetireOnce (w : Write) : DriverProg mp Unit := do
  require (w.capable && mp.general && mp.managed && mp.hostQuiesce && mp.powerQuiesce &&
    mp.controlRetire && mp.cmRetire && w.isWord "retire-idle-v1") .eperm
  checkOr mp .lock .ebusy
  lockHost mp
  let s ← Guarded.get
  if s.back.host.idleRetireAttempted then leave mp .ealready
  else if !idleReady s.back.host s.front.link then leave mp .eperm
  else
    let ret ← (attempt (x1IdleFreezeCm mp freezeTries) : BackProg mp (Option Errno))
    if ret.isSome then
      assignHost mp fun h => { h with idleRetireError := ret }
      unlockHost mp
      raise ret
    else retireFrozen mp

/-! ### The pulled drive -/

/-- `x1_port_pulled`: the port reported a detach after this session's first cable event. -/
def x1PortPulled (h : X1Host) (r : EventRecord) : Bool :=
  r.orientation == .none && decide (h.initialEventSequence < r.disconnectSequence)

/-- The connected session an Eject would stop, whose cable is gone. -/
def pulledReady (h : X1Host) (fr : Front) : Bool :=
  h.tb && h.tunnel.held && h.retainedTb && h.coldOwned && h.ready && !h.stopping &&
    !h.suspended && h.batch.attempted && batchDone h && fr.link.error == some .eshutdown &&
    fr.link.commandAttempted && fr.link.connectedCommand != 0 && !h.tunnel.stopAttempted &&
    !h.hostStopAttempted && !h.powerStop.attempted && h.pcie.nvmeBound &&
    x1PortPulled h fr.record

/-- The stop of a pulled session: the tunnel in software, the control rings, the power. -/
def stopPulled : BackProg mp Unit :=
  locked mp (do
    fenceAndStop mp (do tbX1StopPciePulled mp (← getHost mp).batch.uid)
    stopControl mp (pure ()) (pure ())
    x1PowerStopRun mp
    mark mp (.done · .routerReset))

def retireStopped : BackProg mp Unit := do
  qcomUsb4X1RetireNamespaces mp (x1NamespaceOwnerStopped mp)
  qcomUsb4X1RetirePci mp (x1NamespaceOwnerStopped mp)
  tbCtlRetireX1Stopped mp (x1ControlOwnerStopped mp)
  x1RetireDomain mp
  x1RetireSession mp

/-- The stop and retirement of a pulled session: nothing reaches the vanished device. -/
def retirePulled : BackProg mp Unit := do
  if !(← getHost mp).pcie.endpointRemoved then qcomUsb4X1PulledRemove mp
  stopPulled mp
  retireStopped mp
  assignHost mp fun h => { h with pulledRetired := true }

def pulledRetireOnce (w : Write) : DriverProg mp Unit := do
  require (w.capable && mp.general && mp.managed && mp.tunnelQuiesce && mp.hostQuiesce &&
    mp.powerQuiesce && mp.namespaceRetire && mp.pciRetire && mp.controlRetire &&
    mp.cmRetire && w.isWord "retire-pulled-v1") .eperm
  checkOr mp .lock .ebusy
  lockHost mp
  let s ← Guarded.get
  if s.back.host.pulledRetireAttempted then leave mp .ealready
  else if !pulledReady s.back.host s.front then leave mp .eperm
  else
    assignHost mp fun h => { h with pulledRetireAttempted := true, pulled := true }
    assignFront mp qcomUsb4X1MarkPulled
    unlockHost mp
    let ret ← (attempt (retirePulled mp) : BackProg mp (Option Errno))
    assignHost mp fun h => { h with pulledRetireError := ret }
    raise ret

/-! ### Renewal -/

/-- `kstrtou64` in base 10: an optional sign, digits, an optional line end. -/
def kstrtou64 (buf : String) : Except Errno ℕ :=
  let cs := if buf.toList.head? = some '+' then buf.toList.tail else buf.toList
  let digits := cs.takeWhile Char.isDigit
  let n := digits.foldl (fun n c => 10 * n + (c.toNat - '0'.toNat)) 0
  if u64Max < n then .error .erange
  else if digits = [] then .error .einval
  else if cs.dropWhile Char.isDigit = [] ∨ cs.dropWhile Char.isDigit = ['\n'] then .ok n
  else .error .einval

/-- The session that the last allocation made, published with the event record as it is. -/
def publishSession (s : Sys) : Sys :=
  { s with
    back.host :=
      { generation := s.back.nextGeneration
        initialEventSequence := s.front.record.eventSequence }
    front :=
      { s.front with
        link := {}
        old := s.front.old ++ [(s.back.host, s.front.link)]
        pulled := false
        cfgError := none } }

/-- Publication is one step under the lock that also orders the cable events. -/
def publish : DriverProg mp Unit :=
  ⟨Prog.step .drv publishSession, Prog.within_step fun _ => trivial⟩

def renewSession (w : Write) : DriverProg mp Unit := do
  require (w.capable && mp.managed) .eperm
  match kstrtou64 w.buf with
  | .error e => throw e
  | .ok generation =>
    checkOr mp .lock .ebusy
    let h ← getHost mp
    require (generation == h.generation && h.fullyRetired && h.pcie.retire.platformRetired &&
      h.pcie.retire.platformError.isNone) .eperm
    if h.idleRetired then x1IdlePlatformOwnerStopped mp else x1PlatformOwnerStopped mp
    require ((← Guarded.get).back.nextGeneration != u64Max) .eperm
    checkOr mp .allocate .enomem
    assign mp fun b => { b with nextGeneration := b.nextGeneration + 1 }
    perform mp (.check .portRecord)
    let r := (← Guarded.get).front.record
    require (r.orientation == .none &&
      (h.idleRetired || decide (h.initialEventSequence < r.disconnectSequence))) .ebusy
    publish mp

/-! ### The cores -/

/-- What `x1_shutdown` does to a session it owns. A failure keeps the power. -/
def shutdownOwned : BackProg mp Unit := do
  if (← getHost mp).tb then
    perform mp .domainRemove
    perform mp (.check .domainReleased)
    assignHost mp fun h => { h with tb := false }
  if (← getHost mp).qnhi.prepared then perform mp (.check .nhiShutdown)
  perform mp (.check .mcuStop)
  if !(← getHost mp).pcie.attempted then
    call mp .bulkAssert
    if (← getHost mp).power.phyOn then
      call mp .phyPowerOff
      assignPower mp fun x => { x with phyOn := false }
    if (← getHost mp).power.phyInitialized then
      call mp .phyExit
      assignPower mp fun x => { x with phyInitialized := false }
    x1ReleasePower mp

/-- The providers of the session, as far as `x1_shutdown` gives them back. -/
def shutdownSession : BackProg mp Unit := do
  let h ← getHost mp
  if !h.activated then pure ()
  else if !h.coldOwned then x1ReleasePower mp
  -- A bound endpoint may still master the bus: everything stays up until power-off.
  else if h.pcie.nvmeRequested && h.pcie.hostAttempted then pure ()
  else shutdownOwned mp

def x1Shutdown : BackProg mp Unit := do
  if !(← getHost mp).stopping then
    lockHost mp
    assignHost mp fun h => { h with stopping := true }
    assignHost mp fun h => { h with ready := false }
    unlockHost mp
    let ret ← attempt (shutdownSession mp)
    if ret.isNone then assignPower mp fun x => { x with fw := false }

def x1Suspend : BackProg mp Unit := do
  let h ← getHost mp
  require (!(h.startupAttempted && !(mp.general && h.fullyRetired))) .ebusy
  assignHost mp fun h => { h with suspended := true }

def x1PmComplete : BackProg mp Unit :=
  assignHost mp fun h => { h with suspended := false }

/-- The end of `x1_probe`, which ignores how a startup at boot ended. -/
def x1Probe : DriverProg mp Unit := do
  if mp.startup then
    let _ ← attempt (x1Activate mp)

end YogaUsb4.Renew
