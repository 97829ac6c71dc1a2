import YogaUsb4.Driver

/-!
The private X1 part of the connection manager and of the control channel: approval, hold and
stop of the one PCIe tunnel, the freeze of an empty domain, the checked stop of the control
rings, and the retirement of both after the router is off.
-/

namespace YogaUsb4.Cm

open HostState Typec Driver

variable (mp : Params)

def assignTunnelStop (f : TbX1TunnelStop → TbX1TunnelStop) : BackProg mp Unit :=
  assignTunnel mp fun x => { x with stop := f x.stop }

def checkOr (c : Check) (e : Errno) : BackProg mp Unit :=
  tryCatchThe Errno (call mp (.check c)) fun _ => throw e

/-! ### The tunnel -/

def tbX1PcieOwner : BackProg mp Unit := do
  let h ← getHost mp
  require (!h.qnhi.goingAway) .eperm
  call mp (.check .cmOwner)

def tbX1ApprovePcie (uid : ℕ) : BackProg mp Unit := do
  require (uid != 0) .einval
  tbX1PcieOwner mp
  call mp (.check .cmTopology)
  let h ← getHost mp
  require (!h.cm.pcieAttempted) .ealready
  call mp (.check .cmTree)
  assignCm mp fun c => { c with pcieAttempted := true }
  call mp (.check .cmPortState)
  call mp (.check .cmPortState)
  call mp (.check .cmApproveSwitch)
  call mp (.check .cmTree)
  call mp (.check .cmPortState)
  call mp (.check .cmPortState)
  call mp (.check .cmTopology)
  assignCm mp fun c => { c with pcieUid := uid, tunnelActive := true }

def tbX1PcieApproved (uid : ℕ) : BackProg mp Unit := do
  let h ← getHost mp
  require (h.cm.pcieAttempted && h.cm.pcieUid == uid && h.cm.tunnelActive) .eperm
  call mp (.check .cmTopology)

def tbX1ValidatePcie (uid : ℕ) : BackProg mp Unit := do
  require (uid != 0) .einval
  tbX1PcieOwner mp
  tbX1PcieApproved mp uid
  call mp (.check .cmPortState)
  call mp (.check .cmPortState)
  tbX1PcieApproved mp uid

/-- The held tunnel is unchanged: no event has been seen since the hold, none is pending, and
the pinned tree is the one approved. -/
def tbX1RetainedCheck (uid : ℕ) : BackProg mp Unit := do
  let s ← Guarded.get
  let c := s.back.host.cm
  require (c.retained && c.holdAttempted && c.holdReady && c.heldTunnel &&
    s.front.cmGeneration == c.retainedGeneration && s.front.cmPending == 0) .estale
  tbX1PcieOwner mp
  require (uid != 0 && c.pcieUid == uid) .enodev
  call mp (.check .cmTopology)
  call mp (.check .cmTree)
  let s ← Guarded.get
  require (s.front.cmGeneration == c.retainedGeneration) .estale

def tbX1HoldPcie (uid : ℕ) : BackProg mp Unit := do
  require (uid != 0) .einval
  tbX1PcieOwner mp
  let h ← getHost mp
  require (!(h.cm.holdAttempted || h.cm.retained)) .ealready
  tbX1PcieApproved mp uid
  call mp (.check .cmTree)
  let s ← Guarded.get
  require (s.front.cmPending == 0) .ebusy
  assignCm mp fun c =>
    { c with holdAttempted := true, heldTunnel := true
             retainedGeneration := s.front.cmGeneration
             retained := true, hotplugActive := false, holdReady := true }
  tryCatchThe Errno
    (do
      tbX1RetainedCheck mp uid
      call mp (.check .cmPortState)
      tbX1RetainedCheck mp uid
      call mp (.check .cmPortState)
      tbX1RetainedCheck mp uid)
    fun e => do
      assignCm mp fun c => { c with holdReady := false }
      throw e

def TbX1TunnelStop.pristine (t : TbX1TunnelStop) : Bool :=
  !t.attempted && !t.finished && t.error.isNone

def tbX1StopPcieRetained (uid : ℕ) : BackProg mp Unit := do
  require (uid != 0) .einval
  tbX1PcieOwner mp
  let h ← getHost mp
  require (!h.cm.stopAttempted) .ealready
  require (TbX1TunnelStop.pristine h.tunnel.stop) .einval
  assignCm mp fun c => { c with stopAttempted := true }
  tryCatchThe Errno
    (do
      tbX1RetainedCheck mp uid
      let h ← getHost mp
      require h.cm.tunnelActive .eio
      mark mp (.start · .tunnelInactive)
      -- The deactivation repeats the check between its steps.
      tbX1RetainedCheck mp uid
      call mp (.check .tunnelDeactivate)
      assignTunnelStop mp fun t =>
        { t with attempted := true, finished := true, adapters := 2, hops := 4 }
      assignCm mp fun c => { c with tunnelActive := false }
      tbX1RetainedCheck mp uid
      assignCm mp fun c => { c with stopComplete := true }
      mark mp (.done · .tunnelInactive))
    fun e => do
      assignTunnelStop mp fun t =>
        { t with attempted := true, finished := false, error := t.error <|> some e }
      throw e

/-- The software stop of a pulled device's tunnel: the pinned tree is checked, not the live
generation, which the pull changed. -/
def tbX1StopPciePulled (uid : ℕ) : BackProg mp Unit := do
  require (uid != 0) .einval
  tbX1PcieOwner mp
  let h ← getHost mp
  require (!h.cm.stopAttempted) .ealready
  require (TbX1TunnelStop.pristine h.tunnel.stop) .einval
  assignCm mp fun c => { c with stopAttempted := true }
  assignTunnelStop mp fun t => { t with attempted := true }
  tryCatchThe Errno
    (do
      let c := (← getHost mp).cm
      require (c.retained && c.holdAttempted && c.holdReady && c.heldTunnel && c.pcieUid == uid)
        .enodev
      call mp (.check .cmTopology)
      call mp (.check .cmTree)
      require c.tunnelActive .eio
      mark mp (.start · .tunnelInactive)
      assignCm mp fun c => { c with tunnelActive := false, stopComplete := true }
      assignTunnelStop mp fun t => { t with finished := true }
      mark mp (.done · .tunnelInactive))
    fun e => do
      assignTunnelStop mp fun t => { t with error := some e }
      throw e

def tbX1PcieStopped (uid : ℕ) : BackProg mp Unit := do
  require (uid != 0) .einval
  tbX1RetainedCheck mp uid
  let c := (← getHost mp).cm
  require (c.stopAttempted && c.stopComplete && !c.tunnelActive) .ebusy

/-! ### The empty domain -/

def tbX1IdleFreeze : BackProg mp Unit := do
  tbX1PcieOwner mp
  let c := (← getHost mp).cm
  require (!(c.retained || c.idleFrozen || c.holdAttempted || c.pcieAttempted ||
    c.retireAttempted)) .ealready
  checkOr mp .cmRootEmpty .ebusy
  let s ← Guarded.get
  require (s.front.cmPending == 0) .ebusy
  assignCm mp fun c => { c with idleFrozen := true, retained := true, hotplugActive := false }

def tbX1IdleCmCheck : BackProg mp Unit := do
  let h ← getHost mp
  require (h.qnhi.goingAway && h.ctl.x1Retired && h.cm.retained && h.cm.idleFrozen &&
    !h.cm.hotplugActive && !h.cm.holdAttempted && !h.cm.pcieAttempted && !h.cm.retired) .eperm
  checkOr mp .cmRootEmpty .ebusy
  call mp (.check .cmTree)

def tbX1CmRetireCheck (uid : ℕ) : BackProg mp Unit := do
  let h ← getHost mp
  require (h.qnhi.goingAway && h.ctl.x1Retired && h.cm.retained && !h.cm.hotplugActive &&
    h.cm.holdAttempted && h.cm.holdReady && h.cm.stopAttempted && h.cm.stopComplete &&
    !h.cm.retired && h.cm.heldTunnel) .eperm
  require (uid != 0 && h.cm.pcieUid == uid) .enodev
  call mp (.check .cmTopology)
  require (!h.cm.tunnelActive) .eio
  call mp (.check .cmTree)

def TbX1CmRetire.pristine (s : TbX1CmRetire) : Bool :=
  !s.workersDrained && !s.tunnelReleased && !s.routersRemoved && !s.finished && s.error.isNone

/-- What `tb_x1_retire_cm` and `tb_x1_idle_retire_cm` share: admission under the owner's
proof and the tree check, the drain of the workers, the same checks again, and the removal
of the powered-off routers after `release`. -/
def tbX1RetireTree (treeCheck release : BackProg mp Unit) (checkStopped : BackProg mp Unit) :
    BackProg mp Unit := do
  let h ← getHost mp
  require (!(h.cm.retireAttempted || h.cmRetire.attempted)) .ealready
  require (TbX1CmRetire.pristine h.cmRetire) .einval
  checkStopped
  treeCheck
  assignCm mp fun c => { c with retireAttempted := true }
  assignCmRetire mp fun s => { s with attempted := true }
  perform mp (.check .lock)
  assignCmRetire mp fun s => { s with workersDrained := true }
  tryCatchThe Errno
    (do
      checkStopped
      treeCheck
      let s ← Guarded.get
      require (s.front.cmPending == 0) .ebusy
      mark mp (.start · .domainUnregistered)
      release
      assignCmRetire mp fun s => { s with tunnelReleased := true }
      call mp (.check .removeRouters)
      assignCm mp fun c => { c with retired := true }
      assignCmRetire mp fun s => { s with routersRemoved := true, finished := true })
    fun e => do
      assignCmRetire mp fun s => { s with error := some e }
      throw e

def tbX1RetireCm (uid : ℕ) (checkStopped : BackProg mp Unit) : BackProg mp Unit :=
  tbX1RetireTree mp (tbX1CmRetireCheck mp uid)
    (do
      call mp (.check .tunnelRetire)
      assignCm mp fun c => { c with heldTunnel := false })
    checkStopped

/-- Nothing was ever tunneled in an idle domain. -/
def tbX1IdleRetireCm (checkStopped : BackProg mp Unit) : BackProg mp Unit :=
  tbX1RetireTree mp (tbX1IdleCmCheck mp) (pure ()) checkStopped

/-! ### The control channel -/

def tbCtlStopX1Retained : BackProg mp Unit := do
  let h ← getHost mp
  require (h.ctl.rings && !h.hostStop.attempted && h.hostStop.error.isNone &&
    !h.hostStop.finished) .einval
  require (!h.ctl.x1StopAttempted) .ealready
  let queued ← attempt (call mp (.check .ctlRequests))
  mark mp (.start · .controlStopped)
  assignCtl mp fun x => { x with x1StopAttempted := true, running := false }
  assignHostStop mp fun x => { x with attempted := true, ctlClosed := true }
  tryCatchThe Errno
    (do
      require (h.ctl.running && queued.isNone) .ebusy
      checkOr mp .ringFlush .etimedout
      call mp (.check .nhiStop)
      assignHostStop mp fun x =>
        { x with irqDisabled := true, callbacksDrained := true, ringsDisabled := 2 }
      assignQnhi mp fun x =>
        { x with retainedStopAttempted := true, retainedIrqDisabled := true
                 acceptRearm := false })
    fun e => do
      assignHostStop mp fun s => { s with error := some e }
      throw e

def QcomUsb4NhiStop.stopped (s : QcomUsb4NhiStop) : Bool :=
  s.attempted && s.ctlClosed && s.irqDisabled && s.callbacksDrained && s.ringsDisabled == 2 &&
    s.rxOptions == 0 && s.txOptions == 0

def QcomUsb4NhiRetire.pristine (s : QcomUsb4NhiRetire) : Bool :=
  s.error.isNone && !s.finished && !s.irqReleased && !s.ringsDetached && s.ringsFreed == 0 &&
    s.packetsFreed == 0 && !s.poolReleased

/-- The detach of the NHI asks the owner first. -/
def tbCtlRetireX1Stopped (checkStopped : BackProg mp Unit) : BackProg mp Unit := do
  let h ← getHost mp
  require (!(h.ctl.x1RetireAttempted || h.controlRetire.attempted)) .ealready
  require (h.ctl.x1StopAttempted && !h.ctl.running && h.ctl.rings && h.ctl.framePool &&
    QcomUsb4NhiRetire.pristine h.controlRetire) .eperm
  checkOr mp .ctlRequests .eperm
  assignCtl mp fun x => { x with x1RetireAttempted := true }
  assignControlRetire mp fun x => { x with attempted := true }
  tryCatchThe Errno
    (do
      checkStopped
      mark mp (.start · .controlFreed)
      call mp (.check .nhiDetach))
    fun e => do
      assignControlRetire mp fun s => { s with error := some e }
      throw e
  assignControlRetire mp fun x => { x with irqReleased := true, ringsDetached := true }
  assignQnhi mp fun x => { x with released := true, irqRequested := false, goingAway := true }
  assignCtl mp fun x => { x with rings := false }
  assignControlRetire mp fun x => { x with ringsFreed := 2 }
  assignControlRetire mp fun s => { s with packetsFreed := 10 }
  assignCtl mp fun x => { x with framePool := false }
  assignControlRetire mp fun x => { x with poolReleased := true }
  assignCtl mp fun x => { x with x1Retired := true }
  assignControlRetire mp fun s => { s with finished := true }
  mark mp (.done · .controlFreed)

end YogaUsb4.Cm
