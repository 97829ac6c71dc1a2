import Mathlib.Data.Int.Notation
import Mathlib.Data.Nat.Notation
import Mathlib.Tactic.Common

/-!
The data of the X1 router driver: the session of an attachment (`x1_host`) with its
receipts, the physical port that owns it (`x1_port`), the PCIe context, and the hardware
and provider state the driver acts on.

What Type-C, connection-manager and PCI configuration callbacks may write at any time is
kept apart (`Front`) from what only the driver's own operations write (`Back`).
-/

namespace YogaUsb4.HostState

/-- The error codes the driver returns itself, and those of its providers. -/
inductive Errno
  | eperm | enoent | eio | eagain | enomem | ebusy | exdev | enodev | einval | erange
  | enolink | eproto | eopnotsupp | eshutdown | etimedout | enotconn | ealready | estale
  | provider (code : ℕ)
  deriving DecidableEq, Repr

inductive Orientation
  | none | normal | reverse
  deriving DecidableEq, Repr

structure Params where
  startup : Bool := false
  runtimeStartup : Bool := false
  pciePrepare : Bool := false
  pcieInspect : Bool := false
  pcieCfg0 : Bool := false
  inventoryBatch : Bool := false
  imsiReceiver : Bool := false
  nvmeRead : Bool := false
  tunnelQuiesce : Bool := false
  hostQuiesce : Bool := false
  powerQuiesce : Bool := false
  namespaceRetire : Bool := false
  pciRetire : Bool := false
  controlRetire : Bool := false
  cmRetire : Bool := false
  managed : Bool := false
  general : Bool := false

/-! ### Receipts -/

/-- The 11 router resets, one bit each, in the order of `x1_reset_names`. -/
abbrev Resets := BitVec 11

structure X1PowerStop where
  attempted : Bool := false
  finished : Bool := false
  mcuRequestCleared : Bool := false
  rxReference : Bool := false
  phyOff : Bool := false
  phyExited : Bool := false
  routeCleared : Bool := false
  memoryForceCleared : Bool := false
  iccReleased : Bool := false
  gccReleased : Bool := false
  clocksReleased : Bool := false
  runtimeReleased : Bool := false
  resetRequests : Resets := 0
  resetsAsserted : ℕ := 0
  releaseRequests : Resets := 0
  resetsReleased : ℕ := 0
  error : Option Errno := none

structure TbX1TunnelStop where
  attempted : Bool := false
  finished : Bool := false
  adapters : ℕ := 0
  hops : ℕ := 0
  error : Option Errno := none

structure QcomUsb4NhiStop where
  attempted : Bool := false
  finished : Bool := false
  ctlClosed : Bool := false
  irqDisabled : Bool := false
  callbacksDrained : Bool := false
  ringsDisabled : ℕ := 0
  rxOptions : ℕ := 0
  txOptions : ℕ := 0
  error : Option Errno := none

structure QcomUsb4NhiRetire where
  attempted : Bool := false
  finished : Bool := false
  irqReleased : Bool := false
  ringsDetached : Bool := false
  ringsFreed : ℕ := 0
  packetsFreed : ℕ := 0
  poolReleased : Bool := false
  error : Option Errno := none

structure TbX1CmRetire where
  attempted : Bool := false
  workersDrained : Bool := false
  tunnelReleased : Bool := false
  routersRemoved : Bool := false
  finished : Bool := false
  error : Option Errno := none

structure X1ImsiStop where
  attempted : Bool := false
  finished : Bool := false
  banksDisabled : ℕ := 0
  parentsDetached : ℕ := 0
  error : Option Errno := none

structure X1ImsiReceipt where
  attempted : Bool := false
  retained : Bool := false
  domainReady : Bool := false
  targetReserved : Bool := false
  associated : Bool := false
  ready : Bool := false
  error : Option Errno := none
  stop : X1ImsiStop := {}
  releaseAttempted : Bool := false
  released : Bool := false
  releaseError : Option Errno := none

/-- The receipt of a bounded one-shot stage (training, inventory). -/
structure X1Stage where
  attempted : Bool := false
  complete : Bool := false
  error : Option Errno := none

/-- The part of `struct x1_pcie_state` that the retirement of the PCI side writes. -/
structure X1PcieRetire where
  namespaceAttempted : Bool := false
  namespaceRetired : Bool := false
  namespaceError : Option Errno := none
  pciAttempted : Bool := false
  nvmeResourcesRetired : Bool := false
  pciRetired : Bool := false
  pciError : Option Errno := none
  platformAttempted : Bool := false
  platformReset : Bool := false
  platformIccReleased : Bool := false
  platformClocksReleased : ℕ := 0
  platformRuntimeReleased : Bool := false
  platformRetired : Bool := false
  platformError : Option Errno := none

/-- `struct x1_pcie_state`, apart from what config callbacks and the detach callback write
(see `Front`). -/
structure X1PcieState where
  attempted : Bool := false
  prepared : Bool := false
  error : Option Errno := none
  inspectRequested : Bool := false
  cfg0Requested : Bool := false
  inspectComplete : Bool := false
  cfg0Complete : Bool := false
  inventoryRequested : Bool := false
  inventoryAttempted : Bool := false
  receiverRequested : Bool := false
  nvmeRequested : Bool := false
  general : Bool := false
  bridgeAllocated : Bool := false
  receiver : X1ImsiReceipt := {}
  hostAttempted : Bool := false
  hostPublished : Bool := false
  hostPrepared : Bool := false
  hostError : Option Errno := none
  nvmeBindAttempted : Bool := false
  nvmeBound : Bool := false
  endpointRemoveAttempted : Bool := false
  endpointRemoved : Bool := false
  endpointRemoveError : Option Errno := none
  configFenced : Bool := false
  retire : X1PcieRetire := {}

/-- The fields of `struct x1_pcie_context` for the bus and its setup. Pointers are kept as
whether they are set. -/
structure X1PcieBus where
  window : Bool := false
  entered : Bool := false
  config : Bool := false
  resetEarly : Bool := false
  runtimeEnabled : Bool := false
  batchActive : Bool := false
  bridge : Bool := false
  bridgeBus : Bool := false
  driverRegistered : Bool := false
  nvmeSession : Bool := false
  rootPort : Bool := false
  endpoint : Bool := false
  configOpen : Bool := false
  scanWrites : Bool := false
  bindWrites : Bool := false

/-- The fields of `struct x1_pcie_context` for what it holds with its providers. -/
structure X1PcieHold where
  receiver : Bool := false
  receiverRetained : Bool := false
  runtimeHeld : Bool := false
  clocksEnabled : ℕ := 0

/-- `struct x1_pcie_context`; `state` is the generation of the session whose `x1_pcie_state`
the context points to. -/
structure X1PcieContext extends X1PcieBus, X1PcieHold where
  state : ℕ

/-! ### The Thunderbolt domain of a session -/

/-- The private part of `struct tb_cm`, apart from its event counters (see `Front`). -/
structure TbCm where
  pcieAttempted : Bool := false
  pcieUid : ℕ := 0
  retained : Bool := false
  holdAttempted : Bool := false
  holdReady : Bool := false
  retainedGeneration : ℕ := 0
  idleFrozen : Bool := false
  hotplugActive : Bool := true
  tunnelActive : Bool := false
  heldTunnel : Bool := false
  stopAttempted : Bool := false
  stopComplete : Bool := false
  retireAttempted : Bool := false
  retired : Bool := false

/-- The private part of `struct tb_ctl`. -/
structure TbCtl where
  running : Bool := true
  x1StopAttempted : Bool := false
  x1RetireAttempted : Bool := false
  x1Retired : Bool := false
  rings : Bool := true
  framePool : Bool := true

structure QcomUsb4Nhi where
  prepared : Bool := false
  irqRequested : Bool := false
  acceptRearm : Bool := false
  retainedStopAttempted : Bool := false
  retainedIrqDisabled : Bool := false
  released : Bool := false
  goingAway : Bool := false

/-! ### The session -/

/-- The fields of `struct x1_host` for the power it holds. -/
structure X1Power where
  gcc : Bool := false
  runtimeHeld : Bool := false
  clocksOn : Bool := false
  phyInitialized : Bool := false
  phyOn : Bool := false
  fw : Bool := false

/-- The fields of `struct x1_host` for the inventory batch. -/
structure X1Batch where
  attempted : Bool := false
  waiting : Bool := false
  terminal : Bool := false
  complete : Bool := false
  error : Option Errno := none
  uid : ℕ := 0
  vendor : ℕ := 0
  device : ℕ := 0
  switch : Option ℕ := none
  negotiationFailures : ℕ := 0
  negotiationError : Option Errno := none
  bindPending : Bool := false

/-- The fields of `struct x1_host` for the restored resets of a renewed session. -/
structure X1Restore where
  attempted : Bool := false
  complete : Bool := false
  state : Resets := 0
  error : Option Errno := none
  holdError : Option Errno := none

/-- The fields of `struct x1_host` for the tunnel hold and its stop. -/
structure X1Tunnel where
  held : Bool := false
  stopAttempted : Bool := false
  stopComplete : Bool := false
  stopError : Option Errno := none
  stop : TbX1TunnelStop := {}

/-- The fields of `struct x1_host` for the retirement of its domain. -/
structure X1DomainRetire where
  attempted : Bool := false
  unpublished : Bool := false
  unregistered : Bool := false
  retired : Bool := false
  error : Option Errno := none

/-- `enum x1_phase` of the startup sequence. -/
inductive X1Phase
  | new | running | failed | complete
  deriving DecidableEq, Repr

/-- `struct x1_host`, apart from what the Type-C callbacks write (see `Link`). -/
structure X1Host where
  generation : ℕ
  initialEventSequence : ℕ := 0
  fullyRetired : Bool := false
  startupAttempted : Bool := false
  activated : Bool := false
  coldOwned : Bool := false
  ready : Bool := false
  stopping : Bool := false
  suspended : Bool := false
  phase : X1Phase := .new
  power : X1Power := {}
  restore : X1Restore := {}
  batch : X1Batch := {}
  training : X1Stage := {}
  inventory : X1Stage := {}
  pcie : X1PcieState := {}
  tb : Bool := false
  retainedTb : Bool := false
  cm : TbCm := {}
  ctl : TbCtl := {}
  qnhi : QcomUsb4Nhi := {}
  tunnel : X1Tunnel := {}
  hostStopAttempted : Bool := false
  hostStop : QcomUsb4NhiStop := {}
  powerStop : X1PowerStop := {}
  controlRetire : QcomUsb4NhiRetire := {}
  cmRetire : TbX1CmRetire := {}
  domain : X1DomainRetire := {}
  idleRetireAttempted : Bool := false
  idleRetired : Bool := false
  idleRetireError : Option Errno := none
  pulled : Bool := false
  pulledRetireAttempted : Bool := false
  pulledRetired : Bool := false
  pulledRetireError : Option Errno := none

/-- The fields of `struct x1_host` that the Type-C callbacks write. -/
structure Link where
  orientation : Orientation := .none
  batchOrientation : Orientation := .none
  pendingCommand : ℕ := 0
  connectedCommand : ℕ := 0
  commandAttempted : Bool := false
  negotiationRearm : Bool := false
  error : Option Errno := none

/-! ### Hardware and providers -/

/-- What the driver contributes to a device's runtime-PM usage count. -/
structure RuntimePm where
  usage : ℤ := 0
  forbidden : Bool := false

/-- The physical lines the driver drives and the references and votes it holds with its
providers. Counts are integers, so a release too many would show as a negative count. -/
structure Hw where
  resets : Resets := 0
  tunnelBcr : Bool := false
  router : RuntimePm := {}
  pci0 : RuntimePm := {}
  gccLease : ℤ := 0
  routerClocks : ℤ := 0
  pci0Clocks : ℤ := 0
  phyPower : ℤ := 0
  phyInit : ℤ := 0
  iccApps : ℕ := 0
  iccDdr : ℕ := 0
  iccMem : ℕ := 0
  iccCfg : ℕ := 0
  domainRefs : ℤ := 0
  moduleRefs : ℤ := 0

/-- The teardown effects on a session, in the order of the tunnel path. -/
inductive Effect
  | endpointRemoved | configFenced | receiverStopped | tunnelInactive | controlStopped
  | routerReset | rootBusRemoved | receiverReleased | controlFreed | domainUnregistered
  | contextFreed
  deriving DecidableEq, Repr

/-- An entry of the teardown history of the sessions, by generation. -/
inductive Mark
  | bound (generation : ℕ)
  | start (generation : ℕ) (e : Effect)
  | done (generation : ℕ) (e : Effect)
  deriving DecidableEq, Repr

/-- Everything that only the driver's operations write: the current session, the port's
bookkeeping, the PCIe context, the receiver, the hardware, and which locks the running
operation holds. `history` records the teardown effects as they happen. -/
structure Back where
  host : X1Host
  nextGeneration : ℕ
  moduleHeld : Bool := false
  runtimeEnabled : Bool := false
  baselineReleased : Bool := false
  x1Pcie : Option X1PcieContext := none
  pcieResetHeld : Bool := false
  x1ImsiActive : Option X1ImsiReceipt := none
  hw : Hw := {}
  hostLocked : Bool := false
  configLocked : Bool := false
  history : List Mark := []

/-! ### What callbacks write -/

/-- The port's record of cable events, kept under `event_lock`. -/
structure EventRecord where
  orientation : Orientation := .none
  eventSequence : ℕ := 0
  disconnectSequence : ℕ := 0

/-- The payload of a USB4 mux notification, by the fields of its EUDO. -/
structure EnterUsbData where
  usbMode : ℕ
  cableSpeed : ℕ
  cableType : ℕ
  activeLinkTraining : Bool

/-- What a Type-C callback was called with. -/
inductive Notice
  | orientation (o : Orientation)
  | usb4 (data : EnterUsbData)
  | other

/-- A callback in flight: the session it pinned, and what it brings. -/
structure Flight where
  generation : ℕ
  notice : Notice

/-- A cable event: the orientation the port recorded, and the session published then. -/
structure CableEvent where
  orientation : Orientation
  generation : ℕ

/-- A connect command the router's MCU was sent, and the session that sent it. -/
structure McuCommand where
  generation : ℕ
  command : ℕ

/-- Everything callbacks may write: the event record and its history (the event numbered `n`
is the `n`-th of `events`), the current session's link fields, the replaced sessions that late
callbacks may still pin, the callbacks in flight, the commands sent to the MCU, the counters of the
connection manager, and the marks of the PCI configuration path. -/
structure Front where
  record : EventRecord := {}
  events : List CableEvent := []
  link : Link := {}
  old : List (X1Host × Link) := []
  flights : List Flight := []
  commands : List McuCommand := []
  cmGeneration : ℕ := 0
  cmPending : ℕ := 0
  pulled : Bool := false
  cfgError : Option Errno := none

end YogaUsb4.HostState
