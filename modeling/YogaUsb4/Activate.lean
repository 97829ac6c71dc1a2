import YogaUsb4.PcieRetire

/-!
From a fresh session to a running control domain: the reset baseline of a renewed session, the
providers, the startup sequence of the router and the publication of the domain. Every
accepted attempt is terminal, whatever it reached.
-/

namespace YogaUsb4.Activate

open HostState Typec Driver Cm Pcie

variable (mp : Params)

/-! ### The startup sequence -/

/-- The steps of the startup sequence that a provider carries out. -/
inductive X1Step
  | phyPrepare | rxPrepare | txbPrepare | txaPrepare | rxClockReference | miscResetAssert
  | extraResetAssert | dpResetAssert | dpResetClear | extraResetClear | miscResetClear
  | sysReady | rxClockPhy | rxActive | txbActive | txaActive | pipeResetAssert
  | pipeResetClear | upload | sysMemoryForce | tcsrRoute | pipeHwcgOff | drom | phyComposite
  | mcuStart | preset
  deriving DecidableEq, Repr

inductive Operation
  | provider (s : X1Step)
  | update (offset mask value : ℕ)
  | delay (us : ℕ)
  | releaseDelay
  | clear1200c
  deriving DecidableEq, Repr

def operations : List Operation :=
  [ .provider .phyPrepare,
    .provider .rxPrepare, .provider .txbPrepare, .provider .txaPrepare,
    .provider .rxClockReference, .provider .miscResetAssert, .delay 100,
    .provider .extraResetAssert, .provider .dpResetAssert, .delay 1,
    .provider .dpResetClear, .provider .extraResetClear, .releaseDelay,
    .provider .miscResetClear, .provider .sysReady, .provider .rxClockPhy, .clear1200c,
    .provider .rxActive, .provider .txbActive, .provider .txaActive,
    .update 0x81000 1 1, .provider .pipeResetAssert, .delay 1000, .delay 100,
    .update 0x81018 1 1, .provider .pipeResetClear, .delay 1000, .delay 100,
    .update 0x81000 1 0, .provider .upload, .provider .sysMemoryForce,
    .provider .tcsrRoute, .provider .pipeHwcgOff, .update 0x81004 1 1,
    .update 0x80c8 0xffff0000 0x00040000, .update 0x80c8 0xffff 0,
    .update 0x8148 0xffffffff 250000, .update 0x8144 0xffffffff 4000,
    .provider .drom, .provider .phyComposite,
    .update 0xd000 (1 <<< 23) 0, .update 0xd000 (1 <<< 22) 0, .update 0xd000 (1 <<< 21) 0,
    .update 0xd064 (1 <<< 6) 0, .provider .mcuStart, .provider .preset ]

def pipeReset : Fin 11 := 3

/-- `x1_step`: the steps that hold something or drive a reset, and the others, which only
succeed or fail. -/
def x1Step : X1Step → BackProg mp Unit
  | .phyPrepare => do
    call mp (.check .startupStep)
    call mp .phyInit
    assignPower mp fun x => { x with phyInitialized := true }
  | .miscResetAssert => call mp .bulkAssert
  | .miscResetClear => call mp .bulkDeassert
  | .pipeResetAssert => call mp (.resetAssert pipeReset)
  | .pipeResetClear => call mp (.resetDeassert pipeReset)
  | .phyComposite => do
    call mp .phyPowerOn
    assignPower mp fun x => { x with phyOn := true }
  | .rxClockReference | .rxClockPhy => call mp (.check .rxSelect)
  | .tcsrRoute => call mp (.check .tcsrRoute)
  | .sysMemoryForce => call mp (.check .sysForceMem)
  | .preset => call mp (.check .mcuCommand)
  | _ => call mp (.check .startupStep)

/-- Clears bit 31 of register `0x1200c`, with `n` writes left. -/
def clear1200c : ℕ → BackProg mp Unit
  | 0 => do
    let value ← callVal mp (.check .startupStep)
    if value.testBit 31 then throw .etimedout
    else perform mp (.check .startupDelay)
  | n + 1 => do
    let value ← callVal mp (.check .startupStep)
    if value.testBit 31 then
      perform mp (.check .startupStep)
      perform mp (.check .startupDelay)
      clear1200c n
    else perform mp (.check .startupDelay)

def execute : Operation → BackProg mp Unit
  | .provider s => x1Step mp s
  -- The offsets of the table are aligned and inside the router, so no update is refused.
  | .update _ _ _ => perform mp (.check .startupStep)
  | .delay _ | .releaseDelay => perform mp (.check .startupDelay)
  | .clear1200c => clear1200c mp 11

def executeAll : List Operation → BackProg mp Unit
  | [] => pure ()
  | op :: ops => do
    execute mp op
    executeAll ops

def x1Owner : BackProg mp Unit := do
  require (!(← getHost mp).power.phyInitialized) .einval
  call mp (.check .startupOwner)
  assignHost mp fun h => { h with coldOwned := true }

def x1StartupRun : BackProg mp Unit := do
  let phase := (← getHost mp).phase
  require (phase == .new) (if phase == .running then .ebusy else .ealready)
  assignHost mp fun h => { h with phase := .running }
  let ret ← attempt (do
    call mp (.check .startupValidate)
    x1Owner mp
    executeAll mp operations)
  assignHost mp fun h => { h with phase := if ret.isNone then .complete else .failed }
  raise ret

/-! ### Power and resets -/

/-- `x1_gcc_usb4_get`: the lease is exclusive. -/
def x1GccUsb4Get : BackProg mp Unit := do
  require ((← Guarded.get).back.hw.gccLease == 0) .ebusy
  call mp .gccGet

def leaseGcc : BackProg mp Unit := do
  x1GccUsb4Get mp
  assignPower mp fun x => { x with gcc := true }

/-- `x1_gcc_usb4_reset_state`: reads the reset lines back. -/
def x1GccUsb4ResetState : BackProg mp Resets := do
  call mp (.check .resetState)
  return (← Guarded.get).back.hw.resets

def x1ReleasePower : BackProg mp Unit := do
  let p := (← getHost mp).power
  if p.gcc then
    perform mp .gccPut
    assignPower mp fun x => { x with gcc := false }
  if p.clocksOn then
    perform mp .clkBulkDisable
    assignPower mp fun x => { x with clocksOn := false }
  let _ ← attempt (call mp (.iccSetBw .apps 0))
  let _ ← attempt (call mp (.iccSetBw .ddr 0))
  if p.runtimeHeld then
    perform mp (.pmPutSync .router)
    assignPower mp fun x => { x with runtimeHeld := false }

def deassertEach : List (Fin 11) → BackProg mp Unit
  | [] => pure ()
  | i :: is => do
    call mp (.resetDeassert i)
    deassertEach is

def readRestoreState : BackProg mp Resets := do
  let r ← x1GccUsb4ResetState mp
  assignRestore mp fun x => { x with state := r }
  return r

def x1RestoreResets : BackProg mp Unit := do
  let h ← getHost mp
  require (mp.managed && decide (1 < h.generation) && h.power.gcc &&
    h.power.runtimeHeld != mp.general && !h.power.clocksOn && !h.activated &&
    !h.restore.attempted) .eperm
  tryCatchThe Errno
    (do
      let r ← readRestoreState mp
      if mp.general && r == 0 && (← Guarded.get).back.baselineReleased then
        assign mp fun b => { b with baselineReleased := false }
        assignRestore mp fun x => { x with complete := true }
      else
        require (r == BitVec.allOnes 11) .eio
        assignRestore mp fun x => { x with attempted := true }
        deassertEach mp (List.finRange 11)
        let r ← readRestoreState mp
        require (r == 0) .eio
        assignRestore mp fun x => { x with complete := true })
    fun e => do
      assignRestore mp fun x => { x with error := some e }
      throw e

/-- Tries every assert once, and keeps the first error. -/
def assertEach : List (Fin 11) → Option Errno → BackProg mp (Option Errno)
  | [], first => pure first
  | i :: is, first => do
    let ret ← attempt (call mp (.resetAssert i))
    assertEach is (first <|> ret)

def x1ReholdResets : BackProg mp (Option Errno) := do
  let first ← assertEach mp (List.finRange 11) none
  let ret ← attempt (do
    let r ← readRestoreState mp
    require (r == BitVec.allOnes 11) .eio)
  assignRestore mp fun x => { x with holdError := first <|> ret }
  return first <|> ret

/-- The `release` exit of `x1_activate`: resets that were restored are held again first, and
when that fails the votes stay. -/
def releaseStarted : BackProg mp Unit := do
  if (← getHost mp).restore.attempted then
    if (← x1ReholdResets mp).isNone then x1ReleasePower mp
  else x1ReleasePower mp

/-- Runs a part of `x1_activate` whose failure goes to the `release` exit. -/
def orRelease (m : BackProg mp Unit) : BackProg mp Unit :=
  tryCatchThe Errno m fun e => do
    releaseStarted mp
    throw e

/-! ### The control domain -/

/-- Starts the domain. A new connection manager counts its events from zero. -/
def x1StartDomain : DriverProg mp Unit := do
  call mp (.check .nhiPrepare)
  assignQnhi mp fun x => { x with prepared := true }
  tryCatchThe Errno
    (do
      call mp (.check .nhiInitInterrupts)
      assignQnhi mp fun x => { x with irqRequested := true, acceptRearm := true }
      checkOr mp .tbProbe .enomem
      assignFront mp fun _ fr => { fr with cmGeneration := 0, cmPending := 0 }
      call mp .domainAdd
      assignHost mp fun h => { h with tb := true })
    fun e => do
      perform mp (.check .nhiShutdown)
      throw e

/-- `x1_apply_link` from an operation that holds the session's lock. -/
def applyLink : DriverProg mp (Option Errno) := do
  let s ← Guarded.get
  let mcu ←
    if (x1ApplyLink s.back.host s.front.link none).sent.isSome then
      (attempt (call mp (.check .mcuCommand)) : BackProg mp (Option Errno))
    else pure none
  let s ← Guarded.get
  let a := x1ApplyLink s.back.host s.front.link mcu
  assignFront mp fun b fr =>
    { fr with
      link := a.link
      commands := fr.commands ++ (a.sent.map fun c => ⟨b.host.generation, c⟩).toList }
  return a.ret

/-! ### Activation -/

/-- What precedes any provider vote: a failure here holds nothing but the module. -/
def x1Admission : BackProg mp Unit := do
  if !(← Guarded.get).back.moduleHeld then
    tryCatchThe Errno (call mp .moduleGet) fun _ => throw .enodev
    assign mp fun b => { b with moduleHeld := true }
  call mp (.check .dmaCheck)
  call mp (.check .firmware)
  assignPower mp fun x => { x with fw := true }
  call mp (.check .firmware)
  if !(← Guarded.get).back.runtimeEnabled then
    call mp (.check .pmEnable)
    assign mp fun b => { b with runtimeEnabled := true }

/-- The general flavor restores the reset baseline before it asks for the domain. -/
def x1RestoreBaseline : BackProg mp Unit := do
  if mp.general && decide (1 < (← getHost mp).generation) then
    leaseGcc mp
    orRelease mp (do
      x1RestoreResets mp
      qcomUsb4X1ReleaseRetiredReset mp)

/-- The vote on the router's domain. Only an early lease is there to be released. -/
def x1Resume : BackProg mp Unit := do
  tryCatchThe Errno (call mp (.pmResumeAndGet .router)) fun e => do
    if (← getHost mp).power.gcc then releaseStarted mp
    throw e
  assignPower mp fun x => { x with runtimeHeld := true }

/-- Bandwidth, clocks and the lease, with the domain on. -/
def x1Providers : BackProg mp Unit := do
  call mp (.iccSetBw .apps 40000)
  call mp (.iccSetBw .ddr 5000000)
  if !mp.general && decide (1 < (← getHost mp).generation) then
    leaseGcc mp
    x1RestoreResets mp
  call mp .clkBulkEnable
  assignPower mp fun x => { x with clocksOn := true }
  if !(← getHost mp).power.gcc then leaseGcc mp
  if mp.general then call mp (.check .gccPowerOn)

def x1Publish : DriverProg mp Unit := do
  lockHost mp
  assignHost mp fun h => { h with ready := true }
  let ret ← applyLink mp
  unlockHost mp
  raise ret

/-- The `stopped` exit: the session keeps the error and drops the firmware image. -/
def x1Stopped (e : Errno) : DriverProg mp Unit := do
  lockHost mp
  assignFront mp fun _ fr => { fr with link.error := some e }
  unlockHost mp
  assignPower mp fun x => { x with fw := false }

def x1PowerUp : BackProg mp Unit := do
  x1Admission mp
  x1RestoreBaseline mp
  x1Resume mp
  orRelease mp (x1Providers mp)

def x1Start : DriverProg mp Unit := do
  x1PowerUp mp
  assignHost mp fun h => { h with activated := true }
  x1StartupRun mp
  x1StartDomain mp
  x1Publish mp

def x1Activate : DriverProg mp Unit := do
  let h ← getHost mp
  require (!h.startupAttempted) .ealready
  require (!h.stopping) .eshutdown
  require (!h.suspended) .ebusy
  assignHost mp fun h => { h with startupAttempted := true }
  tryCatchThe Errno (x1Start mp) fun e => do
    x1Stopped mp e
    throw e

/-! ### The two attributes -/

/-- A write to an attribute: whether the writer is an administrator, and the text. -/
structure Write where
  capable : Bool := true
  buf : String

/-- The text is the word, with or without a line end. -/
def Write.isWord (w : Write) (word : String) : Bool := w.buf == word || w.buf == word ++ "\n"

def activateOnce (w : Write) : DriverProg mp Unit := do
  require (w.capable && mp.runtimeStartup) .eperm
  require (w.isWord "cold-start") .einval
  checkOr mp .lock .ebusy
  lockHost mp
  let s ← Guarded.get
  unlockHost mp
  require (!s.back.host.batch.attempted) .ealready
  require (s.front.link.orientation == .none && s.front.link.pendingCommand == 0) .ebusy
  x1Activate mp

/-- `pcie_prepare_once`: the isolated preparation is refused since the private profile, after
the request flags were written. -/
def pciePrepareOnce (w : Write) : DriverProg mp Unit := do
  require (w.capable && mp.pciePrepare) .eperm
  let inspect := w.isWord "root-inspect"
  let cfg0 := w.isWord "root-cfg0"
  require (inspect || cfg0 || w.isWord "root-mode") .einval
  require (!((inspect || cfg0) && !mp.pcieInspect) && !(cfg0 && !mp.pcieCfg0)) .eperm
  checkOr mp .lock .ebusy
  lockHost mp
  let ret ← attempt (do
    let s ← Guarded.get
    let h := s.back.host
    let l := s.front.link
    require (!h.pcie.attempted && !h.batch.attempted) .ealready
    require (h.startupAttempted && h.activated && h.coldOwned && h.ready && h.tb &&
      l.error.isNone && !h.stopping && !h.suspended) .eperm
    require (l.orientation == .none && l.pendingCommand == 0 && l.connectedCommand == 0 &&
      !l.commandAttempted) .ebusy
    checkOr mp .emptyDomain .eperm
    assignPcie mp fun p => { p with inspectRequested := inspect || cfg0, cfg0Requested := cfg0 }
    let ret ← (attempt (x1PciePrepareOnce mp false) : BackProg mp (Option Errno))
    if (← getHost mp).pcie.attempted then
      assignFront mp fun _ fr => { fr with link.error := some (ret.getD .eshutdown) }
    raise ret)
  unlockHost mp
  raise ret

end YogaUsb4.Activate
