import YogaUsb4.Activate
import Mathlib.Algebra.Group.Nat.Defs

/-!
The inventory batch: the preparation of an empty port, the wait for one attachment, and from a
connected router to a bound endpoint. Idle waiting holds no lock; once the tunnel is approved
the whole batch runs under the session's lock, and the bind that follows it under none.
-/

namespace YogaUsb4.Batch

open HostState Typec Driver Cm Pcie Activate

variable (mp : Params)

/-! ### The admitted device -/

/-- The value of a hexadecimal digit, as `hex_to_bin` reads it. -/
def hexToBin (c : Char) : Option ℕ :=
  if '0' ≤ c ∧ c ≤ '9' then some (c.toNat - '0'.toNat)
  else if 'a' ≤ c ∧ c ≤ 'f' then some (c.toNat - 'a'.toNat + 10)
  else if 'A' ≤ c ∧ c ≤ 'F' then some (c.toNat - 'A'.toNat + 10)
  else none

def hexNumber (cs : List Char) : Option ℕ :=
  cs.foldlM (fun n c => (hexToBin c).map (16 * n + ·)) 0

/-- The largest values of the two identifier widths, which name no device. -/
def u64Max : ℕ := 2 ^ 64 - 1
def u16Max : ℕ := 2 ^ 16 - 1

structure Admitted where
  uid : ℕ := 0
  vendor : ℕ := 0
  device : ℕ := 0
  deriving DecidableEq, Repr

/-- The exact record of the harness: `inventory <uid> <vendor>:<device>`. -/
def parseRecord (cs : List Char) : Option Admitted := do
  guard (cs.length = 36 ∨ (cs.length = 37 ∧ cs[36]? = some '\n'))
  guard (cs.take 10 = "inventory ".toList ∧ cs[26]? = some ' ' ∧ cs[31]? = some ':')
  let uid ← hexNumber ((cs.drop 10).take 16)
  let vendor ← hexNumber ((cs.drop 27).take 4)
  let device ← hexNumber ((cs.drop 32).take 4)
  guard (uid ≠ 0 ∧ uid ≠ u64Max ∧ vendor ≠ 0 ∧ vendor ≠ u16Max ∧ device ≠ 0 ∧
    device ≠ u16Max)
  return ⟨uid, vendor, device⟩

/-- The general flavor learns the router and the endpoint from the attachment. -/
def x1BatchParse (w : Write) : Option Admitted :=
  if mp.general then if w.isWord "inventory any" then some {} else none
  else parseRecord w.buf.toList

/-! ### Waiting for the attachment -/

def expired : BackProg mp Bool := do
  return (← attempt (call mp (.check .clock))).isSome

/-- Looks the router up and, in the general flavor, admits the first one found. -/
def findSwitch : BackProg mp Unit := do
  let found ← tryCatchThe Errno (do return some (← callVal mp (.check .findSwitch)))
    fun _ => pure none
  assignBatch mp fun x => { x with switch := found }
  match found with
  | none => pure ()
  | some uid =>
    if mp.general && (← getHost mp).batch.uid == 0 then
      require (uid != 0 && uid != u64Max) .enodev
      assignBatch mp fun x => { x with uid := uid }
    require (uid == (← getHost mp).batch.uid) .enodev
  if ← expired mp then throw .etimedout

/-- One observation of `x1_batch_wait`, under the session's lock. -/
def observe : BackProg mp Unit := do
  let s ← Guarded.get
  let h := s.back.host
  let l := s.front.link
  raise l.error
  if ← expired mp then throw .etimedout
  require (!h.stopping && !h.suspended && h.ready && h.tb) .eshutdown
  if x1AttachUntouched mp h l then
    require (l.batchOrientation != .none) .enotconn
    if ← expired mp then throw .etimedout
  if l.connectedCommand != 0 then
    require (h.batch.waiting && l.commandAttempted && l.orientation != .none &&
      l.orientation == l.batchOrientation && l.pendingCommand == l.connectedCommand) .enolink
    findSwitch mp

/-- `x1_batch_wait`, with `n` polls left before the deadline has passed for certain. -/
def x1BatchWait : ℕ → BackProg mp Unit
  | 0 => do
    lockHost mp
    let s ← Guarded.get
    unlockHost mp
    raise s.front.link.error
    throw .etimedout
  | n + 1 => do
    lockHost mp
    let ret ← attempt (observe mp)
    unlockHost mp
    raise ret
    if (← getHost mp).batch.switch.isNone then
      perform mp (.check .sleep)
      x1BatchWait n

/-- The deadline lies 120 s ahead, and between two polls lie 50 ms at least. -/
def waitPolls : ℕ := 120 * 1000 / 50

def x1BatchLive : BackProg mp Unit := do
  let s ← Guarded.get
  let h := s.back.host
  let l := s.front.link
  require (l.error.isNone && !h.stopping && !h.suspended && h.ready && h.coldOwned &&
    h.batch.attempted && !h.batch.terminal && !h.batch.waiting && h.batch.switch.isSome &&
    l.commandAttempted && l.connectedCommand != 0 && l.pendingCommand == l.connectedCommand &&
    l.orientation != .none && l.orientation == l.batchOrientation) (l.error.getD .eshutdown)
  if ← expired mp then throw .etimedout
  tbX1ValidatePcie mp h.batch.uid
  if ← expired mp then throw .etimedout

/-- Lets the connection manager finish its queued events, with `n` polls left before the
deadline has passed for certain. -/
def drainEvents : ℕ → BackProg mp Unit
  | 0 => do
    require ((← Guarded.get).front.cmPending == 0) .ebusy
  | n + 1 => do
    if (← Guarded.get).front.cmPending != 0 then
      if ← expired mp then throw .ebusy
      perform mp (.check .sleep)
      drainEvents n

def x1GeneralDrainEvents : BackProg mp Unit := do
  drainEvents mp (5 * 1000 / 20 + 1)
  x1BatchLive mp

/-! ### The batch -/

/-- Holds the approved tunnel, with a reference of its own on the domain. -/
def holdTunnel (uid : ℕ) : BackProg mp Unit := do
  let ret ← attempt (do
    if mp.general then x1GeneralDrainEvents mp
    tbX1HoldPcie mp uid)
  assignTunnel mp fun x => { x with held := ret.isNone }
  raise ret
  perform mp .domainGet
  assignHost mp fun h => { h with retainedTb := true }

def runBatch (a : Admitted) : BackProg mp Unit := do
  if ← expired mp then throw .etimedout
  let s ← Guarded.get
  let h := s.back.host
  let l := s.front.link
  require (l.error.isNone && h.batch.switch.isSome && !h.stopping && !h.suspended &&
    l.orientation == l.batchOrientation && l.connectedCommand != 0 &&
    l.pendingCommand == l.connectedCommand) (l.error.getD .enolink)
  tbX1ApprovePcie mp h.batch.uid
  x1BatchLive mp
  qcomUsb4X1BatchInventory mp (x1BatchLive mp) a.vendor a.device
  if mp.tunnelQuiesce then holdTunnel mp h.batch.uid

/-- The `terminal` exit, with the session's lock held: Type-C work is fenced, and a published
endpoint is left to be bound. -/
def batchTerminal (ret : Option Errno) : DriverProg mp Unit := do
  let h ← getHost mp
  let bind := ret.isNone && mp.nvmeRead && h.pcie.hostPublished
  assignBatch mp fun x =>
    { x with waiting := false, terminal := true, complete := ret.isNone && !bind, error := ret
             bindPending := bind, switch := none }
  assignFront mp fun _ fr => { fr with link.error := some (ret.getD .eshutdown) }
  unlockHost mp
  raise ret

def negotiationAttempts : ℕ := 16

/-- From `wait_attachment` on. An attachment that never negotiated may be tried again. -/
def waitAttachment (a : Admitted) : DriverProg mp Unit := do
  let ret ← (attempt (x1BatchWait mp waitPolls) : BackProg mp (Option Errno))
  lockHost mp
  let s ← Guarded.get
  if (ret == some .enotconn || ret == some .etimedout) &&
      x1AttachUntouched mp s.back.host s.front.link then
    assignBatch mp fun x =>
      { x with negotiationFailures := x.negotiationFailures + 1, negotiationError := ret }
    if s.back.host.batch.negotiationFailures + 1 < negotiationAttempts then
      assignFront mp fun _ fr =>
        { fr with link.negotiationRearm := fr.link.batchOrientation != .none }
      unlockHost mp
      throw .enotconn
  assignBatch mp fun x => { x with waiting := false }
  let ret ← (attempt (do raise ret; runBatch mp a) : BackProg mp (Option Errno))
  batchTerminal mp ret

def linkUntouched (l : Link) : Bool :=
  l.error.isNone && l.orientation == .none && l.pendingCommand == 0 &&
    l.connectedCommand == 0 && !l.commandAttempted

def prepareLocal : BackProg mp Unit := do
  let l := (← Guarded.get).front.link
  require (linkUntouched l) (l.error.getD .ebusy)
  assignPcie mp fun p =>
    { p with receiverRequested := true, nvmeRequested := mp.nvmeRead, general := mp.general }
  checkOr mp .emptyDomain .eperm
  x1PciePrepareOnce mp true
  assignBatch mp fun x => { x with waiting := true }

/-- A first write prepares the empty port; in managed mode the attachment is left to a second
one. -/
def startBatch (a : Admitted) : DriverProg mp Unit := do
  assignBatch mp fun x =>
    { x with attempted := true, uid := a.uid, vendor := a.vendor, device := a.device }
  unlockHost mp
  let ret ← attempt (x1Activate mp)
  lockHost mp
  let ret ← (attempt (do raise ret; prepareLocal mp) : BackProg mp (Option Errno))
  if ret.isSome then batchTerminal mp ret
  else
    unlockHost mp
    if !mp.managed then waitAttachment mp a

def batchArmed : Bool :=
  mp.inventoryBatch && mp.imsiReceiver && !mp.startup && !mp.runtimeStartup &&
    !mp.pciePrepare && !mp.pcieInspect && !mp.pcieCfg0 && (!mp.tunnelQuiesce || mp.nvmeRead) &&
    (!mp.general || (mp.managed && mp.nvmeRead))

/-- A managed session waits for the attachment that `a` names. -/
def awaits (h : X1Host) (l : Link) (a : Admitted) : Bool :=
  mp.managed && h.batch.attempted && h.batch.waiting && !h.batch.terminal && l.error.isNone &&
    h.ready && h.pcie.prepared && !h.stopping && !h.suspended && a.uid == h.batch.uid &&
    a.vendor == h.batch.vendor && a.device == h.batch.device

/-- Leaves an attribute that holds the session's lock. -/
def leave (e : Errno) : DriverProg mp Unit := do
  unlockHost mp
  throw e

def inventoryOnce (w : Write) : DriverProg mp Unit := do
  require (w.capable && batchArmed mp) .eperm
  match x1BatchParse mp w with
  | none => throw .einval
  | some a =>
    checkOr mp .lock .ebusy
    lockHost mp
    let s ← Guarded.get
    let h := s.back.host
    let l := s.front.link
    if awaits mp h l a then
      if l.orientation == .none || l.negotiationRearm then leave mp .eagain
      else
        unlockHost mp
        waitAttachment mp a
    else if h.startupAttempted || h.pcie.attempted || h.batch.attempted then
      leave mp .ealready
    else if h.stopping || h.suspended || !linkUntouched l then leave mp .ebusy
    else startBatch mp a

/-- The end of `inventory_once`, which runs with none of its locks and so after anything else
that got them first. -/
def bindStage : BackProg mp Unit := do
  require (← getHost mp).batch.bindPending .eperm
  lockHost mp
  let h ← getHost mp
  unlockHost mp
  let ret ← attempt (do
    require (!h.stopping && !h.suspended && h.ready) .eshutdown
    qcomUsb4X1NvmeBind mp)
  lockHost mp
  assignBatch mp fun x => { x with error := ret, complete := ret.isNone, bindPending := false }
  unlockHost mp
  raise ret

end YogaUsb4.Batch
