import YogaUsb4.Dialog
import YogaUsb4.Steps
import Mathlib.Data.List.FinRange

/-!
The MSI receiver of PCIe0: how one is prepared, stopped, released and retired. A receiver is known
to its callers by a pointer, here by its place among all that were ever allocated, and one of them
at a time is the active one.
-/

namespace YogaUsb4.Imsi

open Dialog

/-! ### The state -/

structure Stop where
  attempted : Bool := false
  finished : Bool := false
  banksDisabled : ℕ := 0
  parentsDetached : ℕ := 0
  error : ℤ := 0

structure Receipt where
  attempted : Bool := false
  retained : Bool := false
  domainReady : Bool := false
  targetReserved : Bool := false
  globalPolicyComplete : Bool := false
  associated : Bool := false
  ready : Bool := false
  banks : ℕ := 0
  vectors : ℕ := 0
  target : BitVec 64 := 0
  error : ℤ := 0
  step : String := ""
  stop : Stop := {}
  releaseAttempted : Bool := false
  released : Bool := false
  releaseError : ℤ := 0

/-- The fields of `struct dw_pcie_rp` that the receiver reads. -/
structure DwPcieRp where
  irqDomain : Bool := false
  useImsiRx : Bool := false
  numVectors : ℕ := 0
  msiIrq : Fin 8 → ℤ := fun _ => 0
  msiData : BitVec 64 := 0

/-- `struct x1_imsi`; `dbiBase` says whether `pci.dbi_base` is the request's. -/
structure X1Imsi where
  pp : DwPcieRp := {}
  dbiBase : Bool := false
  receipt : Receipt := {}
  parents : Fin 8 → ℤ := fun _ => 0
  global : ℤ := 0
  targetGroup : Bool := false
  targetGroupClosed : Bool := false

/-- The registers behind `dbi`, with their eight banks. -/
inductive Reg where
  | vendor | addrLo | addrHi
  | mask (i : Fin 8) | enable (i : Fin 8) | status (i : Fin 8)
  deriving DecidableEq

inductive Call where
  | alloc
  /-- the callbacks of a request, and `check_stopped` of the later calls -/
  | checkLive | retain | targetCheck (target : BitVec 64) | globalRoute (irq : ℤ) | checkStopped
  /-- `pm_runtime_active` of the two devices -/
  | pdevActive | ownerActive
  | readl (r : Reg) | writel (r : Reg) (value : BitVec 32)
  /-- the managed resources of the message target -/
  | openGroup | closeGroup | releaseGroup
  /-- `dw_pcie_msi_host_init`, `dw_pcie_msi_init` and `dw_pcie_free_msi` -/
  | msiHostInit | msiInit | freeMsi
  /-- the MSI domain of the bridge, with `bridge->msi_domain` -/
  | setMsiDomain (on : Bool)
  /-- `bitmap_empty` of the vectors in use -/
  | vectorsFree
  /-- `irq_get_handler_data` of a parent: it is `pp`, or there is one at all -/
  | handlerOurs (i : Fin 8) | handlerSet (i : Fin 8)
  | hasAction (i : Fin 8) | disableIrq (i : Fin 8) | clearHandler (i : Fin 8)
  /-- the bridge has a bus, is registered, has the receiver's MSI domain, and says so -/
  | bridgeBus | bridgeRegistered | bridgeDomain | bridgeMsiDomain
  deriving DecidableEq

/-- The calls that do something, to the receiver or to what it holds. -/
def Call.acts : Call → Bool
  | .retain | .globalRoute _ | .writel _ _ | .openGroup | .closeGroup | .releaseGroup
  | .msiHostInit | .msiInit | .freeMsi | .setMsiDomain _ | .disableIrq _ | .clearHandler _ => true
  | _ => false

/-- What a call returns: a result or a truth value, a register, or what the library leaves in
`pp`. -/
structure Reply where
  ret : ℤ := 0
  word : BitVec 32 := 0
  pp : DwPcieRp := {}

abbrev ImsiAct := Act Call Reply X1Imsi

/-! ### Admission -/

/-- What `x1_imsi_parent` finds for one interrupt: its place among the names, the result of
parsing it, its specifier, its number, and the state of the interrupt. -/
structure ParentFound where
  named : Bool := true
  parse : ℤ := 0
  spec : Bool := true
  irq : ℤ
  data : Bool := true

def imsiParent (f : ParentFound) : ℤ :=
  if !f.named then -einval
  else if f.parse ≠ 0 then f.parse
  else if !f.spec then -einval
  else if f.irq ≤ 0 then (if f.irq ≠ 0 then f.irq else -einval)
  else if !f.data then -ebusy
  else f.irq

/-- The node of the SMMU: the result of reading its status, and what it should be. -/
structure SmmuFound where
  status : ℤ := 0
  reserved : Bool := true
  compatible : Bool := true

/-- What `x1_imsi_admit` finds: machine, devices and bridge as they should be; none of the
properties and no domain that would take the messages elsewhere; the nodes and resources; and the
eight parents and the global interrupt. -/
structure Found where
  device : Bool := true
  unmapped : Bool := true
  host : Bool := true
  resources : Bool := true
  owner : Bool := true
  smmu : Option SmmuFound := some {}
  intc : Bool := true
  parents : Fin 8 → ParentFound
  global : ParentFound

/-- The loop of `x1_imsi_admit` over the eight parents. -/
def admitParents (f : Fin 8 → ParentFound) : List (Fin 8) → X1Imsi → X1Imsi × ℤ
  | [], r => (r, 0)
  | i :: l, r =>
    let irq := imsiParent (f i)
    if irq < 0 then (r, irq)
    else if ∃ j < i, r.parents j = irq then (r, -einval)
    else admitParents f l { r with parents := Function.update r.parents i irq }

/-- The last round of the loop: the global interrupt. -/
def admitGlobal (f : ParentFound) (r : X1Imsi) : X1Imsi × ℤ :=
  let irq := imsiParent f
  if irq < 0 then (r, irq)
  else if ∃ j, r.parents j = irq then (r, -einval)
  else ({ r with global := irq }, 0)

/-- The tests of `x1_imsi_admit` before its loop. -/
def admitFound (f : Found) : ℤ :=
  if !f.device then -enodev
  else if !f.unmapped then -ebusy
  else if !f.host then -enodev
  else if !f.resources then -einval
  else if !f.owner then -enodev
  else match f.smmu with
    | none => -enodev
    | some m =>
      if m.status ≠ 0 then m.status
      else if !m.reserved || !m.compatible then -enodev
      else if !f.intc then -enodev
      else 0

def imsiAdmit (f : Found) : ImsiAct := Act.list [
  fun r => pure (r, admitFound f),
  fun r => pure (admitParents f.parents (List.finRange 8) r),
  fun r => pure (admitGlobal f.global r)]

/-! ### Prepare -/

def atStep (t : String) : ImsiAct := Act.set fun r => { r with receipt.step := t }

/-- A callback of the request; a positive result is an error as well. -/
def callback (q : Call) : ImsiAct := fun r => do
  return (r, orEio (← ask q).ret)

/-- A test that ends with `e` where it fails. -/
def test (p : X1Imsi → Bool) (e : ℤ) : ImsiAct := fun r => pure (r, if p r then 0 else e)

/-- A register holds the value. -/
def expect (g : Reg) (v : X1Imsi → BitVec 32) (e : ℤ) : ImsiAct := fun r => do
  if (← ask (.readl g)).word ≠ v r then return (r, e)
  return (r, 0)

def U32_MAX : BitVec 32 := 0xffffffff

def imsiGuard : ImsiAct := fun r => do
  let ret := (← ask .checkLive).ret
  if ret ≠ 0 then return (r, orEio ret)
  if (← ask .pdevActive).ret = 0 then return (r, -ehostdown)
  if (← ask .ownerActive).ret = 0 then return (r, -ehostdown)
  return (r, 0)

def writeChecked (g : Reg) (v : BitVec 32) : ImsiAct := fun r => do
  let _ ← ask (.writel g v)
  if (← ask (.readl g)).word = v then return (r, 0)
  return (r, -eio)

def maskBank (i : Fin 8) : ImsiAct := Act.list [
  imsiGuard, writeChecked (.mask i) U32_MAX, expect (.status i) (fun _ => 0) (-ebusy)]

def openGroup : ImsiAct := fun r => do
  if (← ask .openGroup).ret = 0 then return (r, -enomem)
  return ({ r with targetGroup := true }, 0)

/-- `dw_pcie_msi_host_init` inside its group. -/
def msiHostInit : ImsiAct := fun r => do
  let a ← ask .msiHostInit
  let _ ← ask .closeGroup
  return ({ r with pp := { a.pp with useImsiRx := r.pp.useImsiRx }, targetGroupClosed := true },
    a.ret)

def recordTarget (r : X1Imsi) : X1Imsi :=
  { r with
    receipt.domainReady := true
    receipt.targetReserved := true
    receipt.target := r.pp.msiData
    receipt.banks := 8
    receipt.vectors := r.pp.numVectors }

def targetUsable (r : X1Imsi) : Bool :=
  r.pp.irqDomain && r.pp.numVectors == 256 && r.pp.msiData != 0xffffffffffffffff#64 &&
    r.pp.msiData &&& 7 == 0 &&
    !(0x400000000#64 ≤ r.pp.msiData && r.pp.msiData < 0x410000000#64)

def msiInit : ImsiAct := fun r => do
  let _ ← ask .msiInit
  return ({ r with pp.useImsiRx := true }, 0)

def checkBank (i : Fin 8) : ImsiAct := Act.list [
  expect (.mask i) (fun _ => U32_MAX) (-eio), expect (.enable i) (fun _ => U32_MAX) (-eio),
  expect (.status i) (fun _ => 0) (-eio)]

def associate : ImsiAct := fun r => do
  let _ ← ask (.setMsiDomain true)
  return ({ r with
    receipt.associated := true
    receipt.ready := true
    receipt.step := "receiver-ready-no-endpoint-dma-proof" }, 0)

def imsiSetup : ImsiAct := Act.list [
  atStep "initial-fence",
  imsiGuard,
  expect .vendor (fun _ => 0x011117cb) (-ebusy),
  atStep "mask-eight-banks",
  Act.list ((List.finRange 8).map maskBank),
  Act.set fun r => { r with dbiBase := true, pp.numVectors := 256 },
  atStep "dw-msi-host-init",
  imsiGuard,
  openGroup,
  msiHostInit,
  Act.set recordTarget,
  test (fun r => ∀ i, r.pp.msiIrq i = r.parents i) (-einval),
  test targetUsable (-einval),
  fun r => callback (.targetCheck r.pp.msiData) r,
  atStep "dw-msi-register-init",
  imsiGuard,
  msiInit,
  expect .addrLo (fun r => r.pp.msiData.setWidth 32) (-eio),
  expect .addrHi (fun r => (r.pp.msiData >>> 32).setWidth 32) (-eio),
  Act.list ((List.finRange 8).map checkBank),
  atStep "global-route-policy",
  imsiGuard,
  fun r => callback (.globalRoute r.global) r,
  Act.set fun r => { r with receipt.globalPolicyComplete := true },
  atStep "bridge-domain",
  imsiGuard,
  associate]

/-- `struct x1_imsi_request`: whether what must be given is, whether the two policies are, and
what admission finds on its devices. -/
structure Request where
  given : Bool := true
  globalRoute : Bool := true
  targetCheck : Bool := true
  found : Found

def requirePolicy (q : Request) : ImsiAct := fun r =>
  if !q.globalRoute || !q.targetCheck then
    pure ({ r with receipt.step := "platform-policy-unresolved" }, -eopnotsupp)
  else pure (r, 0)

/-- `x1_imsi_prepare` from the allocation to its `terminal` label. -/
def prepareSteps (q : Request) : ImsiAct := Act.list [
  atStep "admission",
  imsiAdmit q.found,
  requirePolicy q,
  atStep "retain-cold-boot-lifetime",
  callback .retain,
  Act.set fun r => { r with receipt.retained := true },
  imsiSetup]

/-! ### Stop -/

/-- What `x1_imsi_stop_retained` asks of the receipt and of `pp`. -/
def stoppable (r : X1Imsi) : Bool :=
  r.receipt.ready && r.receipt.error == 0 && r.receipt.retained && r.receipt.associated &&
    r.receipt.domainReady && r.receipt.targetReserved && r.pp.irqDomain && r.pp.useImsiRx &&
    r.pp.numVectors == 256 && r.receipt.banks == 8 && r.dbiBase

/-- A parent interrupt is there and is still the one `pp` got. -/
def parentKept (r : X1Imsi) (i : Fin 8) : Bool := 0 < r.parents i && r.pp.msiIrq i == r.parents i

def ownsParent (i : Fin 8) : ImsiAct := fun r => do
  if !parentKept r i then return (r, -eperm)
  if (← ask (.handlerOurs i)).ret = 0 then return (r, -eperm)
  return (r, 0)

def disableBank (i : Fin 8) : ImsiAct := Act.list [
  writeChecked (.mask i) U32_MAX, writeChecked (.enable i) 0,
  Act.set fun r => { r with receipt.stop.banksDisabled := r.receipt.stop.banksDisabled + 1 }]

/-- The loop over the parents: an error does not end it. -/
def detachParents : List (Fin 8) → X1Imsi → ℤ → Dialog Call Reply (X1Imsi × ℤ)
  | [], r, ret => pure (r, ret)
  | i :: l, r, ret => do
    let _ ← ask (.disableIrq i)
    let _ ← ask (.clearHandler i)
    if (← ask (.handlerSet i)).ret ≠ 0 then detachParents l r (-eio)
    else
      detachParents l
        { r with receipt.stop.parentsDetached := r.receipt.stop.parentsDetached + 1 } ret

/-- What `x1_imsi_stop_retained` does once it is admitted. -/
def stopAdmitted : ImsiAct := fun r => do
  let r := { r with receipt.stop.attempted := true }
  let (r, ret) ← Act.list ((List.finRange 8).map disableBank) r
  let (r, ret) ← detachParents (List.finRange 8) r ret
  return ({ r with receipt.stop.error := ret, receipt.stop.finished := ret == 0 }, ret)

def stopRetained : ImsiAct := fun r => do
  if r.receipt.stop.attempted then return (r, -ealready)
  if !stoppable r then return (r, -eperm)
  let (_, ret) ← Act.list ((List.finRange 8).map ownsParent) r
  if ret ≠ 0 then return (r, -eperm)
  if (← ask .vectorsFree).ret = 0 then return (r, -eperm)
  stopAdmitted r

/-! ### Release -/

/-- What `x1_imsi_release_stopped` asks of the receipt and of `pp`. -/
def releasable (r : X1Imsi) : Bool :=
  r.receipt.ready && r.receipt.error == 0 && r.receipt.retained && r.receipt.associated &&
    r.receipt.domainReady && r.receipt.targetReserved && r.receipt.stop.attempted &&
    r.receipt.stop.finished && r.receipt.stop.error == 0 && r.receipt.stop.banksDisabled == 8 &&
    r.receipt.stop.parentsDetached == 8 && r.targetGroup && r.targetGroupClosed &&
    r.pp.irqDomain && r.pp.numVectors == 256

/-- A question whose answer must be yes, or no. -/
def demand (q : Call) (yes : Bool) : ImsiAct := fun r => do
  if decide ((← ask q).ret ≠ 0) = yes then return (r, 0)
  return (r, -eperm)

def parentBare (i : Fin 8) : ImsiAct := Act.list [
  demand (.handlerSet i) false, demand (.hasAction i) false]

/-- The questions of `x1_imsi_release_stopped` before its owner check. -/
def releaseQuestions : ImsiAct := Act.list [
  demand .vectorsFree true, demand .bridgeBus false, demand .bridgeRegistered false,
  demand .bridgeDomain true, demand .bridgeMsiDomain true,
  Act.list ((List.finRange 8).map fun i => Act.list [
    test (fun r => parentKept r i) (-eperm), parentBare i])]

/-- What `x1_imsi_release_stopped` does once it is admitted. -/
def releaseAdmitted : ImsiAct := fun r => do
  let _ ← ask (.setMsiDomain false)
  let _ ← ask .freeMsi
  let r := { r with
    receipt.releaseAttempted := true
    receipt.associated := false
    pp.irqDomain := false
    pp.useImsiRx := false
    receipt.domainReady := false
    receipt.ready := false }
  let ret := (← ask .releaseGroup).ret
  -- devres answers with the number of resources it released.
  if ret ≤ 0 then
    let e := if ret < 0 then ret else -enoent
    return ({ r with receipt.releaseError := e }, e)
  return ({ r with
    targetGroup := false
    pp.msiData := 0
    receipt.targetReserved := false
    receipt.released := true }, 0)

def releaseStopped : ImsiAct := fun r => do
  if r.receipt.releaseAttempted then return (r, -ealready)
  if !releasable r then return (r, -eperm)
  let (_, ret) ← releaseQuestions r
  if ret ≠ 0 then return (r, ret)
  let ret := (← ask .checkStopped).ret
  if ret ≠ 0 then return (r, ret)
  releaseAdmitted r

/-! ### Retire -/

/-- What `x1_imsi_retire_context` asks of the receiver. -/
def retirable (r : X1Imsi) : Bool :=
  r.receipt.released && r.receipt.releaseError == 0 && r.receipt.stop.finished &&
    r.receipt.stop.error == 0 && !r.receipt.ready && !r.receipt.associated &&
    !r.receipt.domainReady && !r.receipt.targetReserved && !r.pp.irqDomain && !r.targetGroup

/-- The questions of `x1_imsi_retire_context`, the owner check last. -/
def retireQuestions : ImsiAct := Act.list [
  demand .bridgeBus false, demand .bridgeRegistered false,
  Act.list ((List.finRange 8).map fun i => Act.list [
    test (fun r => 0 < r.parents i) (-eperm), parentBare i]),
  fun r => do return (r, (← ask .checkStopped).ret)]

/-! ### The receivers together -/

/-- All receivers that were allocated, and the active one. -/
structure Sys where
  receivers : List X1Imsi := []
  active : Option ℕ := none

/-- What a call of the interface gives back. -/
structure Result where
  out : Option ℕ := none
  ret : ℤ

def imsiPrepare (q : Request) (s : Sys) : Dialog Call Reply (Sys × Result) := do
  if !q.given then return (s, { ret := -einval })
  if s.active.isSome then return (s, { ret := -ealready })
  if (← ask .alloc).ret = 0 then return (s, { ret := -enomem })
  let (r, ret) ← prepareSteps q { receipt.attempted := true }
  return ({ receivers := s.receivers ++ [{ r with receipt.error := ret }]
            active := some s.receivers.length }, { out := some s.receivers.length, ret })

/-- A call on a receiver; a null pointer is refused. -/
def onReceiver (i : Option ℕ) (s : Sys) (f : ℕ → X1Imsi → Dialog Call Reply (Sys × Result)) :
    Dialog Call Reply (Sys × Result) :=
  match i with
  | none => pure (s, { ret := -einval })
  | some i =>
    match s.receivers[i]? with
    | none => pure (s, { ret := -einval })
    | some r => f i r

def imsiStopRetained (i : Option ℕ) (s : Sys) : Dialog Call Reply (Sys × Result) :=
  onReceiver i s fun i r => do
    let (r, ret) ← stopRetained r
    return ({ s with receivers := s.receivers.set i r }, { ret })

/-- `given` is whether there is a `check_stopped`. -/
def imsiReleaseStopped (i : Option ℕ) (given : Bool) (s : Sys) :
    Dialog Call Reply (Sys × Result) :=
  onReceiver i s fun i r => do
    if !given then return (s, { ret := -einval })
    let (r, ret) ← releaseStopped r
    return ({ s with receivers := s.receivers.set i r }, { ret })

def imsiRetireContext (i : Option ℕ) (given : Bool) (s : Sys) :
    Dialog Call Reply (Sys × Result) :=
  onReceiver i s fun i r => do
    if !given then return (s, { ret := -einval })
    if s.active ≠ some i || !retirable r then return (s, { ret := -eperm })
    let (_, ret) ← retireQuestions r
    if ret ≠ 0 then return (s, { ret })
    return ({ s with active := none }, { ret })

inductive Op where
  | prepare (q : Request)
  | stop (i : Option ℕ)
  | release (i : Option ℕ) (given : Bool)
  | retire (i : Option ℕ) (given : Bool)

def Op.dialog : Op → Sys → Dialog Call Reply (Sys × Result)
  | .prepare q => imsiPrepare q
  | .stop i => imsiStopRetained i
  | .release i given => imsiReleaseStopped i given
  | .retire i given => imsiRetireContext i given

end YogaUsb4.Imsi
