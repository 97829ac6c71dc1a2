import YogaUsb4.Triple
import YogaUsb4.Typec

/-!
Driver code as programs. A program calls providers, whose answers it does not choose, and
around each call the surroundings act as far as the locks the program holds let them. The
code that touches nothing a callback writes is a `BackProg`, which cannot by its type.
-/

namespace YogaUsb4.Driver

open HostState Typec

/-! ### Provider calls -/

/-- The two devices with runtime PM: the router and PCIe0's platform device. -/
inductive Dev
  | router | pci0
  deriving DecidableEq

/-- The interconnect paths the driver votes on. -/
inductive Icc
  | apps | ddr | mem | cfg
  deriving DecidableEq

/-- Calls to providers, registers and the PCI, NVMe and Thunderbolt cores that change
nothing the model keeps: they only succeed or fail, or answer with a value. -/
inductive Check
  | allocate | dmaCheck | firmware | pmEnable | resetState | gccPowerOn
  | startupValidate | startupOwner | startupStep | startupDelay
  | nhiPrepare | nhiInitInterrupts | nhiShutdown | tbProbe | domainReleased
  | pcieAdmission | resetGet | genpdAttach | mapRegisters | getClock | getIcc
  | pcieQuiescent | pcieMask | pcieGate | pcieRootValidate | pcieInspect | pcieDecoder | pcieCfg0
  | emptyDomain | cmOwner | cmTopology | cmPortState | cmApproveSwitch | cmRootEmpty | cmTree
  | ctlIdle | findSwitch | clock | tunnelDeactivate | tunnelRetire | removeRouters
  | windowSurvived | train | inventory | receiverLive | imsiAdmit | imsiSetup
  | memPrepare | scanRootBus | scanIdentity | driverOverride | assignedBars | addDevices
  | driverAttach | driverBound | removeEndpoint | endpointGone | busShape | stopRootBus
  | removeRootBus
  | nvmeOpenSession | nvmeRetireIrqs | nvmeRetireNamespaces | nvmeRetireResources
  | nvmeCloseSession
  | imsiVectors | imsiBank | imsiParent | imsiGroup
  | ctlRequests | ringFlush | nhiStop | nhiDetach | driverUnregister
  | mcuStop | mcuCommand | rxSelect | tcsrRoute | sysForceMem
  | hostLocal
  | lock | sleep | portRecord
  deriving DecidableEq

inductive Call
  | check (c : Check)
  /-- A read of the endpoint's configuration window by the driver itself. -/
  | configRead
  | moduleGet
  | modulePut
  | gccGet
  | gccPut
  | pmResumeAndGet (d : Dev)
  | pmGetNoresume (d : Dev)
  | pmPutSync (d : Dev)
  | pmForbid (d : Dev)
  | pmAllow (d : Dev)
  | iccSetBw (p : Icc) (bw : ℕ)
  | clkBulkEnable
  | clkBulkDisable
  | pci0ClkEnable
  | pci0ClkDisable
  | phyInit
  | phyExit
  | phyPowerOn
  | phyPowerOff
  | resetAssert (i : Fin 11)
  | resetDeassert (i : Fin 11)
  | bulkAssert
  | bulkDeassert
  | bcrAssert
  | bcrDeassert
  | domainAdd
  | domainGet
  | domainPut
  | domainRemove
  deriving DecidableEq

namespace RuntimePm

/-- `pm_runtime_forbid`: a vote, unless one of this kind is already held. -/
def forbid (p : RuntimePm) : RuntimePm :=
  if p.forbidden then p else ⟨p.usage + 1, true⟩

def allow (p : RuntimePm) : RuntimePm :=
  if p.forbidden then ⟨p.usage - 1, false⟩ else p

def get (p : RuntimePm) : RuntimePm := { p with usage := p.usage + 1 }

def put (p : RuntimePm) : RuntimePm := { p with usage := p.usage - 1 }

end RuntimePm

/-- Changes the runtime-PM state of a device. -/
def onPm (d : Dev) (f : RuntimePm → RuntimePm) (hw : Hw) : Hw :=
  match d with
  | .router => { hw with router := f hw.router }
  | .pci0 => { hw with pci0 := f hw.pci0 }

def Call.effect (hw : Hw) : Call → Hw
  | .check _ | .configRead => hw
  | .moduleGet => { hw with moduleRefs := hw.moduleRefs + 1 }
  | .modulePut => { hw with moduleRefs := hw.moduleRefs - 1 }
  | .gccGet => { hw with gccLease := hw.gccLease + 1 }
  | .gccPut => { hw with gccLease := hw.gccLease - 1 }
  | .pmResumeAndGet d => onPm d RuntimePm.get hw
  | .pmGetNoresume d => onPm d RuntimePm.get hw
  | .pmPutSync d => onPm d RuntimePm.put hw
  | .pmForbid d => onPm d RuntimePm.forbid hw
  | .pmAllow d => onPm d RuntimePm.allow hw
  | .iccSetBw .apps bw => { hw with iccApps := bw }
  | .iccSetBw .ddr bw => { hw with iccDdr := bw }
  | .iccSetBw .mem bw => { hw with iccMem := bw }
  | .iccSetBw .cfg bw => { hw with iccCfg := bw }
  | .clkBulkEnable => { hw with routerClocks := hw.routerClocks + 1 }
  | .clkBulkDisable => { hw with routerClocks := hw.routerClocks - 1 }
  | .pci0ClkEnable => { hw with pci0Clocks := hw.pci0Clocks + 1 }
  | .pci0ClkDisable => { hw with pci0Clocks := hw.pci0Clocks - 1 }
  | .phyInit => { hw with phyInit := hw.phyInit + 1 }
  | .phyExit => { hw with phyInit := hw.phyInit - 1 }
  | .phyPowerOn => { hw with phyPower := hw.phyPower + 1 }
  | .phyPowerOff => { hw with phyPower := hw.phyPower - 1 }
  | .resetAssert i => { hw with resets := hw.resets ||| BitVec.twoPow 11 i }
  | .resetDeassert i => { hw with resets := hw.resets &&& ~~~BitVec.twoPow 11 i }
  | .bulkAssert => { hw with resets := BitVec.allOnes 11 }
  | .bulkDeassert => { hw with resets := 0 }
  | .bcrAssert => { hw with tunnelBcr := true }
  | .bcrDeassert => { hw with tunnelBcr := false }
  | .domainAdd => { hw with domainRefs := hw.domainRefs + 1 }
  | .domainGet => { hw with domainRefs := hw.domainRefs + 1 }
  | .domainPut => { hw with domainRefs := hw.domainRefs - 1 }
  | .domainRemove => { hw with domainRefs := hw.domainRefs - 1 }

/-- What a failed call does: nothing, except that the roll-back of a bulk reset call may
leave any of its lines in either state. -/
def Call.failure (hw : Hw) (val : ℕ) : Call → Hw
  | .bulkAssert | .bulkDeassert => { hw with resets := BitVec.ofNat 11 val }
  | _ => hw

/-! ### Systems and steps -/

/-- The answer to one call: an error or none, a value, and what the surroundings do before
the call is answered. -/
structure Answer where
  err : Option Errno := none
  val : ℕ := 0
  acts : List EnvAct := []

/-- The whole system. `env` holds the answers to come; after the last of them every call
succeeds undisturbed. -/
structure Sys where
  front : Front := {}
  back : Back
  env : List Answer := []

/-- What a step is: an act of the surroundings, a provider call with its answer, or an
assignment of the driver's own. -/
inductive Label
  | env (a : EnvAct)
  | call (c : Call) (err : Option Errno)
  | drv

variable (mp : Params)

def Sys.act (a : EnvAct) (s : Sys) : Sys := { s with front := a.perform mp s.back s.front }

/-- Steps of driver code: the surroundings act by their rules. -/
def Legal (s : Sys) : Label → Sys → Prop
  | .env a, t => t = s.act mp a
  | _, _ => True

/-- Steps of driver code that leave alone everything callbacks write. -/
def BackOnly (s : Sys) : Label → Sys → Prop
  | .env a, t => t = s.act mp a
  | _, t => t.front = s.front

lemma BackOnly.legal {mp : Params} (s : Sys) (l : Label) (t : Sys) (h : BackOnly mp s l t) :
    Legal mp s l t := by
  cases l with
  | env a => exact h
  | _ => trivial

abbrev DriverProg := Guarded Sys Label Errno (Legal mp)

/-- Driver code that leaves alone everything callbacks write. -/
abbrev BackProg := Guarded Sys Label Errno (BackOnly mp)

instance : MonadLift (BackProg mp) (DriverProg mp) where
  monadLift m := m.weaken BackOnly.legal

/-! ### Primitive programs -/

/-- The surroundings perform the acts one after the other. -/
def surroundings : List EnvAct → BackProg mp Unit
  | [] => pure ()
  | a :: as => do
    ⟨Prog.step (.env a) (Sys.act mp a), Prog.within_step fun _ => rfl⟩
    surroundings as

/-- The answer the next call will get. -/
def Sys.next (s : Sys) : Answer := s.env.headD {}

def answer (c : Call) (err : Option Errno) (f : Hw → Hw) : BackProg mp Unit :=
  ⟨Prog.step (.call c err) fun s =>
      { s with back := { s.back with hw := f s.back.hw }, env := s.env.tail },
    Prog.within_step fun _ => rfl⟩

def callVal (c : Call) : BackProg mp ℕ := do
  let s ← Guarded.get
  let a := s.next
  surroundings mp a.acts
  match a.err with
  | none => answer mp c none (c.effect ·); pure a.val
  | some e => answer mp c (some e) (c.failure · a.val); throw e

def call (c : Call) : BackProg mp Unit := do
  let _ ← callVal mp c

/-- A provider call that cannot fail. -/
def perform (c : Call) : BackProg mp Unit := do
  let s ← Guarded.get
  surroundings mp s.next.acts
  answer mp c none (c.effect ·)

def assign (f : Back → Back) : BackProg mp Unit :=
  ⟨Prog.step .drv fun s => { s with back := f s.back }, Prog.within_step fun _ => rfl⟩

/-- An assignment to what callbacks write as well. -/
def assignFront (f : Back → Front → Front) : DriverProg mp Unit :=
  ⟨Prog.step .drv fun s => { s with front := f s.back s.front },
    Prog.within_step fun _ => trivial⟩

variable {mp}

/-- Runs `m` and returns its error code instead of raising it. -/
def attempt {R : Sys → Label → Sys → Prop} (m : Guarded Sys Label Errno R Unit) :
    Guarded Sys Label Errno R (Option Errno) :=
  tryCatchThe Errno (do m; pure none) fun e => pure (some e)

/-- Raises `e` unless `c` holds. -/
def require {R : Sys → Label → Sys → Prop} (c : Bool) (e : Errno) :
    Guarded Sys Label Errno R Unit :=
  if c then pure () else throw e

def raise {R : Sys → Label → Sys → Prop} (r : Option Errno) :
    Guarded Sys Label Errno R Unit :=
  match r with
  | none => pure ()
  | some e => throw e

variable (mp)

def getHost : BackProg mp X1Host := do
  return (← Guarded.get).back.host

def assignHost (f : X1Host → X1Host) : BackProg mp Unit :=
  assign mp fun b => { b with host := f b.host }

/-! One assignment for each section of the session: what a section's assignment leaves alone is
then known from its name. -/

def assignPower (f : X1Power → X1Power) : BackProg mp Unit :=
  assignHost mp fun h => { h with power := f h.power }

def assignPowerStop (f : X1PowerStop → X1PowerStop) : BackProg mp Unit :=
  assignHost mp fun h => { h with powerStop := f h.powerStop }

def assignRestore (f : X1Restore → X1Restore) : BackProg mp Unit :=
  assignHost mp fun h => { h with restore := f h.restore }

def assignBatch (f : X1Batch → X1Batch) : BackProg mp Unit :=
  assignHost mp fun h => { h with batch := f h.batch }

def assignTunnel (f : X1Tunnel → X1Tunnel) : BackProg mp Unit :=
  assignHost mp fun h => { h with tunnel := f h.tunnel }

def assignCtl (f : TbCtl → TbCtl) : BackProg mp Unit :=
  assignHost mp fun h => { h with ctl := f h.ctl }

def assignQnhi (f : QcomUsb4Nhi → QcomUsb4Nhi) : BackProg mp Unit :=
  assignHost mp fun h => { h with qnhi := f h.qnhi }

def assignControlRetire (f : QcomUsb4NhiRetire → QcomUsb4NhiRetire) : BackProg mp Unit :=
  assignHost mp fun h => { h with controlRetire := f h.controlRetire }

def assignHostStop (f : QcomUsb4NhiStop → QcomUsb4NhiStop) : BackProg mp Unit :=
  assignHost mp fun h => { h with hostStop := f h.hostStop }

def assignDomain (f : X1DomainRetire → X1DomainRetire) : BackProg mp Unit :=
  assignHost mp fun h => { h with domain := f h.domain }

def assignCm (f : TbCm → TbCm) : BackProg mp Unit :=
  assignHost mp fun h => { h with cm := f h.cm }

def assignCmRetire (f : TbX1CmRetire → TbX1CmRetire) : BackProg mp Unit :=
  assignHost mp fun h => { h with cmRetire := f h.cmRetire }

def assignPcie (f : X1PcieState → X1PcieState) : BackProg mp Unit :=
  assignHost mp fun h => { h with pcie := f h.pcie }

/-! And one for each of the two parts of the PCIe context. -/

def assignBus (f : X1PcieBus → X1PcieBus) : BackProg mp Unit :=
  assign mp fun b =>
    { b with x1Pcie := b.x1Pcie.map fun c => { c with toX1PcieBus := f c.toX1PcieBus } }

def assignHold (f : X1PcieHold → X1PcieHold) : BackProg mp Unit :=
  assign mp fun b =>
    { b with x1Pcie := b.x1Pcie.map fun c => { c with toX1PcieHold := f c.toX1PcieHold } }

/-- Records a teardown effect of the current session. -/
def mark (m : ℕ → Mark) : BackProg mp Unit :=
  assign mp fun b => { b with history := b.history ++ [m b.host.generation] }

/-- Takes or drops the session's Type-C lock. What waits for it can act before it is taken. -/
def lockHost : BackProg mp Unit := do
  perform mp (.check .lock)
  assign mp fun b => { b with hostLocked := true }

def unlockHost : BackProg mp Unit :=
  assign mp fun b => { b with hostLocked := false }

end YogaUsb4.Driver
