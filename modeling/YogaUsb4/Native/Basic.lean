import YogaUsb4.Native.Bridge
import YogaUsb4.Steps

/-!
The native owner of the connection manager. Two locks order everything: `native_lock`, which the
owner's own calls have from their first statement to their last, and `tb->lock`, which they take
inside it and the domain's workers and users take alone. So there are at most two operations under
way, each at a statement of its own, and a state says where they are; one who waits for a lock is
not in it. The statements fall between one another in any order.

`history` has the latest mark first.
-/

namespace YogaUsb4.Native

/-! ### Policy -/

/-- `x1_native_route_allowed`. -/
def routeAllowed (route : BitVec 64) : ℤ := if route = 0 ∨ route = 2 then 0 else -eperm

/-- `x1_native_header_allowed`, of the first two words of the header. -/
def headerAllowed (route : BitVec 64) (h0 h1 : BitVec 32) : ℤ :=
  if routeAllowed route ≠ 0 then -eperm
  else if route = 0 then
    if h0 = 0x093805c6 ∧ h1 &&& 0xfffff = 0x1c11c then 0 else -enodev
  else if h0 = 0x113b059f ∧ h1 &&& 0xfffff = 0x14120 then 0 else -enodev

/-- `x1_native_uid_allowed`. `lacie` is `X1_NATIVE_LACIE_UID`, 0 unless a build sets it. -/
def uidAllowed (lacie : BitVec 64) (route uid : BitVec 64) : ℤ :=
  if lacie ≠ 0 ∧ route = 2 ∧ uid = lacie then 0 else -enodev

/-- `x1_native_connect_word_allowed`. -/
def connectWordAllowed (word : BitVec 32) : ℤ := if word = 0x2501 ∨ word = 0x2701 then 0 else -eperm

/-- `x1_native_rescan_allowed`. -/
def rescanAllowed (used preconfig : Bool) (error : ℤ) : Bool :=
  !used && preconfig && (error = -etimedout || error = -enotconn || error = -eagain)

/-! ### The owner and its domain -/

/-- `struct x1_native`, as far as it is read. -/
structure Owner where
  tb : Bool := false
  connect : Bool := false
  live : Bool := false
  attempted : Bool := false
  stopped : Bool := false
  allowPcie : Bool := false
  scanResults : BitVec 32 := 0
  scanError : ℤ := 0
  scanPreconfig : Bool := false
  deriving DecidableEq

/-- A result of the scan that is not to be overwritten. -/
def Owner.refused (o : Owner) : Bool := o.scanResults != 0 && o.scanError != 0 && !o.scanPreconfig

/-- What is read of a `struct tb_switch`; `pcieUp` says that it has a PCIe upstream adapter. -/
structure Router where
  route : BitVec 64 := 2
  uid : BitVec 64 := 0
  unplugged : Bool := false
  linkUsb4 : Bool := true
  pcieUp : Bool := true
  authorized : Bool := false
  deriving DecidableEq

/-- `enum tb_tunnel_type`. -/
inductive TunnelType
  | pci | dp | dma | usb3
  deriving DecidableEq

/-- What happened. -/
inductive Mark
  /-- `valid` is asked whether the port still is as it was. -/
  | valid (b : Bool)
  /-- The command to the MCU. -/
  | command (word : BitVec 32)
  /-- One turn of the loop that waits for the router. -/
  | poll
  | rescan
  /-- A scan's result is recorded that is not to be overwritten. -/
  | refused (error : ℤ)
  /-- The loop ends with the router. -/
  | enumerated (r : Router)
  | pcieStart (ret : ℤ)
  | tunnel (type : TunnelType) (r : Router)
  /-- The router is authorized. -/
  | approved (r : Router)
  | pcieTrain (ret : ℤ)
  /-- Requests beyond the root port are let through. -/
  | opened
  /-- The scan has found the devices, and the endpoint is admitted. -/
  | validated (devices : List PciDev) (endpoint : Option PciDev)
  /-- A request beyond the root port. -/
  | below
  /-- The storage driver takes the device. -/
  | nvme (d : PciDev)
  | returned (ret : ℤ)
  | stopped
  /-- `tb_ctl_stop`. -/
  | ctlStop
  deriving DecidableEq

/-- Where `tb_scan_port` is. -/
inductive ScanAt
  | wait | remote | alloc | configure | add
  /-- It calls `x1_native_scan_result`. -/
  | report (error : ℤ) (preconfig : Bool)
  /-- The call has seen that the result counts. -/
  | record (error : ℤ) (preconfig : Bool)
  | done
  deriving DecidableEq

/-- A `tb_scan_port` and the port it is about. -/
structure Scan where
  route : BitVec 64
  port : BitVec 32
  pt : ScanAt := .wait
  deriving DecidableEq

/-- Where `x1_native_start` is. -/
inductive StartAt
  | claim | check | prepare | interrupts | probe
  | addLock | adding | scanning (k : Scan) | addUnlock (ret : ℤ)
  | publish
  | leave (ret : ℤ)
  deriving DecidableEq

/-- `deadline` and `rescanned`. -/
structure Poll where
  deadline : ℕ
  rescanned : Bool := false
  deriving DecidableEq

/-- Where `x1_native_connect` is, and `x1_native_prepare_storage` in it. -/
inductive ConnectAt
  | claim | validFirst | command | arm
  | pollValid (p : Poll)
  | tryLock (p : Poll)
  | look (p : Poll)
  | rescanValid (p : Poll)
  | rescan (p : Poll)
  | rescanning (p : Poll) (k : Scan)
  | unlock (p : Poll)
  /-- The loop is left with a result. -/
  | unlockBreak (ret : ℤ)
  | sleep (p : Poll)
  | asleep (p : Poll) (wake : ℕ)
  | startValid | start
  | approveLock | approveLook
  | allow (r : Router)
  | approve (r : Router)
  | tunnel (r : Router)
  | disallow (r : Router) (ret : ℤ)
  | approveUnlock (ret : ℤ)
  | trainValid | train
  | scanValid | scanOpen | scanFinish | endValid
  | leave (ret : ℤ)
  deriving DecidableEq

/-- Where `x1_native_stop` is. -/
inductive StopAt
  | claim | unlive | ctlLock | ctlStop | ctlUnlock | leave
  deriving DecidableEq

/-- Who has `native_lock`. -/
inductive NativeAt
  | free
  | start (pt : StartAt)
  | connect (word : BitVec 32) (pt : ConnectAt)
  | stop (pt : StopAt)
  deriving DecidableEq

/-- Who has `tb->lock`: nobody, the call that has `native_lock`, a worker of the domain, or
`tb_switch_set_authorized` for the router at a route. -/
inductive DomainAt
  | free
  | native
  | worker
  | workerScan (k : Scan)
  | user (route : BitVec 64) (val : ℕ) (key : Bool)
  deriving DecidableEq

structure Sys where
  owner : Option Owner := none
  storage : Storage := {}
  routers : List Router := []
  now : ℕ := 0
  native : NativeAt := .free
  domain : DomainAt := .free
  history : List Mark := []
  deriving DecidableEq

@[simp] def Sys.mark (s : Sys) (m : Mark) : Sys := { s with history := m :: s.history }

/-- What a worker does with the lock. -/
inductive Job
  | leave
  | scan (route : BitVec 64) (port : BitVec 32)
  /-- `tb_sw_set_unplugged`. -/
  | setUnplugged (route : BitVec 64)
  | remove (route : BitVec 64)
  /-- A tunnel of its own, or one that it discovers. -/
  | tunnel (type : TunnelType) (r : Router)

/-- What the code does not decide: what it is told by those it calls. Each statement reads its
own part of it. -/
structure Found where
  valid : Bool := true
  ok : Bool := true
  ret : ℤ := 0
  /-- `tb_switch_alloc`: the upstream port, the five words, the identity, and what follows. -/
  upstream : ℤ := 0
  config : ℤ := 0
  h0 : BitVec 32 := 0
  h1 : BitVec 32 := 0
  uidRead : ℤ := 0
  uid0 : BitVec 32 := 0
  uid1 : BitVec 32 := 0
  /-- The router as `tb_switch_add` leaves it. -/
  router : Router := {}
  /-- `tb_domain_approve_switch` and `tb_tunnel_pci`. -/
  parent : Bool := true
  down : Bool := true
  memory : Bool := true
  activate : ℤ := 0
  start : StartFound := {}
  windows : ℤ := 0
  devices : List PciDev := []
  job : Job := .leave

/-! ### The guards of the domain -/

/-- `x1_native_pcie_authorizing`. -/
def Sys.authorizing (s : Sys) : Bool :=
  match s.owner with
  | none => false
  | some o => o.tb && o.live && !o.stopped && o.allowPcie

/-- `x1_native_guard_router`. -/
def guardRouter (lacie route : BitVec 64) (c : Found) : ℤ :=
  let ret := headerAllowed route c.h0 c.h1
  if ret ≠ 0 ∨ route = 0 then ret
  else if c.uidRead ≠ 0 then c.uidRead
  else uidAllowed lacie route (c.uid1 ++ c.uid0)

/-- `tb_switch_alloc`. -/
def switchAlloc (lacie route : BitVec 64) (c : Found) : ℤ :=
  if routeAllowed route ≠ 0 then -eperm
  else if c.upstream < 0 then c.upstream
  else if !c.memory then -enomem
  else if c.config ≠ 0 then c.config
  else if guardRouter lacie route c ≠ 0 then guardRouter lacie route c
  else c.ret

/-- The first part of `tb_domain_approve_switch`. -/
def Sys.approveSwitch (s : Sys) (c : Found) : ℤ :=
  if !s.authorizing then -eopnotsupp
  else if !c.parent then -einval
  else 0

/-- The test of `tb_tunnel_alloc`. -/
def Sys.tunnelAlloc (s : Sys) (type : TunnelType) (c : Found) : Bool :=
  !(type ≠ .pci || !s.authorizing) && c.memory

/-- `tb_tunnel_pci`. -/
def Sys.tunnelPci (s : Sys) (r : Router) (c : Found) : Sys × ℤ :=
  if !r.pcieUp || !c.down then (s, 0)
  else if !s.tunnelAlloc .pci c then (s, -enomem)
  else if c.activate ≠ 0 then (s, -eio)
  else (s.mark (.tunnel .pci r), 0)

def Sys.setAuthorized (s : Sys) (route : BitVec 64) (b : Bool) : Sys :=
  { s with
    routers := s.routers.map fun r => if r.route = route then { r with authorized := b } else r }

/-- `tb_switch_find_by_route`. -/
def Sys.findByRoute (s : Sys) (route : BitVec 64) : Option Router :=
  s.routers.find? (·.route = route)

/-! ### The scan of a port -/

/-- Whether `x1_native_scan_result` counts the result. -/
def Sys.counts (s : Sys) (k : Scan) : Bool :=
  match s.owner with
  | none => false
  | some o => o.tb && o.live && o.attempted && !o.stopped && k.route == 2 && k.port == 2

/-- The stores of `x1_native_scan_result`. -/
def Owner.scanResult (o : Owner) (error : ℤ) (preconfig : Bool) : Owner :=
  if o.refused then o
  else
    { o with
      scanResults := o.scanResults + 1
      scanError := error
      scanPreconfig := preconfig }

def Sys.scanResult (s : Sys) (error : ℤ) (preconfig : Bool) : Sys :=
  match s.owner with
  | none => s
  | some o =>
    let o' := o.scanResult error preconfig
    let s' := { s with owner := some o' }
    -- a mark for the result that makes a refusal of what was none
    if !o.refused && o'.refused then s'.mark (.refused error) else s'

/-- `tb_scan_port`: where it goes, and what it leaves. -/
def Sys.scanPort (lacie : BitVec 64) (s : Sys) (k : Scan) (c : Found) : Sys × ScanAt :=
  match k.pt with
  | .wait =>
    if c.ret ≤ 0 then
      (s, .report (if c.ret = 0 then -eagain else c.ret)
        (c.ret = 0 || c.ret = -etimedout || c.ret = -enotconn))
    else (s, .remote)
  | .remote => (s, if (s.findByRoute k.route).isSome then .done else .alloc)
  | .alloc =>
    let ret := switchAlloc lacie k.route c
    if ret ≠ 0 then (s, .report ret (ret = -etimedout || ret = -enotconn)) else (s, .configure)
  | .configure => if c.ret ≠ 0 then (s, .report c.ret false) else (s, .add)
  | .add =>
    if c.ret ≠ 0 then (s, .report c.ret false)
    else
      -- only the root router is authorized from the start
      let r := { c.router with route := k.route, authorized := k.route == 0 }
      ({ s with routers := s.routers ++ [r] }, .report 0 false)
  | .report e p => (s, if s.counts k then .record e p else .done)
  | .record e p => (s.scanResult e p, .done)
  | .done => (s, .done)

/-- What a worker does to the routers and tunnels of the domain. -/
def Sys.work (s : Sys) (c : Found) : Job → Sys
  | .leave | .scan _ _ => s
  | .setUnplugged route =>
    { s with
      routers := s.routers.map fun r =>
        if r.route = route then { r with unplugged := true } else r }
  | .remove route => { s with routers := s.routers.filter (·.route ≠ route) }
  | .tunnel type r => if s.tunnelAlloc type c then s.mark (.tunnel type r) else s

/-! ### The owner's calls -/

/-- The stores to the owner; there is one from `x1_native_start` on. -/
def Sys.setOwner (s : Sys) (f : Owner → Owner) : Sys := { s with owner := s.owner.map f }

def Sys.atStart (s : Sys) (pt : StartAt) : Sys := { s with native := .start pt }
def Sys.atConnect (s : Sys) (word : BitVec 32) (pt : ConnectAt) : Sys :=
  { s with native := .connect word pt }
def Sys.atStop (s : Sys) (pt : StopAt) : Sys := { s with native := .stop pt }

/-- `mutex_unlock(&n->tb->lock)`. -/
def Sys.unlockTb (s : Sys) : Sys := { s with domain := .free }

/-- `mutex_lock(&n->tb->lock)`: nobody goes on who does not get it. -/
def Sys.lockTb (s : Sys) : Option Sys :=
  if s.domain = .free then some { s with domain := .native } else none

/-- `x1_native_start`, after the checks without the lock. -/
def Sys.startStep (lacie : BitVec 64) (s : Sys) (c : Found) : StartAt → Option Sys
  | .claim =>
    if s.owner.isSome then s.atStart (.leave (-ealready))
    else if !c.ok then s.atStart (.leave (-enomem))
    else { s with owner := some {} }.atStart .check
  | .check => if c.ret ≠ 0 then s.atStart (.leave c.ret) else s.atStart .prepare
  | .prepare => if c.ret ≠ 0 then s.atStart (.leave c.ret) else s.atStart .interrupts
  | .interrupts => if c.ret ≠ 0 then s.atStart (.leave c.ret) else s.atStart .probe
  | .probe =>
    if !c.ok then s.atStart (.leave (-enomem))
    else (s.setOwner fun o => { o with tb := true }).atStart .addLock
  | .addLock => s.lockTb.map (·.atStart .adding)
  | .adding =>
    match c.job with
    | .leave => s.atStart (.addUnlock c.ret)
    -- `tb_start` allocates the root router itself
    | .scan route port =>
      s.atStart (.scanning { route, port, pt := if route = 0 then .alloc else .wait })
    | job => (s.work c job).atStart .adding
  | .scanning k =>
    match s.scanPort lacie k c with
    | (s, .done) => s.atStart .adding
    | (s, pt) => s.atStart (.scanning { k with pt })
  | .addUnlock ret => s.unlockTb.atStart (if ret ≠ 0 then .leave ret else .publish)
  | .publish => (s.setOwner fun o => { o with live := true }).atStart (.leave 0)
  | .leave _ => some { s with native := .free }

/-- `x1_native_register_connect`; `given` says that both arguments are there. -/
def Owner.register (o : Owner) (given : Bool) : Owner :=
  if !o.live || o.stopped || o.connect || !given then o else { o with connect := true }

/-- What the loop makes of the router that it finds. -/
def Router.enumerate (lacie : BitVec 64) (r : Router) : ℤ :=
  if uidAllowed lacie 2 r.uid ≠ 0 then uidAllowed lacie 2 r.uid
  else if r.unplugged || !r.linkUsb4 || !r.pcieUp then -enodev
  else 0

/-- One look of the loop, under the domain's lock. -/
def Sys.look (lacie : BitVec 64) (s : Sys) (word : BitVec 32) (p : Poll) (o : Owner) : Sys :=
  if o.refused then s.atConnect word (.unlockBreak o.scanError)
  else
    match s.findByRoute 2 with
    | some r =>
      if r.enumerate lacie ≠ 0 then s.atConnect word (.unlockBreak (r.enumerate lacie))
      else (s.mark (.enumerated r)).atConnect word (.unlockBreak 0)
    | none =>
      -- the source tests it again; the lock has not been given up
      if o.refused then s.atConnect word (.unlockBreak o.scanError)
      else if rescanAllowed p.rescanned o.scanPreconfig o.scanError ∧
          s.now + 8000 < p.deadline then
        s.atConnect word (.rescanValid { p with rescanned := true })
      else s.atConnect word (.unlock p)

def Router.approvable (lacie : BitVec 64) (r : Router) (valid : Bool) : ℤ :=
  if uidAllowed lacie 2 r.uid ≠ 0 then uidAllowed lacie 2 r.uid
  else if !valid || r.unplugged || !r.linkUsb4 || r.authorized || !r.pcieUp then -enodev
  else 0

/-- `valid` is asked, and the call ends if the port has changed. -/
def Sys.askValid (s : Sys) (word : BitVec 32) (c : Found) (pt : ConnectAt) : Sys :=
  (s.mark (.valid c.valid)).atConnect word (if c.valid then pt else .leave (-enotconn))

/-- `x1_native_connect` with the lock. -/
def Sys.connectStep (lacie : BitVec 64) (s : Sys) (word : BitVec 32) (c : Found) :
    ConnectAt → Option Sys
  | .claim =>
    match s.owner with
    | none => s.atConnect word (.leave (-eperm))
    | some o =>
      if !o.live || o.stopped || o.attempted || !o.connect then s.atConnect word (.leave (-eperm))
      else (s.setOwner fun o => { o with attempted := true }).atConnect word .validFirst
  | .validFirst => s.askValid word c .command
  | .command =>
    (s.mark (.command word)).atConnect word (if c.ret ≠ 0 then .leave c.ret else .arm)
  | .arm => s.atConnect word (.pollValid { deadline := s.now + 20000 })
  | .pollValid p => s.askValid word c (.tryLock p)
  | .tryLock p =>
    match (s.mark .poll).lockTb with
    | some s => s.atConnect word (.look p)
    | none => (s.mark .poll).atConnect word (.sleep p)
  | .look p => s.owner.map (s.look lacie word p)
  | .rescanValid p =>
    (s.mark (.valid c.valid)).atConnect word
      (if c.valid then .rescan p else .unlockBreak (-enotconn))
  | .rescan p =>
    (s.mark .rescan).atConnect word
      (if c.ok then .rescanning p { route := 2, port := 2 } else .unlockBreak (-eperm))
  | .rescanning p k =>
    match s.scanPort lacie k c with
    | (s, .done) => s.atConnect word (.unlock p)
    | (s, pt) => s.atConnect word (.rescanning p { k with pt })
  | .unlock p => s.unlockTb.atConnect word (.sleep p)
  | .unlockBreak ret => s.unlockTb.atConnect word (if ret ≠ 0 then .leave ret else .startValid)
  | .sleep p => s.atConnect word (.asleep p (s.now + 20))
  | .asleep p wake =>
    if s.now < wake then none
    else s.atConnect word (if s.now < p.deadline then .pollValid p else .leave (-etimedout))
  | .startValid => s.askValid word c .start
  | .start =>
    let (storage, ret) := s.storage.pcieStart c.start
    ({ s with storage }.mark (.pcieStart ret)).atConnect word
      (if ret ≠ 0 then .leave ret else .approveLock)
  | .approveLock => s.lockTb.map (·.atConnect word .approveLook)
  | .approveLook =>
    match s.findByRoute 2 with
    | none => s.atConnect word (.approveUnlock (-enodev))
    | some r =>
      -- `valid` is asked only for the router with the right identity
      let s := if uidAllowed lacie 2 r.uid = 0 then s.mark (.valid c.valid) else s
      let ret := r.approvable lacie c.valid
      s.atConnect word (if ret ≠ 0 then .approveUnlock ret else .allow r)
  | .allow r => (s.setOwner fun o => { o with allowPcie := true }).atConnect word (.approve r)
  | .approve r =>
    let ret := s.approveSwitch c
    s.atConnect word (if ret ≠ 0 then .disallow r ret else .tunnel r)
  | .tunnel r =>
    let (s, ret) := s.tunnelPci r c
    s.atConnect word (.disallow r ret)
  | .disallow r ret =>
    let s := s.setOwner fun o => { o with allowPcie := false }
    (if ret = 0 then (s.setAuthorized 2 true).mark (.approved r) else s).atConnect word
      (.approveUnlock ret)
  | .approveUnlock ret => s.unlockTb.atConnect word (if ret ≠ 0 then .leave ret else .trainValid)
  | .trainValid => s.askValid word c .train
  | .train =>
    let (storage, ret) := s.storage.pcieTrain c.ret c.windows
    ({ s with storage }.mark (.pcieTrain ret)).atConnect word
      (if ret ≠ 0 then .leave ret else .scanValid)
  | .scanValid => s.askValid word c .scanOpen
  | .scanOpen =>
    match s.storage.scanOpen with
    | none => s.atConnect word (.leave (-eperm))
    | some storage => ({ s with storage }.mark .opened).atConnect word .scanFinish
  | .scanFinish =>
    let (storage, ret) := s.storage.scanFinish c.devices
    let s := { s with storage }
    if ret ≠ 0 then s.atConnect word (.leave ret)
    else
      (s.mark (.validated c.devices (storage.owner.bind (·.endpoint)))).atConnect word .endValid
  | .endValid => s.askValid word c (.leave 0)
  | .leave ret => some ({ s with native := .free }.mark (.returned ret))

/-- `x1_native_stop` with the lock. -/
def Sys.stopStep (s : Sys) : StopAt → Option Sys
  | .claim =>
    match s.owner with
    | none => s.atStop .leave
    | some o =>
      if o.stopped then s.atStop .leave
      else ((s.setOwner fun o => { o with stopped := true }).mark .stopped).atStop .unlive
  | .unlive =>
    (s.setOwner fun o => { o with live := false }).atStop
      (if (s.owner.map (·.tb)).getD false then .ctlLock else .leave)
  | .ctlLock => s.lockTb.map (·.atStop .ctlStop)
  | .ctlStop => (s.mark .ctlStop).atStop .ctlUnlock
  | .ctlUnlock => s.unlockTb.atStop .leave
  | .leave => some { s with native := .free }

/-- The next statement of the call that has `native_lock`. -/
def Sys.nativeStep (lacie : BitVec 64) (s : Sys) (c : Found) : Option Sys :=
  match s.native with
  | .free => none
  | .start pt => s.startStep lacie c pt
  | .connect word pt => s.connectStep lacie word c pt
  | .stop pt => s.stopStep pt

/-! ### The domain's workers and users -/

/-- The next statement of a worker, or of `tb_switch_set_authorized`. -/
def Sys.domainStep (lacie : BitVec 64) (s : Sys) (c : Found) : Option Sys :=
  match s.domain with
  | .free | .native => none
  | .worker =>
    match c.job with
    | .leave => some s.unlockTb
    | .scan route port => some { s with domain := .workerScan { route, port } }
    | job => some (s.work c job)
  | .workerScan k =>
    match s.scanPort lacie k c with
    | (s, .done) => some { s with domain := .worker }
    | (s, pt) => some { s with domain := .workerScan { k with pt } }
  | .user route val key =>
    match s.findByRoute route with
    | none => some s.unlockTb
    | some r =>
      if r.authorized == (val != 0) then some s.unlockTb
      else if val = 0 then
        if route ≠ 0 ∧ c.ret = 0 then some (s.setAuthorized route false).unlockTb
        else some s.unlockTb
      else if val = 1 then
        -- with a key it is `tb_domain_approve_switch_key`, which refuses
        if key || s.approveSwitch c ≠ 0 then some s.unlockTb
        else
          let (s, ret) := s.tunnelPci r c
          some (if ret = 0 then ((s.setAuthorized route true).mark (.approved r)).unlockTb
            else s.unlockTb)
      else some s.unlockTb

/-! ### Runs -/

/-- What may happen. A call that needs a lock begins when the lock is free. -/
inductive Act
  | start
  | register (given : Bool)
  | connect (word : BitVec 32)
  | stop
  | native (c : Found)
  | worker
  | user (route : BitVec 64) (val : ℕ) (key : Bool)
  | domain (c : Found)
  | tick (ms : ℕ)
  /-- The storage driver's probe of a device. -/
  | nvme (d : PciDev)
  /-- A configuration request. -/
  | config (bus devfn : ℕ) (pos : ℤ)

def Sys.enter (s : Sys) (at_ : NativeAt) : Sys :=
  if s.native = .free then { s with native := at_ } else s

def Sys.enterDomain (s : Sys) (at_ : DomainAt) : Sys :=
  if s.domain = .free ∧ (s.owner.map (·.tb)).getD false then { s with domain := at_ } else s

def step (lacie : BitVec 64) (s : Sys) : Act → Sys
  | .start => s.enter (.start .claim)
  | .register given => if s.native = .free then s.setOwner (·.register given) else s
  | .connect word => if connectWordAllowed word ≠ 0 then s else s.enter (.connect word .claim)
  | .stop => s.enter (.stop .claim)
  | .native c => (s.nativeStep lacie c).getD s
  | .worker => s.enterDomain .worker
  | .user route val key => s.enterDomain (.user route val key)
  | .domain c => (s.domainStep lacie c).getD s
  | .tick ms => { s with now := s.now + ms }
  | .nvme d => if s.storage.nvmeAllowed d then s.mark (.nvme d) else s
  | .config bus devfn pos =>
    if s.storage.ecamMap bus devfn pos ∧ bus ≠ 0 then s.mark .below else s

def run (lacie : BitVec 64) (as : List Act) : Sys := Steps.run (step lacie) {} as

end YogaUsb4.Native
