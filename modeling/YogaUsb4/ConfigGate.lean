import YogaUsb4.Dialog
import YogaUsb4.Registers
import YogaUsb4.RootIdentity
import YogaUsb4.Steps

/-!
The gate in front of the configuration spaces of PCI0. PCI core reaches the root port and the
endpoint only through two callbacks; each of them first looks at the host, and a write is let
through only if it leaves every control word that it touches as the phase of the context demands.
The first access that is refused or fails is recorded, and it is the last one that reaches anything.
-/

namespace YogaUsb4.ConfigGate

open Dialog Registers Steps
open Wire (Byte)
open RootIdentity (Image RootState Chain HasCap Records rootIdentity rootIdentity_records
  capId idPm idMsi idExp idMsix)

/-! ### The callbacks -/

/-- The windows `ctx->root` and `ctx->config`. -/
inductive Device
  | root | endpoint
  deriving DecidableEq

/-- An access to a register of the host, or to one of the two configuration spaces. -/
inductive Call
  | router (offset : ℕ)
  | read (d : Device) (offset size : ℕ)
  | write (d : Device) (offset size : ℕ) (value : BitVec 32)
  deriving DecidableEq

abbrev Io := Dialog Call (BitVec 32)

def readl (d : Device) (offset : ℕ) : Io (BitVec 32) := ask (.read d offset 4)

def readw (d : Device) (offset : ℕ) : Io (BitVec 16) := do
  let r ← ask (.read d offset 2)
  return r.setWidth 16

/-- The numbers of `pci_regs.h`. -/
def PCI_VENDOR_ID : ℕ := 0x00
def PCI_COMMAND : ℕ := 0x04
def PCI_CLASS_REVISION : ℕ := 0x08
def PCI_BASE_ADDRESS_0 : ℕ := 0x10
def PCI_PRIMARY_BUS : ℕ := 0x18
def PCI_BRIDGE_CONTROL : ℕ := 0x3e
def PCI_EXP_DEVCTL : ℕ := 0x08
def PCI_EXP_LNKCTL : ℕ := 0x10
def PCI_PM_CTRL : ℕ := 0x04
def PCI_MSI_FLAGS : ℕ := 0x02
def PCI_MSIX_FLAGS : ℕ := 0x02

def PCI_COMMAND_IO : BitVec 16 := 0x0001
def PCI_COMMAND_MEMORY : BitVec 16 := 0x0002
def PCI_COMMAND_MASTER : BitVec 16 := 0x0004
def PCI_BRIDGE_CTL_BUS_RESET : BitVec 16 := 0x0040
def PCI_EXP_DEVCTL_BCR_FLR : BitVec 16 := 0x8000
def PCI_EXP_LNKCTL_LD : BitVec 16 := 0x0010
def PCI_EXP_LNKCTL_RL : BitVec 16 := 0x0020
def PCI_PM_CTRL_STATE_MASK : BitVec 16 := 0x0003
def PCI_MSI_FLAGS_ENABLE : BitVec 16 := 0x0001
def PCI_MSIX_FLAGS_ENABLE : BitVec 16 := 0x8000

/-- `PCIBIOS_*`. -/
def PCIBIOS_SUCCESSFUL : ℤ := 0x00
def PCIBIOS_DEVICE_NOT_FOUND : ℤ := 0x86
def PCIBIOS_BAD_REGISTER_NUMBER : ℤ := 0x87
def PCIBIOS_SET_FAILED : ℤ := 0x88

/-- What the callbacks look at and other code may change at any time. -/
structure Host where
  /-- `ctx == x1_pcie`. -/
  current : Bool := true
  bridge : Bool := true
  /-- `ctx->bridge->bus`. -/
  bridgeBus : Option ℕ := none
  nvmeRequested : Bool := true
  receiverRetained : Bool := true
  receiverReady : Bool := true
  /-- `ctx->training`, and its `complete`. -/
  training : Option Bool := some true
  error : ℤ := 0
  hostError : ℤ := 0
  /-- `ctx->pdev->dev.driver == &x1_pcie_driver.driver`. -/
  driverBound : Bool := true

/-- The fields of `struct x1_pcie_inventory` that say where the endpoint's capabilities are. -/
structure Inventory where
  identity : BitVec 32 := 0
  pcieOffset : ℕ := 0
  msiOffset : ℕ := 0
  msixOffset : ℕ := 0
  /-- `standard_ids` and `standard_offsets`, up to `standard_count`. -/
  standard : List (ℕ × ℕ) := []

/-- `cfg_error` and what is recorded with it. -/
structure Receipt where
  error : ℤ := 0
  offset : ℕ := 0
  value : BitVec 32 := 0
  bus : ℕ := 0
  size : ℕ := 0
  write : Bool := false
  deriving DecidableEq

/-- `struct x1_pcie_context` with its `state`, as far as the gate uses it. -/
structure Context extends Host where
  identified : RootState := {}
  inventory : Inventory := {}
  endpointPm : ℕ := 0
  configOpen : Bool := false
  scanWrites : Bool := false
  bindWrites : Bool := false
  pulled : Bool := false
  cfg : Receipt := {}

structure Bus where
  id : ℕ
  /-- `bus->sysdata` is this context. -/
  ours : Bool := true
  domain : ℕ := 0
  number : ℕ := 0
  parent : Option ℕ := none

/-- What `x1_pcie_host_local` asks before it touches a register. -/
def Context.admits (ctx : Context) : Bool :=
  ctx.current && ctx.nvmeRequested && ctx.receiverRetained && ctx.receiverReady &&
    ctx.training == some true && ctx.error == 0 && ctx.hostError == 0 && ctx.cfg.error == 0 &&
    ctx.driverBound

/-- The bits of the command word that may not be set. -/
def Context.quiet (ctx : Context) : BitVec 16 :=
  PCI_COMMAND_IO ||| if ctx.bindWrites then 0 else PCI_COMMAND_MEMORY ||| PCI_COMMAND_MASTER

/-- `x1_pcie_host_local`. -/
def hostLocal (ctx : Context) : Io ℤ := do
  if ctx.admits = false then return -eperm
  let gate ← ask (.router 0x82000)
  if gate ≠ 0 then return -enodev
  let id ← readl .root PCI_VENDOR_ID
  if id ≠ 0x011117cb then return -enodev
  let id ← readl .endpoint PCI_VENDOR_ID
  if id ≠ ctx.inventory.identity then return -enodev
  let command ← readw .root PCI_COMMAND
  if command = 0xffff ∨ command &&& ctx.quiet ≠ 0 then return -ebusy
  let command ← readw .endpoint PCI_COMMAND
  if command = 0xffff ∨ command &&& ctx.quiet ≠ 0 then return -ebusy
  return 0

/-- `x1_pcie_config_base`. -/
def configBase (ctx : Context) (bus : Bus) (devfn : ℕ) : Option Device :=
  if !bus.ours || !ctx.current || !ctx.bridge || !ctx.configOpen || bus.domain != 0 ||
      devfn != 0 || ctx.bridgeBus.isNone then none
  else if some bus.id = ctx.bridgeBus ∧ bus.number = 0 ∧ bus.parent = none then some .root
  else if bus.number = 1 ∧ bus.parent = ctx.bridgeBus then some .endpoint
  else none

/-- `x1_pcie_config_word`, when the word was read as `word`. -/
def configWord (word : BitVec 16) (st : Store) (offset : ℕ) : BitVec 16 := overlay word offset 2 st

/-- `x1_pcie_config_touches`. -/
def touches (st : Store) (word : ℕ) : Bool := st.pos < word + 2 && word < st.pos + st.size

/-- One of the tests of `x1_pcie_config_write_allowed`: a word that is touched may not be left with
a bit of the mask. -/
def keepClear (d : Device) (st : Store) (word : ℕ) (mask : BitVec 16) :
    Act Call (BitVec 32) Unit := fun _ => do
  if touches st word = false then return ((), 0)
  let old ← readw d word
  return ((), if configWord old st word &&& mask ≠ 0 then -eperm else 0)

/-- The words that are tested, in the order of `x1_pcie_config_write_allowed`. -/
def controls (ctx : Context) (d : Device) : List (ℕ × BitVec 16) :=
  let root := d == .root
  let pcie := if root then ctx.identified.pcieCap else ctx.inventory.pcieOffset
  let msi := if root then ctx.identified.rootMsi else ctx.inventory.msiOffset
  let msix := if root then ctx.identified.rootMsix else ctx.inventory.msixOffset
  let pm := if root then ctx.identified.rootPm else ctx.endpointPm
  [(PCI_COMMAND, ctx.quiet)] ++
    (if root then [(PCI_BRIDGE_CONTROL, PCI_BRIDGE_CTL_BUS_RESET)] else []) ++
    [(pcie + PCI_EXP_DEVCTL, PCI_EXP_DEVCTL_BCR_FLR),
      (pcie + PCI_EXP_LNKCTL, PCI_EXP_LNKCTL_RL ||| PCI_EXP_LNKCTL_LD)] ++
    (if pm ≠ 0 then [(pm + PCI_PM_CTRL, PCI_PM_CTRL_STATE_MASK)] else []) ++
    if root || !ctx.bindWrites then
      (if msi ≠ 0 then [(msi + PCI_MSI_FLAGS, PCI_MSI_FLAGS_ENABLE)] else []) ++
        if msix ≠ 0 then [(msix + PCI_MSIX_FLAGS, PCI_MSIX_FLAGS_ENABLE)] else []
    else []

def keepIdentity (st : Store) : Act Call (BitVec 32) Unit := fun _ =>
  return ((), if st.pos < 4 ∨
    (st.pos < PCI_CLASS_REVISION + 4 ∧ PCI_CLASS_REVISION < st.pos + st.size) then -eperm else 0)

/-- The bus numbers of the root port stay 0, 1 and 1. -/
def keepBuses (d : Device) (st : Store) : Act Call (BitVec 32) Unit := fun _ => do
  if d = .root ∧ st.pos < PCI_PRIMARY_BUS + 3 ∧ PCI_PRIMARY_BUS < st.pos + st.size then
    let buses ← readl d PCI_PRIMARY_BUS
    let proposed := overlay buses PCI_PRIMARY_BUS 3 st
    return ((), if proposed &&& 0xffffff ≠ 0x010100 then -eperm else 0)
  return ((), 0)

/-- `x1_pcie_config_read_width`. -/
def configReadWidth (d : Device) (offset size : ℕ) : Io (BitVec 32) := do
  let r ← ask (.read d offset size)
  return if size = 1 then (r.setWidth 8).setWidth 32
    else if size = 2 then (r.setWidth 16).setWidth 32 else r

/-- The end of the base addresses, and of the windows of the bridge. -/
def Device.windowsEnd : Device → ℕ
  | .root => 0x3c
  | .endpoint => 0x28

/-- Base addresses and windows are changed only during the scan. -/
def keepWindows (ctx : Context) (d : Device) (st : Store) : Act Call (BitVec 32) Unit := fun _ => do
  if ctx.scanWrites = false ∧ st.pos < d.windowsEnd ∧ PCI_BASE_ADDRESS_0 < st.pos + st.size then
    let now ← configReadWidth d st.pos st.size
    return ((), if now ≠ st.value then -eperm else 0)
  return ((), 0)

/-- `x1_pcie_config_write_allowed`. -/
def writeAllowed (ctx : Context) (d : Device) (st : Store) : Act Call (BitVec 32) Unit :=
  Act.list ([keepIdentity st] ++ (controls ctx d).map (fun c => keepClear d st c.1 c.2) ++
    [keepBuses d st, keepWindows ctx d st])

/-- Both callbacks refuse what is no aligned access of 1, 2 or 4 bytes. -/
def badRegister (pos : ℤ) (size : ℕ) : Bool :=
  (size != 1 && size != 2 && size != 4) || pos < 0 || 4096 < pos + size ||
    pos.toNat &&& (size - 1) != 0

/-- `x1_pcie_config_read`: its result, and the value that it stores. -/
def configRead (ctx : Context) (bus : Bus) (devfn : ℕ) (pos : ℤ) (size : ℕ) :
    Io (Context × ℤ × BitVec 32) := do
  if badRegister pos size then return (ctx, PCIBIOS_BAD_REGISTER_NUMBER, BitVec.allOnes 32)
  match configBase ctx bus devfn with
  -- expected for an absent slot
  | none => return (ctx, PCIBIOS_DEVICE_NOT_FOUND, BitVec.allOnes 32)
  | some d =>
    if ctx.pulled then return (ctx, PCIBIOS_DEVICE_NOT_FOUND, BitVec.allOnes 32)
    let ret ← hostLocal ctx
    if ret ≠ 0 then
      -- the first one keeps the receipt
      let cfg := if ctx.cfg.error ≠ 0 then ctx.cfg else
        { ctx.cfg with error := ret, offset := pos.toNat, bus := bus.number, size := size }
      return ({ ctx with cfg := cfg }, PCIBIOS_DEVICE_NOT_FOUND, BitVec.allOnes 32)
    let value ← configReadWidth d pos.toNat size
    return (ctx, PCIBIOS_SUCCESSFUL, value)

/-- `x1_pcie_config_write`. -/
def configWrite (ctx : Context) (bus : Bus) (devfn : ℕ) (pos : ℤ) (size : ℕ) (value : BitVec 32) :
    Io (Context × ℤ) := do
  if badRegister pos size then return (ctx, PCIBIOS_BAD_REGISTER_NUMBER)
  match configBase ctx bus devfn with
  | none => return (ctx, PCIBIOS_DEVICE_NOT_FOUND)
  | some d =>
    if ctx.pulled then return (ctx, PCIBIOS_DEVICE_NOT_FOUND)
    let (_, ret) ← Act.seq (fun _ => return ((), ← hostLocal ctx))
      (writeAllowed ctx d ⟨pos.toNat, size, value⟩) ()
    if ret ≠ 0 then
      let cfg := if ctx.cfg.error ≠ 0 then ctx.cfg else
        { error := ret, offset := pos.toNat, value := value, bus := bus.number, size := size,
          write := true }
      return ({ ctx with cfg := cfg }, PCIBIOS_SET_FAILED)
    let _ ← ask (.write d pos.toNat size value)
    return (ctx, PCIBIOS_SUCCESSFUL)

/-! ### Runs -/

/-- The replies to a callback, by all that it said before. -/
abbrev Answer := List (Call × BitVec 32) → Call → BitVec 32

/-- The two devices with the context in front of them. -/
structure System where
  ctx : Context
  mem : Device → Contents
  /-- `resource[PCI_ROM_RESOURCE].flags`: PCI core has found an expansion ROM. -/
  rom : Device → Bool := fun _ => false
  /-- The bind phase has begun. -/
  bound : Bool := false

/-- What happens: a callback of PCI core, with the replies and, for a write, what the device then
holds; a change of phase, at the end of the scan with what its other checks return; a pull; and what
is none of the gate's. -/
inductive Event
  | read (bus : Bus) (devfn : ℕ) (pos : ℤ) (size : ℕ) (answer : Answer)
  | write (bus : Bus) (devfn : ℕ) (pos : ℤ) (size : ℕ) (value : BitVec 32) (answer : Answer)
      (after : Contents)
  | hostScan
  | scanOver (ret : ℤ)
  | bind
  | fence
  | pull
  | host (h : Host)
  | drift (mem : Device → Contents)

def Event.access (e : Event) (ctx : Context) : Io (Context × ℤ) :=
  match e with
  | .read bus devfn pos size _ => do
    let (ctx, ret, _) ← configRead ctx bus devfn pos size
    return (ctx, ret)
  | .write bus devfn pos size value _ _ => configWrite ctx bus devfn pos size value
  | _ => return (ctx, 0)

def Event.answer : Event → Answer
  | .read _ _ _ _ answer | .write _ _ _ _ _ answer _ => answer
  | _ => fun _ _ => 0

def trace (s : System) (e : Event) : List (Call × BitVec 32) :=
  (Dialog.run e.answer [] (e.access s.ctx)).1

def result (s : System) (e : Event) : ℤ := (Dialog.run e.answer [] (e.access s.ctx)).2.2

/-- A device that was written holds what it says. -/
def stored (after : Contents) (mem : Device → Contents) : Call → Device → Contents
  | .write d _ _ _ => Function.update mem d after
  | _ => mem

/-- The loop of `x1_pcie_host_scan` over the inventory. -/
def endpointPm (ctx : Context) : ℕ :=
  ctx.inventory.standard.foldl (fun pm x => if x.1 = idPm then x.2 else pm) ctx.endpointPm

/-- What the checks at the end of the scan return, with that of `x1_pcie_assigned_bars` for
expansion ROMs. -/
def scanResult (s : System) (ret : ℤ) : ℤ :=
  if ret = 0 ∧ (s.rom .root ∨ s.rom .endpoint) then -eopnotsupp else ret

def called (s : System) (e : Event) : Context := (Dialog.run e.answer [] (e.access s.ctx)).2.1

def step (s : System) (e : Event) : System :=
  match e with
  | .read .. => { s with ctx := called s e }
  | .write _ _ _ _ _ _ after => { s with
      ctx := called s e
      mem := (trace s e).foldl (fun mem x => stored after mem x.1) s.mem }
  | .hostScan => { s with ctx := { s.ctx with
      endpointPm := endpointPm s.ctx, configOpen := true, scanWrites := true } }
  | .scanOver ret => { s with ctx := { s.ctx with
      scanWrites := false
      hostError := if scanResult s ret ≠ 0 then scanResult s ret else s.ctx.hostError } }
  | .bind => { s with ctx := { s.ctx with bindWrites := true }, bound := true }
  | .fence => { s with ctx := { s.ctx with
      configOpen := false, scanWrites := false, bindWrites := false } }
  | .pull => { s with ctx := { s.ctx with pulled := true } }
  -- only the bind writes `host_error` after the scan, and it needs a scan that went well
  | .host h => { s with ctx := { s.ctx with toHost := { h with
      hostError := if s.ctx.hostError ≠ 0 then s.ctx.hostError else h.hostError } } }
  | .drift mem => { s with mem := mem }

/-! ### What a callback says -/

section Callbacks

variable {ctx ctx' : Context} {d : Device} {st : Store} {tr : List (Call × BitVec 32)} {ret : ℤ}

def Call.isRead : Call → Prop
  | .write .. => False
  | _ => True

lemma readl_bind {α : Type} (d : Device) (o : ℕ) (f : BitVec 32 → Io α) :
    readl d o >>= f = ask (.read d o 4) >>= f := rfl

lemma readw_bind {α : Type} (d : Device) (o : ℕ) (f : BitVec 16 → Io α) :
    readw d o >>= f = ask (.read d o 2) >>= fun r => f (r.setWidth 16) := rfl

lemma configReadWidth_bind {α : Type} (d : Device) (o size : ℕ) (f : BitVec 32 → Io α) :
    configReadWidth d o size >>= f = ask (.read d o size) >>= fun r =>
      f (if size = 1 then (r.setWidth 8).setWidth 32
        else if size = 2 then (r.setWidth 16).setWidth 32 else r) := rfl

lemma hostLocal_reads (ctx : Context) : (hostLocal ctx).All Call.isRead fun _ => True := by
  have ends (c : Prop) [Decidable c] (e : ℤ) {p : Io ℤ} (hp : p.All Call.isRead fun _ => True) :
      (if c then pure e else p : Io ℤ).All Call.isRead fun _ => True := by
    split
    · trivial
    · exact hp
  simp only [hostLocal, readl_bind, readw_bind]
  refine ends _ _ (all_ask_bind.2 ⟨trivial, fun gate => ends _ _ ?_⟩)
  refine all_ask_bind.2 ⟨trivial, fun id => ends _ _ (all_ask_bind.2 ⟨trivial, fun id' => ?_⟩)⟩
  refine ends _ _ (all_ask_bind.2 ⟨trivial, fun r => ends _ _ ?_⟩)
  exact all_ask_bind.2 ⟨trivial, fun r' => ends _ _ trivial⟩

lemma hostLocal_of_not_admits (h : ctx.admits = false) : hostLocal ctx = pure (-eperm) := by
  unfold hostLocal
  rw [if_pos h]

lemma keepClear_reads (word : ℕ) (mask : BitVec 16) :
    Act.Within Call.isRead (fun _ _ => True) (keepClear d st word mask) := by
  intro x
  unfold keepClear
  split
  · trivial
  · exact ⟨trivial, fun r => trivial⟩

lemma writeAllowed_reads :
    Act.Within Call.isRead (fun _ _ => True) (writeAllowed ctx d st) := by
  refine Act.Within.list (fun _ => trivial) (fun _ _ _ _ _ => trivial) fun f hf => ?_
  simp only [List.cons_append, List.nil_append, List.mem_cons, List.mem_append, List.mem_map,
    List.not_mem_nil, or_false] at hf
  rcases hf with rfl | ⟨c, -, rfl⟩ | rfl | rfl
  · exact fun _ => trivial
  · exact keepClear_reads c.1 c.2
  · intro x
    unfold keepBuses
    split
    · exact ⟨trivial, fun r => trivial⟩
    · trivial
  · intro x
    unfold keepWindows
    split
    · exact ⟨trivial, fun r => trivial⟩
    · trivial

lemma configOpen_of_base {bus : Bus} {devfn : ℕ} (h : configBase ctx bus devfn = some d) :
    ctx.configOpen = true := by
  unfold configBase at h
  by_contra hopen
  rw [if_pos (by simp [hopen])] at h
  cases h

def Event.present (ctx : Context) : Event → Bool
  | .read bus devfn pos size _ | .write bus devfn pos size _ _ _ =>
    !badRegister pos size && (configBase ctx bus devfn).isSome
  | _ => false

/-- The receipt is that of this access. -/
def Event.Names (r : Receipt) : Event → Prop
  | .read bus _ pos size _ => r.offset = pos.toNat ∧ r.bus = bus.number ∧ r.size = size
  | .write bus _ pos size value _ _ => r.offset = pos.toNat ∧ r.bus = bus.number ∧ r.size = size ∧
    r.write = true ∧ r.value = value
  | _ => False

/-- All that a callback can do. -/
inductive Said (ctx : Context) (e : Event) : List (Call × BitVec 32) → Context → ℤ → Prop
  | absent {ret : ℤ} (h : e.present ctx = false) : Said ctx e [] ctx ret
  | pulled {ret : ℤ} (h : ctx.pulled = true) (hret : ret ≠ 0) : Said ctx e [] ctx ret
  | again {ret : ℤ} (h : ctx.cfg.error ≠ 0) (hret : ret ≠ 0) : Said ctx e [] ctx ret
  | refused {tr : List (Call × BitVec 32)} {r : Receipt} {ret : ℤ} (hp : ctx.pulled = false)
      (hc : ctx.cfg.error = 0) (hr : r.error ≠ 0) (hn : e.Names r) (ht : ∀ x ∈ tr, x.1.isRead)
      (hret : ret ≠ 0) : Said ctx e tr { ctx with cfg := r } ret
  | loaded {tr : List (Call × BitVec 32)} (hp : ctx.pulled = false) (hc : ctx.cfg.error = 0)
      (ht : ∀ x ∈ tr, x.1.isRead) : Said ctx e tr ctx 0
  | stored {t u : List (Call × BitVec 32)} {d : Device} {st : Store} {r : BitVec 32}
      (hp : ctx.pulled = false) (hc : ctx.cfg.error = 0) (ht : ∀ x ∈ t, x.1.isRead) (hu : u ⊆ t)
      (hopen : ctx.configOpen = true) (hhost : ctx.hostError = 0)
      (h : Does (writeAllowed ctx d st ()) u ((), 0)) :
      Said ctx e (t ++ [(.write d st.pos st.size st.value, r)]) ctx 0

lemma does_hostLocal {e : ℤ} (h : Does (hostLocal ctx) tr e) :
    (∀ x ∈ tr, x.1.isRead) ∧ (ctx.cfg.error ≠ 0 → tr = [] ∧ e ≠ 0) ∧
      (ctx.hostError ≠ 0 → e ≠ 0) := by
  have hrefused (hadmits : ctx.admits = false) : tr = [] ∧ e ≠ 0 := by
    rw [hostLocal_of_not_admits hadmits, does_pure] at h
    exact ⟨h.1, by rw [h.2]; decide⟩
  refine ⟨((hostLocal_reads ctx).does h).1, fun herr => hrefused ?_, fun herr => (hrefused ?_).2⟩
  · simp [Context.admits, herr]
  · simp [Context.admits, herr]

lemma said_configRead {bus : Bus} {devfn : ℕ} {pos : ℤ} {size : ℕ} {answer : Answer}
    (h : Does ((Event.read bus devfn pos size answer).access ctx) tr (ctx', ret)) :
    Said ctx (.read bus devfn pos size answer) tr ctx' ret := by
  obtain ⟨tr, ⟨c, ret', v⟩, u, rfl, h, hpure⟩ := does_bind.1 h
  obtain ⟨rfl, rfl, rfl⟩ := Act.does_return.1 hpure
  rw [List.append_nil]
  unfold configRead at h
  split at h
  · simp only [does_pure, Prod.mk.injEq] at h
    obtain ⟨rfl, rfl, rfl, rfl⟩ := h
    exact .absent (by simp [Event.present, *])
  rename_i hbad
  split at h
  · simp only [does_pure, Prod.mk.injEq] at h
    obtain ⟨rfl, rfl, rfl, rfl⟩ := h
    exact .absent (by simp [Event.present, *])
  rename_i d hbase
  split at h
  · simp only [does_pure, Prod.mk.injEq] at h
    obtain ⟨rfl, rfl, rfl, rfl⟩ := h
    exact .pulled ‹_› (by decide)
  rename_i hpulled
  have hpulled : ctx.pulled = false := by simpa using hpulled
  obtain ⟨t, e, u, rfl, hlocal, hrest⟩ := does_bind.1 h
  obtain ⟨hreads, herror, -⟩ := does_hostLocal hlocal
  split at hrest
  · rename_i he
    simp only [does_pure, Prod.mk.injEq] at hrest
    obtain ⟨rfl, rfl, rfl, rfl⟩ := hrest
    rw [List.append_nil]
    -- An error on record is returned again; otherwise this refusal is the first.
    by_cases hc : ctx.cfg.error = 0
    · rw [if_neg (not_not.2 hc)]
      exact .refused hpulled hc he ⟨rfl, rfl, rfl⟩ hreads (by decide)
    · rw [if_pos hc, (herror hc).1]
      exact .again hc (by decide)
  · rename_i he
    have hc : ctx.cfg.error = 0 := by
      by_contra hc
      exact he (herror hc).2
    rw [configReadWidth_bind] at hrest
    obtain ⟨r, w, rfl, hend⟩ := does_ask_bind.1 hrest
    simp only [does_pure, Prod.mk.injEq] at hend
    obtain ⟨rfl, rfl, rfl, rfl⟩ := hend
    refine .loaded hpulled hc fun x hx => ?_
    rcases List.mem_append.1 hx with hx | hx
    · exact hreads x hx
    · rw [List.mem_singleton.1 hx]
      trivial

lemma said_configWrite {bus : Bus} {devfn : ℕ} {pos : ℤ} {size : ℕ} {value : BitVec 32}
    {answer : Answer} {after : Contents}
    (h : Does ((Event.write bus devfn pos size value answer after).access ctx) tr (ctx', ret)) :
    Said ctx (.write bus devfn pos size value answer after) tr ctx' ret := by
  change Does (configWrite ctx bus devfn pos size value) tr (ctx', ret) at h
  unfold configWrite at h
  split at h
  · obtain ⟨rfl, rfl, rfl⟩ := Act.does_return.1 h
    exact .absent (by simp [Event.present, *])
  split at h
  · obtain ⟨rfl, rfl, rfl⟩ := Act.does_return.1 h
    exact .absent (by simp [Event.present, *])
  rename_i d hbase
  split at h
  · obtain ⟨rfl, rfl, rfl⟩ := Act.does_return.1 h
    exact .pulled ‹_› (by decide)
  rename_i hpulled
  have hpulled : ctx.pulled = false := by simpa using hpulled
  obtain ⟨t, ⟨⟨⟩, e⟩, u, rfl, hgate, hrest⟩ := does_bind.1 h
  -- the host is looked at, and then the write
  have hgate' : (∀ x ∈ t, x.1.isRead) ∧ (ctx.cfg.error ≠ 0 → t = [] ∧ e ≠ 0) ∧ (e = 0 →
      ctx.hostError = 0 ∧
        ∃ v, v ⊆ t ∧ Does (writeAllowed ctx d ⟨pos.toNat, size, value⟩ ()) v ((), 0)) := by
    rcases Act.does_seq.1 hgate with ⟨hlocal, he⟩ | ⟨t, v, ⟨⟩, rfl, hlocal, hallowed⟩
    · obtain ⟨a, e', b, rfl, hlocal, hpure⟩ := does_bind.1 hlocal
      obtain ⟨rfl, -, rfl⟩ := Act.does_return.1 hpure
      rw [List.append_nil]
      obtain ⟨hreads, herror, -⟩ := does_hostLocal hlocal
      exact ⟨hreads, herror, fun h0 => absurd h0 he⟩
    · obtain ⟨a, e', b, rfl, hlocal, hpure⟩ := does_bind.1 hlocal
      obtain ⟨rfl, -, rfl⟩ := Act.does_return.1 hpure
      obtain ⟨hreads, herror, hhost⟩ := does_hostLocal hlocal
      refine ⟨?_, fun herr => absurd rfl (herror herr).2, ?_⟩
      · intro x hx
        rcases List.mem_append.1 hx with hx | hx
        · exact hreads x (by simpa using hx)
        · exact (((writeAllowed_reads ()).does hallowed).1 x hx)
      · rintro rfl
        exact ⟨by_contra fun herr => hhost herr rfl, v, List.subset_append_right _ v, hallowed⟩
  obtain ⟨hreads, herror, hallowed⟩ := hgate'
  dsimp only at hrest
  split at hrest
  · rename_i he
    obtain ⟨rfl, rfl, rfl⟩ := Act.does_return.1 hrest
    rw [List.append_nil]
    by_cases hc : ctx.cfg.error = 0
    · rw [if_neg (not_not.2 hc)]
      exact .refused hpulled hc he ⟨rfl, rfl, rfl, rfl, rfl⟩ hreads (by decide)
    · rw [if_pos hc, (herror hc).1]
      exact .again hc (by decide)
  · rename_i he
    have hc : ctx.cfg.error = 0 := by
      by_contra hc
      exact he (herror hc).2
    obtain ⟨hhost, v, hv, hdoes⟩ := hallowed (not_not.1 he)
    obtain ⟨r, w, rfl, hend⟩ := does_ask_bind.1 hrest
    obtain ⟨rfl, rfl, rfl⟩ := Act.does_return.1 hend
    exact Said.stored hpulled hc hreads hv (configOpen_of_base hbase) hhost hdoes

lemma said (s : System) (e : Event) : Said s.ctx e (trace s e) (called s e) (result s e) := by
  have h := run_does e.answer [] (e.access s.ctx)
  cases e with
  | read => exact said_configRead h
  | write => exact said_configWrite h
  | _ => exact .absent rfl

end Callbacks

/-! ### A write that is allowed -/

section Allowed

variable {ctx : Context} {d : Device} {st : Store} {tr : List (Call × BitVec 32)}

lemma bit_of_controls (h : Does (writeAllowed ctx d st ()) tr ((), 0)) {o : ℕ} {m : BitVec 16}
    (hm : (o, m) ∈ controls ctx d) {i : ℕ} (hi : i < 16) (hbit : m.getLsbD i = true)
    (hcov : st.covers (o + i / 8)) : st.bit (o + i / 8) (i % 8) = false := by
  obtain ⟨t, -, ht⟩ := Act.does_list_unit h (keepClear d st o m)
    (by simp only [List.mem_append, List.mem_map]; exact .inl (.inr ⟨_, hm, rfl⟩))
  have htouch : touches st o = true := by
    unfold Store.covers at hcov
    simp only [touches, Bool.and_eq_true, decide_eq_true_eq]
    omega
  unfold keepClear at ht
  rw [if_neg (by simp [htouch]), readw_bind] at ht
  obtain ⟨r, u, -, hend⟩ := does_ask_bind.1 ht
  obtain ⟨-, -, hret⟩ := Act.does_return.1 hend
  have hclear : configWord (r.setWidth 16) st o &&& m = 0 := by
    by_contra hne
    rw [if_pos hne] at hret
    exact absurd hret (by decide)
  have hlast := and_eq_zero_iff.1 hclear i hi hbit
  rwa [configWord, getLsbD_overlay (by omega) (by omega) st _ (by omega), if_pos hcov] at hlast

lemma bit_of_buses (h : Does (writeAllowed ctx .root st ()) tr ((), 0)) {i : ℕ} (hi : i < 24)
    (hcov : st.covers (PCI_PRIMARY_BUS + i / 8)) :
    st.bit (PCI_PRIMARY_BUS + i / 8) (i % 8) = (0x010100#32).getLsbD i := by
  obtain ⟨t, -, ht⟩ := Act.does_list_unit h (keepBuses .root st) (by simp)
  have htouch : st.pos < PCI_PRIMARY_BUS + 3 ∧ PCI_PRIMARY_BUS < st.pos + st.size := by
    unfold Store.covers at hcov
    omega
  unfold keepBuses at ht
  rw [if_pos ⟨rfl, htouch⟩, readl_bind] at ht
  obtain ⟨r, u, -, hend⟩ := does_ask_bind.1 ht
  obtain ⟨-, -, hret⟩ := Act.does_return.1 hend
  have hbuses : overlay r PCI_PRIMARY_BUS 3 st &&& 0xffffff = 0x010100 := by
    by_contra hne
    rw [if_pos hne] at hret
    exact absurd hret (by decide)
  have hmask : (0xffffff : BitVec 32).getLsbD i = true := by
    interval_cases i <;> rfl
  have hlast := congrArg (·.getLsbD i) hbuses
  rw [BitVec.getLsbD_and, hmask, Bool.and_true,
    getLsbD_overlay (by omega) (by omega) st _ (by omega), if_pos hcov] at hlast
  exact hlast

lemma bit_of_windows (h : Does (writeAllowed ctx d st ()) tr ((), 0)) (hs : ctx.scanWrites = false)
    {ctl : ℕ → ℕ → Prop} {c : Contents}
    (hshows : ∀ o n r, (.read d o n, r) ∈ tr → Shows ctl c o n r) {o i : ℕ} (hi : i < 8)
    (ho : PCI_BASE_ADDRESS_0 ≤ o ∧ o < d.windowsEnd) (hctl : ctl o i) (hcov : st.covers o) :
    st.bit o i = (c o).getLsbD i := by
  obtain ⟨t, hsub, ht⟩ := Act.does_list_unit h (keepWindows ctx d st) (by simp)
  obtain ⟨hpos, hsize⟩ := hcov
  have htouch : ctx.scanWrites = false ∧ st.pos < d.windowsEnd ∧
      PCI_BASE_ADDRESS_0 < st.pos + st.size := ⟨hs, by omega, by omega⟩
  unfold keepWindows at ht
  rw [if_pos htouch, configReadWidth_bind] at ht
  obtain ⟨r, u, rfl, hend⟩ := does_ask_bind.1 ht
  obtain ⟨-, -, hret⟩ := Act.does_return.1 hend
  -- The gate compares what it has read, cut to the width of the access, with the value.
  have hvalue : (if st.size = 1 then (r.setWidth 8).setWidth 32
      else if st.size = 2 then (r.setWidth 16).setWidth 32 else r) = st.value := by
    by_contra hne
    rw [if_pos hne] at hret
    exact absurd hret (by decide)
  have hshown := hshows _ _ _ (hsub List.mem_cons_self) (o - st.pos) i (by omega) hi
  rw [Nat.add_sub_cancel' hpos] at hshown
  rw [← hshown hctl, Store.bit, ← hvalue]
  split
  · simp only [BitVec.getLsbD_setWidth]
    rw [decide_eq_true (by omega), decide_eq_true (by omega), Bool.true_and, Bool.true_and]
  split
  · simp only [BitVec.getLsbD_setWidth]
    rw [decide_eq_true (by omega), decide_eq_true (by omega), Bool.true_and, Bool.true_and]
  · rfl

end Allowed

/-! ### What has to stay -/

/-- The configuration space as `x1_pcie_root_identity` sees it. -/
def image (c : Contents) : Image := fun i => c i

/-- The bits of a capability's control words that are never set. -/
inductive Never : ℕ → ℕ → BitVec 16 → Prop
  | reset : Never idExp PCI_EXP_DEVCTL PCI_EXP_DEVCTL_BCR_FLR
  | link : Never idExp PCI_EXP_LNKCTL (PCI_EXP_LNKCTL_RL ||| PCI_EXP_LNKCTL_LD)
  | power : Never idPm PCI_PM_CTRL PCI_PM_CTRL_STATE_MASK

inductive Message : ℕ → ℕ → BitVec 16 → Prop
  | msi : Message idMsi PCI_MSI_FLAGS PCI_MSI_FLAGS_ENABLE
  | msix : Message idMsix PCI_MSIX_FLAGS PCI_MSIX_FLAGS_ENABLE

/-- The words and masks that have to stay clear. -/
inductive Watched (start : Device → Contents) (bound : Bool) : Device → ℕ → BitVec 16 → Prop
  | ports (d : Device) : Watched start bound d PCI_COMMAND PCI_COMMAND_IO
  | memory (d : Device) (h : bound = false) :
    Watched start bound d PCI_COMMAND (PCI_COMMAND_MEMORY ||| PCI_COMMAND_MASTER)
  | busReset : Watched start bound .root PCI_BRIDGE_CONTROL PCI_BRIDGE_CTL_BUS_RESET
  | never {d : Device} {id o p : ℕ} {m : BitVec 16} (h : Never id o m)
    (hp : HasCap (image (start d)) id p) : Watched start bound d (p + o) m
  | message {d : Device} {id o p : ℕ} {m : BitVec 16} (h : Message id o m)
    (hp : HasCap (image (start d)) id p) (hd : d = .root ∨ bound = false) :
    Watched start bound d (p + o) m

/-- The bytes of the base address of an expansion ROM. -/
def Device.isRom : Device → ℕ → Prop
  | .root, o => 0x38 ≤ o ∧ o < 0x3c
  | .endpoint, o => 0x30 ≤ o ∧ o < 0x34

/-- The bytes of base addresses and, in the root port, of the windows of a bridge. -/
def Device.isWindow (d : Device) (o : ℕ) : Prop :=
  d.isRom o ∨ match d with
    | .root => (0x10 ≤ o ∧ o < 0x18) ∨ (0x1c ≤ o ∧ o < 0x1e) ∨ (0x20 ≤ o ∧ o < 0x34)
    | .endpoint => 0x10 ≤ o ∧ o < 0x28

/-- The bits that only config writes change. -/
def control (start : Device → Contents) (d : Device) (o i : ℕ) : Prop :=
  (∃ w m, Watched start false d w m ∧ ∃ j, j < 16 ∧ m.getLsbD j = true ∧ o = w + j / 8 ∧
    i = j % 8) ∨ d.isWindow o ∨ (d = .root ∧ 0x18 ≤ o ∧ o < 0x1b)

/-- The devices answer and change as these bits allow. -/
structure Honest (start : Device → Contents) (s : System) (e : Event) : Prop where
  read : ∀ d o n r, (.read d o n, r) ∈ trace s e → Shows (control start d) (s.mem d) o n r
  write : ∀ bus devfn pos size value answer after,
    e = .write bus devfn pos size value answer after → ∀ d o n v r,
      (.write d o n v, r) ∈ trace s e → Lands (control start d) ⟨o, n, v⟩ (s.mem d) after
  /-- Without a ROM its base address takes no value. -/
  rom : ∀ bus devfn pos size value answer after,
    e = .write bus devfn pos size value answer after → ∀ d o n v r,
      (.write d o n v, r) ∈ trace s e → s.rom d = false → ∀ p, d.isRom p → after p = s.mem d p
  drift : ∀ mem, e = .drift mem → ∀ d, Still (control start d) (s.mem d) (mem d)

/-- The context knows where the capabilities are: those of the root port from its identity, those
of the endpoint from the inventory. -/
structure Located (start : Device → Contents) (ctx : Context) : Prop where
  root : Records (image (start .root)) ctx.identified
  express : ∀ p, HasCap (image (start .endpoint)) idExp p → ctx.inventory.pcieOffset = p
  msi : ∀ p, HasCap (image (start .endpoint)) idMsi p → ctx.inventory.msiOffset = p
  msix : ∀ p, HasCap (image (start .endpoint)) idMsix p → ctx.inventory.msixOffset = p
  pm : ∀ p, HasCap (image (start .endpoint)) idPm p → (idPm, p) ∈ ctx.inventory.standard ∧
    ∀ q, (idPm, q) ∈ ctx.inventory.standard → q = p
  endpointPm : ctx.configOpen = true → ∀ p, HasCap (image (start .endpoint)) idPm p →
    ctx.endpointPm = p

lemma endpointPm_eq {ctx : Context} {p : ℕ} (hp : (idPm, p) ∈ ctx.inventory.standard)
    (hone : ∀ q, (idPm, q) ∈ ctx.inventory.standard → q = p) : endpointPm ctx = p := by
  unfold endpointPm
  generalize ctx.inventory.standard = l at hp hone
  -- The loop keeps the last entry with this id, and there is only one.
  have key : ∀ pm, (pm = p ∨ (idPm, p) ∈ l) →
      l.foldl (fun pm x => if x.1 = idPm then x.2 else pm) pm = p := by
    clear hp
    induction l with
    | nil => simp
    | cons x l ih =>
      intro pm hpm
      refine ih (fun q hq => hone q (List.mem_cons_of_mem _ hq)) _ ?_
      dsimp only
      split
      · rename_i hid
        exact .inl (hone x.2 (by rw [← hid]; exact List.mem_cons_self))
      · rename_i hid
        rcases hpm with rfl | hmem
        · exact .inl rfl
        · rcases List.mem_cons.1 hmem with rfl | hmem
          · exact absurd rfl hid
          · exact .inr hmem
  exact key _ (.inr hp)

variable {d : Device}

lemma Watched.controls {start : Device → Contents} {bound : Bool} {ctx : Context}
    {o : ℕ} {m : BitVec 16} (h : Watched start bound d o m) (hl : Located start ctx)
    (hopen : ctx.configOpen = true) (hbind : ctx.bindWrites = true → bound = true) :
    ∃ m', (o, m') ∈ controls ctx d ∧ m &&& m' = m := by
  cases h with
  | ports =>
    refine ⟨ctx.quiet, by simp [ConfigGate.controls], ?_⟩
    cases hb : ctx.bindWrites with
    | false => simp [Context.quiet, hb]; decide
    | true => simp [Context.quiet, hb]
  | memory _ hbound =>
    -- Before the bind the quiet mask covers the memory bit too.
    have hb : ctx.bindWrites = false := by
      by_contra hb
      rw [hbind (by simpa using hb)] at hbound
      cases hbound
    exact ⟨ctx.quiet, by simp [ConfigGate.controls], by simp [Context.quiet, hb]; decide⟩
  | busReset => exact ⟨_, by simp [ConfigGate.controls], BitVec.and_self⟩
  | @never _ _ _ p _ h hp =>
    refine ⟨m, ?_, BitVec.and_self⟩
    have h0 := hp.ne_zero
    cases h with
    | reset =>
      cases d with
      | root => simp [ConfigGate.controls, hl.root.express p hp]
      | endpoint => simp [ConfigGate.controls, hl.express p hp]
    | link =>
      cases d with
      | root => simp [ConfigGate.controls, hl.root.express p hp]
      | endpoint => simp [ConfigGate.controls, hl.express p hp]
    | power =>
      cases d with
      | root => simp [ConfigGate.controls, hl.root.pm p hp, h0]
      | endpoint => simp [ConfigGate.controls, hl.endpointPm hopen p hp, h0]
  | @message _ _ _ p _ h hp hd =>
    refine ⟨m, ?_, BitVec.and_self⟩
    have h0 := hp.ne_zero
    have hb : d = .root ∨ ctx.bindWrites = false := by
      refine hd.imp_right fun hbound => ?_
      by_contra hb
      rw [hbind (by simpa using hb)] at hbound
      cases hbound
    cases h with
    | msi =>
      cases d with
      | root => simp [ConfigGate.controls, hl.root.msi p hp, h0]
      | endpoint => simp [ConfigGate.controls, hl.msi p hp, h0, hb.resolve_left]
    | msix =>
      cases d with
      | root => simp [ConfigGate.controls, hl.root.msix p hp, h0]
      | endpoint => simp [ConfigGate.controls, hl.msix p hp, h0, hb.resolve_left]

/-! ### One step -/

section Step

variable {start : Device → Contents} {s : System} {e : Event}

structure Inv (start : Device → Contents) (s : System) : Prop where
  clear : ∀ d o m, Watched start s.bound d o m → word (s.mem d) o &&& m = 0
  buses : ∀ k, k < 3 → s.mem .root (PCI_PRIMARY_BUS + k) = (0x010100#32).extractLsb' (8 * k) 8
  bind : s.ctx.bindWrites = true → s.bound = true
  located : Located start s.ctx
  /-- A scan that went well has found no ROM. -/
  rom : s.ctx.configOpen = true → s.ctx.scanWrites = false → s.ctx.hostError = 0 →
    s.rom .endpoint = false

lemma Said.context {ctx ctx' : Context} {tr : List (Call × BitVec 32)} {ret : ℤ}
    (h : Said ctx e tr ctx' ret) : ∃ r, ctx' = { ctx with cfg := r } := by
  cases h with
  | refused => exact ⟨_, rfl⟩
  | _ => exact ⟨ctx.cfg, rfl⟩

lemma Located.of_cfg {ctx : Context} (h : Located start ctx) (r : Receipt) :
    Located start { ctx with cfg := r } :=
  ⟨h.root, h.express, h.msi, h.msix, h.pm, h.endpointPm⟩

lemma foldl_stored_reads {after : Contents} {t : List (Call × BitVec 32)}
    (ht : ∀ x ∈ t, x.1.isRead) (mem : Device → Contents) :
    t.foldl (fun mem x => stored after mem x.1) mem = mem := by
  induction t with
  | nil => rfl
  | cons x t ih =>
    have hx : stored after mem x.1 = mem := by
      have hread := ht x List.mem_cons_self
      cases hcall : x.1 with
      | write => rw [hcall] at hread; exact hread.elim
      | _ => rfl
    rw [List.foldl_cons, hx]
    exact ih fun y hy => ht y (List.mem_cons_of_mem _ hy)

lemma Watched.mono {bound bound' : Bool} (hb : bound = true → bound' = true) {o : ℕ}
    {m : BitVec 16} (h : Watched start bound' d o m) : Watched start bound d o m := by
  have hfalse : bound' = false → bound = false := by
    cases bound <;> cases bound' <;> simp_all
  cases h with
  | ports => exact .ports d
  | memory _ h => exact .memory d (hfalse h)
  | busReset => exact .busReset
  | never h hp => exact .never h hp
  | message h hp hd => exact .message h hp (hd.imp_right hfalse)

lemma Watched.matters {bound : Bool} {o : ℕ} {m : BitVec 16}
    (h : Watched start bound d o m) : Matters (control start d) o m :=
  fun i hi hm => .inl ⟨o, m, h.mono (by simp), i, hi, hm, rfl, rfl⟩

/-- How the devices are after a step. -/
inductive Changed (start : Device → Contents) (s : System) (e : Event) (mem : Device → Contents) :
    Prop
  | same (h : mem = s.mem)
  | still (h : ∀ d, Still (control start d) (s.mem d) (mem d))
  | landed {d : Device} {st : Store} {after : Contents} {u : List (Call × BitVec 32)}
      (h : Lands (control start d) st (s.mem d) after) (hmem : mem = Function.update s.mem d after)
      (hopen : s.ctx.configOpen = true) (hhost : s.ctx.hostError = 0)
      (hrom : s.rom d = false → ∀ p, d.isRom p → after p = s.mem d p)
      (hdoes : Does (writeAllowed s.ctx d st ()) u ((), 0))
      (hshows : ∀ o n r, (.read d o n, r) ∈ u → Shows (control start d) (s.mem d) o n r)

lemma changed (hh : Honest start s e) : Changed start s e (step s e).mem := by
  cases e with
  | drift mem => exact .still (hh.drift mem rfl)
  | write bus devfn pos size value answer after =>
    have hsaid := said s (.write bus devfn pos size value answer after)
    have hmem : (step s (.write bus devfn pos size value answer after)).mem =
        (trace s (.write bus devfn pos size value answer after)).foldl
          (fun mem x => stored after mem x.1) s.mem := rfl
    have hwrite := hh.write _ _ _ _ _ _ _ rfl
    have hrom := hh.rom _ _ _ _ _ _ _ rfl
    have hread := hh.read
    rw [hmem]
    generalize trace s (.write bus devfn pos size value answer after) = tr
      at hsaid hwrite hrom hread
    generalize called s (.write bus devfn pos size value answer after) = ctx' at hsaid
    generalize result s (.write bus devfn pos size value answer after) = ret at hsaid
    cases hsaid with
    | absent | pulled | again => exact .same rfl
    | refused _ _ _ _ ht | loaded _ _ ht => exact .same (foldl_stored_reads ht _)
    | @stored t _ d st r hp hc ht hu hopen hhost hdoes =>
      have hlast : (Call.write d st.pos st.size st.value, r) ∈
          t ++ [(.write d st.pos st.size st.value, r)] := List.mem_append_right t List.mem_cons_self
      refine .landed (hwrite _ _ _ _ _ hlast) ?_ hopen hhost (hrom _ _ _ _ _ hlast) hdoes ?_
      · rw [List.foldl_append, foldl_stored_reads ht]
        rfl
      · exact fun o n r hmem => hread _ _ _ _ (List.mem_append_left _ (hu hmem))
  | _ => exact .same rfl

variable {mem : Device → Contents}

lemma Changed.clear (h : Changed start s e mem) (hi : Inv start s)
    {o : ℕ} {m : BitVec 16} (hw : Watched start s.bound d o m) :
    word (mem d) o &&& m = 0 := by
  have hold := hi.clear d o m hw
  cases h with
  | same h => rwa [h]
  | still h => exact (h d).clear hw.matters hold
  | @landed d' st after u h hmem hopen hhost hrom hdoes hshows =>
    rw [hmem]
    by_cases hd : d = d'
    · subst hd
      rw [Function.update_self]
      refine h.clear hw.matters hold fun i hlt hbit hcov => ?_
      obtain ⟨m', hm', hsub⟩ := hw.controls hi.located hopen hi.bind
      refine bit_of_controls hdoes hm' hlt ?_ hcov
      rw [← hsub, BitVec.getLsbD_and, Bool.and_eq_true] at hbit
      exact hbit.2
    · rwa [Function.update_of_ne hd]

lemma Changed.buses (h : Changed start s e mem) (hi : Inv start s)
    {k : ℕ} (hk : k < 3) : mem .root (PCI_PRIMARY_BUS + k) = s.mem .root (PCI_PRIMARY_BUS + k) := by
  have hctl : ∀ i, i < 8 → control start .root (PCI_PRIMARY_BUS + k) i := fun i _ =>
    .inr (.inr ⟨rfl, by simp only [PCI_PRIMARY_BUS]; omega, by simp only [PCI_PRIMARY_BUS]; omega⟩)
  cases h with
  | same h => rw [h]
  | still h => exact (h _).byte_eq hctl
  | @landed d' st after u h hmem hopen hhost hrom hdoes hshows =>
    rw [hmem]
    cases d' with
    | root =>
      rw [Function.update_self]
      refine h.byte_eq hctl fun i hlt hcov => ?_
      have hdiv : (8 * k + i) / 8 = k := by omega
      have hmod : (8 * k + i) % 8 = i := by omega
      have hbit := bit_of_buses hdoes (show 8 * k + i < 24 by omega) (by rwa [hdiv])
      rw [hdiv, hmod] at hbit
      rw [hbit, hi.buses k hk, BitVec.getLsbD_extractLsb', decide_eq_true hlt, Bool.true_and]
    | endpoint => rw [Function.update_of_ne (by decide)]

lemma Device.isWindow.bounds {o : ℕ} (h : d.isWindow o) :
    PCI_BASE_ADDRESS_0 ≤ o ∧ o < d.windowsEnd ∨ d = .endpoint ∧ d.isRom o := by
  cases d with
  | root =>
    simp only [isWindow, isRom, windowsEnd, PCI_BASE_ADDRESS_0] at h ⊢
    omega
  | endpoint => exact h.symm.imp_right fun h => ⟨rfl, h⟩

lemma Changed.windows (h : Changed start s e mem) (hi : Inv start s)
    (hs : s.ctx.scanWrites = false) {o : ℕ} (ho : d.isWindow o) :
    mem d o = s.mem d o := by
  have hctl : ∀ i, i < 8 → control start d o i := fun i _ => .inr (.inl ho)
  cases h with
  | same h => rw [h]
  | still h => exact (h _).byte_eq hctl
  | @landed d' st after u h hmem hopen hhost hrom hdoes hshows =>
    rw [hmem]
    by_cases hd : d = d'
    · subst hd
      rw [Function.update_self]
      rcases ho.bounds with hb | ⟨rfl, hr⟩
      · exact h.byte_eq hctl fun i hlt hcov =>
          bit_of_windows hdoes hs hshows hlt hb (hctl i hlt) hcov
      · exact hrom (hi.rom hopen hs hhost) o hr
    · rw [Function.update_of_ne hd]

lemma called_eq (s : System) (e : Event) : ∃ r, called s e = { s.ctx with cfg := r } :=
  (said s e).context

lemma step_located (h : Located start s.ctx) (e : Event) : Located start (step s e).ctx := by
  cases e with
  | read bus devfn pos size answer =>
    obtain ⟨r, hr⟩ := called_eq s (.read bus devfn pos size answer)
    change Located start (called s _)
    rw [hr]
    exact h.of_cfg r
  | write bus devfn pos size value answer after =>
    obtain ⟨r, hr⟩ := called_eq s (.write bus devfn pos size value answer after)
    change Located start (called s _)
    rw [hr]
    exact h.of_cfg r
  | hostScan =>
    exact ⟨h.root, h.express, h.msi, h.msix, h.pm, fun _ p hp =>
      endpointPm_eq (h.pm p hp).1 (h.pm p hp).2⟩
  | fence => exact ⟨h.root, h.express, h.msi, h.msix, h.pm, nofun⟩
  | _ => exact ⟨h.root, h.express, h.msi, h.msix, h.pm, h.endpointPm⟩

lemma step_bind (h : s.ctx.bindWrites = true → s.bound = true) (e : Event) :
    ((step s e).ctx.bindWrites = true → (step s e).bound = true) ∧
      (s.bound = true → (step s e).bound = true) := by
  cases e with
  | read bus devfn pos size answer =>
    obtain ⟨r, hr⟩ := called_eq s (.read bus devfn pos size answer)
    refine ⟨fun hb => h ?_, fun hb => hb⟩
    change (called s _).bindWrites = true at hb
    rwa [hr] at hb
  | write bus devfn pos size value answer after =>
    obtain ⟨r, hr⟩ := called_eq s (.write bus devfn pos size value answer after)
    refine ⟨fun hb => h ?_, fun hb => hb⟩
    change (called s _).bindWrites = true at hb
    rwa [hr] at hb
  | bind => exact ⟨fun _ => rfl, fun _ => rfl⟩
  | fence => exact ⟨nofun, fun hb => hb⟩
  | _ => exact ⟨h, fun hb => hb⟩

lemma step_rom (hi : Inv start s) (e : Event) : (step s e).ctx.configOpen = true →
    (step s e).ctx.scanWrites = false → (step s e).ctx.hostError = 0 →
    (step s e).rom .endpoint = false := by
  cases e with
  | read bus devfn pos size answer =>
    obtain ⟨r, hr⟩ := called_eq s (.read bus devfn pos size answer)
    simp only [step, hr]
    exact hi.rom
  | write bus devfn pos size value answer after =>
    obtain ⟨r, hr⟩ := called_eq s (.write bus devfn pos size value answer after)
    simp only [step, hr]
    exact hi.rom
  | hostScan => exact fun _ => nofun
  | scanOver ret =>
    -- A scan that has found a ROM fails, and its error shuts the gate.
    intro _ _ hhost
    have hret : scanResult s ret = 0 := by
      by_contra hret
      exact hret ((if_pos hret).symm.trans hhost)
    cases hrom : s.rom .endpoint with
    | false => exact hrom
    | true =>
      exfalso
      unfold scanResult at hret
      split at hret
      · exact absurd hret (by decide)
      · rename_i hno
        exact hno ⟨hret, .inr hrom⟩
  | fence => exact nofun
  | host h =>
    intro hopen hs hhost
    refine hi.rom hopen hs ?_
    by_contra herr
    exact herr ((if_pos herr).symm.trans hhost)
  | _ => exact hi.rom

lemma step_inv (hh : Honest start s e) (hi : Inv start s) : Inv start (step s e) where
  clear _ _ _ hw := (changed hh).clear hi (hw.mono (step_bind hi.bind e).2)
  buses k hk := by rw [(changed hh).buses hi hk, hi.buses k hk]
  bind := (step_bind hi.bind e).1
  located := step_located hi.located e
  rom := step_rom hi e

end Step

/-! ### After a refusal -/

section Refusal

variable {s : System}

/-- No access reaches a device any more. -/
def Shut (ctx : Context) : Prop := ctx.pulled = true ∨ ctx.cfg.error ≠ 0

lemma said_of_shut {ctx ctx' : Context} {e : Event} {tr : List (Call × BitVec 32)} {ret : ℤ}
    (h : Shut ctx) (hs : Said ctx e tr ctx' ret) : tr = [] ∧ ctx' = ctx := by
  have hno (hp : ctx.pulled = false) (hc : ctx.cfg.error = 0) : False := by
    rcases h with h | h
    · rw [hp] at h
      cases h
    · exact h hc
  cases hs with
  | absent | pulled | again => exact ⟨rfl, rfl⟩
  | refused hp hc | loaded hp hc | stored hp hc => exact (hno hp hc).elim

lemma shut_step (h : Shut s.ctx) (e : Event) :
    Shut (step s e).ctx ∧ (step s e).ctx.cfg = s.ctx.cfg := by
  cases e with
  | read bus devfn pos size answer =>
    have hc := (said_of_shut h (said s (.read bus devfn pos size answer))).2
    change Shut (called s _) ∧ (called s _).cfg = _
    rw [hc]
    exact ⟨h, rfl⟩
  | write bus devfn pos size value answer after =>
    have hc := (said_of_shut h (said s (.write bus devfn pos size value answer after))).2
    change Shut (called s _) ∧ (called s _).cfg = _
    rw [hc]
    exact ⟨h, rfl⟩
  | pull => exact ⟨.inl rfl, rfl⟩
  | _ => exact ⟨h, rfl⟩

lemma shut_run (h : Shut s.ctx) (later : List Event) :
    (run step s later).ctx.cfg = s.ctx.cfg ∧ ∀ e, trace (run step s later) e = [] := by
  have hinv : Shut (run step s later).ctx ∧ (run step s later).ctx.cfg = s.ctx.cfg := by
    refine run_invariant (I := fun t : System => Shut t.ctx ∧ t.ctx.cfg = s.ctx.cfg) ?_ later
      ⟨h, rfl⟩
    rintro t e ⟨hshut, hcfg⟩
    obtain ⟨hshut', hcfg'⟩ := shut_step hshut e
    exact ⟨hshut', hcfg'.trans hcfg⟩
  exact ⟨hinv.2, fun e => (said_of_shut hinv.1 (said _ e)).1⟩

lemma refused (e : Event) (hp : e.present s.ctx = true) (hret : result s e ≠ 0) :
    Shut (step s e).ctx ∧ (s.ctx.pulled = false → s.ctx.cfg.error = 0 →
      (step s e).ctx.cfg.error ≠ 0 ∧ e.Names (step s e).ctx.cfg) := by
  have hctx : (step s e).ctx = called s e := by
    cases e with
    | read | write => rfl
    | _ => cases hp
  rw [hctx]
  have hs := said s e
  generalize trace s e = tr at hs
  generalize called s e = ctx' at hs
  generalize result s e = ret at hs hret
  cases hs with
  | absent h =>
    rw [hp] at h
    cases h
  | pulled h => exact ⟨.inl h, fun h' => by rw [h] at h'; cases h'⟩
  | again h => exact ⟨.inr h, fun _ h' => absurd h' h⟩
  | refused _ _ hr hn => exact ⟨.inr hr, fun _ _ => ⟨hr, hn⟩⟩
  | loaded | stored => exact absurd rfl hret

end Refusal

/-! ### The gate -/

/-- The devices as PCI0 leaves them, before the first access. -/
structure Start (s : System) : Prop where
  clear : ∀ d o m, Watched s.mem false d o m → word (s.mem d) o &&& m = 0
  buses : s.mem .root 0x18 = 0 ∧ s.mem .root 0x19 = 1 ∧ s.mem .root 0x1a = 1
  /-- No id occurs twice. -/
  once : ∀ d id p q, HasCap (image (s.mem d)) id p → HasCap (image (s.mem d)) id q → p = q
  /-- The root port was identified. -/
  identified : ∃ r, rootIdentity (image (s.mem .root)) r = (s.ctx.identified, none)
  /-- The inventory lists the endpoint's capabilities. -/
  standard : ∀ id p, (id, p) ∈ s.ctx.inventory.standard ↔ HasCap (image (s.mem .endpoint)) id p
  express : ∀ p, HasCap (image (s.mem .endpoint)) idExp p → s.ctx.inventory.pcieOffset = p
  msi : ∀ p, HasCap (image (s.mem .endpoint)) idMsi p → s.ctx.inventory.msiOffset = p
  msix : ∀ p, HasCap (image (s.mem .endpoint)) idMsix p → s.ctx.inventory.msixOffset = p
  /-- Nothing was opened. -/
  closed : s.ctx.configOpen = false ∧ s.ctx.bindWrites = false ∧ s.bound = false

lemma Start.inv {s : System} (h : Start s) : Inv s.mem s where
  clear d o m hw := h.clear d o m (by rwa [h.closed.2.2] at hw)
  buses k hk := by
    obtain ⟨h₀, h₁, h₂⟩ := h.buses
    interval_cases k
    · exact h₀
    · exact h₁
    · exact h₂
  bind hb := by
    rw [h.closed.2.1] at hb
    cases hb
  located :=
    { root := by
        obtain ⟨r, hr⟩ := h.identified
        exact rootIdentity_records hr (h.once .root)
      express := h.express
      msi := h.msi
      msix := h.msix
      pm := fun p hp => ⟨(h.standard _ p).2 hp, fun q hq =>
        h.once .endpoint _ q p ((h.standard _ q).1 hq) hp⟩
      endpointPm := fun hopen => by
        rw [h.closed.1] at hopen
        cases hopen }
  rom hopen := by
    rw [h.closed.1] at hopen
    cases hopen

/-- What holds of the devices in every state. -/
structure Guarded (start : Device → Contents) (s : System) : Prop where
  /-- Neither device ever decodes I/O ports. -/
  ports : ∀ d, word (s.mem d) PCI_COMMAND &&& PCI_COMMAND_IO = 0
  /-- Before the bind none decodes memory or masters the bus. -/
  memory : s.bound = false → ∀ d,
    word (s.mem d) PCI_COMMAND &&& (PCI_COMMAND_MEMORY ||| PCI_COMMAND_MASTER) = 0
  /-- The root port never sends messages, the endpoint none before the bind. -/
  messages : ∀ d id o m p, d = .root ∨ s.bound = false → Message id o m →
    HasCap (image (start d)) id p → word (s.mem d) (p + o) &&& m = 0
  buses : s.mem .root 0x18 = 0 ∧ s.mem .root 0x19 = 1 ∧ s.mem .root 0x1a = 1

/-- The control words and the bits that no write may leave set: a reset of the secondary bus, a
reset of the function, the link retrained or disabled, a power state other than D0. -/
inductive Harmful (start : Device → Contents) : Device → ℕ → BitVec 16 → Prop
  | busReset : Harmful start .root PCI_BRIDGE_CONTROL PCI_BRIDGE_CTL_BUS_RESET
  | never {d : Device} {id o p : ℕ} {m : BitVec 16} (h : Never id o m)
    (hp : HasCap (image (start d)) id p) : Harmful start d (p + o) m

/-- What holds of every step. -/
structure Passes (start : Device → Contents) (s : System) (e : Event) : Prop where
  harmless : ∀ d o n v r, (.write d o n v, r) ∈ trace s e → ∀ w m, Harmful start d w m →
    overlay (word (s.mem d) w) w 2 ⟨o, n, v⟩ &&& m = 0
  /-- Outside the scan no base address and no window changes. -/
  windows : s.ctx.scanWrites = false → ∀ d o, d.isWindow o → (step s e).mem d o = s.mem d o
  /-- The first access to a device that is refused or fails is recorded, unless the device was
  pulled. -/
  recorded : e.present s.ctx = true → result s e ≠ 0 → s.ctx.pulled = false →
    s.ctx.cfg.error = 0 → (step s e).ctx.cfg.error ≠ 0 ∧ e.Names (step s e).ctx.cfg
  /-- After a refusal the record never changes and no access reaches a device. -/
  last : e.present s.ctx = true → result s e ≠ 0 → ∀ later,
    (run step (step s e) later).ctx.cfg = (step s e).ctx.cfg ∧
      ∀ e', trace (run step (step s e) later) e' = []

lemma passes {start : Device → Contents} {s : System} {e : Event} (hi : Inv start s)
    (hh : Honest start s e) : Passes start s e where
  harmless d o n v r hmem w m hw := by
    have hwatch : Watched start s.bound d w m := by
      cases hw with
      | busReset => exact .busReset
      | never h hp => exact .never h hp
    have hs := said s e
    generalize trace s e = tr at hs hmem
    generalize called s e = ctx' at hs
    generalize result s e = ret at hs
    have hno {t : List (Call × BitVec 32)} (ht : ∀ x ∈ t, x.1.isRead)
        (hmem : (Call.write d o n v, r) ∈ t) : False := ht _ hmem
    cases hs with
    | absent | pulled | again => cases hmem
    | refused _ _ _ _ ht | loaded _ _ ht => exact (hno ht hmem).elim
    | @stored t u d' st r' hp hc ht hu hopen hhost hdoes =>
      rcases List.mem_append.1 hmem with hmem | hmem
      · exact (hno ht hmem).elim
      obtain ⟨hcall, -⟩ := Prod.mk.inj (List.mem_singleton.1 hmem)
      obtain ⟨rfl, rfl, rfl, rfl⟩ := Call.write.inj hcall
      -- The bits that are to stay clear are among those that the gate compares.
      refine overlay_clear (hi.clear _ _ _ hwatch) fun i hlt hbit hcov => ?_
      obtain ⟨m', hm', hsub⟩ := hwatch.controls hi.located hopen hi.bind
      refine bit_of_controls hdoes hm' hlt ?_ hcov
      rw [← hsub, BitVec.getLsbD_and, Bool.and_eq_true] at hbit
      exact hbit.2
  windows hs d o ho := (changed hh).windows hi hs ho
  recorded hp hret := (refused e hp hret).2
  last hp hret later := shut_run (refused e hp hret).1 later

def samplePort : Contents := fun o =>
  ([(0x00, 0xcb), (0x01, 0x17), (0x02, 0x11), (0x03, 0x01), (0x06, 0x10), (0x0e, 0x01),
    (0x19, 0x01), (0x1a, 0x01), (0x34, 0x40), (0x40, 0x10), (0x42, 0x42)].lookup o).getD 0

def sampleDisk : Contents := fun o =>
  ([(0x00, 0x44), (0x01, 0x14), (0x02, 0x0a), (0x03, 0xa8), (0x06, 0x10), (0x34, 0x40),
    (0x40, 0x10), (0x41, 0xb0), (0x42, 0x02), (0xb0, 0x11), (0xb2, 0x07)].lookup o).getD 0

def sample : System where
  ctx :=
    { bridgeBus := some 7
      identified := (rootIdentity (image samplePort) {}).1
      inventory :=
        { identity := 0xa80a1444, pcieOffset := 0x40, msixOffset := 0xb0
          standard := [(idExp, 0x40), (idMsix, 0xb0)] } }
  mem
    | .root => samplePort
    | .endpoint => sampleDisk

def sampleAnswer : Answer
  | _, .read d o _ => sample.mem d (o + 3) ++ sample.mem d (o + 2) ++ sample.mem d (o + 1) ++
    sample.mem d o
  | _, _ => 0

def sampleBus : Bus := { id := 8, number := 1, parent := some 7 }

def sampleScan : List Event := [.hostScan, .read sampleBus 0 0x00 4 sampleAnswer]

def sampleSizing : Event :=
  .write sampleBus 0 0x10 4 0xffffffff sampleAnswer
    fun o => if 0x10 ≤ o ∧ o < 0x14 then 0xff else sampleDisk o

lemma hasCap_sample {id p : ℕ} : HasCap (image (sample.mem d)) id p ↔
    (id = idExp ∧ p = 0x40) ∨ (d = .endpoint ∧ id = idMsix ∧ p = 0xb0) := by
  have hlist : ∃ l, Chain (image (sample.mem d))
        ((image (sample.mem d)).readl 0x34 &&& 0xff).toNat l ∧
      ((p ∈ l ∧ capId ((image (sample.mem d)).readl p) = id) ↔
        (id = idExp ∧ p = 0x40) ∨ (d = .endpoint ∧ id = idMsix ∧ p = 0xb0)) := by
    cases d with
    | root =>
      refine ⟨[0x40], ⟨by decide +kernel, by decide +kernel, show _ = 0 by decide +kernel⟩,
        ?_⟩
      have hid : capId ((image (sample.mem .root)).readl 0x40) = idExp := by decide +kernel
      constructor
      · rintro ⟨hp, rfl⟩
        obtain rfl := List.mem_singleton.1 hp
        exact .inl ⟨hid, rfl⟩
      · rintro (⟨rfl, rfl⟩ | ⟨h, -⟩)
        · exact ⟨List.mem_cons_self, hid⟩
        · cases h
    | endpoint =>
      refine ⟨[0x40, 0xb0], ⟨by decide +kernel, by decide +kernel, by decide +kernel,
        by decide +kernel, show _ = 0 by decide +kernel⟩, ?_⟩
      have hid : capId ((image (sample.mem .endpoint)).readl 0x40) = idExp := by decide +kernel
      have hid' : capId ((image (sample.mem .endpoint)).readl 0xb0) = idMsix := by decide +kernel
      constructor
      · rintro ⟨hp, rfl⟩
        rcases List.mem_cons.1 hp with rfl | hp
        · exact .inl ⟨hid, rfl⟩
        · obtain rfl := List.mem_singleton.1 hp
          exact .inr ⟨rfl, hid', rfl⟩
      · rintro (⟨rfl, rfl⟩ | ⟨-, rfl, rfl⟩)
        · exact ⟨List.mem_cons_self, hid⟩
        · exact ⟨by decide, hid'⟩
  obtain ⟨l, hc, hiff⟩ := hlist
  rw [← hiff]
  constructor
  · rintro ⟨l', hc', hp⟩
    obtain rfl := hc'.unique hc
    exact hp
  · exact fun hp => ⟨l, hc, hp⟩

lemma start_sample : Start sample where
  clear d o m hw := by
    cases hw with
    | ports => cases d <;> decide +kernel
    | memory => cases d <;> decide +kernel
    | busReset => decide +kernel
    | never h hp =>
      rcases hasCap_sample.1 hp with ⟨rfl, rfl⟩ | ⟨rfl, rfl, rfl⟩
      · cases h <;> cases d <;> decide +kernel
      · cases h
    | message h hp =>
      rcases hasCap_sample.1 hp with ⟨rfl, rfl⟩ | ⟨rfl, rfl, rfl⟩
      · cases h
      · cases h
        decide +kernel
  buses := by decide +kernel
  once d id p q hp hq := by
    rw [hasCap_sample] at hp hq
    simp only [idExp, idMsix] at hp hq
    omega
  identified := ⟨{}, Prod.ext rfl (by decide +kernel)⟩
  standard id p := by
    rw [hasCap_sample]
    simp [sample]
  express p hp := by
    rw [hasCap_sample] at hp
    simp only [idExp, idMsix] at hp
    change 0x40 = p
    omega
  msi p hp := by
    rw [hasCap_sample] at hp
    simp only [idExp, idMsix, idMsi] at hp
    omega
  msix p hp := by
    rw [hasCap_sample] at hp
    simp only [idExp, idMsix] at hp
    change 0xb0 = p
    omega
  closed := ⟨rfl, rfl, rfl⟩

/-- A load is answered with what the sample holds, and the only store is the sizing. -/
def Exact : Call × BitVec 32 → Prop
  | (.read d o n, r) => ∀ k < n, ∀ i < 8, r.getLsbD (8 * k + i) = (sample.mem d (o + k)).getLsbD i
  | (.write d o n v, _) => d = .endpoint ∧ o = 0x10 ∧ n = 4 ∧ v = 0xffffffff
  | _ => True

instance : DecidablePred Exact
  | (.read _ _ _, _) => inferInstanceAs (Decidable (∀ k < _, ∀ i < 8, _ = _))
  | (.write _ _ _ _, _) => inferInstanceAs (Decidable (_ ∧ _ ∧ _ ∧ _))
  | (.router _, _) => isTrue trivial

lemma shows_of_exact {s : System} {e : Event} (h : ∀ x ∈ trace s e, Exact x)
    (hmem : s.mem = sample.mem) {start : Device → Contents} (d : Device) (o n : ℕ)
    (r : BitVec 32) (hr : (.read d o n, r) ∈ trace s e) :
    Shows (control start d) (s.mem d) o n r := by
  rw [hmem]
  exact fun k i hk hi _ => h _ hr k hk i hi

lemma exact_sampleSizing : ∀ x ∈ trace (run step sample sampleScan) sampleSizing, Exact x := by
  decide +kernel

lemma honest_sampleSizing : Honest sample.mem (run step sample sampleScan) sampleSizing where
  read := shows_of_exact exact_sampleSizing rfl
  write bus devfn pos size value answer after he d o n v r hr := by
    obtain ⟨rfl, rfl, rfl, rfl⟩ := exact_sampleSizing _ hr
    cases he
    intro o i hi _
    by_cases ho : 0x10 ≤ o ∧ o < 0x14
    · refine .inr ⟨ho, ?_⟩
      have hones (j : ℕ) (hj : j < 32) : (0xffffffff#32).getLsbD j = true := by
        interval_cases j <;> rfl
      have hones' : (0xff#8).getLsbD i = true := by interval_cases i <;> rfl
      change (ite _ _ _ : Byte).getLsbD i = _
      rw [if_pos ho, Store.bit]
      exact hones'.trans (hones (8 * (o - 0x10) + i) (by omega)).symm
    · refine .inl ?_
      change (ite _ _ _ : Byte).getLsbD i = _
      rw [if_neg ho]
      rfl
  rom bus devfn pos size value answer after he d o n v r hr _ p hp := by
    obtain ⟨rfl, rfl, rfl, rfl⟩ := exact_sampleSizing _ hr
    cases he
    obtain ⟨hlow, hhigh⟩ := hp
    exact if_neg (by omega)
  drift _ h := by cases h

-- the sizing passes during the scan; afterwards it is refused, and the refusal is recorded
example : result (run step sample sampleScan) sampleSizing = PCIBIOS_SUCCESSFUL ∧
    let s := run step sample (sampleScan ++ [.scanOver 0, sampleSizing])
    s.ctx.cfg = ⟨-eperm, 0x10, 0xffffffff, 1, 4, true⟩ ∧ trace s sampleSizing = [] := by
  decide +kernel

end YogaUsb4.ConfigGate
