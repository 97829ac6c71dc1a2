import YogaUsb4.Mcu.Firmware
import YogaUsb4.Mcu.Drom

/-!
The microcontroller of a router, behind registers that may answer anything: it is loaded while it is
halted, started, given commands and stopped. An observer of the registers keeps what the host wrote
and what it was told about the controller's state.
-/

namespace YogaUsb4.Mcu

open Dialog LittleEndian Startup
open Wire (Byte byte)

/-! ### The code -/

/-- An access to a register, by its offset; how often a poll may look before its time is over is
the clock's answer. `π` are calls into other drivers. -/
inductive Io (π : Type) where
  | readl (offset : ℕ)
  | writel (offset : ℕ) (value : BitVec 32)
  | clock (timeoutUs : ℕ)
  | provider (p : π)

structure Reply where
  value : BitVec 32 := 0
  rounds : ℕ := 0
  ret : ℤ := 0

abbrev Mmio (π α : Type) := Dialog (Io π) Reply α

/-- `struct qcom_usb4_mcu`; it is `mapped` if `base` is there. -/
structure QcomUsb4Mcu where
  mapped : Bool := false
  ramSize : ℕ := 0
  ramOffset : ℕ := 0
  controlOffset : ℕ := 0
  sharedOffsetReg : ℕ := 0
  dromOffset : ℕ := 0

/-- `enum qcom_usb4_mcu_layout`. -/
inductive Layout where
  | legacy | v2
  deriving DecidableEq

def statusReg : ℕ := 0x18
def hostControl : ℕ := 0x8018
def uidHigh : ℕ := 0x801c
def uidLow : ℕ := 0x8020
def readyBit : BitVec 32 := 1 <<< 24
def runBit : BitVec 32 := 1
def sharedMinSize : ℕ := 12
def commandRelative : ℕ := 0xc
def maxCommandTimeoutUs : ℕ := 1000000

/-- `ram`, `control` and `shared` of a layout. -/
def Layout.offsets : Layout → ℕ × ℕ × ℕ
  | .legacy => (0x13000, 0x22000, 0x22010)
  | .v2 => (0x1e000, 0x14000, 0x14010)

def Layout.drom : Layout → ℕ
  | .legacy => 0xdf20
  | .v2 => 0xff20

/-- `qcom_usb4_mcu_init`. -/
def mcuInit (base mappingSize ramSize : ℕ) (layout : Layout) : QcomUsb4Mcu × ℤ :=
  if base = 0 ∨ base % 4 ≠ 0 ∨ ramSize < sharedMinSize then ({}, -einval)
  else
    let (ram, control, shared) := layout.offsets
    -- the shared register is the highest control register accessed here
    if mappingSize < shared + 4 ∨ ram > mappingSize ∨ ramSize > mappingSize - ram ∨
        (ram ≤ control ∧ ramSize > control - ram) then ({}, -einval)
    else ({ mapped := true, ramSize, ramOffset := ram, controlOffset := control,
            sharedOffsetReg := shared, dromOffset := layout.drom }, 0)

variable {π : Type} (crc32c : List Byte → BitVec 32) (m : QcomUsb4Mcu)

def QcomUsb4Mcu.mailbox : ℕ := m.controlOffset + commandRelative

/-- `qcom_usb4_mcu_write_word`. -/
def writeWord (offset value : BitVec 32) : Mmio π ℤ := do
  let _ ← ask (.writel (m.ramOffset + offset.toNat) value)
  return 0

/-- `qcom_usb4_mcu_prepare_drom`: the descriptor and the result. -/
def prepareDrom (serial : BitVec 32) (router : Byte) : List Byte × ℤ :=
  if m.mapped = false then ([], -einval)
  else if m.dromOffset > m.ramSize ∨ dromSize > m.ramSize - m.dromOffset then ([], -efbig)
  else dromBuild crc32c (List.replicate dromSize 0) serial router

/-- `qcom_usb4_mcu_upload`. -/
def upload (data : Option (ℕ → Byte)) (size : ℕ) : Mmio π ℤ := do
  if m.mapped = false then return -einval
  if fwValidate data size m.ramSize ≠ 0 then return fwValidate data size m.ramSize
  let r ← ask (.readl m.controlOffset)
  if r.value &&& runBit ≠ 0 then return -ebusy
  let _ ← ask (.writel m.controlOffset 0)
  let ret ← fwUpload data size m.ramSize (writeWord m)
  if ret ≠ 0 then return ret
  let _ ← ask (.readl m.controlOffset)
  return ret

/-- The loop of `qcom_usb4_mcu_store_drom` at `i`, with `n` rounds to go. -/
def storeWords (drom : List Byte) : ℕ → ℕ → Mmio π Unit
  | 0, _ => return ()
  | n + 1, i => do
    let _ ← writeWord m (BitVec.ofNat 32 (m.dromOffset + i)) (word (byte drom) i)
    storeWords drom n (i + 4)

/-- The words of a descriptor from the `i`-th byte on, with their offsets in the RAM. -/
def dromCells (base : ℕ) (drom : List Byte) : ℕ → ℕ → List (BitVec 32 × BitVec 32)
  | 0, _ => []
  | n + 1, i => (BitVec.ofNat 32 (base + i), word (byte drom) i) :: dromCells base drom n (i + 4)

/-- `qcom_usb4_mcu_store_drom`. -/
def storeDrom (drom : List Byte) : Mmio π Unit := do
  let _ ← ask (.writel uidHigh (word (byte drom) 5))
  let _ ← ask (.writel uidLow (word (byte drom) 1))
  storeWords m drom (dromSize / 4) 0
  let _ ← ask (.readl m.controlOffset)
  return ()

/-- `qcom_usb4_mcu_write_drom`. -/
def writeDrom (serial : BitVec 32) (router : Byte) : Mmio π ℤ := do
  let (drom, ret) := prepareDrom crc32c m serial router
  if ret ≠ 0 then return ret
  let r ← ask (.readl m.controlOffset)
  if r.value &&& runBit ≠ 0 then return -ebusy
  storeDrom m drom
  return 0

/-- `qcom_usb4_mcu_load`. -/
def load (data : Option (ℕ → Byte)) (size : ℕ) (serial : BitVec 32) (router : Byte) : Mmio π ℤ := do
  let (drom, ret) := prepareDrom crc32c m serial router
  if ret ≠ 0 then return ret
  let ret ← upload m data size
  if ret ≠ 0 then return ret
  storeDrom m drom
  return 0

/-- `qcom_usb4_mcu_update`. -/
def update (offset : ℕ) (mask value : BitVec 32) : Mmio π Unit := do
  let r ← ask (.readl offset)
  let _ ← ask (.writel offset ((r.value &&& ~~~ mask) ||| (value &&& mask)))
  return ()

/-- `qcom_usb4_mcu_stop`. -/
def stop : Mmio π Unit := do
  if m.mapped = false then return ()
  update m.controlOffset runBit 0
  update hostControl readyBit 0
  let _ ← ask (.readl hostControl)
  return ()

/-- The reads of a poll that may look `n` times before the last one. -/
def pollRounds (offset : ℕ) (cond : BitVec 32 → Bool) : ℕ → Mmio π (BitVec 32)
  | 0 => do
    let r ← ask (.readl offset)
    return r.value
  | n + 1 => do
    let r ← ask (.readl offset)
    if cond r.value then return r.value
    pollRounds offset cond n

def readlPollTimeout (offset : ℕ) (cond : BitVec 32 → Bool) (timeoutUs : ℕ) : Mmio π ℤ := do
  let c ← ask (.clock timeoutUs)
  let value ← pollRounds offset cond (c.rounds + 1)
  return if cond value then 0 else -etimedout

/-- `qcom_usb4_mcu_start`: its result and `*shared_offset`. -/
def start : Mmio π (ℤ × BitVec 32) := do
  if m.mapped = false then return (-einval, 0)
  let r ← ask (.readl m.controlOffset)
  if r.value &&& runBit ≠ 0 then return (-ebusy, 0)
  update hostControl readyBit 0
  update m.controlOffset runBit runBit
  let ret ← readlPollTimeout statusReg (fun status => status &&& readyBit ≠ 0) 1000000
  if ret ≠ 0 then
    stop m
    return (ret, 0)
  let offset ← ask (.readl m.sharedOffsetReg)
  if offset.value.toNat % 4 ≠ 0 ∨ offset.value.toNat > m.ramSize - sharedMinSize then
    stop m
    return (-eproto, 0)
  return (0, offset.value)

/-- `qcom_usb4_mcu_command`. -/
def command (cmd : BitVec 32) (timeoutUs : ℕ) : Mmio π ℤ := do
  if m.mapped = false ∨ cmd = 0 ∨ timeoutUs = 0 ∨ timeoutUs > maxCommandTimeoutUs then
    return -einval
  let r ← ask (.readl m.controlOffset)
  if r.value &&& runBit = 0 then return -ehostdown
  let s ← ask (.readl statusReg)
  if s.value &&& readyBit = 0 then return -eagain
  let old ← ask (.readl m.mailbox)
  if old.value ≠ 0 then return -ebusy
  let _ ← ask (.writel m.mailbox cmd)
  readlPollTimeout m.mailbox (fun value => value = 0) timeoutUs

/-! ### Where things are -/

/-- What a successful `qcom_usb4_mcu_init` leaves: the RAM, the control registers and the fixed
registers lie apart from each other, inside the mapping. -/
structure QcomUsb4Mcu.Placed (size : ℕ) (m : QcomUsb4Mcu) : Prop where
  mapped : m.mapped = true
  ram_le : m.ramOffset + m.ramSize ≤ size
  shared : m.sharedOffsetReg = m.controlOffset + 0x10
  control_le : m.controlOffset + 0x14 ≤ size
  apart : m.ramOffset + m.ramSize ≤ m.controlOffset ∨ m.controlOffset + 0x14 ≤ m.ramOffset
  ram_ge : 0x8024 ≤ m.ramOffset
  control_ge : 0x8024 ≤ m.controlOffset
  ram_aligned : m.ramOffset % 4 = 0
  control_aligned : m.controlOffset % 4 = 0
  min : sharedMinSize ≤ m.ramSize
  drom_aligned : m.dromOffset % 4 = 0
  drom_small : m.dromOffset + dromSize < 2 ^ 32

lemma mcuInit_placed {base size ramSize : ℕ} {layout : Layout} {m : QcomUsb4Mcu}
    (h : mcuInit base size ramSize layout = (m, 0)) : m.Placed size := by
  cases layout <;>
  · dsimp only [mcuInit, Layout.offsets] at h
    split_ifs at h with hbase hsize
    · cases h
    · cases h
    · obtain ⟨rfl, -⟩ := Prod.mk.inj h
      simp only [not_or, not_and, not_lt] at hbase hsize
      refine ⟨rfl, ?_, rfl, ?_, ?_, ?_, ?_, ?_, ?_, hbase.2.2, ?_, ?_⟩ <;>
        dsimp only [Layout.drom, dromSize] <;> omega

/-! ### The observer -/

/-- What the host wrote, and what it last learnt: the controller was found or told to be halted, it
was found running, ready and with an empty mailbox, and the host's own ready bit is clear. -/
structure Seen where
  written : ℕ → Option (BitVec 32) := fun _ => none
  halted : Bool := false
  running : Bool := false
  ready : Bool := false
  empty : Bool := false
  cleared : Bool := false

def Seen.read (m : QcomUsb4Mcu) (g : Seen) (offset : ℕ) (v : BitVec 32) : Seen :=
  { g with
    halted := g.halted || (decide (offset = m.controlOffset) && decide (v &&& runBit = 0))
    running := if offset = m.controlOffset then decide (v &&& runBit ≠ 0) else g.running
    ready := if offset = statusReg then decide (v &&& readyBit ≠ 0) else g.ready
    empty := if offset = m.mailbox then decide (v = 0) else g.empty }

def Seen.write (m : QcomUsb4Mcu) (g : Seen) (offset : ℕ) (v : BitVec 32) : Seen :=
  { g with
    written := Function.update g.written offset (some v)
    halted := if offset = m.controlOffset then decide (v &&& runBit = 0) else g.halted
    running := if offset = m.controlOffset then decide (v &&& runBit ≠ 0) else g.running
    empty := if offset = m.mailbox then false else g.empty
    cleared := if offset = hostControl then decide (v &&& readyBit = 0) else g.cleared }

def QcomUsb4Mcu.InRam (m : QcomUsb4Mcu) (offset : ℕ) : Prop :=
  m.ramOffset ≤ offset ∧ offset + 4 ≤ m.ramOffset + m.ramSize

/-- What else is asked for: which other registers may be written, and what has to have been written
before the controller is told to run. -/
structure Rules where
  others : ℕ → Prop := fun _ => False
  complete : (ℕ → Option (BitVec 32)) → Prop := fun _ => True

/-- When a register may be written, and with what. -/
structure Licensed (m : QcomUsb4Mcu) (ρ : Rules) (g : Seen) (offset : ℕ) (v : BitVec 32) :
    Prop where
  /-- Nothing else is written. -/
  known : m.InRam offset ∨ offset = m.controlOffset ∨ offset = m.mailbox ∨ offset = hostControl ∨
    offset = uidHigh ∨ offset = uidLow ∨ ρ.others offset
  /-- The image, the descriptor and the identity are written while it is halted. -/
  load : m.InRam offset ∨ offset = uidHigh ∨ offset = uidLow → g.halted = true
  /-- It is told to run when it is halted, the host's ready bit is clear and all is in place. -/
  run : offset = m.controlOffset → v &&& runBit ≠ 0 →
    g.halted = true ∧ g.cleared = true ∧ ρ.complete g.written
  /-- A command goes to firmware that runs, is ready and has taken the one before. -/
  command : offset = m.mailbox → v ≠ 0 ∧ g.running = true ∧ g.ready = true ∧ g.empty = true

def InMap (size offset : ℕ) : Prop := offset % 4 = 0 ∧ offset + 4 ≤ size

/-- The observer of a controller in a mapping. -/
def watch (m : QcomUsb4Mcu) (size : ℕ) (ρ : Rules) : Watch (Io π) Reply Seen where
  look g q r :=
    match q with
    | .readl offset => g.read m offset r.value
    | .writel offset v => g.write m offset v
    | .clock _ | .provider _ => g
  allow g q :=
    match q with
    | .readl offset => InMap size offset
    | .writel offset v => InMap size offset ∧ Licensed m ρ g offset v
    | .clock _ | .provider _ => True

/-! ### The registers under observation -/

section Registers

variable {m} {size : ℕ} {g : Seen} {offset : ℕ} {v : BitVec 32}

lemma read_other (h₁ : offset ≠ m.controlOffset) (h₂ : offset ≠ m.mailbox)
    (h₃ : offset ≠ statusReg) : g.read m offset v = g := by
  simp [Seen.read, h₁, h₂, h₃]

lemma write_other (h₁ : offset ≠ m.controlOffset) (h₂ : offset ≠ m.mailbox)
    (h₃ : offset ≠ hostControl) :
    g.write m offset v = { g with written := Function.update g.written offset (some v) } := by
  simp [Seen.write, h₁, h₂, h₃]

namespace QcomUsb4Mcu.Placed

variable (h : m.Placed size)
include h

omit h in
lemma mailbox_ne_control : m.mailbox ≠ m.controlOffset := by
  unfold mailbox commandRelative
  omega

lemma fixed_ne (ho : offset < 0x8024) : offset ≠ m.controlOffset ∧ offset ≠ m.mailbox := by
  have := h.control_ge
  unfold mailbox
  omega

lemma read_control : g.read m m.controlOffset v =
    { g with halted := g.halted || decide (v &&& runBit = 0)
             running := decide (v &&& runBit ≠ 0) } := by
  have h₁ : m.controlOffset ≠ statusReg := (h.fixed_ne (by decide)).1.symm
  simp [Seen.read, h₁, mailbox_ne_control.symm]

lemma read_status : g.read m statusReg v = { g with ready := decide (v &&& readyBit ≠ 0) } := by
  obtain ⟨h₁, h₂⟩ : statusReg ≠ m.controlOffset ∧ statusReg ≠ m.mailbox := h.fixed_ne (by decide)
  simp [Seen.read, h₁, h₂]

lemma read_mailbox : g.read m m.mailbox v = { g with empty := decide (v = 0) } := by
  have h₁ : m.mailbox ≠ statusReg := (h.fixed_ne (by decide)).2.symm
  simp [Seen.read, h₁, mailbox_ne_control]

lemma read_hostControl : g.read m hostControl v = g := by
  obtain ⟨h₁, h₂⟩ : hostControl ≠ m.controlOffset ∧ hostControl ≠ m.mailbox :=
    h.fixed_ne (by decide)
  exact read_other h₁ h₂ (by decide)

lemma read_shared : g.read m m.sharedOffsetReg v = g := by
  have := h.shared
  have := h.control_ge
  refine read_other ?_ ?_ ?_
  · omega
  · unfold mailbox commandRelative
    omega
  · unfold statusReg
    omega

lemma write_control : g.write m m.controlOffset v =
    { g with written := Function.update g.written m.controlOffset (some v)
             halted := decide (v &&& runBit = 0), running := decide (v &&& runBit ≠ 0) } := by
  have h₁ : m.controlOffset ≠ hostControl := (h.fixed_ne (by decide)).1.symm
  simp [Seen.write, h₁, mailbox_ne_control.symm]

lemma write_mailbox : g.write m m.mailbox v =
    { g with written := Function.update g.written m.mailbox (some v), empty := false } := by
  have h₁ : m.mailbox ≠ hostControl := (h.fixed_ne (by decide)).2.symm
  simp [Seen.write, h₁, mailbox_ne_control]

lemma write_hostControl : g.write m hostControl v =
    { g with written := Function.update g.written hostControl (some v)
             cleared := decide (v &&& readyBit = 0) } := by
  obtain ⟨h₁, h₂⟩ : hostControl ≠ m.controlOffset ∧ hostControl ≠ m.mailbox :=
    h.fixed_ne (by decide)
  simp [Seen.write, h₁, h₂]

lemma inMap_control : InMap size m.controlOffset :=
  ⟨h.control_aligned, by have := h.control_le; omega⟩

lemma inMap_fixed (ho : offset < 0x8024) (h4 : offset % 4 = 0) : InMap size offset :=
  ⟨h4, by have := h.control_ge; have := h.control_le; omega⟩

lemma inMap_mailbox : InMap size m.mailbox := by
  have := h.control_aligned
  have := h.control_le
  unfold InMap mailbox commandRelative
  omega

lemma inMap_shared : InMap size m.sharedOffsetReg := by
  have := h.control_aligned
  have := h.control_le
  have := h.shared
  unfold InMap
  omega

lemma not_inRam_control : ¬ m.InRam m.controlOffset := by
  have := h.apart
  unfold InRam
  omega

lemma not_inRam_mailbox : ¬ m.InRam m.mailbox := by
  have := h.apart
  unfold InRam mailbox commandRelative
  omega

lemma not_inRam_fixed (ho : offset < 0x8024) : ¬ m.InRam offset := by
  have := h.ram_ge
  unfold InRam
  omega

end QcomUsb4Mcu.Placed

end Registers

/-! ### What may be written when -/

section Licences

variable {m} {size : ℕ} (h : m.Placed size) {ρ : Rules} {g : Seen} {offset : ℕ} {v : BitVec 32}
include h

lemma licensed_control
    (hv : v &&& runBit ≠ 0 → g.halted = true ∧ g.cleared = true ∧ ρ.complete g.written) :
    Licensed m ρ g m.controlOffset v where
  known := .inr (.inl rfl)
  load := by
    rintro (hr | hu | hu)
    · exact absurd hr h.not_inRam_control
    · exact absurd hu.symm (h.fixed_ne (by decide)).1
    · exact absurd hu.symm (h.fixed_ne (by decide)).1
  run _ := hv
  command hm := absurd hm.symm QcomUsb4Mcu.Placed.mailbox_ne_control

lemma licensed_hostControl : Licensed m ρ g hostControl v where
  known := .inr (.inr (.inr (.inl rfl)))
  load := by
    rintro (hr | hu | hu)
    · exact absurd hr (h.not_inRam_fixed (by decide))
    · exact absurd hu (by decide)
    · exact absurd hu (by decide)
  run hc := absurd hc (h.fixed_ne (by decide)).1
  command hm := absurd hm (h.fixed_ne (by decide)).2

lemma licensed_mailbox (hv : v ≠ 0) (hg : g.running = true ∧ g.ready = true ∧ g.empty = true) :
    Licensed m ρ g m.mailbox v where
  known := .inr (.inr (.inl rfl))
  load := by
    rintro (hr | hu | hu)
    · exact absurd hr h.not_inRam_mailbox
    · exact absurd hu.symm (h.fixed_ne (by decide)).2
    · exact absurd hu.symm (h.fixed_ne (by decide)).2
  run hc := absurd hc QcomUsb4Mcu.Placed.mailbox_ne_control
  command _ := ⟨hv, hg⟩

lemma licensed_load (ho : m.InRam offset ∨ offset = uidHigh ∨ offset = uidLow)
    (hg : g.halted = true) : Licensed m ρ g offset v := by
  have hne : offset ≠ m.controlOffset ∧ offset ≠ m.mailbox := by
    rcases ho with hr | rfl | rfl
    · exact ⟨fun hc => h.not_inRam_control (hc ▸ hr), fun hc => h.not_inRam_mailbox (hc ▸ hr)⟩
    · exact h.fixed_ne (by decide)
    · exact h.fixed_ne (by decide)
  refine ⟨?_, fun _ => hg, fun hc => absurd hc hne.1, fun hm => absurd hm hne.2⟩
  rcases ho with hr | hu | hu
  · exact .inl hr
  · exact .inr (.inr (.inr (.inr (.inl hu))))
  · exact .inr (.inr (.inr (.inr (.inr (.inl hu)))))

end Licences

/-! ### One function after the other -/

@[simp] lemma watch_readl (size : ℕ) (ρ : Rules) (g : Seen) (offset : ℕ) (r : Reply) :
    (watch m size ρ : Watch (Io π) Reply Seen).look g (.readl offset) r =
      g.read m offset r.value := rfl

@[simp] lemma watch_writel (size : ℕ) (ρ : Rules) (g : Seen) (offset : ℕ) (v : BitVec 32)
    (r : Reply) :
    (watch m size ρ : Watch (Io π) Reply Seen).look g (.writel offset v) r =
      g.write m offset v := rfl

@[simp] lemma allow_readl (size : ℕ) (ρ : Rules) (g : Seen) (offset : ℕ) :
    (watch m size ρ : Watch (Io π) Reply Seen).allow g (.readl offset) ↔
      InMap size offset := Iff.rfl

@[simp] lemma allow_writel (size : ℕ) (ρ : Rules) (g : Seen) (offset : ℕ) (v : BitVec 32) :
    (watch m size ρ : Watch (Io π) Reply Seen).allow g (.writel offset v) ↔
      InMap size offset ∧ Licensed m ρ g offset v := Iff.rfl

@[simp] lemma watch_expect (size : ℕ) (ρ : Rules) (g : Seen) (q : Io π) (r : Reply) :
    (watch m size ρ : Watch (Io π) Reply Seen).expect g q r ↔ True := Iff.rfl

lemma masked (r value mask : BitVec 32) :
    ((r &&& ~~~ mask) ||| (value &&& mask)) &&& mask = value &&& mask := by
  ext i hi
  simp only [BitVec.getElem_and, BitVec.getElem_or, BitVec.getElem_not]
  cases mask[i] <;> simp

section Functions

variable {m} {size : ℕ} {ρ : Rules} {g : Seen}

lemma safe_update {offset : ℕ} {mask value : BitVec 32} (hin : InMap size offset)
    (hl : ∀ r v, v &&& mask = value &&& mask → Licensed m ρ (g.read m offset r) offset v) :
    Safe (watch m size ρ) (fun g' (_ : Unit) => ∃ r v, v &&& mask = value &&& mask ∧
      g' = (g.read m offset r).write m offset v) (update offset mask value : Mmio π Unit) g := by
  simp only [update, safe_bind, safe_ask, safe_pure, watch_readl, watch_writel, allow_readl,
    allow_writel, watch_expect, forall_const]
  exact ⟨hin, fun r => ⟨⟨hin, hl _ _ (masked _ _ _)⟩, fun _ => ⟨_, _, masked _ _ _, rfl⟩⟩⟩

lemma safe_pollRounds {γ : Type} {w : Watch (Io π) Reply γ} {J : γ → Prop}
    {K : γ → BitVec 32 → Prop} {offset : ℕ} {cond : BitVec 32 → Bool}
    (hallow : ∀ g, J g → w.allow g (.readl offset))
    (hlook : ∀ g r, J g → w.expect g (.readl offset) r →
      J (w.look g (.readl offset) r) ∧ K (w.look g (.readl offset) r) r.value)
    (n : ℕ) {g : γ} (hg : J g) :
    Safe w (fun g v => J g ∧ K g v) (pollRounds offset cond n) g := by
  induction n generalizing g with
  | zero => exact ⟨hallow g hg, fun r hr => hlook g r hg hr⟩
  | succ n ih =>
    simp only [pollRounds, safe_bind, safe_ask, safe_ite, safe_pure]
    refine ⟨hallow g hg, fun r hr => ?_⟩
    split
    · exact hlook g r hg hr
    · exact ih (hlook g r hg hr).1

lemma safe_readlPollTimeout {J : Seen → Prop} {K : Seen → BitVec 32 → Prop} {offset : ℕ}
    {cond : BitVec 32 → Bool} (hin : InMap size offset)
    (hlook : ∀ g v, J g → J (g.read m offset v) ∧ K (g.read m offset v) v) (us : ℕ) (hg : J g) :
    Safe (watch m size ρ) (fun g ret => J g ∧
      ∃ v, K g v ∧ (ret = 0 ∧ cond v = true ∨ ret = -etimedout ∧ cond v = false))
      (readlPollTimeout offset cond us : Mmio π ℤ) g := by
  refine safe_bind.2 ⟨trivial, fun c _ => safe_bind.2 ?_⟩
  refine (safe_pollRounds (w := watch m size ρ) (J := J) (K := K) (fun _ _ => hin)
    (fun g r hg _ => hlook g r.value hg) _ hg).mono fun g v hv => ?_
  refine ⟨hv.1, v, hv.2, ?_⟩
  cases cond v <;> simp

variable (h : m.Placed size)
include h

lemma safe_update_hostControl : Safe (watch m size ρ) (fun g' (_ : Unit) =>
    ∃ v, v &&& readyBit = 0 ∧
    g' = { g with written := Function.update g.written hostControl (some v), cleared := true })
    (update hostControl readyBit 0 : Mmio π Unit) g := by
  refine (safe_update (h.inMap_fixed (by decide) (by decide))
    fun _ _ _ => licensed_hostControl h).mono ?_
  rintro g' - ⟨r, v, hv, rfl⟩
  replace hv : v &&& readyBit = 0 := hv.trans (by decide)
  exact ⟨v, hv, by rw [h.read_hostControl, h.write_hostControl, decide_eq_true hv]⟩

lemma safe_update_halt : Safe (watch m size ρ) (fun g' (_ : Unit) => ∃ v, v &&& runBit = 0 ∧
    g' = { g with written := Function.update g.written m.controlOffset (some v)
                  halted := true, running := false })
    (update m.controlOffset runBit 0 : Mmio π Unit) g := by
  refine (safe_update h.inMap_control fun _ v hv => licensed_control h fun hne => ?_).mono ?_
  · exact absurd (hv.trans (by decide)) hne
  · rintro g' - ⟨r, v, hv, rfl⟩
    replace hv : v &&& runBit = 0 := hv.trans (by decide)
    refine ⟨v, hv, ?_⟩
    rw [h.read_control, h.write_control, decide_eq_true hv, decide_eq_false (not_not.2 hv)]

lemma safe_update_run (hg : g.halted = true ∧ g.cleared = true ∧ ρ.complete g.written) :
    Safe (watch m size ρ) (fun g' (_ : Unit) => ∃ v, v &&& runBit ≠ 0 ∧
      g' = { g with written := Function.update g.written m.controlOffset (some v)
                    halted := false, running := true })
      (update m.controlOffset runBit runBit : Mmio π Unit) g := by
  refine (safe_update h.inMap_control fun _ v hv => licensed_control h fun _ => ?_).mono ?_
  · rw [h.read_control]
    simp [hg]
  · rintro g' - ⟨r, v, hv, rfl⟩
    have hne : v &&& runBit ≠ 0 := by
      rw [hv]
      decide
    refine ⟨v, hne, ?_⟩
    rw [h.read_control, h.write_control, decide_eq_false hne, decide_eq_true hne]

/-- The controller was told to stop, and the host's ready bit is clear. -/
structure Stopped (m : QcomUsb4Mcu) (g : Seen) : Prop where
  halted : g.halted = true
  control : ∃ v, g.written m.controlOffset = some v ∧ v &&& runBit = 0
  host : ∃ v, g.written hostControl = some v ∧ v &&& readyBit = 0

lemma safe_stop : Safe (watch m size ρ) (fun g' (_ : Unit) => Stopped m g' ∧
    ∀ offset, offset ≠ m.controlOffset → offset ≠ hostControl →
      g'.written offset = g.written offset)
    (stop m : Mmio π Unit) g := by
  have hne : m.controlOffset ≠ hostControl := (h.fixed_ne (by decide)).1.symm
  rw [stop, h.mapped, if_neg (by decide)]
  refine safe_bind.2 ((safe_update_halt h).mono ?_)
  rintro g' - ⟨v, hv, rfl⟩
  refine safe_bind.2 ((safe_update_hostControl h).mono ?_)
  rintro g' - ⟨u, hu, rfl⟩
  simp only [safe_bind, safe_ask, safe_pure, watch_readl, allow_readl, watch_expect, forall_const,
    h.read_hostControl]
  refine ⟨h.inMap_fixed (by decide) (by decide), fun _ => ⟨⟨rfl, ⟨v, ?_, hv⟩, ⟨u, ?_, hu⟩⟩, ?_⟩⟩
  · simp [Function.update_of_ne hne]
  · simp
  · intro offset h₁ h₂
    simp [Function.update_of_ne h₁, Function.update_of_ne h₂]

/-- Firmware runs and is ready, and its shared block begins at a word of the RAM. -/
structure Started (m : QcomUsb4Mcu) (g : Seen) (offset : BitVec 32) : Prop where
  running : g.running = true
  ready : g.ready = true
  control : ∃ v, g.written m.controlOffset = some v ∧ v &&& runBit ≠ 0
  host : ∃ v, g.written hostControl = some v ∧ v &&& readyBit = 0
  aligned : offset.toNat % 4 = 0
  inside : offset.toNat + sharedMinSize ≤ m.ramSize

structure StartEnd (m : QcomUsb4Mcu) (g g' : Seen) (x : ℤ × BitVec 32) : Prop where
  others : ∀ offset, offset ≠ m.controlOffset → offset ≠ hostControl →
    g'.written offset = g.written offset
  outcome : x.1 = 0 ∧ Started m g' x.2 ∨
    x.1 = -ebusy ∧ x.2 = 0 ∧ g'.running = true ∧ g'.written = g.written ∨
    x.1 ≠ 0 ∧ x.2 = 0 ∧ Stopped m g'

lemma safe_start (hc : ∀ f, (∀ offset, offset ≠ m.controlOffset → offset ≠ hostControl →
    f offset = g.written offset) → ρ.complete f) :
    Safe (watch m size ρ) (StartEnd m g) (start m : Mmio π (ℤ × BitVec 32)) g := by
  have hne : m.controlOffset ≠ hostControl := (h.fixed_ne (by decide)).1.symm
  -- whatever happened to the two registers, stopping ends the start
  have hstop : ∀ g₁ : Seen, (∀ offset, offset ≠ m.controlOffset → offset ≠ hostControl →
      g₁.written offset = g.written offset) → ∀ ret, ret ≠ 0 →
      Safe (watch m size ρ) (fun g' _ => StartEnd m g g' (ret, 0)) (stop m : Mmio π Unit) g₁ := by
    intro g₁ hg₁ ret hret
    refine (safe_stop h).mono fun g' _ hg' => ⟨fun o h₁ h₂ => ?_, .inr (.inr ⟨hret, rfl, hg'.1⟩)⟩
    rw [hg'.2 o h₁ h₂, hg₁ o h₁ h₂]
  rw [start, h.mapped, if_neg (by decide)]
  refine safe_ask_bind.2 ⟨h.inMap_control, fun r _ => ?_⟩
  rw [watch_readl, h.read_control]
  split
  · rename_i hrun
    exact ⟨fun _ _ _ => rfl, .inr (.inl ⟨rfl, rfl, decide_eq_true hrun, rfl⟩)⟩
  rename_i hrun
  rw [not_not] at hrun
  refine safe_bind.2 ((safe_update_hostControl h).mono ?_)
  rintro g' - ⟨u, hu, rfl⟩
  refine safe_bind.2 ((safe_update_run h ⟨by simp [hrun], rfl, hc _ fun o _ h₂ => ?_⟩).mono ?_)
  · exact Function.update_of_ne h₂ _ _
  rintro g' - ⟨v, hv, rfl⟩
  refine safe_bind.2 ((safe_readlPollTimeout
    (J := fun g₁ => g₁.running = true ∧ g₁.written = Function.update
      (Function.update g.written hostControl (some u)) m.controlOffset (some v))
    (K := fun g₁ status => g₁.ready = decide (status &&& readyBit ≠ 0))
    (h.inMap_fixed (by decide) (by decide))
    (fun g₁ status hg₁ => by rw [h.read_status]; exact ⟨hg₁, rfl⟩) 1000000 ⟨rfl, rfl⟩).mono ?_)
  rintro g₁ ret ⟨⟨hrunning, hwritten⟩, status, hready, hret⟩
  have hothers : ∀ offset, offset ≠ m.controlOffset → offset ≠ hostControl →
      g₁.written offset = g.written offset := by
    intro o h₁ h₂
    rw [hwritten, Function.update_of_ne h₁, Function.update_of_ne h₂]
  split
  · rename_i hret0
    exact safe_bind.2 ((hstop g₁ hothers ret hret0).mono fun _ _ hg' => hg')
  rename_i hret0
  rw [not_not] at hret0
  have hstatus : g₁.ready = true := by
    rcases hret with ⟨-, hc⟩ | ⟨hc, -⟩
    · rw [hready, hc]
    · exact absurd (hc.symm.trans hret0) (by decide)
  refine safe_ask_bind.2 ⟨h.inMap_shared, fun offset _ => ?_⟩
  rw [watch_readl, h.read_shared]
  split
  · exact safe_bind.2 ((hstop g₁ hothers (-eproto) (by decide)).mono fun _ _ hg' => hg')
  · rename_i hoffset
    rw [not_or, not_not, not_lt] at hoffset
    have hmin := h.min
    refine ⟨hothers, .inl ⟨rfl, hrunning, hstatus, ⟨v, ?_, hv⟩, ⟨u, ?_, hu⟩, hoffset.1, ?_⟩⟩
    · rw [hwritten, Function.update_self]
    · rw [hwritten, Function.update_of_ne hne.symm, Function.update_self]
    · dsimp only
      omega

/-- How a command ends: only the mailbox is written, and a command that is acknowledged went to
firmware that runs, is ready and took it. -/
structure CommandEnd (m : QcomUsb4Mcu) (cmd : BitVec 32) (g g' : Seen) (ret : ℤ) : Prop where
  others : ∀ offset, offset ≠ m.mailbox → g'.written offset = g.written offset
  taken : ret = 0 → g'.running = true ∧ g'.ready = true ∧ g'.empty = true ∧
    g'.written m.mailbox = some cmd

lemma safe_command (cmd : BitVec 32) (us : ℕ) :
    Safe (watch m size ρ) (CommandEnd m cmd g) (command m cmd us : Mmio π ℤ) g := by
  have hrefused : ∀ g' : Seen, g'.written = g.written → ∀ ret : ℤ, ret ≠ 0 →
      CommandEnd m cmd g g' ret :=
    fun g' hg' ret hret => ⟨fun _ _ => by rw [hg'], fun h0 => absurd h0 hret⟩
  rw [command]
  split
  · exact hrefused g rfl (-einval) (by decide)
  rename_i hargs
  simp only [not_or] at hargs
  refine safe_ask_bind.2 ⟨h.inMap_control, fun r _ => ?_⟩
  rw [watch_readl, h.read_control]
  split
  · exact hrefused _ (by rfl) (-ehostdown) (by decide)
  rename_i hrun
  refine safe_ask_bind.2 ⟨h.inMap_fixed (by decide) (by decide), fun s _ => ?_⟩
  rw [watch_readl, h.read_status]
  split
  · exact hrefused _ (by rfl) (-eagain) (by decide)
  rename_i hready
  refine safe_ask_bind.2 ⟨h.inMap_mailbox, fun old _ => ?_⟩
  rw [watch_readl, h.read_mailbox]
  split
  · exact hrefused _ (by rfl) (-ebusy) (by decide)
  rename_i hempty
  rw [not_not] at hempty
  refine safe_ask_bind.2 ⟨⟨h.inMap_mailbox, licensed_mailbox h hargs.2.1
    ⟨decide_eq_true hrun, decide_eq_true hready, decide_eq_true hempty⟩⟩, fun _ _ => ?_⟩
  rw [watch_writel, h.write_mailbox]
  -- the poll looks at the mailbox only
  refine (safe_readlPollTimeout (K := fun g₁ v => g₁.empty = decide (v = 0))
    (J := fun g₁ => g₁.running = true ∧ g₁.ready = true ∧
      g₁.written = Function.update g.written m.mailbox (some cmd)) h.inMap_mailbox
    (fun g₁ v hg₁ => by rw [h.read_mailbox]; exact ⟨hg₁, rfl⟩) us
    ⟨decide_eq_true hrun, decide_eq_true hready, rfl⟩).mono ?_
  rintro g₁ ret ⟨⟨hrunning, hready', hwritten⟩, v, hv, hret⟩
  refine ⟨fun o ho => by rw [hwritten, Function.update_of_ne ho], fun h0 => ?_⟩
  rcases hret with ⟨-, hc⟩ | ⟨hc, -⟩
  · exact ⟨hrunning, hready', hv.trans hc, by rw [hwritten, Function.update_self]⟩
  · exact absurd (hc.symm.trans h0) (by decide)

lemma safe_writeWord {offset v : BitVec 32} (ho : offset.toNat % 4 = 0)
    (hr : offset.toNat + 4 ≤ m.ramSize) (hg : g.halted = true) :
    Safe (watch m size ρ) (fun g' ret => ret = 0 ∧ g' = { g with
      written := Function.update g.written (m.ramOffset + offset.toNat) (some v) })
      (writeWord m offset v : Mmio π ℤ) g := by
  have hin : m.InRam (m.ramOffset + offset.toNat) := ⟨by omega, by omega⟩
  have := h.ram_le
  have := h.ram_aligned
  have := h.ram_ge
  refine safe_ask_bind.2 ⟨⟨⟨by omega, by omega⟩, licensed_load h (.inl hin) hg⟩,
    fun _ _ => ⟨rfl, ?_⟩⟩
  refine write_other ?_ ?_ ?_
  · exact fun hc => h.not_inRam_control (hc ▸ hin)
  · exact fun hc => h.not_inRam_mailbox (hc ▸ hin)
  · unfold hostControl
    omega

/-- How an upload ends: refused before anything is written, or with the whole image. -/
inductive UploadEnd (m : QcomUsb4Mcu) (data : Option (ℕ → Byte)) (size : ℕ) (g g' : Seen) : ℤ → Prop
  | refused {ret : ℤ} (hret : ret ≠ 0) (hw : g'.written = g.written) :
      UploadEnd m data size g g' ret
  | done (data' : ℕ → Byte) (rs : List Record) (hdata : data = some data')
      (hrs : Reads data' size m.ramSize rs) (hhalted : g'.halted = true)
      (hw : g'.written = overlay m.ramOffset
        (Function.update g.written m.controlOffset (some 0)) (cells rs)) :
      UploadEnd m data size g g' 0

lemma safe_upload (data : Option (ℕ → Byte)) (n : ℕ) :
    Safe (watch m size ρ) (UploadEnd m data n g) (upload m data n : Mmio π ℤ) g := by
  rw [upload, h.mapped, if_neg (by decide)]
  split
  · rename_i hv
    exact .refused hv rfl
  rename_i hv
  rw [not_not] at hv
  refine safe_ask_bind.2 ⟨h.inMap_control, fun r _ => ?_⟩
  rw [watch_readl, h.read_control]
  split
  · exact .refused (by decide) rfl
  rename_i hrun
  rw [not_not] at hrun
  refine safe_ask_bind.2 ⟨⟨h.inMap_control, licensed_control h fun h0 => absurd rfl h0⟩,
    fun _ _ => ?_⟩
  rw [watch_writel, h.write_control]
  cases data with
  | none => exact absurd (show -einval = 0 from hv) (by decide)
  | some data =>
    obtain ⟨rs, hrs⟩ := fwValidate_reads.1 hv
    rw [hrs.fwUpload_eq]
    refine safe_bind.2 ((safe_writeCells (w := watch m size ρ)
      (J := fun done g' => g'.halted = true ∧ g'.written = overlay m.ramOffset
        (Function.update g.written m.controlOffset (some 0)) done) ?_ ⟨rfl, rfl⟩).mono ?_)
    · rintro done c rest hsplit g' ⟨hhalted, hwritten⟩
      obtain ⟨h₁, h₂⟩ := mem_cells hrs.fits (c := c) (by rw [hsplit]; simp)
      refine (safe_writeWord h h₁ h₂ hhalted).mono ?_
      rintro g'' ret ⟨rfl, rfl⟩
      refine ⟨rfl, hhalted, ?_⟩
      dsimp only
      rw [hwritten, overlay, overlay, List.foldl_append]
      rfl
    · rintro g' ret ⟨rfl, hhalted, hwritten⟩
      rw [if_neg (not_not.2 rfl)]
      refine safe_ask_bind.2 ⟨h.inMap_control, fun r' _ => ?_⟩
      rw [watch_readl, h.read_control]
      exact .done data rs rfl hrs (by rw [hhalted]; rfl) hwritten

lemma safe_storeWords {drom : List Byte} (hr : m.dromOffset + dromSize ≤ m.ramSize) (n i : ℕ)
    (hi : i + 4 * n ≤ dromSize) (h4 : i % 4 = 0) (hg : g.halted = true) :
    Safe (watch m size ρ) (fun g' (_ : Unit) => g'.halted = true ∧
      g'.written = overlay m.ramOffset g.written (dromCells m.dromOffset drom n i))
      (storeWords m drom n i : Mmio π Unit) g := by
  induction n generalizing i g with
  | zero => exact ⟨hg, rfl⟩
  | succ n ih =>
    have hsmall := h.drom_small
    have haligned := h.drom_aligned
    have hoffset : (BitVec.ofNat 32 (m.dromOffset + i)).toNat = m.dromOffset + i := by
      rw [BitVec.toNat_ofNat, Nat.mod_eq_of_lt (by omega)]
    refine safe_bind.2 ((safe_writeWord h (by omega) (by omega) hg).mono ?_)
    rintro g' ret ⟨-, rfl⟩
    refine (ih (i + 4) (by omega) (by omega) ?_).mono fun _ _ hx => hx
    exact hg

omit h in
lemma mem_dromCells {base n i : ℕ} {drom : List Byte} {c : BitVec 32 × BitVec 32}
    (hc : c ∈ dromCells base drom n i) (hsmall : base + i + 4 * n ≤ 2 ^ 32) :
    base + i ≤ c.1.toNat ∧ c.1.toNat + 4 ≤ base + i + 4 * n := by
  induction n generalizing i with
  | zero => cases hc
  | succ n ih =>
    rcases List.mem_cons.1 hc with rfl | hc
    · rw [BitVec.toNat_ofNat, Nat.mod_eq_of_lt (by omega)]
      omega
    · have := ih hc (by omega)
      omega

/-- What is left by the descriptor: the identity, and its words in the RAM. -/
def withDrom (m : QcomUsb4Mcu) (drom : List Byte) (f : ℕ → Option (BitVec 32)) :
    ℕ → Option (BitVec 32) :=
  overlay m.ramOffset (Function.update (Function.update f uidHigh (some (word (byte drom) 5)))
    uidLow (some (word (byte drom) 1))) (dromCells m.dromOffset drom (dromSize / 4) 0)

lemma safe_identity {α : Type} {R : Seen → α → Prop} {d : Mmio π α} {high low : BitVec 32}
    (hg : g.halted = true)
    (hd : Safe (watch m size ρ) R d { g with
      written :=
        Function.update (Function.update g.written uidHigh (some high)) uidLow (some low) }) :
    Safe (watch m size ρ) R
      (ask (.writel uidHigh high) >>= fun _ => ask (.writel uidLow low) >>= fun _ => d) g := by
  obtain ⟨h₁, h₂⟩ : uidHigh ≠ m.controlOffset ∧ uidHigh ≠ m.mailbox := h.fixed_ne (by decide)
  obtain ⟨h₃, h₄⟩ : uidLow ≠ m.controlOffset ∧ uidLow ≠ m.mailbox := h.fixed_ne (by decide)
  refine safe_ask_bind.2 ⟨⟨h.inMap_fixed (by decide) (by decide),
    licensed_load h (.inr (.inl rfl)) hg⟩, fun _ _ => ?_⟩
  rw [watch_writel, write_other h₁ h₂ (by decide)]
  refine safe_ask_bind.2 ⟨⟨h.inMap_fixed (by decide) (by decide),
    licensed_load h (.inr (.inr rfl)) hg⟩, fun _ _ => ?_⟩
  rw [watch_writel, write_other h₃ h₄ (by decide)]
  exact hd

lemma safe_storeDrom {drom : List Byte} (hr : m.dromOffset + dromSize ≤ m.ramSize)
    (hg : g.halted = true) :
    Safe (watch m size ρ) (fun g' (_ : Unit) => g'.halted = true ∧
      g'.written = withDrom m drom g.written) (storeDrom m drom : Mmio π Unit) g := by
  refine safe_identity h hg ?_
  refine safe_bind.2 ((safe_storeWords h hr (dromSize / 4) 0 (by decide) rfl (by exact hg)).mono ?_)
  rintro g' - ⟨hhalted, hwritten⟩
  refine safe_ask_bind.2 ⟨h.inMap_control, fun r _ => ?_⟩
  rw [watch_readl, h.read_control]
  exact ⟨by rw [hhalted]; rfl, hwritten⟩

omit h in
lemma prepareDrom_eq_zero {crc32c : List Byte → BitVec 32} {serial : BitVec 32} {router : Byte}
    (hret : (prepareDrom crc32c m serial router).2 = 0) :
    m.dromOffset + dromSize ≤ m.ramSize ∧
      Genuine crc32c serial router (prepareDrom crc32c m serial router).1 := by
  unfold prepareDrom at hret ⊢
  split at hret
  · cases hret
  rw [if_neg ‹_›]
  split at hret
  · cases hret
  rename_i hroom
  rw [if_neg hroom]
  rw [dromBuild_eq] at hret ⊢
  split at hret
  · cases hret
  rename_i hrouter
  rw [if_neg hrouter]
  simp only [not_or, not_lt] at hroom hrouter
  refine ⟨by omega, ?_⟩
  have hnil : (List.replicate dromSize (0 : Byte)).drop dromSize = [] := rfl
  rw [hnil, List.append_nil]
  exact genuine_dromData hrouter.2

/-- How a load ends: refused before anything is written, or with the image and the descriptor. -/
inductive LoadEnd (crc32c : List Byte → BitVec 32) (m : QcomUsb4Mcu) (data : Option (ℕ → Byte))
    (size : ℕ) (serial : BitVec 32) (router : Byte) (g g' : Seen) : ℤ → Prop
  | refused {ret : ℤ} (hret : ret ≠ 0) (hw : g'.written = g.written) :
    LoadEnd crc32c m data size serial router g g' ret
  | done (data' : ℕ → Byte) (rs : List Record) (drom : List Byte) (hdata : data = some data')
      (hrs : Reads data' size m.ramSize rs) (hdrom : Genuine crc32c serial router drom)
      (hw : g'.written = withDrom m drom (overlay m.ramOffset
        (Function.update g.written m.controlOffset (some 0)) (cells rs))) :
    LoadEnd crc32c m data size serial router g g' 0

lemma safe_load (crc32c : List Byte → BitVec 32) (data : Option (ℕ → Byte)) (n : ℕ)
    (serial : BitVec 32) (router : Byte) :
    Safe (watch m size ρ) (LoadEnd crc32c m data n serial router g)
      (load crc32c m data n serial router : Mmio π ℤ) g := by
  rw [load]
  dsimp only
  split
  · rename_i hret
    exact .refused hret rfl
  rename_i hret
  obtain ⟨hroom, hgenuine⟩ := prepareDrom_eq_zero (not_not.1 hret)
  refine safe_bind.2 ((safe_upload h data n).mono ?_)
  intro g' ret hend
  cases hend with
  | refused hret hw =>
    rw [if_pos hret]
    exact .refused hret hw
  | done data' rs hdata hrs hhalted hw =>
    rw [if_neg (not_not.2 rfl)]
    refine safe_bind.2 ((safe_storeDrom h hroom hhalted).mono ?_)
    rintro g'' - ⟨-, hw'⟩
    exact .done data' rs _ hdata hrs hgenuine (by rw [hw', hw])

lemma safe_writeDrom (crc32c : List Byte → BitVec 32) (serial : BitVec 32) (router : Byte) :
    Safe (watch m size ρ) (fun g' ret => ret ≠ 0 → g'.written = g.written)
      (writeDrom crc32c m serial router : Mmio π ℤ) g := by
  rw [writeDrom]
  dsimp only
  split
  · exact fun _ => rfl
  rename_i hret
  obtain ⟨hroom, -⟩ := prepareDrom_eq_zero (not_not.1 hret)
  refine safe_ask_bind.2 ⟨h.inMap_control, fun r _ => ?_⟩
  rw [watch_readl, h.read_control]
  split
  · exact fun _ => rfl
  rename_i hrun
  rw [not_not] at hrun
  refine safe_bind.2 ((safe_storeDrom h hroom (by simp [hrun])).mono ?_)
  exact fun _ _ _ h0 => absurd rfl h0

end Functions

/-! ### Sessions -/

inductive Op where
  | upload (data : Option (ℕ → Byte)) (size : ℕ)
  | writeDrom (serial : BitVec 32) (router : Byte)
  | load (data : Option (ℕ → Byte)) (size : ℕ) (serial : BitVec 32) (router : Byte)
  | start
  | command (cmd : BitVec 32) (timeoutUs : ℕ)
  | stop

def Op.run : Op → Mmio π ℤ
  | .upload data size => Mcu.upload m data size
  | .writeDrom serial router => Mcu.writeDrom crc32c m serial router
  | .load data size serial router => Mcu.load crc32c m data size serial router
  | .start => do
    let x ← Mcu.start m
    return x.1
  | .command cmd us => Mcu.command m cmd us
  | .stop => do
    Mcu.stop m
    return 0

/-- One call after the other, whatever they return. -/
def session : List Op → Mmio π Unit
  | [] => return ()
  | op :: ops => do
    let _ ← op.run crc32c m
    session ops

variable {crc32c m}

lemma safe_session {size : ℕ} (h : m.Placed size) (ops : List Op) (g : Seen) :
    Safe (watch m size {}) (fun _ _ => True) (session crc32c m ops : Mmio π Unit) g := by
  induction ops generalizing g with
  | nil => trivial
  | cons op ops ih =>
    refine safe_bind.2 (Safe.mono (R := fun _ _ => True) ?_ fun g _ _ => ih g)
    cases op with
    | upload data n => exact (safe_upload h data n).mono fun _ _ _ => trivial
    | writeDrom serial router =>
      exact (safe_writeDrom h crc32c serial router).mono fun _ _ _ => trivial
    | load data n serial router =>
      exact (safe_load h crc32c data n serial router).mono fun _ _ _ => trivial
    | start => exact safe_bind.2 ((safe_start h fun _ _ => trivial).mono fun _ _ _ => trivial)
    | command cmd us => exact (safe_command h cmd us).mono fun _ _ _ => trivial
    | stop => exact safe_bind.2 ((safe_stop h).mono fun _ _ _ => trivial)

/-- **The controller is driven by the rules.** Over any calls in any order, whatever the registers
answer, every access is a word of the mapping; the RAM and the identity are written while the
controller is halted, it is set running when it is halted and the host's ready bit is clear, and a
command goes to firmware that runs, is ready and has an empty mailbox. -/
theorem session_allowed {base size ramSize : ℕ} {layout : Layout}
    (hinit : mcuInit base size ramSize layout = (m, 0)) {ops : List Op}
    {tr : List (Io π × Reply)} {u : Unit} (hd : Does (session crc32c m ops) tr u) :
    (watch m size {}).Allowed {} tr :=
  ((safe_session (mcuInit_placed hinit) ops {}).does hd fun _ _ _ _ _ => trivial).1

def legacyMcu : QcomUsb4Mcu := (mcuInit 4 0x100000 0xf000 .legacy).1

lemma mcuInit_legacyMcu : mcuInit 4 0x100000 0xf000 .legacy = (legacyMcu, 0) := rfl

/-- Two loads and a start, on registers that read as zero. -/
theorem session_allowed_legacyMcu :
    (watch legacyMcu 0x100000 {} : Watch (Io Empty) Reply Seen).Allowed {}
    (run (fun _ _ => {}) [] (session (fun _ => 0) legacyMcu [.load (some oneWord) 12 7 0, .start,
      .load (some oneWord) 12 7 1, .command 2 10, .stop])).1 :=
  session_allowed mcuInit_legacyMcu (run_does _ [] _)

/-- **A load is all or nothing.** Whatever the registers answer, it is refused before anything is
written, or the RAM holds the words of the file, with a genuine descriptor over them, and the
identity registers hold the router's. -/
theorem load_all_or_nothing {base size ramSize : ℕ} {layout : Layout}
    (hinit : mcuInit base size ramSize layout = (m, 0)) {data : Option (ℕ → Byte)} {n : ℕ}
    {serial : BitVec 32} {router : Byte} {tr : List (Io π × Reply)} {ret : ℤ}
    (hd : Does (load crc32c m data n serial router) tr ret) :
    LoadEnd crc32c m data n serial router {} ((watch m size {}).after {} tr) ret :=
  ((safe_load (mcuInit_placed hinit) crc32c data n serial router).does hd
    fun _ _ _ _ _ => trivial).2

theorem load_all_or_nothing_legacyMcu : LoadEnd (fun _ => 0) legacyMcu (some oneWord) 12 7 0 {}
    ((watch legacyMcu 0x100000 {} : Watch (Io Empty) Reply Seen).after {}
      (run (fun _ _ => {}) [] (load (fun _ => 0) legacyMcu (some oneWord) 12 7 0)).1)
    (run (fun _ _ => {}) [] (load (fun _ => 0) legacyMcu (some oneWord) 12 7 0 : Mmio Empty ℤ)).2 :=
  load_all_or_nothing mcuInit_legacyMcu (run_does _ [] _)

/-- **How a start ends.** Whatever the registers answer: the firmware runs, is ready and has its
shared block in the RAM; or the controller was running already and nothing was written; or it was
stopped again. No other register is written than the control register and the host's. -/
theorem start_outcome {base size ramSize : ℕ} {layout : Layout}
    (hinit : mcuInit base size ramSize layout = (m, 0)) {g : Seen} {tr : List (Io π × Reply)}
    {x : ℤ × BitVec 32} (hd : Does (start m) tr x) :
    StartEnd m g ((watch m size {}).after g tr) x :=
  ((safe_start (mcuInit_placed hinit) fun _ _ => trivial).does hd fun _ _ _ _ _ => trivial).2

theorem start_outcome_legacyMcu : StartEnd legacyMcu {}
    ((watch legacyMcu 0x100000 {} : Watch (Io Empty) Reply Seen).after {}
      (run (fun _ _ => {}) [] (start legacyMcu)).1)
    (run (fun _ _ => {}) [] (start legacyMcu : Mmio Empty (ℤ × BitVec 32))).2 :=
  start_outcome mcuInit_legacyMcu (run_does _ [] _)

end YogaUsb4.Mcu
