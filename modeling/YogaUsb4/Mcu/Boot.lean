import YogaUsb4.Mcu.Control

/-!
The cold start with the callbacks of the driver: the table of operations asks for an upload, a
descriptor, a start and a first command, and the driver carries them out on the router's registers,
between calls into other drivers that may fail. The controller is told to run only when the whole
image and the descriptor are in place.
-/

namespace YogaUsb4.Mcu

open Dialog LittleEndian Startup
open Wire (Byte byte)

/-! ### The code -/

def x1RouterSize : ℕ := 0x100000
def x1RamSize : ℕ := 0xf000
def x1CommandTimeoutUs : ℕ := 10000

/-- The calls of `x1_step` into other drivers. -/
inductive Provider where
  | phySetMode | phyInit | phyPowerOn
  | pins (i : ℕ)
  | rxSelect (phy : Bool)
  | resetsAssert | resetsDeassert
  | ctrlBit (on : Bool)
  | dpReset (on : Bool)
  | pipeAssert | pipeDeassert
  | sysReady | sysForceMem | tcsrRoute | pipeHwcg

/-- The fields of `struct x1_host` that the callbacks use; `firmware` says that the configuration
has the host's own image. -/
structure Host where
  mcu : QcomUsb4Mcu
  serial : BitVec 32
  firmware : Bool := true
  phyInitialized : Bool := false
  phyOn : Bool := false
  coldOwned : Bool := false
  shared : BitVec 32 := 0

abbrev HostAct := Host → Mmio Provider (Host × Startup.Reply)

def x1Read (offset : BitVec 32) : HostAct := fun host => do
  if offset &&& 3 ≠ 0 ∨ offset.toNat > x1RouterSize - 4 then return (host, { ret := -einval })
  let r ← ask (.readl offset.toNat)
  return (host, { ret := 0, value := r.value })

def x1Update (offset mask value : BitVec 32) : HostAct := fun host => do
  let (host, before) ← x1Read offset host
  if before.ret ≠ 0 then return (host, { ret := before.ret })
  let _ ← ask (.writel offset.toNat ((before.value &&& ~~~ mask) ||| (value &&& mask)))
  return (host, { ret := 0 })

/-- `readl(..) || readl(..) || ..` -/
def anyNonzero : List ℕ → Mmio Provider Bool
  | [] => return false
  | offset :: offsets => do
    let r ← ask (.readl offset)
    if r.value ≠ 0 then return true
    anyNonzero offsets

def x1Owner : HostAct := fun host => do
  if host.firmware = false ∨ host.phyInitialized = true then return (host, { ret := -einval })
  -- no startup on live, pending, or inherited MCU state
  let busy ← anyNonzero [0x22000, 0x18, 0x22010, 0x2201c]
  if busy then return (host, { ret := -ebusy })
  let r ← ask (.readl 0x78640)
  if r.value ≠ 3 then return (host, { ret := -enodev })
  return ({ host with coldOwned := true }, { ret := 0 })

/-- The first loop of `x1_store_drom` at `i`, with `n` rounds to go. -/
def x1WriteDrom (drom : List Byte) : ℕ → ℕ → Mmio Provider Unit
  | 0, _ => return ()
  | n + 1, i => do
    let _ ← ask (.writel (0x20f20 + i) (word (byte drom) i))
    x1WriteDrom drom n (i + 4)

/-- The second loop. -/
def x1CheckDrom (drom : List Byte) : ℕ → ℕ → Mmio Provider ℤ
  | 0, _ => return 0
  | n + 1, i => do
    let r ← ask (.readl (0x20f20 + i))
    if r.value ≠ word (byte drom) i then return -eio
    x1CheckDrom drom n (i + 4)

variable (crc32c : List Byte → BitVec 32)

def x1StoreDrom (host : Host) : Mmio Provider ℤ := do
  let (drom, ret) := x1DromBuild crc32c (List.replicate dromSize 0) host.serial 0
  if ret ≠ 0 then return ret
  -- `sizeof(drom) > host->mcu.ram_size - 0xdf20`, in 64 bits
  if host.mcu.dromOffset ≠ 0xdf20 ∨ dromSize > (host.mcu.ramSize + 2 ^ 64 - 0xdf20) % 2 ^ 64 then
    return -einval
  let r ← ask (.readl host.mcu.controlOffset)
  if r.value ≠ 0 then return -einval
  let _ ← ask (.writel 0x801c (word (byte drom) 5))
  let _ ← ask (.writel 0x8020 (word (byte drom) 1))
  x1WriteDrom drom (dromSize / 4) 0
  x1CheckDrom drom (dromSize / 4) 0

/-- `qcom_usb4_typec_preset_command`: its result and the command. -/
def presetCommand (preset : BitVec 32) : ℤ × BitVec 32 :=
  if preset > 0xffff then (-einval, 0) else (0, 2 ||| preset <<< 8)

def provide (p : Provider) : Mmio Provider ℤ := do
  let r ← ask (.provider p)
  return r.ret

/-- `x1_step`; the steps that it does not know are an error. -/
def x1Step (cfg : Config) (step : Step) (host : Host) : Mmio Provider (Host × ℤ) :=
  match step with
  | .phyPrepare => do
    let ret ← provide .phySetMode
    if ret ≠ 0 then return (host, ret)
    let ret ← provide .phyInit
    return ({ host with phyInitialized := ret = 0 }, ret)
  | .rxPrepare => do return (host, ← provide (.pins 0))
  | .txbPrepare => do return (host, ← provide (.pins 1))
  | .txaPrepare => do return (host, ← provide (.pins 2))
  | .rxActive => do return (host, ← provide (.pins 3))
  | .txbActive => do return (host, ← provide (.pins 4))
  | .txaActive => do return (host, ← provide (.pins 5))
  | .rxClockReference => do return (host, ← provide (.rxSelect false))
  | .rxClockPhy => do return (host, ← provide (.rxSelect true))
  | .miscResetAssert => do return (host, ← provide .resetsAssert)
  | .miscResetClear => do return (host, ← provide .resetsDeassert)
  | .extraResetAssert => do return (host, ← provide (.ctrlBit true))
  | .extraResetClear => do return (host, ← provide (.ctrlBit false))
  | .dpResetAssert => do return (host, ← provide (.dpReset true))
  | .dpResetClear => do return (host, ← provide (.dpReset false))
  | .pipeResetAssert => do return (host, ← provide .pipeAssert)
  | .pipeResetClear => do return (host, ← provide .pipeDeassert)
  | .sysReady => do return (host, ← provide .sysReady)
  | .upload => do return (host, ← upload host.mcu cfg.firmware cfg.firmwareSize)
  | .sysMemoryForce => do return (host, ← provide .sysForceMem)
  | .tcsrRoute => do return (host, ← provide .tcsrRoute)
  | .pipeHwcgOff => do return (host, ← provide .pipeHwcg)
  | .drom => do return (host, ← x1StoreDrom crc32c host)
  | .phyComposite => do
    let ret ← provide .phyPowerOn
    return ({ host with phyOn := ret = 0 }, ret)
  | .mcuStart => do
    let (ret, shared) ← start host.mcu
    return ({ host with shared }, ret)
  | .preset => do
    let (ret, cmd) := presetCommand cfg.mcuPreset
    if ret ≠ 0 then return (host, ret)
    return (host, ← command host.mcu cmd x1CommandTimeoutUs)
  | _ => return (host, -einval)

/-- `x1_start_ops`; a delay touches no register. -/
def x1StartOps (cfg : Config) : Startup.Call → HostAct
  | .owner => x1Owner
  | .step step => fun host => do
    let (host, ret) ← x1Step crc32c cfg step host
    return (host, { ret })
  | .read offset => x1Read offset
  | .update offset mask value => x1Update offset mask value
  | .delay _ => fun host => return (host, { ret := 0 })

/-- `x1_startup_run(&host->state, cfg, &x1_start_ops, host)`. -/
def boot (cfg : Config) (s : X1State) (host : Host) :
    Mmio Provider (Host × Option X1State × ℤ) :=
  (startupRun crc32c (some cfg) (some {}) (some s)).serve (x1StartOps crc32c cfg) host

/-! ### The table -/

/-- How far the start is. -/
inductive Stage where
  | fresh | uploaded | described | started | commanded
  | failed (running : Bool)
  deriving DecidableEq

namespace Stage

/-- Nothing failed so far. -/
def live : Stage → Bool
  | .failed _ => false
  | _ => true

/-- The firmware was not started. -/
def calm : Stage → Bool
  | .started | .commanded => false
  | .failed running => !running
  | _ => true

/-- What a callback that worked does to the stage. -/
def next (g : Stage) : Startup.Call → Stage
  | .step .upload => .uploaded
  | .step .drom => .described
  | .step .mcuStart => .started
  | .step .preset => .commanded
  | _ => g

end Stage

def tableRegs : List ℕ :=
  [0x81000, 0x81018, 0x81004, 0x80c8, 0x8148, 0x8144, 0xd000, 0xd064, 0x1200c]

namespace Stage

/-- When a callback may be called. -/
def allows (g : Stage) : Startup.Call → Bool
  | .owner => g = .fresh
  | .step .upload => g = .fresh
  | .step .drom => g = .uploaded
  | .step .mcuStart => g = .described
  | .step .preset => g = .started
  | .step _ | .delay _ => g.live
  | .read offset => offset = 0x1200c && g.live
  | .update offset _ _ => tableRegs.contains offset.toNat && g.live

/-- An entry of the table may be performed, and only the first command may fail once the firmware
is started. -/
def fits (g : Stage) (op : Operation) : Bool :=
  (op.step = .preset || g.calm) &&
  match op.kind with
  | .provider => g.allows (.step op.step)
  | .update => g.allows (.update op.offset op.mask op.value)
  | .delay | .releaseDelay => g.live
  | .clear1200c => g.live && g.calm

/-- The stage after an entry that worked. -/
def after (g : Stage) (op : Operation) : Stage :=
  match op.kind with
  | .provider => g.next (.step op.step)
  | _ => g

/-- The entries may be performed one after the other. -/
def fitsAll : Stage → List Operation → Bool
  | _, [] => true
  | g, op :: ops => g.fits op && (g.after op).fitsAll ops

end Stage

lemma fitsAll_operations : Stage.fresh.fitsAll operations = true := by decide

lemma after_operations : operations.foldl Stage.after .fresh = .commanded := by decide

/-- The observer of the callbacks. -/
def stages : Watch Startup.Call Startup.Reply Stage where
  look g q r :=
    match q with
    | .delay _ => g
    | q => if r.ret = 0 then g.next q else .failed (!g.calm)
  allow g q := g.allows q = true

section Table

variable {g : Stage}

lemma safe_clear1200c (n : ℕ) (hg : g.live = true) (hcalm : g.calm = true) :
    Safe stages (fun g' ret => (ret = 0 → g' = g) ∧ g'.calm = true) (clear1200c n) g := by
  have hfailed : (Stage.failed (!g.calm)).calm = true := by rw [hcalm]; rfl
  have hread : stages.allow g (.read 0x1200c) := by simpa [stages, Stage.allows] using hg
  have hupdate : stages.allow g (.update 0x1200c bit31 0) := by
    simpa [stages, Stage.allows, tableRegs] using hg
  -- The induction is on the tries that are left.
  induction n with
  | zero =>
    refine safe_ask_bind.2 ⟨hread, fun r _ => ?_⟩
    split
    · rename_i hr
      exact ⟨fun h0 => absurd h0 hr, by simp only [stages, if_neg hr]; exact hfailed⟩
    rename_i hr
    have hlook : stages.look g (.read 0x1200c) r = g := if_pos (not_not.1 hr)
    rw [hlook]
    split
    · exact safe_ask_bind.2 ⟨hg, fun _ _ => ⟨fun _ => rfl, hcalm⟩⟩
    · exact ⟨fun h0 => absurd h0 (by decide), hcalm⟩
  | succ n ih =>
    refine safe_ask_bind.2 ⟨hread, fun r _ => ?_⟩
    split
    · rename_i hr
      exact ⟨fun h0 => absurd h0 hr, by simp only [stages, if_neg hr]; exact hfailed⟩
    rename_i hr
    have hlook : stages.look g (.read 0x1200c) r = g := if_pos (not_not.1 hr)
    rw [hlook]
    split
    · exact safe_ask_bind.2 ⟨hg, fun _ _ => ⟨fun _ => rfl, hcalm⟩⟩
    refine safe_ask_bind.2 ⟨hupdate, fun u _ => ?_⟩
    split
    · rename_i hu
      exact ⟨fun h0 => absurd h0 hu, by simp only [stages, if_neg hu]; exact hfailed⟩
    rename_i hu
    have hlook' : stages.look g (.update 0x1200c bit31 0) u = g := if_pos (not_not.1 hu)
    rw [hlook']
    exact safe_ask_bind.2 ⟨hg, fun _ _ => ih⟩

def EntryEnd (g : Stage) (op : Operation) (g' : Stage) (ret : ℤ) : Prop :=
  (ret = 0 → g' = g.after op) ∧ (ret ≠ 0 → op.step = .preset ∨ g'.calm = true)

lemma safe_execute (us : BitVec 32) (op : Operation) (h : g.fits op = true) :
    Safe stages (EntryEnd g op) (execute us op) g := by
  obtain ⟨hstep, hkind⟩ := Bool.and_eq_true_iff.1 h
  have hfail : op.step = .preset ∨ (Stage.failed (!g.calm)).calm = true := by
    simpa [Stage.calm] using hstep
  -- A callback that fails ends the table, and quietly up to the preset.
  have hcall : ∀ q : Startup.Call, g.allows q = true → (∀ us, q ≠ .delay us) →
      g.next q = g.after op →
      Safe stages (EntryEnd g op) (ask q >>= fun r => pure r.ret : Dialog _ Startup.Reply ℤ) g := by
    intro q hq hd hnext
    have hlook : ∀ r : Startup.Reply, stages.look g q r =
        if r.ret = 0 then g.next q else .failed (!g.calm) := by
      cases q with
      | delay us => exact absurd rfl (hd us)
      | _ => exact fun _ => rfl
    refine safe_ask_bind.2 ⟨hq, fun r _ => ⟨fun h0 => ?_, fun h0 => ?_⟩⟩
    · rw [hlook, if_pos h0, hnext]
    · rw [hlook, if_neg h0]
      exact hfail
  have hdelay : ∀ us, g.live = true → g.after op = g →
      Safe stages (EntryEnd g op) (ask (.delay us) >>= fun _ => pure 0) g :=
    fun us hg hafter =>
      safe_ask_bind.2 ⟨hg, fun _ _ => ⟨fun _ => hafter.symm, fun h0 => absurd rfl h0⟩⟩
  cases hk : op.kind with
  | provider =>
    simp only [hk] at hkind
    simp only [execute, hk]
    exact hcall _ hkind (by simp) (by simp only [Stage.after, hk])
  | update =>
    simp only [hk] at hkind
    simp only [execute, hk]
    exact hcall _ hkind (by simp) (by simp only [Stage.after, Stage.next, hk])
  | delay =>
    simp only [hk] at hkind
    simp only [execute, hk]
    exact hdelay _ hkind (by simp only [Stage.after, hk])
  | releaseDelay =>
    simp only [hk] at hkind
    simp only [execute, hk]
    exact hdelay _ hkind (by simp only [Stage.after, hk])
  | clear1200c =>
    simp only [hk, Bool.and_eq_true] at hkind
    simp only [execute, hk]
    refine (safe_clear1200c 11 hkind.1 hkind.2).mono fun g' ret hend => ⟨fun h0 => ?_, fun _ => ?_⟩
    · simp only [Stage.after, hk, hend.1 h0]
    · exact .inr hend.2

lemma safe_track {R : Stage → X1State × ℤ → Prop} {step : Step}
    {d : Dialog Startup.Call Startup.Reply ℤ} {s : X1State} :
    Safe stages R (track step d s) g ↔ Safe stages (fun g ret => if ret ≠ 0 then
      R g ({ s with active := step }, ret)
      else R g ({ s with active := step, completed := step }, 0)) d g := by
  unfold track
  rw [safe_bind]
  simp only [safe_ite, safe_pure]

def TableEnd (last : Stage) (g : Stage) (x : X1State × ℤ) : Prop :=
  (x.2 = 0 → g = last) ∧ (x.2 ≠ 0 → x.1.active = .preset ∨ g.calm = true)

lemma safe_entries (us : BitVec 32) (ops : List Operation) (s : X1State)
    (h : g.fitsAll ops = true) :
    Safe stages (TableEnd (ops.foldl Stage.after g))
      (Act.list (ops.map fun op => track op.step (execute us op)) s) g := by
  induction ops generalizing g s with
  | nil => exact ⟨fun _ => rfl, fun h0 => absurd rfl h0⟩
  | cons op ops ih =>
    obtain ⟨hop, hops⟩ := Bool.and_eq_true_iff.1 h
    refine safe_seq.2 (safe_track.2 ((safe_execute us op hop).mono fun g' ret hend => ?_))
    by_cases h0 : ret = 0
    · rw [if_neg (not_not.2 h0), if_neg (not_not.2 rfl), hend.1 h0]
      exact ih _ hops
    · rw [if_pos h0, if_pos h0]
      exact ⟨fun hret => absurd hret h0, fun _ => hend.2 h0⟩

/-- How the start ends, as its callbacks see it. -/
structure RunEnd (cfg : Config) (g : Stage) (x : Option X1State × ℤ) : Prop where
  success : x.2 = 0 → g = .commanded ∧ validate crc32c (some cfg) (some {}) = 0
  failure : x.2 ≠ 0 → (∃ s, x.1 = some s ∧ s.active = .preset) ∨ g.calm = true

lemma safe_startupRun (cfg : Config) (s : X1State) :
    Safe stages (RunEnd crc32c cfg) (startupRun crc32c (some cfg) (some {}) (some s)) .fresh := by
  have hsteps : ∀ s, Safe stages (fun g x => TableEnd .commanded g x ∧
      (x.2 = 0 → validate crc32c (some cfg) (some {}) = 0))
      (startupSteps crc32c (some cfg) (some {}) s) .fresh := by
    intro s
    refine safe_seq.2 (safe_track.2 (safe_pure.2 ?_))
    by_cases hv : validate crc32c (some cfg) (some {}) = 0
    · rw [if_neg (not_not.2 hv), if_neg (not_not.2 rfl)]
      refine safe_seq.2 (safe_track.2 (safe_ask_bind.2 ⟨rfl, fun r _ => safe_pure.2 ?_⟩))
      by_cases h0 : r.ret = 0
      · rw [if_neg (not_not.2 h0), if_neg (not_not.2 rfl), show stages.look .fresh .owner r = .fresh
          from if_pos h0]
        refine safe_seq.2 ((safe_entries _ operations _ fitsAll_operations).mono fun g x hx => ?_)
        rw [after_operations] at hx
        split
        · exact ⟨hx, fun _ => hv⟩
        · rename_i hret
          exact ⟨⟨fun _ => hx.1 (not_not.1 hret), fun hn => absurd rfl hn⟩, fun _ => hv⟩
      · rw [if_pos h0, if_pos h0, show stages.look .fresh .owner r = .failed false from if_neg h0]
        exact ⟨⟨fun h => absurd h h0, fun _ => .inr rfl⟩, fun _ => hv⟩
    · rw [if_pos hv, if_pos hv]
      exact ⟨⟨fun h => absurd h hv, fun _ => .inr rfl⟩, fun h => absurd h hv⟩
  rw [startupRun]
  split
  · refine ⟨fun h0 => absurd h0 ?_, fun _ => .inr rfl⟩
    dsimp only
    split <;> decide
  refine safe_bind.2 ((hsteps _).mono fun g x hx => ?_)
  dsimp only
  split
  · rename_i h0
    refine ⟨fun hn => absurd hn ?_, fun _ => (hx.1.2 h0).imp_left fun ha => ⟨_, rfl, ha⟩⟩
    dsimp only [negative]
    split
    · exact h0
    · decide
  · rename_i h0
    rw [not_not] at h0
    exact ⟨fun _ => ⟨hx.1.1 h0, hx.2 h0⟩, fun hn => absurd rfl hn⟩

end Table

/-! ### The registers -/

/-- The controller that the driver's probe initialises. -/
def x1Mcu : QcomUsb4Mcu where
  mapped := true
  ramSize := x1RamSize
  ramOffset := 0x13000
  controlOffset := 0x22000
  sharedOffsetReg := 0x22010
  dromOffset := 0xdf20

lemma mcuInit_x1 {base : ℕ} {m : QcomUsb4Mcu}
    (h : mcuInit base x1RouterSize x1RamSize .legacy = (m, 0)) : m = x1Mcu := by
  dsimp only [mcuInit, Layout.offsets, x1RouterSize, x1RamSize] at h
  split_ifs at h with hbase hsize
  · cases h
  · cases h
  · exact (Prod.mk.inj h).1.symm

lemma placed_x1 : x1Mcu.Placed x1RouterSize := by
  constructor <;> decide

/-- What the firmware finds when it starts. -/
def Loaded (offset : ℕ) : Prop := x1Mcu.InRam offset ∨ offset = uidHigh ∨ offset = uidLow

def Uploaded (cfg : Config) (f : ℕ → Option (BitVec 32)) : Prop :=
  ∃ data rs, cfg.firmware = some data ∧ Reads data cfg.firmwareSize x1RamSize rs ∧
    ∀ offset, Loaded offset → f offset = overlay x1Mcu.ramOffset (fun _ => none) (cells rs) offset

/-- The image is in place, and over it a descriptor of this router and its identity. -/
def Complete (cfg : Config) (f : ℕ → Option (BitVec 32)) : Prop :=
  ∃ data rs drom, cfg.firmware = some data ∧ Reads data cfg.firmwareSize x1RamSize rs ∧
    Genuine crc32c cfg.serial 0 drom ∧
    ∀ offset, Loaded offset → f offset =
      withDrom x1Mcu drom (overlay x1Mcu.ramOffset (fun _ => none) (cells rs)) offset

/-- What the start may write. -/
def x1Rules (cfg : Config) : Rules where
  others offset := offset ∈ tableRegs
  complete := Complete crc32c cfg

/-- The host did not leave the controller told to run. -/
def Quiet (e : Seen) : Prop := ∀ v, e.written x1Mcu.controlOffset = some v → v &&& runBit = 0

def firstCommand (cfg : Config) : BitVec 32 := (presetCommand cfg.mcuPreset).2

/-- What a stage says about the registers. -/
def Stage.Holds (cfg : Config) (e : Seen) (shared : BitVec 32) : Stage → Prop
  | .fresh => ∀ offset, Loaded offset → e.written offset = none
  | .uploaded => Uploaded cfg e.written
  | .described => Complete crc32c cfg e.written
  | .started => Complete crc32c cfg e.written ∧ Started x1Mcu e shared
  | .commanded => Complete crc32c cfg e.written ∧ Started x1Mcu e shared ∧ e.empty = true ∧
      e.written x1Mcu.mailbox = some (firstCommand cfg)
  | .failed running => running = true → Complete crc32c cfg e.written

/-- The callbacks, the registers and the driver agree. -/
structure Tied (cfg : Config) (g : Stage) (e : Seen) (host : Host) : Prop where
  mcu : host.mcu = x1Mcu
  serial : host.serial = cfg.serial
  quiet : g.calm = true → Quiet e
  stage : g.Holds crc32c cfg e host.shared

section Frames

variable {crc32c} {cfg : Config} {g : Stage} {e e' : Seen} {host host' : Host}
  {f f' : ℕ → Option (BitVec 32)}

variable {offset : ℕ}

lemma Loaded.ne_control (h : Loaded offset) : offset ≠ x1Mcu.controlOffset := by
  rintro rfl
  rcases h with h | h | h
  · exact placed_x1.not_inRam_control h
  · exact absurd h (by decide)
  · exact absurd h (by decide)

lemma Loaded.ne_mailbox (h : Loaded offset) : offset ≠ x1Mcu.mailbox := by
  rintro rfl
  rcases h with h | h | h
  · exact placed_x1.not_inRam_mailbox h
  · exact absurd h (by decide)
  · exact absurd h (by decide)

lemma Loaded.ne_hostControl (h : Loaded offset) : offset ≠ hostControl := by
  rintro rfl
  rcases h with h | h | h
  · exact placed_x1.not_inRam_fixed (by decide) h
  · exact absurd h (by decide)
  · exact absurd h (by decide)

lemma not_loaded_of_mem (h : offset ∈ tableRegs) : ¬ Loaded offset := by
  have : ∀ o ∈ tableRegs,
      ¬ (0x13000 ≤ o ∧ o + 4 ≤ 0x13000 + 0xf000) ∧ o ≠ uidHigh ∧ o ≠ uidLow := by decide
  obtain ⟨h₁, h₂, h₃⟩ := this offset h
  rintro (hr | hu | hu)
  · exact h₁ hr
  · exact h₂ hu
  · exact h₃ hu

lemma Complete.congr (h : Complete crc32c cfg f) (hf : ∀ o, Loaded o → f' o = f o) :
    Complete crc32c cfg f' := by
  obtain ⟨data, rs, drom, hdata, hrs, hdrom, heq⟩ := h
  exact ⟨data, rs, drom, hdata, hrs, hdrom, fun o ho => (hf o ho).trans (heq o ho)⟩

lemma Uploaded.congr (h : Uploaded cfg f) (hf : ∀ o, Loaded o → f' o = f o) : Uploaded cfg f' := by
  obtain ⟨data, rs, hdata, hrs, heq⟩ := h
  exact ⟨data, rs, hdata, hrs, fun o ho => (hf o ho).trans (heq o ho)⟩

/-- Only registers of the table may have changed. -/
structure Frame (e e' : Seen) : Prop where
  written : ∀ offset, offset ∉ tableRegs → e'.written offset = e.written offset
  running : e'.running = e.running
  ready : e'.ready = e.ready
  empty : e'.empty = e.empty

lemma Frame.refl (e : Seen) : Frame e e := ⟨fun _ _ => rfl, rfl, rfl, rfl⟩

lemma Frame.loaded (h : Frame e e') (o : ℕ) (ho : Loaded o) : e'.written o = e.written o :=
  h.written o fun hm => not_loaded_of_mem hm ho

lemma Frame.started {shared : BitVec 32} (h : Frame e e') (hs : Started x1Mcu e shared) :
    Started x1Mcu e' shared where
  running := h.running.trans hs.running
  ready := h.ready.trans hs.ready
  control := by rw [h.written _ (by decide)]; exact hs.control
  host := by rw [h.written _ (by decide)]; exact hs.host
  aligned := hs.aligned
  inside := hs.inside

lemma Tied.frame (h : Tied crc32c cfg g e host) (hf : Frame e e') (hm : host'.mcu = host.mcu)
    (hs : host'.serial = host.serial) (hsh : host'.shared = host.shared) :
    Tied crc32c cfg g e' host' where
  mcu := hm.trans h.mcu
  serial := hs.trans h.serial
  quiet hg := by
    unfold Quiet
    rw [hf.written _ (by decide)]
    exact h.quiet hg
  stage := by
    rw [hsh]
    have hst := h.stage
    cases g with
    | fresh => exact fun o ho => (hf.loaded o ho).trans (hst o ho)
    | uploaded => exact hst.congr hf.loaded
    | described => exact hst.congr hf.loaded
    | started => exact ⟨hst.1.congr hf.loaded, hf.started hst.2⟩
    | commanded =>
      refine ⟨hst.1.congr hf.loaded, hf.started hst.2.1, hf.empty.trans hst.2.2.1, ?_⟩
      rw [hf.written _ (by decide)]
      exact hst.2.2.2
    | failed running => exact fun hr => (hst hr).congr hf.loaded

lemma Tied.complete (h : Tied crc32c cfg g e host) (hcalm : g.calm = false) :
    Complete crc32c cfg e.written := by
  have hst := h.stage
  cases g with
  | started => exact hst.1
  | commanded => exact hst.1
  | failed running => exact hst (by simpa [Stage.calm] using hcalm)
  | fresh => cases hcalm
  | uploaded => cases hcalm
  | described => cases hcalm

lemma Tied.fail (h : Tied crc32c cfg g e host) (hm : host'.mcu = host.mcu)
    (hs : host'.serial = host.serial) (hquiet : g.calm = true → Quiet e')
    (hloaded : g.calm = false → ∀ o, Loaded o → e'.written o = e.written o) :
    Tied crc32c cfg (.failed (!g.calm)) e' host' where
  mcu := hm.trans h.mcu
  serial := hs.trans h.serial
  quiet hg := hquiet (by simpa [Stage.calm] using hg)
  stage hg := by
    have hcalm : g.calm = false := by simpa using hg
    exact (h.complete hcalm).congr (hloaded hcalm)

lemma Tied.fail_frame (h : Tied crc32c cfg g e host) (hf : Frame e e') (hm : host'.mcu = host.mcu)
    (hs : host'.serial = host.serial) : Tied crc32c cfg (.failed (!g.calm)) e' host' := by
  refine h.fail hm hs (fun hg => ?_) fun _ => hf.loaded
  unfold Quiet
  rw [hf.written _ (by decide)]
  exact h.quiet hg

lemma tied_look {q : Startup.Call} {r : Startup.Reply} (hq : ∀ us, q ≠ .delay us)
    (hok : r.ret = 0 → Tied crc32c cfg (g.next q) e host)
    (hfail : r.ret ≠ 0 → Tied crc32c cfg (.failed (!g.calm)) e host) :
    Tied crc32c cfg (stages.look g q r) e host := by
  have hlook : stages.look g q r = if r.ret = 0 then g.next q else .failed (!g.calm) := by
    cases q with
    | delay us => exact absurd rfl (hq us)
    | _ => rfl
  rw [hlook]
  split
  · exact hok ‹_›
  · exact hfail ‹_›

end Frames

/-! ### The callbacks on the registers -/

section Callbacks

variable {crc32c} {cfg : Config} {ρ : Rules} {g : Stage} {e : Seen} {host : Host}

lemma read_table {offset : ℕ} (h : offset ∈ tableRegs) (v : BitVec 32) :
    e.read x1Mcu offset v = e := by
  have : ∀ o ∈ tableRegs, o ≠ x1Mcu.controlOffset ∧ o ≠ x1Mcu.mailbox ∧ o ≠ statusReg := by decide
  obtain ⟨h₁, h₂, h₃⟩ := this offset h
  exact read_other h₁ h₂ h₃

lemma inMap_table {offset : ℕ} (h : offset ∈ tableRegs) : InMap x1RouterSize offset := by
  have : ∀ o ∈ tableRegs, o % 4 = 0 ∧ o + 4 ≤ x1RouterSize := by decide
  exact this offset h

lemma licensed_table {offset : ℕ} (h : offset ∈ tableRegs) (v : BitVec 32) :
    Licensed x1Mcu (x1Rules crc32c cfg) e offset v := by
  have : ∀ o ∈ tableRegs, o ≠ x1Mcu.controlOffset ∧ o ≠ x1Mcu.mailbox := by decide
  obtain ⟨h₁, h₂⟩ := this offset h
  exact ⟨.inr (.inr (.inr (.inr (.inr (.inr h))))), fun hl => absurd hl (not_loaded_of_mem h),
    fun hc => absurd hc h₁, fun hm => absurd hm h₂⟩

lemma frame_write {offset : ℕ} (h : offset ∈ tableRegs) (v : BitVec 32) :
    Frame e (e.write x1Mcu offset v) := by
  have : ∀ o ∈ tableRegs, o ≠ x1Mcu.controlOffset ∧ o ≠ x1Mcu.mailbox ∧ o ≠ hostControl := by decide
  obtain ⟨h₁, h₂, h₃⟩ := this offset h
  rw [write_other h₁ h₂ h₃]
  refine ⟨fun o ho => Function.update_of_ne ?_ _ _, rfl, rfl, rfl⟩
  rintro rfl
  exact ho h

variable {offset : BitVec 32}

lemma x1Read_table (h : offset.toNat ∈ tableRegs) (host : Host) :
    x1Read offset host =
      ask (.readl offset.toNat) >>= fun r => pure (host, { ret := 0, value := r.value }) := by
  have hin := inMap_table h
  unfold InMap at hin
  have h4 : offset &&& 3 = 0 := by
    refine BitVec.eq_of_toNat_eq ?_
    rw [BitVec.toNat_and]
    exact (Nat.and_two_pow_sub_one_eq_mod offset.toNat 2).trans hin.1
  rw [x1Read, if_neg]
  rintro (h0 | h0)
  · exact h0 h4
  · omega

lemma safe_x1Read (h : offset.toNat ∈ tableRegs) :
    Safe (watch x1Mcu x1RouterSize ρ) (fun e' x => e' = e ∧ x.1 = host ∧ x.2.ret = 0)
      (x1Read offset host) e := by
  rw [x1Read_table h]
  exact safe_ask_bind.2 ⟨inMap_table h, fun r _ => ⟨read_table h r.value, rfl, rfl⟩⟩

lemma safe_x1Update (h : offset.toNat ∈ tableRegs) (mask value : BitVec 32) :
    Safe (watch x1Mcu x1RouterSize (x1Rules crc32c cfg))
      (fun e' x => Frame e e' ∧ x.1 = host ∧ x.2.ret = 0) (x1Update offset mask value host) e := by
  rw [x1Update]
  refine safe_bind.2 ((safe_x1Read h).mono ?_)
  rintro _ ⟨_, r⟩ ⟨rfl, rfl, hr⟩
  dsimp only at hr ⊢
  rw [if_neg (not_not.2 hr)]
  exact safe_ask_bind.2 ⟨⟨inMap_table h, licensed_table h _⟩,
    fun _ _ => ⟨frame_write h _, rfl, rfl⟩⟩

lemma safe_anyNonzero {offsets : List ℕ} (h : ∀ o ∈ offsets, InMap x1RouterSize o) :
    Safe (watch x1Mcu x1RouterSize ρ) (fun e' _ => e'.written = e.written)
      (anyNonzero offsets) e := by
  induction offsets generalizing e with
  | nil => rfl
  | cons o offsets ih =>
    obtain ⟨ho, hos⟩ := List.forall_mem_cons.1 h
    refine safe_ask_bind.2 ⟨ho, fun r _ => ?_⟩
    split
    · rfl
    · exact (ih hos).mono fun _ _ h => h

lemma safe_x1Owner : Safe (watch x1Mcu x1RouterSize ρ) (fun e' x => e'.written = e.written ∧
    x.1.mcu = host.mcu ∧ x.1.serial = host.serial) (x1Owner host) e := by
  rw [x1Owner]
  split
  · exact ⟨rfl, rfl, rfl⟩
  refine safe_bind.2 ((safe_anyNonzero (by unfold InMap; decide)).mono fun e₁ busy h₁ => ?_)
  split
  · exact ⟨h₁, rfl, rfl⟩
  refine safe_ask_bind.2 ⟨by rw [allow_readl]; unfold InMap; decide, fun r _ => ?_⟩
  split
  · exact ⟨h₁, rfl, rfl⟩
  · exact ⟨h₁, rfl, rfl⟩

lemma x1WriteDrom_eq (drom : List Byte) (n i : ℕ) (hi : i + 4 * n ≤ dromSize) :
    x1WriteDrom drom n i = storeWords x1Mcu drom n i := by
  induction n generalizing i with
  | zero => rfl
  | succ n ih =>
    unfold dromSize at hi ih
    have hoffset :
        x1Mcu.ramOffset + (BitVec.ofNat 32 (x1Mcu.dromOffset + i)).toNat = 0x20f20 + i := by
      rw [BitVec.toNat_ofNat, Nat.mod_eq_of_lt (by dsimp only [x1Mcu]; omega)]
      dsimp only [x1Mcu]
      omega
    simp only [x1WriteDrom, storeWords, writeWord, hoffset, ih (i + 4) (by omega),
      Dialog.bind_assoc]
    rfl

lemma safe_x1CheckDrom (drom : List Byte) (n i : ℕ) (hi : i + 4 * n ≤ dromSize) (h4 : i % 4 = 0) :
    Safe (watch x1Mcu x1RouterSize ρ) (fun e' _ => e' = e) (x1CheckDrom drom n i) e := by
  induction n generalizing i with
  | zero => rfl
  | succ n ih =>
    unfold dromSize at hi ih
    have hin : InMap x1RouterSize (0x20f20 + i) := by
      unfold InMap x1RouterSize
      omega
    have hread (v : BitVec 32) : e.read x1Mcu (0x20f20 + i) v = e := by
      refine read_other ?_ ?_ ?_
      · dsimp only [x1Mcu]
        omega
      · dsimp only [x1Mcu, QcomUsb4Mcu.mailbox, commandRelative]
        omega
      · unfold statusReg
        omega
    refine safe_ask_bind.2 ⟨hin, fun r _ => ?_⟩
    rw [watch_readl, hread]
    split
    · rfl
    · exact ih (i + 4) (by omega) (by omega)

lemma withDrom_of_not_loaded {drom : List Byte} {f : ℕ → Option (BitVec 32)} {offset : ℕ}
    (h : ¬ Loaded offset) : withDrom x1Mcu drom f offset = f offset := by
  obtain ⟨hr, hu, hl⟩ : ¬ x1Mcu.InRam offset ∧ offset ≠ uidHigh ∧ offset ≠ uidLow := by
    simpa only [Loaded, not_or] using h
  rw [withDrom, overlay_of_ne, Function.update_of_ne hl, Function.update_of_ne hu]
  rintro c hc rfl
  have := mem_dromCells hc (by decide)
  refine hr ⟨by omega, ?_⟩
  have : x1Mcu.dromOffset + 0 + 4 * (dromSize / 4) ≤ x1Mcu.ramSize := by decide
  omega

lemma withDrom_congr {drom : List Byte} {f f' : ℕ → Option (BitVec 32)} {offset : ℕ}
    (h : f offset = f' offset) : withDrom x1Mcu drom f offset = withDrom x1Mcu drom f' offset := by
  refine overlay_congr ?_ _
  simp only [Function.update_apply, h]

structure DromEnd (crc32c : List Byte → BitVec 32) (serial : BitVec 32) (e e' : Seen) (ret : ℤ) :
    Prop where
  others : ∀ offset, ¬ Loaded offset → e'.written offset = e.written offset
  stored : ret = 0 → ∃ drom, Genuine crc32c serial 0 drom ∧
    e'.written = withDrom x1Mcu drom e.written

lemma safe_x1StoreDrom (hm : host.mcu = x1Mcu) :
    Safe (watch x1Mcu x1RouterSize ρ) (DromEnd crc32c host.serial e)
      (x1StoreDrom crc32c host) e := by
  have hnil : (List.replicate dromSize (0 : Byte)).drop dromSize = [] := rfl
  rw [x1StoreDrom, x1DromBuild_eq, if_neg (by decide), hnil, List.append_nil, hm]
  generalize hd : descriptor crc32c host.serial 0 x1DromData = drom
  have hgenuine : Genuine crc32c host.serial 0 drom := hd ▸ genuine_x1DromData (by decide)
  dsimp only
  rw [if_neg (not_not.2 rfl), if_neg (by decide)]
  refine safe_ask_bind.2 ⟨placed_x1.inMap_control, fun r _ => ?_⟩
  rw [watch_readl, placed_x1.read_control]
  split
  · exact ⟨fun _ _ => rfl, fun h0 => absurd h0 (by decide)⟩
  rename_i hr
  rw [not_not] at hr
  refine safe_identity placed_x1 (by simp [hr]) ?_
  rw [x1WriteDrom_eq drom _ _ (by decide)]
  refine safe_bind.2 ((safe_storeWords placed_x1 (by decide) (dromSize / 4) 0 (by decide) rfl
    (by simp [hr])).mono ?_)
  rintro e₁ - ⟨-, hwritten⟩
  refine (safe_x1CheckDrom drom (dromSize / 4) 0 (by decide) rfl).mono ?_
  intro e₂ ret he
  have hw : e₂.written = withDrom x1Mcu drom e.written := by
    rw [he]
    exact hwritten
  exact ⟨fun o ho => by rw [hw, withDrom_of_not_loaded ho], fun _ => ⟨drom, hgenuine, hw⟩⟩

def Step.drives : Step → Bool
  | .upload | .drom | .mcuStart | .preset => true
  | _ => false

lemma safe_x1Step {step : Step} (hs : Step.drives step = false) :
    Safe (watch x1Mcu x1RouterSize ρ) (fun e' x => e' = e ∧ x.1.mcu = host.mcu ∧
      x.1.serial = host.serial ∧ x.1.shared = host.shared) (x1Step crc32c cfg step host) e := by
  have hprovide : ∀ (p : Provider) (f : ℤ → Host × ℤ), (∀ ret, (f ret).1.mcu = host.mcu ∧
      (f ret).1.serial = host.serial ∧ (f ret).1.shared = host.shared) →
      Safe (watch x1Mcu x1RouterSize ρ) (fun e' x => e' = e ∧ x.1.mcu = host.mcu ∧
        x.1.serial = host.serial ∧ x.1.shared = host.shared)
        (provide p >>= fun ret => pure (f ret)) e :=
    fun p f hf => ⟨trivial, fun r _ => ⟨rfl, hf r.ret⟩⟩
  cases step with
  | upload => cases hs
  | drom => cases hs
  | mcuStart => cases hs
  | preset => cases hs
  | phyPrepare =>
    refine ⟨trivial, fun r _ => ?_⟩
    change Safe _ _ (if r.ret ≠ 0 then _ else _) e
    split
    · exact ⟨rfl, rfl, rfl, rfl⟩
    · exact hprovide .phyInit (fun ret => ({ host with phyInitialized := ret = 0 }, ret))
        fun _ => ⟨rfl, rfl, rfl⟩
  | phyComposite =>
    exact hprovide .phyPowerOn (fun ret => ({ host with phyOn := ret = 0 }, ret))
      fun _ => ⟨rfl, rfl, rfl⟩
  | _ =>
    first
    | exact ⟨rfl, rfl, rfl, rfl⟩
    | exact hprovide _ (fun ret => (host, ret)) fun _ => ⟨rfl, rfl, rfl⟩

lemma next_of_not_drives {step : Step} (hs : Step.drives step = false) :
    g.next (.step step) = g := by
  cases step <;> first | rfl | cases hs

lemma safe_x1Step_tied {step : Step} (h : Tied crc32c cfg g e host)
    (hq : g.allows (.step step) = true) :
    Safe (watch x1Mcu x1RouterSize (x1Rules crc32c cfg))
      (fun e' x => (x.2 = 0 → Tied crc32c cfg (g.next (.step step)) e' x.1) ∧
        (x.2 ≠ 0 → Tied crc32c cfg (.failed (!g.calm)) e' x.1))
      (x1Step crc32c cfg step host) e := by
  -- Four steps drive the controller; the others leave its registers alone.
  by_cases hd : Step.drives step = false
  · refine (safe_x1Step hd).mono ?_
    rintro _ x ⟨rfl, hm, hs, hsh⟩
    rw [next_of_not_drives hd]
    exact ⟨fun _ => h.frame (.refl _) hm hs hsh, fun _ => h.fail_frame (.refl _) hm hs⟩
  cases step with
  | upload =>
    obtain rfl : g = .fresh := of_decide_eq_true hq
    refine safe_bind.2 ?_
    rw [h.mcu]
    refine (safe_upload placed_x1 cfg.firmware cfg.firmwareSize).mono fun e' ret hend => ?_
    cases hend with
    | refused hret hw =>
      refine ⟨fun h0 => absurd h0 hret, fun _ => h.fail rfl rfl (fun _ => ?_) fun hc => by cases hc⟩
      unfold Quiet
      rw [hw]
      exact h.quiet rfl
    | done data rs hdata hrs hhalted hw =>
      refine ⟨fun _ => ⟨h.mcu, h.serial, fun _ v hv => ?_, data, rs, hdata, hrs, fun o ho => ?_⟩,
        fun h0 => absurd rfl h0⟩
      · rw [hw, overlay_of_ne, Function.update_self] at hv
        · obtain rfl := Option.some.inj hv
          rfl
        · intro c hc heq
          have hfit := (mem_cells hrs.fits hc).2
          exact placed_x1.not_inRam_control (heq ▸ ⟨by omega, by omega⟩)
      · rw [hw]
        refine overlay_congr ?_ _
        rw [Function.update_of_ne ho.ne_control]
        exact h.stage o ho
  | drom =>
    obtain rfl : g = .uploaded := of_decide_eq_true hq
    refine safe_bind.2 ((safe_x1StoreDrom h.mcu).mono fun e' ret hend => ?_)
    have hquiet : Quiet e' := by
      unfold Quiet
      rw [hend.others _ fun hl => hl.ne_control rfl]
      exact h.quiet rfl
    refine ⟨fun h0 => ⟨h.mcu, h.serial, fun _ => hquiet, ?_⟩, fun _ =>
      h.fail rfl rfl (fun _ => hquiet) fun hc => by cases hc⟩
    obtain ⟨drom, hgenuine, hw⟩ := hend.stored h0
    obtain ⟨data, rs, hdata, hrs, heq⟩ := h.stage
    rw [h.serial] at hgenuine
    exact ⟨data, rs, drom, hdata, hrs, hgenuine, fun o ho => by rw [hw, withDrom_congr (heq o ho)]⟩
  | mcuStart =>
    obtain rfl : g = .described := of_decide_eq_true hq
    refine safe_bind.2 ?_
    rw [h.mcu]
    have hstage : Complete crc32c cfg e.written := h.stage
    refine (safe_start placed_x1 fun f hf => hstage.congr fun o ho =>
      hf o ho.ne_control ho.ne_hostControl).mono ?_
    rintro e' ⟨ret, shared⟩ ⟨hothers, hend⟩
    have hcomplete : Complete crc32c cfg e'.written :=
      hstage.congr fun o ho => hothers o ho.ne_control ho.ne_hostControl
    -- Running and ready, found running before, or stopped again.
    rcases hend with ⟨h0, hs⟩ | ⟨hr, -, -, hw⟩ | ⟨hr, -, hs⟩
    · exact ⟨fun _ => ⟨rfl, h.serial, (by simp [Stage.next, Stage.calm]), hcomplete, hs⟩,
        fun hn => absurd h0 hn⟩
    · refine ⟨fun h0 => absurd (hr.symm.trans h0) (by decide), fun _ =>
        h.fail h.mcu.symm rfl (fun _ => ?_) fun hc => by cases hc⟩
      unfold Quiet
      rw [hw]
      exact h.quiet rfl
    · refine ⟨fun h0 => absurd h0 hr, fun _ =>
        h.fail h.mcu.symm rfl (fun _ v hv => ?_) fun hc => by cases hc⟩
      obtain ⟨u, hu, hz⟩ := hs.control
      rw [hu] at hv
      exact Option.some.inj hv ▸ hz
  | preset =>
    obtain rfl : g = .started := of_decide_eq_true hq
    rw [x1Step]
    dsimp only
    split
    · rename_i hp
      exact ⟨fun h0 => absurd h0 hp, fun _ => h.fail_frame (.refl _) rfl rfl⟩
    refine safe_bind.2 ?_
    rw [h.mcu]
    refine (safe_command placed_x1 _ _).mono fun e' ret hend => ?_
    have hloaded (o : ℕ) (ho : Loaded o) : e'.written o = e.written o := hend.others o ho.ne_mailbox
    refine ⟨fun h0 => ⟨h.mcu, h.serial, (by simp [Stage.next, Stage.calm]), ?_⟩, fun _ =>
      h.fail rfl rfl (fun hc => by cases hc) fun _ => hloaded⟩
    obtain ⟨hrunning, hready, hempty, hmail⟩ := hend.taken h0
    obtain ⟨hcomplete, hs⟩ := h.stage
    refine ⟨hcomplete.congr hloaded, ⟨hrunning, hready, ?_, ?_, hs.aligned, hs.inside⟩, hempty,
      hmail⟩
    · rw [hend.others _ (by decide)]
      exact hs.control
    · rw [hend.others _ (by decide)]
      exact hs.host
  | _ => exact absurd rfl hd

lemma safe_x1StartOps (q : Startup.Call) (h : Tied crc32c cfg g e host) (hq : g.allows q = true) :
    Safe (watch x1Mcu x1RouterSize (x1Rules crc32c cfg))
      (fun e' x => Tied crc32c cfg (stages.look g q x.2) e' x.1)
      (x1StartOps crc32c cfg q host) e := by
  cases q with
  | delay us => exact h
  | owner =>
    obtain rfl : g = .fresh := of_decide_eq_true hq
    refine safe_x1Owner.mono fun e' x ⟨hw, hm, hs⟩ => tied_look (by simp) (fun _ => ?_) fun _ => ?_
    · refine ⟨hm.trans h.mcu, hs.trans h.serial, fun _ => ?_, fun o ho => ?_⟩
      · unfold Quiet
        rw [hw]
        exact h.quiet rfl
      · rw [hw]
        exact h.stage o ho
    · refine h.fail hm hs (fun _ => ?_) fun hc => by cases hc
      unfold Quiet
      rw [hw]
      exact h.quiet rfl
  | step step =>
    refine safe_bind.2 ((safe_x1Step_tied h hq).mono fun e' x hx => ?_)
    exact tied_look (by simp) hx.1 hx.2
  | read offset =>
    have ho : offset = 0x1200c := of_decide_eq_true (Bool.and_eq_true_iff.1 hq).1
    have hmem : offset.toNat ∈ tableRegs := by
      rw [ho]
      decide
    refine (safe_x1Read hmem).mono ?_
    rintro _ x ⟨rfl, hx, hr⟩
    rw [hx]
    exact tied_look (by simp) (fun _ => h) fun h0 => absurd hr h0
  | update offset mask value =>
    have hmem : offset.toNat ∈ tableRegs := by
      simpa using (Bool.and_eq_true_iff.1 hq).1
    refine (safe_x1Update hmem mask value).mono ?_
    rintro e' x ⟨hf, hx, hr⟩
    rw [hx]
    exact tied_look (by simp) (fun _ => h.frame hf rfl rfl rfl) fun h0 => absurd hr h0

end Callbacks

lemma preset_of_validate {crc32c : List Byte → BitVec 32} {cfg : Config}
    (h : validate crc32c (some cfg) (some {}) = 0) :
    cfg.mcuPreset = 0x0c63 := by
  by_contra hp
  have : validate crc32c (some cfg) (some {}) = -einval := by
    dsimp only [validate]
    rw [if_neg (by decide), decide_eq_true hp, Bool.or_true, Bool.true_or, if_pos rfl]
  exact absurd (this.symm.trans h) (by decide)

/-- How a cold start ends. -/
structure BootEnd (cfg : Config) (e : Seen) (out : Host × Option X1State × ℤ) : Prop where
  success : out.2.2 = 0 → Complete crc32c cfg e.written ∧ Started x1Mcu e out.1.shared ∧
    e.empty = true ∧ e.written x1Mcu.mailbox = some 0xc6302
  failure : out.2.2 ≠ 0 → Quiet e ∨
    Complete crc32c cfg e.written ∧ ∃ s, out.2.1 = some s ∧ s.active = .preset

lemma boot_spec {base : ℕ} {cfg : Config} {s : X1State} {host : Host}
    (hinit : mcuInit base x1RouterSize x1RamSize .legacy = (host.mcu, 0))
    (hserial : host.serial = cfg.serial) {tr : List (Io Provider × Reply)}
    {out : Host × Option X1State × ℤ} (hd : Does (boot crc32c cfg s host) tr out) :
    (watch x1Mcu x1RouterSize (x1Rules crc32c cfg)).Allowed {} tr ∧
      BootEnd crc32c cfg ((watch x1Mcu x1RouterSize (x1Rules crc32c cfg)).after {} tr) out := by
  have htied : Tied crc32c cfg .fresh {} host :=
    ⟨mcuInit_x1 hinit, hserial, (fun _ v hv => by cases hv), fun _ _ => rfl⟩
  have hsafe : Safe (watch x1Mcu x1RouterSize (x1Rules crc32c cfg))
      (fun e x => ∃ g, RunEnd crc32c cfg g x.2 ∧ Tied crc32c cfg g e x.1)
      (boot crc32c cfg s host) {} :=
    (safe_startupRun crc32c cfg s).serve (I := Tied crc32c cfg)
      (fun q g e host h hq => (safe_x1StartOps q h hq).mono fun _ _ hx => ⟨trivial, hx⟩) htied
  obtain ⟨hall, g, hrun, hend⟩ := hsafe.does hd fun _ _ _ _ _ => trivial
  refine ⟨hall, fun h0 => ?_, fun h0 => ?_⟩
  · obtain ⟨rfl, hv⟩ := hrun.success h0
    obtain ⟨hcomplete, hstarted, hempty, hmail⟩ := hend.stage
    rw [firstCommand, preset_of_validate hv] at hmail
    exact ⟨hcomplete, hstarted, hempty, hmail⟩
  · cases hcalm : g.calm with
    | true => exact .inl (hend.quiet hcalm)
    | false =>
      refine .inr ⟨hend.complete hcalm, (hrun.failure h0).resolve_right ?_⟩
      rw [hcalm]
      decide

def smallConfig : Config where
  firmware := some oneWord
  firmwareSize := 12
  serial := 0x1234
  router := 0
  phyRxEq := 0x6f
  mcuPreset := 0x0c63
  resetReleaseUs := 100

def coldHost : Host := { mcu := x1Mcu, serial := 0x1234 }

end YogaUsb4.Mcu
