import YogaUsb4.Dialog

/-!
The private PCI0 bridge: it is brought up once, trained once and scanned once, each only after what
comes before it has succeeded, and it keeps what it has taken on every failure. Configuration
requests beyond the root port are let through from the scan on, and a storage driver is admitted
only to the one device that the scan has found.
-/

namespace YogaUsb4.Native

/-! ### Devices -/

/-- What the walk over the bus reads of a `struct pci_dev`; `bdf` says which one it is. -/
structure PciDev where
  bdf : ℕ
  cls : BitVec 32
  driver : Bool := false
  domain : ℕ := 0
  deriving DecidableEq

/-- `PCI_CLASS_BRIDGE_PCI` and `PCI_CLASS_STORAGE_EXPRESS`. -/
def classBridgePci : BitVec 32 := 0x0604
def classStorageExpress : BitVec 32 := 0x010802

def PciDev.isBridge (d : PciDev) : Bool := d.cls >>> 8 == classBridgePci

/-- An NVMe controller without a driver, in the external segment. -/
def PciDev.isUnboundNvme (d : PciDev) : Bool :=
  d.cls == classStorageExpress && !d.driver && d.domain == 0

/-- `struct endpoint_scan` with the endpoint of its bridge. -/
structure EndpointScan where
  endpoint : Option PciDev := none
  nvmes : ℕ := 0
  other : ℕ := 0

def findEndpoint (s : EndpointScan) (d : PciDev) : EndpointScan :=
  if d.isBridge then s
  else if !d.isUnboundNvme then { s with other := s.other + 1 }
  else { s with nvmes := s.nvmes + 1, endpoint := s.endpoint.or (some d) }

/-! ### The bridge -/

/-- `struct x1_bridge`, as far as it is read. -/
structure Bridge where
  powered : Bool := false
  enabled : ℕ := 0
  error : ℤ := 0
  ready : Bool := false
  trainAttempted : Bool := false
  trained : Bool := false
  downstream : Bool := false
  endpoint : Option PciDev := none
  endpointValidated : Bool := false
  deriving DecidableEq

/-- What `x1_bridge_probe` finds: the answers of what it asks and the results of what it calls. -/
structure Probe where
  /-- The hypervisor, the board, the properties of the root node and the disabled nodes. -/
  allowed : Bool := true
  /-- The window and the domain number. -/
  resource : Bool := true
  /-- The SMMU is reserved. -/
  reserved : Bool := true
  memory : Bool := true
  /-- `x1_bridge_init_resources`, the clocks and the interconnect paths. -/
  resources : ℤ := 0
  power : ℤ := 0
  clocks : List ℤ := List.replicate 8 0
  votes : ℤ × ℤ := (0, 0)
  host : ℤ := 0
  ecam : ℤ := 0
  mode : ℤ := 0
  validate : ℤ := 0
  setup : ℤ := 0
  revalidate : ℤ := 0
  hostProbe : ℤ := 0
  /-- `root_fixup_done`. -/
  fixup : Bool := true

def firstError (l : List ℤ) : Option ℤ := l.find? (· ≠ 0)

/-- `x1_bridge_probe` from the point on at which it binds even on failure. -/
def bringUp (f : Probe) : Bridge :=
  if f.power < 0 then { error := f.power }
  else
    let b : Bridge := { enabled := (f.clocks.takeWhile (· = 0)).length }
    match firstError (f.clocks ++ [f.votes.1, f.votes.2]) with
    | some e => { b with error := e }
    | none =>
      let b := { b with powered := true }
      match firstError [f.host, f.ecam, f.mode, f.validate, f.setup, f.revalidate, f.hostProbe] with
      | some e => { b with error := e }
      | none => if !f.fixup then { b with error := -enodev } else { b with ready := true }

/-- The variables of the file. -/
structure Storage where
  registered : Bool := false
  window : Bool := false
  owner : Option Bridge := none
  deriving DecidableEq

def Storage.probe (s : Storage) (f : Probe) : Storage :=
  if !s.window || !f.allowed then s
  else if !f.resource || !f.reserved || s.owner.isSome || !f.memory then s
  else if f.resources ≠ 0 then s
  else { s with owner := some (bringUp f) }

/-- What `x1_pcie_start` finds: its own checks, the result of the registration, and the device
that is probed in it, if there is one. -/
structure StartFound where
  permitted : Bool := true
  register : ℤ := 0
  device : Option Probe := some {}

def Storage.pcieStart (s : Storage) (f : StartFound) : Storage × ℤ :=
  if !f.permitted then (s, -eperm)
  else if s.registered then (s, -ealready)
  else
    let s := { s with registered := true, window := true }
    let s := match f.device with
      | some p => s.probe p
      | none => s
    let s := { s with window := false }
    if f.register ≠ 0 then (s, f.register)
    else
      match s.owner with
      | none => (s, -enodev)
      | some b => (s, if b.ready then 0 else b.error)

/-- `x1_pcie_train`; `link` and `windows` are the results of `x1_pci0_train` and
`x1_pci0_windows`. -/
def Storage.pcieTrain (s : Storage) (link windows : ℤ) : Storage × ℤ :=
  match s.owner with
  | none => (s, -eperm)
  | some b =>
    if !b.ready || b.error ≠ 0 || b.trainAttempted || b.downstream then (s, -eperm)
    else
      let ret := if link ≠ 0 then link else windows
      let b := { b with trainAttempted := true }
      if ret ≠ 0 then ({ s with owner := some { b with error := ret } }, ret)
      else ({ s with owner := some { b with trained := true } }, 0)

/-- `x1_pcie_scan` up to the rescan: requests beyond the root port are let through. -/
def Storage.scanOpen (s : Storage) : Option Storage :=
  match s.owner with
  | none => none
  | some b =>
    if !b.ready || !b.trained || b.error ≠ 0 || b.downstream then none
    else some { s with owner := some { b with downstream := true } }

/-- `x1_pcie_scan` from the walk over the rescanned bus on. -/
def Storage.scanFinish (s : Storage) (devices : List PciDev) : Storage × ℤ :=
  match s.owner with
  | none => (s, -eperm)
  | some b =>
    let scan := devices.foldl findEndpoint { endpoint := b.endpoint }
    let b := { b with endpoint := scan.endpoint }
    if scan.nvmes = 1 ∧ scan.other = 0 then
      ({ s with owner := some { b with endpointValidated := true } }, 0)
    else ({ s with owner := some { b with error := -enodev } }, -enodev)

def Storage.nvmeAllowed (s : Storage) (d : PciDev) : Bool :=
  match s.owner with
  | none => false
  | some b => b.endpointValidated && b.endpoint == some d

/-- `x1_ecam_map`: the request is let through. The bus range starts at 0. -/
def Storage.ecamMap (s : Storage) (bus devfn : ℕ) (pos : ℤ) : Bool :=
  match s.owner with
  | none => false
  | some b =>
    if !b.powered || pos < 0 || 4096 ≤ pos then false
    else if bus = 0 then devfn == 0
    else b.downstream

/-! ### What the operations come to -/

/-- Of all that is on the bus and no bridge there is only this, and it is an NVMe controller
without a driver. -/
structure Sole (devices : List PciDev) (d : PciDev) : Prop where
  only : devices.filter (fun e => !e.isBridge) = [d]
  unbound : d.isUnboundNvme = true

lemma foldl_findEndpoint (devices : List PciDev) (s : EndpointScan) :
    let nvmes := devices.filter fun e => !e.isBridge && e.isUnboundNvme
    let other := devices.filter fun e => !e.isBridge && !e.isUnboundNvme
    devices.foldl findEndpoint s =
      ⟨s.endpoint.or nvmes.head?, s.nvmes + nvmes.length, s.other + other.length⟩ := by
  induction devices generalizing s with
  | nil => simp
  | cons d devices ih =>
    rw [List.foldl_cons, ih]
    unfold findEndpoint
    cases hb : d.isBridge
    · cases hn : d.isUnboundNvme
      · simp [hb, hn, Nat.add_assoc, Nat.add_comm 1]
      · cases s.endpoint <;> simp [hb, hn, Nat.add_assoc, Nat.add_comm 1]
    · simp [hb]

lemma filter_of_rest_nil {p q : PciDev → Bool} {l : List PciDev}
    (h : l.filter (fun e => p e && !q e) = []) : l.filter p = l.filter fun e => p e && q e := by
  refine List.filter_congr fun e he => ?_
  have := List.filter_eq_nil_iff.1 h e he
  cases hp : p e <;> simp_all

lemma Storage.scanFinish_ok {s s' : Storage} {devices : List PciDev}
    (hs : ∀ b, s.owner = some b → b.endpoint = none) (h : s.scanFinish devices = (s', 0)) :
    ∃ b d, s.owner = some b ∧ Sole devices d ∧
      s' = { s with owner := some { b with endpoint := some d, endpointValidated := true } } := by
  unfold Storage.scanFinish at h
  cases hb : s.owner with
  | none => simp [hb, eperm] at h
  | some b =>
    have hwalk := foldl_findEndpoint devices { endpoint := none }
    simp only [hb, hs b hb, hwalk] at h
    split at h
    case isFalse => simp [enodev] at h
    case isTrue hone =>
      simp only [Option.none_or, Nat.zero_add] at hone h
      obtain ⟨d, hd⟩ := List.length_eq_one_iff.1 hone.1
      have hrest := List.eq_nil_of_length_eq_zero hone.2
      have hmem : d ∈ devices.filter fun e => !e.isBridge && e.isUnboundNvme := by simp [hd]
      refine ⟨b, d, rfl, ⟨?_, ?_⟩, ?_⟩
      · rw [filter_of_rest_nil hrest, hd]
      · exact (Bool.and_eq_true_iff.1 (List.mem_filter.1 hmem).2).2
      · rw [hd] at h
        exact (Prod.mk.inj h).1.symm

lemma Storage.scanOpen_some {s s' : Storage} (h : s.scanOpen = some s') :
    ∃ b, s.owner = some b ∧ s' = { s with owner := some { b with downstream := true } } := by
  unfold Storage.scanOpen at h
  cases hb : s.owner with
  | none => simp [hb] at h
  | some b =>
    simp only [hb] at h
    split at h
    · cases h
    · exact ⟨b, rfl, (Option.some.inj h).symm⟩

lemma Storage.scanFinish_error {s s' : Storage} {devices : List PciDev} {ret : ℤ}
    (h : s.scanFinish devices = (s', ret)) (hret : ret ≠ 0) {b' : Bridge}
    (hb' : s'.owner = some b') : ∃ b, s.owner = some b ∧ b'.downstream = b.downstream ∧
      b'.endpointValidated = b.endpointValidated := by
  unfold Storage.scanFinish at h
  cases hb : s.owner with
  | none =>
    simp only [hb] at h
    obtain ⟨rfl, -⟩ := Prod.mk.inj h
    rw [hb] at hb'
    cases hb'
  | some b =>
    simp only [hb] at h
    split at h
    · exact absurd (Prod.mk.inj h).2.symm hret
    · obtain ⟨rfl, -⟩ := Prod.mk.inj h
      obtain rfl := Option.some.inj hb'
      exact ⟨b, rfl, rfl, rfl⟩

lemma Storage.ecamMap_below {s : Storage} {bus devfn : ℕ} {pos : ℤ}
    (h : s.ecamMap bus devfn pos = true) (hbus : bus ≠ 0) :
    ∃ b, s.owner = some b ∧ b.downstream = true := by
  unfold Storage.ecamMap at h
  cases hb : s.owner with
  | none => simp [hb] at h
  | some b =>
    simp only [hb, hbus, if_false] at h
    split at h
    · cases h
    · exact ⟨b, rfl, h⟩

/-- No bridge of `t` lets more through than its own before, if there was one. -/
def Storage.Calm (s t : Storage) : Prop :=
  ∀ b', t.owner = some b' →
    (∃ b, s.owner = some b ∧ b'.endpoint = b.endpoint ∧ b'.downstream = b.downstream ∧
      b'.endpointValidated = b.endpointValidated) ∨
    (b'.endpoint = none ∧ b'.downstream = false ∧ b'.endpointValidated = false)

lemma Storage.Calm.of_owner_eq {s t : Storage} (h : t.owner = s.owner) : s.Calm t :=
  fun b hb => .inl ⟨b, h ▸ hb, rfl, rfl, rfl⟩

lemma bringUp_calm (f : Probe) : (bringUp f).endpoint = none ∧ (bringUp f).downstream = false ∧
    (bringUp f).endpointValidated = false := by
  unfold bringUp
  split
  · exact ⟨rfl, rfl, rfl⟩
  · split
    · exact ⟨rfl, rfl, rfl⟩
    · split
      · exact ⟨rfl, rfl, rfl⟩
      · split <;> exact ⟨rfl, rfl, rfl⟩

lemma Storage.probe_calm (s : Storage) (f : Probe) : s.Calm (s.probe f) := by
  unfold Storage.probe
  split
  · exact .of_owner_eq rfl
  · split
    · exact .of_owner_eq rfl
    · split
      · exact .of_owner_eq rfl
      · intro b hb
        obtain rfl := Option.some.inj hb
        exact .inr (bringUp_calm f)

lemma Storage.pcieStart_calm (s : Storage) (f : StartFound) : s.Calm (s.pcieStart f).1 := by
  have hprobe : s.Calm (match f.device with
      | some p => Storage.probe { s with registered := true, window := true } p
      | none => { s with registered := true, window := true }) := by
    cases f.device with
    | some p => exact Storage.probe_calm { s with registered := true, window := true } p
    | none => exact .of_owner_eq rfl
  unfold Storage.pcieStart
  split
  · exact .of_owner_eq rfl
  · split
    · exact .of_owner_eq rfl
    · dsimp only
      split
      · exact hprobe
      · split <;> exact hprobe

lemma Storage.pcieTrain_calm (s : Storage) (link windows : ℤ) :
    s.Calm (s.pcieTrain link windows).1 := by
  unfold Storage.pcieTrain
  cases hb : s.owner with
  | none => exact .of_owner_eq rfl
  | some b =>
    have hset : ∀ e : ℤ, ∀ a t : Bool, s.Calm { s with
        owner := some { b with error := e, trainAttempted := a, trained := t } } := by
      intro e a t b' hb'
      obtain rfl := Option.some.inj hb'
      exact .inl ⟨b, hb, rfl, rfl, rfl⟩
    dsimp only
    split
    · exact .of_owner_eq rfl
    · split
      · exact hset _ _ _
      · split <;> exact hset _ _ _

end YogaUsb4.Native
