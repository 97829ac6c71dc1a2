import YogaUsb4.Mcu.Boot

/-!
A router that behaves: its registers keep what is written, firmware that is told to run is ready and
takes commands at once, and the other drivers succeed. On such a router every configuration that
passes the validation starts, and the checked upload of the front end finds the files whose records
overlap and disagree.
-/

namespace YogaUsb4.Mcu

open Dialog LittleEndian Startup
open Wire (Byte byte)

variable {π : Type}

/-! ### The router -/

/-- What a register reads as, by what it held at first and what was written. -/
def value (init : ℕ → BitVec 32) (f : ℕ → Option (BitVec 32)) (offset : ℕ) : BitVec 32 :=
  if offset = statusReg then
    if (f x1Mcu.controlOffset).getD (init x1Mcu.controlOffset) &&& runBit ≠ 0 then readyBit else 0
  else if offset = x1Mcu.mailbox then 0
  else (f offset).getD (init offset)

/-- The observer that expects such a router. -/
def machine (init : ℕ → BitVec 32) : Watch (Io π) Reply (ℕ → Option (BitVec 32)) where
  look f q _ :=
    match q with
    | .writel offset v => Function.update f offset (some v)
    | _ => f
  expect f q r :=
    match q with
    | .readl offset => r.value = value init f offset
    | .provider _ => r.ret = 0
    | _ => True

variable {init : ℕ → BitVec 32} {f f' : ℕ → Option (BitVec 32)} {offset : ℕ}

lemma value_of_ne (h₁ : offset ≠ statusReg) (h₂ : offset ≠ x1Mcu.mailbox) :
    value init f offset = (f offset).getD (init offset) := by
  rw [value, if_neg h₁, if_neg h₂]

lemma value_control :
    value init f x1Mcu.controlOffset = (f x1Mcu.controlOffset).getD (init x1Mcu.controlOffset) :=
  value_of_ne (by decide) (by decide)

lemma value_status : value init f statusReg =
    if value init f x1Mcu.controlOffset &&& runBit ≠ 0 then readyBit else 0 := by
  rw [value, if_pos rfl, value_control]

lemma value_mailbox : value init f x1Mcu.mailbox = 0 := rfl

section Functions

lemma machine_readl {α : Type} {R : (ℕ → Option (BitVec 32)) → α → Prop} {k : Reply → Mmio π α}
    (h : ∀ r : Reply, r.value = value init f offset → Safe (machine init) R (k r) f) :
    Safe (machine init) R (ask (.readl offset) >>= k) f :=
  safe_ask_bind.2 ⟨trivial, h⟩

lemma machine_writel {α : Type} {R : (ℕ → Option (BitVec 32)) → α → Prop} {k : Reply → Mmio π α}
    {v : BitVec 32} (h : ∀ r, Safe (machine init) R (k r) (Function.update f offset (some v))) :
    Safe (machine init) R (ask (.writel offset v) >>= k) f :=
  safe_ask_bind.2 ⟨trivial, fun r _ => h r⟩

lemma machine_update {mask v : BitVec 32} :
    Safe (machine init) (fun f' (_ : Unit) => f' = Function.update f offset
      (some ((value init f offset &&& ~~~ mask) ||| (v &&& mask))))
      (update offset mask v : Mmio π Unit) f := by
  refine machine_readl fun r hr => machine_writel fun _ => ?_
  rw [hr]
  rfl

lemma machine_poll {cond : BitVec 32 → Bool} (h : cond (value init f offset) = true) (us : ℕ) :
    Safe (machine init) (fun f' ret => f' = f ∧ ret = 0)
      (readlPollTimeout offset cond us : Mmio π ℤ) f := by
  refine safe_ask_bind.2 ⟨trivial, fun c _ => safe_bind.2 ?_⟩
  refine (safe_pollRounds (w := machine init) (J := fun f' => f' = f)
    (K := fun _ v => v = value init f offset) (fun _ _ => trivial) ?_ _ rfl).mono ?_
  · rintro _ r rfl hr
    exact ⟨rfl, hr⟩
  · rintro f' v ⟨rfl, rfl⟩
    rw [h]
    exact ⟨rfl, rfl⟩

lemma machine_upload {data : ℕ → Byte} {n : ℕ} {rs : List Record}
    (hrs : Reads data n x1RamSize rs) (hc : value init f x1Mcu.controlOffset &&& runBit = 0) :
    Safe (machine init) (fun f' ret => ret = 0 ∧ f' = overlay x1Mcu.ramOffset
      (Function.update f x1Mcu.controlOffset (some 0)) (cells rs))
      (upload x1Mcu (some data) n : Mmio π ℤ) f := by
  replace hrs : Reads data n x1Mcu.ramSize rs := hrs
  have hv : fwValidate (some data) n x1Mcu.ramSize = 0 := fwValidate_reads.2 ⟨rs, hrs⟩
  rw [upload, if_neg (by decide), if_neg (not_not.2 hv)]
  refine machine_readl fun r hr => ?_
  rw [hr, if_neg (not_not.2 hc)]
  refine machine_writel fun _ => ?_
  rw [hrs.fwUpload_eq]
  refine safe_bind.2 ((safe_writeCells (w := machine init)
    (J := fun done f' => f' = overlay x1Mcu.ramOffset
      (Function.update f x1Mcu.controlOffset (some 0)) done) ?_ rfl).mono ?_)
  · rintro done c rest - _ rfl
    refine machine_writel fun _ => ⟨rfl, ?_⟩
    rw [overlay, overlay, List.foldl_append]
    rfl
  · rintro f' ret ⟨rfl, rfl⟩
    exact machine_readl fun _ _ => ⟨rfl, rfl⟩

lemma overlay_dromCells {base d n i j : ℕ} {drom : List Byte} (hsmall : d + i + 4 * n ≤ 2 ^ 32)
    (hj : j < n) : overlay base f (dromCells d drom n i) (base + (d + (i + 4 * j))) =
      some (word (byte drom) (i + 4 * j)) := by
  induction n generalizing i j f with
  | zero => cases hj
  | succ n ih =>
    have hhead : (BitVec.ofNat 32 (d + i)).toNat = d + i := by
      rw [BitVec.toNat_ofNat, Nat.mod_eq_of_lt (by omega)]
    rw [dromCells, overlay, List.foldl_cons]
    cases j with
    | zero =>
      refine (overlay_of_ne fun c hc => ?_).trans ?_
      · have := mem_dromCells hc (by omega)
        omega
      · simp [hhead]
    | succ j =>
      have := ih (f := Function.update f (base + (BitVec.ofNat 32 (d + i)).toNat)
        (some (word (byte drom) i))) (i := i + 4) (j := j) (by omega) (by omega)
      rwa [show i + 4 + 4 * j = i + 4 * (j + 1) by omega] at this

lemma machine_writeDrom (drom : List Byte) (n i : ℕ) (hi : i + 4 * n ≤ dromSize) :
    Safe (machine init) (fun f' (_ : Unit) => f' = overlay x1Mcu.ramOffset f
      (dromCells x1Mcu.dromOffset drom n i)) (x1WriteDrom drom n i) f := by
  rw [x1WriteDrom_eq drom n i hi]
  clear hi
  induction n generalizing i f with
  | zero => rfl
  | succ n ih => exact machine_writel fun _ => ih (i + 4)

lemma machine_checkDrom (drom : List Byte) (n i : ℕ)
    (h : ∀ j < n, value init f (0x20f20 + (i + 4 * j)) = word (byte drom) (i + 4 * j)) :
    Safe (machine init) (fun f' ret => ret = 0 ∧ f' = f) (x1CheckDrom drom n i) f := by
  induction n generalizing i with
  | zero => exact ⟨rfl, rfl⟩
  | succ n ih =>
    refine machine_readl fun r hr => ?_
    have hword : r.value = word (byte drom) i := hr.trans (h 0 (by omega))
    rw [if_neg (not_not.2 hword)]
    refine ih (i + 4) fun j hj => ?_
    have := h (j + 1) (by omega)
    rwa [show i + 4 * (j + 1) = i + 4 + 4 * j by omega] at this

lemma machine_storeDrom {crc32c : List Byte → BitVec 32} {host : Host} (hm : host.mcu = x1Mcu)
    (hc : value init f x1Mcu.controlOffset = 0) :
    Safe (machine init) (fun f' ret => ret = 0 ∧ ∃ drom, f' = withDrom x1Mcu drom f)
      (x1StoreDrom crc32c host) f := by
  have hnil : (List.replicate dromSize (0 : Byte)).drop dromSize = [] := rfl
  rw [x1StoreDrom, x1DromBuild_eq, if_neg (by decide), hnil, List.append_nil, hm]
  generalize descriptor crc32c host.serial 0 x1DromData = drom
  dsimp only
  rw [if_neg (not_not.2 rfl), if_neg (by decide)]
  refine machine_readl fun r hr => ?_
  rw [if_neg (not_not.2 (hr.trans hc))]
  refine machine_writel fun _ => machine_writel fun _ => ?_
  refine safe_bind.2 ((machine_writeDrom drom (dromSize / 4) 0 (by decide)).mono ?_)
  rintro f' - rfl
  refine (machine_checkDrom drom (dromSize / 4) 0 fun j hj => ?_).mono ?_
  · have hj' : j < 29 := hj
    have h₁ : 0x20f20 + (0 + 4 * j) ≠ statusReg := by unfold statusReg; omega
    have h₂ : 0x20f20 + (0 + 4 * j) ≠ x1Mcu.mailbox := by
      dsimp only [x1Mcu, QcomUsb4Mcu.mailbox, commandRelative]
      omega
    rw [value_of_ne h₁ h₂, show 0x20f20 + (0 + 4 * j) =
      x1Mcu.ramOffset + (x1Mcu.dromOffset + (0 + 4 * j)) by dsimp only [x1Mcu]; omega,
      overlay_dromCells (by decide) hj]
    rfl
  · rintro f' ret ⟨rfl, rfl⟩
    exact ⟨rfl, drom, rfl⟩

lemma machine_start (hc : value init f x1Mcu.controlOffset &&& runBit = 0)
    (hs : value init f x1Mcu.sharedOffsetReg = 0) :
    Safe (machine init) (fun f' x => x.1 = 0 ∧ value init f' x1Mcu.controlOffset &&& runBit ≠ 0 ∧
      ∀ o, o ≠ x1Mcu.controlOffset → o ≠ hostControl → f' o = f o)
      (start x1Mcu : Mmio π (ℤ × BitVec 32)) f := by
  rw [start, if_neg (by decide)]
  refine machine_readl fun r hr => ?_
  rw [hr, if_neg (not_not.2 hc)]
  refine safe_bind.2 (machine_update.mono ?_)
  rintro f₁ - hf₁
  refine safe_bind.2 (machine_update.mono ?_)
  rintro f₂ - hf₂
  have hothers (o : ℕ) (h₁ : o ≠ x1Mcu.controlOffset) (h₂ : o ≠ hostControl) : f₂ o = f o := by
    rw [hf₂, Function.update_of_ne h₁, hf₁, Function.update_of_ne h₂]
  have hrun : value init f₂ x1Mcu.controlOffset &&& runBit ≠ 0 := by
    rw [value_control, hf₂, Function.update_self, Option.getD_some, masked]
    decide
  have hready : value init f₂ statusReg = readyBit := by rw [value_status, if_pos hrun]
  refine safe_bind.2 ((machine_poll (by rw [hready]; decide) 1000000).mono ?_)
  rintro _ ret ⟨rfl, rfl⟩
  rw [if_neg (not_not.2 rfl)]
  refine machine_readl fun offset hoffset => ?_
  have hzero : offset.value = 0 := by
    rw [hoffset, value_of_ne (by decide) (by decide), hothers _ (by decide) (by decide),
      ← value_of_ne (by decide) (by decide), hs]
  rw [hzero, if_neg (by decide)]
  exact ⟨rfl, hrun, hothers⟩

lemma machine_command {cmd : BitVec 32} {us : ℕ}
    (hrun : value init f x1Mcu.controlOffset &&& runBit ≠ 0)
    (hargs : ¬ (x1Mcu.mapped = false ∨ cmd = 0 ∨ us = 0 ∨ us > maxCommandTimeoutUs)) :
    Safe (machine init) (fun f' ret => ret = 0 ∧ ∀ o, o ≠ x1Mcu.mailbox → f' o = f o)
      (command x1Mcu cmd us : Mmio π ℤ) f := by
  rw [command, if_neg hargs]
  refine machine_readl fun r hr => ?_
  rw [hr, if_neg hrun]
  refine machine_readl fun s hs => ?_
  rw [hs, value_status, if_pos hrun, if_neg (by decide)]
  refine machine_readl fun old hold => ?_
  rw [hold, value_mailbox, if_neg (not_not.2 rfl)]
  refine machine_writel fun _ => ?_
  refine (machine_poll (by rw [value_mailbox]; rfl) us).mono ?_
  rintro f' ret ⟨rfl, rfl⟩
  exact ⟨rfl, fun o ho => Function.update_of_ne ho _ _⟩

end Functions

/-! ### The start -/

/-- What the callbacks may count on: the router was asked for its owner, and bit 31 of `0x1200c`
may be set. -/
structure Fair where
  owned : Bool := false
  dirty : Bool := true

def Step.known : Step → Bool
  | .phyPrepare | .rxPrepare | .txbPrepare | .txaPrepare | .rxActive | .txbActive | .txaActive
  | .rxClockReference | .rxClockPhy | .miscResetAssert | .miscResetClear | .extraResetAssert
  | .extraResetClear | .dpResetAssert | .dpResetClear | .pipeResetAssert | .pipeResetClear
  | .sysReady | .upload | .sysMemoryForce | .tcsrRoute | .pipeHwcgOff | .drom | .phyComposite
  | .mcuStart | .preset => true
  | _ => false

/-- The observer that expects callbacks that succeed; the owner is asked for first, the steps are
known, and bit 31 of `0x1200c` stays clear once it was cleared. -/
def fair : Watch Startup.Call Startup.Reply Fair where
  look g q _ :=
    match q with
    | .owner => { g with owned := true }
    | .update offset mask v =>
      if offset = 0x1200c then { g with dirty := !(decide (mask = bit31) && decide (v = 0)) } else g
    | _ => g
  allow g q := g.owned = decide (q ≠ .owner) ∧ ∀ step, q = .step step → Step.known step = true
  expect g q r := r.ret = 0 ∧ ∀ offset, q = .read offset → g.dirty = false → r.value &&& bit31 = 0

section Fair

variable {g : Fair}

lemma fair_clear_clean (n : ℕ) (hg : g.owned = true) (hclean : g.dirty = false) :
    Safe fair (fun g' ret => ret = 0 ∧ g'.owned = true) (clear1200c n) g := by
  cases n <;>
  · refine safe_ask_bind.2 ⟨⟨hg, by simp⟩, fun r hr => ?_⟩
    rw [if_neg (not_not.2 hr.1), if_pos (hr.2 _ rfl hclean)]
    exact safe_ask_bind.2 ⟨⟨hg, by simp⟩, fun _ _ => ⟨rfl, hg⟩⟩

lemma fair_clear (n : ℕ) (hg : g.owned = true) :
    Safe fair (fun g' ret => ret = 0 ∧ g'.owned = true) (clear1200c (n + 1)) g := by
  refine safe_ask_bind.2 ⟨⟨hg, by simp⟩, fun r hr => ?_⟩
  rw [if_neg (not_not.2 hr.1)]
  split
  · exact safe_ask_bind.2 ⟨⟨hg, by simp⟩, fun _ _ => ⟨rfl, hg⟩⟩
  refine safe_ask_bind.2 ⟨⟨hg, by simp⟩, fun u hu => ?_⟩
  rw [if_neg (not_not.2 hu.1)]
  exact safe_ask_bind.2 ⟨⟨hg, by simp⟩, fun _ _ => fair_clear_clean n hg rfl⟩

lemma fair_execute (us : BitVec 32) {op : Operation}
    (hop : op.kind = .provider → Step.known op.step = true) (hg : g.owned = true) :
    Safe fair (fun g' ret => ret = 0 ∧ g'.owned = true) (execute us op) g := by
  unfold execute
  split
  · rename_i hk
    refine safe_ask_bind.2 ⟨⟨hg, ?_⟩, fun r hr => ⟨hr.1, hg⟩⟩
    rintro _ ⟨⟩
    exact hop hk
  · refine safe_ask_bind.2 ⟨⟨hg, by simp⟩, fun r hr => ⟨hr.1, ?_⟩⟩
    dsimp only [fair]
    split <;> exact hg
  · exact safe_ask_bind.2 ⟨⟨hg, by simp⟩, fun _ _ => ⟨rfl, hg⟩⟩
  · exact safe_ask_bind.2 ⟨⟨hg, by simp⟩, fun _ _ => ⟨rfl, hg⟩⟩
  · exact fair_clear 10 hg

lemma fair_track {step : Step} {d : Dialog Startup.Call Startup.Reply ℤ} {s : X1State}
    (h : Safe fair (fun g' ret => ret = 0 ∧ g'.owned = true) d g) :
    Safe fair (fun g' x => x.2 = 0 ∧ g'.owned = true) (track step d s) g := by
  refine safe_bind.2 (h.mono ?_)
  rintro g' ret ⟨rfl, hg'⟩
  rw [if_neg (not_not.2 rfl)]
  exact ⟨rfl, hg'⟩

lemma fair_entries (us : BitVec 32) {ops : List Operation}
    (hops : ∀ op ∈ ops, op.kind = .provider → Step.known op.step = true) (s : X1State)
    (hg : g.owned = true) :
    Safe fair (fun _ x => x.2 = 0)
      (Act.list (ops.map fun op => track op.step (execute us op)) s) g := by
  induction ops generalizing s g with
  | nil => rfl
  | cons op ops ih =>
    obtain ⟨hop, hops⟩ := List.forall_mem_cons.1 hops
    refine safe_seq.2 ((fair_track (fair_execute us hop hg)).mono fun g' x hx => ?_)
    rw [if_neg (not_not.2 hx.1)]
    exact ih hops x.1 hx.2

lemma known_operations : ∀ op ∈ operations, op.kind = .provider → Step.known op.step = true := by
  decide

lemma fair_startupRun {crc32c : List Byte → BitVec 32} {cfg : Config}
    (hv : validate crc32c (some cfg) (some {}) = 0) (hg : g.owned = false) :
    Safe fair (fun _ x => x.2 = 0) (startupRun crc32c (some cfg) (some {}) (some {})) g := by
  have howner : Safe fair (fun g' ret => ret = 0 ∧ g'.owned = true)
      (ask .owner >>= fun r => pure r.ret) g :=
    safe_ask_bind.2 ⟨⟨hg, by simp⟩, fun r hr => ⟨hr.1, rfl⟩⟩
  have hsteps (s : X1State) :
      Safe fair (fun _ x => x.2 = 0) (startupSteps crc32c (some cfg) (some {}) s) g := by
    refine safe_seq.2 (safe_bind.2 (safe_pure.2 ?_))
    rw [hv, if_neg (not_not.2 rfl), safe_pure, if_neg (not_not.2 rfl)]
    refine safe_seq.2 ((fair_track howner).mono fun g₁ x hx => ?_)
    rw [if_neg (not_not.2 hx.1)]
    refine safe_seq.2 ((fair_entries _ known_operations x.1 hx.2).mono fun g₂ y hy => ?_)
    rw [if_neg (not_not.2 hy)]
    rfl
  rw [startupRun, if_neg (by decide)]
  refine safe_bind.2 ((hsteps _).mono fun g' x hx => ?_)
  dsimp only
  rw [if_neg (not_not.2 hx)]
  rfl

end Fair

/-- A router before its first start. -/
structure Cold (init : ℕ → BitVec 32) : Prop where
  control : init x1Mcu.controlOffset = 0
  shared : init x1Mcu.sharedOffsetReg = 0
  pending : init 0x2201c = 0
  identity : init 0x78640 = 3

/-- The start goes well so far. -/
structure Working (init : ℕ → BitVec 32) (g : Stage × Fair) (f : ℕ → Option (BitVec 32))
    (host : Host) : Prop where
  mcu : host.mcu = x1Mcu
  firmware : host.firmware = true
  live : g.1.live = true
  unowned : g.2.owned = false → host.phyInitialized = false ∧ f = fun _ => none
  clean : g.2.dirty = false → value init f 0x1200c &&& bit31 = 0
  shared : f x1Mcu.sharedOffsetReg = none
  halted : g.1.calm = true → value init f x1Mcu.controlOffset = 0
  running : g.1.calm = false → value init f x1Mcu.controlOffset &&& runBit ≠ 0

section Working

variable {crc32c : List Byte → BitVec 32} {cfg : Config} {g : Stage × Fair} {host host' : Host}

lemma value_congr (h₁ : offset ≠ statusReg) (h : f' offset = f offset) :
    value init f' offset = value init f offset := by
  by_cases h₂ : offset = x1Mcu.mailbox
  · rw [h₂, value_mailbox, value_mailbox]
  · rw [value_of_ne h₁ h₂, value_of_ne h₁ h₂, h]

lemma Working.step {step : Step} {r : Startup.Reply} (h : Working init g f host)
    (hown : g.2.owned = true) (hret : r.ret = 0) (hm : host'.mcu = host.mcu)
    (hfw : host'.firmware = host.firmware) (hlive : (g.1.next (.step step)).live = true)
    (hclean : f' 0x1200c = f 0x1200c)
    (hshared : f' x1Mcu.sharedOffsetReg = f x1Mcu.sharedOffsetReg)
    (hhalted : (g.1.next (.step step)).calm = true → value init f' x1Mcu.controlOffset = 0)
    (hrunning : (g.1.next (.step step)).calm = false →
      value init f' x1Mcu.controlOffset &&& runBit ≠ 0) :
    Working init ((stages.prod fair).look g (.step step) r) f' host' := by
  have hlook : (stages.prod fair).look g (.step step) r = (g.1.next (.step step), g.2) :=
    Prod.ext (if_pos hret) rfl
  rw [hlook]
  exact {
    mcu := hm.trans h.mcu
    firmware := hfw.trans h.firmware
    live := hlive
    unowned := fun hu => absurd (hown.symm.trans hu) (by decide)
    clean := fun hd => by rw [value_congr (by decide) hclean]; exact h.clean hd
    shared := hshared.trans h.shared
    halted := hhalted
    running := hrunning }

lemma machine_anyNonzero {offsets : List ℕ} (h : ∀ o ∈ offsets, value init f o = 0) :
    Safe (machine init) (fun f' busy => f' = f ∧ busy = false) (anyNonzero offsets) f := by
  induction offsets with
  | nil => exact ⟨rfl, rfl⟩
  | cons o offsets ih =>
    obtain ⟨ho, hos⟩ := List.forall_mem_cons.1 h
    refine machine_readl fun r hr => ?_
    rw [if_neg (not_not.2 (hr.trans ho))]
    exact ih hos

lemma machine_owner (hcold : Cold init) (hfw : host.firmware = true)
    (hphy : host.phyInitialized = false) :
    Safe (machine init) (fun f' x => (f' = fun _ => none) ∧ x.2.ret = 0 ∧ x.1.mcu = host.mcu ∧
      x.1.firmware = host.firmware) (x1Owner host) fun _ => none := by
  have hstatus : value init (fun _ => none) statusReg = 0 := by
    rw [value_status, value_control, Option.getD_none, hcold.control]
    rfl
  rw [x1Owner, if_neg (by simp [hfw, hphy])]
  refine safe_bind.2 ((machine_anyNonzero ?_).mono ?_)
  · simp only [List.forall_mem_cons, List.not_mem_nil, false_implies, implies_true, and_true]
    exact ⟨hcold.control, hstatus, hcold.shared, hcold.pending⟩
  · rintro f' busy ⟨rfl, rfl⟩
    rw [if_neg (by decide)]
    refine machine_readl fun r hr => ?_
    rw [if_neg (not_not.2 (hr.trans hcold.identity))]
    exact ⟨rfl, rfl, rfl, rfl⟩

lemma machine_x1Step {step : Step} (hs : Step.drives step = false) (hk : Step.known step = true) :
    Safe (machine init) (fun f' x => f' = f ∧ x.2 = 0 ∧ x.1.mcu = host.mcu ∧
      x.1.firmware = host.firmware) (x1Step crc32c cfg step host) f := by
  cases step with
  | upload => cases hs
  | drom => cases hs
  | mcuStart => cases hs
  | preset => cases hs
  | phyPrepare =>
    refine ⟨trivial, fun r hr => ?_⟩
    change Safe _ _ (if r.ret ≠ 0 then _ else _) f
    rw [if_neg (not_not.2 (show r.ret = 0 from hr))]
    exact ⟨trivial, fun r hr => ⟨rfl, hr, rfl, rfl⟩⟩
  | _ =>
    first
    | exact ⟨trivial, fun r hr => ⟨rfl, hr, rfl, rfl⟩⟩
    | cases hk

lemma reads_of_validate (hv : validate crc32c (some cfg) (some {}) = 0) :
    ∃ data rs, cfg.firmware = some data ∧ Reads data cfg.firmwareSize x1RamSize rs := by
  have hfw : fwValidate cfg.firmware cfg.firmwareSize 0xf000 = 0 := by
    dsimp only [validate] at hv
    rw [if_neg (by decide), x1DromBuild_replicate, if_neg (not_not.2 rfl)] at hv
    split at hv
    · cases hv
    · exact hv
  cases hdata : cfg.firmware with
  | none =>
    rw [hdata] at hfw
    cases hfw
  | some data =>
    rw [hdata] at hfw
    obtain ⟨rs, hrs⟩ := fwValidate_reads.1 hfw
    exact ⟨data, rs, rfl, hrs⟩

lemma machine_x1Step_working {step : Step} (hv : validate crc32c (some cfg) (some {}) = 0)
    (h : Working init g f host) (hinit : Cold init) (hstage : g.1.allows (.step step) = true)
    (hown : g.2.owned = true) (hk : Step.known step = true) :
    Safe (machine init) (fun f' x => x.2 = 0 ∧
      Working init ((stages.prod fair).look g (.step step) { ret := x.2 }) f' x.1)
      (x1Step crc32c cfg step host) f := by
  by_cases hd : Step.drives step = false
  · refine (machine_x1Step hd hk).mono ?_
    rintro _ x ⟨rfl, hret, hm, hfw⟩
    refine ⟨hret, h.step hown hret hm hfw ?_ rfl rfl ?_ ?_⟩ <;> rw [next_of_not_drives hd]
    · exact h.live
    · exact h.halted
    · exact h.running
  cases step with
  | upload =>
    have hg : g.1 = .fresh := of_decide_eq_true hstage
    obtain ⟨data, rs, hdata, hrs⟩ := reads_of_validate hv
    have hc : value init f x1Mcu.controlOffset = 0 := h.halted (by rw [hg]; rfl)
    refine safe_bind.2 ?_
    rw [h.mcu, hdata]
    refine (machine_upload hrs (by rw [hc]; decide)).mono ?_
    rintro f' ret ⟨rfl, hf'⟩
    -- the words lie in the RAM
    have hothers (o : ℕ) (ho : ¬ x1Mcu.InRam o) :
        f' o = Function.update f x1Mcu.controlOffset (some 0) o := by
      rw [hf']
      refine overlay_of_ne fun c hc heq => ho ?_
      have := (mem_cells hrs.fits hc).2
      exact heq ▸ ⟨by omega, by dsimp only [x1Mcu]; omega⟩
    refine ⟨rfl, h.step hown rfl rfl rfl rfl ?_ ?_ (fun _ => ?_) (by simp [Stage.next, Stage.calm])⟩
    · rw [hothers _ (by unfold QcomUsb4Mcu.InRam; decide), Function.update_of_ne (by decide)]
    · rw [hothers _ (by unfold QcomUsb4Mcu.InRam; decide), Function.update_of_ne (by decide)]
    · rw [value_control, hothers _ placed_x1.not_inRam_control, Function.update_self]
      rfl
  | drom =>
    have hg : g.1 = .uploaded := of_decide_eq_true hstage
    have hc : value init f x1Mcu.controlOffset = 0 := h.halted (by rw [hg]; rfl)
    refine safe_bind.2 ((machine_storeDrom h.mcu hc).mono ?_)
    rintro _ ret ⟨rfl, drom, rfl⟩
    refine ⟨rfl, h.step hown rfl rfl rfl rfl ?_ ?_ (fun _ => ?_) (by simp [Stage.next, Stage.calm])⟩
    · exact withDrom_of_not_loaded (not_loaded_of_mem (by decide))
    · exact withDrom_of_not_loaded (by unfold Loaded QcomUsb4Mcu.InRam; decide)
    · rw [value_congr (by decide) (withDrom_of_not_loaded fun hl => hl.ne_control rfl), hc]
  | mcuStart =>
    have hg : g.1 = .described := of_decide_eq_true hstage
    have hc : value init f x1Mcu.controlOffset = 0 := h.halted (by rw [hg]; rfl)
    refine safe_bind.2 ?_
    rw [h.mcu]
    refine (machine_start (by rw [hc]; decide) ?_).mono ?_
    · rw [value_of_ne (by decide) (by decide), h.shared]
      exact hinit.shared
    · rintro f' ⟨ret, shared⟩ ⟨rfl, hrun, hothers⟩
      exact ⟨rfl, h.step hown rfl h.mcu.symm rfl rfl (hothers _ (by decide) (by decide))
        (hothers _ (by decide) (by decide)) (by simp [Stage.next, Stage.calm]) fun _ => hrun⟩
  | preset =>
    have hg : g.1 = .started := of_decide_eq_true hstage
    have hrun := h.running (by rw [hg]; rfl)
    have hpreset : presetCommand cfg.mcuPreset = (0, 0xc6302) := by
      rw [preset_of_validate hv]
      decide
    rw [x1Step, hpreset]
    dsimp only
    rw [if_neg (not_not.2 rfl)]
    refine safe_bind.2 ?_
    rw [h.mcu]
    refine (machine_command hrun (by decide)).mono ?_
    rintro f' ret ⟨rfl, hothers⟩
    refine ⟨rfl, h.step hown rfl rfl rfl rfl (hothers _ (by decide)) (hothers _ (by decide))
      (by simp [Stage.next, Stage.calm]) fun _ => ?_⟩
    rwa [value_congr (by decide) (hothers _ (by decide))]
  | _ => exact absurd rfl hd

lemma machine_x1StartOps (hv : validate crc32c (some cfg) (some {}) = 0) (hinit : Cold init)
    (q : Startup.Call) (h : Working init g f host) (hq : (stages.prod fair).allow g q) :
    Safe (machine init) (fun f' x => (stages.prod fair).expect g q x.2 ∧
      Working init ((stages.prod fair).look g q x.2) f' x.1) (x1StartOps crc32c cfg q host) f := by
  obtain ⟨hstage, hown, hk⟩ := hq
  cases q with
  | delay us => exact ⟨⟨trivial, rfl, by simp⟩, h⟩
  | owner =>
    replace hown : g.2.owned = false := hown
    obtain ⟨hphy, rfl⟩ := h.unowned hown
    refine (machine_owner hinit h.firmware hphy).mono ?_
    rintro _ x ⟨rfl, hret, hm, hfw⟩
    have hlook : (stages.prod fair).look g .owner x.2 = (g.1, { g.2 with owned := true }) :=
      Prod.ext (if_pos hret) rfl
    rw [hlook]
    exact ⟨⟨trivial, hret, by simp⟩, hm.trans h.mcu, hfw.trans h.firmware, h.live, by simp, h.clean,
      h.shared, h.halted, h.running⟩
  | step step =>
    refine safe_bind.2 ((machine_x1Step_working hv h hinit hstage hown (hk step rfl)).mono ?_)
    intro f' x hx
    exact ⟨⟨trivial, hx.1, by simp⟩, hx.2⟩
  | read offset =>
    have ho : offset = 0x1200c := of_decide_eq_true (Bool.and_eq_true_iff.1 hstage).1
    subst ho
    rw [x1StartOps, x1Read_table (by decide)]
    refine machine_readl fun r hr => ?_
    refine ⟨⟨trivial, rfl, fun _ _ hd => ?_⟩, h⟩
    dsimp only
    rw [hr]
    exact h.clean hd
  | update offset mask v =>
    have hmem : offset.toNat ∈ tableRegs := by simpa using (Bool.and_eq_true_iff.1 hstage).1
    have hne : ∀ o ∈ tableRegs, x1Mcu.controlOffset ≠ o ∧ x1Mcu.sharedOffsetReg ≠ o := by decide
    obtain ⟨hcontrol, hshared⟩ := hne _ hmem
    rw [x1StartOps, x1Update, x1Read_table hmem]
    refine safe_bind.2 (machine_readl fun r hr => ?_)
    rw [safe_pure]
    dsimp only
    rw [if_neg (not_not.2 rfl)]
    refine machine_writel fun _ => ⟨⟨trivial, rfl, by simp⟩, ?_⟩
    dsimp only
    have hlook : (stages.prod fair).look g (.update offset mask v) { ret := 0 } =
        (g.1, fair.look g.2 (.update offset mask v) { ret := 0 }) := rfl
    have howned : (fair.look g.2 (.update offset mask v) { ret := 0 }).owned = true := by
      dsimp only [fair]
      split <;> exact hown
    have hvalue : value init (Function.update f offset.toNat (some ((r.value &&& ~~~ mask) |||
        (v &&& mask)))) x1Mcu.controlOffset = value init f x1Mcu.controlOffset :=
      value_congr (by decide) (Function.update_of_ne hcontrol _ _)
    rw [hlook]
    refine ⟨h.mcu, h.firmware, h.live, fun hu => absurd (howned.symm.trans hu) (by decide), ?_,
      (Function.update_of_ne hshared _ _).trans h.shared, ?_, ?_⟩
    · intro hd
      by_cases ho : offset = 0x1200c
      · subst ho
        obtain ⟨rfl, rfl⟩ : mask = bit31 ∧ v = 0 := by simpa [fair] using hd
        have hself : value init (Function.update f 0x1200c (some ((r.value &&& ~~~ bit31) |||
            (0 &&& bit31)))) 0x1200c = (r.value &&& ~~~ bit31) ||| (0 &&& bit31) := by
          rw [value_of_ne (by decide) (by decide), Function.update_self, Option.getD_some]
        exact (congrArg (· &&& bit31) hself).trans ((masked _ _ _).trans (by decide))
      · have hclean : g.2.dirty = false := by
          rwa [show fair.look g.2 (.update offset mask v) { ret := 0 } = g.2 from if_neg ho] at hd
        rw [value_congr (by decide) (Function.update_of_ne ?_ _ _)]
        · exact h.clean hclean
        · exact fun heq => ho (BitVec.eq_of_toNat_eq heq.symm)
    · rw [hvalue]
      exact h.halted
    · rw [hvalue]
      exact h.running

end Working

def router (init : ℕ → BitVec 32) (past : List (Io Provider × Reply)) : Io Provider → Reply
  | .readl offset =>
    { value := value init ((machine init).after (fun _ => none) past.reverse) offset }
  | _ => {}

lemma router_honest {α : Type} (d : Mmio Provider α) :
    (machine init).Honest (fun _ => none) (run (router init) [] d).1 := by
  refine run_honest (fun past q => ?_) d
  cases q with
  | readl offset => rfl
  | writel offset v => trivial
  | clock us => trivial
  | provider p => rfl

lemma boot_eq_zero (crc32c : List Byte → BitVec 32) {base : ℕ} {cfg : Config} {host : Host}
    (hcold : Cold init) (hv : validate crc32c (some cfg) (some {}) = 0)
    (hinit : mcuInit base x1RouterSize x1RamSize .legacy = (host.mcu, 0))
    (hfw : host.firmware = true) (hphy : host.phyInitialized = false)
    {tr : List (Io Provider × Reply)} {out : Host × Option X1State × ℤ}
    (hd : Does (boot crc32c cfg {} host) tr out)
    (hh : (machine init).Honest (fun _ => none) tr) : out.2.2 = 0 := by
  have hstart : Working init (.fresh, {}) (fun _ => none) host :=
    ⟨mcuInit_x1 hinit, hfw, rfl, fun _ => ⟨hphy, rfl⟩, by simp, rfl, fun _ => hcold.control,
      by simp [Stage.calm]⟩
  have hops (q : Startup.Call) (g : Stage × Fair) (f : ℕ → Option (BitVec 32)) (host : Host)
      (h : Working init g f host) (hq : (stages.prod fair).allow g q) :
      Safe (machine init) (fun f' x => (stages.prod fair).expect g q x.2 ∧
        Working init ((stages.prod fair).look g q x.2) f' x.1) (x1StartOps crc32c cfg q host) f :=
    machine_x1StartOps hv hcold q h hq
  have hsafe := ((safe_startupRun crc32c cfg {}).prod (fair_startupRun hv rfl)).serve hops hstart
  obtain ⟨-, g, hend, -⟩ := hsafe.does hd hh
  exact hend.2

/-- A router before its first start, with nothing else in its registers. -/
def coldInit (offset : ℕ) : BitVec 32 := if offset = 0x78640 then 3 else 0

lemma cold_coldInit : Cold coldInit := ⟨rfl, rfl, rfl, rfl⟩

lemma validate_smallConfig : validate crc32c (some smallConfig) (some {}) = 0 := by
  dsimp only [validate, smallConfig]
  rw [if_neg (by decide), if_neg (by decide), x1DromBuild_replicate, if_neg (not_not.2 rfl)]
  exact fwValidate_reads.2 ⟨_, reads_oneWord⟩

lemma mcuInit_coldHost : mcuInit 4 x1RouterSize x1RamSize .legacy = (coldHost.mcu, 0) := rfl

/-- **The cold start.** Whatever the registers and the other drivers answer, every access is a word
of the router and every write is licensed; the controller is told to run only when the whole image,
the descriptor and the identity are in place. If the start succeeds, the firmware runs and has taken
the first command; if it fails before that command, the controller is not left told to run. -/
theorem boot_allowed (crc32c : List Byte → BitVec 32) {base : ℕ} {cfg : Config} {s : X1State}
    {host : Host}
    (hinit : mcuInit base x1RouterSize x1RamSize .legacy = (host.mcu, 0))
    (hserial : host.serial = cfg.serial) {tr : List (Io Provider × Reply)}
    {out : Host × Option X1State × ℤ} (hd : Does (boot crc32c cfg s host) tr out) :
    (watch x1Mcu x1RouterSize (x1Rules crc32c cfg)).Allowed {} tr ∧
      BootEnd crc32c cfg ((watch x1Mcu x1RouterSize (x1Rules crc32c cfg)).after {} tr) out :=
  boot_spec crc32c hinit hserial hd

/-- The start of a cold router, with a file of one word: it succeeds. -/
theorem boot_allowed_smallConfig :
    let x := run (router coldInit) [] (boot (fun _ => 0) smallConfig {} coldHost)
    let w := watch x1Mcu x1RouterSize (x1Rules (fun _ => 0) smallConfig)
    w.Allowed {} x.1 ∧ x.2.2.2 = 0 ∧ Started x1Mcu (w.after {} x.1) x.2.1.shared := by
  obtain ⟨hall, hend⟩ := boot_allowed (fun _ => 0) mcuInit_coldHost rfl
    (run_does (router coldInit) [] (boot (fun _ => 0) smallConfig {} coldHost))
  have h0 := boot_eq_zero (fun _ => 0) cold_coldInit validate_smallConfig mcuInit_coldHost rfl rfl
    (run_does (router coldInit) [] _) (router_honest _)
  exact ⟨hall, h0, (hend.success h0).2.1⟩

/-- **A router that behaves starts**: with any configuration that passes the validation, from any
contents of its registers that a cold router may have. The firmware runs, is ready, and has taken
the first command. -/
theorem boot_succeeds (crc32c : List Byte → BitVec 32) {base : ℕ} {cfg : Config} {host : Host}
    (hcold : Cold init) (hv : validate crc32c (some cfg) (some {}) = 0)
    (hinit : mcuInit base x1RouterSize x1RamSize .legacy = (host.mcu, 0))
    (hfw : host.firmware = true) (hphy : host.phyInitialized = false)
    {tr : List (Io Provider × Reply)} {out : Host × Option X1State × ℤ}
    (hd : Does (boot crc32c cfg {} host) tr out)
    (hh : (machine init).Honest (fun _ => none) tr) :
    out.2.2 = 0 ∧ (host.serial = cfg.serial →
      let e := (watch x1Mcu x1RouterSize (x1Rules crc32c cfg)).after {} tr
      Complete crc32c cfg e.written ∧ Started x1Mcu e out.1.shared ∧
        e.written x1Mcu.mailbox = some 0xc6302) := by
  have h0 := boot_eq_zero crc32c hcold hv hinit hfw hphy hd hh
  refine ⟨h0, fun hserial => ?_⟩
  obtain ⟨hcomplete, hstarted, -, hmail⟩ := (boot_spec crc32c hinit hserial hd).2.success h0
  exact ⟨hcomplete, hstarted, hmail⟩

theorem boot_succeeds_smallConfig :
    (run (router coldInit) [] (boot (fun _ => 0) smallConfig {} coldHost)).2.2.2 = 0 :=
  (boot_succeeds (fun _ => 0) cold_coldInit validate_smallConfig mcuInit_coldHost rfl rfl
    (run_does (router coldInit) [] _) (router_honest _)).1

/-! ### The checked upload of the front end -/

def checkRouter (offset : ℕ) (mask expected : BitVec 32) : Mmio π ℤ := do
  let r ← ask (.readl offset)
  return if r.value &&& mask = expected then 0 else -eio

def checkWord (offset v : BitVec 32) : Mmio π ℤ :=
  checkRouter (0x13000 + offset).toNat (BitVec.allOnes 32) v

/-- `upload_checked`; its loop over the records is the loader's, with a check for the write. -/
def uploadChecked (m : QcomUsb4Mcu) (data : ℕ → Byte) (size : ℕ) : Mmio π ℤ := do
  let ret ← upload m (some data) size
  if ret ≠ 0 then return ret
  let ret ← uploadFrom checkWord data size 0
  if ret ≠ 0 then return ret
  let ret ← checkRouter 0x22000 (BitVec.allOnes 32) 0
  if ret ≠ 0 then return -ebusy
  return 0

lemma machine_check {cs : List (BitVec 32 × BitVec 32)} (h : ∀ c ∈ cs, c.1.toNat + 4 ≤ x1RamSize) :
    Safe (machine init) (fun f' ret => f' = f ∧
      (ret = 0 ∧ (∀ c ∈ cs, value init f (x1Mcu.ramOffset + c.1.toNat) = c.2) ∨
       ret = -eio ∧ ¬ ∀ c ∈ cs, value init f (x1Mcu.ramOffset + c.1.toNat) = c.2))
      (writeCells checkWord cs : Mmio π ℤ) f := by
  induction cs with
  | nil => exact ⟨rfl, .inl ⟨rfl, by simp⟩⟩
  | cons c cs ih =>
    obtain ⟨hc, hcs⟩ := List.forall_mem_cons.1 h
    have hoffset : (0x13000 + c.1).toNat = x1Mcu.ramOffset + c.1.toNat := by
      unfold x1RamSize at hc
      rw [BitVec.toNat_add, Nat.mod_eq_of_lt]
      · rfl
      · change 0x13000 + _ < _
        omega
    refine safe_bind.2 (machine_readl fun r hr => safe_pure.2 ?_)
    rw [BitVec.and_allOnes, hr, hoffset]
    by_cases hval : value init f (x1Mcu.ramOffset + c.1.toNat) = c.2
    · rw [if_pos hval, if_neg (not_not.2 rfl)]
      simpa only [List.forall_mem_cons, hval, true_and] using ih hcs
    · rw [if_neg hval, if_pos (by decide)]
      exact ⟨rfl, .inr ⟨rfl, fun hall => hval (hall c List.mem_cons_self)⟩⟩

lemma value_overlay_iff {g : ℕ → Option (BitVec 32)} {cs : List (BitVec 32 × BitVec 32)}
    (h : ∀ c ∈ cs, c.1.toNat + 4 ≤ x1RamSize) :
    (∀ c ∈ cs, value init (overlay x1Mcu.ramOffset g cs) (x1Mcu.ramOffset + c.1.toNat) = c.2) ↔
      Consistent cs := by
  rw [← overlay_eq_iff_consistent x1Mcu.ramOffset g]
  refine forall₂_congr fun c hc => ?_
  have hram := h c hc
  have h₁ : x1Mcu.ramOffset + c.1.toNat ≠ statusReg := by
    dsimp only [x1Mcu, statusReg]
    omega
  have h₂ : x1Mcu.ramOffset + c.1.toNat ≠ x1Mcu.mailbox := by
    dsimp only [x1Mcu, QcomUsb4Mcu.mailbox, commandRelative]
    unfold x1RamSize at hram
    omega
  obtain ⟨d, -, -, hval⟩ := overlay_mem x1Mcu.ramOffset g ⟨c, hc, rfl⟩
  rw [value_of_ne h₁ h₂, hval, Option.getD_some, Option.some.injEq]

lemma machine_uploadChecked {data : ℕ → Byte} {size : ℕ} {rs : List Record}
    (hrs : Reads data size x1RamSize rs) (hc : init x1Mcu.controlOffset &&& runBit = 0) :
    Safe (machine init) (fun _ ret => ret = 0 ∧ Consistent (cells rs) ∨
      ret = -eio ∧ ¬ Consistent (cells rs))
      (uploadChecked x1Mcu data size : Mmio π ℤ) fun _ => none := by
  have hcells : ∀ c ∈ cells rs, c.1.toNat + 4 ≤ x1RamSize := fun c h => (mem_cells hrs.fits h).2
  replace hc : value init (fun _ => none) x1Mcu.controlOffset &&& runBit = 0 := hc
  refine safe_bind.2 ((machine_upload hrs hc).mono ?_)
  rintro f ret ⟨rfl, hf⟩
  rw [if_neg (not_not.2 rfl), hrs.uploadFrom_eq]
  refine safe_bind.2 ((machine_check hcells).mono ?_)
  rintro f' ret ⟨hf', hret⟩
  rw [hf, value_overlay_iff hcells] at hret
  rw [hf']
  rcases hret with ⟨rfl, hcons⟩ | ⟨rfl, hcons⟩
  · have hcontrol : value init f 0x22000 = 0 := by
      refine value_control.trans ?_
      rw [hf, overlay_of_ne fun c h heq => ?_, Function.update_self]
      · rfl
      · have := hcells c h
        exact placed_x1.not_inRam_control (heq ▸ ⟨by omega, by dsimp only [x1Mcu]; omega⟩)
    rw [if_neg (not_not.2 rfl)]
    refine safe_bind.2 (machine_readl fun r hr => safe_pure.2 ?_)
    rw [BitVec.and_allOnes, hr, hcontrol, if_pos rfl, if_neg (not_not.2 rfl)]
    exact .inl ⟨rfl, hcons⟩
  · rw [if_pos (by decide)]
    exact .inr ⟨rfl, hcons⟩

/-- **The checked upload finds files that overwrite themselves.** On a router that keeps what is
written, a file passes exactly if it is an encoding of records that fit and no two of them put
different words in one place; the validator alone accepts such files. -/
theorem uploadChecked_eq_zero_iff {data : ℕ → Byte} {size : ℕ}
    (hc : init x1Mcu.controlOffset &&& runBit = 0) {tr : List (Io π × Reply)} {ret : ℤ}
    (hd : Does (uploadChecked x1Mcu data size) tr ret)
    (hh : (machine init).Honest (fun _ => none) tr) :
    (ret = 0 ↔ ∃ rs, Reads data size x1RamSize rs ∧ Consistent (cells rs)) ∧
      (fwValidate (some data) size x1RamSize = 0 → ret = 0 ∨ ret = -eio) := by
  by_cases hv : fwValidate (some data) size x1RamSize = 0
  · obtain ⟨rs, hrs⟩ := fwValidate_reads.1 hv
    obtain ⟨-, hend⟩ := (machine_uploadChecked hrs hc).does hd hh
    -- A file has one reading only.
    have hiff : (∃ rs, Reads data size x1RamSize rs ∧ Consistent (cells rs)) ↔
        Consistent (cells rs) :=
      ⟨fun ⟨rs', hrs', hcons⟩ => hrs'.unique hrs ▸ hcons, fun hcons => ⟨rs, hrs, hcons⟩⟩
    rw [hiff]
    rcases hend with ⟨rfl, hcons⟩ | ⟨rfl, hcons⟩
    · exact ⟨iff_of_true rfl hcons, fun _ => .inl rfl⟩
    · exact ⟨iff_of_false (by decide) hcons, fun _ => .inr rfl⟩
  · have hupload : (upload x1Mcu (some data) size : Mmio π ℤ) =
        pure (fwValidate (some data) size x1RamSize) := by
      rw [upload, if_neg (by decide)]
      exact if_pos hv
    rw [uploadChecked, hupload] at hd
    replace hd : Does (if fwValidate (some data) size x1RamSize ≠ 0 then
      pure (fwValidate (some data) size x1RamSize) else _ : Mmio π ℤ) tr ret := hd
    rw [if_pos hv] at hd
    obtain ⟨-, rfl⟩ := does_pure.1 hd
    refine ⟨iff_of_false hv ?_, fun h0 => absurd h0 hv⟩
    rintro ⟨rs, hrs, -⟩
    exact hv (fwValidate_reads.2 ⟨rs, hrs⟩)

/-- A file with two records for one place. -/
def selfOverwriting : ℕ → Byte :=
  byte [0, 0, 0, 0, 1, 0, 0, 0, 1, 0, 0, 0, 0, 0, 0, 0, 1, 0, 0, 0, 2, 0, 0, 0]

lemma reads_selfOverwriting : Reads selfOverwriting 24 x1RamSize [⟨0, [1]⟩, ⟨0, [2]⟩] where
  nonempty := by simp
  fits := by
    simp only [List.forall_mem_cons, List.not_mem_nil, false_implies, implies_true, and_true]
    exact ⟨⟨rfl, by decide, by decide⟩, ⟨rfl, by decide, by decide⟩⟩
  bytes := by decide

theorem uploadChecked_selfOverwriting :
    fwValidate (some selfOverwriting) 24 x1RamSize = 0 ∧
      (run (router coldInit) [] (uploadChecked x1Mcu selfOverwriting 24)).2 = -eio := by
  have hv : fwValidate (some selfOverwriting) 24 x1RamSize = 0 :=
    fwValidate_reads.2 ⟨_, reads_selfOverwriting⟩
  have hc : coldInit x1Mcu.controlOffset &&& runBit = 0 := by decide
  obtain ⟨hiff, hret⟩ := uploadChecked_eq_zero_iff hc
    (run_does (router coldInit) [] (uploadChecked x1Mcu selfOverwriting 24)) (router_honest _)
  refine ⟨hv, (hret hv).resolve_left fun h0 => ?_⟩
  obtain ⟨rs, hrs, hcons⟩ := hiff.1 h0
  obtain rfl := hrs.unique reads_selfOverwriting
  exact absurd (hcons (0, 1) (by decide) (0, 2) (by decide) rfl) (by decide)

end YogaUsb4.Mcu
