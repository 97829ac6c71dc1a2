import YogaUsb4.Dialog

/-!
The bring-up of PCI0: the setup of the root port, which opens and closes two gates, and the training
of the link. Every register is reached through callbacks, and the device answers as it likes.
-/

namespace YogaUsb4.Pci0Init

open Dialog

/-! ### The code -/

/-- `enum x1_pci0_region`. -/
inductive Region where
  | root | parf | router
  deriving DecidableEq

/-- The callbacks of `struct x1_pci0_io` that setup and training use. -/
inductive Call where
  | read (r : Region) (off : BitVec 32)
  | write (r : Region) (off value : BitVec 32)
  | delay (ms : ℕ)
  deriving DecidableEq

/-- Only a read is answered, with any value. -/
abbrev Reply := BitVec 32

abbrev Pci0Act := Act Call Reply Unit

/-- What a register reads when there is no device. -/
def allOnes : BitVec 32 := 0xffffffff

/-- `x1_pr`, where the value is not used. -/
def pr (r : Region) (off : BitVec 32) : Pci0Act := fun s => do
  let _ ← ask (.read r off)
  return (s, 0)

/-- `x1_pw`. -/
def pw (r : Region) (off v : BitVec 32) : Pci0Act := fun s => do
  let _ ← ask (.write r off v)
  return (s, 0)

def pause (ms : ℕ) : Pci0Act := fun s => do
  let _ ← ask (.delay ms)
  return (s, 0)

/-- `x1_pm`. -/
def pm (r : Region) (off mask v : BitVec 32) : Pci0Act := fun s => do
  let old ← ask (.read r off)
  if old = allOnes then return (s, -eio)
  let _ ← ask (.write r off ((old &&& ~~~mask) ||| v))
  let got ← ask (.read r off)
  return (s, if got &&& mask = v then 0 else -eio)

/-- `x1_pv`. -/
def pv (r : Region) (off v : BitVec 32) : Pci0Act := fun s => do
  let _ ← ask (.write r off v)
  let got ← ask (.read r off)
  return (s, if got = v then 0 else -eio)

/-- `x1_pp` with so many rounds after this one. -/
def pp (r : Region) (off mask expected : BitVec 32) : ℕ → Pci0Act
  | 0 => fun s => do
    let v ← ask (.read r off)
    if v = allOnes then return (s, -eio)
    return (s, if v &&& mask = expected then 0 else -etimedout)
  | n + 1 => fun s => do
    let v ← ask (.read r off)
    if v = allOnes then return (s, -eio)
    if v &&& mask = expected then return (s, 0)
    let _ ← ask (.delay 1)
    pp r off mask expected n s

/-- The tables of `x1_pci0_setup`. -/
def parf : List (BitVec 32 × BitVec 32) :=
  [(0x350, 0), (0x354, 4), (0x634, 0x1000), (0x638, 4), (0x64c, 0xffffffff), (0x650, 0xffffffff),
    (0x358, 0), (0x35c, 0x200)]
def dbi : List (BitVec 32 × BitVec 32 × BitVec 32) :=
  [(0xb90, 0x100, 0x100), (0x71c, 0xffff0000, 0x04040000), (0x644, 1, 0),
    (0x718, 0x7c000, 0x10000), (0x20, 0xfff0fff0, 0x4ff04000)]

/-- `x1_pci0_setup` up to the first gate. -/
def setupWindows : Pci0Act := Act.list [
  pm .parf 0x1b4 0xfff 0xf40, pm .parf 0x20 0x20 0,
  Act.list (parf.map fun x => pv .parf x.1 x.2), pr .parf 0x35c,
  Act.list ((dbi.take 2).map fun x => pm .root x.1 x.2.1 x.2.2)]

/-- The protected fields, behind the write gate of the DBI. -/
def setupProtected : Pci0Act := fun s => do
  let (s, ret) ← pm .root 0x8bc 1 1 s
  if ret ≠ 0 then return (s, ret)
  let (s, ret) ← Act.seq (pm .root 8 0xffff0000 0x06040000) (pm .root 0x84 0x60 0x60) s
  -- close the DBI write gate even if a protected-field check fails
  let (s, e) ← pm .root 0x8bc 1 0 s
  if e ≠ 0 then return (s, -eio)
  return (s, ret)

/-- The BARs, behind the enable of their masks. -/
def setupBars : Pci0Act := Act.list [
  pm .root 0xfe4 1 1, pw .root 0x10 0, pw .root 0x14 0, pr .root 0x14, pm .root 0xfe4 1 0]

/-- `x1_pci0_setup`. -/
def setup : Pci0Act := Act.list [
  setupWindows, setupProtected,
  Act.list ((dbi.drop 2).map fun x => pm .root x.1 x.2.1 x.2.2), setupBars,
  -- endpoint config stays blocked; only the root command register here
  pm .root 4 6 6]

/-- `x1_pci0_reset_request`. -/
def resetRequest (bit : BitVec 32) : Pci0Act := fun s => do
  let old ← ask (.read .router 0xe008)
  if old &&& 3 ≠ 0 ∨ (bit ≠ 1 ∧ bit ≠ 2) then return (s, -ebusy)
  let _ ← ask (.write .router 0xe008 (old ||| bit))
  pp .router 0xe008 bit 0 10 s

/-- `x1_pci0_train` after the two reset requests. -/
def trainLink : Pci0Act := fun s => do
  let _ ← ask (.write .parf 0x494 0)
  let _ ← ask (.write .parf 0x494 2)
  let _ ← ask (.write .parf 0x494 0)
  let _ ← ask (.write .parf 0x494 5)
  let (s, ret) ← Act.seq (pm .parf 0x1b0 0x100 0x100) (pp .root 0xf48 0x400 0x400 150) s
  let _ ← ask (.write .parf 0x494 0)
  if ret ≠ 0 then return (s, ret)
  pp .parf 0x1b0 0x3f 0x11 150 s

/-- `x1_pci0_train`. -/
def train : Pci0Act := Act.list [resetRequest 1, pause 1, resetRequest 2, pause 20, trainLink]

/-! ### One register -/

/-- A value that was read from a register, or one that was written to it. -/
inductive Access where
  | got (v : BitVec 32)
  | put (v : BitVec 32)
  deriving DecidableEq

abbrev Register := Region × BitVec 32

def access (g : Register) : Call × Reply → Option Access
  | (.read r off, v) => if (r, off) = g then some (.got v) else none
  | (.write r off v, _) => if (r, off) = g then some (.put v) else none
  | (.delay _, _) => none

/-- What happened at a register, in order. -/
def accesses (g : Register) (tr : List (Call × Reply)) : List Access := tr.filterMap (access g)

def Access.put? : Access → Option (BitVec 32)
  | .put v => some v
  | .got _ => none

def Access.got? : Access → Option (BitVec 32)
  | .got v => some v
  | .put _ => none

/-- The values that were written, and those that were read. -/
def puts (l : List Access) : List (BitVec 32) := l.filterMap Access.put?
def gots (l : List Access) : List (BitVec 32) := l.filterMap Access.got?

/-- The gate is not left open: if its bit was set, the last write cleared it. -/
def Closed (l : List Access) : Prop :=
  (∃ v ∈ puts l, v &&& 1 = 1) → ∃ v ∈ (puts l).getLast?, v &&& 1 = 0

/-- The values that a gate's register reads: there is no device, or the register shows the opened
gate and does not go away before it is closed. -/
def Cooperative : List (BitVec 32) → Prop
  | [] => True
  | [a] => a = allOnes
  | [a, _] => a = allOnes
  | a :: b :: c :: _ => a = allOnes ∨ (b &&& 1 = 1 ∧ c ≠ allOnes)

def Call.Elsewhere (g : Register) : Call → Prop
  | .read r off => (r, off) ≠ g
  | .write r off _ => (r, off) ≠ g
  | .delay _ => True

variable {g : Register} {tr u : List (Call × Reply)} {f : Pci0Act} {s s' : Unit} {ret : ℤ}
variable {r : Region} {off mask v : BitVec 32}

@[simp] lemma accesses_append : accesses g (tr ++ u) = accesses g tr ++ accesses g u :=
  List.filterMap_append

lemma accesses_elsewhere (h : ∀ x ∈ tr, x.1.Elsewhere g) : accesses g tr = [] := by
  refine List.filterMap_eq_nil_iff.2 fun x hx => ?_
  obtain ⟨q, a⟩ := x
  have hq := h _ hx
  cases q with
  | read r off => exact if_neg hq
  | write r off v => exact if_neg hq
  | delay ms => rfl

def Avoids (g : Register) (f : Pci0Act) : Prop := Act.Within (Call.Elsewhere g) (fun _ _ => True) f

lemma Avoids.accesses (hf : Avoids g f) (h : Does (f s) tr (s', ret)) : accesses g tr = [] :=
  accesses_elsewhere (All.does (hf s) h).1

lemma Avoids.seq {f' : Pci0Act} (hf : Avoids g f) (hf' : Avoids g f') : Avoids g (Act.seq f f') :=
  Act.Within.seq (fun _ _ _ _ _ => trivial) hf hf'

lemma Avoids.list {l : List Pci0Act} (h : ∀ f ∈ l, Avoids g f) : Avoids g (Act.list l) :=
  Act.Within.list (fun _ => trivial) (fun _ _ _ _ _ => trivial) h

lemma avoids_pr (h : (r, off) ≠ g) : Avoids g (pr r off) := fun _ => ⟨h, fun _ => trivial⟩

lemma avoids_pw (h : (r, off) ≠ g) : Avoids g (pw r off v) := fun _ => ⟨h, fun _ => trivial⟩

lemma avoids_pause {ms : ℕ} : Avoids g (pause ms) := fun _ => ⟨trivial, fun _ => trivial⟩

lemma avoids_pv (h : (r, off) ≠ g) : Avoids g (pv r off v) :=
  fun _ => ⟨h, fun _ => ⟨h, fun _ => trivial⟩⟩

lemma avoids_pm (h : (r, off) ≠ g) : Avoids g (pm r off mask v) := by
  refine fun s => all_ask_bind.2 ⟨h, fun old => ?_⟩
  split
  · trivial
  · exact ⟨h, fun _ => ⟨h, fun _ => trivial⟩⟩

lemma avoids_pp {expected : BitVec 32} {n : ℕ} (h : (r, off) ≠ g) :
    Avoids g (pp r off mask expected n) := by
  induction n with
  | zero =>
    refine fun s => all_ask_bind.2 ⟨h, fun v => ?_⟩
    split <;> trivial
  | succ n ih =>
    refine fun s => all_ask_bind.2 ⟨h, fun v => ?_⟩
    split
    · trivial
    · split
      · trivial
      · exact ⟨trivial, fun _ => ih s⟩

lemma does_pm (h : Does (pm r off mask v s) tr (s', ret)) :
    (accesses (r, off) tr = [.got allOnes] ∧ ret ≠ 0) ∨
      ∃ a b, a ≠ allOnes ∧
        accesses (r, off) tr = [.got a, .put ((a &&& ~~~mask) ||| v), .got b] ∧
          (ret = 0 ↔ b &&& mask = v) := by
  obtain ⟨a, u, rfl, hread⟩ := does_ask_bind.1 h
  split at hread
  · rename_i ha
    obtain ⟨rfl, -, rfl⟩ := Act.does_return.1 hread
    exact .inl ⟨by simp [accesses, access, ha], by decide⟩
  · obtain ⟨w, u', rfl, hwritten⟩ := does_ask_bind.1 hread
    obtain ⟨b, u'', rfl, hend⟩ := does_ask_bind.1 hwritten
    obtain ⟨rfl, -, rfl⟩ := Act.does_return.1 hend
    refine .inr ⟨a, b, ‹_›, by simp [accesses, access], ?_⟩
    split <;> simp_all [eio]

lemma accesses_list {before after : List Pci0Act} (hb : ∀ f ∈ before, Avoids g f)
    (ha : ∀ f ∈ after, Avoids g f)
    (h : Does (Act.list (before ++ f :: after) s) tr (s', ret)) :
    accesses g tr = [] ∨ ∃ t s₁ s₂ e, Does (f s₁) t (s₂, e) ∧ accesses g tr = accesses g t := by
  induction before generalizing s tr with
  | nil =>
    obtain ⟨hf, -⟩ | ⟨t, u, s₁, rfl, hf, hafter⟩ := Act.does_seq.1 h
    · exact .inr ⟨_, _, _, _, hf, rfl⟩
    · exact .inr ⟨_, _, _, _, hf, by simp [(Avoids.list ha).accesses hafter]⟩
  | cons b before ih =>
    have hfirst := hb b List.mem_cons_self
    obtain ⟨hf, -⟩ | ⟨t, u, s₁, rfl, hf, hrest⟩ := Act.does_seq.1 h
    · exact .inl (hfirst.accesses hf)
    · simpa [hfirst.accesses hf] using ih (fun f hf => hb f (List.mem_cons_of_mem b hf)) hrest

/-! ### A gate -/

/-- Everything that setup can do to the register of a gate. -/
inductive GateRun : List Access → Prop
  | untouched : GateRun []
  | absent : GateRun [.got allOnes]
  /-- The register does not show the opened gate, and setup gives up. -/
  | unverified {a b : BitVec 32} (ha : a ≠ allOnes) (hb : b &&& 1 ≠ 1) :
      GateRun [.got a, .put ((a &&& ~~~1) ||| 1), .got b]
  /-- The register is gone when the gate is to be closed. -/
  | lost {a b : BitVec 32} (ha : a ≠ allOnes) :
      GateRun [.got a, .put ((a &&& ~~~1) ||| 1), .got b, .got allOnes]
  | shut {a b c d : BitVec 32} (hb : b &&& 1 = 1) (hc : c ≠ allOnes) :
      GateRun [.got a, .put ((a &&& ~~~1) ||| 1), .got b, .got c, .put ((c &&& ~~~1) ||| 0), .got d]

lemma opened_and_one (a : BitVec 32) : ((a &&& ~~~1) ||| 1) &&& 1 = 1 := by
  rw [BitVec.and_or_distrib_right, BitVec.and_assoc]
  simp

lemma shut_and_one (a : BitVec 32) : ((a &&& ~~~1) ||| 0) &&& 1 = 0 := by
  rw [BitVec.and_or_distrib_right, BitVec.and_assoc]
  simp

variable {l : List Access}

lemma closed_of_last (h : (puts l).getLast? = some v) (hv : v &&& 1 = 0) :
    Closed l :=
  fun _ => ⟨v, h, hv⟩

lemma not_closed_of_last (h : (puts l).getLast? = some v) (hv : v &&& 1 = 1) :
    ¬ Closed l := by
  intro hl
  obtain ⟨w, hw, hw0⟩ := hl ⟨v, List.mem_of_getLast? h, hv⟩
  obtain rfl : v = w := Option.some.inj (h.symm.trans hw)
  exact absurd (hv.symm.trans hw0) (by decide)

lemma GateRun.closed_iff (h : GateRun l) :
    Closed l ↔ Cooperative (gots l) := by
  cases h with
  | untouched => exact iff_of_true (fun ⟨_, hv, _⟩ => absurd hv List.not_mem_nil) trivial
  | absent => exact iff_of_true (fun ⟨_, hv, _⟩ => absurd hv List.not_mem_nil) rfl
  | unverified ha hb => exact iff_of_false (not_closed_of_last rfl (opened_and_one _)) ha
  | lost ha =>
    refine iff_of_false (not_closed_of_last rfl (opened_and_one _)) ?_
    rintro (h | ⟨-, h⟩)
    · exact ha h
    · exact h rfl
  | shut hb hc => exact iff_of_true (closed_of_last rfl (shut_and_one _)) (.inr ⟨hb, hc⟩)

lemma gateRun_pm {t : List (Call × Reply)} {s₁ : Unit} {e : ℤ}
    (ho : Does (pm r off 1 1 s) t (s₁, e)) (hc : e ≠ 0 ∧ l = [] ∨
      e = 0 ∧ ∃ u s₂ s₃ e', Does (pm r off 1 0 s₂) u (s₃, e') ∧ l = accesses (r, off) u) :
    GateRun (accesses (r, off) t ++ l) := by
  obtain ⟨ht, he⟩ | ⟨a, b, ha, ht, hb⟩ := does_pm ho
  · obtain ⟨-, rfl⟩ | ⟨rfl, -⟩ := hc
    · rw [ht]
      exact .absent
    · exact absurd rfl he
  · obtain ⟨he, rfl⟩ | ⟨he, u, s₂, s₃, e', hu, rfl⟩ := hc
    · rw [ht]
      exact .unverified ha fun h => he (hb.2 h)
    · obtain ⟨hu, -⟩ | ⟨c, d, hc, hu, -⟩ := does_pm hu
      · rw [ht, hu]
        exact .lost ha
      · rw [ht, hu]
        exact .shut (hb.1 he) hc

/-- The registers of the two gates, and the one that starts the link. -/
def dbiGate : Register := (.root, 0x8bc)
def barGate : Register := (.root, 0xfe4)
def linkStart : Register := (.parf, 0x494)

lemma gateRun_setupProtected (h : Does (setupProtected s) tr (s', ret)) :
    GateRun (accesses dbiGate tr) := by
  obtain ⟨t, ⟨s₁, e⟩, u, rfl, ho, hopened⟩ := does_bind.1 h
  rw [accesses_append]
  refine gateRun_pm ho ?_
  dsimp only at hopened
  split at hopened
  · obtain ⟨rfl, -⟩ := Act.does_return.1 hopened
    exact .inl ⟨‹_›, rfl⟩
  · obtain ⟨t', ⟨s₂, e₂⟩, u', rfl, hfields, hchecked⟩ := does_bind.1 hopened
    obtain ⟨t'', ⟨s₃, e₃⟩, u'', rfl, hclose, hend⟩ := does_bind.1 hchecked
    have hfields : accesses dbiGate t' = [] :=
      ((avoids_pm (by decide)).seq (avoids_pm (by decide))).accesses hfields
    -- both ends are returns
    have hu : u'' = [] := by
      dsimp only at hend
      split at hend <;> exact (Act.does_return.1 hend).1
    refine .inr ⟨not_not.1 ‹_›, t'', _, _, _, hclose, ?_⟩
    simp only [accesses_append, hfields, hu, List.nil_append]
    exact List.append_nil _

lemma does_pr (h : Does (pr r off s) tr (s', ret)) : ret = 0 := by
  obtain ⟨v, u, rfl, hend⟩ := does_ask_bind.1 h
  exact (Act.does_return.1 hend).2.2

lemma does_pw (h : Does (pw r off v s) tr (s', ret)) : ret = 0 := by
  obtain ⟨w, u, rfl, hend⟩ := does_ask_bind.1 h
  exact (Act.does_return.1 hend).2.2

lemma does_list_total {l : List Pci0Act} (hf : Avoids g f)
    (ht : ∀ s t s' e, Does (f s) t (s', e) → e = 0)
    (h : Does (Act.list (f :: l) s) tr (s', ret)) :
    ∃ u s₁, Does (Act.list l s₁) u (s', ret) ∧ accesses g tr = accesses g u := by
  obtain ⟨hfail, he⟩ | ⟨t, u, s₁, rfl, hdone, hl⟩ := Act.does_seq.1 h
  · exact absurd (ht _ _ _ _ hfail) he
  · exact ⟨u, s₁, hl, by simp [hf.accesses hdone]⟩

lemma gateRun_setupBars (h : Does (setupBars s) tr (s', ret)) : GateRun (accesses barGate tr) := by
  obtain ⟨ho, he⟩ | ⟨t, u, s₁, rfl, ho, hopened⟩ := Act.does_seq.1 h
  · rw [← List.append_nil (accesses _ _)]
    exact gateRun_pm ho (.inl ⟨he, rfl⟩)
  · rw [accesses_append]
    -- nothing fails between the opening and the closing
    obtain ⟨u, _, hlow, hu⟩ := does_list_total (g := barGate) (avoids_pw (by decide))
      (fun _ _ _ _ => does_pw) hopened
    obtain ⟨u', _, hhigh, hu'⟩ := does_list_total (g := barGate) (avoids_pw (by decide))
      (fun _ _ _ _ => does_pw) hlow
    obtain ⟨u'', _, hclose, hu''⟩ := does_list_total (g := barGate) (avoids_pr (by decide))
      (fun _ _ _ _ => does_pr) hhigh
    refine gateRun_pm ho (.inr ⟨rfl, ?_⟩)
    have hl := hu.trans (hu'.trans hu'')
    obtain ⟨hlast, -⟩ | ⟨w, w', _, rfl, hlast, hnil⟩ := Act.does_seq.1 hclose
    · exact ⟨_, _, _, _, hlast, hl⟩
    · obtain ⟨rfl, -⟩ := Act.does_list_nil.1 hnil
      exact ⟨w, _, _, _, hlast, by rwa [List.append_nil] at hl⟩

/-! ### Setup and training -/

lemma avoids_pmTable {l : List (BitVec 32 × BitVec 32 × BitVec 32)} (h : ∀ x ∈ l, (r, x.1) ≠ g) :
    Avoids g (Act.list (l.map fun x => pm r x.1 x.2.1 x.2.2)) :=
  Avoids.list (List.forall_mem_map.2 fun x hx => avoids_pm (h x hx))

lemma avoids_setupWindows (h : ∀ x ∈ dbi, x.1 ≠ off) : Avoids (.root, off) setupWindows := by
  refine Avoids.list ?_
  simp only [List.forall_mem_cons, List.not_mem_nil, false_imp_iff, implies_true, and_true]
  refine ⟨avoids_pm (by simp), avoids_pm (by simp), Avoids.list ?_, avoids_pr (by simp), ?_⟩
  · exact List.forall_mem_map.2 fun x _ => avoids_pv (by simp)
  · exact avoids_pmTable fun x hx heq => h x (List.mem_of_mem_take hx) (Prod.mk.inj heq).2

lemma avoids_dbi (h : ∀ x ∈ dbi, x.1 ≠ off) :
    Avoids (.root, off) (Act.list ((dbi.drop 2).map fun x => pm .root x.1 x.2.1 x.2.2)) :=
  avoids_pmTable fun x hx heq => h x (List.mem_of_mem_drop hx) (Prod.mk.inj heq).2

lemma avoids_setupProtected : Avoids barGate setupProtected := by
  refine fun s => All.bind (avoids_pm (by decide) s) fun x _ => ?_
  dsimp only
  split
  · trivial
  · refine All.bind ((avoids_pm (by decide)).seq (avoids_pm (by decide)) _) fun y _ => ?_
    refine All.bind (avoids_pm (by decide) _) fun z _ => ?_
    split <;> trivial

lemma avoids_setupBars : Avoids dbiGate setupBars := by
  refine Avoids.list ?_
  simp only [List.forall_mem_cons, List.not_mem_nil, false_imp_iff, implies_true, and_true]
  exact ⟨avoids_pm (by decide), avoids_pw (by decide), avoids_pw (by decide),
    avoids_pr (by decide), avoids_pm (by decide)⟩

theorem setup_dbiGate (h : Does (setup s) tr (s', ret)) : GateRun (accesses dbiGate tr) := by
  have hdbi : ∀ x ∈ dbi, x.1 ≠ 0x8bc := by simp [dbi]
  obtain hnone | ⟨t, s₁, s₂, e, hgate, heq⟩ := accesses_list (g := dbiGate) (f := setupProtected)
    (List.forall_mem_singleton.2 (avoids_setupWindows hdbi))
    (List.forall_mem_cons.2 ⟨avoids_dbi hdbi, List.forall_mem_cons.2
      ⟨avoids_setupBars, List.forall_mem_singleton.2 (avoids_pm (by decide))⟩⟩) h
  · rw [hnone]
    exact .untouched
  · rw [heq]
    exact gateRun_setupProtected hgate

theorem setup_barGate (h : Does (setup s) tr (s', ret)) : GateRun (accesses barGate tr) := by
  have hdbi : ∀ x ∈ dbi, x.1 ≠ 0xfe4 := by simp [dbi]
  obtain hnone | ⟨t, s₁, s₂, e, hgate, heq⟩ := accesses_list (g := barGate) (f := setupBars)
    (List.forall_mem_cons.2 ⟨avoids_setupWindows hdbi, List.forall_mem_cons.2
      ⟨avoids_setupProtected, List.forall_mem_singleton.2 (avoids_dbi hdbi)⟩⟩)
    (List.forall_mem_singleton.2 (avoids_pm (by decide))) h
  · rw [hnone]
    exact .untouched
  · rw [heq]
    exact gateRun_setupBars hgate

lemma avoids_resetRequest {bit : BitVec 32} : Avoids linkStart (resetRequest bit) := by
  have hne : (Region.router, (0xe008 : BitVec 32)) ≠ linkStart := by decide
  refine fun s => all_ask_bind.2 ⟨hne, fun old => ?_⟩
  split
  · trivial
  · exact ⟨hne, fun _ => avoids_pp hne s⟩

lemma trainLink_linkStart (h : Does (trainLink s) tr (s', ret)) :
    accesses linkStart tr = [.put 0, .put 2, .put 0, .put 5, .put 0] := by
  obtain ⟨_, u₁, rfl, h₁⟩ := does_ask_bind.1 h
  obtain ⟨_, u₂, rfl, h₂⟩ := does_ask_bind.1 h₁
  obtain ⟨_, u₃, rfl, h₃⟩ := does_ask_bind.1 h₂
  obtain ⟨_, u₄, rfl, h₄⟩ := does_ask_bind.1 h₃
  obtain ⟨t, ⟨s₁, e⟩, u, rfl, hwait, hwaited⟩ := does_bind.1 h₄
  obtain ⟨_, w, rfl, hend⟩ := does_ask_bind.1 hwaited
  have hwait : accesses linkStart t = [] :=
    ((avoids_pm (by decide)).seq (avoids_pp (by decide))).accesses hwait
  have hw : accesses linkStart w = [] := by
    split at hend
    · rw [(Act.does_return.1 hend).1]
      rfl
    · exact (avoids_pp (by decide)).accesses hend
  show _ :: _ :: _ :: _ :: accesses linkStart (t ++ _ :: w) = _
  rw [accesses_append, hwait]
  show _ :: _ :: _ :: _ :: _ :: accesses linkStart w = _
  rw [hw]

theorem train_linkStart (h : Does (train s) tr (s', ret)) :
    ∀ v ∈ (puts (accesses linkStart tr)).getLast?, v = 0 := by
  obtain hnone | ⟨t, s₁, s₂, e, hlink, heq⟩ := accesses_list (g := linkStart) (f := trainLink)
    (List.forall_mem_cons.2 ⟨avoids_resetRequest, List.forall_mem_cons.2
      ⟨avoids_pause, List.forall_mem_cons.2
        ⟨avoids_resetRequest, List.forall_mem_singleton.2 avoids_pause⟩⟩⟩)
    (fun _ h => absurd h List.not_mem_nil) h
  · rw [hnone]
    exact fun _ h => absurd h (by simp [puts])
  · rw [heq, trainLink_linkStart hlink]
    exact fun v hv => (Option.some.inj hv).symm

/-- Setup leaves neither gate open and training ends with 0, whatever the device answers, exactly
when each gate's register shows the opened gate and is still there when the gate is to be closed. -/
theorem gatesClosed_iff (past past' : List (Call × Reply))
    (answer answer' : List (Call × Reply) → Call → Reply) :
    let tr := ((setup ()).run answer past).1
    let tr' := ((train ()).run answer' past').1
    (Closed (accesses dbiGate tr) ∧ Closed (accesses barGate tr) ∧
        ∀ v ∈ (puts (accesses linkStart tr')).getLast?, v = 0) ↔
      Cooperative (gots (accesses dbiGate tr)) ∧ Cooperative (gots (accesses barGate tr)) := by
  intro tr tr'
  have hdbi := (setup_dbiGate (run_does answer past (setup ()))).closed_iff
  have hbar := (setup_barGate (run_does answer past (setup ()))).closed_iff
  have hlink := train_linkStart (run_does answer' past' (train ()))
  constructor
  · rintro ⟨h, h', -⟩
    exact ⟨hdbi.1 h, hbar.1 h'⟩
  · rintro ⟨h, h'⟩
    exact ⟨hdbi.2 h, hbar.2 h', hlink⟩

/-- A register file, where one register reads as 0 always. -/
def stuckAtZero (g : Register) (past : List (Call × Reply)) : Call → Reply
  | .read r off => if (r, off) = g then 0 else ((puts (accesses (r, off) past)).head?).getD 0
  | _ => 0

/-- A device whose write gate never shows that it is open: setup returns the error at once and the
last write to the register is the one that set the bit. -/
theorem stuck_gate_left_open :
    ¬ Closed (accesses dbiGate ((setup ()).run (stuckAtZero dbiGate) []).1) ∧
      ((setup ()).run (stuckAtZero dbiGate) []).2.2 = -eio := by
  have hputs : puts (accesses dbiGate ((setup ()).run (stuckAtZero dbiGate) []).1) = [1] := by
    decide +kernel
  exact ⟨not_closed_of_last (by rw [hputs]; rfl) rfl, by decide +kernel⟩

end YogaUsb4.Pci0Init
