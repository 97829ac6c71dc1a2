import YogaUsb4.HostState
import Mathlib.Data.List.Perm.Subperm
import Mathlib.Data.List.Nodup
import Mathlib.Logic.Function.Iterate

/-!
The root port's identity: its header, and the walk over its capability list. The walk keeps a
bitmap of the dwords it has visited and stops after 48 steps; there are 48 dwords that a
capability can start at, so the bound is never what ends it.
-/

namespace YogaUsb4.RootIdentity

open HostState

/-! ### The configuration image -/

/-- The root port's 4 KiB of configuration space. -/
abbrev Image := Fin 4096 → BitVec 8

/-- `readl`, little endian. -/
def Image.readl (img : Image) (offset : ℕ) : BitVec 32 :=
  img (Fin.ofNat 4096 (offset + 3)) ++ img (Fin.ofNat 4096 (offset + 2)) ++
    img (Fin.ofNat 4096 (offset + 1)) ++ img (Fin.ofNat 4096 offset)

/-- The fields of `struct x1_pcie_state` and of the context that `x1_pcie_root_identity` writes. -/
structure RootState where
  rootId : BitVec 32 := 0
  commandStatus : BitVec 32 := 0
  classRevision : BitVec 32 := 0
  header : BitVec 32 := 0
  pcieCap : ℕ := 0
  rootMsi : ℕ := 0
  rootMsix : ℕ := 0
  rootPm : ℕ := 0

/-- `x1_pcie_snapshot`. -/
def snapshot (img : Image) (s : RootState) : RootState :=
  { s with
    rootId := img.readl 0x00
    commandStatus := img.readl 0x04
    classRevision := img.readl 0x08
    header := img.readl 0x0c }

def capId (cap : BitVec 32) : ℕ := (cap &&& 0xff).toNat

def capNext (cap : BitVec 32) : ℕ := (cap >>> 8 &&& 0xff).toNat

def capFlags (cap : BitVec 32) : BitVec 32 := cap >>> 16

/-- `PCI_CAP_ID_PM`, `PCI_CAP_ID_MSI`, `PCI_CAP_ID_EXP` and `PCI_CAP_ID_MSIX`. -/
def idPm : ℕ := 0x01
def idMsi : ℕ := 0x05
def idExp : ℕ := 0x10
def idMsix : ℕ := 0x11

def msiEnabled (cap : BitVec 32) : Bool :=
  (capId cap == idMsi && capFlags cap &&& 0x0001 != 0) ||
    (capId cap == idMsix && capFlags cap &&& 0x8000 != 0)

/-- The flags of a PCI Express capability that is no root port of version 1 or 2. -/
def notRootPort (flags : BitVec 32) : Bool :=
  flags &&& 0x00f0 != 0x40 || flags &&& 0x000f == 0 || 2 < flags &&& 0x000f

/-- Which capabilities the walk has met. -/
def RootState.meet (s : RootState) (ptr : ℕ) (cap : BitVec 32) : RootState :=
  { s with
    rootMsi := if capId cap = idMsi then ptr else s.rootMsi
    rootMsix := if capId cap = idMsix then ptr else s.rootMsix
    rootPm := if capId cap = idPm then ptr else s.rootPm }

/-- The loop of `x1_pcie_root_identity` with `n` steps left: its `ptr` and `pcie` at the end. -/
def walk (img : Image) : ℕ → ℕ → BitVec 64 → ℕ → RootState → RootState × Except Errno (ℕ × ℕ)
  | 0, ptr, _, pcie, s => (s, .ok (ptr, pcie))
  | n + 1, ptr, seen, pcie, s =>
    if ptr = 0 then (s, .ok (ptr, pcie))
    else if ptr < 0x40 || 0xfc < ptr || ptr &&& 3 ≠ 0 || seen.getLsbD (ptr / 4 - 16) then
      (s, .error .einval)
    else
      let cap := img.readl ptr
      if capId cap = 0 || capId cap = 0xff then (s, .error .enodev)
      else
        let s := s.meet ptr cap
        if msiEnabled cap then (s, .error .ebusy)
        else if capId cap = idExp then
          if pcie ≠ 0 || 0xc4 < ptr || notRootPort (capFlags cap) then (s, .error .einval)
          else walk img n (capNext cap) (seen ||| 1#64 <<< (ptr / 4 - 16)) ptr s
        else walk img n (capNext cap) (seen ||| 1#64 <<< (ptr / 4 - 16)) pcie s

/-- `x1_pcie_root_identity`; `none` is success. -/
def rootIdentity (img : Image) (s : RootState) : RootState × Option Errno :=
  let s := snapshot img s
  if s.rootId ≠ 0x011117cb || (s.header >>> 16 &&& 0xff) ≠ 1 ||
      s.commandStatus &&& 0x10#32 <<< 16 = 0 || s.commandStatus &&& 7 ≠ 0 then
    (s, some .enodev)
  else
    match walk img 48 (img.readl 0x34 &&& 0xff).toNat 0 0 s with
    | (s, .error e) => (s, some e)
    | (s, .ok (ptr, pcie)) =>
      if ptr ≠ 0 || pcie = 0 then (s, some .enodev) else ({ s with pcieCap := pcie }, none)

/-! ### Well-formed capability lists -/

/-- The header of the root port `17cb:0111`: of type 1, with a capability list and with I/O, memory
and bus mastering disabled. -/
structure IsRootHeader (img : Image) : Prop where
  id : img.readl 0x00 = 0x011117cb
  bridge : img.readl 0x0c >>> 16 &&& 0xff = 1
  capList : img.readl 0x04 &&& 0x10#32 <<< 16 ≠ 0
  disabled : img.readl 0x04 &&& 7 = 0

/-- The list of the offsets that the pointers visit from `ptr` on; it ends with pointer 0. -/
def Chain (img : Image) : ℕ → List ℕ → Prop
  | ptr, [] => ptr = 0
  | ptr, p :: l => ptr = p ∧ ptr ≠ 0 ∧ Chain img (capNext (img.readl p)) l

/-- The pointer after `p`; pointer 0 has none. -/
def nextPtr (img : Image) (p : ℕ) : ℕ := if p = 0 then 0 else capNext (img.readl p)

/-- The pointers come back to a place they have visited. -/
def Cyclic (img : Image) (ptr : ℕ) : Prop :=
  ∃ k m, 0 < m ∧ (nextPtr img)^[k] ptr ≠ 0 ∧
    (nextPtr img)^[m] ((nextPtr img)^[k] ptr) = (nextPtr img)^[k] ptr

/-- A capability may start at a dword after the header. -/
def Placed (p : ℕ) : Prop := 4 ∣ p ∧ 0x40 ≤ p ∧ p ≤ 0xfc

/-- A capability that the driver accepts where it is. -/
structure Acceptable (img : Image) (p : ℕ) : Prop where
  placed : Placed p
  present : capId (img.readl p) ≠ 0x00 ∧ capId (img.readl p) ≠ 0xff
  msi : msiEnabled (img.readl p) = false

def isExpress (img : Image) (p : ℕ) : Bool := capId (img.readl p) == idExp

/-- The PCI Express capability of a root port, version 1 or 2, with room for its registers. -/
structure IsRootPort (img : Image) (p : ℕ) : Prop where
  room : p ≤ 0xc4
  type : capFlags (img.readl p) &&& 0x00f0 = 0x40
  version : capFlags (img.readl p) &&& 0x000f = 1 ∨ capFlags (img.readl p) &&& 0x000f = 2

/-- The capabilities at these offsets are those of a root port. -/
structure IsRootPortList (img : Image) (l : List ℕ) : Prop where
  distinct : l.Nodup
  acceptable : ∀ p ∈ l, Acceptable img p
  express : ∃ p, l.filter (isExpress img) = [p] ∧ IsRootPort img p

/-- What the list needs from here on, when the walk has met the express capability `pcie`. -/
def Express (img : Image) (pcie : ℕ) (l : List ℕ) : Prop :=
  if pcie = 0 then ∃ p, l.filter (isExpress img) = [p] ∧ IsRootPort img p
  else l.filter (isExpress img) = []

variable {l : List ℕ}

lemma length_le_of_placed (hl : l.Nodup) (hp : ∀ p ∈ l, Placed p) : l.length ≤ 48 := by
  have hsub : l ⊆ (List.range 48).map (fun k => 4 * (k + 16)) := by
    intro p hmem
    obtain ⟨⟨k, rfl⟩, h₁, h₂⟩ := hp p hmem
    refine List.mem_map.2 ⟨k - 16, List.mem_range.2 (by omega), by omega⟩
  have := (List.subperm_of_subset hl hsub).length_le
  simpa using this

lemma notRootPort_eq_false (flags : BitVec 32) : notRootPort flags = false ↔
    flags &&& 0x00f0 = 0x40 ∧ (flags &&& 0x000f = 1 ∨ flags &&& 0x000f = 2) := by
  have hv : ∀ v : BitVec 32, (v ≠ 0 ∧ ¬ 2 < v) ↔ v = 1 ∨ v = 2 := by
    intro v
    bv_omega
  rw [← hv]
  simp only [notRootPort, Bool.or_eq_false_iff, bne_eq_false_iff_eq, beq_eq_false_iff_ne,
    decide_eq_false_iff_not, and_assoc, ne_eq]

/-! ### The walk -/

/-- The bitmap holds the places that were visited. -/
def Seen (seen : BitVec 64) (visited : List ℕ) : Prop :=
  ∀ p, Placed p → (seen.getLsbD (p / 4 - 16) = true ↔ p ∈ visited)

variable {ptr : ℕ} {visited : List ℕ}

lemma Seen.visit {seen : BitVec 64} (h : Seen seen visited)
    (hp : Placed ptr) : Seen (seen ||| 1#64 <<< (ptr / 4 - 16)) (ptr :: visited) := by
  intro p hq
  obtain ⟨⟨j, rfl⟩, h₁, h₂⟩ := hp
  obtain ⟨⟨k, rfl⟩, h₃, h₄⟩ := id hq
  have hbit : (1#64 <<< (4 * j / 4 - 16)).getLsbD (4 * k / 4 - 16) = decide (k = j) := by
    simp only [BitVec.getLsbD_shiftLeft, BitVec.getLsbD_one]
    by_cases hkj : k = j
    · subst hkj
      simp
      omega
    · simp [hkj]
      omega
  rw [BitVec.getLsbD_or, hbit, Bool.or_eq_true, h _ hq, List.mem_cons]
  simp only [decide_eq_true_eq]
  constructor
  · rintro (h | rfl)
    · exact .inr h
    · exact .inl rfl
  · rintro (h | h)
    · exact .inr (by omega)
    · exact .inl h

lemma Seen.place {seen : BitVec 64} (h : Seen seen visited) (ptr : ℕ) :
    (ptr < 0x40 || 0xfc < ptr || ptr &&& 3 ≠ 0 || seen.getLsbD (ptr / 4 - 16)) = false ↔
      Placed ptr ∧ ptr ∉ visited := by
  have hand : ptr &&& 3 = ptr % 4 := Nat.and_two_pow_sub_one_eq_mod ptr 2
  constructor
  · intro ht
    simp only [hand, Bool.or_eq_false_iff, decide_eq_false_iff_not, not_not] at ht
    obtain ⟨⟨⟨h₁, h₂⟩, h₃⟩, h₄⟩ := ht
    have hp : Placed ptr := ⟨Nat.dvd_of_mod_eq_zero h₃, by omega, by omega⟩
    refine ⟨hp, fun hmem => ?_⟩
    rw [(h ptr hp).2 hmem] at h₄
    cases h₄
  · rintro ⟨hp, hnew⟩
    have hbit : seen.getLsbD (ptr / 4 - 16) = false := by
      by_contra hbit
      exact hnew ((h ptr hp).1 (by simpa using hbit))
    obtain ⟨h₁, h₂, h₃⟩ := hp
    have h₄ := Nat.mod_eq_zero_of_dvd h₁
    simp only [hand, hbit, h₄, Bool.or_eq_false_iff, decide_eq_false_iff_not, not_not, and_true]
    omega

/-- The loop ends at pointer 0 and has met an express capability. -/
def Accepts (r : RootState × Except Errno (ℕ × ℕ)) : Prop :=
  ∃ pcie, r.2 = .ok (0, pcie) ∧ pcie ≠ 0

lemma not_accepts_error (s : RootState) (e : Errno) : ¬ Accepts (s, .error e) := by
  rintro ⟨_, h, -⟩
  cases h

structure Rest (img : Image) (visited : List ℕ) (pcie : ℕ) (l : List ℕ) : Prop where
  distinct : l.Nodup
  fresh : ∀ p ∈ l, p ∉ visited
  acceptable : ∀ p ∈ l, Acceptable img p
  express : Express img pcie l

lemma Rest.nil_iff (img : Image) (visited : List ℕ) (pcie : ℕ) :
    Rest img visited pcie [] ↔ pcie ≠ 0 := by
  constructor
  · rintro ⟨-, -, -, h⟩ rfl
    simp [Express] at h
  · intro h
    exact ⟨List.nodup_nil, by simp, by simp, by simp [Express, h]⟩

/-- One capability more, which the walk then takes for its express capability or not. -/
lemma Rest.cons_iff (img : Image) (visited : List ℕ) (pcie ptr : ℕ) (l : List ℕ) (h0 : ptr ≠ 0) :
    Rest img visited pcie (ptr :: l) ↔ ptr ∉ visited ∧ Acceptable img ptr ∧
      if isExpress img ptr then pcie = 0 ∧ IsRootPort img ptr ∧ Rest img (ptr :: visited) ptr l
      else Rest img (ptr :: visited) pcie l := by
  have hfresh : (ptr ∉ l ∧ ∀ p ∈ l, p ∉ visited) ↔ ∀ p ∈ l, p ∉ ptr :: visited := by
    constructor
    · rintro ⟨h₁, h₂⟩ p hp hmem
      rcases List.mem_cons.1 hmem with rfl | hmem
      · exact h₁ hp
      · exact h₂ p hp hmem
    · intro h
      exact ⟨fun hp => h ptr hp List.mem_cons_self,
        fun p hp hmem => h p hp (List.mem_cons_of_mem _ hmem)⟩
  constructor
  · rintro ⟨hd, hf, ha, he⟩
    obtain ⟨hnew, hd⟩ := List.nodup_cons.1 hd
    have hf' := hfresh.1 ⟨hnew, fun p hp => hf p (List.mem_cons_of_mem _ hp)⟩
    have ha' : ∀ p ∈ l, Acceptable img p := fun p hp => ha p (List.mem_cons_of_mem _ hp)
    refine ⟨hf ptr List.mem_cons_self, ha ptr List.mem_cons_self, ?_⟩
    split
    · rename_i hx
      simp only [Express, List.filter_cons_of_pos hx] at he
      split at he
      · rename_i hp
        obtain ⟨p, hl, hr⟩ := he
        obtain ⟨rfl, hnone⟩ := List.cons_eq_cons.1 hl
        refine ⟨hp, hr, hd, hf', ha', ?_⟩
        rw [Express, if_neg h0]
        exact hnone
      · cases he
    · rename_i hx
      exact ⟨hd, hf', ha', by simpa only [Express, List.filter_cons_of_neg hx] using he⟩
  · rintro ⟨hnew, hacc, hrest⟩
    split at hrest
    · rename_i hx
      obtain ⟨rfl, hr, hd, hf, ha, he⟩ := hrest
      obtain ⟨hnl, hfv⟩ := hfresh.2 hf
      simp only [Express, h0, if_false] at he
      refine ⟨List.nodup_cons.2 ⟨hnl, hd⟩, List.forall_mem_cons.2 ⟨hnew, hfv⟩,
        List.forall_mem_cons.2 ⟨hacc, ha⟩, ?_⟩
      simp only [Express, if_true, List.filter_cons_of_pos hx, he]
      exact ⟨ptr, rfl, hr⟩
    · rename_i hx
      obtain ⟨hd, hf, ha, he⟩ := hrest
      obtain ⟨hnl, hfv⟩ := hfresh.2 hf
      refine ⟨List.nodup_cons.2 ⟨hnl, hd⟩, List.forall_mem_cons.2 ⟨hnew, hfv⟩,
        List.forall_mem_cons.2 ⟨hacc, ha⟩, ?_⟩
      simpa only [Express, List.filter_cons_of_neg hx] using he

variable {img : Image}

lemma chain_zero : Chain img 0 l ↔ l = [] := by
  cases l with
  | nil => simp [Chain]
  | cons p l => simp [Chain]

lemma chain_of_ne_zero (h : ptr ≠ 0) :
    Chain img ptr l ↔ ∃ l', l = ptr :: l' ∧ Chain img (capNext (img.readl ptr)) l' := by
  cases l with
  | nil => simp [Chain, h]
  | cons p l =>
    constructor
    · rintro ⟨rfl, -, hc⟩
      exact ⟨l, rfl, hc⟩
    · rintro ⟨l', hl, hc⟩
      obtain ⟨rfl, rfl⟩ := List.cons_eq_cons.1 hl
      exact ⟨rfl, h, hc⟩

lemma walk_accepts_iff (img : Image) (n ptr : ℕ) (seen : BitVec 64) (pcie : ℕ) (s : RootState)
    (hseen : Seen seen visited) :
    Accepts (walk img n ptr seen pcie s) ↔
      ∃ l, Chain img ptr l ∧ l.length ≤ n ∧ Rest img visited pcie l := by
  induction n generalizing ptr seen pcie s visited with
  | zero =>
    simp only [walk, Accepts, Except.ok.injEq, Prod.mk.injEq]
    constructor
    · rintro ⟨_, ⟨rfl, rfl⟩, h⟩
      exact ⟨[], rfl, Nat.le_refl _, (Rest.nil_iff img visited pcie).2 h⟩
    · rintro ⟨l, hc, hl, hr⟩
      obtain rfl := List.length_eq_zero_iff.1 (Nat.le_zero.1 hl)
      exact ⟨pcie, ⟨hc, rfl⟩, (Rest.nil_iff img visited pcie).1 hr⟩
  | succ n ih =>
    by_cases h0 : ptr = 0
    · subst h0
      simp only [walk, if_true, Accepts, Except.ok.injEq, Prod.mk.injEq, chain_zero]
      constructor
      · rintro ⟨_, ⟨-, rfl⟩, h⟩
        exact ⟨[], rfl, Nat.zero_le _, (Rest.nil_iff img visited pcie).2 h⟩
      · rintro ⟨l, rfl, -, hr⟩
        exact ⟨pcie, ⟨trivial, rfl⟩, (Rest.nil_iff img visited pcie).1 hr⟩
    · -- The list is the capability at `ptr` and the rest, which the walk goes on with.
      have hsplit : (∃ l, Chain img ptr l ∧ l.length ≤ n + 1 ∧ Rest img visited pcie l) ↔
          ∃ l, Chain img (capNext (img.readl ptr)) l ∧ l.length ≤ n ∧
            Rest img visited pcie (ptr :: l) := by
        simp only [chain_of_ne_zero h0]
        constructor
        · rintro ⟨_, ⟨l, rfl, hc⟩, hl, hr⟩
          exact ⟨l, hc, by simpa using hl, hr⟩
        · rintro ⟨l, hc, hl, hr⟩
          exact ⟨ptr :: l, ⟨l, rfl, hc⟩, by simpa using hl, hr⟩
      rw [hsplit]
      simp only [Rest.cons_iff img visited pcie ptr _ h0, walk, if_neg h0]
      by_cases hp : Placed ptr ∧ ptr ∉ visited
      swap
      · have ht := eq_true_of_ne_false (mt (hseen.place ptr).1 hp)
        rw [if_pos ht]
        refine iff_of_false (not_accepts_error s _) ?_
        rintro ⟨l, -, -, hnew, hacc, -⟩
        exact hp ⟨hacc.placed, hnew⟩
      rw [if_neg (by rw [(hseen.place ptr).2 hp]; exact Bool.false_ne_true)]
      by_cases hid : capId (img.readl ptr) = 0 || capId (img.readl ptr) = 0xff
      · rw [if_pos hid]
        refine iff_of_false (not_accepts_error s _) ?_
        rintro ⟨l, -, -, -, hacc, -⟩
        rcases (by simpa using hid : _ ∨ _) with hid | hid
        · exact hacc.present.1 hid
        · exact hacc.present.2 hid
      rw [if_neg hid]
      have hpresent : capId (img.readl ptr) ≠ 0 ∧ capId (img.readl ptr) ≠ 0xff := by simpa using hid
      by_cases hmsi : msiEnabled (img.readl ptr) = true
      · rw [if_pos hmsi]
        refine iff_of_false (not_accepts_error _ _) ?_
        rintro ⟨l, -, -, -, hacc, -⟩
        rw [hacc.msi] at hmsi
        cases hmsi
      rw [if_neg hmsi]
      have hacc : Acceptable img ptr := ⟨hp.1, hpresent, by simpa using hmsi⟩
      have hnext := hseen.visit hp.1
      by_cases hx : capId (img.readl ptr) = idExp
      · have hx' : isExpress img ptr = true := by simp [isExpress, hx]
        simp only [hx', if_true, if_pos hx, hp.2, hacc, not_false_eq_true, true_and]
        by_cases hr : pcie = 0 ∧ IsRootPort img ptr
        · have hok : notRootPort (capFlags (img.readl ptr)) = false :=
            (notRootPort_eq_false _).2 ⟨hr.2.type, hr.2.version⟩
          have hroom := hr.2.room
          rw [if_neg (by simp [hr.1, hok]; omega), ih _ _ _ _ hnext]
          simp only [hr.1, hr.2, true_and]
        · rw [if_pos]
          · refine iff_of_false (not_accepts_error _ _) ?_
            rintro ⟨l, -, -, h₁, h₂, -⟩
            exact hr ⟨h₁, h₂⟩
          · by_contra hok
            simp only [Bool.or_eq_true, decide_eq_true_eq, not_or, not_not, Nat.not_lt,
              Bool.not_eq_true] at hok
            obtain ⟨⟨h₁, h₂⟩, h₃⟩ := hok
            obtain ⟨h₄, h₅⟩ := (notRootPort_eq_false _).1 h₃
            exact hr ⟨h₁, h₂, h₄, h₅⟩
      · have hx' : isExpress img ptr = false := by simp [isExpress, hx]
        simp only [hx', Bool.false_eq_true, if_false, if_neg hx, hp.2, hacc, not_false_eq_true,
          true_and]
        exact ih _ _ _ _ hnext

/-- A chain that ends stays at pointer 0 after as many steps as it has places. -/
lemma Chain.iterate_eq_zero (h : Chain img ptr l) (n : ℕ) :
    (nextPtr img)^[l.length + n] ptr = 0 := by
  induction l generalizing ptr with
  | nil =>
    obtain rfl : ptr = 0 := h
    have hfix : nextPtr img 0 = 0 := if_pos rfl
    exact Function.iterate_fixed hfix _
  | cons p l ih =>
    obtain ⟨rfl, h0, hl⟩ := h
    rw [List.length_cons, Nat.add_right_comm, Function.iterate_succ_apply, nextPtr, if_neg h0]
    exact ih hl

lemma Chain.not_cyclic (h : Chain img ptr l) :
    ¬ Cyclic img ptr := by
  rintro ⟨k, m, hm, hne, hback⟩
  -- `l.length` rounds of the cycle are at least `l.length` steps
  have hround : (nextPtr img)^[m * l.length] ((nextPtr img)^[k] ptr) = (nextPtr img)^[k] ptr := by
    rw [Function.iterate_mul]
    exact Function.iterate_fixed hback _
  have hlong : l.length ≤ m * l.length := Nat.le_mul_of_pos_left _ hm
  have hend := h.iterate_eq_zero (m * l.length - l.length + k)
  rw [← Nat.add_assoc, Nat.add_sub_of_le hlong, Function.iterate_add_apply, hround] at hend
  exact hne hend

/-- The root identity succeeds exactly on the header of the root port whose capability pointers
visit distinct places, end, and find the capabilities of a root port. -/
lemma rootIdentity_eq_none_iff (img : Image) (s : RootState) :
    (rootIdentity img s).2 = none ↔
      IsRootHeader img ∧
        ∃ l, Chain img (img.readl 0x34 &&& 0xff).toNat l ∧ IsRootPortList img l := by
  have hwalk := walk_accepts_iff img 48 (img.readl 0x34 &&& 0xff).toNat 0 0 (snapshot img s)
    (show Seen 0 [] by intro p _; simp)
  -- There are 48 places, so the bound on the steps is none.
  have hlist : (∃ l, Chain img (img.readl 0x34 &&& 0xff).toNat l ∧ l.length ≤ 48 ∧
      Rest img [] 0 l) ↔ ∃ l, Chain img (img.readl 0x34 &&& 0xff).toNat l ∧
        IsRootPortList img l := by
    refine exists_congr fun l => and_congr_right fun _ => ?_
    constructor
    · rintro ⟨-, hd, -, ha, he⟩
      exact ⟨hd, ha, by simpa only [Express, if_true] using he⟩
    · rintro ⟨hd, ha, he⟩
      exact ⟨length_le_of_placed hd fun p hp => (ha p hp).placed, hd, by simp, ha,
        by simpa only [Express, if_true] using he⟩
  rw [← hlist, ← hwalk]
  by_cases hh : IsRootHeader img
  · obtain ⟨hid, hbridge, hcap, hoff⟩ := id hh
    have hpass : rootIdentity img s =
        match walk img 48 (img.readl 0x34 &&& 0xff).toNat 0 0 (snapshot img s) with
        | (s, .error e) => (s, some e)
        | (s, .ok (ptr, pcie)) =>
          if ptr ≠ 0 || pcie = 0 then (s, some .enodev)
          else ({ s with pcieCap := pcie }, none) := by
      rw [rootIdentity, if_neg]
      simp only [Bool.or_eq_true, decide_eq_true_eq, not_or, not_not]
      exact ⟨⟨⟨hid, hbridge⟩, hcap⟩, hoff⟩
    rw [hpass]
    simp only [hh, true_and]
    rcases walk img 48 (img.readl 0x34 &&& 0xff).toNat 0 0 (snapshot img s) with
      ⟨t, e | ⟨ptr, pcie⟩⟩
    · simp [Accepts]
    · by_cases hend : ptr = 0 ∧ pcie ≠ 0
      · obtain ⟨rfl, hp⟩ := hend
        simp [Accepts, hp]
      · have hbad : (ptr ≠ 0 || pcie = 0) = true := by
          by_contra hok
          simp only [Bool.or_eq_true, decide_eq_true_eq, not_or, not_not] at hok
          exact hend hok
        simp only [hbad, if_true, Accepts]
        refine iff_of_false nofun ?_
        rintro ⟨q, hq, hne⟩
        cases hq
        exact hend ⟨rfl, hne⟩
  · have hfail : rootIdentity img s = (snapshot img s, some .enodev) := by
      rw [rootIdentity, if_pos]
      by_contra hok
      simp only [Bool.or_eq_true, decide_eq_true_eq, not_or, not_not] at hok
      obtain ⟨⟨⟨h₁, h₂⟩, h₃⟩, h₄⟩ := hok
      exact hh ⟨h₁, h₂, h₃, h₄⟩
    rw [hfail]
    simp [hh]

/-- The root identity succeeds exactly on a well-formed root port, of any number of capabilities;
pointers that come back to a place are refused. -/
theorem rootIdentity_ok_iff (img : Image) (s : RootState) :
    ((rootIdentity img s).2 = none ↔
      IsRootHeader img ∧
        ∃ l, Chain img (img.readl 0x34 &&& 0xff).toNat l ∧ IsRootPortList img l) ∧
    ¬ (Cyclic img (img.readl 0x34 &&& 0xff).toNat ∧ (rootIdentity img s).2 = none) := by
  refine ⟨rootIdentity_eq_none_iff img s, fun ⟨hcyc, hok⟩ => ?_⟩
  obtain ⟨-, l, hchain, -⟩ := (rootIdentity_eq_none_iff img s).1 hok
  exact hchain.not_cyclic hcyc

/-! ### What is recorded -/

def HasCap (img : Image) (id p : ℕ) : Prop :=
  ∃ l, Chain img (img.readl 0x34 &&& 0xff).toNat l ∧ p ∈ l ∧ capId (img.readl p) = id

lemma Chain.unique {l l' : List ℕ} (h : Chain img ptr l) (h' : Chain img ptr l') : l = l' := by
  induction l generalizing ptr l' with
  | nil =>
    obtain rfl : ptr = 0 := h
    exact (chain_zero.1 h').symm
  | cons p l ih =>
    obtain ⟨rfl, h0, hc⟩ := h
    obtain ⟨m, rfl, hm⟩ := (chain_of_ne_zero h0).1 h'
    rw [ih hc hm]

lemma HasCap.ne_zero {id p : ℕ} (h : HasCap img id p) : p ≠ 0 := by
  obtain ⟨l, hc, hmem, -⟩ := h
  generalize (img.readl 0x34 &&& 0xff).toNat = ptr at hc
  induction l generalizing ptr with
  | nil => cases hmem
  | cons q l ih =>
    obtain ⟨rfl, h0, hc⟩ := hc
    rcases List.mem_cons.1 hmem with rfl | hmem
    · exact h0
    · exact ih hmem _ hc

lemma walk_records {n ptr pcie e : ℕ} {seen : BitVec 64} {s s' : RootState}
    (h : walk img n ptr seen pcie s = (s', .ok (0, e))) :
    ∃ l, Chain img ptr l ∧ s' = l.foldl (fun s p => s.meet p (img.readl p)) s ∧
      (e = pcie ∨ e ∈ l ∧ capId (img.readl e) = idExp) := by
  induction n generalizing ptr seen pcie s with
  | zero =>
    obtain ⟨rfl, rfl, rfl⟩ : s = s' ∧ ptr = 0 ∧ pcie = e := by simpa [walk] using h
    exact ⟨[], rfl, rfl, .inl rfl⟩
  | succ n ih =>
    by_cases h0 : ptr = 0
    · subst h0
      obtain ⟨rfl, rfl⟩ : s = s' ∧ pcie = e := by simpa [walk] using h
      exact ⟨[], rfl, rfl, .inl rfl⟩
    rw [walk, if_neg h0] at h
    -- the walk goes on behind this capability
    have hgo : ∀ q seen, walk img n (capNext (img.readl ptr)) seen q
        (s.meet ptr (img.readl ptr)) = (s', .ok (0, e)) →
        (q = ptr → capId (img.readl ptr) = idExp) → (q = pcie ∨ q = ptr) →
        ∃ l, Chain img ptr l ∧ s' = l.foldl (fun s p => s.meet p (img.readl p)) s ∧
          (e = pcie ∨ e ∈ l ∧ capId (img.readl e) = idExp) := by
      intro q seen hw hid hq
      obtain ⟨l, hc, hs, he⟩ := ih hw
      refine ⟨ptr :: l, ⟨rfl, h0, hc⟩, hs, ?_⟩
      rcases he with rfl | ⟨hmem, he⟩
      · rcases hq with rfl | rfl
        · exact .inl rfl
        · exact .inr ⟨List.mem_cons_self, hid rfl⟩
      · exact .inr ⟨List.mem_cons_of_mem _ hmem, he⟩
    split at h
    · cases h
    dsimp only at h
    split at h
    · cases h
    split at h
    · cases h
    split at h
    · rename_i hid
      split at h
      · cases h
      · exact hgo _ _ h (fun _ => hid) (.inr rfl)
    · by_cases hq : pcie = ptr
      · obtain ⟨l, hc, hs, he⟩ := ih h
        refine ⟨ptr :: l, ⟨rfl, h0, hc⟩, hs, ?_⟩
        exact he.imp_right fun ⟨hmem, he⟩ => ⟨List.mem_cons_of_mem _ hmem, he⟩
      · exact hgo _ _ h (fun h => absurd h hq) (.inl rfl)

lemma foldl_meet_eq {id : ℕ} {f : RootState → ℕ}
    (hf : ∀ s p cap, f (RootState.meet s p cap) = if capId cap = id then p else f s) {p : ℕ}
    {l : List ℕ} {s : RootState} (hone : ∀ q ∈ l, capId (img.readl q) = id → q = p)
    (hp : p ∈ l ∧ capId (img.readl p) = id ∨ f s = p) :
    f (l.foldl (fun s p => s.meet p (img.readl p)) s) = p := by
  induction l generalizing s with
  | nil => simpa using hp
  | cons q l ih =>
    refine ih (fun q' hq' => hone q' (List.mem_cons_of_mem _ hq')) ?_
    rw [hf]
    split
    · exact .inr (hone q List.mem_cons_self ‹_›)
    · rcases hp with ⟨hmem, hid⟩ | hp
      · rcases List.mem_cons.1 hmem with rfl | hmem
        · exact absurd hid ‹_›
        · exact .inl ⟨hmem, hid⟩
      · exact .inr hp

/-- Where the capabilities are that the gate of the configuration space asks for. -/
structure Records (img : Image) (r : RootState) : Prop where
  express : ∀ p, HasCap img idExp p → r.pcieCap = p
  msi : ∀ p, HasCap img idMsi p → r.rootMsi = p
  msix : ∀ p, HasCap img idMsix p → r.rootMsix = p
  pm : ∀ p, HasCap img idPm p → r.rootPm = p

lemma rootIdentity_records {s r : RootState} (h : rootIdentity img s = (r, none))
    (hone : ∀ id p q, HasCap img id p → HasCap img id q → p = q) : Records img r := by
  rw [rootIdentity] at h
  split at h
  · cases h
  split at h
  · cases h
  rename_i t ptr pcie hwalk
  split at h
  · cases h
  rename_i hend
  obtain ⟨rfl, hpcie⟩ : ptr = 0 ∧ pcie ≠ 0 := by simpa using hend
  obtain ⟨rfl, -⟩ := Prod.mk.inj h
  obtain ⟨l, hc, ht, he⟩ := walk_records hwalk
  have hcap : ∀ q ∈ l, HasCap img (capId (img.readl q)) q := fun q hq => ⟨l, hc, hq, rfl⟩
  have hmeet : ∀ id p (f : RootState → ℕ),
      (∀ s p cap, f (RootState.meet s p cap) = if capId cap = id then p else f s) →
      HasCap img id p → f t = p := by
    intro id p f hf hp
    have ⟨l', hc', hmem, hid⟩ := hp
    obtain rfl := hc'.unique hc
    rw [ht]
    exact foldl_meet_eq hf (fun q hq hid => hone _ _ _ (hid ▸ hcap q hq) hp) (.inl ⟨hmem, hid⟩)
  constructor
  · intro p hp
    rcases he with rfl | ⟨hmem, hid⟩
    · exact absurd rfl hpcie
    · exact hone _ _ _ (hid ▸ hcap pcie hmem) hp
  · exact fun p => hmeet _ p RootState.rootMsi fun _ _ _ => rfl
  · exact fun p => hmeet _ p RootState.rootMsix fun _ _ _ => rfl
  · exact fun p => hmeet _ p RootState.rootPm fun _ _ _ => rfl

end YogaUsb4.RootIdentity
