import YogaUsb4.Dialog
import Mathlib.Data.Set.BooleanAlgebra
import Mathlib.Data.Set.Disjoint
import Mathlib.Order.CompletePartialOrder

/-!
The target policy of the MSI receiver: the reserved message address must not lie in a window of
the host bridge, neither in CPU addresses nor in bus addresses. All of its arithmetic is on `u64`.
-/

namespace YogaUsb4.Imsi

open Dialog

/-! ### The program -/

/-- `resource_type`. -/
inductive ResType where
  | bus | mem | other
  deriving DecidableEq

/-- `struct resource`, of the addresses from `start` to `stop`. -/
structure Resource where
  type : ResType
  start : BitVec 64
  stop : BitVec 64

/-- `struct resource_entry`: a CPU address is a bus address plus `offset`. -/
structure Window where
  res : Option Resource
  offset : BitVec 64

/-- What the admission of a policy finds. -/
structure Platform where
  /-- `owner`, `pdev`, `bridge`, `parf` and `check_live` are given -/
  given : Bool := true
  /-- `of_machine_is_compatible` -/
  machine : Bool := true
  /-- the bridge's parent is the platform device -/
  parent : Bool := true
  /-- the bridge has a bus -/
  bus : Bool := false
  /-- the drivers of both devices are there and suppress bind attributes -/
  pdevDriver : Bool := true
  ownerDriver : Bool := true
  /-- the nodes of host and owner are found, are those of the devices and are compatible -/
  host : Bool := true
  ownerNode : Bool := true
  /-- start and size of the resource `parf` -/
  parf : Option (ℕ × ℕ) := some (0x1c28000, 0x8000)

/-- `check_live`, and `pm_runtime_active` of the two devices. -/
inductive PolicyCall where
  | checkLive | pdevActive | ownerActive

/-- The part of `struct x1_imsi_policy` that `x1_imsi_policy_target` writes. -/
structure Policy where
  targetAttempted : Bool := false
  targetReady : Bool := false
  target : BitVec 64 := 0
  memoryWindows : ℕ := 0
  targetError : ℤ := 0

def policyLive : Dialog PolicyCall ℤ ℤ := do
  let ret ← ask .checkLive
  if ret ≠ 0 then return (if ret < 0 then ret else -eio)
  if (← ask .pdevActive) = 0 then return -ehostdown
  if (← ask .ownerActive) = 0 then return -ehostdown
  return 0

/-- The tests of `x1_policy_admit` on what it finds. -/
def policyFound (f : Platform) : ℤ :=
  if !f.given then -einval
  else if !f.machine || !f.parent || f.bus || !f.pdevDriver || !f.ownerDriver then -enodev
  else if !f.host then -enodev
  else if !f.ownerNode then -enodev
  else if f.parf ≠ some (0x1c28000, 0x8000) then -enodev
  else 0

def policyAdmit (f : Platform) : Dialog PolicyCall ℤ ℤ := do
  if policyFound f ≠ 0 then return policyFound f
  policyLive

/-- The two tests of one memory window. -/
def overlaps (target : BitVec 64) (res : Resource) (offset : BitVec 64) : Bool :=
  let stop := target + 7
  let busStart := res.start - offset
  let busStop := res.stop - offset
  (target ≤ busStop && stop ≥ busStart) || (target ≤ res.stop && stop ≥ res.start)

/-- The loop of `x1_imsi_policy_target` over the windows, after `entries` of them. -/
def policyWindows (target : BitVec 64) : ℕ → List Window → Policy → Policy × ℤ
  | _, [], p => (p, 0)
  | entries, w :: l, p =>
    if entries + 1 > 16 then (p, -einval)
    else match w.res with
      | none => (p, -einval)
      | some res =>
        if res.type = .bus then policyWindows target (entries + 1) l p
        else if res.type ≠ .mem || res.stop < res.start || w.offset > res.start then (p, -einval)
        else
          let p := { p with memoryWindows := p.memoryWindows + 1 }
          if overlaps target res w.offset then (p, -erange)
          else policyWindows target (entries + 1) l p

/-- The tests of `x1_imsi_policy_target` on the target. -/
def policyJudge (windows : List Window) (target : BitVec 64) (p : Policy) : Policy × ℤ :=
  if target &&& 7 ≠ 0 || target > 0xffffffffffffffff#64 - 7 then (p, -einval)
  else
    let r := policyWindows target 0 windows p
    if r.2 ≠ 0 then r
    else if r.1.memoryWindows = 0 then (r.1, -enodev)
    else r

/-- `x1_imsi_policy_target` up to its `out` label. -/
def policyTargetSteps (f : Platform) (windows : List Window) (target : BitVec 64) :
    Act PolicyCall ℤ Policy := Act.list [
  fun p => do return (p, ← policyAdmit f),
  fun p => pure (policyJudge windows target p),
  fun p => do return (p, ← policyLive),
  Act.set fun p => { p with targetReady := true }]

/-- `x1_imsi_policy_target`. -/
def policyTarget (f : Platform) (windows : List Window) (target : BitVec 64) :
    Act PolicyCall ℤ Policy := fun p => do
  if p.targetAttempted then return (p, -ealready)
  let (p, ret) ← policyTargetSteps f windows target { p with targetAttempted := true, target }
  return ({ p with targetError := ret }, ret)

/-! ### Admissible targets -/

def message (target : BitVec 64) : Set ℕ := {a | target.toNat ≤ a ∧ a < target.toNat + 8}

/-- The addresses of a window, as the CPU and as the bus sees them. -/
def cpuAddresses (res : Resource) : Set ℕ := {a | res.start.toNat ≤ a ∧ a ≤ res.stop.toNat}
def busAddresses (res : Resource) (offset : BitVec 64) : Set ℕ :=
  {a | a + offset.toNat ∈ cpuAddresses res}

def Window.Known (w : Window) : Prop :=
  ∃ res, w.res = some res ∧ (res.type = .bus ∨
    res.type = .mem ∧ res.start.toNat ≤ res.stop.toNat ∧ w.offset.toNat ≤ res.start.toNat)

/-- A memory window that the message does not meet. -/
def Window.Clear (w : Window) (target : BitVec 64) : Prop :=
  ∀ res, w.res = some res → res.type = .mem →
    Disjoint (message target) (cpuAddresses res) ∧
      Disjoint (message target) (busAddresses res w.offset)

def Window.IsMem (w : Window) : Prop := ∃ res, w.res = some res ∧ res.type = .mem

/-- The targets that are to be accepted. -/
structure Admissible (windows : List Window) (target : BitVec 64) : Prop where
  aligned : 8 ∣ target.toNat
  length : windows.length ≤ 16
  known : ∀ w ∈ windows, w.Known
  mem : ∃ w ∈ windows, w.IsMem
  clear : ∀ w ∈ windows, w.Clear target

/-! ### The tests on addresses -/

lemma disjoint_message {t s e : ℕ} (hse : s ≤ e) :
    Disjoint {a : ℕ | t ≤ a ∧ a < t + 8} {a | s ≤ a ∧ a ≤ e} ↔ ¬ (t ≤ e ∧ s ≤ t + 7) := by
  rw [Set.disjoint_left]
  constructor
  · rintro h ⟨h₁, h₂⟩
    rcases Nat.le_total t s with hts | hts
    · exact h (a := s) ⟨hts, by omega⟩ ⟨Nat.le_refl s, hse⟩
    · exact h (a := t) ⟨Nat.le_refl t, by omega⟩ ⟨hts, h₁⟩
  · rintro h a ⟨h₁, h₂⟩ ⟨h₃, h₄⟩
    exact h ⟨by omega, by omega⟩

variable {target : BitVec 64}

lemma toNat_add_seven (ha : 8 ∣ target.toNat) :
    (target + 7).toNat = target.toNat + 7 := by
  obtain ⟨k, hk⟩ := ha
  have hlt := target.isLt
  rw [BitVec.toNat_add]
  have h7 : (7 : BitVec 64).toNat = 7 := rfl
  omega

lemma overlaps_eq_false {target offset : BitVec 64} {res : Resource} (ha : 8 ∣ target.toNat)
    (hse : res.start.toNat ≤ res.stop.toNat) (ho : offset.toNat ≤ res.start.toNat) :
    overlaps target res offset = false ↔
      Disjoint (message target) (cpuAddresses res) ∧
        Disjoint (message target) (busAddresses res offset) := by
  have hstart : (res.start - offset).toNat = res.start.toNat - offset.toNat :=
    BitVec.toNat_sub_of_le ho
  have hstop : (res.stop - offset).toNat = res.stop.toNat - offset.toNat :=
    BitVec.toNat_sub_of_le (Nat.le_trans ho hse)
  have hbus : busAddresses res offset =
      {a | res.start.toNat - offset.toNat ≤ a ∧ a ≤ res.stop.toNat - offset.toNat} := by
    ext a
    simp only [busAddresses, cpuAddresses, Set.mem_ofPred_eq]
    omega
  rw [hbus, message, cpuAddresses, disjoint_message hse, disjoint_message (by omega)]
  simp only [overlaps, Bool.or_eq_false_iff, Bool.and_eq_false_iff, decide_eq_false_iff_not,
    ge_iff_le, BitVec.le_def, hstart, hstop, toNat_add_seven ha]
  omega

lemma aligned_iff (target : BitVec 64) :
    (target &&& 7 ≠ 0 || target > 0xffffffffffffffff#64 - 7) = false ↔ 8 ∣ target.toNat := by
  have hand : (target &&& 7).toNat = target.toNat % 8 := by
    rw [BitVec.toNat_and]
    exact Nat.and_two_pow_sub_one_eq_mod target.toNat 3
  have hlt := target.isLt
  have hzero : target &&& 7 = 0 ↔ target.toNat % 8 = 0 := by
    rw [← BitVec.toNat_inj, hand]
    rfl
  simp only [Bool.or_eq_false_iff, decide_eq_false_iff_not, not_not, hzero, gt_iff_lt,
    BitVec.lt_def]
  have hmax : (0xffffffffffffffff#64 - 7).toNat = 2 ^ 64 - 8 := rfl
  rw [hmax]
  omega

/-! ### The loop -/

lemma Window.Clear.of_bus {w : Window} {res : Resource} (hres : w.res = some res)
    (hbus : res.type = .bus) (target : BitVec 64) : w.Clear target := by
  intro res' hres' hmem
  obtain rfl : res = res' := Option.some.inj (hres.symm.trans hres')
  rw [hbus] at hmem
  cases hmem

lemma policyWindows_ok (ha : 8 ∣ target.toNat) (l : List Window) (n : ℕ)
    (hn : n ≤ 16) (p : Policy) :
    (policyWindows target n l p).2 = 0 ↔
      n + l.length ≤ 16 ∧ ∀ w ∈ l, w.Known ∧ w.Clear target := by
  induction l generalizing n p with
  | nil => simp [policyWindows, hn]
  | cons w l ih =>
    -- A window that the loop refuses, and one that it passes over.
    have hrefuse : ∀ e : ℤ, e ≠ 0 → ¬ (w.Known ∧ w.Clear target) →
        (e = 0 ↔ n + (w :: l).length ≤ 16 ∧ ∀ v ∈ w :: l, v.Known ∧ v.Clear target) :=
      fun e he hw => iff_of_false he fun h => hw (h.2 w List.mem_cons_self)
    have hpass : n + 1 ≤ 16 → w.Known ∧ w.Clear target → ∀ p : Policy,
        ((policyWindows target (n + 1) l p).2 = 0 ↔
          n + (w :: l).length ≤ 16 ∧ ∀ v ∈ w :: l, v.Known ∧ v.Clear target) := by
      intro hn hw p
      rw [ih (n + 1) hn p, List.forall_mem_cons, List.length_cons, Nat.add_right_comm n 1,
        ← Nat.add_assoc]
      simp only [hw, true_and]
    unfold policyWindows
    split_ifs with hlen
    · refine iff_of_false (by decide : (-einval) ≠ 0) fun h => ?_
      have := h.1
      rw [List.length_cons] at this
      omega
    cases hres : w.res with
    | none =>
      refine hrefuse (-einval) (by decide) ?_
      rintro ⟨⟨res, h, -⟩, -⟩
      rw [hres] at h
      cases h
    | some res =>
      dsimp only
      split_ifs with hbus hshape hover
      · exact hpass (by omega) ⟨⟨res, hres, .inl hbus⟩, .of_bus hres hbus target⟩ p
      · refine hrefuse (-einval) (by decide) ?_
        rintro ⟨⟨res', h, hknown⟩, -⟩
        obtain rfl : res = res' := Option.some.inj (hres.symm.trans h)
        obtain ⟨hmem, h₁, h₂⟩ := hknown.resolve_left hbus
        simp only [hmem, BitVec.lt_def, gt_iff_lt, Bool.or_eq_true, decide_eq_true_eq, ne_eq,
          not_true_eq_false, false_or] at hshape
        omega
      -- A window of known shape: here the test for an overlap is exact.
      all_goals
        simp only [BitVec.lt_def, gt_iff_lt, Bool.or_eq_true, decide_eq_true_eq, ne_eq,
          not_or, not_not] at hshape
        obtain ⟨⟨hmem, h₁⟩, h₂⟩ := hshape
        have hexact := overlaps_eq_false ha (Nat.not_lt.1 h₁) (Nat.not_lt.1 h₂)
      · refine hrefuse (-erange) (by decide) fun ⟨_, hclear⟩ => ?_
        rw [hexact.2 (hclear res hres hmem)] at hover
        cases hover
      · refine hpass (by omega) ⟨⟨res, hres, .inr ⟨hmem, Nat.not_lt.1 h₁, Nat.not_lt.1 h₂⟩⟩, ?_⟩ _
        intro res' h _
        obtain rfl : res = res' := Option.some.inj (hres.symm.trans h)
        exact hexact.1 (by simpa using hover)

lemma policyWindows_count (l : List Window) (n : ℕ) (p : Policy)
    (h : (policyWindows target n l p).2 = 0) :
    (policyWindows target n l p).1.memoryWindows = 0 ↔
      p.memoryWindows = 0 ∧ ∀ w ∈ l, ¬ w.IsMem := by
  induction l generalizing n p with
  | nil => simp [policyWindows]
  | cons w l ih =>
    unfold policyWindows at h ⊢
    split_ifs at h ⊢ with hlen
    · exact absurd h (by decide : (-einval) ≠ 0)
    cases hres : w.res with
    | none =>
      rw [hres] at h
      exact absurd h (by decide : (-einval) ≠ 0)
    | some res =>
      rw [hres] at h
      dsimp only at h ⊢
      split_ifs at h ⊢ with hbus hshape hover
      · have hw : ¬ w.IsMem := by
          rintro ⟨res', h', hmem⟩
          obtain rfl : res = res' := Option.some.inj (hres.symm.trans h')
          rw [hbus] at hmem
          cases hmem
        rw [ih (n + 1) p h, List.forall_mem_cons]
        simp only [hw, not_false_eq_true, true_and]
      · exact absurd h (by decide : (-einval) ≠ 0)
      · exact absurd h (by decide : (-erange) ≠ 0)
      · have hw : w.IsMem := by
          simp only [Bool.or_eq_true, decide_eq_true_eq, ne_eq, not_or, not_not] at hshape
          exact ⟨res, hres, hshape.1.1⟩
        rw [ih (n + 1) _ h, List.forall_mem_cons]
        simp [hw]

lemma policyWindows_ready (l : List Window) (n : ℕ) (p : Policy) :
    (policyWindows target n l p).1.targetReady = p.targetReady := by
  induction l generalizing n p with
  | nil => rfl
  | cons w l ih =>
    unfold policyWindows
    split
    · rfl
    split
    · rfl
    split
    · exact ih _ _
    split
    · rfl
    dsimp only
    split
    · rfl
    · exact ih _ _

lemma policyJudge_ready (windows : List Window) (target : BitVec 64) (p : Policy) :
    (policyJudge windows target p).1.targetReady = p.targetReady := by
  have hw : (policyWindows target 0 windows p).1.targetReady = p.targetReady :=
    policyWindows_ready windows 0 p
  unfold policyJudge
  split
  · rfl
  dsimp only
  split
  · exact hw
  split
  · exact hw
  · exact hw

lemma policyJudge_ok {windows : List Window} {p : Policy} (hp : p.memoryWindows = 0) :
    (policyJudge windows target p).2 = 0 ↔ Admissible windows target := by
  unfold policyJudge
  by_cases ha : 8 ∣ target.toNat
  swap
  · rw [if_pos (eq_true_of_ne_false (mt (aligned_iff target).1 ha))]
    exact iff_of_false (by decide : (-einval) ≠ 0) fun h => ha h.aligned
  rw [if_neg (by rw [(aligned_iff target).2 ha]; exact Bool.false_ne_true)]
  have hok := policyWindows_ok ha windows 0 (Nat.zero_le _) p
  rw [Nat.zero_add] at hok
  dsimp only
  split_ifs with hret hmem
  · refine iff_of_false hret fun h => hret (hok.2 ⟨h.length, fun w hw => ?_⟩)
    exact ⟨h.known w hw, h.clear w hw⟩
  · refine iff_of_false (by decide : (-enodev) ≠ 0) ?_
    rintro ⟨-, -, -, ⟨w, hw, hm⟩, -⟩
    exact ((policyWindows_count _ _ _ (not_not.1 hret)).1 hmem).2 w hw hm
  · refine iff_of_true (not_not.1 hret) ?_
    obtain ⟨hlen, hall⟩ := hok.1 (not_not.1 hret)
    refine ⟨ha, hlen, fun w hw => (hall w hw).1, ?_, fun w hw => (hall w hw).2⟩
    by_contra hnone
    refine hmem ((policyWindows_count _ _ _ (not_not.1 hret)).2 ⟨hp, fun w hw hm => ?_⟩)
    exact hnone ⟨w, hw, hm⟩

/-! ### The result -/

def LiveReply : PolicyCall × ℤ → Prop
  | (.checkLive, ret) => ret = 0
  | (.pdevActive, active) => active ≠ 0
  | (.ownerActive, active) => active ≠ 0

lemma policyLive_does {tr : List (PolicyCall × ℤ)} {ret : ℤ} (h : Does policyLive tr ret)
    (hlive : ∀ e ∈ tr, LiveReply e) : ret = 0 := by
  obtain ⟨c, u, rfl, h₁⟩ := does_ask_bind.1 h
  obtain ⟨hc, hu⟩ := List.forall_mem_cons.1 hlive
  obtain rfl : c = 0 := hc
  rw [if_neg (not_not.2 rfl)] at h₁
  obtain ⟨a, v, rfl, h₂⟩ := does_ask_bind.1 h₁
  obtain ⟨ha, hv⟩ := List.forall_mem_cons.1 hu
  have ha : a ≠ 0 := ha
  rw [if_neg ha] at h₂
  obtain ⟨b, w, rfl, h₃⟩ := does_ask_bind.1 h₂
  have hb : b ≠ 0 := hv _ List.mem_cons_self
  rw [if_neg hb] at h₃
  exact (does_pure.1 h₃).2

lemma policyAdmit_does {f : Platform} (hf : policyFound f = 0) {tr : List (PolicyCall × ℤ)}
    {ret : ℤ} (h : Does (policyAdmit f) tr ret) (hlive : ∀ e ∈ tr, LiveReply e) : ret = 0 := by
  rw [policyAdmit, if_neg (not_not.2 hf)] at h
  exact policyLive_does h hlive

lemma live_meets {P : Policy → Prop} {d : Dialog PolicyCall ℤ ℤ}
    {E : List (PolicyCall × ℤ) → Policy → ℤ → Prop}
    (hd : ∀ tr ret, Does d tr ret → (∀ e ∈ tr, LiveReply e) → ret = 0)
    (hE : ∀ past p ret, ¬ (∀ e ∈ past, LiveReply e) → E past p ret) :
    Act.Meets (fun _ p => P p) (fun p => do return (p, ← d)) (fun _ p => P p) E := by
  intro past p hp tr p' ret h
  obtain ⟨t, r, u, rfl, ht, hu⟩ := does_bind.1 h
  obtain ⟨rfl, rfl, rfl⟩ := Act.does_return.1 hu
  refine ⟨fun _ => hp, fun h0 => hE _ _ _ fun hall => h0 (hd t ret ht fun e he => ?_)⟩
  exact hall e (by simp [he])

lemma policyTargetSteps_meets {f : Platform} (hf : policyFound f = 0) (windows : List Window)
    (target : BitVec 64) :
    Act.Meets (fun _ p => p.memoryWindows = 0 ∧ p.targetReady = false)
      (policyTargetSteps f windows target)
      (fun _ p => Admissible windows target ∧ p.targetReady = true)
      (fun past p _ => (∀ e ∈ past, LiveReply e) →
        ¬ Admissible windows target ∧ p.targetReady = false) := by
  refine (live_meets (fun _ _ => policyAdmit_does hf) fun _ _ _ h hall => absurd hall h).cons ?_
  refine Act.Meets.cons (R := fun _ p => Admissible windows target) ?_
    ((live_meets (fun _ _ => policyLive_does) fun _ _ _ h hall => absurd hall h).cons
      ((Act.Meets.set fun _ p h => ⟨h, rfl⟩).cons Act.Meets.nil))
  rintro past p ⟨hp, hready⟩ tr p' ret hd
  obtain ⟨-, heq⟩ := does_pure.1 hd
  have hjudge : (policyJudge windows target p).2 = 0 ↔ Admissible windows target :=
    policyJudge_ok hp
  have hsame := policyJudge_ready windows target p
  rw [← heq] at hjudge hsame
  exact ⟨fun h0 => hjudge.1 h0, fun h0 _ => ⟨mt hjudge.2 h0, hsame.trans hready⟩⟩

structure Policy.Fresh (p : Policy) : Prop where
  attempted : p.targetAttempted = false
  ready : p.targetReady = false
  windows : p.memoryWindows = 0

def Live (answer : List (PolicyCall × ℤ) → PolicyCall → ℤ) : Prop :=
  ∀ past q, LiveReply (q, answer past q)

/-- With admission and liveness passing, the first call accepts exactly the admissible targets. -/
theorem policyTarget_accepts_iff {p : Policy} (hp : p.Fresh) {f : Platform}
    (hf : policyFound f = 0) {answer : List (PolicyCall × ℤ) → PolicyCall → ℤ} (hlive : Live answer)
    (windows : List Window) (target : BitVec 64) :
    (((policyTarget f windows target p).run answer []).2.2 = 0 ↔ Admissible windows target) ∧
    (((policyTarget f windows target p).run answer []).2.1.targetReady = true ↔
      Admissible windows target) := by
  have hd := run_does answer [] (policyTarget f windows target p)
  have hall : ∀ e ∈ ((policyTarget f windows target p).run answer []).1, LiveReply e := by
    intro e he
    obtain ⟨now, hnow⟩ := run_reply answer [] _ e he
    have := hlive now e.1
    rwa [← hnow] at this
  generalize (policyTarget f windows target p).run answer [] = r at hd hall ⊢
  obtain ⟨tr, p', ret⟩ := r
  simp only [policyTarget, hp.attempted, Bool.false_eq_true, if_false] at hd
  obtain ⟨t, ⟨p₁, ret₁⟩, u, rfl, ht, hu⟩ := does_bind.1 hd
  obtain ⟨rfl, rfl, rfl⟩ := Act.does_return.1 hu
  obtain ⟨hok, hfail⟩ := @policyTargetSteps_meets f hf windows target []
    { p with targetAttempted := true, target := target } ⟨hp.windows, hp.ready⟩ _ _ _ ht
  by_cases h0 : ret = 0
  · exact ⟨iff_of_true h0 (hok h0).1, iff_of_true (hok h0).2 (hok h0).1⟩
  · obtain ⟨hno, hready⟩ := hfail h0 (by simpa using hall)
    exact ⟨iff_of_false h0 hno, iff_of_false (by simpa using hready) hno⟩

/-- The last aligned address of all, with one window below it. -/
theorem policyTarget_accepts_iff_top :
    ((policyTarget {} [⟨some ⟨.mem, 0, 0xfffffffffffffff7⟩, 0⟩] 0xfffffffffffffff8 {}).run
      (fun _ q => match q with | .checkLive => 0 | _ => 1) []).2.2 = 0 ∧
    Admissible [⟨some ⟨.mem, 0, 0xfffffffffffffff7⟩, 0⟩] 0xfffffffffffffff8 := by
  have h := @policyTarget_accepts_iff {} ⟨rfl, rfl, rfl⟩ {} rfl
    (fun _ q => match q with | .checkLive => 0 | _ => 1)
    (by intro past q; cases q <;> simp [LiveReply])
    [⟨some ⟨.mem, 0, 0xfffffffffffffff7⟩, 0⟩] 0xfffffffffffffff8
  exact ⟨by decide, h.1.1 (by decide)⟩

end YogaUsb4.Imsi
