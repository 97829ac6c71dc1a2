import YogaUsb4.Dialog
import Mathlib.Data.List.Infix

/-!
The outbound memory window of PCI0: region 1 of the address translation unit is programmed word by
word, read back, enabled and read back again. The device answers as it likes.
-/

namespace YogaUsb4.MemWindow

open Dialog

/-! ### The program -/

/-- The callbacks of `struct x1_mem_io`. -/
inductive Call where
  | check
  | read (off : BitVec 32)
  | write (off value : BitVec 32)
  | delay (ms : ℕ)
  deriving DecidableEq

/-- What a callback returns, and the value that a `read` stores. -/
structure Reply where
  ret : ℤ
  value : BitVec 32 := 0

/-- Which callbacks of `struct x1_mem_io` are there. -/
structure MemIo where
  check : Bool := true
  read : Bool := true
  write : Bool := true
  delay : Bool := true

/-- `struct x1_mem_state`. -/
structure MemState where
  attempted : Bool := false
  enableIssued : Bool := false
  complete : Bool := false
  writes : ℕ := 0
  error : ℤ := 0
  step : String := ""

abbrev MemAct := Act Call Reply MemState

def memOffset (off : BitVec 32) : Bool :=
  [0x1200#32, 0x1204#32, 0x1208#32, 0x120c#32, 0x1210#32, 0x1214#32, 0x1218#32,
    0x1220#32].contains off

/-- `x1_mem_read`: its result, and the value if that is 0. -/
def memRead (off : BitVec 32) : Dialog Call Reply (ℤ × BitVec 32) := do
  if memOffset off = false then return (-einval, 0)
  let c ← ask .check
  if c.ret ≠ 0 then return (orEio c.ret, 0)
  let r ← ask (.read off)
  return (orEio r.ret, r.value)

def memExpect (off value : BitVec 32) : MemAct := fun s => do
  let (ret, got) ← memRead off
  return (s, if ret ≠ 0 then ret else if got = value then 0 else -eio)

def memSet (off value : BitVec 32) : MemAct := fun s => do
  if memOffset off = false then return (s, -einval)
  let c ← ask .check
  if c.ret ≠ 0 then return (s, orEio c.ret)
  -- issued, not proof of successful arrival
  let s := { s with writes := s.writes + 1 }
  let w ← ask (.write off value)
  if w.ret ≠ 0 then return (s, orEio w.ret)
  memExpect off value s

/-- The fixed 256 MiB aperture, equal for CPU and PCI. -/
def words : List (BitVec 32 × BitVec 32) :=
  [(0x1208, 0x40000000), (0x120c, 0), (0x1210, 0x4fffffff), (0x1220, 0),
    (0x1214, 0x40000000), (0x1218, 0), (0x1200, 0)]

/-- The enable of region 1, written once. -/
def memEnable : MemAct := fun s => do
  let c ← ask .check
  if c.ret ≠ 0 then return (s, orEio c.ret)
  let s := { s with enableIssued := true, writes := s.writes + 1 }
  let w ← ask (.write 0x1204 0x80000000)
  return (s, orEio w.ret)

/-- The poll of the enable, with `k` rounds after this one. -/
def memPoll : ℕ → MemAct
  | 0 => fun s => do
    let (ret, value) ← memRead 0x1204
    if ret ≠ 0 then return (s, ret)
    if value = 0x80000000 then return (s, 0)
    return (s, if value ≠ 0 then -eio else -etimedout)
  | k + 1 => fun s => do
    let (ret, value) ← memRead 0x1204
    if ret ≠ 0 then return (s, ret)
    if value = 0x80000000 then return (s, 0)
    if value ≠ 0 then return (s, -eio)
    let d ← ask (.delay 10)
    if d.ret ≠ 0 then return (s, orEio d.ret)
    memPoll k s

def setStep (step : String) : MemAct := Act.set fun s => { s with step }

/-- The table loops of `x1_mem_prepare`. -/
def expectWords : MemAct := Act.list (words.map fun w => memExpect w.1 w.2)
def setWords : MemAct := Act.list (words.map fun w => memSet w.1 w.2)

/-- `x1_mem_prepare` up to its `done` label. -/
def memSteps : MemAct := Act.list [
  setStep "mem-inactive-ob1", memExpect 0x1204 0,
  setStep "mem-program-ob1", setWords,
  -- detect aliasing before issuing the single enable
  expectWords, memExpect 0x1204 0,
  setStep "mem-enable-ob1", memEnable, memPoll 4,
  setStep "mem-final-readback", expectWords, memExpect 0x1204 0x80000000,
  Act.set fun s => { s with complete := true, step := "mem-ready-not-endpoint-dma-proof" }]

def given (io : Option MemIo) : Bool :=
  io.any fun io => io.check && io.read && io.write && io.delay

/-- `x1_mem_prepare`; a missing `s` has no state. -/
def memPrepare (io : Option MemIo) : Act Call Reply (Option MemState)
  | none => pure (none, -einval)
  | some s => do
    if given io = false then return (some s, -einval)
    if s.attempted then return (some s, -ealready)
    let (s, ret) ← memSteps { s with attempted := true }
    return (some { s with error := ret }, ret)

/-! ### Conversations -/

/-- A value that was read, or one that was written. -/
inductive Access where
  | got (off value : BitVec 32)
  | put (off value : BitVec 32)
  deriving DecidableEq

def access : Call × Reply → Option Access
  | (.read off, r) => if r.ret = 0 then some (.got off r.value) else none
  | (.write off value, _) => some (.put off value)
  | _ => none

def accesses (tr : List (Call × Reply)) : List Access := tr.filterMap access

def isRead : Call × Reply → Bool
  | (.read _, _) => true
  | _ => false

def isWrite : Call × Reply → Bool
  | (.write _ _, _) => true
  | _ => false

def reads (tr : List (Call × Reply)) : ℕ := tr.countP isRead

def puts (l : List Access) : List (BitVec 32 × BitVec 32) :=
  l.filterMap fun
    | .put off value => some (off, value)
    | .got _ _ => none

/-- Every read and every write comes right after a check that succeeded. -/
def Guarded (tr : List (Call × Reply)) : Prop :=
  ∀ pre e post, tr = pre ++ e :: post → isRead e ∨ isWrite e →
    ∃ pre' c, pre = pre' ++ [(.check, c)] ∧ c.ret = 0

def beforeEnable : List Access :=
  [.got 0x1204 0] ++ words.flatMap (fun w => [.put w.1 w.2, .got w.1 w.2]) ++
    words.map (fun w => .got w.1 w.2) ++ [.got 0x1204 0]

/-- The accesses that come last. -/
def finalPass : List Access := words.map (fun w => .got w.1 w.2) ++ [.got 0x1204 0x80000000]

@[simp] lemma accesses_append (t u : List (Call × Reply)) :
    accesses (t ++ u) = accesses t ++ accesses u := List.filterMap_append

@[simp] lemma reads_append (t u : List (Call × Reply)) : reads (t ++ u) = reads t + reads u :=
  List.countP_append

@[simp] lemma puts_append (l m : List Access) : puts (l ++ m) = puts l ++ puts m :=
  List.filterMap_append

lemma Guarded.append {t u : List (Call × Reply)} (ht : Guarded t) (hu : Guarded u) :
    Guarded (t ++ u) := by
  intro pre e post heq he
  rcases List.append_eq_append_iff.1 heq with ⟨v, rfl, rfl⟩ | ⟨v, rfl, hv⟩
  · obtain ⟨pre', c, rfl, hc⟩ := hu v e post rfl he
    exact ⟨t ++ pre', c, by rw [List.append_assoc], hc⟩
  · rcases v with - | ⟨x, v⟩
    · obtain ⟨pre', c, hpre, hc⟩ := hu [] e post hv.symm he
      simp at hpre
    · obtain ⟨rfl, -⟩ := List.cons_eq_cons.1 hv
      exact ht pre _ v rfl he

lemma guarded_nil : Guarded [] := by
  intro pre e post heq
  simp at heq

lemma guarded_single {e : Call × Reply} (h : ¬ (isRead e ∨ isWrite e)) : Guarded [e] := by
  intro pre f post heq hf
  obtain ⟨rfl, rfl, rfl⟩ : pre = [] ∧ f = e ∧ post = [] := by
    rcases pre with - | ⟨x, pre⟩ <;> simp_all
  exact absurd hf h

lemma guarded_check (c : Reply) : Guarded [(.check, c)] :=
  guarded_single (by simp [isRead, isWrite])

lemma guarded_pair {c : Reply} (hc : c.ret = 0) (e : Call × Reply) :
    Guarded [(.check, c), e] := by
  intro pre f post heq hf
  rcases pre with - | ⟨x, pre⟩
  · obtain ⟨rfl, -⟩ := List.cons_eq_cons.1 heq
    simp [isRead, isWrite] at hf
  · rcases pre with - | ⟨y, pre⟩
    · obtain ⟨rfl, -⟩ := List.cons_eq_cons.1 heq
      exact ⟨[], c, rfl, hc⟩
    · simp at heq

/-! ### What a conversation has done -/

/-- What has been accessed at any moment: the words are being programmed, or all that has to come
before the enable has come, and nothing was written since. -/
inductive Progress (l : List Access) : Prop
  | programming (h : puts l <+: words)
  | enabled (rest : List Access) (h : l = beforeEnable ++ .put 0x1204 0x80000000 :: rest)
      (hrest : puts rest = [])

lemma Progress.reading {l m : List Access} (h : Progress l) (hm : puts m = []) :
    Progress (l ++ m) := by
  rcases h with h | ⟨rest, rfl, hrest⟩
  · exact .programming (by rw [puts_append, hm, List.append_nil]; exact h)
  · exact .enabled (rest ++ m) (by simp) (by rw [puts_append, hrest, hm]; rfl)

/-- The conversation has accessed `l`, with at most `n` reads. -/
structure At (n : ℕ) (l : List Access) (past : List (Call × Reply)) : Prop where
  guarded : Guarded past
  accesses : accesses past = l
  reads : reads past ≤ n

structure Ended (past : List (Call × Reply)) : Prop where
  guarded : Guarded past
  progress : Progress (accesses past)
  reads : reads past ≤ 29

variable {past : List (Call × Reply)}

lemma At.ended {n : ℕ} {l : List Access} (h : At n l past)
    (hl : Progress l) (hn : n ≤ 29) : Ended past :=
  ⟨h.guarded, h.accesses ▸ hl, h.reads.trans hn⟩

lemma At.append {n k : ℕ} {l m : List Access} {past tr : List (Call × Reply)} (h : At n l past)
    (ht : At k m tr) : At (n + k) (l ++ m) (past ++ tr) :=
  ⟨h.guarded.append ht.guarded, by rw [accesses_append, h.accesses, ht.accesses],
    by rw [reads_append]; exact Nat.add_le_add h.reads ht.reads⟩

variable {tr : List (Call × Reply)}

lemma memRead_does {off : BitVec 32} (ho : memOffset off = true)
    {ret : ℤ} {value : BitVec 32} (h : Does (memRead off) tr (ret, value)) :
    At 1 (if ret = 0 then [.got off value] else []) tr := by
  simp only [memRead, ho, Bool.true_eq_false, if_false, does_ask_bind] at h
  obtain ⟨c, u, rfl, h⟩ := h
  by_cases hc : c.ret = 0
  · simp only [hc, ne_eq, not_true_eq_false, if_false, does_ask_bind, does_pure,
      Prod.mk.injEq] at h
    obtain ⟨r, _, rfl, rfl, rfl, rfl⟩ := h
    refine ⟨guarded_pair hc _, ?_, by simp [reads, isRead]⟩
    by_cases hr : r.ret = 0
    · simp [MemWindow.accesses, List.filterMap_cons, access, hr]
    · simp [MemWindow.accesses, List.filterMap_cons, access, hr]
  · simp only [ne_eq, hc, not_false_eq_true, if_true, does_pure, Prod.mk.injEq] at h
    obtain ⟨rfl, rfl, rfl⟩ := h
    refine ⟨guarded_check c, ?_, by simp [reads, isRead]⟩
    simp [MemWindow.accesses, access, hc]

variable {off value : BitVec 32}

lemma memExpect_does (ho : memOffset off = true) {s s' : MemState}
    {ret : ℤ} (h : Does (memExpect off value s) tr (s', ret)) :
    (ret = 0 → At 1 [.got off value] tr) ∧ ∃ m, puts m = [] ∧ At 1 m tr := by
  simp only [memExpect, does_bind, does_pure, Prod.exists] at h
  obtain ⟨t, ret', got, u, rfl, ht, rfl, h⟩ := h
  have hat := memRead_does ho ht
  rw [List.append_nil]
  refine ⟨fun h0 => ?_, _, ?_, hat⟩
  · obtain ⟨h₁, h₂⟩ : ret' = 0 ∧ got = value := by
      simp only [Prod.mk.injEq] at h
      rw [h0] at h
      have h := h.2
      split_ifs at h with h₁ h₂
      · exact absurd h.symm h₁
      · exact ⟨by simpa using h₁, h₂⟩
      · simp [eio] at h
    rwa [if_pos h₁, h₂] at hat
  · split <;> rfl

variable {n : ℕ} {l : List Access}

lemma memExpect_meets (ho : memOffset off = true) (hl : Progress l)
    (hn : n < 29) : Act.Meets (fun past _ => At n l past) (memExpect off value)
      (fun past _ => At (n + 1) (l ++ [.got off value]) past) (fun past _ _ => Ended past) := by
  intro past s hp tr s' ret hd
  obtain ⟨hok, m, hm, hfail⟩ := memExpect_does ho hd
  exact ⟨fun h0 => hp.append (hok h0), fun _ => (hp.append hfail).ended (hl.reading hm) hn⟩

lemma memSet_meets (ho : memOffset off = true) (hl : Progress l)
    (hw : Progress (l ++ [.put off value])) (hn : n < 29) :
    Act.Meets (fun past _ => At n l past) (memSet off value)
      (fun past _ => At (n + 1) (l ++ [.put off value, .got off value]) past)
      (fun past _ _ => Ended past) := by
  intro past s hp tr s' ret hd
  simp only [memSet, ho, Bool.true_eq_false, if_false, does_ask_bind] at hd
  obtain ⟨c, u, rfl, hd⟩ := hd
  by_cases hc : c.ret = 0
  swap
  · simp only [ne_eq, hc, not_false_eq_true, if_true, does_pure, Prod.mk.injEq] at hd
    obtain ⟨rfl, rfl, rfl⟩ := hd
    have hcheck : At 0 [] [(.check, c)] := ⟨guarded_check c, rfl, by simp [reads, isRead]⟩
    refine ⟨fun h0 => absurd (orEio_eq_zero.1 h0) hc, fun _ => ?_⟩
    exact (hp.append hcheck).ended (hl.reading rfl) hn.le
  simp only [hc, ne_eq, not_true_eq_false, if_false, does_ask_bind] at hd
  obtain ⟨w, u, rfl, hd⟩ := hd
  have hput : At 0 [.put off value] [(.check, c), (.write off value, w)] :=
    ⟨guarded_pair hc _, rfl, by simp [reads, isRead]⟩
  have hp := hp.append hput
  by_cases hww : w.ret = 0
  · simp only [hww, not_true_eq_false, if_false] at hd
    obtain ⟨hok, m, hm, hfail⟩ := memExpect_does ho hd
    have heq : past ++ (Call.check, c) :: (Call.write off value, w) :: u =
        past ++ [(Call.check, c), (Call.write off value, w)] ++ u := by simp
    rw [heq]
    refine ⟨fun h0 => ?_, fun _ => (hp.append hfail).ended (hw.reading hm) hn⟩
    have := hp.append (hok h0)
    rwa [List.append_assoc] at this
  · simp only [hww, not_false_eq_true, if_true, does_pure, Prod.mk.injEq] at hd
    obtain ⟨rfl, rfl, rfl⟩ := hd
    exact ⟨fun h0 => absurd (orEio_eq_zero.1 h0) hww, fun _ => hp.ended hw hn.le⟩

lemma memEnable_meets (hn : n ≤ 29) :
    Act.Meets (fun past _ => At n beforeEnable past) memEnable
      (fun past _ => At n (beforeEnable ++ [.put 0x1204 0x80000000]) past)
      (fun past _ _ => Ended past) := by
  intro past s hp tr s' ret hd
  simp only [memEnable, does_ask_bind] at hd
  obtain ⟨c, u, rfl, hd⟩ := hd
  by_cases hc : c.ret = 0
  · simp only [hc, ne_eq, not_true_eq_false, if_false, does_ask_bind, does_pure,
      Prod.mk.injEq] at hd
    obtain ⟨w, _, rfl, rfl, rfl, rfl⟩ := hd
    have hput : At 0 [.put 0x1204 0x80000000] [(.check, c), (.write 0x1204 0x80000000, w)] :=
      ⟨guarded_pair hc _, rfl, by simp [reads, isRead]⟩
    have hp := hp.append hput
    exact ⟨fun _ => hp, fun _ => hp.ended (.enabled [] rfl rfl) hn⟩
  · simp only [ne_eq, hc, not_false_eq_true, if_true, does_pure, Prod.mk.injEq] at hd
    obtain ⟨rfl, rfl, rfl⟩ := hd
    have hcheck : At 0 [] [(.check, c)] := ⟨guarded_check c, rfl, by simp [reads, isRead]⟩
    refine ⟨fun h0 => absurd (orEio_eq_zero.1 h0) hc, fun _ => ?_⟩
    have hbefore : Progress beforeEnable := .programming (by decide)
    exact (hp.append hcheck).ended (hbefore.reading rfl) hn

/-- The enable was issued, and nothing was written since. -/
def Issued (n : ℕ) (past : List (Call × Reply)) : Prop :=
  ∃ rest, puts rest = [] ∧ At n (beforeEnable ++ .put 0x1204 0x80000000 :: rest) past

lemma Issued.append {k : ℕ} {m : List Access} {past tr : List (Call × Reply)} (h : Issued n past)
    (hm : puts m = []) (ht : At k m tr) : Issued (n + k) (past ++ tr) := by
  obtain ⟨rest, hrest, hat⟩ := h
  refine ⟨rest ++ m, by rw [puts_append, hrest, hm]; rfl, ?_⟩
  simpa using hat.append ht

lemma Issued.ended (h : Issued n past) (hn : n ≤ 29) : Ended past := by
  obtain ⟨rest, hrest, hat⟩ := h
  exact hat.ended (.enabled rest rfl hrest) hn

lemma Issued.mono {k : ℕ} (h : Issued n past) (hk : n ≤ k) :
    Issued k past := by
  obtain ⟨rest, hrest, hat⟩ := h
  exact ⟨rest, hrest, hat.guarded, hat.accesses, hat.reads.trans hk⟩

lemma puts_ite (c : Prop) [Decidable c] (off value : BitVec 32) :
    puts (if c then [.got off value] else []) = [] := by
  split <;> rfl

lemma memPoll_meets (k : ℕ) (hn : n + k < 29) :
    Act.Meets (fun past _ => Issued n past) (memPoll k) (fun past _ => Issued (n + k + 1) past)
      (fun past _ _ => Ended past) := by
  induction k generalizing n with
  | zero =>
    intro past s hp tr s' ret hd
    simp only [memPoll, does_bind, Prod.exists] at hd
    obtain ⟨t, ret', value, u, rfl, ht, hd⟩ := hd
    have hp := hp.append (puts_ite _ _ _) (memRead_does rfl ht)
    have hu : u = [] := by
      revert hd
      split_ifs <;> simp +contextual
    subst hu
    rw [List.append_nil]
    exact ⟨fun _ => hp, fun _ => hp.ended hn⟩
  | succ k ih =>
    intro past s hp tr s' ret hd
    simp only [memPoll, does_bind, Prod.exists] at hd
    obtain ⟨t, ret', value, u, rfl, ht, hd⟩ := hd
    have hp := hp.append (puts_ite _ _ _) (memRead_does rfl ht)
    have hstop : u = [] → (ret = 0 → Issued (n + (k + 1) + 1) (past ++ (t ++ u))) ∧
        (ret ≠ 0 → Ended (past ++ (t ++ u))) := by
      rintro rfl
      rw [List.append_nil]
      exact ⟨fun _ => hp.mono (by omega), fun _ => hp.ended (by omega)⟩
    split_ifs at hd with h₁ h₂ h₃
    · exact hstop (does_pure.1 hd).1
    · exact hstop (does_pure.1 hd).1
    · exact hstop (does_pure.1 hd).1
    -- the enable reads 0, so the next round follows the delay
    obtain ⟨d, u, rfl, hd'⟩ := does_ask_bind.1 hd
    have hdelay : At 0 [] [(.delay 10, d)] :=
      ⟨guarded_single (by simp [isRead, isWrite]), rfl, by simp [reads, isRead]⟩
    have hp := hp.append rfl hdelay
    have heq : past ++ (t ++ (Call.delay 10, d) :: u) = past ++ t ++ [(.delay 10, d)] ++ u := by
      simp
    rw [heq]
    split_ifs at hd' with hz
    · obtain ⟨rfl, h⟩ := does_pure.1 hd'
      rw [List.append_nil]
      exact ⟨fun _ => hp.mono (by omega), fun _ => hp.ended (by omega)⟩
    · have := ih (n := n + 1) (by omega) hp hd'
      rwa [Nat.add_right_comm n 1 k, Nat.add_assoc n k 1] at this

/-! ### The whole -/

lemma memOffset_words : ∀ w ∈ words, memOffset w.1 = true := List.all_eq_true.1 (by decide)

lemma puts_set (l : List (BitVec 32 × BitVec 32)) :
    puts (l.flatMap fun w => [.put w.1 w.2, .got w.1 w.2]) = l := by
  induction l with
  | nil => rfl
  | cons w l ih => rw [List.flatMap_cons, puts_append, ih]; rfl

lemma puts_expect (l : List (BitVec 32 × BitVec 32)) :
    puts (l.map fun w => .got w.1 w.2) = [] := by
  simp [puts, List.filterMap_map]

lemma length_of_words {l₁ l₂ : List (BitVec 32 × BitVec 32)} {x : BitVec 32 × BitVec 32}
    (h : words = l₁ ++ x :: l₂) : l₁.length < 7 := by
  have hlen : words.length = (l₁ ++ x :: l₂).length := congrArg List.length h
  rw [List.length_append, List.length_cons] at hlen
  have : words.length = 7 := rfl
  omega

lemma expectWords_meets (hl : Progress l) (hn : n + 7 ≤ 29) :
    Act.Meets (fun past _ => At n l past) expectWords
      (fun past _ => At (n + 7) (l ++ words.map fun w => .got w.1 w.2) past)
      (fun past _ _ => Ended past) := by
  refine Act.Meets.conseq (Act.Meets.table (fun w : BitVec 32 × BitVec 32 => memExpect w.1 w.2)
    (fun done past _ => At (n + done.length) (l ++ done.map fun w => Access.got w.1 w.2) past) words
    (E := fun past _ _ => Ended past) ?_) ?_ (fun _ _ h => h) (fun _ _ _ h => h)
  · intro l₁ x l₂ hw
    have hlen := length_of_words hw
    have hx : Act.Meets (fun past _ => At (n + l₁.length) _ past) (memExpect x.1 x.2) _ _ :=
      memExpect_meets (memOffset_words x (by simp [hw])) (hl.reading (puts_expect l₁)) (by omega)
    simpa [Nat.add_assoc] using hx
  · intro past s h
    simpa using h

lemma setWords_meets :
    Act.Meets (fun past _ => At 1 [.got 0x1204 0] past) setWords
      (fun past _ => At 8 (.got 0x1204 0 :: words.flatMap fun w => [.put w.1 w.2, .got w.1 w.2])
        past)
      (fun past _ _ => Ended past) := by
  refine Act.Meets.table (fun w : BitVec 32 × BitVec 32 => memSet w.1 w.2)
    (fun done past _ => At (1 + done.length)
      (.got 0x1204 0 :: done.flatMap fun w => [.put w.1 w.2, .got w.1 w.2]) past) words
    (E := fun past _ _ => Ended past) ?_
  intro l₁ x l₂ hw
  have hlen := length_of_words hw
  have hputs : puts (.got 0x1204 0 :: l₁.flatMap fun w => [.put w.1 w.2, .got w.1 w.2]) = l₁ :=
    puts_set l₁
  have hbefore : Progress (.got 0x1204 0 :: l₁.flatMap fun w => [.put w.1 w.2, .got w.1 w.2]) :=
    .programming (by rw [hputs]; exact ⟨x :: l₂, hw.symm⟩)
  have hafter : Progress ((.got 0x1204 0 :: l₁.flatMap fun w => [.put w.1 w.2, .got w.1 w.2]) ++
      [.put x.1 x.2]) :=
    .programming (by
      rw [puts_append, hputs]
      exact ⟨l₂, by rw [hw, List.append_assoc]; rfl⟩)
  have hx := memSet_meets (n := 1 + l₁.length) (memOffset_words x (by simp [hw])) hbefore hafter
    (by omega)
  simpa [Nat.add_assoc] using hx

lemma setStep_meets {P : List (Call × Reply) → Prop}
    {E : List (Call × Reply) → MemState → ℤ → Prop} (step : String) :
    Act.Meets (fun past _ => P past) (setStep step) (fun past _ => P past) E :=
  Act.Meets.set fun _ _ h => h

lemma memSteps_meets :
    Act.Meets (fun past _ => past = []) memSteps
      (fun past _ => Ended past ∧ ∃ front, accesses past = front ++ finalPass)
      (fun past _ _ => Ended past) := by
  have hprog : ∀ m, puts m <+: words → Progress m := fun m h => .programming h
  refine Act.Meets.cons (R := fun past _ => At 0 [] past) (Act.Meets.set ?_) ?_
  · rintro past s rfl
    exact ⟨guarded_nil, rfl, Nat.le_refl 0⟩
  refine (memExpect_meets rfl (hprog _ (by decide)) (by decide)).cons ?_
  refine (setStep_meets _).cons (setWords_meets.cons ?_)
  refine (expectWords_meets (hprog _ (by decide)) (by decide)).cons ?_
  refine (memExpect_meets rfl (hprog _ (by decide)) (by decide)).cons ?_
  refine (setStep_meets _).cons ((memEnable_meets (n := 16) (by decide)).cons ?_)
  refine Act.Meets.cons (R := fun past _ => Issued 21 past)
    ((memPoll_meets 4 (n := 16) (by decide)).conseq ?_ (fun _ _ h => h) (fun _ _ _ h => h)) ?_
  · intro past s h
    exact ⟨[], rfl, h⟩
  refine (setStep_meets _).cons (Act.Meets.exists fun rest => ?_)
  by_cases hrest : puts rest = []
  swap
  · rintro past s ⟨h, -⟩
    exact absurd h hrest
  -- All reads behind the enable go on from here.
  have hen : Progress (beforeEnable ++ .put 0x1204 0x80000000 :: rest) := .enabled rest rfl hrest
  refine Act.Meets.conseq ((expectWords_meets (n := 21) hen (by decide)).cons
    ((memExpect_meets rfl (hen.reading (puts_expect words)) (by decide)).cons
      (Act.Meets.set ?_))) (fun _ _ h => h.2) (fun _ _ h => h) (fun _ _ _ h => h)
  intro past s h
  refine ⟨h.ended ((hen.reading (puts_expect words)).reading rfl) (by decide), ?_⟩
  exact ⟨_, h.accesses.trans (List.append_assoc _ _ _)⟩

/-! ### The result -/

lemma memPrepare_ended (io : Option MemIo) (s : Option MemState)
    (answer : List (Call × Reply) → Call → Reply) :
    Ended ((memPrepare io s).run answer []).1 ∧
      (((memPrepare io s).run answer []).2.2 = 0 →
        ∃ front, accesses ((memPrepare io s).run answer []).1 = front ++ finalPass) := by
  have hd := run_does answer [] (memPrepare io s)
  generalize (memPrepare io s).run answer [] = r at hd ⊢
  obtain ⟨tr, s', ret⟩ := r
  have hnone : ∀ e : ℤ, e ≠ 0 → tr = [] → ret = e →
      Ended tr ∧ (ret = 0 → ∃ front, accesses tr = front ++ finalPass) := by
    rintro e he rfl rfl
    exact ⟨⟨guarded_nil, .programming (by decide), Nat.zero_le _⟩, fun h => absurd h he⟩
  rcases s with - | s
  · simp only [memPrepare, does_pure, Prod.mk.injEq] at hd
    exact hnone (-einval) (by decide) hd.1 hd.2.2
  simp only [memPrepare] at hd
  split_ifs at hd with h₁ h₂
  · simp only [does_pure, Prod.mk.injEq] at hd
    exact hnone (-einval) (by decide) hd.1 hd.2.2
  · simp only [does_pure, Prod.mk.injEq] at hd
    exact hnone (-ealready) (by decide) hd.1 hd.2.2
  · simp only [does_bind, Prod.exists, does_pure, Prod.mk.injEq] at hd
    obtain ⟨t, s₁, ret₁, u, rfl, ht, rfl, -, rfl⟩ := hd
    rw [List.append_nil]
    obtain ⟨hok, hfail⟩ := memSteps_meets rfl ht
    by_cases h0 : ret = 0
    · exact ⟨(hok h0).1, fun _ => (hok h0).2⟩
    · exact ⟨hfail h0, fun h => absurd h h0⟩

lemma memPrepare_of_attempted {s : MemState} (hs : s.attempted = true) (io : Option MemIo)
    (answer : List (Call × Reply) → Call → Reply) :
    ((memPrepare io (some s)).run answer []).1 = [] := by
  simp only [memPrepare, hs, if_true]
  split <;> rfl

lemma memExpect_fixes (off value : BitVec 32) :
    Act.Fixes MemState.attempted (memExpect off value) := by
  intro s tr s' ret hd
  simp only [memExpect, does_bind, does_pure, Prod.mk.injEq, Prod.exists] at hd
  obtain ⟨_, _, _, _, -, -, -, rfl, -⟩ := hd
  rfl

lemma memSet_fixes (off value : BitVec 32) :
    Act.Fixes MemState.attempted (memSet off value) := by
  intro s tr s' ret hd
  unfold memSet at hd
  split_ifs at hd
  · rw [(Act.does_return.1 hd).2.1]
  obtain ⟨c, u, -, hd⟩ := does_ask_bind.1 hd
  split_ifs at hd
  · rw [(Act.does_return.1 hd).2.1]
  obtain ⟨w, u, -, hd⟩ := does_ask_bind.1 hd
  split_ifs at hd
  · rw [(Act.does_return.1 hd).2.1]
  · rw [memExpect_fixes off value hd]

lemma memEnable_fixes : Act.Fixes MemState.attempted memEnable := by
  intro s tr s' ret hd
  obtain ⟨c, u, -, hd⟩ := does_ask_bind.1 hd
  split_ifs at hd
  · rw [(Act.does_return.1 hd).2.1]
  · obtain ⟨w, u, -, hd⟩ := does_ask_bind.1 hd
    rw [(Act.does_return.1 hd).2.1]

lemma memPoll_fixes (k : ℕ) : Act.Fixes MemState.attempted (memPoll k) := by
  induction k with
  | zero =>
    intro s tr s' ret hd
    obtain ⟨t, ⟨ret', value⟩, u, -, -, hd⟩ := does_bind.1 hd
    dsimp only at hd
    split_ifs at hd <;> rw [(Act.does_return.1 hd).2.1]
  | succ k ih =>
    intro s tr s' ret hd
    obtain ⟨t, ⟨ret', value⟩, u, -, -, hd⟩ := does_bind.1 hd
    dsimp only at hd
    split_ifs at hd
    · rw [(Act.does_return.1 hd).2.1]
    · rw [(Act.does_return.1 hd).2.1]
    · rw [(Act.does_return.1 hd).2.1]
    obtain ⟨d, v, -, hd⟩ := does_ask_bind.1 hd
    split_ifs at hd
    · rw [(Act.does_return.1 hd).2.1]
    · exact ih hd

lemma memSteps_fixes : Act.Fixes MemState.attempted memSteps := by
  have htable : ∀ act : BitVec 32 × BitVec 32 → MemAct,
      (∀ w, Act.Fixes MemState.attempted (act w)) →
        Act.Fixes MemState.attempted (Act.list (words.map act)) := by
    intro act h
    refine Act.Fixes.list fun f hf => ?_
    obtain ⟨w, -, rfl⟩ := List.mem_map.1 hf
    exact h w
  have hset := htable _ fun w => memSet_fixes w.1 w.2
  have hexpect := htable _ fun w => memExpect_fixes w.1 w.2
  have hstep : ∀ step, Act.Fixes MemState.attempted (setStep step) :=
    fun step => Act.Fixes.set fun _ => rfl
  have hdone : Act.Fixes MemState.attempted (Act.set fun s =>
      { s with complete := true, step := "mem-ready-not-endpoint-dma-proof" } : MemAct) :=
    Act.Fixes.set fun _ => rfl
  refine Act.Fixes.list ?_
  simp only [List.forall_mem_cons, List.not_mem_nil, false_imp_iff, implies_true, and_true, hstep,
    memExpect_fixes, memEnable_fixes, memPoll_fixes, true_and]
  exact ⟨hset, hexpect, hexpect, hdone⟩

lemma memPrepare_again (io io' : Option MemIo) (s : Option MemState)
    (h : given io = true ∨ io' = io) (answer answer' : List (Call × Reply) → Call → Reply) :
    ((memPrepare io' ((memPrepare io s).run answer []).2.1).run answer' []).1 = [] := by
  have hd := run_does answer [] (memPrepare io s)
  generalize (memPrepare io s).run answer [] = r at hd ⊢
  obtain ⟨tr, s', ret⟩ := r
  rcases s with - | s
  · simp only [memPrepare, does_pure, Prod.mk.injEq] at hd
    obtain ⟨-, rfl, -⟩ := hd
    rfl
  simp only [memPrepare] at hd
  split_ifs at hd with h₁ h₂
  · simp only [does_pure, Prod.mk.injEq] at hd
    obtain ⟨-, rfl, -⟩ := hd
    obtain rfl : io' = io := h.resolve_left (by simp [h₁])
    simp only [memPrepare, h₁, if_true]
    rfl
  · simp only [does_pure, Prod.mk.injEq] at hd
    obtain ⟨-, rfl, -⟩ := hd
    exact memPrepare_of_attempted h₂ _ _
  · simp only [does_bind, Prod.exists, does_pure, Prod.mk.injEq] at hd
    obtain ⟨t, s₁, ret₁, u, -, ht, -, rfl, -⟩ := hd
    have hs := memSteps_fixes ht
    exact memPrepare_of_attempted (s := { s₁ with error := ret₁ }) hs _ _

/-- The accesses of a conversation determine where its only enable is. -/
lemma Progress.enable_split {pre post : List Access} {v : BitVec 32}
    (h : Progress (pre ++ .put 0x1204 v :: post)) : pre = beforeEnable ∧ puts post = [] := by
  have hput : ∀ a b : List Access, (0x1204, v) ∈ puts (a ++ .put 0x1204 v :: b) := by
    intro a b
    rw [puts_append]
    exact List.mem_append_right _ List.mem_cons_self
  rcases h with h | ⟨rest, heq, hrest⟩
  · have hmem := h.subset (hput pre post)
    have hne : ∀ w ∈ words, w.1 ≠ 0x1204 := by
      simpa using (by decide : words.all (·.1 != 0x1204) = true)
    exact absurd rfl (hne _ hmem)
  rcases List.append_eq_append_iff.1 heq with ⟨a, hbefore, htail⟩ | ⟨a, rfl, htail⟩
  · rcases a with - | ⟨x, a⟩
    · obtain ⟨-, rfl⟩ := List.cons_eq_cons.1 htail
      exact ⟨by simpa using hbefore.symm, hrest⟩
    · -- an enable among the accesses before it
      obtain ⟨rfl, -⟩ := List.cons_eq_cons.1 htail
      have hmem := hput pre a
      rw [← hbefore] at hmem
      have hne : ∀ w ∈ puts beforeEnable, w.1 ≠ 0x1204 := by
        simpa using (by decide : (puts beforeEnable).all (·.1 != 0x1204) = true)
      exact absurd rfl (hne _ hmem)
  · rcases a with - | ⟨x, a⟩
    · obtain ⟨-, rfl⟩ := List.cons_eq_cons.1 htail
      exact ⟨List.append_nil _, hrest⟩
    · -- a write after the enable
      obtain ⟨-, htail⟩ := List.cons_eq_cons.1 htail
      have hmem := hput a post
      rw [← List.append_eq, ← htail, hrest] at hmem
      cases hmem

lemma Progress.puts_prefix {l : List Access} (h : Progress l) :
    puts l <+: words ++ [(0x1204, 0x80000000)] := by
  rcases h with h | ⟨rest, rfl, hrest⟩
  · exact h.trans (List.prefix_append _ _)
  · have hputs : puts (.put 0x1204 0x80000000 :: rest) = (0x1204, 0x80000000) :: puts rest := rfl
    rw [puts_append, hputs, hrest]
    exact List.prefix_rfl

lemma mem_puts {off v : BitVec 32} {c : Reply}
    (h : (.write off v, c) ∈ tr) : (off, v) ∈ puts (accesses tr) :=
  List.mem_filterMap.2 ⟨.put off v, List.mem_filterMap.2 ⟨_, h, rfl⟩, rfl⟩

lemma countP_isWrite (tr : List (Call × Reply)) :
    tr.countP isWrite = (puts (accesses tr)).length := by
  induction tr with
  | nil => rfl
  | cons e tr ih =>
    obtain ⟨q, c⟩ := e
    cases q with
    | check => exact ih
    | delay ms => exact ih
    | write off v => rw [List.countP_cons_of_pos rfl, ih]; rfl
    | read off =>
      rw [List.countP_cons_of_neg (by simp [isWrite]), ih]
      by_cases hc : c.ret = 0
      · simp [accesses, access, hc, puts]
      · simp [accesses, access, hc, puts]

/-- Whatever the device answers, the memory window is programmed, checked and enabled in order, and
only once. -/
theorem memPrepare_safe (io : Option MemIo) (s : Option MemState)
    (answer : List (Call × Reply) → Call → Reply) :
    let r := (memPrepare io s).run answer []
    -- only the eight offsets are written, at most eight times
    (∀ off v c, (.write off v, c) ∈ r.1 → memOffset off = true) ∧
    r.1.countP isWrite ≤ 8 ∧
    -- the enable is written at most once, after all that has to come before it
    (∀ pre v c post, r.1 = pre ++ (.write 0x1204 v, c) :: post →
      accesses pre = beforeEnable ∧ ∀ w c', (.write 0x1204 w, c') ∉ post) ∧
    Guarded r.1 ∧
    (r.2.2 = 0 → ∃ front, accesses r.1 = front ++ finalPass) ∧
    reads r.1 ≤ 29 ∧
    -- a second call on the same state says nothing
    ∀ io' answer', given io = true ∨ io' = io →
      ((memPrepare io' r.2.1).run answer' []).1 = [] := by
  intro r
  obtain ⟨⟨hguard, hprog, hreads⟩, hfinal⟩ := memPrepare_ended io s answer
  refine ⟨?_, ?_, ?_, hguard, hfinal, hreads, fun io' answer' h => memPrepare_again _ _ _ h _ _⟩
  · intro off v c hmem
    have hw := hprog.puts_prefix.subset (mem_puts hmem)
    have hall : ∀ w ∈ words ++ [(0x1204, 0x80000000)], memOffset w.1 = true :=
      List.all_eq_true.1 (by decide)
    exact hall _ hw
  · rw [countP_isWrite]
    exact hprog.puts_prefix.length_le
  · intro pre v c post heq
    have hsplit : accesses r.1 = accesses pre ++ .put 0x1204 v :: accesses post := by
      rw [heq, accesses_append]
      rfl
    rw [hsplit] at hprog
    obtain ⟨hpre, hpost⟩ := hprog.enable_split
    refine ⟨hpre, fun w c' hmem => ?_⟩
    have := mem_puts hmem
    rw [hpost] at this
    cases this

end YogaUsb4.MemWindow
