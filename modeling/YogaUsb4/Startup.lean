import YogaUsb4.Mcu.Drom
import Mathlib.Data.List.Forall2

/-!
The cold start of router 0: a fixed table of operations, run once and in order against callbacks
that may fail at any point.
-/

namespace YogaUsb4.Startup

open Dialog LittleEndian Mcu
open Wire (Byte)

/-! ### The table -/

/-- `enum x1_step`. -/
inductive Step where
  | none | validate | owner
  | phyPrepare
  | rxPrepare | txbPrepare | txaPrepare
  | rxClockReference | miscResetAssert | miscAssertDelay
  | extraResetAssert | dpResetAssert | resetAssertDelay
  | dpResetClear | extraResetClear | resetReleaseDelay
  | miscResetClear | sysReady | rxClockPhy | clear1200c
  | rxActive | txbActive | txaActive
  | set81000 | pipeResetAssert | pipeAssertDelay
  | pipeAssertSettle | set81018 | pipeResetClear
  | pipeReleaseDelay | pipeReleaseSettle | clear81000
  | upload | sysMemoryForce | tcsrRoute | pipeHwcgOff
  | set81004 | timerHigh | timerLow | timer8148
  | timer8144 | drom | phyComposite
  | adapter23 | adapter22 | adapter21
  | clearD0646 | mcuStart | preset
  deriving DecidableEq

inductive Kind where
  | provider | update | delay | releaseDelay | clear1200c
  deriving DecidableEq

structure Operation where
  step : Step
  kind : Kind
  offset : BitVec 32 := 0
  mask : BitVec 32 := 0
  value : BitVec 32 := 0

/-- The macros `P`, `U` and `D`. -/
def P (step : Step) : Operation := { step, kind := .provider }
def U (step : Step) (offset mask value : BitVec 32) : Operation :=
  { step, kind := .update, offset, mask, value }
def D (step : Step) (us : BitVec 32) : Operation := { step, kind := .delay, value := us }

def operations : List Operation := [
  P .phyPrepare,
  P .rxPrepare, P .txbPrepare, P .txaPrepare, P .rxClockReference,
  P .miscResetAssert, D .miscAssertDelay 100,
  P .extraResetAssert, P .dpResetAssert, D .resetAssertDelay 1,
  P .dpResetClear, P .extraResetClear,
  { step := .resetReleaseDelay, kind := .releaseDelay },
  P .miscResetClear, P .sysReady, P .rxClockPhy,
  { step := .clear1200c, kind := .clear1200c },
  P .rxActive, P .txbActive, P .txaActive,
  U .set81000 0x81000 1 1, P .pipeResetAssert,
  D .pipeAssertDelay 1000, D .pipeAssertSettle 100,
  U .set81018 0x81018 1 1, P .pipeResetClear,
  D .pipeReleaseDelay 1000, D .pipeReleaseSettle 100,
  U .clear81000 0x81000 1 0, P .upload, P .sysMemoryForce,
  P .tcsrRoute, P .pipeHwcgOff, U .set81004 0x81004 1 1,
  U .timerHigh 0x80c8 0xffff0000 0x00040000,
  U .timerLow 0x80c8 0xffff 0,
  U .timer8148 0x8148 0xffffffff 250000,
  U .timer8144 0x8144 0xffffffff 4000,
  P .drom, P .phyComposite,
  U .adapter23 0xd000 (1 <<< 23) 0,
  U .adapter22 0xd000 (1 <<< 22) 0,
  U .adapter21 0xd000 (1 <<< 21) 0,
  U .clearD0646 0xd064 (1 <<< 6) 0,
  P .mcuStart, P .preset]

/-! ### Validation -/

/-- `struct x1_config`; the firmware is `firmwareSize` bytes. -/
structure Config where
  firmware : Option (ℕ → BitVec 8)
  firmwareSize : ℕ
  serial : BitVec 32
  router : BitVec 32
  phyRxEq : BitVec 32
  mcuPreset : BitVec 32
  resetReleaseUs : BitVec 32

/-- Which callbacks of `struct x1_ops` are there. -/
structure Ops where
  owner : Bool := true
  step : Bool := true
  read : Bool := true
  update : Bool := true
  delayUs : Bool := true

/-- The loop of `qcom_usb4_fw_validate`. -/
def fwRecords (data : ℕ → BitVec 8) (size ramSize pos : ℕ) : ℤ :=
  if pos < size then
    if size - pos < 8 then -einval
    else
      let offset := (word data pos).toNat
      let words := (word data (pos + 4)).toNat
      if words > (size - (pos + 8)) / 4 then -einval
      else if offset % 4 ≠ 0 then -einval
      else if words * 4 > 0xffffffff - offset then -eoverflow
      else if offset > ramSize || words * 4 > ramSize - offset then -efbig
      else fwRecords data size ramSize (pos + 8 + words * 4)
  else 0
  termination_by size - pos

/-- `qcom_usb4_fw_validate`. -/
def fwValidate (data : Option (ℕ → BitVec 8)) (size ramSize : ℕ) : ℤ :=
  match data with
  | .none => -einval
  | .some data => if size = 0 then -einval else fwRecords data size ramSize 0

variable (crc32c : List Byte → BitVec 32)

/-- `validate`; the descriptor that it builds is dropped. -/
def validate (cfg : Option Config) (ops : Option Ops) : ℤ :=
  match cfg, ops with
  | .some cfg, .some ops =>
    if !(ops.owner && ops.step && ops.read && ops.update && ops.delayUs) then -einval
    else if cfg.serial = 0 || cfg.router ≠ 0 || cfg.phyRxEq ≠ 0x6f || cfg.mcuPreset ≠ 0x0c63 ||
        cfg.resetReleaseUs ≠ 100 then -einval
    else
      let ret := (x1DromBuild crc32c (List.replicate dromSize 0) cfg.serial 0).2
      if ret ≠ 0 then ret else fwValidate cfg.firmware cfg.firmwareSize 0xf000
  | _, _ => -einval

/-! ### The run -/

/-- The callbacks of `struct x1_ops`. -/
inductive Call where
  | owner
  | step (step : Step)
  | read (offset : BitVec 32)
  | update (offset mask value : BitVec 32)
  | delay (us : BitVec 32)
  deriving DecidableEq

/-- What a callback returns, and the value that a `read` stores. -/
structure Reply where
  ret : ℤ
  value : BitVec 32 := 0

/-- `enum x1_phase`. -/
inductive Phase where
  | new | running | failed | complete
  deriving DecidableEq

structure X1State where
  phase : Phase := .new
  active : Step := .none
  completed : Step := .none
  error : ℤ := 0

abbrev StartAct := Act Call Reply X1State

/-- `1U << 31`. -/
def bit31 : BitVec 32 := 1#32 <<< 31

/-- `clear_1200c` when it may try `n` times more. -/
def clear1200c : ℕ → Dialog Call Reply ℤ
  | 0 => do
    let r ← ask (.read 0x1200c)
    if r.ret ≠ 0 then return r.ret
    if r.value &&& bit31 = 0 then
      let _ ← ask (.delay 10000)
      return 0
    return -etimedout
  | n + 1 => do
    let r ← ask (.read 0x1200c)
    if r.ret ≠ 0 then return r.ret
    if r.value &&& bit31 = 0 then
      let _ ← ask (.delay 10000)
      return 0
    let u ← ask (.update 0x1200c bit31 0)
    if u.ret ≠ 0 then return u.ret
    let _ ← ask (.delay 1)
    clear1200c n

/-- `execute`; `us` is the configured release delay. -/
def execute (us : BitVec 32) (op : Operation) : Dialog Call Reply ℤ :=
  match op.kind with
  | .provider => do return (← ask (.step op.step)).ret
  | .update => do return (← ask (.update op.offset op.mask op.value)).ret
  | .delay => do
    let _ ← ask (.delay op.value)
    return 0
  | .releaseDelay => do
    let _ ← ask (.delay us)
    return 0
  | .clear1200c => clear1200c 11

/-- What `x1_startup_run` does around each step: the step is active, and completed if it works. -/
def track (step : Step) (d : Dialog Call Reply ℤ) : StartAct := fun s => do
  let s := { s with active := step }
  let ret ← d
  if ret ≠ 0 then return (s, ret)
  return ({ s with completed := s.active }, 0)

def releaseUs (cfg : Option Config) : BitVec 32 := cfg.elim 0 Config.resetReleaseUs

/-- `x1_startup_run` up to its `fail` label. -/
def startupSteps (cfg : Option Config) (ops : Option Ops) : StartAct :=
  Act.list [
    track .validate (pure (validate crc32c cfg ops)),
    track .owner do return (← ask .owner).ret,
    Act.list (operations.map fun op => track op.step (execute (releaseUs cfg) op))]

/-- `ret < 0 ? ret : -EPROTO`. -/
def negative (e : ℤ) : ℤ := if e < 0 then e else -eproto

/-- `x1_startup_run`; a missing `state` has no state. -/
def startupRun (cfg : Option Config) (ops : Option Ops) : Act Call Reply (Option X1State)
  | .none => pure (.none, -einval)
  | .some s => do
    if s.phase ≠ .new then
      return (.some s, if s.phase = .running then -ebusy else -ealready)
    let s := { phase := .running, active := .validate, completed := .none, error := 0 }
    let (s, ret) ← startupSteps crc32c cfg ops s
    if ret ≠ 0 then
      return (.some { s with error := negative ret, phase := .failed }, negative ret)
    return (.some { s with active := .none, phase := .complete }, 0)

variable {crc32c}

/-! ### What an entry performs -/

/-- One try to clear bit 31: it was set, and the update worked. -/
def Round (t : List (Call × Reply)) : Prop :=
  ∃ r u d, r.ret = 0 ∧ r.value &&& bit31 ≠ 0 ∧ u.ret = 0 ∧
    t = [(.read 0x1200c, r), (.update 0x1200c bit31 0, u), (.delay 1, d)]

/-- At most `n` rounds, and the bit is clear. -/
inductive Clears (n : ℕ) : List (Call × Reply) → Prop
  | mk (rounds : List (List (Call × Reply))) (hn : rounds.length ≤ n) (hr : ∀ x ∈ rounds, Round x)
      (r d : Reply) (h0 : r.ret = 0) (hbit : r.value &&& bit31 = 0) :
      Clears n (rounds.flatten ++ [(.read 0x1200c, r), (.delay 10000, d)])

/-- At most `n` rounds, and then a callback fails or the bit is still set. -/
inductive ClearStops (n : ℕ) : List (Call × Reply) → ℤ → Prop
  | read (rounds : List (List (Call × Reply))) (hn : rounds.length ≤ n) (hr : ∀ x ∈ rounds, Round x)
      (r : Reply) (h0 : r.ret ≠ 0) :
      ClearStops n (rounds.flatten ++ [(.read 0x1200c, r)]) r.ret
  | update (rounds : List (List (Call × Reply))) (hn : rounds.length < n)
      (hr : ∀ x ∈ rounds, Round x) (r u : Reply) (h0 : r.ret = 0)
      (hbit : r.value &&& bit31 ≠ 0) (hu : u.ret ≠ 0) :
      ClearStops n (rounds.flatten ++
        [(.read 0x1200c, r), (.update 0x1200c bit31 0, u)]) u.ret
  | timeout (rounds : List (List (Call × Reply))) (hn : rounds.length = n)
      (hr : ∀ x ∈ rounds, Round x) (r : Reply) (h0 : r.ret = 0)
      (hbit : r.value &&& bit31 ≠ 0) :
      ClearStops n (rounds.flatten ++ [(.read 0x1200c, r)]) (-etimedout)

/-- The entry is fully performed by these callbacks. -/
def Performs (us : BitVec 32) (op : Operation) (t : List (Call × Reply)) : Prop :=
  match op.kind with
  | .provider => ∃ r : Reply, r.ret = 0 ∧ t = [(.step op.step, r)]
  | .update => ∃ r : Reply, r.ret = 0 ∧ t = [(.update op.offset op.mask op.value, r)]
  | .delay => ∃ r : Reply, t = [(.delay op.value, r)]
  | .releaseDelay => ∃ r : Reply, t = [(.delay us, r)]
  | .clear1200c => Clears 11 t

/-- The entry performs these callbacks and stops with an error. -/
def Stops (op : Operation) (t : List (Call × Reply)) (e : ℤ) : Prop :=
  match op.kind with
  | .provider => ∃ r : Reply, r.ret = e ∧ e ≠ 0 ∧ t = [(.step op.step, r)]
  | .update => ∃ r : Reply, r.ret = e ∧ e ≠ 0 ∧ t = [(.update op.offset op.mask op.value, r)]
  | .delay | .releaseDelay => False
  | .clear1200c => ClearStops 11 t e

variable {n : ℕ}

lemma Clears.round {t x : List (Call × Reply)} (hx : Round x) (h : Clears n t) :
    Clears (n + 1) (x ++ t) := by
  obtain ⟨rounds, hn, hr, r, d, h0, hbit⟩ := h
  have := Clears.mk (n := n + 1) (x :: rounds) (by simpa using hn)
    (List.forall_mem_cons.2 ⟨hx, hr⟩) r d h0 hbit
  simpa using this

variable {e : ℤ}

lemma ClearStops.round {t x : List (Call × Reply)} (hx : Round x)
    (h : ClearStops n t e) : ClearStops (n + 1) (x ++ t) e := by
  cases h with
  | read rounds hn hr r h0 =>
    have := ClearStops.read (n := n + 1) (x :: rounds) (by simpa using hn)
      (List.forall_mem_cons.2 ⟨hx, hr⟩) r h0
    simpa using this
  | update rounds hn hr r u h0 hbit hu =>
    have := ClearStops.update (n := n + 1) (x :: rounds) (by simpa using hn)
      (List.forall_mem_cons.2 ⟨hx, hr⟩) r u h0 hbit hu
    simpa using this
  | timeout rounds hn hr r h0 hbit =>
    have := ClearStops.timeout (n := n + 1) (x :: rounds) (by simpa using hn)
      (List.forall_mem_cons.2 ⟨hx, hr⟩) r h0 hbit
    simpa using this

variable {t : List (Call × Reply)}

lemma clear1200c_does (h : Does (clear1200c n) t e) :
    (e = 0 ∧ Clears n t) ∨ ClearStops n t e := by
  induction n generalizing t with
  | zero =>
    obtain ⟨r, u, rfl, h₁⟩ := does_ask_bind.1 h
    split_ifs at h₁ with h0 hbit
    · obtain ⟨rfl, rfl⟩ := does_pure.1 h₁
      exact .inr (.read [] (Nat.le_refl 0) (by simp) r h0)
    · obtain ⟨d, v, rfl, h₂⟩ := does_ask_bind.1 h₁
      obtain ⟨rfl, rfl⟩ := does_pure.1 h₂
      exact .inl ⟨rfl, .mk [] (Nat.le_refl 0) (by simp) r d (not_not.1 h0) hbit⟩
    · obtain ⟨rfl, rfl⟩ := does_pure.1 h₁
      exact .inr (.timeout [] rfl (by simp) r (not_not.1 h0) hbit)
  | succ n ih =>
    obtain ⟨r, u, rfl, h₁⟩ := does_ask_bind.1 h
    split_ifs at h₁ with h0 hbit
    · obtain ⟨rfl, rfl⟩ := does_pure.1 h₁
      exact .inr (.read [] (Nat.zero_le _) (by simp) r h0)
    · obtain ⟨d, v, rfl, h₂⟩ := does_ask_bind.1 h₁
      obtain ⟨rfl, rfl⟩ := does_pure.1 h₂
      exact .inl ⟨rfl, .mk [] (Nat.zero_le _) (by simp) r d (not_not.1 h0) hbit⟩
    · obtain ⟨c, v, rfl, h₂⟩ := does_ask_bind.1 h₁
      split_ifs at h₂ with hu
      · obtain ⟨rfl, rfl⟩ := does_pure.1 h₂
        exact .inr (.update [] (Nat.succ_pos n) (by simp) r c (not_not.1 h0) hbit hu)
      · obtain ⟨d, w, rfl, h₃⟩ := does_ask_bind.1 h₂
        -- A round that cleared and waited: the rest has one try less.
        have hround : Round
            [(.read 0x1200c, r), (.update 0x1200c bit31 0, c), (.delay 1, d)] :=
          ⟨r, c, d, not_not.1 h0, hbit, not_not.1 hu, rfl⟩
        rcases ih h₃ with ⟨rfl, hc⟩ | hs
        · exact .inl ⟨rfl, hc.round hround⟩
        · exact .inr (hs.round hround)

lemma ClearStops.ne_zero (h : ClearStops n t e) :
    e ≠ 0 := by
  cases h with
  | read _ _ _ _ h0 => exact h0
  | update _ _ _ _ _ _ _ hu => exact hu
  | timeout => decide

variable {us : BitVec 32} {op : Operation}

lemma execute_does
    (h : Does (execute us op) t e) : (e = 0 → Performs us op t) ∧ (e ≠ 0 → Stops op t e) := by
  unfold execute at h
  unfold Performs Stops
  cases hk : op.kind with
  | provider =>
    simp only [hk] at h ⊢
    obtain ⟨r, u, rfl, h₁⟩ := does_ask_bind.1 h
    obtain ⟨rfl, rfl⟩ := does_pure.1 h₁
    exact ⟨fun h0 => ⟨r, h0, rfl⟩, fun h0 => ⟨r, rfl, h0, rfl⟩⟩
  | update =>
    simp only [hk] at h ⊢
    obtain ⟨r, u, rfl, h₁⟩ := does_ask_bind.1 h
    obtain ⟨rfl, rfl⟩ := does_pure.1 h₁
    exact ⟨fun h0 => ⟨r, h0, rfl⟩, fun h0 => ⟨r, rfl, h0, rfl⟩⟩
  | delay =>
    simp only [hk] at h ⊢
    obtain ⟨r, u, rfl, h₁⟩ := does_ask_bind.1 h
    obtain ⟨rfl, rfl⟩ := does_pure.1 h₁
    exact ⟨fun _ => ⟨r, rfl⟩, fun h0 => h0 rfl⟩
  | releaseDelay =>
    simp only [hk] at h ⊢
    obtain ⟨r, u, rfl, h₁⟩ := does_ask_bind.1 h
    obtain ⟨rfl, rfl⟩ := does_pure.1 h₁
    exact ⟨fun _ => ⟨r, rfl⟩, fun h0 => h0 rfl⟩
  | clear1200c =>
    simp only [hk] at h ⊢
    rcases clear1200c_does h with ⟨rfl, hc⟩ | hs
    · exact ⟨fun _ => hc, fun h0 => absurd rfl h0⟩
    · exact ⟨fun h0 => absurd h0 hs.ne_zero, fun _ => hs⟩

lemma Clears.does (h : Clears n t) : Does (clear1200c n) t 0 := by
  obtain ⟨rounds, hn, hr, r, d, h0, hbit⟩ := h
  induction rounds generalizing n with
  | nil =>
    cases n with
    | zero => simp [clear1200c, h0, hbit]
    | succ n => simp [clear1200c, h0, hbit]
  | cons x rounds ih =>
    obtain ⟨⟨r', u', d', hr0, hset, hu, rfl⟩, hrest⟩ := List.forall_mem_cons.1 hr
    cases n with
    | zero => simp at hn
    | succ n =>
      have hloop := ih (n := n) (by simpa using hn) hrest
      rw [List.flatten_cons, List.append_assoc]
      refine does_ask_bind.2 ⟨r', _, rfl, ?_⟩
      rw [if_neg (not_not.2 hr0), if_neg hset]
      refine does_ask_bind.2 ⟨u', _, rfl, ?_⟩
      rw [if_neg (not_not.2 hu)]
      exact does_ask_bind.2 ⟨d', _, rfl, hloop⟩

lemma Performs.does
    (h : Performs us op t) : Does (execute us op) t 0 := by
  unfold Performs at h
  unfold execute
  cases hk : op.kind with
  | provider =>
    simp only [hk] at h ⊢
    obtain ⟨r, h0, rfl⟩ := h
    simp [h0]
  | update =>
    simp only [hk] at h ⊢
    obtain ⟨r, h0, rfl⟩ := h
    simp [h0]
  | delay =>
    simp only [hk] at h ⊢
    obtain ⟨r, rfl⟩ := h
    simp
  | releaseDelay =>
    simp only [hk] at h ⊢
    obtain ⟨r, rfl⟩ := h
    simp
  | clear1200c =>
    simp only [hk] at h ⊢
    exact h.does

/-! ### Runs of the table -/

def lastStep (done : List Operation) : Step := (done.getLast?.map Operation.step).getD .owner

@[simp] lemma lastStep_append (done : List Operation) (op : Operation) :
    lastStep (done ++ [op]) = op.step := by
  simp [lastStep]

/-- How the steps can fail: by the validation's result `v`, by the owner check, or at an entry of
the table when all entries before it are done. -/
inductive Fails (us : BitVec 32) (v : ℤ) : List (Call × Reply) → X1State → ℤ → Prop
  | validate (hv : v ≠ 0) :
      Fails us v [] { phase := .running, active := .validate, completed := .none } v
  | owner (hv : v = 0) (c : Reply) (hc : c.ret ≠ 0) :
      Fails us v [(.owner, c)] { phase := .running, active := .owner, completed := .validate } c.ret
  | entry (hv : v = 0) (c : Reply) (hc : c.ret = 0) (done : List Operation) (op : Operation)
      (rest : List Operation) (htable : operations = done ++ op :: rest)
      (ts : List (List (Call × Reply))) (hdone : List.Forall₂ (Performs us) done ts)
      (t : List (Call × Reply)) (e : ℤ) (he : e ≠ 0) (hstop : Stops op t e) :
      Fails us v ((.owner, c) :: (ts.flatten ++ t))
        { phase := .running, active := op.step, completed := lastStep done } e

/-- The owner check and these entries are done. -/
def DoneTo (us : BitVec 32) (done : List Operation) (past : List (Call × Reply)) (s : X1State) :
    Prop :=
  ∃ c ts, c.ret = 0 ∧ List.Forall₂ (Performs us) done ts ∧ past = (.owner, c) :: ts.flatten ∧
    s = { phase := .running, active := lastStep done, completed := lastStep done }

variable {tr : List (Call × Reply)}

variable {ret : ℤ}

lemma track_does {step : Step} {d : Dialog Call Reply ℤ} {s s' : X1State}
    (h : Does (track step d s) tr (s', ret)) :
    Does d tr ret ∧ (ret = 0 → s' = { s with active := step, completed := step }) ∧
      (ret ≠ 0 → s' = { s with active := step }) := by
  obtain ⟨t, e, u, rfl, ht, hu⟩ := does_bind.1 h
  split_ifs at hu with h0
  · obtain ⟨rfl, rfl, rfl⟩ := Act.does_return.1 hu
    rw [List.append_nil]
    exact ⟨ht, fun h => absurd h h0, fun _ => rfl⟩
  · obtain ⟨rfl, rfl, rfl⟩ := Act.does_return.1 hu
    obtain rfl : e = 0 := not_not.1 h0
    rw [List.append_nil]
    exact ⟨ht, fun _ => rfl, fun h => absurd rfl h⟩

lemma entry_meets {v : ℤ} (hv : v = 0) {done rest : List Operation}
    (htable : operations = done ++ op :: rest) :
    Act.Meets (DoneTo us done) (track op.step (execute us op)) (DoneTo us (done ++ [op]))
      (Fails us v) := by
  rintro past s ⟨c, ts, hc, hdone, rfl, rfl⟩ tr s' ret hd
  obtain ⟨hx, hok, hfail⟩ := track_does hd
  obtain ⟨hperf, hstop⟩ := execute_does hx
  constructor
  · intro h0
    refine ⟨c, ts ++ [tr], hc, ?_, by simp, by rw [hok h0, lastStep_append]⟩
    exact List.rel_append hdone (.cons (hperf h0) .nil)
  · intro h0
    rw [hfail h0]
    exact .entry hv c hc done op rest htable ts hdone tr ret h0 (hstop h0)

lemma startupSteps_meets (cfg : Option Config) (ops : Option Ops) :
    Act.Meets (fun past s => past = [] ∧ s = { phase := .running, active := .validate })
      (startupSteps crc32c cfg ops)
      (fun past s => validate crc32c cfg ops = 0 ∧
        DoneTo (releaseUs cfg) operations past s)
      (Fails (releaseUs cfg) (validate crc32c cfg ops)) := by
  set us := releaseUs cfg with hus
  refine Act.Meets.cons (R := fun past s => validate crc32c cfg ops = 0 ∧ past = [] ∧
    s = { phase := .running, active := .validate, completed := .validate }) ?_ ?_
  · rintro past s ⟨rfl, rfl⟩ tr s' ret hd
    obtain ⟨hx, hok, hfail⟩ := track_does hd
    obtain ⟨rfl, rfl⟩ := does_pure.1 hx
    refine ⟨fun h0 => ⟨h0, rfl, hok h0⟩, fun h0 => ?_⟩
    rw [hfail h0]
    exact .validate h0
  by_cases hv : validate crc32c cfg ops = 0
  swap
  · rintro past s ⟨h, -⟩
    exact absurd h hv
  refine Act.Meets.cons (R := DoneTo us []) ?_ ?_
  · rintro past s ⟨-, rfl, rfl⟩ tr s' ret hd
    obtain ⟨hx, hok, hfail⟩ := track_does hd
    obtain ⟨c, u, rfl, hu⟩ := does_ask_bind.1 hx
    obtain ⟨rfl, rfl⟩ := does_pure.1 hu
    refine ⟨fun h0 => ⟨c, [], h0, .nil, rfl, hok h0⟩, fun h0 => ?_⟩
    rw [hfail h0]
    exact .owner hv c h0
  refine Act.Meets.cons (R := DoneTo us operations) ?_ ?_
  · exact Act.Meets.table _ (DoneTo us) operations fun done op rest h => entry_meets hv h
  · exact Act.Meets.nil.conseq (fun _ _ h => h) (fun _ _ h => ⟨hv, h⟩) (fun _ _ _ h => h)

/-! ### The whole run -/

lemma negative_neg (e : ℤ) : negative e < 0 := by
  unfold negative eproto
  split <;> omega

/-- How a run on a new state ends. -/
inductive Outcome (us : BitVec 32) (v : ℤ) : List (Call × Reply) → X1State → ℤ → Prop
  | failed {tr : List (Call × Reply)} {s : X1State} {e : ℤ} (h : Fails us v tr s e) :
      Outcome us v tr { s with error := negative e, phase := .failed } (negative e)
  | complete (hv : v = 0) (c : Reply) (hc : c.ret = 0) (ts : List (List (Call × Reply)))
      (h : List.Forall₂ (Performs us) operations ts) :
      Outcome us v ((.owner, c) :: ts.flatten)
        { phase := .complete, active := .none, completed := lastStep operations } 0

variable {cfg : Option Config} {s : X1State}

lemma startupRun_new {ops : Option Ops} (hs : s.phase = .new)
    {s' : Option X1State} (h : Does (startupRun crc32c cfg ops (.some s)) tr (s', ret)) :
    ∃ t, s' = .some t ∧ Outcome (releaseUs cfg) (validate crc32c cfg ops) tr t ret := by
  simp only [startupRun, hs, ne_eq, not_true_eq_false, if_false] at h
  obtain ⟨t, ⟨s₁, e⟩, u, rfl, ht, hu⟩ := does_bind.1 h
  obtain ⟨hok, hfail⟩ := startupSteps_meets cfg ops ⟨rfl, rfl⟩ ht
  by_cases h0 : e = 0
  swap
  · simp only [h0, not_false_eq_true, if_true] at hu
    obtain ⟨rfl, rfl, rfl⟩ := Act.does_return.1 hu
    rw [List.append_nil]
    exact ⟨_, rfl, .failed (hfail h0)⟩
  · simp only [h0, not_true_eq_false, if_false] at hu
    obtain ⟨rfl, rfl, rfl⟩ := Act.does_return.1 hu
    obtain ⟨hv, c, ts, hc, hdone, htr, rfl⟩ := hok h0
    rw [List.append_nil]
    obtain rfl : t = (.owner, c) :: ts.flatten := htr
    exact ⟨_, rfl, .complete hv c hc ts hdone⟩

def IsNew (s : Option X1State) : Prop := ∃ s₀, s = .some s₀ ∧ s₀.phase = .new

lemma startupRun_of_not_isNew {ops : Option Ops} {s s' : Option X1State} (hs : ¬ IsNew s)
    (h : Does (startupRun crc32c cfg ops s) tr (s', ret)) : tr = [] ∧ s' = s ∧ ret < 0 := by
  rcases s with - | s
  · obtain ⟨rfl, rfl, rfl⟩ := Act.does_return.1 h
    exact ⟨rfl, rfl, by decide⟩
  · have hphase : s.phase ≠ .new := fun h => hs ⟨s, rfl, h⟩
    simp only [startupRun, ne_eq, hphase, not_false_eq_true, if_true] at h
    obtain ⟨rfl, rfl, rfl⟩ := Act.does_return.1 h
    refine ⟨rfl, rfl, ?_⟩
    split <;> decide

section

variable {us : BitVec 32} {v : ℤ} {tr : List (Call × Reply)} {s : X1State} {ret : ℤ}

lemma Outcome.of_validate_ne (h : Outcome us v tr s ret) (hv : v ≠ 0) : tr = [] := by
  cases h with
  | failed h =>
    cases h with
    | validate => rfl
    | owner h0 => exact absurd h0 hv
    | entry h0 => exact absurd h0 hv
  | complete h0 => exact absurd h0 hv

lemma Outcome.phase_ne (h : Outcome us v tr s ret) : s.phase ≠ .new := by
  cases h <;> exact Phase.noConfusion

lemma Outcome.neg (h : Outcome us v tr s ret) (h0 : ret ≠ 0) : ret < 0 := by
  cases h with
  | failed h => exact negative_neg _
  | complete => exact absurd rfl h0

lemma Outcome.performed (h : Outcome us v tr s ret) (h0 : ret = 0) :
    ∃ c ts, c.ret = 0 ∧ List.Forall₂ (Performs us) operations ts ∧
      tr = (.owner, c) :: ts.flatten := by
  cases h with
  | failed h => exact absurd h0 (Int.ne_of_lt (negative_neg _))
  | complete _ c hc ts hts => exact ⟨c, ts, hc, hts, rfl⟩

end

/-! ### The whole table -/

lemma track_does_ok (step : Step) {d : Dialog Call Reply ℤ} (h : Does d t 0) (s : X1State) :
    Does (track step d s) t ({ s with active := step, completed := step }, 0) :=
  does_bind.2 ⟨t, 0, [], (List.append_nil t).symm, h, by simp⟩

variable {ts : List (List (Call × Reply))}

variable {l : List Operation}

lemma table_does (h : List.Forall₂ (Performs us) l ts) (s : X1State) :
    ∃ s', Does (Act.list (l.map fun op => track op.step (execute us op)) s) ts.flatten (s', 0) := by
  induction h generalizing s with
  | nil => exact ⟨s, Act.does_nil⟩
  | cons hop _ ih =>
    obtain ⟨s', hs'⟩ := ih _
    exact ⟨s', Act.does_cons (track_does_ok _ hop.does s) hs'⟩

lemma startupRun_does {ops : Option Ops} (hs : s.phase = .new)
    (hv : validate crc32c cfg ops = 0) {c : Reply} (hc : c.ret = 0)
    (h : List.Forall₂ (Performs (releaseUs cfg)) operations ts) :
    ∃ s', Does (startupRun crc32c cfg ops (.some s)) ((.owner, c) :: ts.flatten) (s', 0) := by
  have hvalid : Does (pure (validate crc32c cfg ops) : Dialog Call Reply ℤ) [] 0 := by simp [hv]
  have howner : Does (do return (← ask .owner).ret : Dialog Call Reply ℤ) [(.owner, c)] 0 := by
    simp [hc]
  obtain ⟨s', htable⟩ := table_does h
    { phase := .running, active := .owner, completed := .owner, error := 0 }
  have hlast := Act.does_cons htable Act.does_nil
  rw [List.append_nil] at hlast
  have hsteps := Act.does_cons (track_does_ok .validate hvalid
    { phase := .running, active := .validate, completed := .none, error := 0 })
    (Act.does_cons (track_does_ok .owner howner _) hlast)
  simp only [startupRun, hs, ne_eq, not_true_eq_false, if_false]
  exact ⟨.some { s' with active := .none, phase := .complete },
    does_bind.2 ⟨_, _, [], (List.append_nil _).symm, hsteps, by simp⟩⟩

/-! ### Failing callbacks -/

/-- A callback that fails; a delay cannot. -/
def Failed (e : Call × Reply) : Prop := (∀ us, e.1 ≠ .delay us) ∧ e.2.ret ≠ 0

lemma Round.ok {x : List (Call × Reply)} (h : Round x) : ∀ e ∈ x, ¬ Failed e := by
  obtain ⟨r, u, d, hr, -, hu, rfl⟩ := h
  simp [Failed, hr, hu]

lemma rounds_ok {rounds : List (List (Call × Reply))} (h : ∀ x ∈ rounds, Round x) :
    ∀ e ∈ rounds.flatten, ¬ Failed e := by
  intro e he
  obtain ⟨x, hx, hex⟩ := List.mem_flatten.1 he
  exact (h x hx).ok e hex

lemma Performs.ok
    (h : Performs us op t) : ∀ e ∈ t, ¬ Failed e := by
  unfold Performs at h
  cases hk : op.kind with
  | provider =>
    simp only [hk] at h
    obtain ⟨r, h0, rfl⟩ := h
    simp [Failed, h0]
  | update =>
    simp only [hk] at h
    obtain ⟨r, h0, rfl⟩ := h
    simp [Failed, h0]
  | delay =>
    simp only [hk] at h
    obtain ⟨r, rfl⟩ := h
    simp [Failed]
  | releaseDelay =>
    simp only [hk] at h
    obtain ⟨r, rfl⟩ := h
    simp [Failed]
  | clear1200c =>
    simp only [hk] at h
    obtain ⟨rounds, -, hr, r, d, h0, -⟩ := h
    intro e he
    rw [List.mem_append, List.mem_pair] at he
    rcases he with he | rfl | rfl
    · exact rounds_ok hr e he
    · simp [Failed, h0]
    · simp [Failed]

def LastFails (t : List (Call × Reply)) : Prop :=
  ∃ t₀ e, t = t₀ ++ [e] ∧ ∀ x ∈ t₀, ¬ Failed x

lemma Stops.last (h : Stops op t e) :
    LastFails t := by
  unfold Stops at h
  cases hk : op.kind with
  | provider =>
    simp only [hk] at h
    obtain ⟨r, -, -, rfl⟩ := h
    exact ⟨[], _, rfl, by simp⟩
  | update =>
    simp only [hk] at h
    obtain ⟨r, -, -, rfl⟩ := h
    exact ⟨[], _, rfl, by simp⟩
  | delay => simp [hk] at h
  | releaseDelay => simp [hk] at h
  | clear1200c =>
    simp only [hk] at h
    cases h with
    | read rounds _ hr r _ => exact ⟨_, _, rfl, rounds_ok hr⟩
    | timeout rounds _ hr r _ _ => exact ⟨_, _, rfl, rounds_ok hr⟩
    | update rounds _ hr r u h0 _ _ =>
      refine ⟨rounds.flatten ++ [(.read 0x1200c, r)], (.update 0x1200c bit31 0, u), by simp, ?_⟩
      intro x hx
      rcases List.mem_append.1 hx with hx | hx
      · exact rounds_ok hr x hx
      · obtain rfl := List.mem_singleton.1 hx
        simp [Failed, h0]

lemma LastFails.after (h : LastFails t) {t₀ : List (Call × Reply)}
    (h₀ : ∀ x ∈ t₀, ¬ Failed x) : LastFails (t₀ ++ t) := by
  obtain ⟨t₁, e, rfl, h₁⟩ := h
  refine ⟨t₀ ++ t₁, e, by rw [List.append_assoc], ?_⟩
  intro x hx
  exact (List.mem_append.1 hx).elim (h₀ x) (h₁ x)

lemma LastFails.post_nil (h : LastFails t)
    {pre post : List (Call × Reply)} {e : Call × Reply} (heq : t = pre ++ e :: post)
    (he : Failed e) : post = [] := by
  obtain ⟨t₀, x, rfl, h₀⟩ := h
  rcases List.eq_nil_or_concat post with rfl | ⟨post', y, rfl⟩
  · rfl
  · exfalso
    have heq' : t₀ ++ [x] = (pre ++ e :: post') ++ [y] := by simpa using heq
    obtain ⟨rfl, -⟩ := List.append_inj' heq' rfl
    exact h₀ e (by simp) he

lemma performs_ok
    (h : List.Forall₂ (Performs us) l ts) : ∀ e ∈ ts.flatten, ¬ Failed e := by
  induction h with
  | nil => simp
  | cons hop _ ih =>
    intro e he
    rcases List.mem_append.1 he with he | he
    · exact hop.ok e he
    · exact ih e he

lemma Outcome.post_nil {v : ℤ}
    (h : Outcome us v tr s ret) {pre post : List (Call × Reply)} {e : Call × Reply}
    (heq : tr = pre ++ e :: post) (he : Failed e) : post = [] := by
  have howner : ∀ {c : Reply}, c.ret = 0 → ∀ x ∈ [(Call.owner, c)], ¬ Failed x := by
    intro c hc x hx
    obtain rfl := List.mem_singleton.1 hx
    simp [Failed, hc]
  cases h with
  | failed h =>
    cases h with
    | validate => simp at heq
    | owner _ c _ => exact LastFails.post_nil ⟨[], _, rfl, by simp⟩ heq he
    | entry _ c hc done op rest htable ts hdone t e' _ hstop =>
      exact LastFails.post_nil ((hstop.last.after (performs_ok hdone)).after (howner hc)) heq he
  | complete _ c hc ts hdone =>
    have hmem : e ∈ (Call.owner, c) :: ts.flatten := by
      rw [heq]
      simp
    rcases List.mem_cons.1 hmem with hx | hx
    · exact absurd he (howner hc e (by simp [hx]))
    · exact absurd he (performs_ok hdone e hx)

/-! ### Reads and updates of the polling loop -/

def isRead : Call × Reply → Bool
  | (.read _, _) => true
  | _ => false

/-- An update of the polled register. -/
def isClear : Call × Reply → Bool
  | (.update offset _ _, _) => offset = 0x1200c
  | _ => false

def clears (op : Operation) : Bool := op.kind = .clear1200c

lemma countP_rounds {p : Call × Reply → Bool} (hp : ∀ x, Round x → x.countP p = 1)
    {rounds : List (List (Call × Reply))} (hr : ∀ x ∈ rounds, Round x) (t : List (Call × Reply)) :
    (rounds.flatten ++ t).countP p = rounds.length + t.countP p := by
  induction rounds with
  | nil => simp
  | cons x rounds ih =>
    obtain ⟨hx, hrest⟩ := List.forall_mem_cons.1 hr
    rw [List.flatten_cons, List.append_assoc, List.countP_append, hp x hx, ih hrest,
      List.length_cons]
    omega

lemma round_isRead (x : List (Call × Reply)) (h : Round x) : x.countP isRead = 1 := by
  obtain ⟨r, u, d, -, -, -, rfl⟩ := h
  rfl

lemma round_isClear (x : List (Call × Reply)) (h : Round x) : x.countP isClear = 1 := by
  obtain ⟨r, u, d, -, -, -, rfl⟩ := h
  rfl

/-- An entry of the table, performed or stopped. -/
def Entered (us : BitVec 32) (op : Operation) (t : List (Call × Reply)) : Prop :=
  Performs us op t ∨ ∃ e, Stops op t e

lemma Entered.countP_le
    (h : Entered us op t) (hop : op.kind = .update → op.offset ≠ 0x1200c) :
    t.countP isRead ≤ 12 * [op].countP clears ∧ t.countP isClear ≤ 11 * [op].countP clears := by
  unfold Entered Performs Stops at h
  cases hk : op.kind with
  | provider =>
    simp only [hk] at h
    rcases h with ⟨r, -, rfl⟩ | ⟨e, r, -, -, rfl⟩ <;> simp [isRead, isClear]
  | update =>
    simp only [hk] at h
    have hne : ∀ r, isClear (.update op.offset op.mask op.value, r) = false :=
      fun r => decide_eq_false (hop hk)
    rcases h with ⟨r, -, rfl⟩ | ⟨e, r, -, -, rfl⟩ <;> simp [isRead, hne]
  | delay =>
    simp only [hk] at h
    rcases h with ⟨r, rfl⟩ | ⟨e, h⟩
    · simp [isRead, isClear]
    · exact h.elim
  | releaseDelay =>
    simp only [hk] at h
    rcases h with ⟨r, rfl⟩ | ⟨e, h⟩
    · simp [isRead, isClear]
    · exact h.elim
  | clear1200c =>
    simp only [hk] at h
    -- Each round reads and clears once; the last read clears nothing.
    have hone : [op].countP clears = 1 := by simp [clears, hk]
    rw [hone]
    rcases h with ⟨rounds, hn, hr, r, d, -, -⟩ | ⟨e, h⟩
    · have h₁ := countP_rounds round_isRead hr [(.read 0x1200c, r), (.delay 10000, d)]
      have h₂ := countP_rounds round_isClear hr [(.read 0x1200c, r), (.delay 10000, d)]
      change _ = rounds.length + 1 at h₁
      change _ = rounds.length + 0 at h₂
      omega
    · cases h with
      | read rounds hn hr r _ | timeout rounds hn hr r _ _ =>
        have h₁ := countP_rounds round_isRead hr [(.read 0x1200c, r)]
        have h₂ := countP_rounds round_isClear hr [(.read 0x1200c, r)]
        change _ = rounds.length + 1 at h₁
        change _ = rounds.length + 0 at h₂
        omega
      | update rounds hn hr r u _ _ _ =>
        have h₁ := countP_rounds round_isRead hr
          [(.read 0x1200c, r), (.update 0x1200c bit31 0, u)]
        have h₂ := countP_rounds round_isClear hr
          [(.read 0x1200c, r), (.update 0x1200c bit31 0, u)]
        change _ = rounds.length + 1 at h₁
        change _ = rounds.length + 1 at h₂
        omega

lemma performs_countP_le
    (h : List.Forall₂ (Performs us) l ts) (hl : ∀ op ∈ l, op.kind = .update → op.offset ≠ 0x1200c) :
    ts.flatten.countP isRead ≤ 12 * l.countP clears ∧
      ts.flatten.countP isClear ≤ 11 * l.countP clears := by
  induction h with
  | nil => simp
  | @cons op t l ts hop _ ih =>
    obtain ⟨h₀, hrest⟩ := List.forall_mem_cons.1 hl
    obtain ⟨h₁, h₂⟩ := ih hrest
    obtain ⟨h₃, h₄⟩ := Entered.countP_le (.inl hop) h₀
    rw [List.flatten_cons, List.countP_append, List.countP_append]
    have hcons : (op :: l).countP clears = [op].countP clears + l.countP clears := by
      rw [← List.singleton_append, List.countP_append]
    omega

lemma Outcome.countP_le {v : ℤ}
    (h : Outcome us v tr s ret) : tr.countP isRead ≤ 12 ∧ tr.countP isClear ≤ 11 := by
  have hops : ∀ op ∈ operations, op.kind = .update → op.offset ≠ 0x1200c := by decide
  have hone : operations.countP clears = 1 := by decide
  cases h with
  | failed h =>
    cases h with
    | validate => simp
    | owner _ c _ => simp [isRead, isClear]
    | entry _ c hc done op rest htable ts hdone t e' _ hstop =>
      rw [htable] at hops hone
      obtain ⟨h₁, h₂⟩ := performs_countP_le hdone fun op hop => hops op (by simp [hop])
      obtain ⟨h₃, h₄⟩ := Entered.countP_le (show Entered us op t from .inr ⟨_, hstop⟩)
        (hops op (by simp))
      rw [List.countP_append, List.countP_cons] at hone
      have hsingle : [op].countP clears = if clears op then 1 else 0 := List.countP_singleton
      rw [List.countP_cons_of_neg (by simp [isRead]), List.countP_cons_of_neg (by simp [isClear]),
        List.countP_append, List.countP_append]
      omega
  | complete _ c hc ts hdone =>
    obtain ⟨h₁, h₂⟩ := performs_countP_le hdone hops
    rw [List.countP_cons_of_neg (by simp [isRead]), List.countP_cons_of_neg (by simp [isClear])]
    omega

/-! ### The result -/

/-- Against any callbacks the start performs the owner check and the table in order up to the
first failure, reports where it is, and runs once. -/
theorem startupRun_spec (crc32c : List Byte → BitVec 32) (cfg : Option Config)
    (ops : Option Ops) (s : Option X1State)
    (answer : List (Call × Reply) → Call → Reply) :
    let r := (startupRun crc32c cfg ops s).run answer []
    (IsNew s ∧ (∃ t, r.2.1 = .some t ∧
        Outcome (releaseUs cfg) (validate crc32c cfg ops) r.1 t r.2.2) ∨
      ¬ IsNew s ∧ r.1 = []) ∧
    (validate crc32c cfg ops ≠ 0 → r.1 = []) ∧
    -- nothing comes after a callback that fails
    (∀ pre e post, r.1 = pre ++ e :: post → Failed e → post = []) ∧
    r.1.countP isRead ≤ 12 ∧ r.1.countP isClear ≤ 11 ∧
    -- success is the whole table
    (r.2.2 = 0 ↔ ∃ c ts, c.ret = 0 ∧ List.Forall₂ (Performs (releaseUs cfg)) operations ts ∧
      r.1 = (.owner, c) :: ts.flatten) ∧
    (r.2.2 ≠ 0 → r.2.2 < 0) ∧
    -- a later call says nothing
    ∀ cfg' ops' answer', ((startupRun crc32c cfg' ops' r.2.1).run answer' []).1 = [] := by
  intro r
  have hd : Does (startupRun crc32c cfg ops s) r.1 (r.2.1, r.2.2) := run_does answer [] _
  by_cases hnew : IsNew s
  swap
  · obtain ⟨htr, hst, hret⟩ := startupRun_of_not_isNew hnew hd
    refine ⟨.inr ⟨hnew, htr⟩, fun _ => htr, ?_, by simp [htr], by simp [htr], ?_, fun _ => hret, ?_⟩
    · intro pre e post heq
      simp [htr] at heq
    · refine iff_of_false (Int.ne_of_lt hret) ?_
      rintro ⟨c, ts, -, -, heq⟩
      simp [htr] at heq
    · intro cfg' ops' answer'
      rw [hst]
      exact (startupRun_of_not_isNew hnew (run_does answer' [] _)).1
  obtain ⟨s₀, rfl, hs⟩ := id hnew
  obtain ⟨t, ht, hout⟩ := startupRun_new hs hd
  refine ⟨.inl ⟨hnew, t, ht, hout⟩, ?_, fun _ _ _ => hout.post_nil, hout.countP_le.1,
    hout.countP_le.2, ?_, ?_, ?_⟩
  · intro hv
    exact hout.of_validate_ne hv
  · constructor
    · exact hout.performed
    · rintro ⟨c, ts, hc, hts, htr⟩
      have hv : validate crc32c cfg ops = 0 := by
        by_contra hv
        rw [hout.of_validate_ne hv] at htr
        cases htr
      obtain ⟨s', hs'⟩ := startupRun_does hs hv hc hts
      rw [← htr] at hs'
      exact congrArg Prod.snd (hd.unique hs')
  · exact hout.neg
  · intro cfg' ops' answer'
    rw [ht]
    refine (startupRun_of_not_isNew ?_ (run_does answer' [] _)).1
    rintro ⟨s₁, hs₁, hp⟩
    cases hs₁
    exact hout.phase_ne hp

end YogaUsb4.Startup
