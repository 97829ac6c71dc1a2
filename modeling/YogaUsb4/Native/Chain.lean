import YogaUsb4.Native.Owner

/-!
The results about the native owner. Whatever the owner's calls, the domain's workers, its users, the
storage driver and the clock do, and in whatever order, each thing happens only when it is due; a
build without an approved identity lets nothing through; a refusal stays on record; nobody waits
for ever for a lock, and the loop that waits for the router has an end.
-/

namespace YogaUsb4.Native

variable {lacie : BitVec 64} {s : Sys} {word : BitVec 32}

/-- In every run all that happens is due when it happens. -/
theorem run_earned (lacie : BitVec 64) (as : List Act) : Earned lacie (run lacie as).history :=
  (run_inv as).earned

def upToCommand : List Act :=
  .start :: List.replicate 10 (.native {}) ++ .register true :: .connect 0x2501 ::
    List.replicate 4 (.native {})

/-- A worker scans the port and finds a router with an identity there. -/
def routerFound (uid : BitVec 32) : List Act :=
  [.worker, .domain { job := .scan 2 2 }, .domain { ret := 1 }, .domain {},
    .domain { h0 := 0x113b059f, h1 := 0x14120, uid0 := uid }, .domain {},
    .domain { router := { uid := uid.setWidth 64 } }, .domain {}, .domain {}, .domain {}]

/-- The connect is taken to its end, with one controller on the bus, which then is probed. -/
def upToStorage (d : PciDev) : List Act :=
  List.replicate 20 (.native { devices := [d] }) ++ [.config 1 0 0, .nvme d]

/-- It all can happen: with the approved router the storage driver gets its controller. -/
example : .nvme ⟨256, classStorageExpress, false, 0⟩ ∈
    (run 5 (upToCommand ++ routerFound 5 ++
      upToStorage ⟨256, classStorageExpress, false, 0⟩)).history := by
  decide +kernel

/-! ### Without an approved identity -/

lemma Earned.of_mem {h : List Mark} {m : Mark} (hh : Earned lacie h) (hm : m ∈ h) :
    ∃ before, (∀ m' ∈ before, m' ∈ h) ∧ m.Earned lacie before := by
  obtain ⟨pre, before, rfl⟩ := List.append_of_mem hm
  refine ⟨before, fun m' hm' => ?_, hh m before ⟨pre, rfl⟩⟩
  exact List.mem_append_right _ (List.mem_cons_of_mem _ hm')

/-- What comes after the enumeration in the chain rests on something else in the chain. -/
lemma Mark.Earned.rests {before : List Mark} {m : Mark} (hm : m.Earned lacie before)
    (hl : 3 < m.level) : ∃ m' ∈ before, 3 ≤ m'.level ∧ m'.level < m.level := by
  cases m with
  | pcieStart ret =>
    obtain ⟨-, -, r, hr⟩ := hm
    exact ⟨_, hr, by simp⟩
  | tunnel type r => exact ⟨_, hm.2.2.1, by simp⟩
  | approved r => exact ⟨_, hm.2.2.1, by simp⟩
  | pcieTrain ret =>
    obtain ⟨-, -, r, hr⟩ := hm
    exact ⟨_, hr, by simp⟩
  | opened => exact ⟨_, hm.2.2, by simp⟩
  | validated devices d => exact ⟨_, hm.2.2.1, by simp⟩
  | _ => simp at hl

/-- The chain gets to the enumeration only where an identity is approved. -/
lemma Earned.approved_of_level {h : List Mark} (hh : Earned lacie h) :
    ∀ n, 3 ≤ n → ∀ m ∈ h, m.level = n → lacie ≠ 0 := by
  intro n
  induction n using Nat.strong_induction_on with
  | _ n ih =>
    intro hn m hm hlevel
    obtain ⟨before, hsub, hdue⟩ := hh.of_mem hm
    obtain rfl | hlt := hn.eq_or_lt
    · cases m with
      | enumerated r => exact hdue.2.2.2.2.approved
      | _ => simp at hlevel
    · obtain ⟨m', hm', hge, hless⟩ := hdue.rests (hlevel ▸ hlt)
      exact ih _ (hlevel ▸ hless) hge m' (hsub m' hm') rfl

/-- The build of the snapshot, which approves no identity: whatever is plugged in and whatever
anybody does, no router is enumerated, the bridge is not brought up, no tunnel of any kind is made,
no router is authorized, nothing is reached beyond the root port, no storage driver is admitted and
no connect succeeds. -/
theorem unapproved_admits_nothing (as : List Act) : ∀ m ∈ (run 0 as).history,
    m.level < 3 ∧ m ≠ .below ∧ (∀ d, m ≠ .nvme d) ∧ m ≠ .returned 0 := by
  have hh : Earned 0 (run 0 as).history := (run_inv as).earned
  have hlow : ∀ m ∈ (run 0 as).history, m.level < 3 := by
    intro m hm
    by_contra hl
    exact hh.approved_of_level _ (not_lt.1 hl) m hm rfl rfl
  intro m hm
  obtain ⟨before, hsub, hdue⟩ := hh.of_mem hm
  refine ⟨hlow m hm, ?_, ?_, ?_⟩
  · rintro rfl
    exact absurd (hlow _ (hsub _ hdue)) (by simp)
  · rintro d rfl
    obtain ⟨devices, hv⟩ := hdue
    exact absurd (hlow _ (hsub _ hv)) (by simp)
  · rintro rfl
    obtain ⟨-, devices, d, hv⟩ := hdue rfl
    exact absurd (hlow _ (hsub _ hv)) (by simp)

theorem unapproved_admits_nothing_refused :
    .refused (-enodev) ∈ (run 0 (upToCommand ++ routerFound 5)).history ∧
      (Mark.refused (-enodev)).level < 3 := by
  have hm : .refused (-enodev) ∈ (run 0 (upToCommand ++ routerFound 5)).history := by decide +kernel
  exact ⟨hm, (unapproved_admits_nothing _ _ hm).1⟩

/-! ### The record of the scan -/

/-- A refusal that was ever recorded is what is on record, whatever scans came after it; and the
record says so of no other. -/
theorem refusal_on_record (lacie : BitVec 64) (as : List Act) (e : ℤ) :
    .refused e ∈ (run lacie as).history ↔ (run lacie as).fields.refusal = some e :=
  ((run_inv as).refused e).symm

/-! ### Progress -/

lemma Sys.domainStep_isSome (hfree : s.domain ≠ .free) (hnative : s.domain ≠ .native) (c : Found) :
    (s.domainStep lacie c).isSome = true := by
  unfold Sys.domainStep
  cases hd : s.domain with
  | free => exact absurd hd hfree
  | native => exact absurd hd hnative
  | worker =>
    dsimp only
    split <;> rfl
  | workerScan k =>
    dsimp only
    split <;> rfl
  | user route val key =>
    dsimp only
    split
    · rfl
    · split_ifs <;> rfl

/-- One who wants the domain's lock gets it, or somebody who has it goes on. -/
lemma Inv.lockTb_or (h : Inv lacie s) (hl : s.native.holdsTb = false) (c : Found) :
    s.lockTb.isSome = true ∨ (s.domainStep lacie c).isSome = true := by
  by_cases hfree : s.domain = .free
  · exact .inl (by simp [Sys.lockTb, hfree])
  · refine .inr (Sys.domainStep_isSome hfree (fun hn => ?_) c)
    rw [h.lock.2 hn] at hl
    cases hl

lemma Inv.startStep_or (h : Inv lacie s) {pt : StartAt} (hn : s.native = .start pt) (c : Found) :
    (s.startStep lacie c pt).isSome = true ∨ (s.domainStep lacie c).isSome = true := by
  cases pt with
  | addLock => simpa [Sys.startStep] using h.lockTb_or (by rw [hn]; rfl) c
  | claim | check | prepare | interrupts | probe | adding =>
    refine .inl ?_
    simp only [Sys.startStep]
    repeat' split
    all_goals rfl
  | scanning k =>
    refine .inl ?_
    simp only [Sys.startStep]
    split <;> rfl
  | _ => exact .inl rfl

lemma Inv.stopStep_or (h : Inv lacie s) {pt : StopAt} (hn : s.native = .stop pt) (c : Found) :
    (s.stopStep pt).isSome = true ∨ (s.domainStep lacie c).isSome = true := by
  cases pt with
  | ctlLock => simpa [Sys.stopStep] using h.lockTb_or (by rw [hn]; rfl) c
  | claim =>
    refine .inl ?_
    simp only [Sys.stopStep]
    repeat' split
    all_goals rfl
  | _ => exact .inl rfl

lemma Inv.connectStep_or (h : Inv lacie s) {pt : ConnectAt} (hn : s.native = .connect word pt)
    (c : Found) : (s.connectStep lacie word c pt).isSome = true ∨
      (s.domainStep lacie c).isSome = true ∨ ∃ p wake, pt = .asleep p wake ∧ s.now < wake := by
  cases pt with
  | approveLock =>
    refine (h.lockTb_or (by rw [hn]; rfl) c).imp (fun hl => ?_) .inl
    simpa [Sys.connectStep] using hl
  | asleep p wake =>
    by_cases hw : s.now < wake
    · exact .inr (.inr ⟨p, wake, rfl, hw⟩)
    · exact .inl (by simp [Sys.connectStep, hw])
  | look p =>
    -- there is an owner as long as the call is between its claim and its end
    have howner := (h.inside word _ _ hn rfl).owner
    exact .inl (by simpa [Sys.connectStep] using howner)
  | claim | tryLock | rescanning | approveLook | scanOpen | scanFinish =>
    refine .inl ?_
    simp only [Sys.connectStep]
    repeat' split
    all_goals rfl
  | _ => exact .inl rfl

/-- No deadlock: as long as one of the owner's calls has its lock, that call can go on, or whoever
has the domain's lock can, or the call sleeps and time will wake it. -/
theorem call_never_stuck (lacie : BitVec 64) (as : List Act) (c : Found)
    (hn : (run lacie as).native ≠ .free) :
    ((run lacie as).nativeStep lacie c).isSome = true ∨
      ((run lacie as).domainStep lacie c).isSome = true ∨
      ∃ word p wake, (run lacie as).native = .connect word (.asleep p wake) ∧
        (run lacie as).now < wake := by
  have h : Inv lacie (run lacie as) := run_inv as
  unfold Sys.nativeStep
  cases hpt : (run lacie as).native with
  | free => exact absurd hpt hn
  | start pt => exact (h.startStep_or hpt c).imp_right .inl
  | stop pt => exact (h.stopStep_or hpt c).imp_right .inl
  | connect word pt =>
    refine (h.connectStep_or hpt c).imp_right (Or.imp_right ?_)
    rintro ⟨p, wake, rfl, hw⟩
    exact ⟨word, p, wake, rfl, hw⟩

/-- A worker has the lock that the approval waits for. -/
theorem call_never_stuck_approveLock :
    (run 5 (upToCommand ++ routerFound 5 ++ List.replicate 6 (.native {}) ++ [.worker])).native =
        .connect 0x2501 .approveLock ∧
      ((run 5 (upToCommand ++ routerFound 5 ++ List.replicate 6 (.native {}) ++
        [.worker])).domainStep 5 {}).isSome = true := by
  have hn : (run 5 (upToCommand ++ routerFound 5 ++ List.replicate 6 (.native {}) ++
      [.worker])).native = .connect 0x2501 .approveLock := by decide +kernel
  refine ⟨hn, ?_⟩
  obtain h | h | ⟨word, p, wake, h, -⟩ := call_never_stuck 5 _ {} (by rw [hn]; simp)
  · exact absurd h (by decide +kernel)
  · exact h
  · rw [hn] at h
    cases h

/-- The loop that waits for the router has at most a thousand turns, over all connects together. -/
theorem polls_le (lacie : BitVec 64) (as : List Act) : polls (run lacie as).history ≤ 1000 :=
  (run_inv as).turns

end YogaUsb4.Native
