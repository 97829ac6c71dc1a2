import YogaUsb4.Ctl.Moves
import Mathlib.Data.List.Count
import Mathlib.Data.List.Perm.Subperm

/-!
Who has the channel's memory once the private stop was attempted. Its latch is set under both
locks, so that every transmitter, start and stop is on one side of it; from then on only the one
retirement that was admitted releases anything, and only after a detach, hence after a flush that
found every transmit packet freed.
-/

namespace YogaUsb4.Ctl

open HostState Steps Threads

/-! ### One step of the system -/

def Channel.afterCallback (c : Channel) (id : ℕ) : Channel :=
  { c with ring := c.ring.erase id }.pkgFree id

variable {s : Sys}

lemma step_rule {I : Sys → Prop} {a : Act} (h : I s)
    (hcall : ∀ c : Call, I ⟨s.shared, s.threads ++ [c.thread]⟩)
    (hthread : ∀ i x t m, a = .thread i x → s.shared.shell = true → s.threads[i]? = some t →
      t.next s.shared x = some m → I ⟨m.shared, s.threads.set i m.self⟩)
    (hcallback : ∀ id ∈ s.shared.ring, I ⟨s.shared.afterCallback id, s.threads⟩) :
    I (step s a) := by
  unfold step
  split
  · rename_i hshell
    cases a with
    | call c => exact hcall c
    | thread i x =>
      rcases (Pool.move_cases i x : s.move Thread.next i x = s ∨ _) with hm | ⟨t, m, ht, hn, hm⟩
      · simp only [hm]
        exact h
      · have := hthread i x t m rfl hshell ht hn
        simpa only [hm, (Thread.next_moved hn).started, List.append_nil] using this
    | txCallback id =>
      simp only
      split
      · exact hcallback id ‹_›
      · exact h
  · exact h

lemma Call.thread_idle (c : Call) : c.thread.hasMutex = 0 ∧ c.thread.hasDomain = 0 ∧
    c.thread.hot = false ∧ c.thread.freeing = false ∧ c.thread.stopping = 0 ∧
    c.thread.retiring = 0 ∧ c.thread.hasPool = 0 ∧ c.thread.releasing = false ∧
    (∀ id, c.thread.hand id = 0) ∧ ∀ d, c.thread.Knows d := by
  cases c <;> simp [Call.thread]

lemma total_call {w : Thread → ℕ} (s : Sys) {c : Call} (h : w c.thread = 0) :
    Pool.total w ⟨s.shared, s.threads ++ [c.thread]⟩ = s.total w := by
  rw [Pool.total_append, Pool.total_singleton, h, Nat.add_zero]

lemma countP_afterCallback {p : Mark → Bool} {id : ℕ} (h : p (.freed id) = false) (c : Channel) :
    (c.afterCallback id).history.countP p = c.history.countP p := by
  simp only [Channel.afterCallback, Channel.pkgFree, Channel.mark]
  exact List.countP_cons_of_neg (by simp [h])

variable {t : Thread}

lemma total_set (w : Thread → ℕ) {i : ℕ} (ht : s.threads[i]? = some t) (c : Channel) (u : Thread) :
    Pool.total w ⟨c, s.threads.set i u⟩ + w t = s.total w + w u :=
  sum_map_set w ht u

/-! ### The locks -/

structure Locked (s : Sys) : Prop where
  mutex : s.total Thread.hasMutex = s.shared.mutex.toNat
  domain : s.total Thread.hasDomain = s.shared.domainLock.toNat

lemma Locked.step (h : Locked s) (a : Act) : Locked (Ctl.step s a) := by
  refine step_rule h ?_ ?_ ?_
  · intro c
    obtain ⟨hm, hd, -⟩ := c.thread_idle
    exact ⟨(total_call s hm).trans h.mutex, (total_call s hd).trans h.domain⟩
  · intro i x t m _ _ ht hn
    have hmoved := Thread.next_moved hn
    have h₁ := h.mutex
    have h₂ := h.domain
    have hm := total_set Thread.hasMutex ht m.shared m.self
    have hd := total_set Thread.hasDomain ht m.shared m.self
    have hlem := s.le_total Thread.hasMutex (List.mem_of_getElem? ht)
    have hled := s.le_total Thread.hasDomain (List.mem_of_getElem? ht)
    have h₃ := hmoved.mutex (by omega)
    have h₄ := hmoved.domain (by omega)
    constructor <;> simp only <;> omega
  · intro id _
    exact ⟨h.mutex, h.domain⟩

/-! ### The counts -/

structure Counted (s : Sys) : Prop where
  stopping : s.total Thread.stopping + s.shared.history.countP Mark.isStopReturned =
    s.shared.stopAttempted.toNat
  retiring : s.total Thread.retiring + s.shared.history.countP Mark.isRetireEnd =
    s.shared.retireAttempted.toNat
  hasPool : s.total Thread.hasPool + s.shared.history.countP Mark.isPoolEnd =
    s.shared.retireAttempted.toNat
  alloc : ∀ id, s.shared.history.count (.alloc id) = if id < s.shared.allocated then 1 else 0
  /-- Each packet is with the channel, in a transmitter's hand, in the ring, or freed. -/
  packets : s.shared.shell = true → (∀ t ∈ s.threads, t.freeing = false) → ∀ id,
    s.shared.rxPackets.count id + s.total (Thread.hand id) + s.shared.ring.count id +
      s.shared.history.count (.freed id) = if id < s.shared.allocated then 1 else 0

variable {m : Move Channel Thread}

lemma not_freeing {i : ℕ}
    (ht : s.threads[i]? = some t) (hm : Moved s.shared t m) (hs : m.shared.shell = true)
    (h : ∀ u ∈ s.threads.set i m.self, u.freeing = false) : ∀ u ∈ s.threads, u.freeing = false := by
  have hself : m.self ∈ s.threads.set i m.self :=
    List.mem_iff_getElem?.2 ⟨i, by simp [(List.getElem?_eq_some_iff.1 ht).1]⟩
  have htt : t.freeing = false := by
    by_contra hf
    rcases hm.freeing (by simpa using hf) with hf | hf
    · rw [h _ hself] at hf
      cases hf
    · rw [hs] at hf
      cases hf
  intro u hu
  rcases mem_or_mem_set ht hu m.self with rfl | hu
  · exact htt
  · exact h u hu

lemma shell_of_next {c : Channel} {x : Choice}
    (h : t.next c x = some m) (hs : m.shared.shell = true) : c.shell = true := by
  rcases (Thread.next_released h).shell with he | ⟨-, hh⟩
  · rwa [← he]
  · have := ((Thread.next_released h).freed hh).1
    rw [hs] at this
    cases this

lemma Counted.step (h : Counted s) (a : Act) : Counted (Ctl.step s a) := by
  refine step_rule h ?_ ?_ ?_
  · intro c
    obtain ⟨-, -, -, hf, hs, hr, hp, -, hh, -⟩ := c.thread_idle
    refine ⟨?_, ?_, ?_, h.alloc, ?_⟩
    · rw [total_call s hs]
      exact h.stopping
    · rw [total_call s hr]
      exact h.retiring
    · rw [total_call s hp]
      exact h.hasPool
    · intro hshell hfree id
      rw [total_call s (hh id)]
      exact h.packets hshell (fun t ht => hfree t (List.mem_append_left _ ht)) id
  · intro i x t m _ _ ht hn
    -- A thread takes from one side of each equation what it puts on the other.
    have hacc := Thread.next_accounted hn
    refine ⟨?_, ?_, ?_, ?_, ?_⟩
    · have h₁ := total_set Thread.stopping ht m.shared m.self
      have h₂ := hacc.stopping
      have h₃ := h.stopping
      simp only
      omega
    · have h₁ := total_set Thread.retiring ht m.shared m.self
      have h₂ := hacc.retiring
      have h₃ := h.retiring
      simp only
      omega
    · have h₁ := total_set Thread.hasPool ht m.shared m.self
      have h₂ := hacc.hasPool
      have h₃ := h.hasPool
      simp only
      omega
    · intro id
      have h₁ := hacc.alloc id
      have h₂ := h.alloc id
      simp only
      omega
    · intro hshell hfree id
      have hall := not_freeing ht (Thread.next_moved hn) hshell hfree
      have h₁ := hacc.packets (hall t (List.mem_of_getElem? ht)) id
      have h₂ := h.packets (shell_of_next hn hshell) hall id
      have h₃ := total_set (Thread.hand id) ht m.shared m.self
      simp only
      omega
  · -- The callback takes the packet off the ring and marks it freed.
    intro id hid
    refine ⟨?_, ?_, ?_, ?_, ?_⟩
    · rw [countP_afterCallback rfl]
      exact h.stopping
    · rw [countP_afterCallback rfl]
      exact h.retiring
    · rw [countP_afterCallback rfl]
      exact h.hasPool
    · intro n
      rw [List.count, countP_afterCallback (by simp)]
      exact h.alloc n
    · intro hshell hfree n
      have h₁ := h.packets hshell hfree n
      have h₂ : (s.shared.ring.erase id).count n + (if id = n then 1 else 0) =
          s.shared.ring.count n := by
        rw [List.count_erase]
        by_cases hn : id = n
        · subst hn
          have := List.count_pos_iff.2 hid
          simp only [BEq.rfl, if_true]
          omega
        · simp [hn]
      have h₃ : (s.shared.afterCallback id).history.count (.freed n) =
          s.shared.history.count (.freed n) + (if id = n then 1 else 0) := by
        simp [Channel.afterCallback, List.count_cons]
      change s.shared.rxPackets.count n + s.total (Thread.hand n) +
        (s.shared.ring.erase id).count n + (s.shared.afterCallback id).history.count (.freed n) =
          if n < s.shared.allocated then 1 else 0
      omega

/-! ### The latch -/

/-- When the private stop sets its latch, no `tb_ctl_free` is past its test. -/
def FreeDone (s : Sys) : Act → Prop
  | .thread i _ =>
    s.threads[i]? = some (.stopRetained .attempt) → ∀ t ∈ s.threads, t.freeing = false
  | _ => True

instance instDecidableFreeDone (s : Sys) (a : Act) : Decidable (FreeDone s a) := by
  cases a <;> unfold FreeDone <;> infer_instance

structure Latched (s : Sys) : Prop where
  cold : s.shared.stopAttempted = true → ∀ t ∈ s.threads, t.hot = false
  finished : s.shared.stopFinished = true → s.shared.stopAttempted = true ∧ s.shared.ring = []
  knows : ∀ t ∈ s.threads, t.Knows s.shared
  latch : s.shared.stopAttempted = true ↔ .stopAttempted ∈ s.shared.history
  never : NeverAfter Mark.ordinary .stopAttempted s.shared.history

lemma Thread.Knows.later {c c' : Channel} (h : t.Knows c) (hl : Later c c') :
    t.Knows c' := by
  have hmem : ∀ {m : Mark}, m ∈ c.history → m ∈ c'.history := fun hm => hl.history.subset hm
  cases t with
  | stopRetained pt =>
    rcases pt with _ | _ | _ | _ | _ | _ | _ | _ | (_ | _) | _ | _
    case nhiStop => exact ⟨hl.stopAttempted h.1, hl.ring h.1 h.2⟩
    case out.none => exact hl.stopFinished h
    case flush | unlockMutex | out.some => exact hl.stopAttempted h
    all_goals trivial
  | retire pt =>
    cases pt with
    | unlockMutex | detach => exact hl.retireAttempted h
    | ringRx | ringTx | packets => exact ⟨hl.stopFinished h.1, hmem h.2⟩
    | pool | publish => exact ⟨hl.stopFinished h.1, hmem h.2.1, hl.rxPackets h.2.2⟩
    | _ => trivial
  | free pt =>
    cases pt with
    | shell => exact hl.retired h
    | _ => trivial
  | _ => trivial

lemma Thread.locked_of_hot (h : t.hot = true) :
    t.hasMutex = 1 ∨ t.hasDomain = 1 ∨ t.freeing = true := by
  cases t with
  | transmit request pt => cases pt <;> simp_all
  | start pt => cases pt <;> simp_all
  | stop pt => cases pt <;> simp_all
  | stopRetained pt => cases pt <;> simp_all
  | retire pt => cases pt <;> simp_all
  | free pt => cases pt <;> simp_all

lemma Thread.hot_of_freeing (h : t.freeing = true) : t.hot = true := by
  cases t with
  | free pt => exact h
  | _ => cases h

/-- The private stop has both locks when it sets its latch, so everyone else is on one side. -/
lemma Locked.cold (h : Locked s) (ha : .stopRetained .attempt ∈ s.threads)
    (hf : ∀ t ∈ s.threads, t.freeing = false) : ∀ t ∈ s.threads, t.hot = false := by
  intro t ht
  by_contra hhot
  have hhot : t.hot = true := by simpa using hhot
  have hne : t ≠ .stopRetained .attempt := by
    rintro rfl
    cases hhot
  have h₁ := s.add_le_total Thread.hasMutex ht ha hne
  have h₂ := s.add_le_total Thread.hasDomain ht ha hne
  have h₃ := s.shared.mutex.toNat_le
  have h₄ := s.shared.domainLock.toNat_le
  rw [h.mutex, show Thread.hasMutex (.stopRetained .attempt) = 1 from rfl] at h₁
  rw [h.domain, show Thread.hasDomain (.stopRetained .attempt) = 1 from rfl] at h₂
  rcases Thread.locked_of_hot hhot with hm | hd | hfr
  · omega
  · omega
  · rw [hf t ht] at hfr
    cases hfr

lemma Latched.thread (h : Latched s) (hl : Locked s) {i : ℕ} {x : Choice}
    (hc : FreeDone s (.thread i x)) (ht : s.threads[i]? = some t)
    (hn : t.next s.shared x = some m) : Latched ⟨m.shared, s.threads.set i m.self⟩ := by
  have hmoved := Thread.next_moved hn
  have hrel := Thread.next_released hn
  have htm := List.mem_of_getElem? ht
  have hlater : Later s.shared m.shared := hmoved.later fun ha => h.cold ha t htm
  -- The latch is set with both locks held, so nobody else is inside.
  have hcold : m.shared.stopAttempted = true → ∀ u ∈ s.threads.set i m.self, u.hot = false := by
    intro ha u hu
    rcases hmoved.latch with he | ⟨rfl, -, hself, -⟩
    · have ha' : s.shared.stopAttempted = true := he ▸ ha
      rcases List.mem_or_eq_of_mem_set hu with hu | rfl
      · exact h.cold ha' u hu
      · exact hmoved.hot ha' (h.cold ha' t htm)
    · rcases List.mem_or_eq_of_mem_set hu with hu | rfl
      · exact hl.cold htm (hc ht) u hu
      · exact hself
  refine ⟨hcold, ?_, ?_, ?_, ?_⟩
  · intro hf
    rcases hrel.finished (h.knows t htm) hf with hf' | hf'
    · obtain ⟨h₁, h₂⟩ := h.finished hf'
      exact ⟨hlater.stopAttempted h₁, hlater.ring h₁ h₂⟩
    · exact hf'
  · intro u hu
    rcases List.mem_or_eq_of_mem_set hu with hu | rfl
    · exact (h.knows u hu).later hlater
    · exact hmoved.knows h.finished (h.knows t htm)
  · constructor
    · intro ha
      rcases hrel.attempted with he | hh
      · exact hlater.history.subset (h.latch.1 (he ▸ ha))
      · change _ ∈ m.shared.history
        rw [hh]
        exact List.mem_cons_self
    · intro hmem
      rcases hmoved.marked with hh | ⟨mk, hh, -⟩
      · exact hlater.stopAttempted (h.latch.2 (hh ▸ hmem))
      · change _ ∈ m.shared.history at hmem
        rw [hh] at hmem
        rcases List.mem_cons.1 hmem with rfl | hmem
        · exact hrel.latched hh
        · exact hlater.stopAttempted (h.latch.2 hmem)
  · change NeverAfter _ _ m.shared.history
    rcases hmoved.marked with hh | ⟨mk, hh, ho⟩
    · rw [hh]
      exact h.never
    · rw [hh]
      -- Only a hot thread makes an ordinary mark, and after the latch there is none.
      refine h.never.cons fun hord hmem => ?_
      have := h.cold (h.latch.2 hmem) t htm
      rw [ho hord] at this
      cases this

lemma Latched.step (h : Latched s) (hl : Locked s) {a : Act} (hc : FreeDone s a) :
    Latched (Ctl.step s a) := by
  refine step_rule h ?_ ?_ ?_
  · intro c
    obtain ⟨-, -, hhot, -, -, -, -, -, -, hk⟩ := c.thread_idle
    refine ⟨?_, h.finished, ?_, h.latch, h.never⟩
    · intro ha t ht
      rcases List.mem_append.1 ht with ht | ht
      · exact h.cold ha t ht
      · rw [List.mem_singleton.1 ht]
        exact hhot
    · intro t ht
      rcases List.mem_append.1 ht with ht | ht
      · exact h.knows t ht
      · rw [List.mem_singleton.1 ht]
        exact hk _
  · intro i x t m ha _ ht hn
    subst ha
    exact h.thread hl hc ht hn
  · intro id _
    have hlater : Later s.shared (s.shared.afterCallback id) := by
      simp_all [later_iff, Channel.afterCallback]
    refine ⟨h.cold, ?_, fun t ht => (h.knows t ht).later hlater, ?_, ?_⟩
    · intro hf
      obtain ⟨h₁, h₂⟩ := h.finished hf
      exact ⟨h₁, hlater.ring h₁ h₂⟩
    · change s.shared.stopAttempted = true ↔ .stopAttempted ∈ .freed id :: s.shared.history
      simpa using h.latch
    · exact h.never.cons (by simp)

/-! ### What the channel still has -/

def Channel.Whole (c : Channel) : Prop :=
  c.tx = true ∧ c.rx = true ∧ c.framePool = true ∧ c.rxPackets = List.range rxPkgCount

/-- While nobody releases it, the channel has everything. -/
def Kept (s : Sys) : Prop :=
  s.shared.shell = true → (∀ t ∈ s.threads, t.releasing = false ∧ t.freeing = false) →
    s.shared.retired = false → s.shared.Whole

lemma Kept.step (h : Kept s) (a : Act) : Kept (Ctl.step s a) := by
  refine step_rule h ?_ ?_ ?_
  · intro c hshell hall hr
    exact h hshell (fun t ht => hall t (List.mem_append_left _ ht)) hr
  · intro i x t m _ _ ht hn hshell hall hr
    have hmoved := Thread.next_moved hn
    have hrel := Thread.next_released hn
    have hself : m.self ∈ s.threads.set i m.self :=
      List.mem_iff_getElem?.2 ⟨i, by simp [(List.getElem?_eq_some_iff.1 ht).1]⟩
    have hfree := not_freeing ht hmoved hshell fun u hu => (hall u hu).2
    have hrelease : t.releasing = false := by
      by_contra hf
      rcases hrel.releasing (by simpa using hf) with hf | hf
      · rw [(hall _ hself).1] at hf
        cases hf
      · rw [hr] at hf
        cases hf
    obtain ⟨h₁, h₂, h₃, h₄, h₅⟩ := hrel.kept hrelease (hfree t (List.mem_of_getElem? ht))
    have hold := h (shell_of_next hn hshell) (fun u hu => ?_) (h₅ ▸ hr)
    · simpa only [Channel.Whole, h₁, h₂, h₃, h₄] using hold
    · refine ⟨?_, hfree u hu⟩
      rcases mem_or_mem_set ht hu m.self with rfl | hu
      · exact hrelease
      · exact (hall u hu).1
  · intro id _ hshell hall hr
    exact h hshell hall hr

/-- What the pool's end finds: a detach that succeeded, a pool that is there, and every packet
freed once. -/
structure Emptied (r : Releaser) (before : List Mark) : Prop where
  byRetire : r = .retire
  detached : .detached none ∈ before
  once : ∀ r', .poolDestroy r' ∉ before
  freed : ∀ id, .alloc id ∈ before → before.count (.freed id) = 1

/-- How the channel's memory ends. -/
structure Ends (s : Sys) : Prop where
  retireAttempted : s.shared.retireAttempted = true → s.shared.stopAttempted = true
  retired : s.shared.retired = true → .retired ∈ s.shared.history ∧ s.shared.stopFinished = true
  returned : s.shared.stopFinished = true →
    .stopRetained (.out none) ∈ s.threads ∨ .stopReturned none ∈ s.shared.history
  /-- Before the latch only `tb_ctl_free` ends anything. -/
  shellFree : s.shared.shell = true → .shellFree ∉ s.shared.history
  poolFree : s.shared.shell = true → (∀ t ∈ s.threads, t.freeing = false) →
    .poolDestroy .free ∉ s.shared.history
  shell : s.shared.stopAttempted = true → s.shared.shell = false → s.shared.retired = true
  destroyed : s.shared.stopAttempted = true → ∀ r before,
    .poolDestroy r :: before <:+ s.shared.history → Emptied r before
  freed : s.shared.stopAttempted = true → ∀ before, .shellFree :: before <:+ s.shared.history →
    .retired ∈ before

lemma Counted.poolDestroy_notMem (h : Counted s)
    (hp : s.total Thread.hasPool = s.shared.retireAttempted.toNat) :
    .poolDestroy .retire ∉ s.shared.history := by
  intro hmem
  have h₁ := h.hasPool
  have h₂ := List.countP_pos_iff.2
    ⟨_, hmem, show Mark.isPoolEnd (.poolDestroy .retire) = true from rfl⟩
  omega

lemma emptied (hc : Counted s) (hl : Latched s) (he : Ends s)
    (hs : s.shared.shell = true) (ht : .retire .pool ∈ s.threads) :
    Emptied .retire s.shared.history := by
  obtain ⟨hf, hd, hrx⟩ := hl.knows _ ht
  obtain ⟨ha, hring⟩ := hl.finished hf
  have hcold := hl.cold ha
  have hfree : ∀ t ∈ s.threads, t.freeing = false := by
    intro t ht
    by_contra hf
    have := Thread.hot_of_freeing (by simpa using hf)
    rw [hcold t ht] at this
    cases this
  have hle := s.le_total Thread.hasPool ht
  have hpool := hc.hasPool
  have hone := s.shared.retireAttempted.toNat_le
  have hw : Thread.hasPool (.retire .pool) = 1 := rfl
  refine ⟨rfl, hd, ?_, ?_⟩
  · intro r'
    cases r' with
    | free => exact he.poolFree hs hfree
    | retire => exact hc.poolDestroy_notMem (by omega)
  · -- A packet is in one place only, and all places but the last are empty by now.
    intro id hid
    have hpos := List.count_pos_iff.2 hid
    have halloc := hc.alloc id
    have hpackets := hc.packets hs hfree id
    have hhand : s.total (Thread.hand id) = 0 := by
      refine Pool.total_eq_zero _ fun t ht => ?_
      have := hcold t ht
      cases t with
      | transmit request pt => cases pt <;> simp_all
      | _ => rfl
    have hlt : id < s.shared.allocated := by
      by_contra hge
      rw [if_neg hge] at halloc
      omega
    rw [hrx, hring, hhand, if_pos hlt] at hpackets
    simpa using hpackets

lemma Ends.thread (h : Ends s) (hk : Counted s) (hl : Latched s) {i : ℕ} {x : Choice}
    (hc : FreeDone s (.thread i x)) (hshell : s.shared.shell = true) (ht : s.threads[i]? = some t)
    (hn : t.next s.shared x = some m) : Ends ⟨m.shared, s.threads.set i m.self⟩ := by
  have hmoved := Thread.next_moved hn
  have hrel := Thread.next_released hn
  have htm := List.mem_of_getElem? ht
  have hlater : Later s.shared m.shared := hmoved.later fun ha => hl.cold ha t htm
  have hself : m.self ∈ s.threads.set i m.self :=
    List.mem_iff_getElem?.2 ⟨i, by simp [(List.getElem?_eq_some_iff.1 ht).1]⟩
  have hfreeing : m.shared.stopAttempted = true → ¬ t.freeing = true := by
    intro ha hf
    rcases hmoved.latch with he | ⟨rfl, -⟩
    · have := hl.cold (he ▸ ha) t htm
      rw [Thread.hot_of_freeing hf] at this
      cases this
    · cases hf
  constructor
  · exact hrel.retireAttempted h.retireAttempted
  · intro hr
    change m.shared.retired = true at hr
    change _ ∈ m.shared.history ∧ m.shared.stopFinished = true
    rcases hrel.retired with he | ⟨rfl, hh⟩
    · obtain ⟨h₁, h₂⟩ := h.retired (he ▸ hr)
      exact ⟨hlater.history.subset h₁, hlater.stopFinished h₂⟩
    · refine ⟨?_, hlater.stopFinished (hl.knows _ htm).1⟩
      rw [hh]
      exact List.mem_cons_self
  · intro hf
    rcases hrel.ended hf with hf | hf
    · rcases h.returned hf with hmem | hmem
      · rcases mem_or_mem_set ht hmem m.self with rfl | hmem
        · right
          change _ ∈ m.shared.history
          rw [hrel.returned rfl]
          exact List.mem_cons_self
        · exact .inl hmem
      · exact .inr (hlater.history.subset hmem)
    · exact .inl (hf ▸ hself)
  · intro hs hmem
    change _ ∈ m.shared.history at hmem
    rcases hmoved.marked with hh | ⟨mk, hh, -⟩
    · exact h.shellFree hshell (hh ▸ hmem)
    · rw [hh] at hmem
      rcases List.mem_cons.1 hmem with rfl | hmem
      · have := (hrel.freed hh).1
        rw [hs] at this
        cases this
      · exact h.shellFree hshell hmem
  · intro hs hall hmem
    have hfree := not_freeing ht hmoved hs hall
    change _ ∈ m.shared.history at hmem
    rcases hmoved.marked with hh | ⟨mk, hh, -⟩
    · exact h.poolFree hshell hfree (hh ▸ hmem)
    · rw [hh] at hmem
      rcases List.mem_cons.1 hmem with rfl | hmem
      · rcases hrel.destroyed _ hh with ⟨hr, -⟩ | ⟨-, hf⟩
        · cases hr
        · rw [hall _ hself] at hf
          cases hf
      · exact h.poolFree hshell hfree hmem
  · intro ha hs
    change m.shared.shell = false at hs
    rcases hrel.shell with he | ⟨rfl | hf, -⟩
    · rw [he, hshell] at hs
      cases hs
    · exact hlater.retired (hl.knows _ htm)
    · exact absurd hf (hfreeing ha)
  · intro ha r before hsuf
    change _ <:+ m.shared.history at hsuf
    rcases hmoved.latch with he | ⟨rfl, hno, -, -⟩
    · have ha' : s.shared.stopAttempted = true := he ▸ ha
      rcases hmoved.marked with hh | ⟨mk, hh, -⟩
      · exact h.destroyed ha' r before (hh ▸ hsuf)
      · rw [hh] at hsuf
        rcases List.suffix_cons_iff.1 hsuf with heq | hsuf
        · obtain ⟨rfl, rfl⟩ := List.cons_eq_cons.1 heq
          rcases hrel.destroyed r hh with ⟨rfl, rfl⟩ | ⟨-, hf⟩
          · exact emptied hk hl h hshell htm
          · have := hmoved.hot ha' (hl.cold ha' t htm)
            rw [Thread.hot_of_freeing hf] at this
            cases this
        · exact h.destroyed ha' r before hsuf
    · -- Nothing was destroyed before the latch.
      exfalso
      have hmem : .poolDestroy r ∈ s.shared.history := by
        rcases hrel.attempted with he | hh
        · rw [he, hno] at ha
          cases ha
        · rw [hh] at hsuf
          have := hsuf.subset List.mem_cons_self
          simpa using this
      cases r with
      | free => exact h.poolFree hshell (hc ht) hmem
      | retire =>
        have hra : s.shared.retireAttempted = false := by
          by_contra hra
          have := h.retireAttempted (by simpa using hra)
          rw [hno] at this
          cases this
        have hp := hk.hasPool
        rw [hra] at hp
        refine hk.poolDestroy_notMem ?_ hmem
        rw [hra]
        simp only [Bool.toNat_false] at hp ⊢
        omega
  · intro ha before hsuf
    change _ <:+ m.shared.history at hsuf
    rcases hmoved.latch with he | ⟨rfl, hno, -, -⟩
    · have ha' : s.shared.stopAttempted = true := he ▸ ha
      rcases hmoved.marked with hh | ⟨mk, hh, -⟩
      · exact h.freed ha' before (hh ▸ hsuf)
      · rw [hh] at hsuf
        rcases List.suffix_cons_iff.1 hsuf with heq | hsuf
        · obtain ⟨rfl, rfl⟩ := List.cons_eq_cons.1 heq
          rcases (hrel.freed hh).2 with rfl | hf
          · exact (h.retired (hl.knows _ htm)).1
          · exact absurd hf (hfreeing ha)
        · exact h.freed ha' before hsuf
    · -- Neither was the channel freed before the latch.
      exfalso
      rcases hrel.attempted with he | hh
      · rw [he, hno] at ha
        cases ha
      · rw [hh] at hsuf
        have := hsuf.subset List.mem_cons_self
        exact h.shellFree hshell (by simpa using this)

lemma Ends.step (h : Ends s) (hk : Counted s) (hl : Latched s) {a : Act}
    (hc : FreeDone s a) : Ends (Ctl.step s a) := by
  refine step_rule h ?_ ?_ ?_
  · intro c
    obtain ⟨h₁, h₂, h₃, h₄, h₅, h₆, h₇, h₈⟩ := h
    refine ⟨h₁, h₂, fun hf => ?_, h₄, fun hs hall => ?_, h₆, h₇, h₈⟩
    · exact (h₃ hf).imp_left (List.mem_append_left _)
    · exact h₅ hs fun t ht => hall t (List.mem_append_left _ ht)
  · intro i x t m ha hshell ht hn
    subst ha
    exact h.thread hk hl hc hshell ht hn
  · intro id _
    have hh : (s.shared.afterCallback id).history = .freed id :: s.shared.history := rfl
    obtain ⟨h₁, h₂, h₃, h₄, h₅, h₆, h₇, h₈⟩ := h
    refine ⟨h₁, fun hr => ?_, fun hf => ?_, fun hs => ?_, fun hs hall => ?_, h₆,
      fun ha r b hb => ?_, fun ha b hb => ?_⟩
    · exact ⟨List.mem_cons_of_mem _ (h₂ hr).1, (h₂ hr).2⟩
    · exact (h₃ hf).imp_right (List.mem_cons_of_mem _)
    · rw [hh]
      simpa using h₄ hs
    · rw [hh]
      simpa using h₅ hs hall
    · rw [hh] at hb
      rcases List.suffix_cons_iff.1 hb with heq | hb
      · simp at heq
      · exact h₇ ha r b hb
    · rw [hh] at hb
      rcases List.suffix_cons_iff.1 hb with heq | hb
      · simp at heq
      · exact h₈ ha b hb

/-! ### Every run -/

structure Sound (s : Sys) : Prop where
  locked : Locked s
  counted : Counted s
  latched : Latched s
  kept : Kept s
  ends : Ends s

lemma count_range (id : ℕ) :
    (List.range rxPkgCount).count id = if id < rxPkgCount then 1 else 0 := by
  rw [List.nodup_range.count]
  simp only [List.mem_range]

lemma sound_start : Sound start where
  locked := ⟨rfl, rfl⟩
  counted := by
    have halloc : ∀ id, (start.shared.history).count (.alloc id) =
        if id < rxPkgCount then 1 else 0 := by
      intro id
      rw [← count_range id]
      exact List.count_map_of_injective _ _ (fun _ _ h => Mark.alloc.inj h) id
    have hfreed : ∀ id, (start.shared.history).count (.freed id) = 0 := by
      intro id
      refine List.count_eq_zero.2 fun hmem => ?_
      simp [start] at hmem
    refine ⟨rfl, rfl, rfl, halloc, fun _ _ id => ?_⟩
    rw [hfreed]
    exact count_range id
  latched := by
    refine ⟨?_, ?_, ?_, ?_, .of_notMem ?_⟩
    all_goals simp [start]
  kept := fun _ _ _ => ⟨rfl, rfl, rfl, rfl⟩
  ends := by
    constructor
    all_goals simp [start]

lemma sound_run {as : List Act} (h : Meets step FreeDone start as) : Sound (run step start as) :=
  h.invariant (fun _ a hc hs => ⟨hs.locked.step a, hs.counted.step a, hs.latched.step hs.locked hc,
    hs.kept.step a, hs.ends.step hs.counted hs.latched hc⟩) sound_start

lemma two_le_countP {p : Mark → Bool} {l : List Mark} {a b : Mark} (ha : a ∈ l) (hb : b ∈ l)
    (hne : a ≠ b) (hpa : p a = true) (hpb : p b = true) : 2 ≤ l.countP p := by
  rw [List.countP_eq_length_filter]
  have hsub : [a, b] ⊆ l.filter p := by simp [ha, hb, hpa, hpb]
  exact (List.subperm_of_subset (by simp [hne]) hsub).length_le

lemma Sound.whole (h : Sound s) {e : Errno}
    (he : .stopReturned (some e) ∈ s.shared.history ∨ .detached (some e) ∈ s.shared.history) :
    s.shared.Whole ∧ s.shared.shell = true := by
  have hone := s.shared.stopAttempted.toNat_le
  have hone' := s.shared.retireAttempted.toNat_le
  have hstop := h.counted.stopping
  have hretire := h.counted.retiring
  -- Either way the stop did not finish, or the one retirement is over.
  have key : s.shared.stopAttempted = true ∧ s.shared.retired = false ∧
      ∀ t ∈ s.threads, t.releasing = false := by
    rcases he with he | he
    · have hpos := List.countP_pos_iff.2 ⟨_, he, show Mark.isStopReturned _ = true from rfl⟩
      have ha : s.shared.stopAttempted = true := by
        by_contra ha
        simp only [Bool.not_eq_true] at ha
        simp only [ha, Bool.toNat_false] at hstop
        omega
      have hf : s.shared.stopFinished = false := by
        by_contra hf
        rcases h.ends.returned (by simpa using hf) with hmem | hmem
        · have := s.le_total Thread.stopping hmem
          have hw : Thread.stopping (.stopRetained (.out none)) = 1 := rfl
          omega
        · have := two_le_countP he hmem (by simp) (p := Mark.isStopReturned) rfl rfl
          omega
      refine ⟨ha, ?_, ?_⟩
      · by_contra hr
        have := (h.ends.retired (by simpa using hr)).2
        rw [hf] at this
        cases this
      · intro t ht
        have hknow := h.latched.knows t ht
        cases t with
        | retire pt => cases pt <;> simp_all
        | _ => rfl
    · have hpos := List.countP_pos_iff.2 ⟨_, he, show Mark.isRetireEnd _ = true from rfl⟩
      have hra : s.shared.retireAttempted = true := by
        by_contra ha
        simp only [Bool.not_eq_true] at ha
        simp only [ha, Bool.toNat_false] at hretire
        omega
      refine ⟨h.ends.retireAttempted hra, ?_, ?_⟩
      · by_contra hr
        have hmem := (h.ends.retired (by simpa using hr)).1
        have := two_le_countP he hmem (by simp) (p := Mark.isRetireEnd) rfl rfl
        omega
      · intro t ht
        have hle := s.le_total Thread.retiring ht
        have hz : t.retiring = 0 := by omega
        cases t with
        | retire pt => cases pt <;> simp_all
        | _ => rfl
  obtain ⟨ha, hr, hrel⟩ := key
  have hshell : s.shared.shell = true := by
    by_contra hs
    have := h.ends.shell ha (by simpa using hs)
    rw [hr] at this
    cases this
  refine ⟨h.kept hshell (fun t ht => ⟨hrel t ht, ?_⟩) hr, hshell⟩
  by_contra hf
  have := h.latched.cold ha t ht
  rw [Thread.hot_of_freeing (by simpa using hf)] at this
  cases this

/-- Once the private stop was attempted, with no `tb_ctl_free` past its test: nothing is allocated,
started, or released in the ordinary way; the pool ends once, by a retirement that detached, and
empty; after a failure everything stays; and the shell goes only after the retirement. -/
theorem stop_retained_owns (as : List Act) (h : Meets step FreeDone start as) :
    NeverAfter Mark.ordinary .stopAttempted (run step start as).shared.history ∧
      (.stopAttempted ∈ (run step start as).shared.history → ∀ r before,
        .poolDestroy r :: before <:+ (run step start as).shared.history → Emptied r before) ∧
      (∀ e, .stopReturned (some e) ∈ (run step start as).shared.history ∨
          .detached (some e) ∈ (run step start as).shared.history →
        (run step start as).shared.Whole ∧ (run step start as).shared.shell = true) ∧
      (.stopAttempted ∈ (run step start as).shared.history → ∀ before,
        .shellFree :: before <:+ (run step start as).shared.history → .retired ∈ before) := by
  have hs := sound_run h
  refine ⟨hs.latched.never, fun ha => ?_, fun e he => hs.whole he, fun ha => ?_⟩
  · exact hs.ends.destroyed (hs.latched.latch.2 ha)
  · exact hs.ends.freed (hs.latched.latch.2 ha)

def callFor (c : Call) (i n : ℕ) : List Act := .call c :: List.replicate n (.thread i .ok)

/-- A channel that is started, acknowledges, is stopped privately, retired and freed. -/
def wholeLife : List Act :=
  List.flatten [callFor .start 0 6, callFor .ack 1 5, [.txCallback 10],
    callFor .stopRetained 2 9, callFor .retire 3 19, callFor .free 4 3]

theorem stop_retained_owns_wholeLife :
    .shellFree ∈ (run step start wholeLife).shared.history ∧
      (.stopAttempted ∈ (run step start wholeLife).shared.history → ∀ r before,
        .poolDestroy r :: before <:+ (run step start wholeLife).shared.history →
          Emptied r before) :=
  ⟨by decide +kernel, (stop_retained_owns wholeLife (by decide +kernel)).2.1⟩

def ordinaryFree : List Act := callFor .free 0 16

/-- `tb_ctl_free` is past its test when the private stop sets its latch. -/
def freeUnderway : List Act :=
  List.flatten [callFor .free 0 1, callFor .stopRetained 1 4, [.thread 0 .ok]]

/-- The flush of the private stop times out, and then the frame is done. -/
def lateFrame : List Act :=
  List.flatten [callFor .start 0 6, callFor .ack 1 5, callFor .stopRetained 2 7, [.txCallback 10]]

/-- The ordinary free destroys the pool and frees the shell with no retirement; one that is past
its test frees a ring after the latch; and a frame that the flush has not waited for is freed
after the stop has failed. -/
theorem ordinary_calls_release :
    ((run step start ordinaryFree).shared.history.take 2 = [.shellFree, .poolDestroy .free] ∧
        .retired ∉ (run step start ordinaryFree).shared.history ∧
        .detached none ∉ (run step start ordinaryFree).shared.history) ∧
      (run step start freeUnderway).shared.history.take 2 = [.ringFree .free, .stopAttempted] ∧
      (run step start lateFrame).shared.history.take 2 =
        [.freed 10, .stopReturned (some .etimedout)] := by
  decide +kernel

end YogaUsb4.Ctl
