import YogaUsb4.Ctl.Basic
import Mathlib.Tactic.MkIffOfInductiveProp

/-!
What a step of a thread does to the control channel: to the locks, to the counts of packets and of
calls, and to what the channel has. Each is said once, for all the functions of `ctl.c`.
-/

namespace YogaUsb4.Ctl

open HostState Steps Threads

/-! ### Who is where -/

@[simp] def Thread.hasMutex : Thread → ℕ
  | .transmit _ pt =>
    match pt with
    | .enqueueLocked | .enqueueUnlock _ | .txLocked | .txAlloc | .txRing _ | .txFree _ _
    | .txUnlock _ | .dequeueLocked _ | .dequeueUnlock _ => 1
    | _ => 0
  | .stop .clear | .stop .unlockMutex => 1
  | .stopRetained .attempt | .stopRetained .refused | .stopRetained (.unlockMutex _) => 1
  | .retire .admission | .retire (.refused _) | .retire .unlockMutex => 1
  | _ => 0

@[simp] def Thread.hasDomain : Thread → ℕ
  | .start .entry | .start .done | .stop .entry | .stop .done => 0
  | .stopRetained .entry | .stopRetained (.done _) => 0
  | .start _ | .stop _ | .stopRetained _ => 1
  | _ => 0

/-- The thread is past a test of the latch that found it clear, in `tb_ctl_free`. -/
@[simp] def Thread.freeing : Thread → Bool
  | .free pt =>
    match pt with
    | .ringRx | .ringTx | .packets _ | .pool | .kfree => true
    | _ => false
  | _ => false

/-- The thread is past a test of the latch that found it clear. -/
@[simp] def Thread.hot : Thread → Bool
  | .transmit _ .txAlloc | .transmit _ (.txRing _) | .transmit _ (.txFree _ _) => true
  | .start pt =>
    match pt with
    | .ringTx | .ringRx | .run => true
    | _ => false
  | .stop pt =>
    match pt with
    | .entry | .locked | .unlock | .done => false
    | _ => true
  | t => t.freeing

@[simp] def Thread.stopping : Thread → ℕ
  | .stopRetained (.unlockMutex _) | .stopRetained .flush | .stopRetained .nhiStop
  | .stopRetained (.out _) => 1
  | _ => 0

@[simp] def Thread.retiring : Thread → ℕ
  | .retire pt =>
    match pt with
    | .unlockMutex | .detach | .ringRx | .ringTx | .packets | .pool | .publish => 1
    | _ => 0
  | _ => 0

@[simp] def Thread.hasPool : Thread → ℕ
  | .retire .publish => 0
  | t => t.retiring

/-- The thread is the retirement after its detach. -/
@[simp] def Thread.releasing : Thread → Bool
  | .retire pt =>
    match pt with
    | .ringRx | .ringTx | .packets | .pool | .publish => true
    | _ => false
  | _ => false

@[simp] def Thread.hand (id : ℕ) : Thread → ℕ
  | .transmit _ (.txRing n) | .transmit _ (.txFree n _) => if n = id then 1 else 0
  | _ => 0

@[simp] def Thread.Knows (c : Channel) : Thread → Prop
  | .stopRetained .flush | .stopRetained (.unlockMutex _) | .stopRetained (.out (some _)) =>
    c.stopAttempted = true
  | .stopRetained .nhiStop => c.stopAttempted = true ∧ c.ring = []
  | .stopRetained (.out none) => c.stopFinished = true
  | .retire .unlockMutex | .retire .detach => c.retireAttempted = true
  | .retire .ringRx | .retire .ringTx | .retire .packets =>
    c.stopFinished = true ∧ .detached none ∈ c.history
  | .retire .pool | .retire .publish =>
    c.stopFinished = true ∧ .detached none ∈ c.history ∧ c.rxPackets = []
  | .free .shell => c.retired = true
  | _ => True

/-- The marks that no thread makes after the latch. -/
@[simp] def Mark.ordinary : Mark → Prop
  | .alloc _ | .ringStart | .ringStop | .ringFree .free | .poolDestroy .free => True
  | _ => False

@[simp] def Mark.isStopReturned : Mark → Bool
  | .stopReturned _ => true
  | _ => false

@[simp] def Mark.isRetireEnd : Mark → Bool
  | .detached (some _) | .retired => true
  | _ => false

@[simp] def Mark.isPoolEnd : Mark → Bool
  | .detached (some _) | .poolDestroy .retire => true
  | _ => false

/-! ### What a step does -/

@[mk_iff] structure Later (c c' : Channel) : Prop where
  stopAttempted : c.stopAttempted = true → c'.stopAttempted = true
  retireAttempted : c.retireAttempted = true → c'.retireAttempted = true
  stopFinished : c.stopFinished = true → c'.stopFinished = true
  retired : c.retired = true → c'.retired = true
  history : c.history <:+ c'.history
  rxPackets : c.rxPackets = [] → c'.rxPackets = []
  ring : c.stopAttempted = true → c.ring = [] → c'.ring = []

/-- Where the threads are, as far as a step moves one of them. -/
@[mk_iff] structure Moved (c : Channel) (t : Thread) (m : Move Channel Thread) : Prop where
  started : m.started = []
  mutex : t.hasMutex ≤ c.mutex.toNat →
    m.shared.mutex.toNat + t.hasMutex = c.mutex.toNat + m.self.hasMutex
  domain : t.hasDomain ≤ c.domainLock.toNat →
    m.shared.domainLock.toNat + t.hasDomain = c.domainLock.toNat + m.self.hasDomain
  hot : c.stopAttempted = true → t.hot = false → m.self.hot = false
  freeing : t.freeing = true → m.self.freeing = true ∨ m.shared.shell = false
  latch : m.shared.stopAttempted = c.stopAttempted ∨
    (t = .stopRetained .attempt ∧ c.stopAttempted = false ∧ m.self.hot = false ∧
      m.shared.stopAttempted = true)
  marked : m.shared.history = c.history ∨ ∃ mk, m.shared.history = mk :: c.history ∧
    (mk.ordinary → t.hot = true)
  later : (c.stopAttempted = true → t.hot = false) → Later c m.shared
  knows : (c.stopFinished = true → c.stopAttempted = true ∧ c.ring = []) → t.Knows c →
    m.self.Knows m.shared

/-- The counts that a step keeps: every latch is one call in progress or one end of it, and
every packet is in one place. -/
@[mk_iff] structure Accounted (c : Channel) (t : Thread) (m : Move Channel Thread) : Prop where
  stopping : m.self.stopping + m.shared.history.countP Mark.isStopReturned +
      c.stopAttempted.toNat =
    t.stopping + c.history.countP Mark.isStopReturned + m.shared.stopAttempted.toNat
  retiring : m.self.retiring + m.shared.history.countP Mark.isRetireEnd +
      c.retireAttempted.toNat =
    t.retiring + c.history.countP Mark.isRetireEnd + m.shared.retireAttempted.toNat
  hasPool : m.self.hasPool + m.shared.history.countP Mark.isPoolEnd + c.retireAttempted.toNat =
    t.hasPool + c.history.countP Mark.isPoolEnd + m.shared.retireAttempted.toNat
  alloc : ∀ id, m.shared.history.count (.alloc id) + (if id < c.allocated then 1 else 0) =
    c.history.count (.alloc id) + (if id < m.shared.allocated then 1 else 0)
  packets : t.freeing = false → ∀ id,
    m.shared.rxPackets.count id + m.self.hand id + m.shared.ring.count id +
        m.shared.history.count (.freed id) + (if id < c.allocated then 1 else 0) =
      c.rxPackets.count id + t.hand id + c.ring.count id + c.history.count (.freed id) +
        (if id < m.shared.allocated then 1 else 0)

variable {m : Move Channel Thread} {c : Channel} {a : Choice}

variable {request : Option ℕ}

lemma ctlTx_moved {pt : TxAt} (h : ctlTx c request a pt = some m) :
    Moved c (.transmit request pt) m := by
  have hl := c.mutex.toNat_le
  cases request <;> cases pt <;> simp only [ctlTx, txReturn, lockMutex, unlockMutex] at h <;>
    (repeat' split at h) <;> cases h <;> simp_all [moved_iff, later_iff] <;> omega

lemma ctlStart_moved {pt : StartAt} (h : ctlStart c pt = some m) : Moved c (.start pt) m := by
  have hl := c.domainLock.toNat_le
  cases pt <;> simp only [ctlStart, lockDomain, unlockDomain] at h <;> (repeat' split at h) <;>
    cases h <;> simp_all [moved_iff, later_iff]
  omega

lemma ctlStop_moved {pt : StopAt} (h : ctlStop c pt = some m) : Moved c (.stop pt) m := by
  have hl := c.domainLock.toNat_le
  have hm := c.mutex.toNat_le
  cases pt <;> simp only [ctlStop, lockDomain, unlockDomain, lockMutex, unlockMutex] at h <;>
    (repeat' split at h) <;> cases h <;> simp_all [moved_iff, later_iff] <;> omega

lemma ctlFree_moved {pt : FreeAt} (h : ctlFree c pt = some m) : Moved c (.free pt) m := by
  cases pt <;> simp only [ctlFree] at h <;> (repeat' split at h) <;> cases h <;>
    simp_all [moved_iff, later_iff]

variable {pt : StopRetainedAt}

lemma ctlStopX1Retained_moved (h : ctlStopX1Retained c a pt = some m) :
    Moved c (.stopRetained pt) m := by
  have hl := c.domainLock.toNat_le
  have hm := c.mutex.toNat_le
  rcases pt with _ | _ | _ | _ | _ | (_ | _) | _ | _ | _ | _ | _ <;>
    simp only [ctlStopX1Retained, lockDomain, unlockDomain, lockMutex, unlockMutex] at h <;>
    (repeat' split at h) <;> cases h <;> simp_all [moved_iff, later_iff] <;> omega

lemma ctlRetireX1Stopped_moved {pt : RetireAt} (h : ctlRetireX1Stopped c a pt = some m) :
    Moved c (.retire pt) m := by
  have hm := c.mutex.toNat_le
  cases pt <;> simp only [ctlRetireX1Stopped, lockMutex, unlockMutex] at h <;>
    (repeat' split at h) <;> cases h <;> simp_all [moved_iff, later_iff] <;> omega

lemma Thread.next_moved {t : Thread} (h : t.next c a = some m) : Moved c t m := by
  cases t with
  | transmit request pt => exact ctlTx_moved h
  | start pt => exact ctlStart_moved h
  | stop pt => exact ctlStop_moved h
  | stopRetained pt => exact ctlStopX1Retained_moved h
  | retire pt => exact ctlRetireX1Stopped_moved h
  | free pt => exact ctlFree_moved h

lemma ctlTx_accounted {pt : TxAt} (h : ctlTx c request a pt = some m) :
    Accounted c (.transmit request pt) m := by
  cases request <;> cases pt <;> simp only [ctlTx, txReturn, lockMutex, unlockMutex] at h <;>
    (repeat' split at h) <;> cases h <;> simp [accounted_iff, List.count_cons] <;>
    (try constructor) <;> intros <;> split_ifs <;> omega

lemma ctlStart_accounted {pt : StartAt}
    (h : ctlStart c pt = some m) : Accounted c (.start pt) m := by
  cases pt <;> simp only [ctlStart, lockDomain, unlockDomain] at h <;> (repeat' split at h) <;>
    cases h <;> simp [accounted_iff]

lemma ctlStop_accounted {pt : StopAt} (h : ctlStop c pt = some m) : Accounted c (.stop pt) m := by
  cases pt <;> simp only [ctlStop, lockDomain, unlockDomain, lockMutex, unlockMutex] at h <;>
    (repeat' split at h) <;> cases h <;> simp [accounted_iff]

lemma ctlFree_accounted {pt : FreeAt} (h : ctlFree c pt = some m) : Accounted c (.free pt) m := by
  cases pt <;> simp only [ctlFree] at h <;> (repeat' split at h) <;> cases h <;>
    simp [accounted_iff]

lemma ctlStopX1Retained_accounted (h : ctlStopX1Retained c a pt = some m) :
    Accounted c (.stopRetained pt) m := by
  rcases pt with _ | _ | _ | _ | _ | (_ | _) | _ | _ | _ | _ | _ <;>
    simp only [ctlStopX1Retained, lockDomain, unlockDomain, lockMutex, unlockMutex] at h <;>
    (repeat' split at h) <;> cases h <;> simp_all [accounted_iff, List.countP_cons] <;> omega

lemma ctlRetireX1Stopped_accounted {pt : RetireAt} (h : ctlRetireX1Stopped c a pt = some m) :
    Accounted c (.retire pt) m := by
  cases pt <;> simp only [ctlRetireX1Stopped, lockMutex, unlockMutex] at h <;>
    (repeat' split at h) <;> cases h <;>
    simp_all [accounted_iff, List.countP_cons, List.count_cons] <;> omega

lemma Thread.next_accounted {t : Thread} (h : t.next c a = some m) : Accounted c t m := by
  cases t with
  | transmit request pt => exact ctlTx_accounted h
  | start pt => exact ctlStart_accounted h
  | stop pt => exact ctlStop_accounted h
  | stopRetained pt => exact ctlStopX1Retained_accounted h
  | retire pt => exact ctlRetireX1Stopped_accounted h
  | free pt => exact ctlFree_accounted h

@[mk_iff] structure Released (c : Channel) (t : Thread) (m : Move Channel Thread) : Prop where
  kept : t.releasing = false → t.freeing = false →
    m.shared.tx = c.tx ∧ m.shared.rx = c.rx ∧ m.shared.framePool = c.framePool ∧
      m.shared.rxPackets = c.rxPackets ∧ m.shared.retired = c.retired
  releasing : t.releasing = true → m.self.releasing = true ∨ m.shared.retired = true
  shell : m.shared.shell = c.shell ∨
    (t = .free .shell ∨ t.freeing = true) ∧ m.shared.history = .shellFree :: c.history
  retireAttempted : (c.retireAttempted = true → c.stopAttempted = true) →
    m.shared.retireAttempted = true → m.shared.stopAttempted = true
  retired : m.shared.retired = c.retired ∨
    t = .retire .publish ∧ m.shared.history = .retired :: c.history
  finished : t.Knows c → m.shared.stopFinished = true → c.stopFinished = true ∨
    m.shared.stopAttempted = true ∧ m.shared.ring = []
  destroyed : ∀ r, m.shared.history = .poolDestroy r :: c.history →
    r = .retire ∧ t = .retire .pool ∨ r = .free ∧ m.self.freeing = true
  freed : m.shared.history = .shellFree :: c.history →
    m.shared.shell = false ∧ (t = .free .shell ∨ t.freeing = true)
  latched : m.shared.history = .stopAttempted :: c.history → m.shared.stopAttempted = true
  attempted : m.shared.stopAttempted = c.stopAttempted ∨
    m.shared.history = .stopAttempted :: c.history
  ended : m.shared.stopFinished = true → c.stopFinished = true ∨
    m.self = .stopRetained (.out none)
  returned : t = .stopRetained (.out none) → m.shared.history = .stopReturned none :: c.history

lemma ctlTx_released {pt : TxAt} (h : ctlTx c request a pt = some m) :
    Released c (.transmit request pt) m := by
  cases request <;> cases pt <;> simp only [ctlTx, txReturn, lockMutex, unlockMutex] at h <;>
    (repeat' split at h) <;> cases h <;> simp [released_iff] <;> tauto

lemma ctlStart_released {pt : StartAt} (h : ctlStart c pt = some m) : Released c (.start pt) m := by
  cases pt <;> simp only [ctlStart, lockDomain, unlockDomain] at h <;> (repeat' split at h) <;>
    cases h <;> simp [released_iff] <;> tauto

lemma ctlStop_released {pt : StopAt} (h : ctlStop c pt = some m) : Released c (.stop pt) m := by
  cases pt <;> simp only [ctlStop, lockDomain, unlockDomain, lockMutex, unlockMutex] at h <;>
    (repeat' split at h) <;> cases h <;> simp [released_iff] <;> tauto

lemma ctlFree_released {pt : FreeAt} (h : ctlFree c pt = some m) : Released c (.free pt) m := by
  cases pt <;> simp only [ctlFree] at h <;> (repeat' split at h) <;> cases h <;>
    simp [released_iff] <;> tauto

lemma ctlStopX1Retained_released (h : ctlStopX1Retained c a pt = some m) :
    Released c (.stopRetained pt) m := by
  rcases pt with _ | _ | _ | _ | _ | (_ | _) | _ | _ | _ | _ | _ <;>
    simp only [ctlStopX1Retained, lockDomain, unlockDomain, lockMutex, unlockMutex] at h <;>
    (repeat' split at h) <;> cases h <;> simp_all [released_iff]

lemma ctlRetireX1Stopped_released {pt : RetireAt} (h : ctlRetireX1Stopped c a pt = some m) :
    Released c (.retire pt) m := by
  cases pt <;> simp only [ctlRetireX1Stopped, lockMutex, unlockMutex] at h <;>
    (repeat' split at h) <;> cases h <;> simp_all [released_iff]

lemma Thread.next_released {t : Thread} (h : t.next c a = some m) : Released c t m := by
  cases t with
  | transmit request pt => exact ctlTx_released h
  | start pt => exact ctlStart_released h
  | stop pt => exact ctlStop_released h
  | stopRetained pt => exact ctlStopX1Retained_released h
  | retire pt => exact ctlRetireX1Stopped_released h
  | free pt => exact ctlFree_released h

end YogaUsb4.Ctl
