import YogaUsb4.Events.Basic
import Mathlib.Tactic.MkIffOfInductiveProp

/-!
What the hold and the freeze come to, over every interleaving. The counter is the number of
callbacks and work items there are, so a caller that reads zero after it has published the flag
knows that nobody is past his test of it; and the generation is the number of records, so one that
has not moved says that none was made.
-/

namespace YogaUsb4.Events

open HostState Steps Threads

/-! ### What is counted -/

/-- A callback is in progress from the statement that counts it to the one that takes it back. -/
@[simp] def Thread.inProgress : Thread → ℕ
  | .callback _ .entered => 0
  | .callback _ .done => 0
  | .callback _ _ => 1
  | .worker _ _ => 0

/-- The work items of a thread. An item is queued from the statement before `queue_delayed_work`
that counts it, and then belongs to the thread that queues it. -/
@[simp] def Thread.items : Thread → ℕ
  | .callback _ (.accounted _) => 1
  | .callback _ _ => 0
  | .worker _ .done => 0
  | .worker _ .accounted => 2
  | .worker _ _ => 1

@[simp] def Thread.inside : Thread → ℕ
  | .callback _ _ => 0
  | .worker _ pt =>
    match pt with
    | .queued | .started | .unlocked | .unregistering | .leaving | .done => 0
    | _ => 1

@[simp] def CallerAt.inside : CallerAt → ℕ
  | .outside => 0
  | _ => 1

structure Counted (s : Sys) : Prop where
  pending : s.shared.pending = s.total Thread.inProgress + s.total Thread.items
  lock : s.total Thread.inside + s.shared.caller.inside = s.shared.locked.toNat

/-- What a step of a thread does to the counter and to the lock. -/
structure Moved (d : Domain) (t : Thread) (m : Move Domain Thread) : Prop where
  pending : m.shared.pending + (t.inProgress + t.items) =
    d.pending + (m.self.inProgress + m.self.items) +
      ((m.started.map Thread.inProgress).sum + (m.started.map Thread.items).sum)
  lock : t.inside ≤ d.locked.toNat →
    m.shared.locked.toNat + t.inside =
      d.locked.toNat + m.self.inside + (m.started.map Thread.inside).sum

variable {d : Domain} {m : Move Domain Thread} {c : Choice}

lemma handleEvent_moved {p : Pkg} {pt : CallbackAt}
    (h : handleEvent d p c pt = some m) : Moved d (.callback p pt) m := by
  cases pt <;> simp only [handleEvent] at h <;> (try split at h) <;> cases h <;>
    constructor <;> simp <;> omega

lemma handleWork_moved {w : Work} {pt : WorkerAt}
    (h : handleWork d w c pt = some m) : Moved d (.worker w pt) m := by
  have hl := d.locked.toNat_le
  cases pt <;> simp only [handleWork] at h <;> (try split at h) <;> cases h <;>
    constructor <;> simp_all <;> omega

lemma Thread.next_moved {t : Thread} (h : t.next d c = some m) : Moved d t m := by
  cases t with
  | callback p pt => exact handleEvent_moved h
  | worker w pt => exact handleWork_moved h

/-! ### What a step can do -/

/-- What a caller is promised not to happen any more: that somebody speaks on the control channel
or queues work, and that a worker changes something. -/
inductive Deed
  | speak | change
  deriving DecidableEq

def Mark.deed : Mark → Option Deed
  | .ack | .queue _ => some .speak
  | .change => some .change
  | _ => none

def Mark.Does (k : Deed) (m : Mark) : Prop := m.deed = some k

/-- The thread is past its test of the flag and may still do it. -/
def Thread.may : Deed → Thread → Bool
  | .speak, .callback p .admitted => p.acked.isSome
  | .speak, .callback _ (.acked _) => true
  | .speak, .callback _ (.accounted _) => true
  | .change, .worker _ .unregistering => true
  | _, .worker _ pt =>
    match pt with
    | .unblocked | .running | .scanning | .scanBlocked | .queueing | .accounted => true
    | _ => false
  | _, _ => false

/-- What a step of a callback, of a worker or of Type-C leaves: it makes one record, or does one
deed that it may, or neither. -/
structure Noise (may : Deed → Prop) (d d' : Domain) : Prop where
  caller : d'.caller = d.caller
  retained : d'.retained = d.retained
  holdAttempted : d'.holdAttempted = d.holdAttempted
  retainedGeneration : d'.retainedGeneration = d.retainedGeneration
  history : (d'.history = d.history ∧ d'.generation = d.generation) ∨
    (∃ r, d'.history = .recorded r :: d.history ∧ d'.generation = d.generation + 1) ∨
    ∃ m k, m.deed = some k ∧ may k ∧ d'.history = m :: d.history ∧ d'.generation = d.generation

variable {may : Deed → Prop}

lemma Noise.of_eq (pending : ℤ) (locked active : Bool) :
    Noise may d { d with pending := pending, locked := locked, hotplugActive := active } :=
  ⟨rfl, rfl, rfl, rfl, .inl ⟨rfl, rfl⟩⟩

lemma Noise.invalidate (d : Domain) (r : Record) :
    Noise may d (d.invalidatePcie r) :=
  ⟨rfl, rfl, rfl, rfl, .inr (.inl ⟨r, rfl, rfl⟩)⟩

lemma Noise.deed (d : Domain) {m : Mark} {k : Deed} (hm : m.deed = some k)
    (hk : may k) : Noise may d (d.mark m) :=
  ⟨rfl, rfl, rfl, rfl, .inr (.inr ⟨m, k, hm, hk, rfl, rfl⟩)⟩

lemma handleEvent_noise {p : Pkg} {pt : CallbackAt} (h : handleEvent d p c pt = some m) :
    Noise (fun k => Thread.may k (.callback p pt)) d m.shared := by
  cases pt with
  | counted =>
    cases h
    split
    · exact .of_eq _ _ _
    · exact .invalidate d _
  | admitted =>
    simp only [handleEvent] at h
    split at h <;> cases h
    · exact .of_eq _ _ _
    all_goals
      rename_i hp
      exact .deed d (k := .speak) rfl (by simp [Thread.may, hp])
  | acked w =>
    simp only [handleEvent] at h
    split at h <;> cases h <;> exact .of_eq _ _ _
  | accounted w =>
    cases h
    exact .deed d (k := .speak) rfl rfl
  | done => cases h
  | _ =>
    cases h
    exact .of_eq _ _ _

lemma handleWork_noise {w : Work} {pt : WorkerAt} (h : handleWork d w c pt = some m) :
    Noise (fun k => Thread.may k (.worker w pt)) d m.shared := by
  cases pt with
  | started =>
    simp only [handleWork] at h
    split at h <;> cases h
    exact .of_eq _ _ _
  | running =>
    simp only [handleWork] at h
    split at h <;> cases h
    · exact .deed d (k := .change) rfl rfl
    all_goals exact .of_eq _ _ _
  | queueing =>
    simp only [handleWork] at h
    split at h <;> cases h <;> exact .of_eq _ _ _
  | blocked | scanBlocked =>
    cases h
    exact .invalidate d _
  | accounted =>
    cases h
    exact .deed d (k := .speak) rfl rfl
  | unregistering =>
    cases h
    exact .deed d (k := .change) rfl rfl
  | done => cases h
  | _ =>
    cases h
    exact .of_eq _ _ _

lemma Thread.next_noise {t : Thread}
    (h : t.next d c = some m) : Noise (fun k => t.may k) d m.shared := by
  cases t with
  | callback p pt => exact handleEvent_noise h
  | worker w pt => exact handleWork_noise h

lemma Thread.next_may {t : Thread} {k : Deed}
    (h : t.next d c = some m) (hr : d.retained = true) (ht : t.may k = false) :
    m.self.may k = false ∧ ∀ u ∈ m.started, Thread.may k u = false := by
  cases t with
  | callback p pt =>
    cases pt <;> cases k <;> simp only [Thread.next, handleEvent] at h <;> (try split at h) <;>
      cases h <;> simp_all [Thread.may]
  | worker w pt =>
    cases pt <;> cases k <;> simp only [Thread.next, handleWork] at h <;> (try split at h) <;>
      cases h <;> simp_all [Thread.may]

lemma Thread.may_eq_false {t : Thread} (h : t.inProgress + t.items = 0) (k : Deed) :
    t.may k = false := by
  cases t with
  | callback p pt => cases pt <;> cases k <;> simp_all [Thread.may]
  | worker w pt => cases pt <;> cases k <;> simp_all [Thread.may]

/-- The statement of a call that returns its success. -/
def Call.finish : Call → CallerAt
  | .hold => .holdFinish
  | .stop => .stopFinish
  | .stopPulled => .locked
  | .stopped => .stoppedFinish
  | .freeze => .freezeReady

/-- Which statement of a call makes a mark. -/
@[simp] def Mark.Due (d : Domain) : Mark → Prop
  | .snapshot => d.caller = .holdSnapshot
  | .matched site => d.caller = .check site .generationAgain ∧
      d.generation = d.retainedGeneration
  | .returned c none => d.caller = c.finish
  | .returned _ (some _) => True
  | _ => False

/-- What was done and seen on the way to a statement. -/
@[simp] def CallerAt.From (d d' : Domain) : CallerAt → Prop
  | .holdPending => d'.holdAttempted = false
  | .holdSnapshot => d.caller = .holdPending
  | .check _ .pending => d'.retained = true ∧ d'.holdAttempted = true
  | .check site .identity => d.caller = .check site .pending ∧ d.pending = 0
  | .check site .generationAgain => d.caller = .check site .identity
  | .holdFinish => ∃ site, d.caller = .check site .generationAgain
  | .stopFinish => d'.history = .matched .last :: d.history
  | .stoppedFinish => d'.history = .matched .stopped :: d.history
  | .freezePending => d'.retained = false
  | .freezePublish => d.caller = .freezePending ∧ d'.retained = d.retained
  | .freezeReady => d'.retained = true
  | _ => True

/-- What a statement of a call leaves: it records nothing and does no deed. -/
@[mk_iff] structure Within (d d' : Domain) : Prop where
  pending : d'.pending = d.pending
  generation : d'.generation = d.generation
  locked : d'.locked = d.locked
  inside : d'.caller.inside = 1
  retained : d.retained = true → d'.retained = true
  came : d'.caller.From d d'
  history : d'.history = d.history ∨ ∃ m : Mark, d'.history = m :: d.history ∧ m.Due d
  held : (d'.holdAttempted = d.holdAttempted ∧ d'.retainedGeneration = d.retainedGeneration ∧
      (d'.history = .snapshot :: d.history → False)) ∨
    (d.caller = .holdSnapshot ∧ d'.holdAttempted = true ∧
      d'.retainedGeneration = d.generation ∧ d'.history = .snapshot :: d.history)

lemma Within.checkFailed (d : Domain) (e : Errno) (site : Site) :
    Within d (d.checkFailed e site) := by
  cases site <;> simp [Domain.checkFailed, within_iff]

lemma Within.retainedCheck {site : Site} {pt : CheckAt}
    (hc : d.caller = .check site pt) (answer : Option Errno) :
    Within d (d.retainedCheck site answer pt) := by
  cases pt with
  | generation =>
    simp only [Domain.retainedCheck]
    split
    · exact .checkFailed d _ site
    · simp_all [within_iff]
  | pending =>
    simp only [Domain.retainedCheck]
    split
    · exact .checkFailed d _ site
    · simp_all [within_iff]
  | identity =>
    simp only [Domain.retainedCheck]
    split
    · exact .checkFailed d _ site
    · simp_all [within_iff]
  | generationAgain =>
    simp only [Domain.retainedCheck]
    split
    · cases site <;> simp_all [Domain.checkPassed, within_iff]
    · exact .checkFailed d _ site

lemma Within.goOn (hd : d.caller ≠ .outside) (hl : d.caller ≠ .locked)
    (answer : Option Errno) : Within d (d.goOn answer) := by
  cases hc : d.caller with
  | outside => exact absurd hc hd
  | locked => exact absurd hc hl
  | check site pt =>
    simp only [Domain.goOn, hc]
    exact .retainedCheck hc answer
  | _ =>
    simp only [Domain.goOn, hc]
    (try split) <;> simp_all [within_iff, Call.finish]

lemma Domain.ask_cases (d : Domain) (q : Ask) :
    d.ask q = d ∨
      (d.caller = .outside ∧ d.locked = false ∧
        d.ask q = { d with locked := true, caller := .locked }) ∨
      (d.caller = .locked ∧ d.ask q = { d with locked := false, caller := .outside }) ∨
      (d.caller ≠ .outside ∧ Within d (d.ask q)) := by
  cases q with
  | go answer =>
    by_cases hc : d.caller = .outside
    · exact .inl (by simp [Domain.ask, Domain.goOn, hc])
    · by_cases hl : d.caller = .locked
      · exact .inl (by simp [Domain.ask, Domain.goOn, hl])
      · exact .inr (.inr (.inr ⟨hc, .goOn hc hl answer⟩))
  | _ =>
    simp only [Domain.ask, Domain.holdPcie, Domain.stopPcieRetained, Domain.stopPciePulled,
      Domain.idleFreeze]
    split
    · rename_i hc
      repeat' split
      all_goals simp_all [within_iff, Call.finish]
    · exact .inl rfl

/-! ### The counter -/

variable {s : Sys}

lemma Counted.shared (h : Counted s) (hp : d.pending = s.shared.pending)
    (hl : d.locked.toNat + s.shared.caller.inside = s.shared.locked.toNat + d.caller.inside) :
    Counted ⟨d, s.threads⟩ := by
  have h₁ := h.pending
  have h₂ := h.lock
  constructor
  · exact hp.trans h₁
  · change s.total Thread.inside + d.caller.inside = d.locked.toNat
    omega

lemma Counted.ask (h : Counted s) (q : Ask) :
    Counted ⟨s.shared.ask q, s.threads⟩ := by
  have hl := h.lock
  rcases s.shared.ask_cases q with hq | ⟨hc, hf, hq⟩ | ⟨hc, hq⟩ | ⟨hc, hq⟩
  · rw [hq]
    exact h
  · rw [hq]
    exact h.shared rfl (by simp [hc, hf])
  · rw [hq]
    refine h.shared rfl ?_
    have := s.shared.locked.toNat_le
    simp only [hc, CallerAt.inside, Bool.toNat_false] at hl ⊢
    omega
  · refine h.shared hq.pending ?_
    have : s.shared.caller.inside = 1 := by
      cases hs : s.shared.caller <;> simp_all
    rw [hq.locked, hq.inside, this]

lemma Counted.thread (h : Counted s) (i : ℕ) (c : Choice) :
    Counted (s.move Thread.next i c) := by
  rcases (Pool.move_cases i c : s.move Thread.next i c = s ∨ _) with hm | ⟨t, m, ht, hn, hm⟩
  · rw [hm]
    exact h
  · have hmoved := Thread.next_moved hn
    have h₁ := Pool.total_move Thread.inProgress (m := m) ht
    have h₂ := Pool.total_move Thread.items (m := m) ht
    have h₃ := Pool.total_move Thread.inside (m := m) ht
    have hle := s.le_total Thread.inside (List.mem_of_getElem? ht)
    have hp := h.pending
    have hl := h.lock
    have hcaller := (Thread.next_noise hn).caller
    rw [hm]
    constructor
    · have := hmoved.pending
      change m.shared.pending = _
      omega
    · have := hmoved.lock (by omega)
      change _ + m.shared.caller.inside = m.shared.locked.toNat
      rw [hcaller]
      omega

lemma Counted.step (h : Counted s) (a : Act) : Counted (step s a) := by
  cases a with
  | arrive p =>
    have h₁ := h.pending
    have h₂ := h.lock
    constructor <;> simp_all [Events.step, Pool.total]
  | thread i c => exact h.thread i c
  | invalidate => exact h.shared rfl rfl
  | setActive active =>
    simp only [Events.step]
    split
    · exact h
    · split <;> exact h.shared rfl rfl
  | caller q => exact h.ask q

lemma counted_run (as : List Act) : Counted (run step start as) :=
  run_invariant (fun _ a h => h.step a) as ⟨rfl, rfl⟩

/-! ### Nobody is past his test -/

/-- The flag is set, and no thread may do it without testing the flag. -/
def Quiet (k : Deed) (s : Sys) : Prop :=
  s.shared.retained = true ∧ ∀ t ∈ s.threads, Thread.may k t = false

lemma step_noise (s : Sys) (a : Act) :
    (∃ q, a = .caller q) ∨
      Noise (fun k => ∃ t ∈ s.threads, t.may k = true) s.shared (step s a).shared := by
  cases a with
  | caller q => exact .inl ⟨q, rfl⟩
  | arrive p => exact .inr (.of_eq _ _ _)
  | thread i c =>
    right
    rcases (Pool.move_cases i c : s.move Thread.next i c = s ∨ _) with hm | ⟨t, m, ht, hn, hm⟩
    · simp only [step, hm]
      exact .of_eq _ _ _
    · simp only [step, hm]
      obtain ⟨h₁, h₂, h₃, h₄, h₅⟩ := Thread.next_noise hn
      refine ⟨h₁, h₂, h₃, h₄, ?_⟩
      rcases h₅ with h | h | ⟨mk, k, hd, hk, h⟩
      · exact .inl h
      · exact .inr (.inl h)
      · exact .inr (.inr ⟨mk, k, hd, ⟨t, List.mem_of_getElem? ht, hk⟩, h⟩)
  | invalidate => exact .inr (.invalidate _ _)
  | setActive active =>
    right
    simp only [step]
    split
    · exact .of_eq _ _ _
    · split
      · exact .invalidate _ _
      · exact .of_eq _ _ _

lemma step_retained (a : Act) (h : s.shared.retained = true) :
    (step s a).shared.retained = true := by
  rcases step_noise s a with ⟨q, rfl⟩ | hn
  · simp only [step]
    rcases s.shared.ask_cases q with hq | ⟨-, -, hq⟩ | ⟨-, hq⟩ | ⟨-, hq⟩
    · rwa [hq]
    · rwa [hq]
    · rwa [hq]
    · exact hq.retained h
  · rwa [hn.retained]

lemma Quiet.step {k : Deed} (h : Quiet k s) (a : Act) : Quiet k (step s a) := by
  refine ⟨step_retained a h.1, ?_⟩
  cases a with
  | arrive p =>
    intro t ht
    rcases List.mem_append.1 ht with ht | ht
    · exact h.2 t ht
    · obtain rfl := List.mem_singleton.1 ht
      cases k <;> rfl
  | thread i c =>
    rcases (Pool.move_cases i c : s.move Thread.next i c = s ∨ _) with hm | ⟨t, m, ht, hn, hm⟩
    · simp only [Events.step, hm]
      exact h.2
    · simp only [Events.step, hm]
      have hnext := Thread.next_may hn h.1 (h.2 t (List.mem_of_getElem? ht))
      intro u hu
      rcases mem_set_append hu with hu | rfl | hu
      · exact h.2 u hu
      · exact hnext.1
      · exact hnext.2 u hu
  | setActive active =>
    simp only [Events.step]
    repeat' split
    all_goals exact h.2
  | _ => exact h.2

lemma neverAfter_step {k : Deed} {x : Mark}
    (h : NeverAfter (Mark.Does k) x s.shared.history) (hq : x ∈ s.shared.history → Quiet k s)
    (a : Act) :
    NeverAfter (Mark.Does k) x (step s a).shared.history := by
  rcases step_noise s a with ⟨q, rfl⟩ | hn
  · simp only [step]
    rcases s.shared.ask_cases q with hq | ⟨-, -, hq⟩ | ⟨-, hq⟩ | ⟨-, hq⟩
    · rwa [hq]
    · rwa [hq]
    · rwa [hq]
    · rcases hq.history with hh | ⟨m, hh, hm⟩
      · rwa [hh]
      · rw [hh]
        refine h.cons fun hk => ?_
        cases m <;> simp_all [Mark.Does, Mark.deed]
  · rcases hn.history with ⟨hh, -⟩ | ⟨r, hh, -⟩ | ⟨m, k', hm, ⟨t, ht, hmay⟩, hh, -⟩
    · rwa [hh]
    · rw [hh]
      exact h.cons (by simp [Mark.Does, Mark.deed])
    · rw [hh]
      refine h.cons fun hk hx => ?_
      obtain rfl : k' = k := by simpa [Mark.Does, hm] using hk
      rw [(hq hx).2 t ht] at hmay
      exact Bool.false_ne_true hmay

/-! ### The hold -/

/-- The caller has read zero in a check, or is about to return from the hold. -/
def CallerAt.counted : CallerAt → Bool
  | .check _ .identity | .check _ .generationAgain | .holdFinish => true
  | _ => false

lemma Counted.quiet (h : Counted s) (hp : s.shared.pending = 0)
    (hr : s.shared.retained = true) (k : Deed) : Quiet k s := by
  have hsum := h.pending
  refine ⟨hr, fun t ht => Thread.may_eq_false ?_ k⟩
  have h₁ := s.le_total Thread.inProgress ht
  have h₂ := s.le_total Thread.items ht
  omega

/-- What the caller has learnt about the threads. -/
structure Held (s : Sys) : Prop where
  counted : Counted s
  flag : ∀ site, s.shared.caller = .check site .pending → s.shared.retained = true
  passed : s.shared.caller.counted = true → ∀ k, Quiet k s
  returned : .returned .hold none ∈ s.shared.history → ∀ k, Quiet k s
  never : ∀ k, NeverAfter (Mark.Does k) (.returned .hold none) s.shared.history

lemma Held.ask (h : Held s) (q : Ask) : Held (step s (.caller q)) := by
  have hquiet : ∀ k, Quiet k s → Quiet k (step s (.caller q)) := fun _ hk => hk.step _
  have hnever : ∀ k, NeverAfter (Mark.Does k) (.returned .hold none)
      (step s (.caller q)).shared.history :=
    fun k => neverAfter_step (h.never k) (fun hx => h.returned hx k) _
  -- Nothing happens, the lock is taken or given back, or the call under way takes a step.
  rcases s.shared.ask_cases q with hq | ⟨hc, hf, hq⟩ | ⟨hc, hq⟩ | ⟨hc, hw⟩
  · have hs : step s (.caller q) = s := by simp only [step, hq]
    rwa [hs]
  · refine ⟨h.counted.step _, ?_, ?_, ?_, hnever⟩
    · simp [step, hq]
    · simp [step, hq, CallerAt.counted]
    · intro hx k
      exact hquiet k (h.returned (by simpa [step, hq] using hx) k)
  · refine ⟨h.counted.step _, ?_, ?_, ?_, hnever⟩
    · simp [step, hq]
    · simp [step, hq, CallerAt.counted]
    · intro hx k
      exact hquiet k (h.returned (by simpa [step, hq] using hx) k)
  · refine ⟨h.counted.step _, ?_, ?_, ?_, hnever⟩
    · intro site hsite
      have hcame := hw.came
      change (s.shared.ask q).caller = _ at hsite
      rw [hsite] at hcame
      exact hcame.1
    · intro hcount k
      apply hquiet k
      have hcame := hw.came
      change (s.shared.ask q).caller.counted = true at hcount
      cases hcaller : (s.shared.ask q).caller with
      | check site pt =>
        rw [hcaller] at hcount hcame
        cases pt with
        | identity => exact h.counted.quiet hcame.2 (h.flag site hcame.1) k
        | generationAgain => exact h.passed (by rw [show s.shared.caller = _ from hcame]; rfl) k
        | _ => cases hcount
      | holdFinish =>
        rw [hcaller] at hcame
        obtain ⟨site, hsite⟩ := hcame
        exact h.passed (by rw [hsite]; rfl) k
      | _ =>
        rw [hcaller] at hcount
        cases hcount
    · intro hx k
      apply hquiet k
      change Mark.returned .hold none ∈ (s.shared.ask q).history at hx
      rcases hw.history with hh | ⟨m, hh, hm⟩
      · exact h.returned (hh ▸ hx) k
      · rw [hh] at hx
        rcases List.mem_cons.1 hx with rfl | hx
        · exact h.passed (by rw [show s.shared.caller = _ from hm]; rfl) k
        · exact h.returned hx k

lemma Held.step (h : Held s) (a : Act) : Held (step s a) := by
  rcases step_noise s a with ⟨q, rfl⟩ | hn
  · exact h.ask q
  · refine ⟨h.counted.step a, ?_, ?_, ?_,
      fun k => neverAfter_step (h.never k) (fun hx => h.returned hx k) a⟩
    · intro site hsite
      rw [hn.caller] at hsite
      exact step_retained a (h.flag site hsite)
    · intro hcount k
      rw [hn.caller] at hcount
      exact (h.passed hcount k).step a
    · intro hx k
      refine (h.returned ?_ k).step a
      rcases hn.history with ⟨hh, -⟩ | ⟨r, hh, -⟩ | ⟨m, k', hm, -, hh, -⟩
      · exact hh ▸ hx
      · simpa [hh] using hx
      · rw [hh] at hx
        rcases List.mem_cons.1 hx with rfl | hx
        · cases hm
        · exact hx

lemma held_run (as : List Act) : Held (run step start as) :=
  run_invariant (fun _ a h => h.step a) as
    ⟨⟨rfl, rfl⟩, by simp [start], by simp [start, CallerAt.counted], by simp [start], by
      intro k m before hs
      simp [start] at hs⟩

/-! ### The generation -/

def Mark.isRecord : Mark → Bool
  | .recorded _ => true
  | _ => false

def records (h : List Mark) : ℕ := h.countP Mark.isRecord

/-- A mark that no caller makes. -/
def Mark.Foreign (m : Mark) : Prop :=
  m ≠ .snapshot ∧ (∀ site, m ≠ .matched site) ∧ ∀ c r, m ≠ .returned c r

/-- The check passed after the one snapshot, and nothing was recorded between. Since then no caller
has got anywhere: no other check has passed and no call has returned. -/
def Verified (site : Site) (h : List Mark) : Prop :=
  ∃ late mid early, h = late ++ .matched site :: (mid ++ .snapshot :: early) ∧
    (∀ m ∈ late, m.Foreign) ∧ .snapshot ∉ mid ∧ .snapshot ∉ early ∧ ∀ r, .recorded r ∉ mid

lemma Verified.cons {site : Site} {h : List Mark} (hv : Verified site h) {m : Mark}
    (hm : m.Foreign) : Verified site (m :: h) := by
  obtain ⟨late, mid, early, rfl, hlate, hrest⟩ := hv
  exact ⟨m :: late, mid, early, rfl, List.forall_mem_cons.2 ⟨hm, hlate⟩, hrest⟩

def Call.Verifies : Call → Site → Prop
  | .stop, site => site = .last
  | .stopped, site => site = .stopped
  | _, _ => False

/-- What the generation and the hold's copy of it say about the history. -/
structure Dated (d : Domain) : Prop where
  generation : d.generation = records d.history
  fresh : d.caller = .holdPending ∨ d.caller = .holdSnapshot → d.holdAttempted = false
  checking : ∀ site pt, d.caller = .check site pt → pt ≠ .generation → d.holdAttempted = true
  unheld : d.holdAttempted = false → .snapshot ∉ d.history
  held : d.holdAttempted = true → ∃ late early, d.history = late ++ .snapshot :: early ∧
    .snapshot ∉ late ∧ .snapshot ∉ early ∧ d.retainedGeneration = records early
  finishing : ∀ (c : Call) site, d.caller = c.finish → c.Verifies site → Verified site d.history
  verified : ∀ c site before, .returned c none :: before <:+ d.history → c.Verifies site →
    Verified site before

lemma Dated.matched (h : Dated d) (ha : d.holdAttempted = true)
    (hg : d.generation = d.retainedGeneration) (site : Site) :
    Verified site (.matched site :: d.history) := by
  obtain ⟨late, early, hh, h₁, h₂, h₃⟩ := h.held ha
  have hgen := h.generation
  have hlate : records late = 0 := by
    rw [hh] at hgen
    simp only [records, List.countP_append, List.countP_cons] at hgen h₃ ⊢
    simp only [Mark.isRecord] at hgen
    omega
  refine ⟨[], late, early, by rw [hh]; rfl, by simp, h₁, h₂, fun r hr => ?_⟩
  have := List.countP_eq_zero.1 hlate _ hr
  simp [Mark.isRecord] at this

lemma Dated.noise {d d' : Domain} (h : Dated d) (hn : Noise may d d') :
    Dated d' := by
  -- Whoever it is, at most one mark is made, and the generation counts the records.
  have hgrow : d'.history = d.history ∧ d'.generation = d.generation ∨
      ∃ m, d'.history = m :: d.history ∧
        d'.generation = d.generation + (if m.isRecord then 1 else 0) ∧
        m.Foreign := by
    rcases hn.history with hh | ⟨r, hh, hg⟩ | ⟨m, k, hm, -, hh, hg⟩
    · exact .inl hh
    · exact .inr ⟨_, hh, by simpa [Mark.isRecord] using hg, by simp [Mark.Foreign]⟩
    · refine .inr ⟨m, hh, ?_⟩
      cases m <;> simp_all [Mark.deed, Mark.isRecord, Mark.Foreign]
  rcases hgrow with ⟨hh, hg⟩ | ⟨m, hh, hg, hm⟩
  · obtain ⟨h₁, h₂, h₃, h₄, h₅, h₆, h₇⟩ := h
    constructor <;> simp only [hh, hg, hn.caller, hn.holdAttempted, hn.retainedGeneration] <;>
      assumption
  · constructor
    · rw [hg, hh, h.generation, records, records, List.countP_cons]
    · rw [hn.caller, hn.holdAttempted]
      exact h.fresh
    · rw [hn.caller, hn.holdAttempted]
      exact h.checking
    · rw [hn.holdAttempted, hh]
      intro ha hmem
      rcases List.mem_cons.1 hmem with rfl | hmem
      · exact hm.1 rfl
      · exact h.unheld ha hmem
    · rw [hn.holdAttempted, hn.retainedGeneration, hh]
      intro ha
      obtain ⟨late, early, hh', h₁, h₂⟩ := h.held ha
      refine ⟨m :: late, early, by rw [hh']; rfl, ?_, h₂⟩
      simpa [h₁] using hm.1.symm
    · rw [hn.caller, hh]
      exact fun c site hc hv => (h.finishing c site hc hv).cons hm
    · rw [hh]
      intro c site before hsuf hv
      rcases List.suffix_cons_iff.1 hsuf with heq | hsuf
      · exact absurd (List.cons_eq_cons.1 heq).1.symm (hm.2.2 c none)
      · exact h.verified c site before hsuf hv

lemma Dated.within {d d' : Domain} (h : Dated d) (hw : Within d d') : Dated d' := by
  have hcame := hw.came
  -- The store of the hold is never undone.
  have hattempted : d.holdAttempted = true → d'.holdAttempted = true := by
    rcases hw.held with ⟨ha, -⟩ | ⟨-, ha, -⟩
    · rw [ha]
      exact id
    · exact fun _ => ha
  constructor
  · rcases hw.history with hh | ⟨m, hh, hm⟩
    · rw [hw.generation, hh, h.generation]
    · rw [hw.generation, hh, h.generation, records, records, List.countP_cons]
      cases m <;> simp_all [Mark.isRecord]
  · rintro (hc | hc) <;> rw [hc] at hcame
    · exact hcame
    · have hc' : d.caller = .holdPending := hcame
      rcases hw.held with ⟨ha, -⟩ | ⟨hs, -⟩
      · rw [ha]
        exact h.fresh (.inl hc')
      · simp [hc'] at hs
  · intro site pt hc hpt
    rw [hc] at hcame
    cases pt with
    | generation => exact absurd rfl hpt
    | pending => exact hcame.2
    | identity => exact hattempted (h.checking site _ hcame.1 (by simp))
    | generationAgain => exact hattempted (h.checking site _ hcame (by simp))
  · intro ha
    rcases hw.held with ⟨ha', -, hno⟩ | ⟨-, ha', -⟩
    · have hnot := h.unheld (ha' ▸ ha)
      rcases hw.history with hh | ⟨m, hh, -⟩
      · rwa [hh]
      · rw [hh]
        intro hmem
        rcases List.mem_cons.1 hmem with rfl | hmem
        · exact hno hh
        · exact hnot hmem
    · rw [ha'] at ha
      cases ha
  · intro ha
    rcases hw.held with ⟨ha', hg, hno⟩ | ⟨hs, -, hg, hh⟩
    · obtain ⟨late, early, hd, h₁, h₂, h₃⟩ := h.held (ha' ▸ ha)
      rcases hw.history with hh | ⟨m, hh, -⟩
      · exact ⟨late, early, hh.trans hd, h₁, h₂, hg.trans h₃⟩
      · refine ⟨m :: late, early, by rw [hh, hd]; rfl, ?_, h₂, hg.trans h₃⟩
        intro hmem
        rcases List.mem_cons.1 hmem with rfl | hmem
        · exact hno hh
        · exact h₁ hmem
    · -- The hold itself: what was there before it are its early marks.
      have hnot := h.unheld (h.fresh (.inr hs))
      exact ⟨[], d.history, hh, by simp, hnot, by rw [hg, h.generation]⟩
  · intro c site hc hv
    have hh : d'.history = .matched site :: d.history := by
      rw [hc] at hcame
      cases c <;> cases hv <;> exact hcame
    rcases hw.history with hh' | ⟨m, hh', hm⟩
    · have := congrArg List.length (hh'.symm.trans hh)
      simp at this
    · obtain rfl : m = .matched site := (List.cons_eq_cons.1 (hh'.symm.trans hh)).1
      rw [hh]
      exact h.matched (h.checking site _ hm.1 (by simp)) hm.2 site
  · intro c site before hsuf hv
    rcases hw.history with hh | ⟨m, hh, hm⟩
    · rw [hh] at hsuf
      exact h.verified c site before hsuf hv
    · rw [hh] at hsuf
      rcases List.suffix_cons_iff.1 hsuf with heq | hsuf
      · obtain ⟨rfl, rfl⟩ := List.cons_eq_cons.1 heq
        exact h.finishing c site hm hv
      · exact h.verified c site before hsuf hv

lemma Dated.lock (h : Dated d) (locked : Bool) {pt : CallerAt}
    (hpt : pt = .locked ∨ pt = .outside) : Dated { d with locked := locked, caller := pt } := by
  obtain ⟨h₁, -, -, h₄, h₅, -, h₇⟩ := h
  have hfinish : ∀ c site, pt = Call.finish c → ¬ c.Verifies site := by
    rintro c site hc hv
    rcases hpt with rfl | rfl <;> cases c <;> first | exact False.elim hv | cases hc
  rcases hpt with rfl | rfl
  · exact ⟨h₁, by simp, by simp, h₄, h₅, fun c site hc hv => absurd hv (hfinish c site hc), h₇⟩
  · exact ⟨h₁, by simp, by simp, h₄, h₅, fun c site hc hv => absurd hv (hfinish c site hc), h₇⟩

lemma Dated.step (h : Dated s.shared) (a : Act) : Dated (Events.step s a).shared := by
  rcases step_noise s a with ⟨q, rfl⟩ | hn
  · simp only [Events.step]
    rcases s.shared.ask_cases q with hq | ⟨-, -, hq⟩ | ⟨-, hq⟩ | ⟨-, hw⟩
    · rwa [hq]
    · rw [hq]
      exact h.lock _ (.inl rfl)
    · rw [hq]
      exact h.lock _ (.inr rfl)
    · exact h.within hw
  · exact h.noise hn

lemma dated_run (as : List Act) : Dated (run step start as).shared :=
  run_invariant (I := fun s : Sys => Dated s.shared) (fun _ a h => h.step a) as
    ⟨rfl, by simp [start], by simp [start], by simp [start], by simp [start],
      fun c _ hc => by cases c <;> simp [start, Call.finish] at hc,
      fun c site before hs => by simp [start] at hs⟩

/-! ### The hold and the freeze -/

/-- In every run the counter is the callbacks in progress and the work items that are queued or
run; once a hold has returned success no callback acknowledges or queues and no worker changes
anything; and before a stop returns success, or says that it has, its own last check has found
things as they were at the snapshot. -/
theorem hold_excludes_events (as : List Act) :
    (run step start as).shared.pending =
        (run step start as).total Thread.inProgress + (run step start as).total Thread.items ∧
      (∀ k, NeverAfter (Mark.Does k) (.returned .hold none) (run step start as).shared.history) ∧
      (∀ before, .returned .stop none :: before <:+ (run step start as).shared.history →
        Verified .last before) ∧
      ∀ before, .returned .stopped none :: before <:+ (run step start as).shared.history →
        Verified .stopped before :=
  ⟨(counted_run as).pending, (held_run as).never,
    fun before hs => (dated_run as).verified .stop .last before hs rfl,
    fun before hs => (dated_run as).verified .stopped .stopped before hs rfl⟩

def session : List Act :=
  List.flatten [[.arrive .event, .thread 0 .go, .thread 0 .go, .thread 0 .go, .thread 0 .go,
    .thread 0 .noMemory, .thread 0 .go, .caller .lock, .caller (.hold none none)],
    List.replicate 19 (.caller (.go none)), [.caller (.stop none true)],
    List.replicate 11 (.caller (.go none)), [.caller .stopped],
    List.replicate 5 (.caller (.go none))]

example : (run step start session).shared.history =
    [.returned .stopped none, .matched .stopped, .returned .stop none, .matched .last,
      .matched .admission, .returned .hold none, .matched .third, .matched .second,
      .matched .first, .snapshot, .ack, .recorded (.packet .event)] := by
  decide

/-- A freeze that has not published the flag has never succeeded. -/
structure Unfrozen (d : Domain) : Prop where
  pending : d.caller = .freezePending ∨ d.caller = .freezePublish → d.retained = false
  returned : d.caller = .freezeReady ∨ .returned .freeze none ∈ d.history → d.retained = true

lemma Unfrozen.within {d d' : Domain} (h : Unfrozen d) (hw : Within d d') : Unfrozen d' := by
  have hcame := hw.came
  constructor
  · rintro (hc | hc) <;> rw [hc] at hcame
    · exact hcame
    · exact hcame.2.trans (h.pending (.inl hcame.1))
  · rintro (hc | hx)
    · rw [hc] at hcame
      exact hcame
    · apply hw.retained
      rcases hw.history with hh | ⟨m, hh, hm⟩
      · exact h.returned (.inr (hh ▸ hx))
      · rw [hh] at hx
        rcases List.mem_cons.1 hx with rfl | hx
        · exact h.returned (.inl hm)
        · exact h.returned (.inr hx)

lemma Unfrozen.step (h : Unfrozen s.shared) (a : Act) :
    Unfrozen (Events.step s a).shared := by
  rcases step_noise s a with ⟨q, rfl⟩ | hn
  · simp only [Events.step]
    rcases s.shared.ask_cases q with hq | ⟨-, -, hq⟩ | ⟨-, hq⟩ | ⟨-, hw⟩
    · rwa [hq]
    · rw [hq]
      exact ⟨by simp, fun hx => h.returned (.inr (by simpa using hx))⟩
    · rw [hq]
      exact ⟨by simp, fun hx => h.returned (.inr (by simpa using hx))⟩
    · exact h.within hw
  · constructor
    · rw [hn.caller, hn.retained]
      exact h.pending
    · rw [hn.caller, hn.retained]
      rintro (hc | hx)
      · exact h.returned (.inl hc)
      · refine h.returned (.inr ?_)
        rcases hn.history with ⟨hh, -⟩ | ⟨r, hh, -⟩ | ⟨m, k', hm, -, hh, -⟩
        · exact hh ▸ hx
        · simpa [hh] using hx
        · rw [hh] at hx
          rcases List.mem_cons.1 hx with rfl | hx
          · cases hm
          · exact hx

lemma unfrozen_run (as : List Act) : Unfrozen (run step start as).shared :=
  run_invariant (I := fun s : Sys => Unfrozen s.shared) (fun _ a h => h.step a) as
    ⟨by simp [start], by simp [start]⟩

lemma Quiet.run {k : Deed} {x : Mark} (h : Quiet k s)
    (hn : NeverAfter (Mark.Does k) x s.shared.history) (as : List Act) :
    NeverAfter (Mark.Does k) x (run Events.step s as).shared.history :=
  (run_invariant (I := fun s : Sys => Quiet k s ∧ NeverAfter (Mark.Does k) x s.shared.history)
    (fun _ a h => ⟨h.1.step a, neverAfter_step h.2 (fun _ => h.1) a⟩) as ⟨h, hn⟩).2

lemma Counted.worker_quiet (h : Counted s) (hc : s.shared.caller.inside = 1) {w : Work}
    {pt : WorkerAt} (ht : .worker w pt ∈ s.threads) : Thread.may .speak (.worker w pt) = false := by
  have hl := h.lock
  have hle := s.le_total Thread.inside ht
  have := s.shared.locked.toNat_le
  have hout : Thread.inside (.worker w pt) = 0 := by omega
  cases pt <;> simp_all [Thread.may]

lemma speaks {p : Pkg} {pt : CallbackAt} {x : Mark} (ht : .callback p pt ∈ s.threads)
    (hmay : Thread.may .speak (.callback p pt) = true) (hx : x ∈ s.shared.history) :
    ∃ as, ¬ NeverAfter (Mark.Does .speak) x (run step s as).shared.history := by
  obtain ⟨i, hi, hget⟩ := List.getElem_of_mem ht
  have hget? : s.threads[i]? = some (.callback p pt) := by rw [List.getElem?_eq_getElem hi, hget]
  cases pt with
  | admitted =>
    refine ⟨[.thread i .go], fun h => h .ack s.shared.history ?_ rfl hx⟩
    obtain ⟨w, hw⟩ := Option.isSome_iff_exists.1 hmay
    cases w <;> simp [step, Pool.move, hget?, Thread.next, handleEvent, hw]
  | acked w =>
    refine ⟨[.thread i .go, .thread i .go], fun h => h (.queue w) s.shared.history ?_ rfl hx⟩
    simp [step, Pool.move, hget, Thread.next, handleEvent, hi]
  | accounted w =>
    refine ⟨[.thread i .go], fun h => h (.queue w) s.shared.history ?_ rfl hx⟩
    simp [step, Pool.move, hget?, Thread.next, handleEvent]
  | _ => cases hmay

/-- The freeze publishes the flag without a second look at the counter, so what it promises holds
from then on exactly when no callback is past its test with something left to say. -/
theorem freeze_excludes_events (as : List Act)
    (hp : (run step start as).shared.caller = .freezePublish) :
    (∀ answer bs, NeverAfter (Mark.Does .speak) (.returned .freeze none)
        (run step start (as ++ .caller (.go answer) :: bs)).shared.history) ↔
      ∀ p pt, .callback p pt ∈ (run step start as).threads →
        Thread.may .speak (.callback p pt) = false := by
  have hcounted := counted_run as
  have hunfrozen := unfrozen_run as
  have hrun : ∀ answer bs, run step start (as ++ .caller (.go answer) :: bs) =
      run step (step (run step start as) (.caller (.go answer))) bs := by
    intro answer bs
    simp [run]
  generalize run step start as = s at *
  constructor
  · intro h p pt ht
    by_contra hmay
    -- The two statements after the publication return success; then the callback goes on.
    let s' := run step s [.caller (.go none), .caller (.go none)]
    have hs' : s'.threads = s.threads ∧ .returned .freeze none ∈ s'.shared.history := by
      simp [s', step, Domain.ask, Domain.goOn, hp]
    obtain ⟨cs, hcs⟩ := speaks (hs'.1 ▸ ht) (by simpa using hmay) hs'.2
    apply hcs
    have := h none (.caller (.go none) :: cs)
    rw [hrun] at this
    exact this
  · intro h answer bs
    rw [hrun]
    have hdomain : (step s (.caller (.go answer))).shared =
        { s.shared with idleFrozen := true, retained := true, caller := .freezeReady } := by
      simp [step, Domain.ask, Domain.goOn, hp]
    refine Quiet.run ⟨by rw [hdomain], ?_⟩ ?_ bs
    · intro t ht
      cases t with
      | callback p pt => exact h p pt ht
      | worker w pt => exact hcounted.worker_quiet (by simp [hp]) ht
    · -- Nothing has succeeded before the flag is set.
      rw [hdomain]
      refine .of_notMem fun hmem => ?_
      have := hunfrozen.returned (.inr hmem)
      rw [hunfrozen.pending (.inr hp)] at this
      cases this

/-- A wake notice arrives when the freeze has read the counter, and is acknowledged before the flag
is published. -/
def lateWake : List Act :=
  [.caller .lock, .caller (.freeze none false), .caller (.go none), .arrive (.error .pcieWake),
    .thread 0 .go, .thread 0 .go, .thread 0 .go, .thread 0 .go]

/-- Its callback is in progress and has nothing left to say. -/
theorem freeze_excludes_events_lateWake :
    (run step start lateWake).shared.caller = .freezePublish ∧
      (run step start lateWake).threads = [.callback (.error .pcieWake) .leaving] ∧
      ∀ answer bs, NeverAfter (Mark.Does .speak) (.returned .freeze none)
        (run step start (lateWake ++ .caller (.go answer) :: bs)).shared.history := by
  have hthreads : (run step start lateWake).threads =
      [.callback (.error .pcieWake) .leaving] := by decide
  refine ⟨by decide, hthreads, (freeze_excludes_events lateWake (by decide)).2 fun p pt ht => ?_⟩
  rw [hthreads, List.mem_singleton] at ht
  cases ht
  rfl

/-- A plug event arrives when the freeze has read the counter, and passes its test before the flag
is published. -/
def lateEvent : List Act :=
  [.caller .lock, .caller (.freeze none false), .caller (.go none), .arrive .event,
    .thread 0 .go, .thread 0 .go, .thread 0 .go, .caller (.go none), .caller (.go none),
    .thread 0 .go, .thread 0 .go, .thread 0 .go]

/-- The callback acknowledges and queues its worker after the freeze has returned success. -/
theorem lateEvent_speaks :
    (run step start lateEvent).shared.history =
        [.queue .hotplug, .ack, .returned .freeze none, .recorded (.packet .event)] ∧
      ¬ NeverAfter (Mark.Does .speak) (.returned .freeze none)
          (run step start lateEvent).shared.history := by
  have h : (run step start lateEvent).shared.history =
      [.queue .hotplug, .ack, .returned .freeze none, .recorded (.packet .event)] := by decide
  refine ⟨h, fun hn => ?_⟩
  rw [h] at hn
  exact hn (.queue .hotplug) _ List.suffix_rfl rfl (by simp)

end YogaUsb4.Events
