import YogaUsb4.Daemon.Stores
import YogaUsb4.Daemon.Fake

/-!
The phases `connecting` and `ejecting` between operations. Whatever stops the service in a poll
or for sleep makes it fail; what stops a manual eject is printed, and the phase stays behind.
-/

namespace YogaUsb4.Daemon

open HostState Prog

variable {κ : Type} {K : Kernel κ}

attribute [local simp] World.asked

/-- Between operations the phase is no transitional one. -/
abbrev Settled : World κ → Label → World κ → Prop :=
  Between fun s => s.service.phase.isStable

/-- An answer that does not stop the eject of the session `g`. -/
def Event.goesOn (g : ℤ) : Event → Prop
  | .store _ _ r => ∀ f, r = .error f → f.isStop = false
  | .read name r => (∀ f, r = .error f → f.isStop = false) ∧
    ∀ v, r = .ok v →
      if name = .sessionState then
        v .managed = some "1" ∧ v .generation = some (toString g) ∧
          v .fullyRetired = some "1" ∧ v .platformRetired = some "1"
      else ∀ st ∈ ejectTable, st.snapshot = name → st.confirmed v
  | .disk r => ∀ d, r = .ok d → d = none
  | _ => True

/-- While a manual eject is under way, no answer stops it. -/
def EjectGoesOn (s : World κ) (l : Label) (_ : World κ) : Prop :=
  s.op = .eject → s.service.phase = .ejecting →
    ∀ e, l = .asked (some e) → e.goesOn s.service.generation

/-! ### The manual eject -/

/-- A kernel that may answer anything; a question that checks nothing does not stop. -/
local instance {α : Type} {A G : World κ → Label → World κ → Prop} (q : Ask α) :
    Vc A G (ask K q) where
  vc Q E s := ∀ k, (∀ a, A s (.asked (q.event (.ok a))) (s.asked k (q.event (.ok a))) →
      G s (.asked (q.event (.ok a))) (s.asked k (q.event (.ok a))) ∧
        Q a (s.asked k (q.event (.ok a)))) ∧
    ∀ f, (f.isStop → q.checks) →
      A s (.asked (q.event (.error f))) (s.asked k (q.event (.error f))) →
      G s (.asked (q.event (.error f))) (s.asked k (q.event (.error f))) ∧
        E f (s.asked k (q.event (.error f)))
  sound {Q E s} h := by
    rcases hr : K.answer q s.kernel with ⟨f | a, k⟩
    · exact (wp_ask_error hr).mpr ((h k).2 f fun hf => K.stop_checks q _ (by rw [hr]) hf)
    · exact (wp_ask_ok hr).mpr ((h k).1 a)

attribute [local simp] Between EjectGoesOn Event.goesOn

def UnderWay (s : World κ) : Prop := s.op = .eject ∧ s.service.phase = .ejecting

@[mk_iff]
structure Untouched (s t : World κ) : Prop where
  service : t.service = s.service
  op : t.op = s.op

instance (p : Phase) (b : Bool) : Vc EjectGoesOn Settled (publish K p b) :=
  .ofSpec _ (fun _ => True)
    (fun s _ t => t.service = { s.service with phase := p } ∧ t.op = s.op)
    (fun _ f _ => f.isStop = false) fun s _ => by
    unfold publish
    refine Vc.sound ?_
    simp +contextual

lemma runEjectStage_goesOn {st : EjectStage} (hst : st ∈ ejectTable) {s : World κ}
    (hs : UnderWay s) :
    wp EjectGoesOn Settled (runEjectStage K st).1 (fun _ t => Untouched s t)
      (fun f _ => f.isStop = false) s := by
  obtain ⟨ho, hp⟩ := hs
  have hn : st.snapshot ≠ .sessionState := by
    revert st; decide
  unfold runEjectStage
  refine Vc.sound ?_
  simp +contextual [untouched_iff, ho, hp, hn, hst]

lemma runEjectStages_goesOn (sts : List EjectStage) (hsts : ∀ st ∈ sts, st ∈ ejectTable)
    {s : World κ} (hs : UnderWay s) :
    wp EjectGoesOn Settled (runEjectStages K sts).1 (fun _ t => Untouched s t)
      (fun f _ => f.isStop = false) s := by
  induction sts generalizing s with
  | nil => exact ⟨rfl, rfl⟩
  | cons st sts ih =>
    refine (wp_bind _ _).mpr (wp_mono (fun _ t ht => ?_) (fun _ _ h => h)
      (runEjectStage_goesOn (hsts st List.mem_cons_self) hs))
    have ht' : UnderWay t := ⟨ht.op.trans hs.1, by rw [ht.service]; exact hs.2⟩
    refine wp_mono (fun _ u hu => ?_) (fun _ _ h => h)
      (ih (fun st hst => hsts st (List.mem_cons_of_mem _ hst)) ht')
    exact ⟨hu.service.trans ht.service, hu.op.trans ht.op⟩

instance (g : ℤ) : Vc EjectGoesOn Settled (eject K g) :=
  .ofSpec _ (fun s => UnderWay s ∧ s.service.generation = g) (fun s _ t => Untouched s t)
    (fun _ f _ => f.isStop = false) fun s hs => by
      obtain ⟨hs, hg⟩ := hs
      let : Vc EjectGoesOn Settled (runEjectStages K ejectTable) :=
        .ofSpec _ UnderWay (fun s _ t => Untouched s t) (fun _ f _ => f.isStop = false)
          fun s hs => runEjectStages_goesOn ejectTable (fun _ h => h) hs
      have hu := hs
      obtain ⟨ho, hp⟩ := hs
      unfold eject requireRetired session
      refine Vc.sound ?_
      simp +contextual [this, untouched_iff, hu, ho, hp, hg]

instance (p : Phase) : Vc EjectGoesOn Settled (ejectTo K p) :=
  .ofSpec _ (fun s => s.op = .eject) (fun s _ t => t.service.phase = p ∧ t.op = .eject)
    (fun _ f _ => f.isStop = false) fun s hs => by
      unfold ejectTo
      refine Vc.sound ?_
      simp +contextual [untouched_iff, UnderWay, hs]

/-- What stops a manual eject stops it before its first store. -/
instance : Vc EjectGoesOn Settled (ejectRequest K) :=
  .ofSpec _ (fun s => s.op = .eject)
    (fun s _ t => s.service.phase.isStable → t.service.phase.isStable) (fun _ _ _ => True)
    fun s hs => by
      have h : Phase.safeToUnplug.isStable := rfl
      unfold ejectRequest ejectNow
      refine Vc.sound ?_
      simp +contextual [hs, h]
      refine fun _ _ => ⟨fun _ => ⟨fun e t he => ?_, fun f _ => ?_⟩, fun f _ => ?_⟩
      · cases e with
        | stop => cases he
        | _ => trivial
      · cases f <;> trivial
      · cases f <;> trivial

/-! ### Runs -/

lemma op_settled (n : ℕ) (op : Op) {s : World κ} (hr : Rest s) (hs : s.service.phase.isStable)
    (ho : s.op = op) :
    wp EjectGoesOn Settled (op.run K n).1 (fun _ t => Rest t ∧ t.service.phase.isStable)
      (fun _ _ => True) s := by
  have hrest := wp_weaken (B := EjectGoesOn) (fun _ _ _ _ => trivial)
    (op_rest (K := K) n op s hr ho)
  have hset := (op.run K n).2.mono fun _ _ _ h => h.between (P := fun s => s.service.phase.isStable)
  by_cases he : op = .eject
  · subst he
    have hst : wp EjectGoesOn Settled (Op.run K n .eject).1 (fun _ t => t.service.phase.isStable)
        (fun _ _ => True) s := by
      unfold Op.run
      refine Vc.sound ?_
      simp [ho, hs]
    exact wp_of_within hset
      (wp_mono (fun _ _ h => ⟨h.1.1, h.2⟩) (fun _ _ h => h.1) (wp_and hrest hst))
  · exact wp_of_within hset (wp_mono (fun _ _ h => ⟨h.1, h.2.2 he hs⟩) (fun _ _ h => h) hrest)

lemma serveOps_settled (n : ℕ) (ops : List Op) {s : World κ} (hr : Rest s)
    (hs : s.service.phase.isStable) :
    wp EjectGoesOn Settled (serveOps K n ops).1 (fun _ _ => True) (fun _ _ => True) s := by
  induction ops generalizing s with
  | nil => trivial
  | cons op ops ih =>
    let run : Vc EjectGoesOn Settled (op.run K n) :=
      .ofSpec _ (fun s => Rest s ∧ s.service.phase.isStable ∧ s.op = op)
        (fun _ _ t => Rest t ∧ t.service.phase.isStable) (fun _ _ _ => True)
        fun s h => op_settled n op h.1 h.2.1 h.2.2
    let rest : Vc EjectGoesOn Settled (serveOps K n ops) :=
      .ofSpec _ (fun s => Rest s ∧ s.service.phase.isStable) (fun _ _ _ => True)
        (fun _ _ _ => True) fun s h => ih h.1 h.2
    have hb : Rest { s with op := op } := ⟨hr.quiet, hr.seen⟩
    unfold serveOps
    refine Vc.sound ?_
    simp +contextual [run, rest, hb, hs]

/-- **No transitional phase survives an operation**, on every kernel and in every run of services
that are stopped and started again, for as long as no manual eject is stopped on its way. -/
theorem lives_settled (K : Kernel κ) (n : ℕ) (opss : List (List Op)) (s : World κ) :
    Follow EjectGoesOn Settled s (lives K n opss s).trace fun _ => True := by
  have hl : ∀ m ∈ opss.map fun ops => (life K n ops).1,
      Triple EjectGoesOn Settled (fun _ => True) m (fun _ _ => True) fun _ _ => True := by
    intro m hm s _
    obtain ⟨ops, _, rfl⟩ := List.mem_map.mp hm
    let : Vc EjectGoesOn Settled (serveOps K n ops) :=
      .ofSpec _ (fun s => Rest s ∧ s.service.phase.isStable) (fun _ _ _ => True)
        (fun _ _ _ => True) fun s h => serveOps_settled n ops h.1 h.2
    have hst : Phase.starting.isStable := rfl
    unfold life start
    refine Vc.sound ?_
    simp +contextual [this, hst, rest_iff, Phase.isDrive]
  exact (Triple.runAll hl s trivial).mono (fun _ _ _ h => h) (fun _ _ _ h => h) fun _ _ => trivial

/-! ### A manual eject that is stopped -/

/-- The fake's answers, but for a Type-C callback that holds the lock of one snapshot. -/
def heldAnswer : {α : Type} → Ask α → Bench → Except Fault α × Bench
  | _, .read .tunnelQuiesceState, b =>
    (.error (.stop "Snapshot stayed busy: tunnel_quiesce_state"), b)
  | _, q, b => b.answer q

def heldBench : Kernel Bench where
  answer := heldAnswer
  int := decimal
  isdecimal := isDecimal
  stop_checks q b f h hf := by
    unfold heldAnswer at h
    split at h
    · rfl
    · exact bench.stop_checks q b h hf

def plugLater : World Bench where
  kernel := { ticks := List.replicate 9 {} ++ [{ acts := [.plug] }] }

/-- The drive connects, a manual eject stops after its second stage, and the loop goes on. -/
theorem heldBench_not_settled :
    ¬Along Settled plugLater (lives heldBench 3 [[.poll, .poll, .eject]] plugLater).trace := by
  decide +kernel

end YogaUsb4.Daemon
