import YogaUsb4.Daemon.Careful

/-!
The service makes no store out of place, in any run on any kernel, and between two operations
it is at rest.
-/

set_option synthInstance.maxSize 1000

namespace YogaUsb4.Daemon

open HostState Prog
open scoped AnyKernel

variable {κ : Type} {K : Kernel κ}

/-! ### The poll -/

instance (g : ℤ) : Vc Free Careful (renewOrUnplug K g) :=
  .ofSpec _ Awake
    (fun s b t => Moved s t (· = if b then s.service.phase else .unplugToStart))
    (fun s _ t => Faulted s t)
    fun s hs => by
      obtain ⟨hs, hp⟩ := hs
      unfold renewOrUnplug
      refine Vc.sound ?_
      simp [published_iff, managed_iff, faulted_iff, moved_iff, Awake, hs, hp]
      grind

instance (g : ℤ) : Vc Free Careful (beginWaiting K g) :=
  .ofSpec _ Awake (fun s _ t => Moved s t (· = .waiting)) (fun s _ t => Faulted s t)
    fun s hs => by
      unfold beginWaiting
      refine Vc.sound ?_
      simp +contextual [published_iff, faulted_iff, moved_iff, hs.1, hs.2]

instance (l : Left) (g : ℤ) : Vc Free Careful (adoptSession K l g) :=
  .ofSpec _ Awake
    (fun s _ t => Moved s t fun p => p = .waiting ∨ p = .unplugToStart)
    (fun s _ t => Faulted s t)
    fun s hs => by
      obtain ⟨hs, hp⟩ := hs
      unfold adoptSession
      refine Vc.sound ?_
      simp +contextual [managed_iff, faulted_iff, moved_iff, Awake, hs, hp]

instance : Vc Free Careful (freshSession K) :=
  .ofSpec _ Awake
    (fun s _ t => Moved s t fun p => p = .waiting ∨ p = .unplugToStart)
    (fun s _ t => Faulted s t)
    fun s hs => by
      obtain ⟨hs, hp⟩ := hs
      unfold freshSession
      refine Vc.sound ?_
      simp +contextual [managed_iff, faulted_iff, moved_iff, Awake, hs, hp]

instance (x : Option (Left × ℤ)) : Vc Free Careful (stepStartWith K x) :=
  .ofSpec _ Awake
    (fun s _ t => Moved s t fun p => p = .waiting ∨ p = .unplugToStart)
    (fun s _ t => Faulted s t)
    fun s hs => by
      obtain ⟨hs, hp⟩ := hs
      rcases x with _ | ⟨l, g⟩
      · unfold stepStartWith
        refine Vc.sound ?_
        simp +contextual [published_iff, looked_iff, faulted_iff, moved_iff, Awake, hs, hp]
      · unfold stepStartWith
        refine Vc.sound ?_
        simp +contextual [faulted_iff, moved_iff, Awake, hs, hp]

instance : Vc Free Careful (stepStart K) :=
  .ofSpec _ Awake
    (fun s _ t => Moved s t fun p => p = .waiting ∨ p = .unplugToStart)
    (fun s _ t => Faulted s t)
    fun s hs => by
      obtain ⟨hs, hp⟩ := hs
      unfold stepStart
      refine Vc.sound ?_
      simp +contextual [looked_iff, faulted_iff, moved_iff, Awake, hs, hp]

def Phase.isDrive (p : Phase) : Bool := p = .connected ∨ p = .releasing

def Phase.isStable (p : Phase) : Bool := p ≠ .connecting ∧ p ≠ .ejecting

/-- What holds between operations. -/
@[mk_iff]
structure Rest (s : World κ) : Prop where
  quiet : s.service.sleeping → s.service.phase.isQuiet ∨ s.service.phase = .failed
  seen : s.service.phase.isDrive → s.service.wasMounted → mountSeen s.log

instance (n : ℕ) : Vc Free Careful (connect K n) :=
  .ofSpec _ Awake
    (fun s _ t => Rest t ∧ Moved s t fun p => p = .connected ∨ p = .replugRequired)
    (fun s _ t => Faulted s t)
    fun s hs => by
      obtain ⟨hs, hp⟩ := hs
      unfold connect
      refine Vc.sound ?_
      simp +contextual [World.asked, published_iff, managed_iff, faulted_iff, moved_iff, rest_iff,
        Phase.isDrive, Awake, hs, hp]

instance : Vc Free Careful (stepPulled K) :=
  .ofSpec _ Awake
    (fun s _ t => Moved s t (· = .pulled))
    (fun s _ t => Faulted s t)
    fun s hs => by
      obtain ⟨hs, hp⟩ := hs
      unfold stepPulled
      refine Vc.sound ?_
      simp +contextual [published_iff, managed_iff, faulted_iff, moved_iff, Awake, hs, hp]

instance : Vc Free Careful (stepRenew K) :=
  .ofSpec _ Awake
    (fun s _ t => Moved s t (· = .waiting))
    (fun s _ t => Faulted s t)
    fun s hs => by
      obtain ⟨hs, hp⟩ := hs
      unfold stepRenew
      refine Vc.sound ?_
      simp +contextual [published_iff, managed_iff, faulted_iff, moved_iff, Awake, hs, hp]

lemma unheld_append (log : List Event) (d : Option String) :
    Unheld d (log ++ [.mounted d (.ok []), .released d (.ok true)]) :=
  List.suffix_append _ _

instance (c : Connection) : Vc Free Careful (stepConnected K c) :=
  .ofSpec _ (fun s => Awake s ∧ Rest s ∧ s.op = .poll ∧ s.service.phase.isDrive ∧
      (c = .connected → DriveShown s.log))
    (fun s _ t => Rest t ∧ Moved s t fun p => p.isDrive ∨ p = .safeToUnplug)
    (fun s _ t => Faulted s t)
    fun s hs => by
      obtain ⟨⟨hs, hp⟩, ⟨hq, hm⟩, ho, hd, hc⟩ := hs
      unfold stepConnected
      refine Vc.sound ?_
      have hm' := hm hd
      simp +contextual [World.asked, published_iff, faulted_iff, moved_iff, rest_iff, Phase.isDrive,
        Awake, hs, hp, ho, Op.Cleared, unheld_append, DriveShown, hm'] at hd hc ⊢
      grind

instance (n : ℕ) : Vc Free Careful (stepSession K n) :=
  .ofSpec _ (fun s => Awake s ∧ Rest s ∧ s.op = .poll)
    (fun s _ t => Rest t ∧ Moved s t fun p => s.service.phase.isStable → p.isStable)
    (fun s _ t => Faulted s t)
    fun s hs => by
      obtain ⟨⟨hs, hp⟩, ⟨hq, hm⟩, ho⟩ := hs
      unfold stepSession
      refine Vc.sound ?_
      simp +contextual [published_iff, looked_iff, faulted_iff, moved_iff, rest_iff, Phase.isDrive,
        Phase.isStable, Awake, hs, hp, ho] at hm ⊢
      grind

attribute [local simp] World.asked published_iff looked_iff faulted_iff moved_iff rest_iff Awake
  Phase.isDrive Phase.isStable

instance (n : ℕ) : Vc Free Careful (stepAwake K n) :=
  .ofSpec _ (fun s => Awake s ∧ Rest s ∧ s.op = .poll)
    (fun s _ t => Rest t ∧ Moved s t fun p => s.service.phase.isStable → p.isStable)
    (fun s _ t => Faulted s t)
    fun s hs => by
      unfold stepAwake
      refine Vc.sound ?_
      simp +contextual at hs ⊢
      grind

@[mk_iff]
structure Rested (s t : World κ) : Prop where
  rest : Rest t
  op : t.op = s.op
  stable : s.service.phase.isStable → t.service.phase.isStable

attribute [local simp] rested_iff

instance (n : ℕ) : Vc Free Careful (pollOnce K n) :=
  .ofSpec _ (fun s => s.service.phase ≠ .failed ∧ Rest s ∧ s.op = .poll)
    (fun s _ t => Rested s t) (fun s _ t => t.op = s.op)
    fun s hs => by
      unfold pollOnce
      refine Vc.sound ?_
      simp +contextual at hs ⊢
      grind

instance (n : ℕ) : Vc Free Careful (step K n) :=
  .ofSpec _ (fun s => Rest s ∧ s.op = .poll) (fun s _ t => Rested s t) (fun _ _ _ => True)
    fun s hs => by
      unfold step
      refine Vc.sound ?_
      simp +contextual at hs ⊢
      grind

/-! ### The manual eject -/

lemma Rest.awake {s : World κ} (h : Rest s) (hd : s.service.phase.isDrive) : Awake s := by
  have hq := h.quiet
  simp only [Phase.isDrive, decide_eq_true_eq] at hd
  rcases hd with hd | hd <;> simp_all [Phase.isQuiet]

instance : Vc Free Careful (ejectNow K) :=
  .ofSpec _ (fun s => Rest s ∧ s.op = .eject) (fun s _ t => Rested s t)
    (fun s _ t => Rest t ∧ t.op = s.op)
    fun s hs => by
      obtain ⟨hr, ho⟩ := hs
      have ha := hr.awake
      have hm := hr.seen
      have hq := hr.quiet
      unfold ejectNow
      refine Vc.sound ?_
      simp +contextual [Op.Cleared, ho, unheld_append] at ha hm ⊢
      grind

/-! ### Sleep -/

instance (ds : List String) : Keeps Looks (unmountAll K ds) := by
  induction ds with
  | nil => unfold unmountAll; infer_instance
  | cons d ds ih => unfold unmountAll; infer_instance

instance (ps : List String) : Keeps Looks (unmountDesktopAll K ps) := by
  induction ps with
  | nil => unfold unmountDesktopAll; infer_instance
  | cons p ps ih => unfold unmountDesktopAll; infer_instance

instance (ds : List String) : Vc Free Careful (unmountAll K ds) := looks _
instance (ps : List String) : Vc Free Careful (unmountDesktopAll K ps) := looks _

/-- The drive is connected and the service may eject it for a sleep. -/
@[mk_iff]
structure Drive (s : World κ) : Prop where
  sleeping : s.service.sleeping = false
  seen : s.service.wasMounted → mountSeen s.log
  phase : s.service.phase = .connected ∨ s.service.phase = .releasing
  op : s.op ≠ .poll ∧ s.op ≠ .eject

def SettledLog (d : Option String) (log : List Event) : ℕ → Prop
  | 0 => True
  | 1 => [.mountedDevices d (.ok []), .released d (.ok true)] <:+ log
  | _ => UnheldTwice d log

lemma settledLog_zero (d : Option String) (log : List Event) : SettledLog d log 0 := trivial

lemma settledLog_succ {d : Option String} {log : List Event} (r : Except Fault ℚ) {k : ℕ}
    (h : SettledLog d log k) (hk : k < 2) :
    SettledLog d (log ++ [.clock r, .mountedDevices d (.ok []), .released d (.ok true)])
      (k + 1) := by
  match k, hk with
  | 0, _ => exact ⟨log ++ [.clock r], by simp⟩
  | 1, _ =>
    obtain ⟨pre, hp⟩ := h
    exact ⟨r, pre, by simp [← hp]⟩

/-- What the code for sleep ends in: a fault leaves the operation, `Busy` the drive as well. -/
def Ended (s : World κ) (e : Exn) (t : World κ) : Prop :=
  t.op = s.op ∧ ∀ message, e = .busy message → Drive t

lemma settle_spec (deadline : ℚ) (n k : ℕ) (s : World κ) (hs : Drive s)
    (hk : SettledLog s.service.disk s.log k) :
    wp Free Careful (settleForSleep K deadline n k).1
      (fun _ t => Drive t ∧ t.op = s.op ∧ UnheldTwice t.service.disk t.log) (Ended s) s := by
  induction n generalizing k s with
  | zero => exact ⟨rfl, by simp⟩
  | succ n ih =>
    let : ∀ k, Vc Free Careful (settleForSleep K deadline n k) := fun k =>
      .ofSpec _ (fun s => Drive s ∧ SettledLog s.service.disk s.log k)
        (fun s _ t => Drive t ∧ t.op = s.op ∧ UnheldTwice t.service.disk t.log) Ended
          fun s hs => ih k s hs.1 hs.2
    unfold settleForSleep
    split
    · next h =>
      -- Two rounds in a row have found nobody on the disk.
      match k, h with
      | k + 2, _ => exact ⟨hs, rfl, hk⟩
    · next h =>
      obtain ⟨h1, h2, h3, h4⟩ := hs
      have h5 : s.service.phase ≠ .failed := by rcases h3 with h3 | h3 <;> simp [h3]
      refine Vc.sound ?_
      simp +contextual [this, Ended, drive_iff, settledLog_zero, settledLog_succ _ hk (by omega),
        h1, h2, h3, h4, h5]

instance (deadline : ℚ) (n : ℕ) : Vc Free Careful (settleForSleep K deadline n 0) :=
  .ofSpec _ Drive (fun s _ t => Drive t ∧ t.op = s.op ∧ UnheldTwice t.service.disk t.log) Ended
    fun s hs => settle_spec deadline n 0 s hs trivial

lemma cleared_of_unheldTwice {op : Op} {d : Option String} {log : List Event}
    (h : UnheldTwice d log) (hp : op ≠ .poll) (he : op ≠ .eject) : op.Cleared d log := by
  cases op with
  | poll => exact absurd rfl hp
  | eject => exact absurd rfl he
  | sleep _ => exact h
  | announce _ => exact h

instance (n : ℕ) (deadline : ℚ) (desktop : Bool) :
    Vc Free Careful (releaseForSleep K n deadline desktop) :=
  .ofSpec _ Drive (fun s _ t => Moved s t (· = .ejectedForSleep)) Ended fun s hs => by
    obtain ⟨h1, h2, h3, h4⟩ := hs
    unfold releaseForSleep
    refine Vc.sound ?_
    simp +contextual [Ended, drive_iff, h1, h2, h3, h4, cleared_of_unheldTwice]
    grind

instance (deadline : ℚ) : Keeps Looks (pauseForSleep K deadline) := by
  unfold pauseForSleep; infer_instance

instance (deadline : ℚ) : Vc Free Careful (pauseForSleep K deadline) := looks _

instance (n : ℕ) (deadline : ℚ) : Vc Free Careful (powerDown K n deadline) :=
  .ofSpec _ (fun s => Awake s ∧ (s.service.phase = .waiting ∨ s.service.phase = .replugRequired))
    (fun s b t => Rest t ∧ Moved s t fun p =>
      if b then p = .asleep else p = .waiting ∨ p = .replugRequired ∨ p = .connected)
    (fun s _ t => t.op = s.op) fun s hs => by
    obtain ⟨⟨h1, h2⟩, h3⟩ := hs
    unfold powerDown
    refine Vc.sound ?_
    simp +contextual [managed_iff, h1, h2]
    grind

lemma quiet_spec (n : ℕ) (deadline : ℚ) (desktop : Bool) (m : ℕ) (s : World κ) (hs : Rest s)
    (ho : s.op ≠ .poll ∧ s.op ≠ .eject) :
    wp Free Careful (quietForSleep K n deadline desktop m).1
      (fun _ t => Rest t ∧ t.service.phase.isQuiet ∧ t.op = s.op) (Ended s) s := by
  induction m generalizing s with
  | zero => exact ⟨rfl, by simp⟩
  | succ m ih =>
    let : Vc Free Careful (quietForSleep K n deadline desktop m) :=
      .ofSpec _ (fun s => Rest s ∧ s.op ≠ .poll ∧ s.op ≠ .eject)
        (fun s _ t => Rest t ∧ t.service.phase.isQuiet ∧ t.op = s.op) Ended
          fun s hs => ih s hs.1 hs.2
    have ha : Phase.asleep.isQuiet := rfl
    have he : Phase.ejectedForSleep.isQuiet := rfl
    obtain ⟨h1, h2⟩ := hs
    unfold quietForSleep
    refine Vc.sound ?_
    simp +contextual [this, Ended, drive_iff, ho, ha, he] at h1 h2 ⊢
    grind

instance (n : ℕ) (desktop : Bool) : Vc Free Careful (sleepPre K n desktop) :=
  .ofSpec _ (fun s => Rest s ∧ s.op ≠ .poll ∧ s.op ≠ .eject)
    (fun s _ t => Rest t ∧ t.op = s.op ∧ t.service.sleeping ∧ t.service.phase.isQuiet) Ended
    fun s hs => by
      obtain ⟨hr, ho⟩ := hs
      let : ∀ deadline, Vc Free Careful (quietForSleep K n deadline desktop n) := fun deadline =>
        .ofSpec _ (fun s => Rest s ∧ s.op ≠ .poll ∧ s.op ≠ .eject)
          (fun s _ t => Rest t ∧ t.service.phase.isQuiet ∧ t.op = s.op) Ended fun s hs =>
            quiet_spec n deadline desktop n s hs.1 hs.2
      unfold sleepPre
      refine Vc.sound ?_
      simp +contextual [this, Ended] at hr ⊢
      grind

instance (x : Option (String × ℚ)) : Keeps Looks (refusedSince K x) := by
  cases x <;> unfold refusedSince <;> infer_instance

instance (desktop : Bool) : Keeps Looks (refusedLately K desktop) := by
  unfold refusedLately; infer_instance

instance (desktop : Bool) : Vc Free Careful (refusedLately K desktop) := looks _

instance (desktop : Bool) (message : String) : Vc Free Careful (keepRefusal K desktop message) :=
  inferInstanceAs (Vc Free Careful (if desktop then do
    let now ← ask K .clock
    assign fun s => { s with refusal := some (message, now) }
  else pure ()))

instance (desktop : Bool) (message : String) : Vc Free Careful (refuse K desktop message) :=
  .ofSpec _ Drive (fun s r t => Drive t ∧ t.op = s.op ∧ r.1 = false) (fun _ _ _ => True)
    fun s hs => by
    obtain ⟨h1, h2, h3, h4⟩ := hs
    unfold refuse
    refine Vc.sound ?_
    simp +contextual [drive_iff, h1, h2, h3, h4]

instance (f : Fault) : Vc Free Careful (failAnswer K f) :=
  .ofSpec _ (fun _ => True) (fun s r t => t.service.phase = .failed ∧ t.op = s.op ∧ r.1 = false)
    (fun _ _ _ => True) fun s _ => by
    unfold failAnswer
    refine Vc.sound ?_
    simp +contextual

lemma Phase.isStable_of_isQuiet {p : Phase} (h : p.isQuiet) : p.isStable := by
  cases p <;> first | rfl | cases h

instance (n : ℕ) (desktop : Bool) (x : Option String) :
    Vc Free Careful (sleepPreUnless K n desktop x) :=
  .ofSpec _ (fun s => Rest s ∧ s.op ≠ .poll ∧ s.op ≠ .eject)
    (fun s r t => Rested s t ∧ (r.1 → t.service.sleeping ∧ t.service.phase.isQuiet)) Ended
    fun s hs => by
      cases x with
      | some message => exact ⟨⟨hs.1, rfl, id⟩, fun h => (Bool.false_ne_true h).elim⟩
      | none =>
        unfold sleepPreUnless sleepOk
        refine Vc.sound ?_
        refine ⟨hs, ?_, fun _ _ ht => ht⟩
        rintro _ t ⟨hr, ho, hs, hq⟩
        exact ⟨⟨hr, ho, fun _ => Phase.isStable_of_isQuiet hq⟩, fun _ => ⟨hs, hq⟩⟩

variable {s t : World κ}

lemma Drive.rested (h : Drive t) (ho : t.op = s.op) : Rested s t := by
  obtain ⟨h1, h2, h3, _⟩ := h
  refine ⟨⟨by simp [h1], fun _ => h2⟩, ho, fun _ => ?_⟩
  rcases h3 with h3 | h3 <;> rw [h3] <;> rfl

lemma rested_of_failed (h : t.service.phase = .failed) (ho : t.op = s.op) :
    Rested s t :=
  ⟨⟨fun _ => .inr h, by simp [h]⟩, ho, fun _ => by rw [h]; rfl⟩

lemma Looked.rest (h : Looked s t) (hs : Rest s) : Rest t := by
  obtain ⟨h1, _, h3⟩ := h
  exact ⟨by rw [h1]; exact hs.quiet, by rw [h1]; exact fun hd hm => h3 (hs.seen hd hm)⟩

lemma answerExn_spec (desktop : Bool) (e : Exn) (h : Ended s e t) :
    wp Free Careful (answerExn K desktop e).1 (fun r u => Rested s u ∧ r.1 = false)
      (fun _ _ => True) t := by
  refine Vc.sound ?_
  cases e with
  | busy message =>
    refine ⟨h.2 message rfl, ?_, fun _ _ _ => trivial⟩
    rintro r u ⟨hd, ho, hr⟩
    exact ⟨hd.rested (ho.trans h.1), hr⟩
  | fault f =>
    simp only [Vc.vc]
    split
    · refine ⟨trivial, ?_, fun _ _ _ => trivial⟩
      rintro r u ⟨hf, ho, hr⟩
      exact ⟨rested_of_failed hf (ho.trans h.1), hr⟩
    · trivial

lemma sleepPre_answer (n : ℕ) (desktop : Bool) (s : World κ) (hs : Rest s)
    (ho : s.op ≠ .poll ∧ s.op ≠ .eject) :
    wp Free Careful (sleepRequest K n .pre desktop).1
      (fun r t => Rested s t ∧ (r.1 → t.service.sleeping ∧ t.service.phase.isQuiet))
      (fun _ _ => True) s := by
  refine (wp_tryCatch _ _).mpr ?_
  refine wp_mono (fun _ _ h => h) (fun e t he => ?_) (Vc.sound (E := Ended s) ?_)
  · refine wp_mono (fun r u hu => ⟨hu.1, fun h => ?_⟩) (fun _ _ h => h)
      (answerExn_spec desktop e he)
    rw [hu.2] at h
    cases h
  · refine ⟨trivial, fun t ht => ⟨fun x => ?_, fun f => ⟨ht.op, by simp⟩⟩⟩
    have hop : t.op ≠ .poll ∧ t.op ≠ .eject := by rw [ht.op]; exact ho
    refine ⟨⟨ht.rest hs, hop⟩, ?_, ?_⟩
    · rintro r u ⟨hu, hr⟩
      refine ⟨⟨hu.rest, hu.op.trans ht.op, fun h => hu.stable ?_⟩, hr⟩
      rw [ht.service]
      exact h
    · exact fun e u hu => ⟨hu.1.trans ht.op, hu.2⟩

instance (n : ℕ) (action : SleepAction) (desktop : Bool) :
    Vc Free Careful (sleepRequest K n action desktop) :=
  .ofSpec _ (fun s => Rest s ∧ s.op ≠ .poll ∧ s.op ≠ .eject) (fun s _ t => Rested s t)
    (fun _ _ _ => True)
    fun s hs => by
      cases action with
      | unknown => exact ⟨hs.1, rfl, id⟩
      | pre =>
        exact wp_mono (fun _ _ h => h.1) (fun _ _ h => h) (sleepPre_answer n desktop s hs.1 hs.2)
      | post =>
        unfold sleepRequest sleepPost sleepOk
        refine Vc.sound ?_
        simp +contextual at hs ⊢
        exact hs.1.2

/-! ### The loop -/

instance : Vc Free Careful (ejectRequest K) :=
  .ofSpec _ (fun s => Rest s ∧ s.op = .eject) (fun s _ t => Rest t ∧ t.op = s.op)
    (fun _ _ _ => True) fun s hs => by
    unfold ejectRequest
    refine Vc.sound ?_
    refine ⟨hs, fun _ t ht => ⟨ht.rest, ht.op⟩, fun f t ht => ?_⟩
    cases f with
    | stop _ => exact ht
    | _ => trivial

instance (n : ℕ) (b : Bool) : Vc Free Careful (answerAnnouncement K n b) :=
  .ofSpec _ (fun s => Rest s ∧ s.op ≠ .poll ∧ s.op ≠ .eject) (fun s _ t => Rested s t)
    (fun _ _ _ => True) fun s hs => by
    unfold answerAnnouncement
    refine Vc.sound ?_
    simp +contextual at hs ⊢
    grind

instance (n : ℕ) (values : List Bool) : Vc Free Careful (answerLogind K n values) :=
  .ofSpec _ (fun s => Rest s ∧ s.op ≠ .poll ∧ s.op ≠ .eject) (fun s _ t => Rested s t)
    (fun _ _ _ => True) fun s hs => by
    unfold answerLogind
    refine Vc.sound ?_
    simp +contextual at hs ⊢
    grind

instance (n : ℕ) (action : SleepAction) : Vc Free Careful (answerSleep K n action) :=
  .ofSpec _ (fun s => Rest s ∧ s.op ≠ .poll ∧ s.op ≠ .eject) (fun s _ t => Rested s t)
    (fun _ _ _ => True) fun s hs => by
    unfold answerSleep
    refine Vc.sound ?_
    exact ⟨hs, fun _ _ h => h, fun _ _ h => h⟩

/-- Every operation begins and ends at rest, and leaves no transitional phase behind unless it is
an eject request. -/
lemma op_rest (n : ℕ) (op : Op) (s : World κ) (hs : Rest s) (ho : s.op = op) :
    wp Free Careful (op.run K n).1
      (fun _ t => Rest t ∧ t.op = op ∧
        (op ≠ .eject → s.service.phase.isStable → t.service.phase.isStable))
      (fun _ _ => True) s := by
  subst ho
  cases ho : s.op with
  | poll =>
    unfold Op.run
    refine Vc.sound ?_
    exact ⟨⟨hs, ho⟩, fun _ _ h => ⟨h.rest, h.op.trans ho, fun _ => h.stable⟩, fun _ _ h => h⟩
  | eject =>
    unfold Op.run
    refine Vc.sound ?_
    exact ⟨⟨hs, ho⟩, fun _ _ h => ⟨h.1, h.2.trans ho, fun h => (h rfl).elim⟩, fun _ _ h => h⟩
  | sleep action =>
    unfold Op.run
    refine Vc.sound ?_
    exact ⟨⟨hs, by simp [ho]⟩, fun _ _ h => ⟨h.rest, h.op.trans ho, fun _ => h.stable⟩,
      fun _ _ h => h⟩
  | announce values =>
    unfold Op.run
    refine Vc.sound ?_
    exact ⟨⟨hs, by simp [ho]⟩, fun _ _ h => ⟨h.rest, h.op.trans ho, fun _ => h.stable⟩,
      fun _ _ h => h⟩

lemma serveOps_rest (n : ℕ) (ops : List Op) (s : World κ) (hs : Rest s) :
    wp Free Careful (serveOps K n ops).1 (fun _ t => Rest t) (fun _ _ => True) s := by
  induction ops generalizing s with
  | nil => exact hs
  | cons op ops ih =>
    let : Vc Free Careful (op.run K n) := .ofSpec _ (fun s => Rest s ∧ s.op = op)
      (fun _ _ t => Rest t) (fun _ _ _ => True) fun s h =>
        wp_mono (fun _ _ h => h.1) (fun _ _ h => h) (op_rest n op s h.1 h.2)
    let : Vc Free Careful (serveOps K n ops) := .ofSpec _ Rest (fun _ _ t => Rest t)
      (fun _ _ _ => True) ih
    unfold serveOps
    refine Vc.sound ?_
    refine fun _ =>
      ⟨(careful_own _ _).2 id, ⟨⟨hs.quiet, hs.seen⟩, rfl⟩, fun b t ht => ?_, fun _ _ h => h⟩
    -- `false` ends the loop, otherwise it goes on at rest.
    cases b with
    | false => exact ht
    | true => exact fun _ => ⟨(careful_between _ _).2 id, ht, fun _ _ h => h, fun _ _ h => h⟩

lemma start_careful (n : ℕ) (ops : List Op) (s : World κ) :
    wp Free Careful (do (start K : SleepProg κ Unit); serveOps K n ops : LoopProg κ Unit).1
      (fun _ _ => True) (fun _ _ => True) { s with service := {} } := by
  let : Vc Free Careful (serveOps K n ops) := .ofSpec _ Rest (fun _ _ t => Rest t)
    (fun _ _ _ => True) (serveOps_rest n ops)
  unfold start
  refine Vc.sound ?_
  simp +contextual [this]

/-! ### A pulled drive -/

def Attribute.isStage : Attribute → Bool
  | .endpointRemoveOnce | .tunnelQuiesceOnce | .hostQuiesceOnce | .powerQuiesceOnce => true
  | _ => false

def StoresNoStage (_ : World κ) (l : Label) (_ : World κ) : Prop :=
  ∀ n token r, l = .asked (some (.store n token r)) → n.isStage = false

/-- The poll finds the drive pulled, or it was pulled before and not plugged in again since. -/
def Pulled (K : Kernel κ) (s : World κ) : Prop :=
  s.service.phase = .pulled ∨ s.service.phase = .replugAfterPull ∨
    s.service.phase.isDrive ∧ ((connection K s.service.generation).1 s).res = .ok .empty

lemma Manages.storesNoStage {l : Label} (h : Manages s l t) :
    StoresNoStage s l t := by
  rintro n token r rfl
  have hn := h.1 { s with service.phase := .waiting }
  cases n <;> first | rfl | exact absurd hn.1 (by simp)

abbrev noStage {α : Type} (m : ServiceProg κ α) [h : Keeps Manages m] : Vc Free StoresNoStage m :=
  .ofKeeps Manages m (fun _ => True) (fun _ _ => True) (fun _ => trivial)
    fun _ _ _ _ _ _ hS _ => ⟨hS.storesNoStage, trivial⟩

section Pulled

attribute [local simp] StoresNoStage Attribute.isStage

local instance (g : ℤ) : Vc Free StoresNoStage (prepare K g) := noStage _
local instance (g : ℤ) : Vc Free StoresNoStage (renew K g) := noStage _
local instance (g : ℤ) : Vc Free StoresNoStage (pulledRetire K g) := noStage _
local instance : Vc Free StoresNoStage (stepStart K) := .unreached _
local instance (n : ℕ) : Vc Free StoresNoStage (connect K n) := .unreached _
local instance (c : Connection) : Vc Free StoresNoStage (stepConnected K c) := .unreached _

local instance (p : Phase) (b : Bool) : Vc Free StoresNoStage (publish K p b) :=
  .ofSpec _ (fun _ => True) (fun _ _ _ => True) (fun _ _ _ => True) fun s _ => by
    unfold publish
    refine Vc.sound ?_
    simp

local instance (f : Fault) : Vc Free StoresNoStage (fail K f) :=
  .ofSpec _ (fun _ => True) (fun _ _ _ => True) (fun _ _ _ => True) fun s _ => by
    unfold fail
    refine Vc.sound ?_
    simp

local instance (g : ℤ) : Vc Free StoresNoStage (connection K g) :=
  .ofSpec _ (fun _ => True)
    (fun s c t => t.service = s.service ∧ ((connection K g).1 s).res = .ok c) (fun _ _ _ => True)
    fun s _ => by
      have hlooks : wp Free Careful (connection K g).1 (fun _ t => t.service = s.service)
          (fun _ _ => True) s := Vc.sound (by simp +contextual)
      have hm : Within StoresNoStage (connection K g).1 :=
        (inferInstance : Keeps Manages (connection K g)).within.mono fun _ _ _ => (·.storesNoStage)
      exact wp_of_within hm
        (wp_mono (fun _ _ h => ⟨h.1, h.2.1⟩) (fun _ _ _ => trivial) (wp_run hlooks))

lemma stepAwake_pulled (n : ℕ) {s : World κ} (h : Pulled K s) :
    wp Free StoresNoStage (stepAwake K n).1 (fun _ _ => True) (fun _ _ => True) s := by
  unfold stepAwake stepSession stepPulled stepRenew
  refine Vc.sound ?_
  rcases h with h | h | ⟨hd, hc⟩
  · simp +contextual [h]
  · simp +contextual [h]
  · rcases of_decide_eq_true hd with h | h <;> simp +contextual [h, hc]

lemma step_pulled (n : ℕ) {s : World κ} (ha : s.service.sleeping = false) (h : Pulled K s) :
    wp Free StoresNoStage (step K n).1 (fun _ _ => True) (fun _ _ => True) s := by
  let awake : Vc Free StoresNoStage (stepAwake K n) :=
    .ofSpec _ (Pulled K) (fun _ _ _ => True) (fun _ _ _ => True) fun _ hs => stepAwake_pulled n hs
  unfold step pollOnce
  refine Vc.sound ?_
  simp [awake, ha, h]

end Pulled

end YogaUsb4.Daemon
