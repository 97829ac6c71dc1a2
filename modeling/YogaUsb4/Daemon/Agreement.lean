import YogaUsb4.Daemon.FakeRules

/-!
The service and the kernel agree between operations: what the phase says about the session is
so, for every run on the bench, with services that are stopped and started again at any time.
-/

set_option synthInstance.maxSize 1000

namespace YogaUsb4.Daemon

open HostState Prog
open scoped OnBench

/-! ### The agreement -/

/-- What the kernel itself keeps: an unprepared session has done nothing, and the stages of an
eject come in order. -/
@[mk_iff]
structure FakeSession.Sane (c : FakeSession) : Prop where
  generation : 0 < c.generation
  pristine : c.prepared = false →
    c.waiting = false ∧ c.complete = false ∧ c.retired = false ∧ c.negotiationFailures = 0
  removed : c.removed → c.complete
  stages : c.stages ≠ [] → c.removed

lemma FakeSession.Sane.no_stages {c : FakeSession} (h : c.Sane) (hr : c.removed = false) :
    c.stages = [] := by
  by_contra hs
  rw [h.stages hs] at hr
  cases hr

lemma FakeSession.Sane.not_started {c : FakeSession} (h : c.Sane) (hc : c.complete = false) :
    c.removed = false ∧ c.stages = [] := by
  have hr : c.removed = false := by
    cases hr : c.removed with
    | false => rfl
    | true => exact (h.removed hr).symm.trans hc
  exact ⟨hr, h.no_stages hr⟩

lemma FakeSession.Sane.ne_zero {c : FakeSession} (h : c.Sane) {g : ℤ} (hg : c.generation = g) :
    g ≠ 0 := by
  have := h.generation
  omega

lemma FakeSession.Sane.prepared {c : FakeSession} (h : c.Sane) (hc : c.complete = true) :
    c.prepared = true := by
  cases hp : c.prepared with
  | true => rfl
  | false => exact (h.pristine hp).2.1.symm.trans hc

/-- The session of generation `g` waits for a drive, after so many failed negotiations. -/
@[mk_iff]
structure FakeSession.Waits (c : FakeSession) (g : ℤ) (failures : ℕ) : Prop where
  generation : c.generation = g
  prepared : c.prepared
  waiting : c.waiting
  complete : c.complete = false
  retired : c.retired = false
  failures : c.negotiationFailures = failures

/-- The session of generation `g` has a drive, and no stage of an eject was run on it. -/
@[mk_iff]
structure FakeSession.HasDrive (c : FakeSession) (g : ℤ) (disk : Option String) : Prop where
  generation : c.generation = g
  complete : c.complete
  retired : c.retired = false
  removed : c.removed = false
  stages : c.stages = []
  name : c.diskName = disk
  held : disk.isSome

@[mk_iff]
structure FakeSession.Gone (c : FakeSession) (g : ℤ) : Prop where
  generation : c.generation = g
  retired : c.retired

/-- The phase is right about the session. -/
@[mk_iff]
structure Agreement (s : World Bench) : Prop where
  waits : s.service.phase = .waiting ∨ s.service.phase = .replugRequired →
    s.session.Waits s.service.generation s.service.failures
  drive : s.service.phase = .connected ∨ s.service.phase = .releasing →
    s.session.HasDrive s.service.generation s.service.disk
  gone : s.service.phase = .safeToUnplug ∨ s.service.phase = .ejectedForSleep ∨
    s.service.phase = .pulled ∨ s.service.phase = .replugAfterPull →
    s.session.Gone s.service.generation
  asleep : s.service.phase = .asleep →
    s.session.Gone s.service.generation ∧ s.session.idle ∧ s.service.idleRetired

/-- What holds between operations. -/
@[mk_iff]
structure Agreed (s : World Bench) : Prop where
  agreement : Agreement s
  sane : s.session.Sane
  unnumbered : s.service.phase ≠ .failed → s.service.generation = 0 → s.service.failures = 0

variable {P : World Bench → Prop}

attribute [local simp] Between snapshot sessionFields inventoryFields generalFields stageFields

/-! ### The router -/

/-- What a look leaves alone. -/
@[mk_iff]
structure Kept (s t : World Bench) : Prop where
  service : t.service = s.service
  session : t.session = s.session

abbrev Sound {ε : Type} : World Bench → ε → World Bench → Prop := fun _ _ t => t.session.Sane

instance : Vc Free (Between P) (adopt bench) :=
  .ofSpec _ (fun s => s.session.Sane)
    (fun s r t => Kept s t ∧ ∀ l g, r = some (l, g) →
      g = s.session.generation ∧ (l = .waiting → s.session.Waits g 0))
    Sound fun s hs => by
      unfold adopt session
      refine Vc.sound ?_
      simp +contextual [kept_iff, FakeSession.waits_iff, cleanInventory, hs]

instance : Vc Free (Between P) (portEmpty bench) :=
  .ofSpec _ (fun s => s.session.Sane) (fun s _ t => Kept s t) Sound fun s hs => by
    unfold portEmpty session
    refine Vc.sound ?_
    simp +contextual [kept_iff, hs]

instance (g : ℤ) : Vc Free (Between P) (connection bench g) :=
  .ofSpec _ (fun s => s.session.Sane) (fun s _ t => Kept s t) Sound fun s hs => by
    unfold connection session detached
    refine Vc.sound ?_
    simp +contextual [kept_iff, hs]

instance (old : ℤ) : Vc Free (Between P) (prepare bench old) :=
  .ofSpec _ (fun s => s.session.Sane)
    (fun s g t => t.service = { s.service with failures := 0 } ∧ t.session.Waits g 0 ∧
      t.session.Sane) Sound fun s hs => by
      have hn (hp : s.session.prepared = false) := hs.not_started (hs.pristine hp).2.1
      obtain ⟨hg, hp, hr, hst⟩ := hs
      unfold prepare session
      refine Vc.sound ?_
      simp +contextual [FakeSession.waits_iff, FakeSession.sane_iff, hg, hp, hr, hst, hn]

instance (g : ℤ) : Vc Free (Between P) (rearmed bench g) :=
  .ofSpec _ (fun s => s.session.Sane)
    (fun s b t => Kept s t ∧ (b → s.session.generation = g ∧ s.session.waiting ∧
      s.session.complete = false ∧ s.session.negotiationFailures = s.service.failures + 1))
    Sound fun s hs => by
      unfold rearmed session
      refine Vc.sound ?_
      simp +contextual [kept_iff, hs]
      intros
      omega

instance (g : ℤ) : Vc Free (Between P) (sendConnect bench g) :=
  .ofSpec _ (fun s => s.session.Sane ∧ s.session.Waits g s.service.failures)
    (fun s b t => t.session.Sane ∧
      if b then t.service = s.service ∧ t.session.HasDrive g t.session.diskName
      else t.service = { s.service with failures := s.service.failures + 1 } ∧
        t.session.Waits g t.service.failures)
    Sound fun s hs => by
      obtain ⟨hs, ⟨h1, h2, h3, h4, h5, h6⟩⟩ := hs
      have hn := hs.not_started h4
      have hg := hs.generation
      unfold sendConnect
      refine Vc.sound ?_
      simp +contextual [kept_iff, FakeSession.waits_iff, FakeSession.hasDrive_iff,
        FakeSession.sane_iff, hg, hn, h1, h2, h3, h4, h5, h6]

variable {s : World Bench}

lemma awaitDisk_kept (deadline : ℚ) (n : ℕ) (hs : s.session.Sane) :
    wp Free (Between P) (awaitDisk bench deadline n).1 (fun _ t => Kept s t)
      (fun _ t => t.session.Sane) s := by
  induction n generalizing s with
  | zero => exact hs
  | succ n ih =>
    let rest : Vc Free (Between P) (awaitDisk bench deadline n) :=
      .ofSpec _ (fun s => s.session.Sane) (fun s _ t => Kept s t) Sound fun s hs => ih hs
    unfold awaitDisk
    refine Vc.sound ?_
    simp +contextual [kept_iff, rest, hs]

instance (deadline : ℚ) (n : ℕ) : Vc Free (Between P) (awaitDisk bench deadline n) :=
  .ofSpec _ (fun s => s.session.Sane) (fun s _ t => Kept s t) Sound fun _ hs =>
    awaitDisk_kept deadline n hs

instance (n : ℕ) (g : ℤ) : Vc Free (Between P) (routerConnect bench n g) :=
  .ofSpec _ (fun s => s.session.Sane ∧ s.session.Waits g s.service.failures)
    (fun s b t => t.session.Sane ∧
      if b then t.service = s.service ∧ t.session.HasDrive g t.session.diskName
      else t.service = { s.service with failures := s.service.failures + 1 } ∧
        t.session.Waits g t.service.failures)
    Sound fun s hs => by
      unfold routerConnect session
      refine Vc.sound ?_
      simp +contextual [kept_iff, hs]

instance (g : ℤ) : Vc Free (Between P) (requireRetired bench g) :=
  .ofSpec _ (fun _ => True) (fun s _ t => Kept s t ∧ s.session.Gone g) (fun s _ t => Kept s t)
    fun s _ => by
      unfold requireRetired session
      refine Vc.sound ?_
      simp +contextual [kept_iff, FakeSession.gone_iff]

lemma runEjectStage_sane {st : EjectStage} (hst : st ∈ ejectTable) (hs : s.session.Sane) :
    wp Free (Between P) (runEjectStage bench st).1
      (fun _ t => t.service = s.service ∧ t.session.Sane)
      (fun _ t => t.service = s.service ∧ t.session.Sane) s := by
  have hc (h : s.session.complete = true) := hs.prepared h
  obtain ⟨hg, hp, hr, hs'⟩ := hs
  simp only [ejectTable, List.mem_cons, List.not_mem_nil, or_false] at hst
  rcases hst with rfl | rfl | rfl | rfl
  all_goals
    unfold runEjectStage
    refine Vc.sound ?_
    simp +contextual [endpointStage, tunnelStage, hostStage, powerStage, FakeSession.sane_iff,
      hg, hp, hr, hs', hc]

lemma runEjectStages_sane (sts : List EjectStage) (hsts : ∀ st ∈ sts, st ∈ ejectTable)
    {s : World Bench} (hs : s.session.Sane) :
    wp Free (Between P) (runEjectStages bench sts).1
      (fun _ t => t.service = s.service ∧ t.session.Sane)
      (fun _ t => t.service = s.service ∧ t.session.Sane) s := by
  induction sts generalizing s with
  | nil => exact ⟨rfl, hs⟩
  | cons st sts ih =>
    refine (wp_bind _ _).mpr (wp_mono (fun _ t ht => ?_) (fun _ _ h => h)
      (runEjectStage_sane (hsts st List.mem_cons_self) hs))
    exact wp_mono (fun _ _ hu => ⟨hu.1.trans ht.1, hu.2⟩) (fun _ _ hu => ⟨hu.1.trans ht.1, hu.2⟩)
      (ih (fun st hst => hsts st (List.mem_cons_of_mem _ hst)) ht.2)

instance (g : ℤ) : Vc Free (Between P) (eject bench g) :=
  .ofSpec _ (fun s => s.session.Sane)
    (fun s _ t => t.service = s.service ∧ t.session.Sane ∧ t.session.Gone g)
    (fun s _ t => t.service = s.service ∧ t.session.Sane) fun s hs => by
      let stages : Vc Free (Between P) (runEjectStages bench ejectTable) :=
        .ofSpec _ (fun s => s.session.Sane) (fun s _ t => t.service = s.service ∧ t.session.Sane)
          (fun s _ t => t.service = s.service ∧ t.session.Sane)
          fun s hs => runEjectStages_sane ejectTable (fun _ h => h) hs
      unfold eject
      refine Vc.sound ?_
      simp +contextual [stages, kept_iff, hs]

instance (g : ℤ) : Vc Free (Between P) (pulledRetire bench g) :=
  .ofSpec _ (fun s => s.session.Sane)
    (fun s _ t => t.service = s.service ∧ t.session.Sane ∧ t.session.Gone g) Sound fun s hs => by
      have hc (h : s.session.complete = true) := hs.prepared h
      have hn (h : s.session.removed = false) := hs.no_stages h
      obtain ⟨hg, hp, hr, hst⟩ := hs
      unfold pulledRetire
      refine Vc.sound ?_
      simp +contextual [kept_iff, FakeSession.gone_iff, FakeSession.sane_iff, hg, hp, hr,
        hst, hc, hn]

instance (g : ℤ) : Vc Free (Between P) (idleRetire bench g) :=
  .ofSpec _ (fun s => s.session.Sane)
    (fun s b t => t.service = s.service ∧ t.session.Sane ∧
      if b then t.session.Gone g ∧ t.session.idle else t.session = s.session) Sound fun s hs => by
      have hn (h : s.session.complete = false) := hs.not_started h
      obtain ⟨hg, hp, hr, hst⟩ := hs
      unfold idleRetire sendIdleRetire
      refine Vc.sound ?_
      simp +contextual [kept_iff, FakeSession.gone_iff, FakeSession.sane_iff, hg, hp, hr, hst, hn]

/-! ### The poll -/

instance (p : Phase) (b : Bool) : Vc Free (Between P) (publish bench p b) :=
  .ofSpec _ (fun s => s.session.Sane)
    (fun s _ t => t.service = { s.service with phase := p } ∧ t.session = s.session)
    (fun _ f t => f = .crash ∧ t.session.Sane) fun s hs => by
      unfold publish
      refine Vc.sound ?_
      simp +contextual [hs]

instance (f : Fault) : Vc Free (Between P) (fail bench f) :=
  .ofSpec _ (fun s => s.session.Sane) (fun _ _ t => Agreed t) Sound fun s hs => by
      unfold fail
      refine Vc.sound ?_
      simp +contextual [agreed_iff, agreement_iff, hs]

instance (g : ℤ) : Vc Free (Between P) (renewOrUnplug bench g) :=
  .ofSpec _ (fun s => s.session.Sane)
    (fun s b t => t.session.Sane ∧
      t.service = { s.service with phase := if b then s.service.phase else .unplugToStart })
    Sound fun s hs => by
      obtain ⟨hg, hp, hr, hst⟩ := hs
      unfold renewOrUnplug renew
      refine Vc.sound ?_
      simp +contextual [FakeSession.sane_iff, hg, hp, hr, hst]

instance (g : ℤ) : Vc Free (Between P) (beginWaiting bench g) :=
  .ofSpec _ (fun s => s.session.Sane ∧ s.session.Waits g s.service.failures)
    (fun _ _ t => Agreed t) Sound fun s hs => by
      obtain ⟨hs, hw⟩ := hs
      have hg := hs.ne_zero hw.generation
      unfold beginWaiting
      refine Vc.sound ?_
      simp +contextual [agreed_iff, agreement_iff, hs, hw, hg]

instance (l : Left) (g : ℤ) : Vc Free (Between P) (adoptSession bench l g) :=
  .ofSpec _ (fun s => s.session.Sane ∧ (l = .waiting → s.session.Waits g s.service.failures) ∧
      (s.service.generation = 0 → s.service.failures = 0))
    (fun _ _ t => Agreed t) Sound fun s hs => by
      obtain ⟨hs, hw, h0⟩ := hs
      unfold adoptSession
      refine Vc.sound ?_
      cases l <;> simp +contextual [agreed_iff, agreement_iff, hs, hw, h0]

instance : Vc Free (Between P) (freshSession bench) :=
  .ofSpec _ (fun s => s.session.Sane ∧ (s.service.generation = 0 → s.service.failures = 0))
    (fun _ _ t => Agreed t) Sound fun s hs => by
      obtain ⟨hs, h0⟩ := hs
      unfold freshSession
      refine Vc.sound ?_
      simp +contextual [agreed_iff, agreement_iff, hs, h0]

instance (x : Option (Left × ℤ)) : Vc Free (Between P) (stepStartWith bench x) :=
  .ofSpec _ (fun s => s.session.Sane ∧ (s.service.generation = 0 → s.service.failures = 0) ∧
      ∀ g, x = some (.waiting, g) → s.session.Waits g s.service.failures)
    (fun _ _ t => Agreed t) Sound fun s hs => by
      obtain ⟨hs, h0, hx⟩ := hs
      rcases x with _ | ⟨l, g⟩
      · unfold stepStartWith
        refine Vc.sound ?_
        simp +contextual [kept_iff, agreed_iff, agreement_iff, hs, h0]
      · unfold stepStartWith
        refine Vc.sound ?_
        refine ⟨⟨hs, fun hl => hx g (by rw [hl]), h0⟩, fun _ _ h => h, fun _ _ h => h⟩

instance : Vc Free (Between P) (stepStart bench) :=
  .ofSpec _ (fun s => s.session.Sane ∧ (s.service.generation = 0 → s.service.failures = 0))
    (fun _ _ t => Agreed t) Sound fun s hs => by
      obtain ⟨hs, h0⟩ := hs
      unfold stepStart
      refine Vc.sound ?_
      simp +contextual [kept_iff, hs, h0]

instance (n : ℕ) : Vc Free (Between P) (connect bench n) :=
  .ofSpec _ (fun s => Agreed s ∧ s.service.phase = .waiting)
    (fun _ _ t => Agreed t) Sound fun s hs => by
      obtain ⟨⟨ha, hs, h0⟩, hp⟩ := hs
      have hw := ha.waits (.inl hp)
      have hg := hs.ne_zero hw.generation
      unfold connect
      refine Vc.sound ?_
      simp +contextual [agreed_iff, agreement_iff, hs, hw, hg]

instance (p : Phase) : Vc Free (Between P) (ejectTo bench p) :=
  .ofSpec _ (fun s => s.session.Sane)
    (fun s _ t => t.session.Sane ∧ t.session.Gone s.service.generation ∧
      t.service = { s.service with phase := p, disk := none })
    (fun s f t => t.session.Sane ∧
      (f ≠ .crash → t.service = { s.service with phase := .ejecting })) fun s hs => by
      unfold ejectTo
      refine Vc.sound ?_
      simp +contextual [hs]

instance : Vc Free (Between P) (stepPulled bench) :=
  .ofSpec _ (fun s => s.session.Sane ∧ (s.service.generation = 0 → s.service.failures = 0))
    (fun _ _ t => Agreed t) Sound fun s hs => by
      obtain ⟨hs, h0⟩ := hs
      unfold stepPulled
      refine Vc.sound ?_
      simp +contextual [agreed_iff, agreement_iff, hs, h0]

instance : Vc Free (Between P) (stepRenew bench) :=
  .ofSpec _ (fun s => s.session.Sane) (fun _ _ t => Agreed t) Sound fun s hs => by
      obtain ⟨hg, hp, hr, hst⟩ := hs
      unfold stepRenew renew
      refine Vc.sound ?_
      simp +contextual [FakeSession.sane_iff, agreed_iff, agreement_iff, hg, hp, hr, hst]

instance (c : Connection) : Vc Free (Between P) (stepConnected bench c) :=
  .ofSpec _ (fun s => Agreed s ∧ (s.service.phase = .connected ∨ s.service.phase = .releasing))
    (fun _ _ t => Agreed t) Sound fun s hs => by
      obtain ⟨⟨ha, hs, h0⟩, hp⟩ := hs
      have hd := ha.drive hp
      unfold stepConnected
      refine Vc.sound ?_
      rcases hp with hp | hp <;> simp +contextual [agreed_iff, agreement_iff, hs, hd, h0, hp]

instance (n : ℕ) : Vc Free (Between P) (stepSession bench n) :=
  .ofSpec _ (fun s => Agreed s ∧ s.service.phase ≠ .failed) (fun _ _ t => Agreed t) Sound
    fun s hs => by
      obtain ⟨⟨⟨hw, hd, hg, ha⟩, hs, h0⟩, hf⟩ := hs
      have h0 := h0 hf
      unfold stepSession
      refine Vc.sound ?_
      simp +contextual [kept_iff, agreed_iff, agreement_iff, hs, hw, hd, hg, ha, h0]

instance (n : ℕ) : Vc Free (Between P) (step bench n) :=
  .ofSpec _ Agreed (fun _ _ t => Agreed t) Sound fun s hs => by
      obtain ⟨⟨hw, hd, hg, ha⟩, hs, h0⟩ := hs
      unfold step pollOnce stepAwake
      refine Vc.sound ?_
      simp +contextual [agreed_iff, agreement_iff, hs, hw, hd, hg, ha, h0]

/-! ### Sleep -/

/-- An operation for sleep that ends with `Busy` leaves the agreement, with a fault a sane
kernel. -/
@[mk_iff]
structure Broken (e : Exn) (t : World Bench) : Prop where
  sane : t.session.Sane
  busy : ∀ m, e = .busy m → Agreed t

@[mk_iff]
structure Mounted (s : World Bench) : Prop where
  phase : s.service.phase = .connected ∨ s.service.phase = .releasing
  sane : s.session.Sane
  drive : s.session.HasDrive s.service.generation s.service.disk
  unnumbered : s.service.generation = 0 → s.service.failures = 0

lemma Agreed.mounted (h : Agreed s)
    (hp : s.service.phase = .connected ∨ s.service.phase = .releasing) : Mounted s :=
  ⟨hp, h.sane, h.agreement.drive hp, h.unnumbered (by rcases hp with hp | hp <;> simp [hp])⟩

lemma unmountAll_kept (ds : List String) (hs : Mounted s) :
    wp Free (Between P) (unmountAll bench ds).1 (fun _ t => Kept s t)
      (fun e t => Broken e t) s := by
  induction ds generalizing s with
  | nil => exact ⟨rfl, rfl⟩
  | cons d ds ih =>
    let rest : Vc Free (Between P) (unmountAll bench ds) :=
      .ofSpec _ Mounted (fun s _ t => Kept s t) (fun _ e t => Broken e t) fun s hs => ih hs
    obtain ⟨hp, hs, hd, h0⟩ := hs
    unfold unmountAll
    refine Vc.sound ?_
    rcases hp with hp | hp <;> simp +contextual [rest, kept_iff, broken_iff, mounted_iff,
      agreed_iff, agreement_iff, hp, hs, hd, h0]

instance (ds : List String) : Vc Free (Between P) (unmountAll bench ds) :=
  .ofSpec _ Mounted (fun s _ t => Kept s t) (fun _ e t => Broken e t) fun _ hs =>
    unmountAll_kept ds hs

lemma unmountDesktopAll_kept (ps : List String) (hs : s.session.Sane) :
    wp Free (Between P) (unmountDesktopAll bench ps).1 (fun _ t => Kept s t)
      (fun _ t => t.session.Sane) s := by
  induction ps generalizing s with
  | nil => exact ⟨rfl, rfl⟩
  | cons d ds ih =>
    let rest : Vc Free (Between P) (unmountDesktopAll bench ds) :=
      .ofSpec _ (fun s => s.session.Sane) (fun s _ t => Kept s t) Sound fun s hs => ih hs
    unfold unmountDesktopAll
    refine Vc.sound ?_
    simp +contextual [rest, kept_iff, hs]

instance (ps : List String) : Vc Free (Between P) (unmountDesktopAll bench ps) :=
  .ofSpec _ (fun s => s.session.Sane) (fun s _ t => Kept s t) Sound fun _ hs =>
    unmountDesktopAll_kept ps hs

lemma settleForSleep_mounted (deadline : ℚ) (n k : ℕ) (hs : Mounted s) :
    wp Free (Between P) (settleForSleep bench deadline n k).1 (fun _ t => Mounted t)
      (fun e t => Broken e t) s := by
  induction n generalizing k s with
  | zero => exact ⟨hs.sane, by simp⟩
  | succ n ih =>
    let rest (k : ℕ) : Vc Free (Between P) (settleForSleep bench deadline n k) :=
      .ofSpec _ Mounted (fun _ _ t => Mounted t) (fun _ e t => Broken e t) fun s hs => ih k hs
    obtain ⟨hp, hs, hd, h0⟩ := hs
    unfold settleForSleep
    refine Vc.sound ?_
    rcases hp with hp | hp <;> simp +contextual [rest, kept_iff, broken_iff, mounted_iff,
      agreed_iff, agreement_iff, hp, hs, hd, h0]

instance (deadline : ℚ) (n k : ℕ) : Vc Free (Between P) (settleForSleep bench deadline n k) :=
  .ofSpec _ Mounted (fun _ _ t => Mounted t) (fun _ e t => Broken e t) fun _ hs =>
    settleForSleep_mounted deadline n k hs

instance (n : ℕ) (deadline : ℚ) (desktop : Bool) :
    Vc Free (Between P) (releaseForSleep bench n deadline desktop) :=
  .ofSpec _ Mounted (fun _ _ t => Agreed t) (fun _ e t => Broken e t) fun s hs => by
    obtain ⟨hp, hs, hd, h0⟩ := hs
    unfold releaseForSleep
    refine Vc.sound ?_
    simp +contextual [kept_iff, broken_iff, mounted_iff, agreed_iff, agreement_iff, hp, hs, hd, h0]

instance (deadline : ℚ) : Vc Free (Between P) (pauseForSleep bench deadline) :=
  .ofSpec _ (fun s => s.session.Sane) (fun s _ t => Kept s t) Sound fun s hs => by
    unfold pauseForSleep
    refine Vc.sound ?_
    simp +contextual [kept_iff, hs]

@[simp] lemma agreed_after (s : World Bench) (p : Port) (ts : List Tick) (log : List Event) :
    Agreed (s.after s.session p ts log) ↔ Agreed s := by
  simp only [agreed_iff, agreement_iff, after_session]

lemma Agreed.of_kept {s t : World Bench} (hs : Agreed s) (h : Kept s t) : Agreed t := by
  obtain ⟨⟨hw, hd, hg, ha⟩, hs, h0⟩ := hs
  obtain ⟨h1, h2⟩ := h
  rw [agreed_iff, agreement_iff, h1, h2]
  exact ⟨⟨hw, hd, hg, ha⟩, hs, h0⟩

instance (n : ℕ) (deadline : ℚ) : Vc Free (Between P) (powerDown bench n deadline) :=
  .ofSpec _ (fun s => Agreed s ∧ (s.service.phase = .waiting ∨ s.service.phase = .replugRequired))
    (fun _ _ t => Agreed t) Sound fun s hs => by
    obtain ⟨hs, hp⟩ := hs
    have hw := hs.agreement.waits hp
    obtain ⟨ha, hs, h0⟩ := hs
    have hg := hs.ne_zero hw.generation
    unfold powerDown
    refine Vc.sound ?_
    rcases hp with hp | hp <;>
      simp +contextual [kept_iff, agreed_iff, agreement_iff, hp, hs, hw, hg]

lemma quietForSleep_agreed (n : ℕ) (deadline : ℚ) (desktop : Bool) (m : ℕ) (hs : Agreed s) :
    wp Free (Between P) (quietForSleep bench n deadline desktop m).1 (fun _ t => Agreed t)
      (fun e t => Broken e t) s := by
  induction m generalizing s with
  | zero => exact ⟨hs.sane, by simp⟩
  | succ m ih =>
    -- The rounds that are left, as an instance for the condition of this one.
    let rest : Vc Free (Between P) (quietForSleep bench n deadline desktop m) :=
      .ofSpec _ Agreed (fun _ _ t => Agreed t) (fun _ e t => Broken e t) fun s hs => ih hs
    have hm (hp : s.service.phase = .connected ∨ s.service.phase = .releasing) := hs.mounted hp
    have hk (t : World Bench) (h : Kept s t) := hs.of_kept h
    have hsane := hs.sane
    unfold quietForSleep
    refine Vc.sound ?_
    simp +contextual [rest, broken_iff, hs, hm, hsane]
    exact fun _ _ _ _ _ _ => hk

instance (n : ℕ) (deadline : ℚ) (desktop : Bool) (m : ℕ) :
    Vc Free (Between P) (quietForSleep bench n deadline desktop m) :=
  .ofSpec _ Agreed (fun _ _ t => Agreed t) (fun _ e t => Broken e t) fun _ hs =>
    quietForSleep_agreed n deadline desktop m hs

lemma Agreed.asleep {s t : World Bench} (hs : Agreed s) (hk : t.session = s.session) (b : Bool)
    (x : ℚ) (r : Option (String × ℚ))
    (h : t.service = { s.service with sleeping := b, sleepStarted := x, refusal := r }) :
    Agreed t := by
  obtain ⟨⟨hw, hd, hg, ha⟩, hs, h0⟩ := hs
  rw [agreed_iff, agreement_iff, h, hk]
  exact ⟨⟨hw, hd, hg, ha⟩, hs, h0⟩

instance (n : ℕ) (desktop : Bool) : Vc Free (Between P) (sleepPre bench n desktop) :=
  .ofSpec _ Agreed (fun _ _ t => Agreed t) (fun _ e t => Broken e t) fun s hs => by
    unfold sleepPre
    refine Vc.sound ?_
    simp +contextual [broken_iff, hs, hs.sane]
    exact fun _ t ht => ⟨fun a _ _ _ => ht.asleep rfl true a _ rfl, fun _ => ht.sane⟩

instance (x : Option (String × ℚ)) : Vc Free (Between P) (refusedSince bench x) :=
  .ofSpec _ (fun s => s.session.Sane) (fun s _ t => Kept s t) Sound fun s hs => by
    cases x <;> unfold refusedSince <;> refine Vc.sound ?_ <;> simp +contextual [kept_iff, hs]

instance (n : ℕ) (desktop : Bool) (x : Option String) :
    Vc Free (Between P) (sleepPreUnless bench n desktop x) :=
  .ofSpec _ Agreed (fun _ _ t => Agreed t) (fun _ e t => Broken e t) fun s hs => by
    cases x <;> unfold sleepPreUnless sleepOk <;> refine Vc.sound ?_ <;> simp +contextual [hs]

instance (f : Fault) : Vc Free (Between P) (failAnswer bench f) :=
  .ofSpec _ (fun s => s.session.Sane) (fun _ _ t => Agreed t) Sound fun s hs => by
    unfold failAnswer
    refine Vc.sound ?_
    simp +contextual [hs]

instance (desktop : Bool) (message : String) :
    Vc Free (Between P) (refuse bench desktop message) :=
  .ofSpec _ Agreed (fun _ _ t => Agreed t) Sound fun s hs => by
    unfold refuse keepRefusal
    refine Vc.sound ?_
    simp +contextual [hs, hs.sane]
    exact fun _ a _ _ _ _ => hs.asleep rfl s.service.sleeping s.service.sleepStarted
      (some (message, a)) rfl

instance (n : ℕ) (action : SleepAction) (desktop : Bool) :
    Vc Free (Between P) (sleepRequest bench n action desktop) :=
  .ofSpec _ Agreed (fun _ _ t => Agreed t) Sound fun s hs => by
    cases action with
    | unknown => exact hs
    | post =>
      unfold sleepRequest sleepPost sleepOk
      refine Vc.sound ?_
      simp
      exact hs.asleep rfl _ _ none rfl
    | pre =>
      unfold sleepRequest refusedLately
      refine Vc.sound ?_
      have hb : ∀ (e : Exn) (t : World Bench), Broken e t →
          match e with
          | .busy _ => Agreed t
          | .fault _ => t.session.Sane := by
        intro e t h
        cases e with
        | busy m => exact h.busy m rfl
        | fault f => exact h.sane
      simp +contextual [hs, hs.sane]
      cases desktop with
      | false => exact fun t ht => ⟨hs.of_kept ht, hb⟩
      | true => exact hb

/-! ### Runs -/

/-- What stops a manual eject before its first store leaves everything as it is; what stops it
later leaves the phase `ejecting`. -/
instance : Vc Free (Between P) (ejectRequest bench) :=
  .ofSpec _ Agreed (fun _ _ t => Agreed t) Sound fun s hs => by
    have hn (hp : s.service.phase = .connected ∨ s.service.phase = .releasing) :=
      (hs.mounted hp).unnumbered
    unfold ejectRequest ejectNow
    refine Vc.sound ?_
    simp +contextual [hs, hs.sane]
    refine fun hp _ _ => ⟨fun t ht hg h => ?_, fun e t ht h => ?_⟩
    · simp [agreed_iff, agreement_iff, h, ht, hg]
      exact hn hp
    · cases e with
      | stop =>
        simp [agreed_iff, agreement_iff, h, ht]
        exact hn hp
      | _ => trivial

lemma op_agreed (n : ℕ) (op : Op) (hs : Agreed s) :
    wp Free (Between P) (op.run bench n).1 (fun _ t => Agreed t) (fun _ t => t.session.Sane) s := by
  cases op with
  | poll =>
    unfold Op.run
    refine Vc.sound ?_
    simp [hs]
  | eject =>
    unfold Op.run
    refine Vc.sound ?_
    simp [hs]
  | sleep action =>
    unfold Op.run answerSleep
    refine Vc.sound ?_
    simp [hs]
  | announce values =>
    have hsane (t : World Bench) (h : Agreed t) := h.sane
    unfold Op.run answerLogind answerAnnouncement
    refine Vc.sound ?_
    simp +contextual [hs, hsane]

lemma serveOps_agreed (n : ℕ) (ops : List Op) (hs : Agreed s) :
    wp Free (Between Agreement) (serveOps bench n ops).1 (fun _ t => Agreed t)
      (fun _ t => t.session.Sane) s := by
  induction ops generalizing s with
  | nil => exact hs
  | cons op ops ih =>
    let run : Vc Free (Between Agreement) (op.run bench n) :=
      .ofSpec _ Agreed (fun _ _ t => Agreed t) Sound fun s hs => op_agreed n op hs
    let rest : Vc Free (Between Agreement) (serveOps bench n ops) :=
      .ofSpec _ Agreed (fun _ _ t => Agreed t) Sound fun s hs => ih hs
    have hb : Agreed { s with op := op } := hs.of_kept ⟨rfl, rfl⟩
    have hagr (t : World Bench) (h : Agreed t) := h.agreement
    unfold serveOps
    refine Vc.sound ?_
    simp +contextual [run, rest, hb, hagr]

lemma life_agreed (n : ℕ) (ops : List Op) (hs : s.session.Sane) :
    wp Free (Between Agreement) (life bench n ops).1 (fun _ t => Agreed t)
      (fun _ t => t.session.Sane) s := by
  let rest : Vc Free (Between Agreement) (serveOps bench n ops) :=
    .ofSpec _ Agreed (fun _ _ t => Agreed t) Sound fun s hs => serveOps_agreed n ops hs
  unfold life start
  refine Vc.sound ?_
  simp +contextual [rest, agreed_iff, agreement_iff, hs]

lemma lives_sane (n : ℕ) (opss : List (List Op)) :
    Triple Free (Between Agreement) (fun s => s.session.Sane) (lives bench n opss)
      (fun _ t => t.session.Sane) fun _ _ => False := by
  refine Triple.runAll fun m hm s hs => ?_
  obtain ⟨ops, _, rfl⟩ := List.mem_map.mp hm
  exact wp_mono (fun _ _ h => h.sane) (fun _ _ h => h) (life_agreed n ops hs)

lemma sane_fresh : ({} : FakeSession).Sane := ⟨by decide, by decide, by decide, by decide⟩

/-- **Phase and kernel agree** between any two operations, in every run on a fresh kernel, with
whatever happens around it. -/
theorem lives_agreement (n : ℕ) (opss : List (List Op)) (p : Port) (ts : List Tick) (sv : Service) :
    let s : World Bench := { service := sv, kernel := ⟨⟨{}, p⟩, ts⟩ }
    Along (Between Agreement) s (lives bench n opss s).trace := by
  intro s
  exact ((lives_sane n opss).run (s := s) sane_fresh (along_true _ _)).1

end YogaUsb4.Daemon
