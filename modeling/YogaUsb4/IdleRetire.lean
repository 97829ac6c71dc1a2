import YogaUsb4.Ledger.Run

/-!
The idle retirement as a whole. It is refused, and then the session is as it was and may still
connect or be asked again; or it freezes the domain, and then a failure ends the session for
good: every later operation on it is refused, callbacks only record what the port reports, and
no connect command is sent.
-/

namespace YogaUsb4.IdleRetire

open HostState Typec Driver Prog Rules Frames Footprint Cm Activate Batch Quiesce Renew Run

variable {mp : Params}

/-! ### Steps that are not the operation's own -/

variable (mp) in
/-- The step is an act of the surroundings, or one of the driver that leaves what callbacks
write alone and changes the rest as `F` says. -/
def Own (F : Back → Back → Prop) (s : Sys) (l : Label) (t : Sys) : Prop :=
  (∃ a, l = .env a ∧ t = s.act mp a) ∨ t.front = s.front ∧ F s.back t.back

/-- Nothing but the session's lock changed. -/
def Untouched (b b' : Back) : Prop := { b' with hostLocked := b.hostLocked } = b

/-- Nothing but the session's lock and the error of the idle retirement changed. -/
def Spared (b b' : Back) : Prop :=
  { b' with hostLocked := b.hostLocked, host.idleRetireError := b.host.idleRetireError } = b

variable (mp) in
/-- An operation is refused: it fails, and its own steps only take and release the lock. -/
def Refused (op : Op) (s : Sys) : Prop :=
  (∃ e, ((op.prog mp).1 s).res = .error e) ∧
    Along (Own mp Untouched) s ((op.prog mp).1 s).trace

/-! ### The session that is over -/

/-- What a failure after the freeze leaves of the session `g`. -/
@[mk_iff] structure Over (g : ℕ) (h : X1Host) : Prop where
  generation : h.generation = g
  attempted : h.idleRetireAttempted = true
  stopping : h.stopping = true
  kept : h.fullyRetired = false
  batch : h.batch.attempted = true
  tunnel : h.tunnel.held = false
  untied : h.retainedTb = false

def sent (g : ℕ) (fr : Front) : List McuCommand := fr.commands.filter (·.generation = g)

/-- A step after which the session is still over: its link is as it was, no command was sent
for it, and a callback changed nothing but the record of the port and the list of callbacks
that are under way. -/
structure Ended (g : ℕ) (s : Sys) (l : Label) (t : Sys) : Prop where
  still : Over g t.back.host
  link : t.front.link = s.front.link
  pulled : t.front.pulled = s.front.pulled
  commands : sent g t.front = sent g s.front
  begun : ∀ n, l = .env (.begin n) → ∃ r es fl,
    t.front = { s.front with record := r, events := es, flights := fl }
  finished : ∀ i mcu f, l = .env (.finish i mcu) → s.front.flights[i]? = some f →
    f.generation = g → ∃ fl, t.front = { s.front with flights := fl }

def asks : Op → Bool
  | .activateOnce _ | .pciePrepareOnce _ | .inventoryOnce _ | .endpointRemoveOnce _
  | .tunnelQuiesceOnce _ | .hostQuiesceOnce _ | .powerQuiesceOnce _ | .idleRetireOnce _
  | .pulledRetireOnce _ | .renewSession _ => true
  | .bindStage | .shutdown | .suspend | .pmComplete | .idle _ => false

section Refusals

variable {s : Sys} {g : ℕ}

@[simps] def refusal (mp : Params) : Contract mp where
  A _ _ _ := True
  G := Own mp Untouched
  rely _ _ _ := True
  refl _ _ := trivial
  trans _ _ _ _ _ _ := trivial
  act _ a _ := ⟨.inl ⟨a, rfl, rfl⟩, trivial⟩

lemma refused_of_wp {op : Op}
    (h : wp (refusal mp).A (refusal mp).G (op.prog mp).1 (fun _ _ => False)
      (fun _ _ => True) s) : Refused mp op s := by
  obtain ⟨ha, hr⟩ := Follow.along h (along_true _ _)
  refine ⟨?_, ha⟩
  cases hres : ((op.prog mp).1 s).res with
  | ok x => rw [hres] at hr; exact hr.elim
  | error e => exact ⟨e, rfl⟩

/-! What an operation does behind its gates is not reached. -/

local instance : Vc (refusal mp).A (refusal mp).G (x1Activate mp) := Vc.unreached _

local instance (b : Bool) : Vc (refusal mp).A (refusal mp).G (Pcie.x1PciePrepareOnce mp b) :=
  Vc.unreached _

local instance (a : Admitted) : Vc (refusal mp).A (refusal mp).G (waitAttachment mp a) :=
  Vc.unreached _

local instance (a : Admitted) : Vc (refusal mp).A (refusal mp).G (startBatch mp a) :=
  Vc.unreached _

local instance : Vc (refusal mp).A (refusal mp).G (PcieRetire.qcomUsb4X1GeneralRemove mp) :=
  Vc.unreached _

local instance (m : BackProg mp Unit) : Vc (refusal mp).A (refusal mp).G (fenceAndStop mp m) :=
  Vc.unreached _

local instance (m n : BackProg mp Unit) :
    Vc (refusal mp).A (refusal mp).G (stopControl mp m n) :=
  Vc.unreached _

local instance (n : ℕ) : Vc (refusal mp).A (refusal mp).G (tbX1PcieStopped mp n) :=
  Vc.unreached _

local instance : Vc (refusal mp).A (refusal mp).G (x1PowerStopRun mp) := Vc.unreached _

local instance : Vc (refusal mp).A (refusal mp).G (retireAll mp) := Vc.unreached _

local instance (n : ℕ) : Vc (refusal mp).A (refusal mp).G (x1IdleFreezeCm mp n) :=
  Vc.unreached _

local instance : Vc (refusal mp).A (refusal mp).G (retireFrozen mp) := Vc.unreached _

local instance : Vc (refusal mp).A (refusal mp).G (retirePulled mp) := Vc.unreached _

local instance : Vc (refusal mp).A (refusal mp).G (x1IdlePlatformOwnerStopped mp) :=
  Vc.unreached _

local instance : Vc (refusal mp).A (refusal mp).G (x1PlatformOwnerStopped mp) := Vc.unreached _

lemma asks_refused {op : Op} (h : Over g s.back.host) (hop : asks op = true) :
    Refused mp op s := by
  apply refused_of_wp
  obtain ⟨fr, b, env⟩ := s
  obtain ⟨-, ha, hs, hk, hb, ht, -⟩ := h
  simp only at ha hs hk hb ht
  -- Each operation has a gate of its own that a session that is over does not pass.
  cases op with
  | bindStage | shutdown | suspend | pmComplete | idle acts => cases hop
  | activateOnce w =>
    unfold Op.prog activateOnce
    refine Vc.sound ?_
    simp [Own, Untouched, hb]
  | pciePrepareOnce w =>
    unfold Op.prog pciePrepareOnce
    refine Vc.sound ?_
    simp [Own, Untouched, hb]
  | inventoryOnce w =>
    change wp _ _ (inventoryOnce mp w).1 _ _ _
    unfold inventoryOnce leave
    cases x1BatchParse mp w with
    | none =>
      refine Vc.sound ?_
      simp
    | some a =>
      refine Vc.sound ?_
      simp [Own, Untouched, awaits, hs, hb]
  | endpointRemoveOnce w =>
    unfold Op.prog endpointRemoveOnce locked
    refine Vc.sound ?_
    simp [Own, Untouched, connected, hs]
  | tunnelQuiesceOnce w =>
    unfold Op.prog tunnelQuiesceOnce locked
    refine Vc.sound ?_
    simp [Own, Untouched, connected, hs]
  | hostQuiesceOnce w =>
    unfold Op.prog hostQuiesceOnce locked
    refine Vc.sound ?_
    simp [Own, Untouched, hs]
  | powerQuiesceOnce w =>
    unfold Op.prog powerQuiesceOnce locked
    refine Vc.sound ?_
    simp [Own, Untouched, ht]
  | idleRetireOnce w =>
    unfold Op.prog idleRetireOnce leave
    refine Vc.sound ?_
    simp [Own, Untouched, ha]
  | pulledRetireOnce w =>
    unfold Op.prog pulledRetireOnce leave
    refine Vc.sound ?_
    simp [Own, Untouched, pulledReady, hs]
  | renewSession w =>
    change wp _ _ (renewSession mp w).1 _ _ _
    unfold renewSession
    cases kstrtou64 w.buf with
    | error e =>
      refine Vc.sound ?_
      simp
    | ok generation =>
      refine Vc.sound ?_
      simp [Own, Untouched, hk]

end Refusals

/-! ### Every later step -/

section Later

variable {s : Sys} {g : ℕ}

lemma sent_append_other {g g' : ℕ} (fr : Front) (cs : List McuCommand) (hg : g' ≠ g)
    (hc : ∀ c ∈ cs, c.generation = g') :
    sent g { fr with commands := fr.commands ++ cs } = sent g fr := by
  have hnil : cs.filter (·.generation = g) = [] := by
    refine List.filter_eq_nil_iff.mpr fun c hm => ?_
    rw [hc c hm]
    simpa using hg
  unfold sent
  rw [List.filter_append, hnil, List.append_nil]

lemma finishOld_sent (fr : Front) (f : Flight) (mcu : Option Errno) (hg : f.generation ≠ g) :
    sent g (finishOld mp fr f mcu) = sent g fr := by
  refine sent_append_other fr _ hg fun c hc => ?_
  obtain ⟨p, -, hp⟩ := List.mem_filterMap.mp hc
  split_ifs at hp with hgen
  · obtain ⟨x, -, rfl⟩ := Option.map_eq_some_iff.mp hp
    rfl

lemma Over.invalidate {h : X1Host} (ho : Over g h) (fr : Front) :
    x1InvalidateRetained h fr = fr := by
  unfold x1InvalidateRetained
  rw [ho.untied]
  rfl

lemma Over.finishCurrent {b : Back} (ho : Over g b.host) (fr : Front) (n : Notice)
    (mcu : Option Errno) : finishCurrent mp b fr n mcu = fr := by
  unfold Typec.finishCurrent
  cases n <;> simp [ho.invalidate, ho.stopping, callbackBody, x1SwitchSet, x1MuxSet]

lemma Over.begun (ho : Over g s.back.host) (n : Notice) :
    Ended g s (.env (.begin n)) (s.act mp (.begin n)) := by
  have hf : ∃ r es fl, (s.act mp (.begin n)).front =
      { s.front with record := r, events := es, flights := fl } := by
    cases n <;> exact ⟨_, _, _, ho.invalidate _⟩
  obtain ⟨r, es, fl, hr⟩ := hf
  exact ⟨ho, by rw [hr], by rw [hr], by rw [hr]; rfl, fun _ _ => ⟨r, es, fl, hr⟩, nofun⟩

variable (mp) in
lemma Over.finish_front (ho : Over g s.back.host) (i : ℕ) (mcu : Option Errno) :
    (∃ fl, (s.act mp (.finish i mcu)).front = { s.front with flights := fl }) ∨
      ∃ f fl, s.front.flights[i]? = some f ∧ f.generation ≠ g ∧
        (s.act mp (.finish i mcu)).front = finishOld mp { s.front with flights := fl } f mcu := by
  have hact : (s.act mp (.finish i mcu)).front =
      EnvAct.perform mp s.back s.front (.finish i mcu) := rfl
  rw [hact]
  cases hi : s.front.flights[i]? with
  | none => exact .inl ⟨s.front.flights, by simp [EnvAct.perform, hi]⟩
  | some f =>
    by_cases hg : f.generation = g
    · left
      by_cases hl : s.back.hostLocked || s.back.configLocked
      · exact ⟨s.front.flights, by simp [EnvAct.perform, hi, ho.generation, hg, hl]⟩
      · exact ⟨s.front.flights.eraseIdx i, by
          simp [EnvAct.perform, hi, ho.generation, hg, hl, ho.finishCurrent]⟩
    · exact .inr ⟨f, s.front.flights.eraseIdx i, rfl, hg, by
        simp [EnvAct.perform, hi, ho.generation, hg]⟩

lemma Over.finished (ho : Over g s.back.host) (i : ℕ) (mcu : Option Errno) :
    Ended g s (.env (.finish i mcu)) (s.act mp (.finish i mcu)) := by
  rcases ho.finish_front mp i mcu with ⟨fl, hf⟩ | ⟨f, fl, hi, hg, hf⟩
  · exact ⟨ho, by rw [hf], by rw [hf], by rw [hf]; rfl, nofun, fun _ _ _ _ _ _ => ⟨fl, hf⟩⟩
  · refine ⟨ho, by rw [hf]; rfl, by rw [hf]; rfl, ?_, nofun, ?_⟩
    · rw [hf, finishOld_sent _ _ _ hg]; rfl
    · intro j m f' hj hf' hg'
      cases hj
      cases hi.symm.trans hf'
      exact absurd hg' hg

lemma Over.act (ho : Over g s.back.host) (a : EnvAct) : Ended g s (.env a) (s.act mp a) := by
  cases a with
  | begin n => exact ho.begun n
  | finish i mcu => exact ho.finished i mcu
  | cmEvent =>
    refine ⟨ho, ?_, ?_, ?_, nofun, nofun⟩ <;>
      · simp only [Sys.act, EnvAct.perform]
        split <;> rfl
  | cmWorker => exact ⟨ho, rfl, rfl, rfl, nofun, nofun⟩
  | config refused =>
    refine ⟨ho, ?_, ?_, ?_, nofun, nofun⟩ <;>
      · simp only [Sys.act, EnvAct.perform]
        split <;> rfl
  | enableDevice => exact ⟨ho, rfl, rfl, rfl, nofun, nofun⟩

lemma Over.step {l : Label} {t : Sys} (ho : Over g t.back.host) (hf : t.front = s.front) :
    Ended g s l t :=
  ⟨ho, by rw [hf], by rw [hf], by rw [hf], fun _ _ => ⟨_, _, _, hf⟩,
    fun _ _ _ _ _ _ => ⟨_, hf⟩⟩

variable (g) in
def Stays (s : Sys) (l : Label) (t : Sys) : Prop := Over g s.back.host → Ended g s l t

instance : Acts mp (Stays g) := ⟨fun _ a ho => ho.act a⟩

instance : Checks (Stays g) := ⟨fun _ _ _ ho => Over.step ho rfl⟩

instance : Writes (Stays g) .hostLock := ⟨by rintro s _ ⟨x, rfl⟩ ho; exact Over.step ho rfl⟩

instance : Writes (Stays g) .suspended := ⟨by
  rintro s _ ⟨x, rfl⟩ ho
  rw [over_iff] at ho
  exact Over.step ((over_iff _ _).mpr ho) rfl⟩

instance : Writes (Stays g) .bind := ⟨by
  rintro s _ ⟨x, y, z, rfl⟩ ho
  rw [over_iff] at ho
  exact Over.step ((over_iff _ _).mpr ho) rfl⟩

lemma Untouched.host {b b' : Back} (h : Untouched b b') : b'.host = b.host := by
  unfold Untouched at h
  rw [← h]

lemma Own.stays {s t : Sys} {l : Label} (h : Own mp Untouched s l t) : Stays g s l t := by
  intro ho
  rcases h with ⟨a, rfl, rfl⟩ | ⟨hf, hb⟩
  · exact ho.act a
  · refine Over.step ?_ hf
    rw [hb.host]
    exact ho

lemma Stays.over {s t : Sys} {l : Label} (h : Stays g s l t) (ho : Over g s.back.host) :
    Over g t.back.host :=
  (h ho).still

lemma wp_of_along {α : Type} {m : Prog Sys Label Errno α}
    (ha : Along (Stays g) s (m s).trace) (ho : Over g s.back.host) :
    wp (fun _ _ _ => True) (Stays g) m (fun _ t => Over g t.back.host)
      (fun _ t => Over g t.back.host) s := by
  have hend := (ha.invariant (I := fun t : Sys => Over g t.back.host)
    (fun _ _ _ h => h.over) ho).2
  have : Follow (fun _ _ _ => True) (Stays g) s (m s).trace fun t => Over g t.back.host := by
    generalize (m s).trace = tr at ha hend
    clear ho
    induction tr generalizing s with
    | nil => exact hend
    | cons x tr ih => exact fun _ => ⟨ha.1, ih ha.2 hend⟩
  refine this.mono (fun _ _ _ h => h) (fun _ _ _ h => h) fun t ht => ?_
  cases (m s).res <;> exact ht

variable {R : Sys → Label → Sys → Prop}

instance (priority := low) {α : Type} (m : Guarded Sys Label Errno R α)
    [hm : Keeps (Stays g) m] :
    Preserves (fun _ _ _ => True) (Stays g) (fun s => Over g s.back.host) m :=
  ⟨fun s ho => wp_of_along (hm.within s) ho⟩

lemma bindStage_stays (ho : Over g s.back.host) :
    Along (Stays g) s ((bindStage mp).1 s).trace := by
  have hw : wp (fun _ _ _ => True) (Stays g) (bindStage mp).1 (fun _ t => Over g t.back.host)
      (fun _ t => Over g t.back.host) s := by
    unfold bindStage
    refine Preserves.step (fun s => Over g s.back.host) ho (fun _ _ h => h) fun h t ho => ?_
    refine Preserves.step (fun s => Over g s.back.host) ho (fun _ _ h => h) fun _ t ho => ?_
    refine Preserves.step (fun s => Over g s.back.host) ho (fun _ _ h => h) fun _ t ho => ?_
    refine (wp_bind _ _).mpr (wp_getHost.mpr ?_)
    have hstop := ho.stopping
    refine Preserves.step (fun s => Over g s.back.host) ho (fun _ _ h => h) fun _ u ho => ?_
    refine (wp_bind _ _).mpr ((wp_attempt _).mpr ((wp_bind _ _).mpr ((wp_require _ _).mpr ?_)))
    rw [if_neg (by simp [hstop])]
    beta_reduce
    exact Preserves.sound (A := fun _ _ _ => True) (G := Stays g)
      (I := fun s => Over g s.back.host) u ho
  exact (hw.along (along_true _ _)).1

lemma shutdown_stays (ho : Over g s.back.host) :
    Along (Stays g) s ((x1Shutdown mp).1 s).trace := by
  have hw : wp (fun _ _ _ => True) (Stays g) (x1Shutdown mp).1 (fun _ t => Over g t.back.host)
      (fun _ t => Over g t.back.host) s := by
    unfold x1Shutdown
    refine (wp_bind _ _).mpr (wp_getHost.mpr ?_)
    beta_reduce
    rw [if_neg (by simp [ho.stopping])]
    exact ho
  exact (hw.along (along_true _ _)).1

lemma op_stays (op : Op) (ho : Over g s.back.host) :
    Along (Stays g) s ((op.prog mp).1 s).trace := by
  by_cases hop : asks op = true
  · exact (asks_refused ho hop).2.mono fun _ _ _ h => h.stays
  · cases op with
    | bindStage => exact bindStage_stays ho
    | shutdown => exact shutdown_stays ho
    | suspend => exact (inferInstance : Keeps (Stays g) (x1Suspend mp)).within s
    | pmComplete => exact (inferInstance : Keeps (Stays g) (x1PmComplete mp)).within s
    | idle acts => exact (inferInstance : Keeps (Stays g) (surroundings mp acts)).within s
    | _ => exact absurd rfl hop

variable (mp) in
lemma run_stays (ops : List Op) (ho : Over g s.back.host) :
    Along (Ended g) s (runAll (ops.map fun op => (op.prog mp).1) s).trace ∧
      Over g (final s (runAll (ops.map fun op => (op.prog mp).1) s).trace).back.host := by
  have hrun : Triple (fun _ _ _ => True) (Stays g) (fun s => Over g s.back.host)
      (runAll (ops.map fun op => (op.prog mp).1)) (fun _ s => Over g s.back.host)
      fun _ _ => False := by
    refine Triple.runAll fun m hm => ?_
    obtain ⟨op, -, rfl⟩ := List.mem_map.mp hm
    exact fun s hs => wp_of_along (op_stays op hs) hs
  have hsteps := (hrun.run ho (along_true _ _)).1
  obtain ⟨hover, hend⟩ := hsteps.invariant (I := fun t : Sys => Over g t.back.host)
    (fun _ _ _ h => h.over) ho
  exact ⟨(hsteps.and hover).mono fun _ _ _ h => h.1 h.2.1, hend⟩

end Later

/-! ### The way to the freeze -/

lemma attempt_early {S R : Sys → Label → Sys → Prop} {m : Guarded Sys Label Errno R Unit}
    (hm : Early S m.1 fun r _ => r = .ok ()) :
    Early S (attempt m).1 fun r _ => ∃ a, r = .ok a ∧ a = none := by
  refine Early.tryCatch (Early.bind (T := fun _ _ => True) ?_ (fun _ => ?_) ?_) fun e => ?_
  · intro s
    exact (hm s).imp id fun h => ⟨(), h, trivial⟩
  · exact .of_within (within_pure _)
  · exact fun _ _ _ => ⟨none, rfl, none, rfl, rfl⟩
  · exact .of_within (within_pure _)

instance : Acts mp (Own mp Spared) := ⟨fun _ a => .inl ⟨a, rfl, rfl⟩⟩

instance : Checks (Own mp Spared) := ⟨fun _ _ _ => .inr ⟨rfl, rfl⟩⟩

instance : Writes (Own mp Spared) .hostLock := ⟨by rintro s _ ⟨x, rfl⟩; exact .inr ⟨rfl, rfl⟩⟩

instance (e : Option Errno) :
    Keeps (Own mp Spared) (assignHost mp fun h => { h with idleRetireError := e }) :=
  ⟨within_step fun _ => .inr ⟨rfl, rfl⟩⟩

lemma tryFreeze_early : Early (Own mp Spared) (tryFreeze mp).1 fun r _ => r = .ok () := by
  unfold tryFreeze tbX1IdleFreeze
  refine Early.step fun _ => Early.step fun _ => Early.step fun _ => ?_
  refine Early.step fun _ => Early.step fun _ => Early.step fun _ => ?_
  refine Early.step fun _ => Early.step fun _ => Early.step fun _ => ?_
  exact fun s => .inr rfl

lemma x1IdleFreezeCm_early (n : ℕ) :
    Early (Own mp Spared) (x1IdleFreezeCm mp n).1 fun r _ => r = .ok () := by
  induction n with
  | zero => exact tryFreeze_early
  | succ n ih =>
    unfold x1IdleFreezeCm
    refine Early.bind (attempt_early tryFreeze_early) (fun ret => ?_) fun ret t h => ?_
    · beta_reduce
      split
      · exact .of_within (inferInstance : Keeps (Own mp Spared) (raise ret)).within
      · refine Early.step fun late => ?_
        split
        · exact .of_within (within_throw _)
        · exact Early.step fun _ => ih
    · rw [h]; rfl

/-! ### From the freeze on -/

section Frozen

/-- What the steps of the retirement leave of a session. -/
structure Left (h h' : X1Host) : Prop where
  generation : h'.generation = h.generation
  attempted : h'.idleRetireAttempted = h.idleRetireAttempted
  stopping : h'.stopping = h.stopping
  kept : h'.fullyRetired = h.fullyRetired
  batch : h'.batch.attempted = h.batch.attempted
  tunnel : h'.tunnel.held = h.tunnel.held
  untied : h.retainedTb = false → h'.retainedTb = false

lemma Left.refl (h : X1Host) : Left h h := ⟨rfl, rfl, rfl, rfl, rfl, rfl, id⟩

lemma Left.trans {h h' h'' : X1Host} (hl : Left h h') (hl' : Left h' h'') : Left h h'' :=
  ⟨hl'.generation.trans hl.generation, hl'.attempted.trans hl.attempted,
    hl'.stopping.trans hl.stopping, hl'.kept.trans hl.kept, hl'.batch.trans hl.batch,
    hl'.tunnel.trans hl.tunnel, fun hr => hl'.untied (hl.untied hr)⟩

lemma Left.over {g : ℕ} {h h' : X1Host} (hl : Left h h') (ho : Over g h) : Over g h' :=
  ⟨hl.generation.trans ho.generation, hl.attempted.trans ho.attempted,
    hl.stopping.trans ho.stopping, hl.kept.trans ho.kept, hl.batch.trans ho.batch,
    hl.tunnel.trans ho.tunnel, hl.untied ho.untied⟩

def Leaves (s : Sys) (_ : Label) (t : Sys) : Prop := Left s.back.host t.back.host

/-- The sections that say nothing about the stage of the session. -/
@[reducible] def leavesStage : Section → Bool
  | .batch | .tunnel | .tunnelStage | .stopping | .tb | .idle | .retired => false
  | _ => true

instance : Acts mp Leaves := ⟨fun s _ => Left.refl s.back.host⟩

instance : Silent Leaves := ⟨fun s _ _ _ _ => Left.refl s.back.host⟩

instance (k : Section) [h : Holds (leavesStage k)] : Writes Leaves k := by
  have h := h.out
  refine ⟨fun s b hd => ?_⟩
  cases k
  all_goals first
    | exact absurd h Bool.false_ne_true
    | (obtain ⟨x, rfl⟩ := hd; exact ⟨rfl, rfl, rfl, rfl, rfl, rfl, id⟩)
    | (obtain ⟨x, y, rfl⟩ := hd; exact ⟨rfl, rfl, rfl, rfl, rfl, rfl, id⟩)
    | (obtain ⟨x, y, z, rfl⟩ := hd; exact ⟨rfl, rfl, rfl, rfl, rfl, rfl, id⟩)
    | (obtain ⟨w, x, y, z, rfl⟩ := hd; exact ⟨rfl, rfl, rfl, rfl, rfl, rfl, id⟩)

instance : Keeps Leaves (assignHost mp fun h => { h with retainedTb := false, tb := false }) :=
  ⟨within_step fun _ => ⟨rfl, rfl, rfl, rfl, rfl, rfl, fun _ => rfl⟩⟩

instance (e : Option Errno) :
    Keeps Leaves (assignHost mp fun h => { h with idleRetireError := e }) :=
  ⟨within_step fun _ => ⟨rfl, rfl, rfl, rfl, rfl, rfl, id⟩⟩

instance (x : Bool) : Keeps Leaves (assignHost mp fun h => { h with idleRetired := x }) :=
  ⟨within_step fun _ => ⟨rfl, rfl, rfl, rfl, rfl, rfl, id⟩⟩

instance : Keeps Leaves (stopControl mp (pure ()) (pure ())) := by
  unfold stopControl; infer_instance

instance : Keeps Leaves (x1IdlePowerStopRun mp) := by
  unfold x1IdlePowerStopRun idlePowerDown; infer_instance

instance : Keeps Leaves (unregisterDomain mp (fun h => h.tb) (pure ())) := by
  unfold unregisterDomain; infer_instance

instance : Keeps Leaves (x1IdleRetireDomain mp) := by
  unfold x1IdleRetireDomain; infer_instance

instance : Keeps Leaves (dropStoreVote mp) := by unfold dropStoreVote; infer_instance

instance (f : Back → Front → Front) : Keeps Leaves (assignFront mp f) :=
  ⟨within_step fun s => Left.refl s.back.host⟩

variable {h : X1Host} {s : Sys} {R : Sys → Label → Sys → Prop}

instance (priority := low) {α : Type} (m : Guarded Sys Label Errno R α) [hm : Keeps Leaves m] :
    Preserves (Ledger.plain mp).A (Ledger.plain mp).G (fun s => Left h s.back.host) m := by
  refine ⟨fun s hs => ?_⟩
  have : Keeps (fun s l t => (Ledger.plain mp).A s l t → Left h s.back.host →
      (Ledger.plain mp).G s l t ∧ Left h t.back.host) m :=
    ⟨hm.within.mono fun s l t hl _ hs => ⟨trivial, hs.trans hl⟩⟩
  exact Keeps.wp_of_invariant m hs (fun _ _ ht => ht) fun _ _ ht => ht

lemma retireIdle_left (hs : Left h s.back.host) :
    wp (Ledger.plain mp).A (Ledger.plain mp).G (retireIdle mp).1
      (fun _ t => t.back.host.idleRetireAttempted = h.idleRetireAttempted)
      (fun _ t => Left h t.back.host) s := by
  unfold retireIdle
  refine Preserves.step (fun s => Left h s.back.host) hs (fun _ _ h => h) fun _ s hs => ?_
  refine Preserves.step (fun s => Left h s.back.host) hs (fun _ _ h => h) fun _ s hs => ?_
  refine Preserves.step (fun s => Left h s.back.host) hs (fun _ _ h => h) fun _ s hs => ?_
  refine Preserves.step (fun s => Left h s.back.host) hs (fun _ _ h => h) fun _ s hs => ?_
  refine Preserves.step (fun s => Left h s.back.host) hs (fun _ _ h => h) fun _ s hs => ?_
  exact fun _ => ⟨trivial, hs.attempted⟩

/-- The session that `h` becomes when its wait ends. -/
def afterWait (h : X1Host) : X1Host := { h with idleRetireAttempted := true, stopping := true }

lemma endWait_left :
    wp (Ledger.plain mp).A (Ledger.plain mp).G (endWait mp).1
      (fun _ t => Left (afterWait s.back.host) t.back.host) (fun _ _ => False) s := by
  unfold endWait
  refine Vc.sound ?_
  simp only [Vc.vc, Ledger.plain_A, Ledger.plain_G, Ledger.plain_rely, true_implies, true_and]
  exact fun _ _ => ⟨rfl, rfl, rfl, rfl, rfl, rfl, id⟩

variable (mp s) in
lemma retireFrozen_left :
    wp (Ledger.plain mp).A (Ledger.plain mp).G (retireFrozen mp).1
      (fun _ t => t.back.host.idleRetireAttempted = true)
      (fun _ t => Left (afterWait s.back.host) t.back.host) s := by
  unfold retireFrozen
  refine (wp_bind _ _).mpr (wp_mono (fun _ t hs => ?_) (fun _ _ h => h.elim) endWait_left)
  have hatt : (afterWait s.back.host).idleRetireAttempted = true := rfl
  generalize afterWait s.back.host = h at hs hatt
  refine Preserves.step (fun s => Left h s.back.host) hs (fun _ _ h => h) fun _ s hs => ?_
  refine Preserves.step (fun s => Left h s.back.host) hs (fun _ _ h => h) fun ret s hs => ?_
  refine Preserves.step (fun s => Left h s.back.host) hs (fun _ _ h => h) fun _ s hs => ?_
  refine (wp_bind _ _).mpr ((wp_attempt _).mpr ((wp_bind _ _).mpr ((wp_raise ret).mpr ?_)))
  cases ret with
  | some e => exact fun _ => ⟨trivial, hs.trans ⟨rfl, rfl, rfl, rfl, rfl, rfl, id⟩⟩
  | none =>
    refine wp_mono (fun _ t ht => ?_) (fun e t ht => ?_) (retireIdle_left hs)
    · exact fun _ => ⟨trivial, ht.trans hatt⟩
    · exact fun _ => ⟨trivial, ht.trans ⟨rfl, rfl, rfl, rfl, rfl, rfl, id⟩⟩

end Frozen

/-! ### The two ways of a failure -/

variable (mp) in
lemma idleRetireOnce_early (w : Write) :
    Early (Own mp Spared) (idleRetireOnce mp w).1
      fun _ t => t.back.host.idleRetireAttempted = true := by
  unfold idleRetireOnce leave
  refine Early.step fun _ => Early.step fun _ => Early.step fun _ => Early.step fun s => ?_
  have hfrozen (t : Sys) : (final t ((retireFrozen mp).1 t).trace).back.host.idleRetireAttempted =
      true := by
    have hend := (retireFrozen_left mp t).along (along_true _ _) |>.2
    split at hend
    · exact hend
    · exact hend.attempted
  split_ifs
  · exact .of_within
      (inferInstance : Keeps (Own mp Spared) (do unlockHost mp; throw .ealready)).within
  · exact .of_within (inferInstance : Keeps (Own mp Spared) (do unlockHost mp; throw .eperm)).within
  · refine Early.bind (attempt_early (x1IdleFreezeCm_early _)) (fun ret => ?_) fun ret t h => ?_
    · beta_reduce
      split
      · refine Early.step fun _ => Early.step fun _ => ?_
        exact .of_within (inferInstance : Keeps (Own mp Spared) (raise ret)).within
      · exact fun t => .inr (hfrozen t)
    · rw [h]
      exact hfrozen t

def Calm (s : Sys) (_ : Label) (t : Sys) : Prop := t.back.host = s.back.host

instance : Acts mp Calm := ⟨fun _ _ => rfl⟩

instance : Checks Calm := ⟨fun _ _ _ => rfl⟩

instance : Writes Calm .hostLock := ⟨by rintro s _ ⟨x, rfl⟩; rfl⟩

instance (priority := low) {α : Type} {h : X1Host} {R : Sys → Label → Sys → Prop}
    (m : Guarded Sys Label Errno R α) [hm : Keeps Calm m] :
    Preserves (Ledger.plain mp).A (Ledger.plain mp).G (fun s => s.back.host = h) m := by
  refine ⟨fun s hs => ?_⟩
  have : Keeps (fun s l t => (Ledger.plain mp).A s l t → s.back.host = h →
      (Ledger.plain mp).G s l t ∧ t.back.host = h) m :=
    ⟨hm.within.mono fun s l t hl _ hs => ⟨trivial, hl.trans hs⟩⟩
  exact Keeps.wp_of_invariant m hs (fun _ _ ht => ht) fun _ _ ht => ht

lemma Left.ended {h h' : X1Host} (hl : Left h h') : Left (afterWait h) (afterWait h') :=
  ⟨hl.generation, rfl, rfl, hl.kept, hl.batch, hl.tunnel, hl.untied⟩

variable (mp) in
lemma idleRetireOnce_left (w : Write) (s : Sys) :
    wp (Ledger.plain mp).A (Ledger.plain mp).G (idleRetireOnce mp w).1 (fun _ _ => True)
      (fun _ t => t.back.host.idleRetireAttempted = s.back.host.idleRetireAttempted ∨
        mp.general = true ∧ (∃ l, idleReady s.back.host l = true) ∧
          Left (afterWait s.back.host) t.back.host) s := by
  unfold idleRetireOnce leave
  generalize hh : s.back.host = h
  refine (wp_bind _ _).mpr ((wp_require _ _).mpr ?_)
  split; swap
  · exact .inl (by rw [hh])
  rename_i hreq
  have hkept (e : Errno) (t : Sys) (ht : t.back.host = h) :
      t.back.host.idleRetireAttempted = h.idleRetireAttempted ∨
        mp.general = true ∧ (∃ l, idleReady h l = true) ∧
          Left (afterWait h) t.back.host := .inl (by rw [ht])
  refine Preserves.step (fun s => s.back.host = h) hh hkept fun _ s hh => ?_
  refine Preserves.step (fun s => s.back.host = h) hh hkept fun _ s hh => ?_
  refine (wp_bind _ _).mpr (wp_get.mpr ?_)
  beta_reduce
  split_ifs with hatt hready
  · exact Preserves.step (fun s => s.back.host = h) hh hkept fun _ s hh => hkept .ealready s hh
  · exact Preserves.step (fun s => s.back.host = h) hh hkept fun _ s hh => hkept .eperm s hh
  -- Only the freeze and what follows it may change the session.
  have hl : Left h s.back.host := by rw [hh]; exact Left.refl h
  refine Preserves.step (fun s => Left h s.back.host) hl (fun _ _ ht => .inl ht.attempted)
    fun ret t hl => ?_
  split_ifs with hret
  · -- A refused freeze keeps the session.
    refine Preserves.step (fun s => Left h s.back.host) hl (fun _ _ ht => .inl ht.attempted)
      fun _ t hl => ?_
    refine Preserves.step (fun s => Left h s.back.host) hl (fun _ _ ht => .inl ht.attempted)
      fun _ t hl => ?_
    refine (wp_raise ret).mpr ?_
    cases ret with
    | none => trivial
    | some e => exact .inl hl.attempted
  · refine wp_mono (fun _ _ _ => trivial) (fun _ u hu => ?_) (retireFrozen_left mp t)
    refine .inr ⟨?_, ⟨s.front.link, ?_⟩, hl.ended.trans hu⟩
    · simp only [Bool.and_eq_true] at hreq
      exact hreq.1.1.1.1.1.1.2
    · rw [← hh]
      simpa using hready

lemma idleReady_waits {h : X1Host} {l : Link} (hr : idleReady h l = true) :
    h.stopping = false ∧ h.batch.waiting = true ∧ h.batch.attempted = true ∧
      h.tunnel.held = false := by
  simp only [idleReady, Bool.and_eq_true, Bool.not_eq_true'] at hr
  tauto

/-- A session that waits for its first attachment is not retired and holds no domain, so once
it was ended it is over. -/
lemma over_of_inv {h : X1Host} {b : Back} {l : Link} (hinv : Ledger.Inv b)
    (hready : idleReady b.host l = true) (hl : Left (afterWait b.host) h) :
    Over b.host.generation h := by
  obtain ⟨hstop, hwait, hbatch, htunnel⟩ := idleReady_waits hready
  rcases hinv with hdead | ⟨-, hsound⟩
  · rw [hdead.2.1] at hstop
    cases hstop
  · have hkept : b.host.fullyRetired = false := by
      by_contra hr
      rw [(hsound.retired (by simpa using hr)).1] at hstop
      cases hstop
    exact hl.over ⟨rfl, rfl, rfl, hkept, hbatch, htunnel, hsound.fresh hwait⟩

variable (mp) in
def Reached (s : Sys) : Prop :=
  ∃ env ops, s = final (probed env) (runOps mp ops (probed env)).trace

lemma over_of_failed {s : Sys} {w : Write} {e : Errno} (hs : Reached mp s)
    (hfail : ((idleRetireOnce mp w).1 s).res = .error e)
    (hnew : s.back.host.idleRetireAttempted = false)
    (hatt : (final s ((idleRetireOnce mp w).1 s).trace).back.host.idleRetireAttempted = true) :
    Over s.back.host.generation
      (final s ((idleRetireOnce mp w).1 s).trace).back.host := by
  have hend := ((idleRetireOnce_left mp w s).along (along_true _ _)).2
  rw [hfail] at hend
  rcases hend with hsame | ⟨hgen, ⟨l, hready⟩, hl⟩
  · rw [hatt, hnew] at hsame
    cases hsame
  · obtain ⟨env, ops, rfl⟩ := hs
    exact over_of_inv (Ledger.runOps_inv hgen ops env) hready hl

lemma Spared.gates {b b' : Back} (h : Spared b b') (l : Link) (a : Admitted) :
    awaits mp b'.host l a = awaits mp b.host l a ∧ idleReady b'.host l = idleReady b.host l := by
  unfold Spared at h
  rw [← h]
  exact ⟨rfl, rfl⟩

lemma spared_of_along {s : Sys} {tr : List (Label × Sys)} (h : Along (Own mp Spared) s tr) :
    Spared s.back (final s tr).back := by
  refine (h.invariant (I := fun t : Sys => Spared s.back t.back) ?_ rfl).2
  rintro t l u (⟨a, rfl, rfl⟩ | ⟨-, hu⟩) ht
  · exact ht
  · unfold Spared at hu ht ⊢
    rw [← ht, ← hu]

/-- An idle retirement that fails has changed nothing but its own error, so that the gates of the
session read what they did; or it has passed the freeze, and then, whatever is asked afterwards,
every operation on the session is refused, callbacks only record what the port reports, and no
connect command is sent. -/
theorem idleRetireOnce_kept_or_over (s : Sys) (w : Write) (e : Errno)
    (hfail : ((idleRetireOnce mp w).1 s).res = .error e) :
    let t := final s ((idleRetireOnce mp w).1 s).trace
    (t.back.host.idleRetireAttempted = false →
      Along (Own mp Spared) s ((idleRetireOnce mp w).1 s).trace ∧ Spared s.back t.back ∧
        ∀ l a, awaits mp t.back.host l a = awaits mp s.back.host l a ∧
          idleReady t.back.host l = idleReady s.back.host l) ∧
    (Reached mp s → s.back.host.idleRetireAttempted = false →
      t.back.host.idleRetireAttempted = true → ∀ ops : List Op,
        let later := runAll (ops.map fun op => (op.prog mp).1) t
        Along (Ended s.back.host.generation) t later.trace ∧
          ∀ op, asks op = true → Refused mp op (final t later.trace)) := by
  refine ⟨fun hnot => ?_, fun hs hnew hatt ops => ?_⟩
  · rcases idleRetireOnce_early mp w s with h | h
    · exact ⟨h, spared_of_along h, (spared_of_along h).gates⟩
    · rw [h] at hnot
      cases hnot
  · obtain ⟨hsteps, hover⟩ := run_stays mp ops (over_of_failed hs hfail hnew hatt)
    exact ⟨hsteps, fun op hop => asks_refused hover hop⟩

/-- A session that waits for its first attachment, before a run of which the `n`-th answer is a
failure. -/
def waiting (n : ℕ) : Sys :=
  let env := undisturbed.set n { err := some .eio }
  final (probed env) (runOps required [.inventoryOnce ⟨true, "inventory any"⟩] (probed env)).trace

lemma waiting_reached (n : ℕ) : Reached required (waiting n) := ⟨_, _, rfl⟩

def retireIdleWrite : Write := ⟨true, "retire-idle-v1"⟩

theorem idleRetireOnce_kept_or_over_eio :
    let early := (idleRetireOnce required retireIdleWrite).1 (waiting 116)
    let late := (idleRetireOnce required retireIdleWrite).1 (waiting 121)
    early.res = .error .eio ∧ Along (Own required Spared) (waiting 116) early.trace ∧
      late.res = .error .eio ∧
        ∀ op, asks op = true → Refused required op (final (waiting 121) late.trace) := by
  have hearly : ((idleRetireOnce required retireIdleWrite).1 (waiting 116)).res = .error .eio := by
    decide +kernel
  have hlate : ((idleRetireOnce required retireIdleWrite).1 (waiting 121)).res = .error .eio := by
    decide +kernel
  refine ⟨hearly, ?_, hlate, ?_⟩
  · exact ((idleRetireOnce_kept_or_over _ _ _ hearly).1 (by decide +kernel)).1
  · have hlater := ((idleRetireOnce_kept_or_over _ _ _ hlate).2 (waiting_reached 121)
      (by decide +kernel) (by decide +kernel) []).2
    have hnil (t : Sys) :
        final t (runAll ([].map fun op : Op => (op.prog required).1) t).trace = t := rfl
    rw [hnil] at hlater
    exact hlater

end YogaUsb4.IdleRetire
