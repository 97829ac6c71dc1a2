import YogaUsb4.Daemon.Questions
import YogaUsb4.Daemon.Fake

/-!
The phase `'releasing'` and the polls in it. A poll enters the phase for a drive that was seen
mounted; a sleep that is refused enters it whether or not the drive ever was, and the poll ejects
a drive only if it was.
-/

namespace YogaUsb4.Daemon

open Prog

variable {κ : Type} {K : Kernel κ} {s : World κ} {A : World κ → Label → World κ → Prop}

/-- What the kernel reports to a poll from `s`: the drive is connected, nothing of it is mounted
and no namespace holds it. -/
structure ReportsFree (K : Kernel κ) (s : World κ) : Prop where
  connected : ((connection K s.service.generation).1 s).res = .ok .connected
  mounted : (K.answer (.mounted s.service.disk)
    (final s ((connection K s.service.generation).1 s).trace).kernel).1 = .ok []
  released : (K.answer (.released s.service.disk) (K.answer (.mounted s.service.disk)
    (final s ((connection K s.service.generation).1 s).trace).kernel).2).1 = .ok true

/-- Where a poll is when it has looked at the mounts and the holders of the drive. -/
def lookedAt (K : Kernel κ) (s : World κ) : World κ :=
  let m := K.answer (.mounted s.service.disk) s.kernel
  let r := K.answer (.released s.service.disk) m.2
  (s.asked m.2 (some (.mounted s.service.disk m.1))).asked r.2
    (some (.released s.service.disk r.1))

/-- And before that at the connection. -/
def looked (K : Kernel κ) (s : World κ) : World κ :=
  lookedAt K (final s ((connection K s.service.generation).1 s).trace)

/-! ### The events of an eject -/

/-- The stages were stored one after the other, and each was confirmed. -/
inductive StagesDone : List EjectStage → List Event → Prop
  | nil : StagesDone [] []
  | cons {st : EjectStage} {sts : List EjectStage} {value : Fields} {es : List Event}
      (hst : st.confirmed value) (hsts : StagesDone sts es) : StagesDone (st :: sts)
        (.store st.store st.token (.ok ()) :: .read st.snapshot (.ok value) :: es)

/-- The stages were stored one after the other up to one whose store failed, whose snapshot could
not be read or did not confirm it. -/
inductive StagesFailed : List EjectStage → List Event → Prop
  | store {st : EjectStage} {sts : List EjectStage} {f : Fault} :
      StagesFailed (st :: sts) [.store st.store st.token (.error f)]
  | read {st : EjectStage} {sts : List EjectStage} {f : Fault} : StagesFailed (st :: sts)
      [.store st.store st.token (.ok ()), .read st.snapshot (.error f)]
  | unconfirmed {st : EjectStage} {sts : List EjectStage} {value : Fields}
      (hst : ¬ st.confirmed value) : StagesFailed (st :: sts)
        [.store st.store st.token (.ok ()), .read st.snapshot (.ok value)]
  | later {st : EjectStage} {sts : List EjectStage} {value : Fields} {es : List Event}
      (hst : st.confirmed value) (hsts : StagesFailed sts es) : StagesFailed (st :: sts)
        (.store st.store st.token (.ok ()) :: .read st.snapshot (.ok value) :: es)

/-- The snapshot is of the session `g`, which is fully retired with its platform. -/
def showsRetired (g : ℤ) (value : Fields) : Bool :=
  value .managed == some "1" && value .generation == some (toString g) &&
    (value .fullyRetired == some "1" && value .platformRetired == some "1")

/-- A complete eject of the session `g`: every stage, then the retired session, then no drive. -/
def Ejected (g : ℤ) (es : List Event) : Prop :=
  ∃ stages value, StagesDone ejectTable stages ∧ showsRetired g value ∧
    es = stages ++ [.read .sessionState (.ok value), .disk (.ok none)]

/-- An eject of the session `g` up to what failed: a stage, or a look after the last one. -/
inductive EjectFailed (g : ℤ) : List Event → Prop
  | stage {es : List Event} (h : StagesFailed ejectTable es) : EjectFailed g es
  | unread {stages : List Event} {f : Fault} (h : StagesDone ejectTable stages) :
      EjectFailed g (stages ++ [.read .sessionState (.error f)])
  | unretired {stages : List Event} {value : Fields} (h : StagesDone ejectTable stages)
      (hv : ¬ showsRetired g value) : EjectFailed g (stages ++ [.read .sessionState (.ok value)])
  | visible {stages : List Event} {value : Fields} {r : Except Fault (Option String)}
      (h : StagesDone ejectTable stages) (hv : showsRetired g value) (hr : r ≠ .ok none) :
      EjectFailed g (stages ++ [.read .sessionState (.ok value), .disk r])

/-- How the events of a poll that ejects from `u` go with the phase it ends in. A service that
fails may have stopped at either of the two phases it publishes. -/
inductive Resolved (K : Kernel κ) (u : World κ) (es : List Event) : Phase → Prop
  | ejected (h : Ejected u.service.generation es) : Resolved K u es .safeToUnplug
  | failed (h : EjectFailed u.service.generation es) : Resolved K u es .failed
  | unbegun {f : Fault} (h : ((publish K .ejecting true).1 u).res = .error f) (hes : es = []) :
      Resolved K u es .failed
  | unpublished (h : Ejected u.service.generation es) : Resolved K u es .failed

section Eject

variable {sts : List EjectStage} {g : ℤ}

lemma wp_runEjectStage (st : EjectStage) :
    wp A Free (runEjectStage K st).1
      (fun _ t => ∃ value, st.confirmed value ∧ t.service = s.service ∧ t.log = s.log ++
        [.store st.store st.token (.ok ()), .read st.snapshot (.ok value)])
      (fun _ t => ∃ es, t.log = s.log ++ es ∧ ∀ sts, StagesFailed (st :: sts) es) s := by
  refine (wp_bind _ _).mpr (wp_ask (fun _ _ => ?_) fun f _ => ⟨_, rfl, fun _ => .store⟩)
  refine (wp_bind _ _).mpr (wp_ask (fun value _ => ?_) fun f _ =>
    ⟨_, List.append_assoc _ _ _, fun _ => .read⟩)
  refine wp_if (fun h => ?_) fun h => ?_
  · exact ⟨value, h, rfl, List.append_assoc _ _ _⟩
  · exact ⟨_, List.append_assoc _ _ _, fun _ => .unconfirmed h⟩

lemma wp_runEjectStages :
    wp A Free (runEjectStages K sts).1
      (fun _ t => t.service = s.service ∧ ∃ es, t.log = s.log ++ es ∧ StagesDone sts es)
      (fun _ t => ∃ es, t.log = s.log ++ es ∧ StagesFailed sts es) s := by
  induction sts generalizing s with
  | nil => exact ⟨rfl, [], (List.append_nil _).symm, .nil⟩
  | cons st sts ih =>
    refine (wp_bind _ _).mpr (wp_mono ?_ ?_ (wp_runEjectStage st))
    · rintro - t ⟨value, hst, hserv, hlog⟩
      refine wp_mono ?_ ?_ ih
      · rintro - u ⟨hserv', es, hes, hdone⟩
        refine ⟨hserv'.trans hserv, _, ?_, .cons hst hdone⟩
        rw [hes, hlog, List.append_assoc]
        rfl
      · rintro f u ⟨es, hes, hfail⟩
        refine ⟨_, ?_, .later hst hfail⟩
        rw [hes, hlog, List.append_assoc]
        rfl
    · rintro f t ⟨es, hes, hfail⟩
      exact ⟨es, hes, hfail sts⟩

lemma wp_requireRetired :
    wp A Free (requireRetired K g).1
      (fun _ t => ∃ value, showsRetired g value ∧ t.service = s.service ∧
        t.log = s.log ++ [.read .sessionState (.ok value)])
      (fun _ t => ∃ r, t.log = s.log ++ [.read .sessionState r] ∧
        ∀ value, r = .ok value → ¬ showsRetired g value) s := by
  refine (wp_bind _ _).mpr ((wp_bind _ _).mpr
    (wp_ask (fun value _ => ?_) fun f _ => ⟨_, rfl, nofun⟩))
  have hfail : (value .managed == some "1") = false ∨
      (value .generation == some (toString g)) = false ∨
      (value .fullyRetired == some "1" && value .platformRetired == some "1") = false →
      ∀ v, (.ok value : Except Fault Fields) = .ok v → ¬ showsRetired g v := by
    rintro h v ⟨⟩ hv
    simp only [showsRetired, Bool.and_eq_true] at hv
    rcases h with h | h | h <;> simp_all
  refine (wp_bind _ _).mpr (wp_if (fun hm => ?_) fun hm => ⟨_, rfl, hfail (.inl ?_)⟩)
  · refine (wp_bind _ _).mpr (wp_if (fun hg => ?_) fun hg => ⟨_, rfl, hfail (.inr (.inl ?_))⟩)
    · refine wp_if (fun hr => ?_) fun hr => ⟨_, rfl, hfail (.inr (.inr ?_))⟩
      · refine ⟨value, ?_, rfl, rfl⟩
        rw [showsRetired, hm, hr]
        simpa using hg
      · simpa using hr
    · simpa using hg
  · simpa using hm

lemma wp_eject :
    wp A Free (eject K g).1
      (fun _ t => t.service = s.service ∧ ∃ es, t.log = s.log ++ es ∧ Ejected g es)
      (fun _ t => ∃ es, t.log = s.log ++ es ∧ EjectFailed g es) s := by
  refine (wp_bind _ _).mpr (wp_mono ?_ ?_ wp_runEjectStages)
  · rintro - t ⟨hserv, stages, hlog, hdone⟩
    -- All stages are done: the session must be retired and the disk gone.
    refine (wp_bind _ _).mpr (wp_mono ?_ ?_ wp_requireRetired)
    · rintro - u ⟨value, hv, hserv', hlog'⟩
      have hu : u.log = s.log ++ (stages ++ [.read .sessionState (.ok value)]) := by
        rw [hlog', hlog, List.append_assoc]
      have hdisk (r : Except Fault (Option String)) (k : κ) :
          (u.asked k (some (.disk r))).log =
            s.log ++ (stages ++ [.read .sessionState (.ok value), .disk r]) := by
        simp [World.asked, hu]
      refine (wp_bind _ _).mpr
        (wp_ask (fun disk _ => wp_if (fun hd => ?_) fun hd => ?_) fun f _ => ?_)
      · refine ⟨hserv'.trans hserv, _, hdisk _ _, stages, value, hdone, hv, ?_⟩
        rw [Option.isNone_iff_eq_none.mp hd]
      · refine ⟨_, hdisk _ _, .visible hdone hv ?_⟩
        rintro ⟨⟩
        exact hd rfl
      · exact ⟨_, hdisk _ _, .visible hdone hv nofun⟩
    · rintro f u ⟨r, hlog', hr⟩
      refine ⟨_, hlog'.trans (by rw [hlog, List.append_assoc]), ?_⟩
      cases r with
      | error f => exact .unread hdone
      | ok value => exact .unretired hdone (hr value rfl)
  · rintro f t ⟨es, hes, hfail⟩
    exact ⟨es, hes, .stage hfail⟩

end Eject

/-! ### The look at the connection leaves the service alone -/

def SameService (s : World κ) (_ : Label) (t : World κ) : Prop := t.service = s.service

instance {α : Type} (q : Ask α) : Allows (@SameService κ) q := ⟨fun _ _ _ => rfl⟩

instance (value : Fields) (f : Field) : Keeps SameService (number K value f) := by
  unfold number
  cases value f with
  | none => infer_instance
  | some t =>
    cases h : K.int t <;> simp only [h] <;> infer_instance

instance (g : Option ℤ) : Keeps SameService (session K g) := by
  unfold session
  infer_instance

instance (value : Fields) : Keeps SameService (detached K value) := by
  unfold detached
  infer_instance

instance (g : ℤ) : Keeps SameService (connection K g) := by
  unfold connection
  infer_instance

lemma service_of_along {t : World κ} {tr : List (Label × World κ)} (h : Along SameService s tr)
    (ht : final s tr = t) : t.service = s.service := by
  subst ht
  induction tr generalizing s with
  | nil => rfl
  | cons x tr ih => exact (ih h.2).trans h.1

lemma service_connection (g : ℤ) (s : World κ) :
    (final s ((connection K g).1 s).trace).service = s.service :=
  service_of_along ((inferInstance : Keeps SameService (connection K g)).within s) rfl

/-! ### The poll -/

section Poll

variable {Q : Unit → World κ → Prop} {E : Fault → World κ → Prop}

lemma wp_stepConnected_free
    (hm : (K.answer (.mounted s.service.disk) s.kernel).1 = .ok [])
    (hr : (K.answer (.released s.service.disk) (K.answer (.mounted s.service.disk) s.kernel).2).1 =
      .ok true)
    (heject : s.service.wasMounted →
      wp A Free (ejectTo K .safeToUnplug).1 Q E (lookedAt K s))
    (hnone : ¬ s.service.wasMounted → ∀ v, v.service = s.service → Q () v) :
    wp A Free (stepConnected K .connected).1 Q E s := by
  refine (wp_bind _ _).mpr (wp_if (fun _ => ?_) fun h => absurd rfl h)
  refine (wp_bind _ _).mpr (wp_self.mpr ((wp_bind _ _).mpr (wp_ask (fun points hpts => ?_) ?_)))
  · cases hm.symm.trans hpts
    refine wp_if (fun h => by cases h) fun _ => (wp_bind _ _).mpr (wp_self.mpr ?_)
    refine wp_if (fun hw => ?_) fun hw => hnone hw _ rfl
    refine (wp_bind _ _).mpr (wp_self.mpr ((wp_bind _ _).mpr (wp_ask (fun free hfree => ?_) ?_)))
    · cases hr.symm.trans hfree
      rw [lookedAt, hm, hr] at heject
      exact wp_if (fun _ => heject hw) fun h => absurd rfl h
    · intro f hf
      cases hr.symm.trans hf
  · intro f hf
    cases hm.symm.trans hf

lemma wp_pollOnce_releasing (n : ℕ) (hp : s.service.phase = .releasing)
    (ha : s.service.sleeping = false) (hf : ReportsFree K s)
    (heject : s.service.wasMounted →
      wp A Free (ejectTo K .safeToUnplug).1 Q E (looked K s))
    (hnone : ¬ s.service.wasMounted → ∀ v, v.service = s.service → Q () v) :
    wp A Free (pollOnce K n).1 Q E s := by
  refine (wp_bind _ _).mpr (wp_self.mpr (wp_if (fun h => ?_) fun _ => ?_))
  · rw [ha] at h
    cases h
  refine (wp_bind _ _).mpr (wp_self.mpr (wp_if (fun h => ?_) fun _ => ?_))
  · rw [hp] at h
    rcases h with h | h | h <;> cases h
  refine (wp_bind _ _).mpr (wp_self.mpr ((wp_bind _ _).mpr (wp_known hf.connected ?_)))
  have hs := service_connection (K := K) s.service.generation s
  obtain ⟨-, hm, hr⟩ := hf
  unfold looked at heject
  generalize final s ((connection K s.service.generation).1 s).trace = u at hs hm hr heject
  rw [← hs] at hp hm hr heject hnone
  -- with phase and status known only the poll of a connected drive is left
  refine (wp_bind _ _).mpr (wp_self.mpr (wp_if (fun h => by cases h.2) fun _ =>
    wp_if (fun h => by cases h.2) fun _ => wp_if (fun h => ?_) fun _ => wp_if (fun _ => ?_)
      fun h => absurd (Or.inr hp) h))
  · cases hp.symm.trans h
  · exact wp_stepConnected_free hm hr heject hnone

end Poll

lemma wp_publish_phase (p : Phase) (b : Bool) (s : World κ) :
    wp A Free (publish K p b).1
      (fun _ t => t.service = { s.service with phase := p } ∧ t.log = s.log)
      (fun _ t => t.service = { s.service with phase := p } ∧ t.log = s.log) s := by
  have hlog (k : κ) : (World.asked { s with service.phase := p } k none).log = s.log := by
    simp [World.asked]
  refine (wp_bind _ _).mpr (wp_self.mpr ((wp_bind _ _).mpr fun _ => ⟨trivial, ?_⟩))
  refine (wp_bind _ _).mpr (wp_self.mpr ((wp_bind _ _).mpr (wp_ask (fun _ _ => ?_) fun _ _ =>
    ⟨rfl, hlog _⟩)))
  refine wp_if (fun _ => wp_ask (fun _ _ => ?_) fun _ _ => ?_) fun _ => ⟨rfl, hlog _⟩ <;>
    exact ⟨rfl, by simp [World.asked, Ask.event]⟩

lemma wp_pollFault (f : Fault) (s : World κ) :
    wp A Free (if f.handled then (do fail K f; pure false) else throw f : ServiceProg κ Bool).1
      (fun _ t => t.service.phase = .failed ∧ t.log = s.log) (fun _ _ => True) s :=
  wp_if (fun _ => (wp_bind _ _).mpr
    (wp_mono (fun _ _ h => ⟨by rw [h.1], h.2⟩) (fun _ _ _ => trivial)
      ((wp_bind _ _).mpr fun _ => ⟨trivial, wp_publish_phase .failed true _⟩))) fun _ => trivial

lemma wp_ejectTo (s : World κ) :
    wp A Free (ejectTo K .safeToUnplug).1
      (fun _ t => t.service.phase = .safeToUnplug ∧
        ∃ es, t.log = s.log ++ es ∧ Resolved K s es .safeToUnplug)
      (fun _ t => ∃ es, t.log = s.log ++ es ∧ Resolved K s es .failed) s := by
  refine (wp_bind _ _).mpr (wp_mono ?_ ?_ (wp_run (wp_publish_phase .ejecting true s)))
  · rintro - t ⟨⟨hserv, hlog⟩, -⟩
    have hg : t.service.generation = s.service.generation := by rw [hserv]
    refine (wp_bind _ _).mpr (wp_self.mpr ((wp_bind _ _).mpr (wp_mono ?_ ?_ wp_eject)))
    · rintro - u ⟨-, es, hes, hdone⟩
      rw [hg] at hdone
      rw [hlog] at hes
      refine (wp_bind _ _).mpr fun _ =>
        ⟨trivial, wp_mono ?_ ?_ (wp_publish_phase .safeToUnplug true _)⟩
      · rintro - v ⟨hv, hvlog⟩
        exact ⟨by rw [hv], es, hvlog.trans hes, .ejected hdone⟩
      · rintro f v ⟨-, hvlog⟩
        exact ⟨es, hvlog.trans hes, .unpublished hdone⟩
    · rintro f u ⟨es, hes, hfail⟩
      exact ⟨es, by rw [hes, hlog], .failed (hg ▸ hfail)⟩
  · rintro f t ⟨⟨-, hlog⟩, hres, -⟩
    exact ⟨[], by rw [hlog, List.append_nil], .unbegun hres rfl⟩

lemma wp_step_mounted (n : ℕ) (hp : s.service.phase = .releasing)
    (ha : s.service.sleeping = false) (hf : ReportsFree K s) (hw : s.service.wasMounted) :
    wp Free Free (step K n).1
      (fun _ t => ∃ es, t.log = (looked K s).log ++ es ∧
        Resolved K (looked K s) es t.service.phase) (fun _ _ => True) s := by
  refine (wp_bind _ _).mpr (wp_self.mpr (wp_if (fun h => ?_) fun _ => ?_))
  · cases hp.symm.trans h
  refine (wp_tryCatch _ _).mpr ((wp_bind _ _).mpr (wp_pollOnce_releasing n hp ha hf
    (fun _ => wp_mono ?_ ?_ (wp_ejectTo _)) fun h => absurd hw h))
  · rintro - t ⟨hphase, es, hes, hr⟩
    exact ⟨es, hes, hphase ▸ hr⟩
  · rintro f t ⟨es, hes, hr⟩
    refine wp_mono ?_ (fun _ _ h => h) (wp_pollFault f t)
    rintro - u ⟨hphase, hlog⟩
    exact ⟨es, hlog.trans hes, hphase ▸ hr⟩

lemma wp_step_ejecting (n : ℕ) (hp : s.service.phase = .releasing)
    (ha : s.service.sleeping = false) (hf : ReportsFree K s) (hw : s.service.wasMounted) :
    wp (fun _ _ t => ¬ t.service.phase = .ejecting) Free (step K n).1 (fun _ _ => False)
      (fun _ _ => False) s := by
  refine (wp_bind _ _).mpr (wp_self.mpr (wp_if (fun h => ?_) fun _ => ?_))
  · cases hp.symm.trans h
  refine (wp_tryCatch _ _).mpr ((wp_bind _ _).mpr (wp_pollOnce_releasing n hp ha hf
    (fun _ => ?_) fun h => absurd hw h))
  exact (wp_bind _ _).mpr ((wp_bind _ _).mpr (wp_self.mpr ((wp_bind _ _).mpr
    fun h => absurd rfl h)))

lemma wp_step_unmounted (n : ℕ) (hp : s.service.phase = .releasing)
    (ha : s.service.sleeping = false) (hf : ReportsFree K s) (hw : ¬ s.service.wasMounted) :
    wp Free Free (step K n).1 (fun _ t => t.service = s.service) (fun _ _ => False) s := by
  refine (wp_bind _ _).mpr (wp_self.mpr (wp_if (fun h => ?_) fun _ => ?_))
  · cases hp.symm.trans h
  exact (wp_tryCatch _ _).mpr ((wp_bind _ _).mpr (wp_pollOnce_releasing n hp ha hf
    (fun h => absurd h hw) fun _ v hv => hv))

/-! ### The main result -/

/-- A poll in the phase `'releasing'`, with the drive connected, unmounted and held by nobody, runs
the eject stage by stage and ends with the drive safe to unplug or the service failed exactly if
the flag `was_mounted` is set. -/
theorem releasing_resolves_iff (K : Kernel κ) (n : ℕ) (s : World κ)
    (hp : s.service.phase = .releasing) (ha : s.service.sleeping = false) (hf : ReportsFree K s)
    (b : Bool) (hend : ((step K n).1 s).res = .ok b) :
    let tr := ((step K n).1 s).trace
    ((∃ x ∈ tr, x.2.service.phase = .ejecting) ∧
      ∃ es, (final s tr).log = (looked K s).log ++ es ∧
        Resolved K (looked K s) es (final s tr).service.phase) ↔ s.service.wasMounted := by
  intro tr
  constructor
  · rintro ⟨-, es, -, h⟩
    by_contra hw
    have ht := (Follow.along (wp_step_unmounted n hp ha hf hw) (along_true s _)).2
    rw [hend] at ht
    have hph : (final s tr).service.phase = .releasing := by rw [ht, hp]
    rw [hph] at h
    cases h
  · intro hw
    constructor
    · refine exists_of_not_along (s := s) (P := fun t => t.service.phase = .ejecting) fun hal => ?_
      have := (Follow.along (wp_step_ejecting n hp ha hf hw) hal).2
      rw [hend] at this
      exact this
    · have := (Follow.along (wp_step_mounted n hp ha hf hw) (along_true s _)).2
      rw [hend] at this
      exact this

/-- A drive is plugged in while the service waits, and mounted by nobody. When the laptop is to
sleep another namespace holds it for longer than the request waits, and then lets go of it. -/
def neverMounted : World Bench where
  kernel := { ticks := List.replicate 9 {} ++ [{ acts := [.plug] }] ++ List.replicate 10 {} ++
    [{ acts := [.turn { heldElsewhere := true }] }] ++ List.replicate 5 {} ++
    [{ now := 100 }, { acts := [.turn {}] }] }

/-- The service on it: it starts, prepares the router, connects the drive and refuses to sleep. -/
def neverMountedReleasing : World Bench :=
  final neverMounted (lives bench 3 [[.poll, .poll, .sleep .pre]] neverMounted).trace

/-- The phase is left at `'releasing'`, and the poll of the free drive does nothing. -/
theorem releasing_neverMounted_stays :
    neverMountedReleasing.service.phase = .releasing ∧
      neverMountedReleasing.service.sleeping = false ∧ ReportsFree bench neverMountedReleasing ∧
      (final neverMountedReleasing ((step bench 3).1 neverMountedReleasing).trace).service.phase =
        .releasing :=
  ⟨by decide +kernel, by decide +kernel,
    ⟨by decide +kernel, by decide +kernel, by decide +kernel⟩, by decide +kernel⟩

def onceMountedReleasing : World Bench :=
  { neverMountedReleasing with
    service := { neverMountedReleasing.service with wasMounted := true } }

theorem releasing_resolves_iff_onceMounted :
    let s := onceMountedReleasing
    let tr := ((step bench 3).1 s).trace
    (∃ x ∈ tr, x.2.service.phase = .ejecting) ∧
      ∃ es, (final s tr).log = (looked bench s).log ++ es ∧
        Resolved bench (looked bench s) es (final s tr).service.phase :=
  (releasing_resolves_iff bench 3 onceMountedReleasing (by decide +kernel) (by decide +kernel)
    ⟨by decide +kernel, by decide +kernel, by decide +kernel⟩ true (by decide +kernel)).2
    (by decide +kernel)

end YogaUsb4.Daemon
