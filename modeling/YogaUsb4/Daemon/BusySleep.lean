import YogaUsb4.Daemon.Questions

/-!
What a sleep that is refused as busy has done to the drive. The request unmounts one file system
after the other and gives up at the first that is in use, or when the disk stays held until its
time is over: what it did until then is not taken back.
-/

namespace YogaUsb4.Daemon

open Prog

variable {κ : Type}

/-! ### A kernel with a mount table -/

def Event.unmounts : Event → Bool
  | .unmount _ (.ok true) => true
  | .unmountDesktop _ (.ok true) => true
  | _ => false

/-- A hold check that found the disk in use by another namespace. -/
def Event.findsHeld : Event → Bool
  | .released _ (.ok false) => true
  | _ => false

/-- The mounts of the drive, as pairs of device and mount point: the two readers report what is
mounted, an unmount that goes through takes away the mounts of its device or at its point, and
nothing else changes a mount. -/
structure Kernel.Mounting (K : Kernel κ) (mounts : κ → List (String × String)) : Prop where
  mounted : ∀ {disk : Option String} {k : κ} {points : List String},
    (K.answer (.mounted disk) k).1 = .ok points → ∀ p ∈ points, ∃ d, (d, p) ∈ mounts k
  mountedDevices : ∀ {disk : Option String} {k : κ} {devices : List String},
    (K.answer (.mountedDevices disk) k).1 = .ok devices → ∀ d ∈ devices, ∃ p, (d, p) ∈ mounts k
  unmount : ∀ {d : String} {k : κ}, (K.answer (.unmount d) k).1 = .ok true →
    mounts (K.answer (.unmount d) k).2 = (mounts k).filter (·.1 ≠ d)
  unmountDesktop : ∀ {p : String} {k : κ}, (K.answer (.unmountDesktop p) k).1 = .ok true →
    mounts (K.answer (.unmountDesktop p) k).2 = (mounts k).filter (·.2 ≠ p)
  same : ∀ {α : Type} (q : Ask α) (k : κ),
    (∀ e ∈ q.event (K.answer q k).1, e.unmounts = false) → mounts (K.answer q k).2 = mounts k

variable {α : Type} {r : Except Fault α}

lemma Kernel.Mounting.same_of {K : Kernel κ} {mounts : κ → List (String × String)}
    (hK : K.Mounting mounts) {q : Ask α} {k : κ}
    (hr : (K.answer q k).1 = r) (he : ∀ e ∈ q.event r, e.unmounts = false) :
    mounts (K.answer q k).2 = mounts k :=
  hK.same q k (by rw [hr]; exact he)

/-- The body of a `'pre'` request, whose exceptions the request answers. -/
def preBody (K : Kernel κ) (n : ℕ) (desktop : Bool) : SleepProg κ (Bool × String) := do
  let refused ← refusedLately K desktop
  sleepPreUnless K n desktop refused

def RefusedBusy (K : Kernel κ) (n : ℕ) (desktop : Bool) (s : World κ) : Prop :=
  ∃ message, ((preBody K n desktop).1 s).res = .error (.busy message)

def since (s t : World κ) : List Event := t.log.drop s.log.length

/-! ### The trail of a request -/

/-- What the request has done on its way from `s`: no store; mounts lost exactly if an unmount
went through; and the phase is `'releasing'` once the disk was found held. -/
structure Trail (mounts : κ → List (String × String)) (s t : World κ) (es : List Event) : Prop where
  log : t.log = s.log ++ es
  stores : ∀ e ∈ es, e.isStore = false
  kept : (∀ e ∈ es, e.unmounts = false) → mounts t.kernel = mounts s.kernel
  lost : (∃ e ∈ es, e.unmounts) → ∃ m ∈ mounts s.kernel, m ∉ mounts t.kernel
  fewer : ∀ m ∈ mounts t.kernel, m ∈ mounts s.kernel
  phase : t.service.phase = if es.any Event.findsHeld then .releasing else s.service.phase

/-- The postcondition of a program that may end with `Busy`; other faults are not looked at. -/
def OnBusy (P : World κ → Prop) : Exn → World κ → Prop
  | .busy _, t => P t
  | .fault _, _ => True

section Trail

variable {K : Kernel κ} {mounts : κ → List (String × String)} {s t : World κ} {es : List Event}

lemma Trail.refl (s : World κ) : Trail mounts s s [] :=
  ⟨by simp, by simp, fun _ => rfl, by simp, fun _ h => h, by simp⟩

lemma Trail.neutral (h : Trail mounts s t es) {u : World κ} {e : Option Event}
    (hlog : u.log = t.log ++ e.toList) (hm : mounts u.kernel = mounts t.kernel)
    (hp : u.service.phase = t.service.phase)
    (he : ∀ x ∈ e, x.isStore = false ∧ x.unmounts = false ∧ x.findsHeld = false) :
    Trail mounts s u (es ++ e.toList) := by
  have he' : ∀ x ∈ e.toList, x.isStore = false ∧ x.unmounts = false ∧ x.findsHeld = false :=
    fun x hx => he x (Option.mem_toList.1 hx)
  refine ⟨by rw [hlog, h.log, List.append_assoc], ?_, ?_, ?_, ?_, ?_⟩
  · intro x hx
    rcases List.mem_append.1 hx with hx | hx
    · exact h.stores x hx
    · exact (he' x hx).1
  · intro hn
    rw [hm, h.kept fun x hx => hn x (List.mem_append_left _ hx)]
  · rintro ⟨x, hx, hu⟩
    rw [hm]
    rcases List.mem_append.1 hx with hx | hx
    · exact h.lost ⟨x, hx, hu⟩
    · rw [(he' x hx).2.1] at hu
      cases hu
  · rw [hm]
    exact h.fewer
  · have hf : e.toList.any Event.findsHeld = false := by
      rw [List.any_eq_false]
      intro x hx
      simp [(he' x hx).2.2]
    rw [hp, h.phase, List.any_append, hf, Bool.or_false]

lemma Trail.unmounted (h : Trail mounts s t es) {u : World κ} {e : Event}
    {p : String × String → Bool} (hlog : u.log = t.log ++ [e])
    (hm : mounts u.kernel = (mounts t.kernel).filter p)
    (hp : u.service.phase = t.service.phase) (he : e.isStore = false) (hu : e.unmounts)
    (hh : e.findsHeld = false)
    (hin : (∀ x ∈ es, x.unmounts = false) → ∃ m ∈ mounts t.kernel, p m = false) :
    Trail mounts s u (es ++ [e]) := by
  have hfew : ∀ m ∈ mounts u.kernel, m ∈ mounts t.kernel := fun m hm' => by
    rw [hm] at hm'
    exact (List.mem_filter.1 hm').1
  refine ⟨by rw [hlog, h.log, List.append_assoc], ?_, ?_, ?_,
    fun m hm' => h.fewer m (hfew m hm'), ?_⟩
  · intro x hx
    rcases List.mem_append.1 hx with hx | hx
    · exact h.stores x hx
    · rw [List.mem_singleton.1 hx]
      exact he
  · intro hn
    have := hn e (by simp)
    rw [hu] at this
    cases this
  · rintro -
    -- The first unmount takes a mount away; later ones only need that it stays away.
    by_cases hl : ∀ x ∈ es, x.unmounts = false
    · obtain ⟨m, hmt, hpm⟩ := hin hl
      refine ⟨m, h.fewer m hmt, fun hmu => ?_⟩
      rw [hm] at hmu
      have := (List.mem_filter.1 hmu).2
      rw [hpm] at this
      cases this
    · simp only [not_forall, Bool.not_eq_false] at hl
      obtain ⟨x, hx, hux⟩ := hl
      obtain ⟨m, hms, hmt⟩ := h.lost ⟨x, hx, hux⟩
      exact ⟨m, hms, fun hmu => hmt (hfew m hmu)⟩
  · rw [hp, h.phase, List.any_append]
    simp [hh]

lemma Trail.held (h : Trail mounts s t es) {u : World κ} {e : Event} (hlog : u.log = t.log ++ [e])
    (hm : mounts u.kernel = mounts t.kernel) (hp : u.service.phase = .releasing)
    (he : e.isStore = false) (hu : e.unmounts = false) (hh : e.findsHeld) :
    Trail mounts s u (es ++ [e]) := by
  refine ⟨by rw [hlog, h.log, List.append_assoc], ?_, ?_, ?_, ?_, ?_⟩
  · intro x hx
    rcases List.mem_append.1 hx with hx | hx
    · exact h.stores x hx
    · rw [List.mem_singleton.1 hx]
      exact he
  · intro hn
    rw [hm, h.kept fun x hx => hn x (List.mem_append_left _ hx)]
  · rintro ⟨x, hx, hux⟩
    rw [hm]
    rcases List.mem_append.1 hx with hx | hx
    · exact h.lost ⟨x, hx, hux⟩
    · rw [List.mem_singleton.1 hx, hu] at hux
      cases hux
  · rw [hm]
    exact h.fewer
  · rw [hp]
    simp [hh]

end Trail

/-! ### The steps of a request -/

section Steps

variable {K : Kernel κ} {mounts : κ → List (String × String)} {s t : World κ}

def Trails (mounts : κ → List (String × String)) (s t : World κ) : Prop :=
  ∃ es, Trail mounts s t es

lemma wp_askBusy {q : Ask α} {Q : α → World κ → Prop} {P : World κ → Prop}
    (hok : ∀ a, (K.answer q s.kernel).1 = .ok a →
      Q a (s.asked (K.answer q s.kernel).2 (q.event (.ok a)))) :
    wp Free Free (liftM (ask K q) : SleepProg κ α).1 Q (OnBusy P) s :=
  (wp_mapError Exn.fault _).mpr (wp_ask hok fun _ _ => trivial)

/-- The code that raises no `Busy` need not be looked at for what a `Busy` leaves. -/
lemma wp_liftBusy {m : ServiceProg κ α} {Q : α → World κ → Prop} {P : World κ → Prop}
    (h : wp Free Free m.1 Q (fun _ _ => True) s) :
    wp Free Free (liftM m : SleepProg κ α).1 Q (OnBusy P) s :=
  (wp_mapError Exn.fault _).mpr h

lemma Trails.ask (hK : K.Mounting mounts) (h : Trails mounts s t) {q : Ask α}
    (ha : (K.answer q t.kernel).1 = r)
    (he : ∀ x ∈ q.event r, x.isStore = false ∧ x.unmounts = false ∧ x.findsHeld = false) :
    Trails mounts s (t.asked (K.answer q t.kernel).2 (q.event r)) := by
  obtain ⟨es, h⟩ := h
  exact ⟨_, h.neutral rfl (hK.same_of ha fun e hx => (he e hx).2.1) rfl he⟩

lemma wp_publish (hK : K.Mounting mounts) (p : Phase) (s : World κ) :
    wp Free Free (publish K p false).1
      (fun _ t => t.service.phase = p ∧ t.log = s.log ∧ mounts t.kernel = mounts s.kernel)
      (fun _ _ => True) s := by
  refine (wp_bind _ _).mpr (wp_self.mpr ((wp_bind _ _).mpr fun _ => ⟨trivial, ?_⟩))
  refine (wp_bind _ _).mpr (wp_self.mpr ((wp_bind _ _).mpr (wp_ask (fun _ _ => ?_)
    fun _ _ => trivial)))
  have hm := hK.same (.publish ⟨p, s.service.generation, s.service.disk, s.service.error⟩) s.kernel
    (by simp)
  rw [if_neg (by simp)]
  exact ⟨rfl, List.append_nil _, hm⟩

lemma wp_unmountAll (hK : K.Mounting mounts) (ds : List String) {es : List Event}
    (h : Trail mounts s t es)
    (hd : (∀ x ∈ es, x.unmounts = false) → ∀ d ∈ ds, ∃ p, (d, p) ∈ mounts t.kernel) :
    wp Free Free (unmountAll K ds).1 (fun _ => Trails mounts s) (OnBusy (Trails mounts s)) t := by
  induction ds generalizing t es with
  | nil => exact ⟨es, h⟩
  | cons d ds ih =>
    unfold unmountAll
    refine (wp_bind _ _).mpr (wp_askBusy fun b hb => ?_)
    cases b with
    | true =>
      -- From the first success on the premise about the devices is void.
      have h' := h.unmounted (u := t.asked (K.answer (.unmount d) t.kernel).2
        (some (.unmount d (.ok true)))) (e := .unmount d (.ok true)) rfl (hK.unmount hb) rfl rfl rfl
        rfl fun hn => by
          obtain ⟨p, hp⟩ := hd hn d (by simp)
          exact ⟨(d, p), hp, by simp⟩
      exact ih h' fun hn => by
        have := hn (.unmount d (.ok true)) (by simp)
        cases this
    | false => exact Trails.ask hK ⟨es, h⟩ hb (by simp [Event.unmounts, Event.findsHeld])

lemma wp_unmountDesktopAll (hK : K.Mounting mounts) (ps : List String) {es : List Event}
    (h : Trail mounts s t es)
    (hd : (∀ x ∈ es, x.unmounts = false) → ∀ p ∈ ps, ∃ d, (d, p) ∈ mounts t.kernel) :
    wp Free Free (unmountDesktopAll K ps).1 (fun _ => Trails mounts s) (fun _ _ => True) t := by
  induction ps generalizing t es with
  | nil => exact ⟨es, h⟩
  | cons p ps ih =>
    unfold unmountDesktopAll
    refine (wp_bind _ _).mpr (wp_ask (fun b hb => ?_) fun _ _ => trivial)
    cases b with
    | true =>
      have h' := h.unmounted (u := t.asked (K.answer (.unmountDesktop p) t.kernel).2
        (some (.unmountDesktop p (.ok true)))) (e := .unmountDesktop p (.ok true)) rfl
        (hK.unmountDesktop hb) rfl rfl rfl rfl fun hn => by
          obtain ⟨d, hp⟩ := hd hn p (by simp)
          exact ⟨(d, p), hp, by simp⟩
      exact ih h' fun hn => by
        have := hn (.unmountDesktop p (.ok true)) (by simp)
        cases this
    | false =>
      have hm := hK.same_of hb (by simp [Event.unmounts])
      refine ih (h.neutral (e := some (.unmountDesktop p (.ok false))) rfl hm rfl
        (by simp [Event.unmounts, Event.findsHeld])) fun hn q hq => ?_
      obtain ⟨d, hd'⟩ := hd (fun x hx => hn x (by simp [hx])) q (by simp [hq])
      exact ⟨d, by rw [World.asked, hm]; exact hd'⟩

lemma wp_settleForSleep (hK : K.Mounting mounts) (deadline : ℚ) (n settled : ℕ)
    (h : Trails mounts s t) :
    wp Free Free (settleForSleep K deadline n settled).1 (fun _ _ => True)
      (OnBusy (Trails mounts s)) t := by
  induction n generalizing settled t with
  | zero => trivial
  | succ n ih =>
    -- Every round that does not end the loop ends with half a second of sleep.
    have rest : ∀ (k : ℕ) {u : World κ}, Trails mounts s u →
        wp Free Free (do
          ask K (.sleep (1 / 2))
          settleForSleep K deadline n k : SleepProg κ Unit).1 (fun _ _ => True)
          (OnBusy (Trails mounts s)) u := fun k u hu =>
      (wp_bind _ _).mpr (wp_askBusy fun _ ha => ih k (hu.ask hK ha (by simp)))
    unfold settleForSleep
    refine wp_if (fun _ => trivial) fun _ => (wp_bind _ _).mpr (wp_askBusy fun now hnow => ?_)
    have hc := h.ask hK hnow (by simp [Event.unmounts, Event.findsHeld])
    refine wp_if (fun _ => hc) fun _ => ?_
    refine (wp_bind _ _).mpr (wp_self.mpr ((wp_bind _ _).mpr (wp_askBusy fun devices hdev => ?_)))
    have hm := hc.ask hK hdev (by simp [Event.unmounts, Event.findsHeld])
    -- Still mounted: unmount and begin again; otherwise ask who holds the disk.
    refine wp_if (fun _ => ?_) fun _ => ?_
    · obtain ⟨es, he⟩ := hm
      refine (wp_bind _ _).mpr (wp_mono (fun _ u hu => ?_) (fun _ _ h => h)
        (wp_unmountAll hK devices he fun _ x hx => ?_))
      · refine (wp_bind _ _).mpr fun _ => ⟨trivial, rest 0 ?_⟩
        obtain ⟨es', he'⟩ := hu
        exact ⟨_, he'.neutral (e := none) (List.append_nil _).symm rfl rfl (by simp)⟩
      · obtain ⟨p, hp⟩ := hK.mountedDevices hdev x hx
        exact ⟨p, by rw [World.asked, hK.same_of hdev (by simp [Event.unmounts])]; exact hp⟩
    · refine (wp_bind _ _).mpr (wp_self.mpr ((wp_bind _ _).mpr (wp_askBusy fun free hfree => ?_)))
      cases free with
      | true =>
        exact rest (settled + 1) (hm.ask hK hfree (by simp [Event.unmounts, Event.findsHeld]))
      | false =>
        refine (wp_bind _ _).mpr (wp_liftBusy (wp_mono (fun _ u hu => rest 0 ?_) (fun _ _ h => h)
          (wp_publish hK .releasing _)))
        obtain ⟨es, he⟩ := hm
        obtain ⟨hp, hl, hmu⟩ := hu
        have hs := hmu.trans (hK.same_of hfree (by simp [Event.unmounts]))
        exact ⟨_, he.held hl hs hp rfl rfl rfl⟩

/-- A connected drive is let go of before it is ejected, and the eject raises no `Busy`. -/
lemma wp_releaseForSleep (hK : K.Mounting mounts) (n : ℕ) (deadline : ℚ) (desktop : Bool)
    (h : Trails mounts s t) :
    wp Free Free (releaseForSleep K n deadline desktop).1 (fun _ _ => True)
      (OnBusy (Trails mounts s)) t := by
  have settle : ∀ u, Trails mounts s u → wp Free Free (do
        settleForSleep K deadline n 0
        ejectTo K .ejectedForSleep : SleepProg κ Unit).1 (fun _ _ => True)
      (OnBusy (Trails mounts s)) u := fun u hu =>
    (wp_bind _ _).mpr (wp_mono (fun _ _ _ => wp_liftBusy (wp_true _ _)) (fun _ _ h => h)
      (wp_settleForSleep hK deadline n 0 hu))
  unfold releaseForSleep
  cases desktop with
  | false => exact settle t h
  | true =>
    refine (wp_bind _ _).mpr (wp_self.mpr ((wp_bind _ _).mpr (wp_askBusy fun points hpts => ?_)))
    obtain ⟨es, he⟩ := h.ask hK hpts (by simp [Event.unmounts, Event.findsHeld])
    refine (wp_bind _ _).mpr (wp_liftBusy (wp_mono (fun _ u hu => settle u hu) (fun _ _ h => h)
      (wp_unmountDesktopAll hK points he fun _ p hp => ?_)))
    obtain ⟨d, hd⟩ := hK.mounted hpts p hp
    exact ⟨d, by rw [World.asked, hK.same_of hpts (by simp [Event.unmounts])]; exact hd⟩

/-- What a refusal may have done, by the phase in which the request began. -/
def Refusal (mounts : κ → List (String × String)) (s t : World κ) : Prop :=
  (s.service.phase = .connected ∨ s.service.phase = .releasing) ∧ Trails mounts s t ∨
    (s.service.phase = .waiting ∨ s.service.phase = .replugRequired) ∧
      Happened (fun e => e.isStore) s t

lemma wp_powerDown (n : ℕ) (deadline : ℚ) (t : World κ) :
    wp Free Free (powerDown K n deadline).1 (fun _ => Happened (fun e => e.isStore) t)
      (fun _ => Happened (fun e => e.isStore) t) t := by
  have hsend : wp Free Free (sendIdleRetire K).1 (fun _ => Happened (fun e => e.isStore) t)
      (fun _ => Happened (fun e => e.isStore) t) t :=
    (wp_tryCatch _ _).mpr (wp_mono (fun _ _ h => h) (fun f u h => wp_happened h _)
      ((wp_bind _ _).mpr (wp_mono (fun _ u h => h) (fun _ _ h => h)
        (wp_ask_happened fun r => ⟨_, rfl, rfl⟩))))
  have hretire : wp Free Free (idleRetire K t.service.generation).1
      (fun _ => Happened (fun e => e.isStore) t) (fun _ => Happened (fun e => e.isStore) t) t :=
    (wp_bind _ _).mpr (wp_mono (fun _ u h => wp_happened h _) (fun _ _ h => h) hsend)
  exact (wp_bind _ _).mpr (wp_self.mpr ((wp_bind _ _).mpr
    (wp_mono (fun _ u h => wp_happened h _) (fun _ _ h => h) hretire)))

lemma Happened.of_trails {p : Event → Prop} (h : Trails mounts s t) {u : World κ}
    (hu : Happened p t u) : Happened p s u := by
  obtain ⟨es, h⟩ := h
  obtain ⟨es', hes, e, he, hp⟩ := hu
  exact ⟨es ++ es', by rw [hes, h.log, List.append_assoc], e, List.mem_append_right _ he, hp⟩

lemma wp_pauseForSleep (hK : K.Mounting mounts) (deadline : ℚ) (h : Trails mounts s t) :
    wp Free Free (pauseForSleep K deadline).1
      (fun _ u => Trails mounts s u ∧ u.service.phase = t.service.phase) (fun _ _ => True) t := by
  refine (wp_bind _ _).mpr (wp_ask (fun now hnow => ?_) fun _ _ => trivial)
  have hc := h.ask hK hnow (by simp [Event.unmounts, Event.findsHeld])
  refine (wp_bind _ _).mpr (wp_if (fun _ => ?_) fun _ => trivial)
  exact wp_ask (fun _ ha => ⟨hc.ask hK ha (by simp), rfl⟩) fun _ _ => trivial

/-- The loop of `sleep_pre`: only a drive in the phases `'connected'` and `'releasing'` is let go
of, and on the way there from an idle router something is stored. -/
lemma wp_quietForSleep (hK : K.Mounting mounts) (n : ℕ) (deadline : ℚ) (desktop : Bool) (m : ℕ)
    (h : Trails mounts s t) (hp : t.service.phase = s.service.phase) :
    wp Free Free (quietForSleep K n deadline desktop m).1 (fun _ _ => True)
      (OnBusy (Refusal mounts s)) t := by
  induction m generalizing t with
  | zero => trivial
  | succ m ih =>
    unfold quietForSleep
    refine (wp_bind _ _).mpr (wp_self.mpr (wp_if (fun _ => trivial) fun _ => ?_))
    refine (wp_bind _ _).mpr (wp_liftBusy (wp_if (fun _ => ?_) fun _ => trivial))
    -- Without a drive something is stored; a drive is let go of; else there is only a pause.
    refine wp_if (fun hw => ?_) fun _ => wp_if (fun hc => ?_) fun _ => ?_
    · refine (wp_bind _ _).mpr (wp_liftBusy (wp_mono (fun b u hu => ?_) (fun _ _ _ => trivial)
        (wp_powerDown n deadline t)))
      have hu' : Happened (fun e => e.isStore) s u := Happened.of_trails h hu
      exact wp_mono (fun _ _ _ => trivial) (fun e v hv => by
        cases e with
        | busy _ => exact Or.inr ⟨hp ▸ hw, hv⟩
        | fault _ => trivial) (wp_happened hu' _)
    · refine wp_mono (fun _ _ h => h) (fun e v hv => ?_)
        (wp_releaseForSleep hK n deadline desktop h)
      cases e with
      | busy _ => exact Or.inl ⟨hp ▸ hc, hv⟩
      | fault _ => trivial
    · exact (wp_bind _ _).mpr (wp_liftBusy (wp_mono (fun _ u hu => ih hu.1 (hu.2.trans hp))
        (fun _ _ h => h) (wp_pauseForSleep hK deadline h)))

lemma wp_sleepPre (hK : K.Mounting mounts) (n : ℕ) (desktop : Bool) (h : Trails mounts s t)
    (hp : t.service.phase = s.service.phase) :
    wp Free Free (sleepPre K n desktop).1 (fun _ _ => True) (OnBusy (Refusal mounts s)) t := by
  refine (wp_bind _ _).mpr (wp_askBusy fun now hnow => ?_)
  have hc := h.ask hK hnow (by simp [Event.unmounts, Event.findsHeld])
  refine (wp_bind _ _).mpr (wp_mono (fun _ u _ => ?_) (fun _ _ h => h)
    (wp_quietForSleep hK n (now + sleepBudget) desktop n hc hp))
  exact (wp_bind _ _).mpr fun _ => ⟨trivial, (wp_bind _ _).mpr
    (wp_askBusy fun _ _ _ => ⟨trivial, trivial⟩)⟩

lemma wp_refusedLately (hK : K.Mounting mounts) (desktop : Bool) (s : World κ) :
    wp Free Free (refusedLately K desktop).1
      (fun _ u => Trails mounts s u ∧ u.service.phase = s.service.phase) (fun _ _ => True) s := by
  refine (wp_bind _ _).mpr (wp_self.mpr (wp_if (fun _ => ⟨⟨[], .refl s⟩, rfl⟩) fun _ => ?_))
  cases s.service.refusal with
  | none => exact ⟨⟨[], .refl s⟩, rfl⟩
  | some r =>
    refine (wp_bind _ _).mpr (wp_ask (fun now hnow => ?_) fun _ _ => trivial)
    exact ⟨Trails.ask hK ⟨[], .refl s⟩ hnow (by simp [Event.unmounts, Event.findsHeld]), rfl⟩

lemma wp_preBody (hK : K.Mounting mounts) (n : ℕ) (desktop : Bool) (s : World κ) :
    wp Free Free (preBody K n desktop).1 (fun _ _ => True) (OnBusy (Refusal mounts s)) s := by
  refine (wp_bind _ _).mpr (wp_liftBusy (wp_mono (fun r u hu => ?_) (fun _ _ _ => trivial)
    (wp_refusedLately hK desktop s)))
  cases r with
  | some message => trivial
  | none =>
    exact (wp_bind _ _).mpr (wp_mono (fun _ v _ => trivial) (fun _ _ h => h)
      (wp_sleepPre hK n desktop hu.1 hu.2))

lemma Refusal.ask (hK : K.Mounting mounts) (h : Refusal mounts s t) {q : Ask α}
    (ha : (K.answer q t.kernel).1 = r)
    (he : ∀ x ∈ q.event r, x.isStore = false ∧ x.unmounts = false ∧ x.findsHeld = false) :
    Refusal mounts s (t.asked (K.answer q t.kernel).2 (q.event r)) := by
  rcases h with ⟨hp, h⟩ | ⟨hp, es, hes, e, hmem, hs⟩
  · exact Or.inl ⟨hp, h.ask hK ha he⟩
  · exact Or.inr ⟨hp, es ++ (q.event r).toList, by rw [World.asked, hes, List.append_assoc], e,
      List.mem_append_left _ hmem, hs⟩

lemma wp_refuse (hK : K.Mounting mounts) (desktop : Bool) (message : String)
    (h : Refusal mounts s t) :
    wp Free Free (refuse K desktop message).1 (fun _ => Refusal mounts s)
      (fun _ => Refusal mounts s) t := by
  have tell : ∀ u, Refusal mounts s u → wp Free Free (do
        ask K (.notifyText message)
        pure (false, message) : ServiceProg κ (Bool × String)).1 (fun _ => Refusal mounts s)
      (fun _ => Refusal mounts s) u := fun u hu =>
    (wp_bind _ _).mpr (wp_ask (fun _ ha => hu.ask hK ha (by simp))
      fun _ ha => hu.ask hK ha (by simp))
  refine (wp_bind _ _).mpr (wp_if (fun _ => ?_) fun _ => tell t h)
  refine (wp_bind _ _).mpr (wp_ask (fun now hnow => ?_) fun f hf => ?_)
  · have hc := h.ask hK hnow (by simp [Event.unmounts, Event.findsHeld])
    refine fun _ => ⟨trivial, tell _ ?_⟩
    rcases hc with ⟨hp, es, ht⟩ | hc
    · exact Or.inl ⟨hp, _, ht.neutral (e := none) (List.append_nil _).symm rfl rfl (by simp)⟩
    · exact Or.inr hc
  · exact h.ask hK hf (by simp [Event.unmounts, Event.findsHeld])

lemma refusal_of_refusedBusy (hK : K.Mounting mounts) {n : ℕ} {desktop : Bool}
    (h : RefusedBusy K n desktop s) :
    Refusal mounts s (final s ((sleepRequest K n .pre desktop).1 s).trace) := by
  obtain ⟨message, hm⟩ := h
  have hu := (Follow.along (wp_preBody hK n desktop s) (along_true s _)).2
  rw [hm] at hu
  have e : (sleepRequest K n .pre desktop).1 s = _ :=
    tryCatch_error hm fun e => (answerExn K desktop e).1
  rw [e, final_append]
  exact final_of_wp ((wp_mapError Exn.fault _).mpr (wp_refuse hK desktop message hu))

end Steps

/-! ### The main result -/

/-- Since `s` nothing was stored, no mount of the drive was lost, and the phase is the same. -/
def WithoutEffect (mounts : κ → List (String × String)) (s t : World κ) : Prop :=
  (∀ e ∈ since s t, e.isStore = false) ∧ (∀ m ∈ mounts s.kernel, m ∈ mounts t.kernel) ∧
    t.service.phase = s.service.phase

/-- A sleep request that is refused with `Busy` has had no effect exactly if it began with a drive
connected or releasing, every unmount that it tried failed, and, unless the phase was `'releasing'`
already, no hold check found the disk in use elsewhere. -/
theorem busy_without_effect_iff (K : Kernel κ) (mounts : κ → List (String × String))
    (hK : K.Mounting mounts) (n : ℕ) (desktop : Bool) (s : World κ)
    (h : RefusedBusy K n desktop s) :
    let t := final s ((sleepRequest K n .pre desktop).1 s).trace
    WithoutEffect mounts s t ↔
      (s.service.phase = .connected ∨ s.service.phase = .releasing) ∧
      (∀ e ∈ since s t, e.unmounts = false) ∧
      (s.service.phase = .connected → ∀ e ∈ since s t, e.findsHeld = false) := by
  intro t
  have hr : Refusal mounts s t := refusal_of_refusedBusy hK h
  rcases hr with ⟨hp, es, ht⟩ | ⟨hp, es, hes, e, he, hs⟩
  · have hsince : since s t = es := by rw [since, ht.log, List.drop_left]
    rw [WithoutEffect, hsince, ht.phase]
    constructor
    · rintro ⟨-, hm, hph⟩
      refine ⟨hp, fun e he => ?_, fun hc e he => ?_⟩
      · by_contra hu
        obtain ⟨m, hms, hmt⟩ := ht.lost ⟨e, he, by simpa using hu⟩
        exact hmt (hm m hms)
      · by_contra hf
        rw [if_pos (List.any_eq_true.2 ⟨e, he, by simpa using hf⟩), hc] at hph
        cases hph
    · rintro ⟨-, hu, hf⟩
      refine ⟨ht.stores, fun m hm => ?_, ?_⟩
      · rw [ht.kept hu]
        exact hm
      · by_cases hany : es.any Event.findsHeld
        · rw [if_pos hany]
          rcases hp with hp | hp
          · obtain ⟨e, he, hfe⟩ := List.any_eq_true.1 hany
            rw [hf hp e he] at hfe
            cases hfe
          · exact hp.symm
        · rw [if_neg hany]
  · have hsince : since s t = es := by rw [since, hes, List.drop_left]
    -- Refused on the way down: the power-down has stored, and the phase is none of a drive.
    refine iff_of_false (fun hw => ?_) fun hc => ?_
    · have := hw.1 e (hsince ▸ he)
      rw [hs] at this
      cases this
    · rcases hp with hp | hp <;> rcases hc.1 with hc | hc <;> rw [hp] at hc <;> cases hc

/-- A drive with some mounts, and the devices on which a file is open. -/
structure Desk where
  mounts : List (String × String)
  inUse : List String

/-- A kernel that knows its mounts and the time, and refuses to unmount what is in use. -/
def desk : Kernel Desk where
  answer q k :=
    match q with
    | .mounted _ => (.ok (k.mounts.map (·.2)), k)
    | .mountedDevices _ => (.ok (k.mounts.map (·.1)), k)
    | .unmount d =>
      if d ∈ k.inUse then (.ok false, k)
      else (.ok true, { k with mounts := k.mounts.filter (·.1 ≠ d) })
    | .unmountDesktop _ => (.ok false, k)
    | .clock => (.ok 0, k)
    | .publish _ | .notify _ | .notifyText _ | .sleep _ => (.ok (), k)
    | _ => (.error .crash, k)
  int _ := none
  isdecimal _ := false
  stop_checks q k f h hf := by
    cases q with
    | unmount d => dsimp only at h; split at h <;> cases h
    | _ => cases h <;> cases hf

lemma desk_mounting : desk.Mounting Desk.mounts where
  mounted {disk k points} h p hp := by
    cases h
    obtain ⟨m, hm, rfl⟩ := List.mem_map.1 hp
    exact ⟨m.1, hm⟩
  mountedDevices {disk k devices} h d hd := by
    cases h
    obtain ⟨m, hm, rfl⟩ := List.mem_map.1 hd
    exact ⟨m.2, hm⟩
  unmount {d k} h := by
    simp only [desk] at h ⊢
    split_ifs at h ⊢ with hd
    · cases h
    · rfl
  unmountDesktop {p k} h := by cases h
  same q k h := by
    cases q with
    | unmount d =>
      simp only [desk] at h ⊢
      split_ifs at h ⊢ with hd
      · rfl
      · exact absurd (h _ rfl) (by simp [Event.unmounts])
    | _ => rfl

/-- A connected drive with two file systems, of which the second is in use. -/
def twoPartitions : World Desk where
  service := { phase := .connected, generation := 1, disk := some "nvme1n1", wasMounted := true }
  kernel := ⟨[("nvme1n1p1", "/run/media/a"), ("nvme1n1p2", "/run/media/b")], ["nvme1n1p2"]⟩

def allInUse : World Desk :=
  { twoPartitions with
    kernel := ⟨[("nvme1n1p1", "/run/media/a"), ("nvme1n1p2", "/run/media/b")],
      ["nvme1n1p1", "nvme1n1p2"]⟩ }

theorem busy_without_effect_iff_allInUse :
    WithoutEffect Desk.mounts allInUse
      (final allInUse ((sleepRequest desk 3 .pre false).1 allInUse).trace) :=
  (busy_without_effect_iff desk Desk.mounts desk_mounting 3 false allInUse
    ⟨busyForSleep, by decide +kernel⟩).2 ⟨Or.inl rfl, by decide +kernel, fun _ => by decide +kernel⟩

/-- The first file system is unmounted before the second is found in use. -/
theorem busy_twoPartitions_unmounted :
    RefusedBusy desk 3 false twoPartitions ∧
      ¬ WithoutEffect Desk.mounts twoPartitions
        (final twoPartitions ((sleepRequest desk 3 .pre false).1 twoPartitions).trace) := by
  refine ⟨⟨busyForSleep, by decide +kernel⟩, fun h => ?_⟩
  exact absurd (h.2.1 ("nvme1n1p1", "/run/media/a") (by decide)) (by decide +kernel)

end YogaUsb4.Daemon
