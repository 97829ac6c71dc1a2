import YogaUsb4.Daemon.Rules
import YogaUsb4.Daemon.Fake

/-!
Between a successful `'pre'` and the resume the service stores nothing, whatever the kernel
reports. Only the poll looks at the flag for it; the other operations are kept out by the phase.
-/

set_option synthInstance.maxSize 1000

namespace YogaUsb4.Daemon

open HostState Prog
open scoped AnyKernel

variable {κ : Type} {K : Kernel κ}

attribute [local simp] World.asked

def lastReading (log : List Event) : Option ℚ :=
  log.reverse.findSome? fun
    | .clock (.ok now) => some now
    | _ => none

@[simp] lemma lastReading_clock (log : List Event) (now : ℚ) :
    lastReading (log ++ [.clock (.ok now)]) = some now := by
  simp [lastReading]

/-- The service sleeps since then: it has powered the router down, or failed since. -/
def Dormant (since : Option ℚ) (s : World κ) : Prop :=
  s.service.sleeping ∧ since = some s.service.sleepStarted ∧
    (s.service.phase.isQuiet ∨ s.service.phase = .failed)

/-! ### What a successful `'pre'` leaves behind -/

instance (g : ℤ) : Vc Free Free (idleRetire K g) := .havoc _
instance (g : ℤ) : Vc Free Free (connection K g) := .havoc _
instance (n : ℕ) : Vc Free Free (connect K n) := .havoc _
instance (deadline : ℚ) : Vc Free Free (pauseForSleep K deadline) := .havoc _
instance (deadline : ℚ) (n k : ℕ) : Vc Free Free (settleForSleep K deadline n k) := .havoc _
instance (ps : List String) : Vc Free Free (unmountDesktopAll K ps) := .havoc _
instance (g : ℤ) : Vc Free Free (eject K g) := .havoc _

instance (p : Phase) (b : Bool) : Vc Free Free (publish K p b) :=
  .ofSpec _ (fun _ => True) (fun _ _ t => t.service.phase = p) (fun _ _ _ => True) fun s _ => by
    unfold publish
    refine Vc.sound ?_
    simp

instance (p : Phase) : Vc Free Free (ejectTo K p) :=
  .ofSpec _ (fun _ => True) (fun _ _ t => t.service.phase = p) (fun _ _ _ => True) fun s _ => by
    unfold ejectTo
    refine Vc.sound ?_
    simp

instance (n : ℕ) (deadline : ℚ) : Vc Free Free (powerDown K n deadline) :=
  .ofSpec _ (fun _ => True) (fun _ b t => b → t.service.phase = .asleep) (fun _ _ _ => True)
    fun s _ => by
      unfold powerDown
      refine Vc.sound ?_
      simp

instance (n : ℕ) (deadline : ℚ) (desktop : Bool) :
    Vc Free Free (releaseForSleep K n deadline desktop) :=
  .ofSpec _ (fun _ => True) (fun _ _ t => t.service.phase = .ejectedForSleep)
    (fun _ _ _ => True) fun s _ => by
    unfold releaseForSleep
    refine Vc.sound ?_
    simp

/-- The loop of `sleep_pre` is left in a quiet phase only. -/
instance (n : ℕ) (deadline : ℚ) (desktop : Bool) (m : ℕ) :
    Vc Free Free (quietForSleep K n deadline desktop m) :=
  .ofSpec _ (fun _ => True) (fun _ _ t => t.service.phase.isQuiet) (fun _ _ _ => True)
    fun s _ => by
      induction m generalizing s with
      | zero => trivial
      | succ m ih =>
        let : Vc Free Free (quietForSleep K n deadline desktop m) :=
          .ofSpec _ (fun _ => True) (fun _ _ t => t.service.phase.isQuiet) (fun _ _ _ => True)
            fun s _ => ih s
        have ha : Phase.asleep.isQuiet := rfl
        have he : Phase.ejectedForSleep.isQuiet := rfl
        unfold quietForSleep
        refine Vc.sound ?_
        simp +contextual [this, ha, he]

instance (n : ℕ) (desktop : Bool) : Vc Free Free (sleepPre K n desktop) :=
  .ofSpec _ (fun _ => True) (fun _ _ t => t.service.sleeping ∧ t.service.phase.isQuiet ∧
      lastReading t.log = some t.service.sleepStarted) (fun _ _ _ => True) fun s _ => by
    unfold sleepPre
    refine Vc.sound ?_
    simp +contextual

instance (desktop : Bool) : Vc Free Free (refusedLately K desktop) := .havoc _

instance (desktop : Bool) (message : String) : Vc Free Free (refuse K desktop message) :=
  .ofSpec _ (fun _ => True) (fun _ r _ => r.1 = false) (fun _ _ _ => True) fun s _ => by
    unfold refuse keepRefusal
    refine Vc.sound ?_
    simp

instance (f : Fault) : Vc Free Free (failAnswer K f) :=
  .ofSpec _ (fun _ => True) (fun _ r _ => r.1 = false) (fun _ _ _ => True) fun s _ => by
    unfold failAnswer fail
    refine Vc.sound ?_
    simp

instance (n : ℕ) (desktop : Bool) (x : Option String) :
    Vc Free Free (sleepPreUnless K n desktop x) :=
  .ofSpec _ (fun _ => True)
    (fun _ r t => r.1 → t.service.sleeping ∧ t.service.phase.isQuiet ∧
      lastReading t.log = some t.service.sleepStarted) (fun _ _ _ => True)
    fun s _ => by
      cases x <;> unfold sleepPreUnless sleepOk <;> refine Vc.sound ?_ <;> simp

lemma answerExn_refuses (desktop : Bool) (e : Exn) (s : World κ) :
    wp Free Free (answerExn K desktop e).1 (fun r _ => r.1 = false) (fun _ _ => True) s := by
  refine Vc.sound ?_
  cases e <;> simp

/-- A `'pre'` request that went through leaves the service dormant since its last look at the
clock. -/
lemma pre_dormant (n : ℕ) (desktop : Bool) (s : World κ) :
    wp Free Free (sleepRequest K n .pre desktop).1
      (fun r t => r.1 → Dormant (lastReading t.log) t) (fun _ _ => True) s := by
  refine (wp_tryCatch _ _).mpr ?_
  refine wp_mono
    (Q := fun r t => r.1 → t.service.sleeping ∧ t.service.phase.isQuiet ∧
      lastReading t.log = some t.service.sleepStarted)
    (E := fun _ _ => True) (fun r t h hr => ⟨(h hr).1, (h hr).2.2, .inl (h hr).2.1⟩)
    (fun e t _ => ?_) (Vc.sound ?_)
  · exact wp_mono (fun r t h hr => by rw [h] at hr; cases hr) (fun _ _ h => h)
      (answerExn_refuses desktop e t)
  · simp

/-! ### The time until the resume -/

variable {since : Option ℚ}

/-- A look at the clock finds that the grace since then has not passed. -/
def WithinGrace (since : Option ℚ) (_ : World κ) (l : Label) (_ : World κ) : Prop :=
  ∀ now, l = .asked (some (.clock (.ok now))) → ∀ x, since = some x → now - x < sleepGrace

def StoresNothing (_ : World κ) (l : Label) (_ : World κ) : Prop :=
  ∀ e, l = .asked (some e) → e.isStore = false

def Op.resumes : Op → Bool
  | .sleep .post => true
  | .announce values => values.contains false
  | _ => false

attribute [local simp] WithinGrace StoresNothing

local instance (n : ℕ) : Vc (WithinGrace since) StoresNothing (stepAwake K n) := .unreached _

instance (n : ℕ) : Vc (WithinGrace since) StoresNothing (step K n) :=
  .ofSpec _ (Dormant since) (fun _ _ t => Dormant since t) (fun _ _ _ => True) fun s hs => by
    obtain ⟨h1, h2, h3⟩ := hs
    unfold step pollOnce fail publish
    refine Vc.sound ?_
    simp +contextual [Dormant, h1, h2, h3]

variable {s : World κ}

lemma Dormant.not_drive (h : Dormant since s) :
    ¬(s.service.phase = .connected ∨ s.service.phase = .releasing) := by
  obtain ⟨_, _, h | h⟩ := h
  · rintro (hd | hd) <;> rw [hd] at h <;> cases h
  · simp [h]

local instance (p : Phase) : Vc (WithinGrace since) StoresNothing (ejectTo K p) := .unreached _

instance : Vc (WithinGrace since) StoresNothing (ejectRequest K) :=
  .ofSpec _ (Dormant since) (fun _ _ t => Dormant since t) (fun _ _ _ => True) fun s hs => by
    unfold ejectRequest ejectNow
    refine Vc.sound ?_
    simp [hs.not_drive, hs]

local instance (n : ℕ) (deadline : ℚ) (desktop : Bool) :
    Vc (WithinGrace since) StoresNothing (releaseForSleep K n deadline desktop) := .unreached _

local instance (n : ℕ) (deadline : ℚ) :
    Vc (WithinGrace since) StoresNothing (powerDown K n deadline) := .unreached _

local instance (deadline : ℚ) : Vc (WithinGrace since) StoresNothing (pauseForSleep K deadline) :=
  .unreached _

/-- The loop of `sleep_pre` is left at once, or the service has failed. -/
instance (n : ℕ) (deadline : ℚ) (desktop : Bool) (m : ℕ) :
    Vc (WithinGrace since) StoresNothing (quietForSleep K n deadline desktop m) :=
  .ofSpec _ (Dormant since) (fun s _ t => t = s) (fun s e t => t = s ∧ ∃ f, e = .fault f)
    fun s hs => by
      obtain ⟨-, -, h⟩ := hs
      cases m with
      | zero => exact ⟨rfl, _, rfl⟩
      | succ m =>
        let : Vc (WithinGrace since) StoresNothing (quietForSleep K n deadline desktop m) :=
          .unreached _
        unfold quietForSleep
        refine Vc.sound ?_
        rcases h with h | h
        · simp [h]
        · simp [h, Phase.isQuiet]

/-- A `'pre'` that goes through begins the grace anew; one that fails leaves it as it was. -/
instance (n : ℕ) (desktop : Bool) : Vc (WithinGrace since) StoresNothing (sleepPre K n desktop) :=
  .ofSpec _ (Dormant since) (fun _ _ t => Dormant (lastReading t.log) t)
    (fun _ e t => Dormant since t ∧ ∃ f, e = .fault f) fun s hs => by
      unfold sleepPre
      refine Vc.sound ?_
      obtain ⟨h1, h2, h3⟩ := hs
      simp [Dormant, h1, h2, h3]

instance (x : Option (String × ℚ)) : Vc (WithinGrace since) StoresNothing (refusedSince K x) :=
  .ofSpec _ (Dormant since) (fun _ _ t => Dormant since t) (fun _ e t => Dormant since t)
    fun s hs => by
      obtain ⟨h1, h2, h3⟩ := hs
      cases x <;> unfold refusedSince <;> refine Vc.sound ?_ <;> simp [Dormant, h1, h2, h3]

/-- What is known after a `'pre'` request: since when the service sleeps depends on its answer. -/
def SleepAnswered (since : Option ℚ) (r : Bool × String) (t : World κ) : Prop :=
  Dormant (if r.1 then lastReading t.log else since) t

instance (n : ℕ) (desktop : Bool) (x : Option String) :
    Vc (WithinGrace since) StoresNothing (sleepPreUnless K n desktop x) :=
  .ofSpec _ (Dormant since) (fun _ r t => SleepAnswered since r t)
    (fun _ e t => Dormant since t ∧ ∃ f, e = .fault f) fun s hs => by
      cases x <;> unfold sleepPreUnless sleepOk <;> refine Vc.sound ?_ <;>
        simp +contextual [hs, SleepAnswered]

instance (f : Fault) : Vc (WithinGrace since) StoresNothing (failAnswer K f) :=
  .ofSpec _ (Dormant since) (fun _ => SleepAnswered since) (fun _ _ _ => True) fun s hs => by
    obtain ⟨h1, h2, h3⟩ := hs
    unfold failAnswer fail publish
    refine Vc.sound ?_
    simp [SleepAnswered, Dormant, h1, h2]

local instance (desktop : Bool) (message : String) :
    Vc (WithinGrace since) StoresNothing (refuse K desktop message) := .unreached _

lemma pre_answered (n : ℕ) (desktop : Bool) (hs : Dormant since s) :
    wp (WithinGrace since) StoresNothing (sleepRequest K n .pre desktop).1 (SleepAnswered since)
      (fun _ _ => True) s := by
  unfold sleepRequest refusedLately
  refine Vc.sound ?_
  simp +contextual [hs]

/-! ### The operations until then -/

/-- Since when the service sleeps after a `'pre'` request: the request that goes through looks at
the clock last. -/
def preSince (K : Kernel κ) (n : ℕ) (desktop : Bool) (since : Option ℚ) (s : World κ) : Option ℚ :=
  let o := (sleepRequest K n .pre desktop).1 s
  match o.res with
  | .ok (true, _) => lastReading (final s o.trace).log
  | _ => since

def Op.sleepSince (K : Kernel κ) (n : ℕ) (since : Option ℚ) (s : World κ) : Op → Option ℚ
  | .sleep .pre => preSince K n false since s
  | .announce values => if values.getLast? = some true then preSince K n true since s else since
  | _ => since

/-- The operations store nothing for as long as the clock shows that the grace since the last
`'pre'` request that went through has not passed. -/
def StoreNothing (K : Kernel κ) (n : ℕ) : Option ℚ → List Op → World κ → Prop
  | _, [], _ => True
  | since, op :: ops, s =>
    let s := { s with op := op }
    Follow (WithinGrace since) StoresNothing s ((op.run K n).1 s).trace fun t =>
      ((op.run K n).1 s).res = .ok true → StoreNothing K n (op.sleepSince K n since s) ops t

lemma releaseLock_dormant {since x : Option ℚ} (hs : Dormant x s) :
    wp (WithinGrace since) StoresNothing (ask K .releaseLock).1 (fun _ => Dormant x)
      (fun _ => Dormant x) s := by
  have hk (k : κ) : Dormant x { s with kernel := k } := hs
  refine Vc.sound ?_
  simp [hk]

lemma pre_since {β : Type} (n : ℕ) (desktop : Bool) (hs : Dormant since s)
    {f : Bool × String → SleepProg κ β} (hf : ∀ r x t, Dormant x t →
      wp (WithinGrace since) StoresNothing (f r).1 (fun _ => Dormant x) (fun _ _ => True) t) :
    wp (WithinGrace since) StoresNothing (sleepRequest K n .pre desktop >>= f).1
      (fun _ => Dormant (preSince K n desktop since s)) (fun _ _ => True) s := by
  refine (wp_bind _ _).mpr (wp_mono ?_ (fun _ _ h => h.1) (wp_run (pre_answered n desktop hs)))
  rintro ⟨ok, message⟩ t ⟨ht, hres, rfl⟩
  refine hf _ _ _ ?_
  simp only [preSince, hres]
  cases ok <;> exact ht

lemma op_dormant (n : ℕ) {op : Op} (hop : op.resumes = false) (hs : Dormant since s) :
    wp (WithinGrace since) StoresNothing (op.run K n).1
      (fun _ => Dormant (op.sleepSince K n since s)) (fun _ _ => True) s := by
  cases op with
  | poll =>
    unfold Op.run
    refine Vc.sound ?_
    simp [hs, Op.sleepSince]
  | eject =>
    unfold Op.run
    refine Vc.sound ?_
    simp [hs, Op.sleepSince]
  | sleep action =>
    cases action with
    | pre => exact (wp_bind _ _).mpr (pre_since n false hs fun r x t ht => ht)
    | post => cases hop
    | unknown => exact hs
  | announce values =>
    have hf : values.contains false = false := hop
    refine (wp_bind _ _).mpr ?_
    unfold answerLogind Op.sleepSince
    simp only [hf, Bool.false_eq_true, if_false]
    split
    · refine pre_since n true hs fun r x t ht => ?_
      exact (wp_mapError _ _).mpr
        (wp_mono (fun _ _ h => h) (fun _ _ _ => trivial) (releaseLock_dormant ht))
    · exact hs

lemma storeNothing_of_dormant (n : ℕ) (ops : List Op) (hops : ∀ op ∈ ops, op.resumes = false)
    {s : World κ} (hs : Dormant since s) : StoreNothing K n since ops s := by
  induction ops generalizing since s with
  | nil => trivial
  | cons op ops ih =>
    have hb : Dormant since { s with op := op } := hs
    refine Follow.mono (fun _ _ _ h => h) (fun _ _ _ h => h) (fun t ht hres => ?_)
      (op_dormant n (hops op List.mem_cons_self) hb)
    rw [hres] at ht
    exact ih (fun op hop => hops op (List.mem_cons_of_mem _ hop)) ht

/-- After a `'pre'` request the sleep is let go on, if it was announced. -/
def letSleep (K : Kernel κ) (desktop : Bool) : ServiceProg κ Unit :=
  if desktop then ask K .releaseLock else pure ()

lemma letSleep_dormant (desktop : Bool) (hs : Dormant since s) :
    wp (WithinGrace since) StoresNothing (letSleep K desktop).1 (fun _ => Dormant since)
      (fun _ => Dormant since) s := by
  cases desktop with
  | false => exact hs
  | true => exact releaseLock_dormant hs

/-- Once a `'pre'` request has gone through, the service stores nothing until an operation ends
the sleep or the clock shows that the grace is over. -/
theorem stores_nothing_until_resume (K : Kernel κ) (n m : ℕ) (desktop : Bool) (s : World κ)
    (message : String) (ops : List Op)
    (h : ((sleepRequest K n .pre desktop).1 s).res = .ok (true, message))
    (hops : ∀ op ∈ ops, op.resumes = false) :
    let t := final s ((sleepRequest K n .pre desktop).1 s).trace
    Follow (WithinGrace (lastReading t.log)) StoresNothing t ((letSleep K desktop).1 t).trace
      (StoreNothing K m (lastReading t.log) ops) := by
  intro t
  have hd : Dormant (lastReading t.log) t := by
    have hp := (Follow.along (pre_dormant (K := K) n desktop s) (along_true s _)).2
    rw [h] at hp
    exact hp rfl
  refine Follow.mono (fun _ _ _ h => h) (fun _ _ _ h => h) (fun u hu => ?_)
    (letSleep_dormant desktop hd)
  refine storeNothing_of_dormant m ops hops ?_
  cases hres : ((letSleep K desktop).1 t).res <;> rw [hres] at hu <;> exact hu

def idleBench : World Bench where
  service := { phase := .waiting, generation := 1 }
  kernel := { fake := { session := { prepared := true, waiting := true } } }

theorem stores_nothing_until_resume_idleBench :
    let t := final idleBench ((sleepRequest bench 3 .pre true).1 idleBench).trace
    Follow (WithinGrace (lastReading t.log)) StoresNothing t ((letSleep bench true).1 t).trace
      (StoreNothing bench 3 (lastReading t.log) [.poll, .eject, .sleep .pre, .announce [true]]) :=
  stores_nothing_until_resume bench 3 3 true idleBench Phase.asleep.message
    [.poll, .eject, .sleep .pre, .announce [true]] (by decide +kernel) (by decide)

end YogaUsb4.Daemon
