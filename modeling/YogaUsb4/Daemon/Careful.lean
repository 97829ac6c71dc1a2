import YogaUsb4.Daemon.Rules

/-!
What the service owes its kernel at every store, whatever the kernel answers: it is not asleep
and has not failed, and a stage of an eject comes after the looks and the confirmed stages that
it needs. Stated on the log of events, and proved for the router's functions.
-/

namespace YogaUsb4.Daemon

open HostState Prog
open scoped AnyKernel

variable {κ : Type}

/-! ### What the log shows -/

def Event.showsMount : Event → Bool
  | .mounted _ (.ok points) => !points.isEmpty
  | .mountedDevices _ (.ok devices) => !devices.isEmpty
  | _ => false

def Event.connects : Event → Bool
  | .store .inventoryOnce _ _ => true
  | _ => false

/-- Whether the drive was seen mounted since the last connect command, if `b` says so for what
was before the events. -/
def seenAfter (b : Bool) : List Event → Bool
  | [] => b
  | e :: es => seenAfter (!e.connects && (e.showsMount || b)) es

/-- Since the last connect command the drive was seen mounted. -/
def mountSeen (log : List Event) : Bool := seenAfter false log

lemma seenAfter_append (b : Bool) (log es : List Event) :
    seenAfter b (log ++ es) = seenAfter (seenAfter b log) es := by
  induction log generalizing b with
  | nil => rfl
  | cons e log ih => exact ih _

@[simp] lemma mountSeen_append (log es : List Event) :
    mountSeen (log ++ es) = seenAfter (mountSeen log) es := seenAfter_append false log es

attribute [simp] Event.showsMount Event.connects seenAfter

def Event.session : Event → Option Fields
  | .read .sessionState (.ok value) => some value
  | _ => none

/-- The last snapshot of the session after the events, if it was `x` before them. -/
def sessionAfter (x : Option Fields) : List Event → Option Fields
  | [] => x
  | e :: es => sessionAfter (e.session <|> x) es

def lastSession (log : List Event) : Option Fields := sessionAfter none log

lemma sessionAfter_append (x : Option Fields) (log es : List Event) :
    sessionAfter x (log ++ es) = sessionAfter (sessionAfter x log) es := by
  induction log generalizing x with
  | nil => rfl
  | cons e log ih => exact ih _

@[simp] lemma lastSession_append (log es : List Event) :
    lastSession (log ++ es) = sessionAfter (lastSession log) es := sessionAfter_append none log es

attribute [simp] Event.session sessionAfter

/-- In it a drive is connected: it was not pulled, and nothing is retired. -/
def showsDrive (value : Fields) : Bool :=
  value .fullyRetired != some "1" && value .orientation != some "0" &&
    value .complete == some "1"

/-- The last look at the session found a drive connected. -/
def DriveShown (log : List Event) : Prop := (lastSession log).any showsDrive

variable (d : Option String)

/-- The last looks found no mount of the disk, and no namespace that holds it. -/
def Unheld (log : List Event) : Prop :=
  [.mounted d (.ok []), .released d (.ok true)] <:+ log

/-- The same look twice in a row, with one look at the clock between. -/
def UnheldTwice (log : List Event) : Prop :=
  ∃ now, [.mountedDevices d (.ok []), .released d (.ok true), .clock now,
    .mountedDevices d (.ok []), .released d (.ok true)] <:+ log

/-- What must have been seen before the operation ejects the disk. -/
def Op.Cleared : Op → List Event → Prop
  | .poll, log => Unheld d log ∧ mountSeen log ∧ DriveShown log
  | .eject, log => Unheld d log
  | .sleep _, log | .announce _, log => UnheldTwice d log

variable {d}

/-- The stage was stored without error, and its snapshot confirmed it. -/
def Confirmed (st : EjectStage) (log : List Event) : Prop :=
  ∃ value, st.confirmed value ∧
    [.store st.store st.token (.ok ()), .read st.snapshot (.ok value)] <:+ log

/-- What must hold when the service stores to an attribute. -/
def Admitted (s : World κ) : Attribute → Prop
  | .endpointRemoveOnce => s.service.phase = .ejecting ∧ s.op.Cleared s.service.disk s.log
  | .tunnelQuiesceOnce => s.service.phase = .ejecting ∧ Confirmed endpointStage s.log
  | .hostQuiesceOnce => s.service.phase = .ejecting ∧ Confirmed tunnelStage s.log
  | .powerQuiesceOnce => s.service.phase = .ejecting ∧ Confirmed hostStage s.log
  | _ => True

/-- A step that makes no store out of place. -/
def Placed (s : World κ) (l : Label) (_ : World κ) : Prop :=
  ∀ n token r, l = .asked (some (.store n token r)) →
    s.service.sleeping = false ∧ s.service.phase ≠ .failed ∧ Admitted s n

/-- And that does not leave the phase `'failed'`. -/
structure Careful (s : World κ) (l : Label) (t : World κ) : Prop where
  placed : Placed s l t
  failed : s.service.phase = .failed → t.service.phase = .failed

@[simp] lemma careful_own (s t : World κ) :
    Careful s .own t ↔ (s.service.phase = .failed → t.service.phase = .failed) :=
  ⟨Careful.failed, fun h => ⟨by simp [Placed], h⟩⟩

@[simp] lemma careful_between (s t : World κ) :
    Careful s .between t ↔ (s.service.phase = .failed → t.service.phase = .failed) :=
  ⟨Careful.failed, fun h => ⟨by simp [Placed], h⟩⟩

@[simp] lemma careful_asked (s t : World κ) (e : Option Event) :
    Careful s (.asked e) t ↔ (match e with
      | some (.store n _ _) =>
        s.service.sleeping = false ∧ s.service.phase ≠ .failed ∧ Admitted s n
      | _ => True) ∧ (s.service.phase = .failed → t.service.phase = .failed) := by
  have h : Careful s (.asked e) t ↔ Placed s (.asked e) t ∧
      (s.service.phase = .failed → t.service.phase = .failed) :=
    ⟨fun h => ⟨h.placed, h.failed⟩, fun h => ⟨h.1, h.2⟩⟩
  rw [h]
  unfold Placed
  rcases e with _ | e
  · simp
  · cases e <;> simp

@[simp] lemma asked_service (s : World κ) (k : κ) (e : Option Event) :
    (s.asked k e).service = s.service := rfl

/-! ### The router's functions -/

/-- Steps that store nothing and assign nothing. -/
def Looks (s : World κ) : Label → World κ → Prop
  | .asked (some (.store ..)), _ => False
  | .asked e, t => ∃ k, t = s.asked k e
  | _, _ => False

section Looks

instance (n : Snapshot) : Allows (@Looks κ) (.read n) := ⟨fun _ k _ => ⟨k, rfl⟩⟩
instance : Allows (@Looks κ) .clock := ⟨fun _ k _ => ⟨k, rfl⟩⟩
instance (t : ℚ) : Allows (@Looks κ) (.sleep t) := ⟨fun _ k _ => ⟨k, rfl⟩⟩
instance (d : String) : Allows (@Looks κ) (.unmount d) := ⟨fun _ k _ => ⟨k, rfl⟩⟩
instance (p : String) : Allows (@Looks κ) (.unmountDesktop p) := ⟨fun _ k _ => ⟨k, rfl⟩⟩

end Looks

/-- Steps of the router that store to no stage of an eject. -/
def Manages (s : World κ) : Label → World κ → Prop
  | .asked (some (.store n token r)), t =>
    (∀ s : World κ, Admitted s n) ∧ ∃ k, t = s.asked k (some (.store n token r))
  | .asked e, t => ∃ k, t = s.asked k e
  | .own, t => ∃ x, t = { s with service.failures := x }
  | .between, _ => False

section Manages

instance (n : Snapshot) : Allows (@Manages κ) (.read n) := ⟨fun _ k _ => ⟨k, rfl⟩⟩
instance : Allows (@Manages κ) .disk := ⟨fun _ k _ => ⟨k, rfl⟩⟩
instance : Allows (@Manages κ) .settle := ⟨fun _ k _ => ⟨k, rfl⟩⟩
instance : Allows (@Manages κ) .clock := ⟨fun _ k _ => ⟨k, rfl⟩⟩
instance (t : ℚ) : Allows (@Manages κ) (.sleep t) := ⟨fun _ k _ => ⟨k, rfl⟩⟩
instance (t : String) : Allows (@Manages κ) (.store .inventoryOnce t) :=
  ⟨fun _ k _ => ⟨fun _ => trivial, k, rfl⟩⟩
instance (t : String) : Allows (@Manages κ) (.store .renewSession t) :=
  ⟨fun _ k _ => ⟨fun _ => trivial, k, rfl⟩⟩
instance (t : String) : Allows (@Manages κ) (.store .pulledRetireOnce t) :=
  ⟨fun _ k _ => ⟨fun _ => trivial, k, rfl⟩⟩
instance (t : String) : Allows (@Manages κ) (.store .idleRetireOnce t) :=
  ⟨fun _ k _ => ⟨fun _ => trivial, k, rfl⟩⟩

instance : Keeps (@Manages κ) (assign fun s => { s with failures := 0 } : ServiceProg κ Unit) :=
  ⟨within_step fun _ => ⟨_, rfl⟩⟩

instance : Keeps (@Manages κ)
    (assign fun s => { s with failures := s.failures + 1 } : ServiceProg κ Unit) :=
  ⟨within_step fun _ => ⟨_, rfl⟩⟩

end Manages

variable {K : Kernel κ}

section Reads

variable {S : World κ → Label → World κ → Prop}

instance (value : Fields) (f : Field) : Keeps S (number K value f) := by
  unfold number
  cases value f with
  | none => dsimp only; infer_instance
  | some t => dsimp only; cases K.int t <;> dsimp only <;> infer_instance

variable [∀ n, Allows S (.read n)]

instance (g : Option ℤ) : Keeps S (session K g) := by unfold session; infer_instance

instance : Keeps S (portEmpty K) := by unfold portEmpty; infer_instance

instance : Keeps S (adopt K) := by unfold adopt; infer_instance

instance (value : Fields) : Keeps S (detached K value) := by unfold detached; infer_instance

instance (g : ℤ) : Keeps S (connection K g) := by unfold connection; infer_instance

instance (g : ℤ) : Keeps S (rearmed K g) := by unfold rearmed; infer_instance

instance (g : ℤ) : Keeps S (requireRetired K g) := by unfold requireRetired; infer_instance

end Reads

instance (g : ℤ) : Keeps Manages (prepare K g) := by unfold prepare; infer_instance

instance (deadline : ℚ) (n : ℕ) : Keeps Manages (awaitDisk K deadline n) := by
  induction n with
  | zero => unfold awaitDisk; infer_instance
  | succ n ih => unfold awaitDisk; infer_instance

instance (g : ℤ) : Keeps Manages (sendConnect K g) := by unfold sendConnect; infer_instance

instance (n : ℕ) (g : ℤ) : Keeps Manages (routerConnect K n g) := by
  unfold routerConnect; infer_instance

instance (g : ℤ) : Keeps Manages (renew K g) := by unfold renew; infer_instance

instance (g : ℤ) : Keeps Manages (pulledRetire K g) := by unfold pulledRetire; infer_instance

instance : Keeps Manages (sendIdleRetire K) := by unfold sendIdleRetire; infer_instance

instance (g : ℤ) : Keeps Manages (idleRetire K g) := by unfold idleRetire; infer_instance

/-! ### What they leave alone -/

@[mk_iff]
structure Looked (s t : World κ) : Prop where
  service : t.service = s.service
  op : t.op = s.op
  seen : mountSeen s.log → mountSeen t.log

/-- The router changed at most its own field. -/
@[mk_iff]
structure Managed (s t : World κ) : Prop where
  service : ∃ x, t.service = { s.service with failures := x }
  op : t.op = s.op

def Awake (s : World κ) : Prop := s.service.sleeping = false ∧ s.service.phase ≠ .failed

section Router

variable {α ε : Type}

abbrev looks (m : Guarded (World κ) Label ε Interface α) [Keeps Looks m] : Vc Free Careful m :=
  .ofKeeps Looks m (fun _ => True) Looked (fun _ => ⟨rfl, rfl, id⟩) fun s t l u _ h hS _ => by
    rcases l with (_ | e) | _ | _
    · obtain ⟨k, rfl⟩ := hS
      exact ⟨by simp, h.service, h.op, fun hs => by simpa [World.asked] using h.seen hs⟩
    · cases e with
      | store n token r => exact hS.elim
      | _ =>
        obtain ⟨k, rfl⟩ := hS
        exact ⟨by simp, h.service, h.op, fun hs => by simp [World.asked, h.seen hs]⟩
    · exact hS.elim
    · exact hS.elim

abbrev manages (m : ServiceProg κ α) [Keeps Manages m] : Vc Free Careful m :=
  .ofKeeps Manages m Awake Managed (fun _ => ⟨⟨_, rfl⟩, rfl⟩) fun s t l u hP h hS _ => by
    obtain ⟨x, hx⟩ := h.service
    have ht : Awake t := by rw [Awake, hx]; exact hP
    rcases l with (_ | e) | _ | _
    · obtain ⟨k, rfl⟩ := hS
      exact ⟨by simp, h.service, h.op⟩
    · cases e with
      | store n token r =>
        obtain ⟨hn, k, rfl⟩ := hS
        exact ⟨by simpa using ⟨ht.1, ht.2, hn t⟩, h.service, h.op⟩
      | _ =>
        obtain ⟨k, rfl⟩ := hS
        exact ⟨by simp, h.service, h.op⟩
    · obtain ⟨y, rfl⟩ := hS
      exact ⟨by simp, ⟨y, by rw [hx]⟩, h.op⟩
    · exact hS.elim

end Router

instance : Vc Free Careful (portEmpty K) := looks _
instance : Vc Free Careful (adopt K) := looks _

lemma connection_shown (g : ℤ) (s : World κ) :
    wp Free Free (connection K g).1 (fun c t => c = .connected → DriveShown t.log) (fun _ _ => True)
      s := by
  let reads (value : Fields) : Vc Free Free (detached K value) := .havoc _
  unfold connection session
  refine Vc.sound ?_
  simp +contextual [reads, World.asked, DriveShown, showsDrive]

instance (g : ℤ) : Vc Free Careful (connection K g) :=
  .ofSpec _ (fun _ => True) (fun s c t => Looked s t ∧ (c = .connected → DriveShown t.log))
    (fun s _ t => Looked s t) fun s _ => by
      have hlooks : wp Free Careful (connection K g).1 (fun _ t => Looked s t)
          (fun _ t => Looked s t) s :=
        (looks (connection K g)).sound ⟨trivial, fun t ht => ⟨fun _ => ht, fun _ => ht⟩⟩
      refine Follow.mono (fun _ _ _ h => h) (fun _ _ _ h => h.1) (fun _ h => ?_)
        (wp_and hlooks (connection_shown g s))
      revert h
      cases ((connection K g).1 s).res with
      | ok c => exact id
      | error e => exact And.left

instance (g : ℤ) : Vc Free Careful (requireRetired K g) := looks _
instance (g : ℤ) : Vc Free Careful (prepare K g) := manages _
instance (n : ℕ) (g : ℤ) : Vc Free Careful (routerConnect K n g) := manages _
instance (g : ℤ) : Vc Free Careful (renew K g) := manages _
instance (g : ℤ) : Vc Free Careful (pulledRetire K g) := manages _
instance (g : ℤ) : Vc Free Careful (idleRetire K g) := manages _

/-! ### Publishing and ejecting -/

/-- The service is in the phase `p`, and otherwise as before. -/
@[mk_iff]
structure Published (p : Phase) (s t : World κ) : Prop where
  service : t.service = { s.service with phase := p }
  op : t.op = s.op
  log : t.log = s.log

instance (p : Phase) (b : Bool) : Vc Free Careful (publish K p b) :=
  .ofSpec _ (fun s => s.service.phase = .failed → p = .failed) (fun s _ t => Published p s t)
    (fun s _ t => Published p s t) fun s hs => by
      unfold publish
      refine Vc.sound ?_
      simp [World.asked, published_iff]
      exact hs

@[mk_iff]
structure Unchanged (s t : World κ) : Prop where
  service : t.service = s.service
  op : t.op = s.op

instance (st : EjectStage) : Vc Free Careful (runEjectStage K st) :=
  .ofSpec _ (fun s => Awake s ∧ Admitted s st.store)
    (fun s _ t => Unchanged s t ∧ Confirmed st t.log) (fun s _ t => Unchanged s t)
    fun s hs => by
      obtain ⟨⟨hs, hp⟩, ha⟩ := hs
      unfold runEjectStage
      refine Vc.sound ?_
      simp only [Vc.vc, Ask.event, World.asked, careful_asked, Option.toList_some,
        List.append_assoc, List.cons_append, List.nil_append, unchanged_iff, and_self, true_and,
        forall_const, hs, hp, ha, not_false_eq_true, ne_eq, implies_true, and_true, false_implies]
      intro k _ k' value
      split
      · next h => exact ⟨value, h, List.suffix_append _ _⟩
      · trivial

instance (g : ℤ) : Vc Free Careful (eject K g) :=
  .ofSpec _ (fun s => Awake s ∧ s.service.phase = .ejecting ∧ s.op.Cleared s.service.disk s.log)
    (fun s _ t => Unchanged s t) (fun s _ t => Unchanged s t)
    fun s hs => by
      obtain ⟨ha, hp, hc⟩ := hs
      unfold eject ejectTable runEjectStages runEjectStages runEjectStages runEjectStages
        runEjectStages
      refine Vc.sound ?_
      simp +contextual [World.asked, unchanged_iff, looked_iff, Awake, Admitted, endpointStage,
        tunnelStage, hostStage, powerStage, hp, hc, ha.1]

@[mk_iff]
structure Faulted (s t : World κ) : Prop where
  sleeping : t.service.sleeping = false
  op : t.op = s.op

/-- The service is awake, in its operation, and in a phase of `p`. -/
@[mk_iff]
structure Moved (s t : World κ) (p : Phase → Prop) : Prop where
  sleeping : t.service.sleeping = false
  op : t.op = s.op
  phase : p t.service.phase

instance (p : Phase) : Vc Free Careful (ejectTo K p) :=
  .ofSpec _ (fun s => Awake s ∧ s.op.Cleared s.service.disk s.log) (fun s _ t => Moved s t (· = p))
    (fun s _ t => Moved s t fun q => q = .ejecting ∨ q = p)
    fun s hs => by
      obtain ⟨⟨hs, hp⟩, hc⟩ := hs
      unfold ejectTo
      refine Vc.sound ?_
      simp +contextual [published_iff, unchanged_iff, moved_iff, Awake, hs, hp, hc]

instance (f : Fault) : Vc Free Careful (fail K f) :=
  .ofSpec _ (fun _ => True)
    (fun s _ t =>
      t.service = { s.service with phase := .failed, error := some f.text } ∧ t.op = s.op)
    (fun s _ t =>
      t.service = { s.service with phase := .failed, error := some f.text } ∧ t.op = s.op)
    fun s _ => by
      unfold fail
      refine Vc.sound ?_
      simp +contextual [published_iff]

end YogaUsb4.Daemon
