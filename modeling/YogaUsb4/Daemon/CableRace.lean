import Mathlib.Algebra.Order.Ring.Int
import YogaUsb4.Daemon.Agreement

/-!
Plugging and unplugging while the service works. Every store relies on a look at the port that was
taken a moment before, and the cable may move in between. Where it does not, no cable event ever
stops the service.
-/

set_option synthInstance.maxSize 1000

namespace YogaUsb4.Daemon

open HostState Prog

/-! ### The condition -/

abbrev World.port (s : World Bench) : Port := s.kernel.fake.port

@[simp] lemma port_service (s : World Bench) (sv : Service) :
    World.port { s with service := sv } = s.port := rfl

@[simp] lemma port_op (s : World Bench) (op : Op) : World.port { s with op := op } = s.port := rfl

/-- No stage has an internal fault. The power-down may still be refused. -/
@[mk_iff]
structure Knobs.Plain (k : Knobs) : Prop where
  error : k.error = 0
  idleFail : k.idleFail = false
  pulledFail : k.pulledFail = false

@[simp] def Act.Plain : Act → Prop
  | .turn knobs => knobs.Plain
  | _ => True

instance (k : Knobs) : Decidable k.Plain := decidable_of_iff _ (Knobs.plain_iff k).symm

instance (a : Act) : Decidable a.Plain := by unfold Act.Plain; split <;> infer_instance

/-- A look at the session shows whether the port is empty. -/
@[simp] def Event.look : Event → Option Bool
  | .read .sessionState (.ok v) => some (v .orientation == some "0")
  | _ => none

def seen (log : List Event) : List Bool := log.filterMap Event.look

@[simp] def Event.isRenewal : Event → Bool
  | .store .renewSession _ (.ok _) => true
  | _ => false

def renewed (log : List Event) : Bool := log.getLast?.any Event.isRenewal

/-- The service has seen the port empty and looks once more, before it prepares its first session.
Until then it looks twice in every poll, in `adopt` and in `port_empty`. -/
def looksAgain (s : World Bench) : Prop :=
  s.service.generation = 0 ∧ 2 ∣ (seen s.log).length ∧ (seen s.log).getLast? = some true

/-- The phases in which a renewal that is refused only means that the cable has to go. -/
def Phase.isStart : Phase → Bool
  | .starting | .unplugToStart | .asleep => true
  | _ => false

def StillSeen (s : World Bench) : Prop :=
  (seen s.log).getLast? = some (s.kernel.portNow.orientation == 0)

/-- What the clock has shown of a request to sleep: the time at which it began, and whether the
power-down was refused after the last look at the clock. -/
structure Stopwatch where
  begun : Option ℚ := none
  refused : Bool := false

def Stopwatch.next (w : Stopwatch) : Event → Stopwatch
  | .store .idleRetireOnce _ (.error _) => { w with refused := true }
  | .store _ _ _ => { w with refused := false }
  -- The look before the power-down is tried again begins nothing.
  | .clock (.ok now) => if w.refused then { w with refused := false } else { w with begun := now }
  | _ => w

def stopwatch (log : List Event) : Stopwatch := log.foldl Stopwatch.next {}

def Stopwatch.Within (w : Stopwatch) (now : ℚ) : Prop :=
  w.refused → ∀ begun ∈ w.begun, now < begun + sleepBudget

/-- The question comes in time: a store finds the cable as the last look showed it, `prepare`
finds the port empty, and a refused power-down has time left. Nothing is mounted when the endpoint
is removed. -/
@[simp] def Timely (s : World Bench) : Event → Prop
  | .store .inventoryOnce _ _ => StillSeen s
  | .store .pulledRetireOnce _ _ => StillSeen s
  | .store .renewSession _ _ => s.service.phase.isStart ∨ StillSeen s
  | .store .endpointRemoveOnce _ _ => s.kernel.portNow.mounts = []
  | .read .sessionState _ =>
    s.session.prepared = false → renewed s.log ∨ looksAgain s → s.kernel.portNow.orientation = 0
  | .clock (.ok now) => (stopwatch s.log).Within now
  | _ => True

/-- Around the service no stage has an internal fault, and every question comes in time. -/
def Fair (s : World Bench) : Label → World Bench → Prop
  | .asked e, _ => s.kernel.tick.killed = false ∧ (∀ a ∈ s.kernel.tick.acts, a.Plain) ∧
    ∀ x ∈ e, Timely s x
  | _, _ => True

instance (s : World Bench) : Decidable (looksAgain s) := inferInstanceAs (Decidable (_ ∧ _ ∧ _))

instance (s : World Bench) : Decidable (StillSeen s) := inferInstanceAs (Decidable (_ = _))

instance (w : Stopwatch) (now : ℚ) : Decidable (w.Within now) :=
  inferInstanceAs (Decidable (_ → ∀ _ ∈ _, _))

instance (s : World Bench) (e : Event) : Decidable (Timely s e) := by
  unfold Timely; split <;> infer_instance

instance (s : World Bench) (l : Label) (t : World Bench) : Decidable (Fair s l t) := by
  unfold Fair; split <;> infer_instance

@[simp] def Event.isCrash : Event → Bool
  | .store _ _ (.error .crash) => true
  | _ => false

@[simp] def Label.isCrash : Label → Bool
  | .asked e => e.any Event.isCrash
  | _ => false

/-- The service has not failed, and no store of it failed an assertion of the kernel. -/
def Unfailed (_ : World Bench) (l : Label) (t : World Bench) : Prop :=
  t.service.phase ≠ .failed ∧ l.isCrash = false

/-! ### What the kernel keeps -/

/-- A session and a port that go together, as long as no stage has a fault. -/
@[mk_iff]
structure Fits (c : FakeSession) (p : Port) : Prop where
  sane : c.Sane
  knobs : p.knobs.Plain
  counted : p.disconnectEvent ≤ p.events
  begun : c.initialEvent ≤ p.events
  armed : c.complete → p.rearm = false
  left : c.complete → p.orientation ≠ 0 ∨ c.initialEvent < p.disconnectEvent
  untried : c.retired = false → c.idleAttempted = false

/-- What cables and mounts leave of a port. -/
@[mk_iff]
structure Port.Later (p p' : Port) : Prop where
  rearm : p.rearm = false → p'.rearm = false
  disconnect : p.disconnectEvent ≤ p'.disconnectEvent

lemma Fits.act {c : FakeSession} {p : Port} (h : Fits c p) {a : Act} (ha : a.Plain) :
    Fits c (p.act a) ∧ p.Later (p.act a) := by
  obtain ⟨hs, hk, hc, hb, hr, hl, hu⟩ := h
  cases a with
  | plug =>
    refine ⟨⟨hs, hk, Nat.le_succ_of_le hc, Nat.le_succ_of_le hb, hr, fun _ => .inl ?_, hu⟩,
      ⟨fun h => h, le_rfl⟩⟩
    exact Nat.one_ne_zero
  | unplug =>
    exact ⟨⟨hs, hk, le_rfl, Nat.le_succ_of_le hb, fun _ => rfl,
      fun _ => .inr (Nat.lt_succ_of_le hb), hu⟩, ⟨fun _ => rfl, Nat.le_succ_of_le hc⟩⟩
  | mount => exact ⟨⟨hs, hk, hc, hb, hr, hl, hu⟩, ⟨fun h => h, le_rfl⟩⟩
  | turn => exact ⟨⟨hs, ha, hc, hb, hr, hl, hu⟩, ⟨fun h => h, le_rfl⟩⟩

lemma Fits.acts {c : FakeSession} {p : Port} (h : Fits c p) {as : List Act}
    (ha : ∀ a ∈ as, a.Plain) : Fits c (as.foldl Port.act p) ∧ p.Later (as.foldl Port.act p) := by
  induction as generalizing p with
  | nil => exact ⟨h, ⟨fun h => h, le_rfl⟩⟩
  | cons a as ih =>
    obtain ⟨hfit, hlater⟩ := h.act (ha a List.mem_cons_self)
    obtain ⟨hfit', hlater'⟩ := ih hfit fun b hb => ha b (List.mem_cons_of_mem _ hb)
    exact ⟨hfit', ⟨fun h => hlater'.rearm (hlater.rearm h),
      hlater.disconnect.trans hlater'.disconnect⟩⟩

lemma Fits.mounts {c : FakeSession} {p : Port} (h : Fits c p) (ms : List String) :
    Fits c { p with mounts := ms } :=
  ⟨h.sane, h.knobs, h.counted, h.begun, h.armed, h.left, h.untried⟩

@[mk_iff]
structure Well (s : World Bench) : Prop where
  running : s.service.phase ≠ .failed
  fits : Fits s.session s.port

/-! ### Stores -/

section Stores

variable {c : FakeSession} {p : Port}

lemma Fits.prepared (h : Fits c p) (hp : c.prepared = false) :
    Fits { c with prepared := true, waiting := true, initialEvent := p.events } p := by
  obtain ⟨-, hcomplete, hretired, -⟩ := h.sane.pristine hp
  refine ⟨⟨h.sane.generation, nofun, h.sane.removed, h.sane.stages⟩, h.knobs, h.counted, le_rfl,
    h.armed, fun hc => ?_, h.untried⟩
  rw [hcomplete] at hc
  cases hc

lemma Fits.negotiated (h : Fits c p) (hp : c.prepared) (ho : p.orientation ≠ 0)
    (hr : p.rearm = false) :
    Fits { c with waiting := false, complete := true, diskName := some "nvme1n1" } p :=
  ⟨⟨h.sane.generation, fun hn => absurd (hp.symm.trans hn) nofun, fun _ => rfl, h.sane.stages⟩,
    h.knobs, h.counted, h.begun, fun _ => hr, fun _ => .inl ho, h.untried⟩

lemma Fits.not_negotiated (h : Fits c p) (hp : c.prepared) (hc : c.complete = false) :
    Fits { c with negotiationFailures := c.negotiationFailures + 1 } { p with rearm := true } := by
  refine ⟨⟨h.sane.generation, fun hn => absurd (hp.symm.trans hn) nofun, h.sane.removed,
    h.sane.stages⟩, h.knobs, h.counted, h.begun, fun hn => ?_, h.left, h.untried⟩
  exact absurd (hc.symm.trans hn) nofun

lemma Fits.endpoint (h : Fits c p) (hc : c.complete) :
    Fits { c with removed := true, diskName := none } p :=
  ⟨⟨h.sane.generation, h.sane.pristine, fun _ => hc, fun _ => rfl⟩, h.knobs, h.counted, h.begun,
    h.armed, h.left, h.untried⟩

lemma Fits.quiesced (h : Fits c p) (hr : c.removed) (sts : List QuiesceStage) (b : Bool)
    (hb : b = false → c.retired = false) : Fits { c with stages := sts, retired := b } p := by
  have hprepared := h.sane.prepared (h.sane.removed hr)
  exact ⟨⟨h.sane.generation, fun hn => absurd (hprepared.symm.trans hn) nofun, h.sane.removed,
    fun _ => hr⟩, h.knobs, h.counted, h.begun, h.armed, h.left, fun hn => h.untried (hb hn)⟩

lemma Fits.idled (h : Fits c p) (hp : c.prepared) :
    Fits { c with idleAttempted := true, idle := true, retired := true } p :=
  ⟨⟨h.sane.generation, fun hn => absurd (hp.symm.trans hn) nofun, h.sane.removed, h.sane.stages⟩,
    h.knobs, h.counted, h.begun, h.armed, h.left, nofun⟩

lemma Fits.pulled (h : Fits c p) (hc : c.complete) :
    Fits { c with pulledRetired := true, retired := true, diskName := none } p := by
  have hprepared := h.sane.prepared hc
  exact ⟨⟨h.sane.generation, fun hn => absurd (hprepared.symm.trans hn) nofun, h.sane.removed,
    h.sane.stages⟩, h.knobs, h.counted, h.begun, h.armed, h.left, nofun⟩

lemma Fits.renewed (h : Fits c p) :
    Fits { c with
      generation := c.generation + 1
      idle := false, idleAttempted := false, pulledRetired := false
      prepared := false, waiting := false, complete := false, retired := false
      removed := false, stages := [], negotiationFailures := 0 } p :=
  ⟨⟨Nat.succ_pos _, fun _ => ⟨rfl, rfl, rfl, rfl⟩, nofun, fun h => absurd rfl h⟩, h.knobs,
    h.counted, h.begun, nofun, nofun, fun _ => rfl⟩

lemma storeInventory_begins (hp : c.prepared = false) (ho : p.orientation = 0) :
    storeInventory ⟨c, p⟩ inventoryToken = (.ok (), ⟨{ c with
      prepared := true, waiting := true, initialEvent := p.events }, p⟩) := by
  simp [storeInventory, asserting, hp, ho]

lemma storeInventory_connects (hp : c.prepared) (hw : c.waiting) (ho : p.orientation ≠ 0)
    (hr : p.rearm = false) :
    storeInventory ⟨c, p⟩ inventoryToken =
      if p.knobs.negotiate then (.ok (), ⟨{ c with
        waiting := false, complete := true, diskName := some "nvme1n1" }, p⟩)
      else (.error (.osError .enotconn "not negotiated"), ⟨{ c with
        negotiationFailures := c.negotiationFailures + 1 }, { p with rearm := true }⟩) := by
  cases hn : p.knobs.negotiate <;> simp [storeInventory, asserting, hp, hw, ho, hr, hn]

lemma storeEndpoint_ok (hm : p.mounts = []) (hc : c.complete) :
    storeEndpoint ⟨c, p⟩ endpointStage.token = (.ok (), ⟨{ c with
      removed := true, diskName := none }, p⟩) := by
  simp [storeEndpoint, asserting, hm, hc]

lemma storeQuiesce_ok {st : QuiesceStage} {b : Bool} (hr : c.removed) (hst : c.stages = st.before)
    (hb : (c.retired || st == .power) = b) :
    storeQuiesce ⟨c, p⟩ st =
      (.ok (), ⟨{ c with stages := st.before ++ [st], retired := b }, p⟩) := by
  simp [storeQuiesce, asserting, hr, hst, hb]

lemma storeIdle_cases (h : Fits c p) (hr : c.retired = false) (hp : c.prepared) (hw : c.waiting)
    (hc : c.complete = false) :
    (∃ n, storeIdle ⟨c, p⟩ idleRetireToken = (.error (.osError .ebusy "refused, session kept"),
      ⟨c, { p with knobs := { p.knobs with idleRefusals := n } }⟩)) ∨
    storeIdle ⟨c, p⟩ idleRetireToken = (.error (.osError .eperm "not idle"), ⟨c, p⟩) ∨
    storeIdle ⟨c, p⟩ idleRetireToken = (.ok (), ⟨{ c with
      idleAttempted := true, idle := true, retired := true }, p⟩) := by
  by_cases hn : p.knobs.idleRefusals = 0
  · cases hpending : p.knobs.commandPending <;>
      simp [storeIdle, asserting, h.untried hr, hp, hw, hc, hn, hpending, h.knobs.idleFail]
  · exact .inl ⟨_, by simp [storeIdle, asserting, h.untried hr, hn]; rfl⟩

lemma Fits.refusals (h : Fits c p) (n : ℕ) :
    Fits c { p with knobs := { p.knobs with idleRefusals := n } } :=
  ⟨h.sane, ⟨h.knobs.error, h.knobs.idleFail, h.knobs.pulledFail⟩, h.counted, h.begun, h.armed,
    h.left, h.untried⟩

lemma storePulled_ok (h : Fits c p) (hc : c.complete) (hr : c.removed = false)
    (ho : p.orientation = 0) :
    storePulled ⟨c, p⟩ pulledRetireToken = (.ok (), ⟨{ c with
      pulledRetired := true, retired := true, diskName := none }, { p with mounts := [] }⟩) := by
  have hd := (h.left hc).resolve_left (absurd ho)
  simp [storePulled, asserting, hc, hr, ho, hd, h.knobs.pulledFail]

/-- The kernel takes a drive for attached that has not left since the session began. -/
def Attached (c : FakeSession) (p : Port) : Prop :=
  p.orientation ≠ 0 ∨ (!c.idle ∧ p.disconnectEvent ≤ c.initialEvent)

lemma storeRenew_busy (hr : c.retired) (h : Attached c p) :
    storeRenew ⟨c, p⟩ (toString c.generation ++ "\n") =
      (.error (.osError .ebusy "attached"), ⟨c, p⟩) := by
  unfold Attached at h
  simp only [storeRenew, asserting, hr, beq_self_eq_true, Bool.and_self, if_true]
  rw [if_pos h]

lemma storeRenew_ok (hr : c.retired) (h : ¬Attached c p) :
    storeRenew ⟨c, p⟩ (toString c.generation ++ "\n") = (.ok (), ⟨{ c with
      generation := c.generation + 1
      idle := false, idleAttempted := false, pulledRetired := false
      prepared := false, waiting := false, complete := false, retired := false
      removed := false, stages := [], negotiationFailures := 0 }, p⟩) := by
  unfold Attached at h
  simp only [storeRenew, asserting, hr, beq_self_eq_true, Bool.and_self, if_true]
  rw [if_neg h]

end Stores

/-! ### Questions -/

@[simp] lemma seen_append (log : List Event) (e : Event) :
    seen (log ++ [e]) = seen log ++ e.look.toList := by
  rw [seen, List.filterMap_append, List.filterMap_cons, List.filterMap_nil]
  cases e.look <;> rfl

@[simp] lemma renewed_append (log : List Event) (e : Event) :
    renewed (log ++ [e]) = e.isRenewal := by
  simp [renewed]

@[simp] lemma stopwatch_append (log : List Event) (e : Event) :
    stopwatch (log ++ [e]) = (stopwatch log).next e := by
  simp [stopwatch]

@[simp] lemma next_store_ok (w : Stopwatch) (name : Attribute) (token : String) :
    w.next (.store name token (.ok ())) = { w with refused := false } := by
  cases name <;> rfl

@[simp] lemma next_clock (w : Stopwatch) (now : ℚ) :
    (w.next (.clock (.ok now))).refused = false := by
  cases hw : w.refused <;> simp [Stopwatch.next, hw]

/-- No refused power-down is to be tried again. -/
def Calm (s : World Bench) : Prop := (stopwatch s.log).refused = false

variable {s : World Bench}

lemma Calm.eq (h : Calm s) : (stopwatch s.log).refused = false := h

/-- A question leaves the service and the session alone. -/
@[mk_iff]
structure Asked (s t : World Bench) : Prop where
  service : t.service = s.service
  session : t.session = s.session
  fits : Fits t.session t.port
  rearm : s.port.rearm = false → t.port.rearm = false
  calm : Calm s → Calm t

/-- A store leaves the service alone and makes the session `c`. -/
@[mk_iff]
structure Stores (s : World Bench) (c : FakeSession) (t : World Bench) : Prop where
  service : t.service = s.service
  session : t.session = c
  fits : Fits t.session t.port
  watch : stopwatch t.log = { stopwatch s.log with refused := false }

/-- The power-down is refused and changes nothing. -/
@[mk_iff]
structure Refuses (s t : World Bench) : Prop where
  service : t.service = s.service
  session : t.session = s.session
  fits : Fits t.session t.port
  watch : stopwatch t.log = { stopwatch s.log with refused := true }

/-- What a store comes to, if it comes in time. -/
@[simp] def storeFair (s : World Bench) (token : String) (Q : World Bench → Prop)
    (E : Fault → World Bench → Prop) : Attribute → Prop
  | .inventoryOnce => token = inventoryToken ∧
    if s.session.prepared then
      s.session.waiting ∧ s.session.complete = false ∧ s.port.rearm = false ∧
        (seen s.log).getLast? = some false ∧
        (∀ t, Stores s { s.session with
            negotiationFailures := s.session.negotiationFailures + 1 } t →
          E (.osError .enotconn "not negotiated") t) ∧
        ∀ t, Stores s { s.session with
          waiting := false, complete := true, diskName := some "nvme1n1" } t → Q t
    else (seen s.log).getLast? = some true ∧ ∀ e t, Stores s { s.session with
      prepared := true, waiting := true, initialEvent := e } t → Q t
  | .endpointRemoveOnce => token = endpointStage.token ∧ s.session.complete ∧
    ∀ t, Stores s { s.session with removed := true, diskName := none } t → Q t
  | .tunnelQuiesceOnce => s.session.removed ∧ s.session.stages = [] ∧
    ∀ t, Stores s { s.session with stages := [.tunnel] } t → Q t
  | .hostQuiesceOnce => s.session.removed ∧ s.session.stages = [.tunnel] ∧
    ∀ t, Stores s { s.session with stages := [.tunnel, .host] } t → Q t
  | .powerQuiesceOnce => s.session.removed ∧ s.session.stages = [.tunnel, .host] ∧
    ∀ t, Stores s { s.session with stages := [.tunnel, .host, .power], retired := true } t → Q t
  | .idleRetireOnce => token = idleRetireToken ∧ s.session.retired = false ∧ s.session.prepared ∧
    s.session.waiting ∧ s.session.complete = false ∧
    (∀ t, Refuses s t →
      E (.osError .ebusy "refused, session kept") t ∧ E (.osError .eperm "not idle") t) ∧
    ∀ t, Stores s { s.session with idleAttempted := true, idle := true, retired := true } t → Q t
  | .pulledRetireOnce => token = pulledRetireToken ∧ s.session.complete ∧
    s.session.removed = false ∧ (seen s.log).getLast? = some true ∧
    ∀ t, Stores s { s.session with pulledRetired := true, retired := true, diskName := none } t →
      Q t
  | .renewSession => token = toString s.session.generation ++ "\n" ∧ s.session.retired ∧
    (if s.service.phase.isStart then ∀ t, Asked s t → Calm t → E (.osError .ebusy "attached") t
      else (seen s.log).getLast? = some true ∧ s.session.initialEvent < s.port.disconnectEvent) ∧
    ∀ t, Stores s { s.session with
        generation := s.session.generation + 1
        idle := false, idleAttempted := false, pulledRetired := false
        prepared := false, waiting := false, complete := false, retired := false
        removed := false, stages := [], negotiationFailures := 0 } t →
      renewed t.log → Q t

/-- What an answer comes to, if it comes in time. -/
@[simp] def fairVc (s : World Bench) : {α : Type} → Ask α → (α → World Bench → Prop) →
    (Fault → World Bench → Prop) → Prop
  | _, .read .sessionState, Q, _ => ∀ t, Asked s t →
    seen t.log = seen s.log ++ [t.port.orientation == 0] → stopwatch t.log = stopwatch s.log →
    (s.session.prepared = false → renewed s.log ∨ looksAgain s → t.port.orientation = 0) →
    Q (sessionFields s.session t.port) t
  | _, .read name, Q, _ => ∀ t, Asked s t → seen t.log = seen s.log →
    stopwatch t.log = stopwatch s.log → Q (snapshot s.session t.port name) t
  | _, .disk, Q, _ => ∀ t, Asked s t → seen t.log = seen s.log →
    stopwatch t.log = stopwatch s.log → Q s.session.diskName t
  | _, .store name token, Q, E => storeFair s token (Q ()) E name
  | _, .clock, Q, _ => ∀ now t, Asked s t → seen t.log = seen s.log →
    stopwatch t.log = (stopwatch s.log).next (.clock (.ok now)) → (stopwatch s.log).Within now →
    Q now t
  | _, _, Q, _ => ∀ a t, Asked s t → seen t.log = seen s.log →
    stopwatch t.log = stopwatch s.log → Q a t

section Questions

variable {α : Type} {q : Ask α} {Q : α → World Bench → Prop} {E : Fault → World Bench → Prop}
  {s : World Bench}

/-- A question under the condition: the kernel answers once the acts of the tick have happened. -/
lemma wp_ask_fair (hs : Well s)
    (h : Fits s.session s.kernel.portNow → s.port.Later s.kernel.portNow →
      ∀ r k, FakeKernel.answer ⟨s.session, s.kernel.portNow⟩ s.kernel.tick.now q = (r, k) →
      (∀ x ∈ q.event r, Timely s x) →
      (q.event r).any Event.isCrash = false ∧
      match r with
      | .ok a => Q a (s.asked ⟨k, s.kernel.ticks.tail⟩ (q.event r))
      | .error f => E f (s.asked ⟨k, s.kernel.ticks.tail⟩ (q.event r))) :
    wp Fair Unfailed (ask bench q).1 Q E s := by
  rcases hr : FakeKernel.answer ⟨s.session, s.kernel.portNow⟩ s.kernel.tick.now q with ⟨r, k⟩
  cases hk : s.kernel.tick.killed with
  | true =>
    have ha : bench.answer q s.kernel =
        (.error .crash, ⟨⟨s.session, s.kernel.portNow⟩, s.kernel.ticks.tail⟩) := by
      simp only [bench, Bench.answer, hk, if_true]
    -- A kill is ruled out by the condition.
    refine (wp_ask_error ha).mpr fun hf => ?_
    rw [hf.1] at hk
    cases hk
  | false =>
    have ha : bench.answer q s.kernel = (r, ⟨k, s.kernel.ticks.tail⟩) := by
      simp only [bench, Bench.answer, hk, hr, Bool.false_eq_true, if_false]
    have hkey (hf : Fair s (.asked (q.event r))
        (s.asked ⟨k, s.kernel.ticks.tail⟩ (q.event r))) := by
      obtain ⟨-, hacts, htime⟩ := hf
      obtain ⟨hfit, hlater⟩ := hs.fits.acts hacts
      exact h hfit hlater r k hr htime
    have hu (hc : (q.event r).any Event.isCrash = false) :
        Unfailed s (.asked (q.event r)) (s.asked ⟨k, s.kernel.ticks.tail⟩ (q.event r)) :=
      ⟨hs.running, hc⟩
    cases r with
    | ok a => exact (wp_ask_ok ha).mpr fun hf => ⟨hu (hkey hf).1, (hkey hf).2⟩
    | error f => exact (wp_ask_error ha).mpr fun hf => ⟨hu (hkey hf).1, (hkey hf).2⟩

lemma stopwatch_asked (k : Bench) (e : Option Event) :
    stopwatch (s.asked k e).log = e.elim (stopwatch s.log) (stopwatch s.log).next := by
  cases e with
  | none => exact congrArg stopwatch (List.append_nil _)
  | some x => exact stopwatch_append _ _

lemma calm_asked (k : Bench) {e : Option Event} (he : e.all (!·.isStore)) (hs : Calm s) :
    Calm (s.asked k e) := by
  rw [Calm, stopwatch_asked]
  cases e with
  | none => exact hs
  | some x =>
    cases x with
    | store => cases he
    | clock r =>
      cases r with
      | ok now => exact next_clock _ now
      | error _ => exact hs
    | _ => exact hs

lemma asked_of_fits {ms : List String} {e : Option Event}
    (hfit : Fits s.session s.kernel.portNow) (hlater : s.port.Later s.kernel.portNow)
    (he : e.all (!·.isStore)) :
    Asked s (s.asked
      ⟨⟨s.session, { s.kernel.portNow with mounts := ms }⟩, s.kernel.ticks.tail⟩ e) :=
  ⟨rfl, rfl, hfit.mounts ms, hlater.rearm, calm_asked _ he⟩

variable {token : String} {name : Attribute}

lemma wp_store_fair {Q : Unit → World Bench → Prop} (hs : Well s)
    (h : Fits s.session s.kernel.portNow → s.port.Later s.kernel.portNow →
      (∀ r, Timely s (.store name token r)) →
      ∃ r k, FakeKernel.store ⟨s.session, s.kernel.portNow⟩ name token = (r, k) ∧
        r ≠ .error .crash ∧ ∀ t, t.service = s.service → t.session = k.session → t.port = k.port →
          t.log = s.log ++ [.store name token r] →
          match r with
          | .ok _ => Q () t
          | .error f => E f t) :
    wp Fair Unfailed (ask bench (.store name token)).1 Q E s := by
  refine wp_ask_fair hs fun hfit hlater r k hr htime => ?_
  have htime (r' : Except Fault Unit) : Timely s (.store name token r') := by
    have := htime _ rfl
    cases name <;> exact this
  obtain ⟨r', k', hr', hcrash, hpost⟩ := h hfit hlater htime
  obtain ⟨rfl, rfl⟩ := Prod.mk.inj (hr.symm.trans hr')
  refine ⟨?_, ?_⟩
  · rcases r with (_ | _ | _ | _ | _) | _
    case error.crash => exact absurd rfl hcrash
    all_goals rfl
  · have hpost := hpost (s.asked ⟨k, s.kernel.ticks.tail⟩ (some (.store name token r)))
      rfl rfl rfl rfl
    cases r with
    | ok _ => exact hpost
    | error _ => exact hpost

lemma wp_store_ok {Q : Unit → World Bench → Prop} (hs : Well s)
    (h : Fits s.session s.kernel.portNow → s.port.Later s.kernel.portNow →
      (∀ r, Timely s (.store name token r)) →
      ∃ k, FakeKernel.store ⟨s.session, s.kernel.portNow⟩ name token = (.ok (), k) ∧
        Fits k.session k.port ∧
        ∀ t, Stores s k.session t → t.log = s.log ++ [.store name token (.ok ())] → Q () t) :
    wp Fair Unfailed (ask bench (.store name token)).1 Q E s := by
  refine wp_store_fair hs fun hfit hlater htime => ?_
  obtain ⟨k, hk, hfits, hQ⟩ := h hfit hlater htime
  refine ⟨.ok (), k, hk, nofun, fun t h1 h2 h3 h4 => hQ t ⟨h1, h2, ?_, ?_⟩ h4⟩
  · rw [h2, h3]
    exact hfits
  · rw [h4, stopwatch_append, next_store_ok]

lemma wp_store_error {Q : Unit → World Bench → Prop} {f : Fault} (hs : Well s) (hf : f ≠ .crash)
    (h : Fits s.session s.kernel.portNow → s.port.Later s.kernel.portNow →
      (∀ r, Timely s (.store name token r)) →
      ∃ k, FakeKernel.store ⟨s.session, s.kernel.portNow⟩ name token = (.error f, k) ∧
        ∀ t, t.service = s.service → t.session = k.session → t.port = k.port →
          t.log = s.log ++ [.store name token (.error f)] → E f t) :
    wp Fair Unfailed (ask bench (.store name token)).1 Q E s := by
  refine wp_store_fair hs fun hfit hlater htime => ?_
  obtain ⟨k, hk, hE⟩ := h hfit hlater htime
  exact ⟨.error f, k, hk, fun h => hf (Except.error.inj h), hE⟩

lemma StillSeen.eq {b : Bool} (h : StillSeen s) (hb : (seen s.log).getLast? = some b) :
    (s.kernel.portNow.orientation == 0) = b :=
  Option.some.inj (h.symm.trans hb)

lemma inventoryFair_sound {Q : Unit → World Bench → Prop} (hs : Well s)
    (h : storeFair s token (Q ()) E .inventoryOnce) :
    wp Fair Unfailed (ask bench (.store .inventoryOnce token)).1 Q E s := by
  obtain ⟨rfl, h⟩ := h
  by_cases hp : s.session.prepared = true
  · rw [if_pos hp] at h
    obtain ⟨hw, hc, hrearm, hlook, hE, hQ⟩ := h
    refine wp_store_fair hs fun hfit hlater htime => ?_
    -- The port is as the last look saw it, so the store finds a cable.
    have ho := beq_eq_false_iff_ne.mp (StillSeen.eq (htime (.ok ())) hlook)
    have hrearm := hlater.rearm hrearm
    have hk := storeInventory_connects hp hw ho hrearm
    cases hn : s.kernel.portNow.knobs.negotiate with
    | false =>
      rw [hn] at hk
      refine ⟨_, _, hk, nofun, fun t h1 h2 h3 h4 => hE t ⟨h1, h2, ?_, ?_⟩⟩
      · rw [h2, h3]
        exact hfit.not_negotiated hp hc
      · rw [h4, stopwatch_append]
        rfl
    | true =>
      rw [hn] at hk
      refine ⟨_, _, hk, nofun, fun t h1 h2 h3 h4 => hQ t ⟨h1, h2, ?_, ?_⟩⟩
      · rw [h2, h3]
        exact hfit.negotiated hp ho hrearm
      · rw [h4, stopwatch_append]
        rfl
  · rw [if_neg hp] at h
    have hp : s.session.prepared = false := by simpa using hp
    refine wp_store_ok hs fun hfit _ htime => ?_
    have ho := beq_iff_eq.mp (StillSeen.eq (htime (.ok ())) h.1)
    exact ⟨_, storeInventory_begins hp ho, hfit.prepared hp, fun t ht _ => h.2 _ t ht⟩

lemma renewFair_sound {Q : Unit → World Bench → Prop} (hs : Well s)
    (h : storeFair s token (Q ()) E .renewSession) :
    wp Fair Unfailed (ask bench (.store .renewSession token)).1 Q E s := by
  obtain ⟨rfl, hr, hrefused, hQ⟩ := h
  by_cases hb : Attached s.session s.kernel.portNow
  · refine wp_store_error (f := .osError .ebusy "attached") hs nofun fun hfit hlater htime =>
      ⟨_, storeRenew_busy hr hb, fun t h1 h2 h3 h4 => ?_⟩
    by_cases hstart : s.service.phase.isStart = true
    · rw [if_pos hstart] at hrefused
      have hcalm : Calm t := by
        rw [Calm, h4, stopwatch_append]
        rfl
      refine hrefused t ⟨h1, h2, ?_, ?_, fun _ => hcalm⟩ hcalm
      · rw [h2, h3]
        exact hfit
      · rw [h3]
        exact hlater.rearm
    · -- The last look showed the port empty after a detach, and the store comes in time.
      rw [if_neg hstart] at hrefused
      have ho := beq_iff_eq.mp (StillSeen.eq ((htime (.ok ())).resolve_left hstart) hrefused.1)
      have hd := hrefused.2.trans_le hlater.disconnect
      rcases hb with hb | hb
      · exact absurd ho hb
      · exact absurd hb.2 (Nat.not_le_of_lt hd)
  · refine wp_store_ok hs fun hfit _ _ =>
      ⟨_, storeRenew_ok hr hb, hfit.renewed, fun t ht hlog => hQ t ht ?_⟩
    rw [hlog, renewed_append]
    rfl

lemma quiesceFair_sound {Q : Unit → World Bench → Prop} (st : QuiesceStage) {b : Bool}
    (hname : ∀ k : FakeKernel, k.store name token = storeQuiesce k st) (hs : Well s)
    (hr : s.session.removed) (hst : s.session.stages = st.before)
    (hb : (s.session.retired || st == .power) = b)
    (hQ : ∀ t, Stores s { s.session with stages := st.before ++ [st], retired := b } t → Q () t) :
    wp Fair Unfailed (ask bench (.store name token)).1 Q E s := by
  refine wp_store_ok hs fun hfit _ _ => ⟨_, (hname _).trans (storeQuiesce_ok hr hst hb),
    hfit.quiesced hr _ _ fun h => ?_, fun t ht _ => hQ t ht⟩
  rw [h, Bool.or_eq_false_iff] at hb
  exact hb.1

lemma idleFair_sound {Q : Unit → World Bench → Prop} (hs : Well s)
    (h : storeFair s token (Q ()) E .idleRetireOnce) :
    wp Fair Unfailed (ask bench (.store .idleRetireOnce token)).1 Q E s := by
  obtain ⟨rfl, hr, hp, hw, hc, hE, hQ⟩ := h
  refine wp_store_fair hs fun hfit _ _ => ?_
  rcases storeIdle_cases hfit hr hp hw hc with ⟨n, hk⟩ | hk | hk
  · refine ⟨_, _, hk, nofun, fun t h1 h2 h3 h4 => (hE t ⟨h1, h2, ?_, ?_⟩).1⟩
    · rw [h2, h3]
      exact hfit.refusals n
    · rw [h4, stopwatch_append]
      rfl
  · refine ⟨_, _, hk, nofun, fun t h1 h2 h3 h4 => (hE t ⟨h1, h2, ?_, ?_⟩).2⟩
    · rw [h2, h3]
      exact hfit
    · rw [h4, stopwatch_append]
      rfl
  · refine ⟨_, _, hk, nofun, fun t h1 h2 h3 h4 => hQ t ⟨h1, h2, ?_, ?_⟩⟩
    · rw [h2, h3]
      exact hfit.idled hp
    · rw [h4, stopwatch_append]
      rfl

lemma storeFair_sound {Q : Unit → World Bench → Prop}
    (hs : Well s) (h : storeFair s token (Q ()) E name) :
    wp Fair Unfailed (ask bench (.store name token)).1 Q E s := by
  cases name with
  | inventoryOnce => exact inventoryFair_sound hs h
  | endpointRemoveOnce =>
    obtain ⟨rfl, hc, hQ⟩ := h
    exact wp_store_ok hs fun hfit _ htime =>
      ⟨_, storeEndpoint_ok (htime (.ok ())) hc, hfit.endpoint hc, fun t ht _ => hQ t ht⟩
  | tunnelQuiesceOnce =>
    obtain ⟨hr, hst, hQ⟩ := h
    exact quiesceFair_sound .tunnel (fun _ => rfl) hs hr hst (Bool.or_false _) hQ
  | hostQuiesceOnce =>
    obtain ⟨hr, hst, hQ⟩ := h
    exact quiesceFair_sound .host (fun _ => rfl) hs hr hst (Bool.or_false _) hQ
  | powerQuiesceOnce =>
    obtain ⟨hr, hst, hQ⟩ := h
    exact quiesceFair_sound .power (fun _ => rfl) hs hr hst (Bool.or_true _) hQ
  | pulledRetireOnce =>
    obtain ⟨rfl, hc, hr, hlook, hQ⟩ := h
    refine wp_store_ok hs fun hfit _ htime => ?_
    have ho := beq_iff_eq.mp (StillSeen.eq (htime (.ok ())) hlook)
    exact ⟨_, storePulled_ok hfit hc hr ho, (hfit.pulled hc).mounts [], fun t ht _ => hQ t ht⟩
  | idleRetireOnce =>
    exact idleFair_sound hs h
  | renewSession => exact renewFair_sound hs h

lemma seen_asked (k : Bench) {e : Option Event} (he : e.bind Event.look = none) :
    seen (s.asked k e).log = seen s.log := by
  cases e with
  | none => exact congrArg seen (List.append_nil _)
  | some x =>
    have hx : x.look = none := he
    exact (seen_append _ _).trans (by rw [hx]; exact List.append_nil _)

lemma seen_session (k : Bench) (c : FakeSession) (p : Port) :
    seen (s.asked k (some (.read .sessionState (.ok (sessionFields c p))))).log =
      seen s.log ++ [p.orientation == 0] := by
  refine (seen_append _ _).trans ?_
  have ho : (sessionFields c p .orientation == some "0") = (p.orientation == 0) := by
    rw [Bool.eq_iff_iff]
    simp [sessionFields]
  simp [ho]

lemma fairVc_sound (hs : Well s) (h : fairVc s q Q E) : wp Fair Unfailed (ask bench q).1 Q E s := by
  cases q with
  | store name token => exact storeFair_sound hs h
  | read name =>
    refine wp_ask_fair hs fun hfit hlater r k hr htime => ?_
    cases hr
    refine ⟨rfl, ?_⟩
    cases name with
    | sessionState =>
      exact h _ (asked_of_fits hfit hlater rfl) (seen_session _ _ _) (stopwatch_asked _ _)
        (htime _ rfl)
    | _ => exact h _ (asked_of_fits hfit hlater rfl) (seen_asked _ rfl) (stopwatch_asked _ _)
  | disk =>
    refine wp_ask_fair hs fun hfit hlater r k hr _ => ?_
    cases hr
    exact ⟨rfl, h _ (asked_of_fits hfit hlater rfl) (seen_asked _ rfl) (stopwatch_asked _ _)⟩
  | clock =>
    refine wp_ask_fair hs fun hfit hlater r k hr htime => ?_
    cases hr
    exact ⟨rfl, h _ _ (asked_of_fits hfit hlater rfl) (seen_asked _ rfl) (stopwatch_asked _ _)
      (htime _ rfl)⟩
  | unmount | unmountDesktop =>
    refine wp_ask_fair hs fun hfit hlater r k hr _ => ?_
    cases hr
    refine ⟨rfl, h _ _ ?_ (seen_asked _ rfl) (stopwatch_asked _ _)⟩
    dsimp only
    split_ifs <;> exact asked_of_fits hfit hlater rfl
  | _ =>
    refine wp_ask_fair hs fun hfit hlater r k hr _ => ?_
    cases hr
    exact ⟨rfl, h _ _ (asked_of_fits hfit hlater rfl) (seen_asked _ rfl) (stopwatch_asked _ _)⟩

end Questions

instance {α : Type} (q : Ask α) : Vc Fair Unfailed (ask bench q) where
  vc Q E s := Well s ∧ fairVc s q Q E
  sound h := fairVc_sound h.1 h.2

attribute [local simp] snapshot sessionFields inventoryFields generalFields stageFields Fair
  Unfailed Calm

/-! ### The router -/

/-- Only a wait that is followed no further ends otherwise. -/
abbrev Endless {σ : Type} : σ → Fault → σ → Prop := fun _ f _ => f = .crash

instance (g : ℤ) : Vc Fair Unfailed (connection bench g) :=
  .ofSpec _ (fun s => Well s ∧ s.session.generation = g)
    (fun s c t => Asked s t ∧ stopwatch t.log = stopwatch s.log ∧
      (c = .ready → (seen t.log).getLast? = some false ∧ t.port.rearm = false ∧
        s.session.complete = false ∧ s.session.retired = false) ∧
      (c = .empty → (seen t.log).getLast? = some true ∧ s.session.retired = false) ∧
      (c = .disconnected → (seen t.log).getLast? = some true ∧ s.session.retired ∧
        s.session.initialEvent < t.port.disconnectEvent) ∧
      (s.session.complete → s.session.retired = false → c = .empty ∨ c = .connected))
    Endless fun s hs => by
      obtain ⟨⟨hrun, hfit⟩, hg⟩ := hs
      have herror (p : Port) (h : Fits s.session p) : p.knobs.error.repr = "0" := by
        rw [h.knobs.error]
        rfl
      unfold connection session detached
      refine Vc.sound ?_
      simp +contextual [asked_iff, well_iff, hrun, hfit, hg, herror, -IsEmpty.forall_iff]
      intro t _ _ _ _ _ _ _ _ _ u _ _ hu _ _ _ _ hrearm
      have harmed := hu.armed
      simp_all

instance : Vc Fair Unfailed (portEmpty bench) :=
  .ofSpec _ Well
    (fun s b t => Asked s t ∧ b = (t.port.orientation == 0) ∧ seen t.log = seen s.log ++ [b])
    Endless fun s hs => by
      obtain ⟨hrun, hfit⟩ := hs
      unfold portEmpty session
      refine Vc.sound ?_
      simp +contextual [asked_iff, well_iff, hrun, hfit]

/-- A pristine session was left behind by nobody. -/
instance : Vc Fair Unfailed (adopt bench) :=
  .ofSpec _ (fun s => Well s ∧ s.session.prepared = false)
    (fun s r t => Asked s t ∧ r = none ∧ (seen t.log).length = (seen s.log).length + 1)
    Endless fun s hs => by
      obtain ⟨⟨hrun, hfit⟩, hp⟩ := hs
      unfold adopt session
      refine Vc.sound ?_
      simp +contextual [asked_iff, well_iff, hrun, hfit, hp]

/-- The next session, if nobody has plugged in a cable. -/
instance (old : ℤ) : Vc Fair Unfailed (prepare bench old) :=
  .ofSpec _ (fun s => Well s ∧ s.session.prepared = false ∧ old < s.session.generation ∧
      (renewed s.log ∨ looksAgain s))
    (fun s g t => t.service = { s.service with failures := 0 } ∧ t.session.Waits g 0 ∧
      Fits t.session t.port ∧ Calm t) Endless fun s hs => by
      obtain ⟨⟨hrun, hfit⟩, hp, ho, hl⟩ := hs
      have hpristine := hfit.sane.pristine hp
      unfold prepare session
      refine Vc.sound ?_
      simp +contextual [asked_iff, stores_iff, well_iff, FakeSession.waits_iff, hrun, hfit, hp,
        ho, hl, hpristine]

instance (g : ℤ) : Vc Fair Unfailed (rearmed bench g) :=
  .ofSpec _ (fun s => Well s ∧ s.session.Waits g (s.service.failures + 1))
    (fun s b t => Asked s t ∧ stopwatch t.log = stopwatch s.log ∧ b) Endless fun s hs => by
      obtain ⟨⟨hrun, hfit⟩, hw⟩ := hs
      have hw := (FakeSession.waits_iff _ _ _).mp hw
      have herror (p : Port) (h : Fits s.session p) : p.knobs.error.repr = "0" := by
        rw [h.knobs.error]
        rfl
      unfold rearmed session
      refine Vc.sound ?_
      simp +contextual [asked_iff, well_iff, hrun, hfit, hw, herror]

/-- The connect command after a look that showed a cable. -/
instance (g : ℤ) : Vc Fair Unfailed (sendConnect bench g) :=
  .ofSpec _ (fun s => Well s ∧ s.session.Waits g s.service.failures ∧ s.port.rearm = false ∧
      (seen s.log).getLast? = some false)
    (fun s b t => Fits t.session t.port ∧ Calm t ∧
      if b then t.service = s.service ∧ t.session.HasDrive g (some "nvme1n1") ∧
        t.session.waiting = false
      else t.service = { s.service with failures := s.service.failures + 1 } ∧
        t.session.Waits g t.service.failures ∧ (stopwatch t.log).begun = (stopwatch s.log).begun)
    Endless fun s hs => by
      obtain ⟨⟨hrun, hfit⟩, hw, hrearm, hseen⟩ := hs
      have hn := hfit.sane.not_started hw.complete
      have hw := (FakeSession.waits_iff _ _ _).mp hw
      unfold sendConnect
      refine Vc.sound ?_
      simp +contextual [asked_iff, stores_iff, well_iff, FakeSession.waits_iff,
        FakeSession.hasDrive_iff, hrun, hfit, hw, hrearm, hseen, hn]

instance (deadline : ℚ) (n : ℕ) : Vc Fair Unfailed (awaitDisk bench deadline n) :=
  .ofSpec _ (fun s => Well s ∧ s.session.diskName.isSome) (fun s _ t => Asked s t) Endless
    fun s hs => by
      obtain ⟨⟨hrun, hfit⟩, hd⟩ := hs
      cases n with
      | zero => rfl
      | succ n =>
        let rest : Vc Fair Unfailed (awaitDisk bench deadline n) := .unreached _
        unfold awaitDisk
        refine Vc.sound ?_
        simp +contextual [asked_iff, well_iff, hrun, hfit, hd]

instance (n : ℕ) (g : ℤ) : Vc Fair Unfailed (routerConnect bench n g) :=
  .ofSpec _ (fun s => Well s ∧ s.session.Waits g s.service.failures ∧ s.port.rearm = false ∧
      (seen s.log).getLast? = some false)
    (fun s b t => Fits t.session t.port ∧ Calm t ∧
      if b then t.service = s.service ∧ t.session.HasDrive g (some "nvme1n1")
      else t.service = { s.service with failures := s.service.failures + 1 } ∧
        t.session.Waits g t.service.failures ∧ (stopwatch t.log).begun = (stopwatch s.log).begun)
    Endless fun s hs => by
      obtain ⟨⟨hrun, hfit⟩, hw⟩ := hs
      unfold routerConnect session
      refine Vc.sound ?_
      refine ⟨⟨⟨hrun, hfit⟩, hw⟩, ?_, fun _ _ h => h⟩
      rintro (_ | _) t ⟨ht, hcalm, h⟩
      · exact ⟨ht, hcalm, h⟩
      · obtain ⟨h1, hd, hwait⟩ := h
        rw [← h1] at hrun ⊢
        simp +contextual [asked_iff, well_iff, hrun, ht, hcalm.eq, hd, hd.generation, hd.complete,
          hd.name, hwait]

instance (g : ℤ) : Vc Fair Unfailed (requireRetired bench g) :=
  .ofSpec _ (fun s => Well s ∧ s.session.Gone g) (fun s _ t => Asked s t) Endless
    fun s hs => by
      obtain ⟨⟨hrun, hfit⟩, hg⟩ := hs
      have hg := (FakeSession.gone_iff _ _).mp hg
      unfold requireRetired session
      refine Vc.sound ?_
      simp +contextual [asked_iff, well_iff, hrun, hfit, hg]

/-- The endpoint of the session is removed, and these stages of the eject have run. -/
@[mk_iff]
structure FakeSession.Ejecting (c : FakeSession) (g : ℤ) (sts : List QuiesceStage) : Prop where
  generation : c.generation = g
  removed : c.removed
  stages : c.stages = sts
  name : c.diskName = none

instance : Vc Fair Unfailed (runEjectStage bench endpointStage) :=
  .ofSpec _ (fun s => Well s ∧ ∃ d, s.session.HasDrive s.service.generation d)
    (fun s _ t => t.service = s.service ∧ Fits t.session t.port ∧ Calm t ∧
      t.session.Ejecting s.service.generation []) Endless fun s hs => by
      obtain ⟨⟨hrun, hfit⟩, d, hd⟩ := hs
      have hd := (FakeSession.hasDrive_iff _ _ _).mp hd
      unfold runEjectStage
      refine Vc.sound ?_
      simp only [endpointStage, Vc.vc, fairVc, storeFair]
      simp +contextual [asked_iff, stores_iff, well_iff, FakeSession.ejecting_iff,
        EjectStage.confirmed, hrun, hfit, hd]

/-- The stage of the table that runs a stop. -/
def QuiesceStage.row : QuiesceStage → EjectStage
  | .tunnel => tunnelStage
  | .host => hostStage
  | .power => powerStage

lemma runEjectStage_fair (st : QuiesceStage) (hs : Well s)
    (he : s.session.Ejecting s.service.generation st.before) :
    wp Fair Unfailed (runEjectStage bench st.row).1
      (fun _ t => t.service = s.service ∧ Fits t.session t.port ∧ Calm t ∧
        t.session.Ejecting s.service.generation (st.before ++ [st]) ∧
        (st = .power → t.session.retired)) (fun f _ => f = .crash) s := by
  obtain ⟨hrun, hfit⟩ := hs
  have he := (FakeSession.ejecting_iff _ _ _).mp he
  cases st
  all_goals
    unfold runEjectStage
    refine Vc.sound ?_
    simp only [QuiesceStage.before] at he
    simp only [QuiesceStage.row, tunnelStage, hostStage, powerStage, Vc.vc, fairVc, storeFair]
    simp +contextual [asked_iff, stores_iff, well_iff, FakeSession.ejecting_iff,
      QuiesceStage.before, stopped, EjectStage.confirmed, hrun, hfit, he]

/-- An eject runs through, whatever the cable does. -/
instance (g : ℤ) : Vc Fair Unfailed (eject bench g) :=
  .ofSpec _ (fun s => Well s ∧ s.service.generation = g ∧ ∃ d, s.session.HasDrive g d)
    (fun s _ t => t.service = s.service ∧ t.session.Gone g ∧ Fits t.session t.port ∧ Calm t)
    Endless
    fun s hs => by
      obtain ⟨⟨hrun, hfit⟩, hg, hd⟩ := hs
      let row (st : QuiesceStage) : Vc Fair Unfailed (runEjectStage bench st.row) :=
        .ofSpec _ (fun s => Well s ∧ s.session.Ejecting s.service.generation st.before)
          (fun s _ t => t.service = s.service ∧ Fits t.session t.port ∧ Calm t ∧
            t.session.Ejecting s.service.generation (st.before ++ [st]) ∧
            (st = .power → t.session.retired)) Endless fun s hs => runEjectStage_fair st hs.1 hs.2
      let tunnel : Vc Fair Unfailed (runEjectStage bench tunnelStage) := row .tunnel
      let host : Vc Fair Unfailed (runEjectStage bench hostStage) := row .host
      let power : Vc Fair Unfailed (runEjectStage bench powerStage) := row .power
      unfold eject ejectTable runEjectStages runEjectStages runEjectStages runEjectStages
        runEjectStages
      refine Vc.sound ?_
      simp +contextual [tunnel, host, power, row, asked_iff, well_iff, FakeSession.ejecting_iff,
        FakeSession.gone_iff, QuiesceStage.before, hrun, hfit, hg, hd]

instance (g : ℤ) : Vc Fair Unfailed (pulledRetire bench g) :=
  .ofSpec _ (fun s => Well s ∧ (∃ d, s.session.HasDrive g d) ∧ (seen s.log).getLast? = some true)
    (fun s _ t => t.service = s.service ∧ t.session.Gone g ∧ Fits t.session t.port ∧ Calm t)
    Endless
    fun s hs => by
      obtain ⟨⟨hrun, hfit⟩, ⟨d, hd⟩, hseen⟩ := hs
      have hd := (FakeSession.hasDrive_iff _ _ _).mp hd
      unfold pulledRetire
      refine Vc.sound ?_
      simp +contextual [asked_iff, stores_iff, well_iff, FakeSession.gone_iff, hrun, hfit, hd,
        hseen]

/-- A waiting session is powered down, unless the kernel refuses that. -/
instance (g : ℤ) : Vc Fair Unfailed (idleRetire bench g) :=
  .ofSpec _ (fun s => Well s ∧ ∃ n, s.session.Waits g n)
    (fun s b t => t.service = s.service ∧ Fits t.session t.port ∧
      if b then t.session.Gone g ∧ t.session.idle ∧ Calm t
      else t.session = s.session ∧ stopwatch t.log = { stopwatch s.log with refused := true })
    Endless fun s hs => by
      obtain ⟨⟨hrun, hfit⟩, n, hw⟩ := hs
      have hw := (FakeSession.waits_iff _ _ _).mp hw
      have huntried := hfit.untried hw.2.2.2.2.1
      unfold idleRetire sendIdleRetire
      refine Vc.sound ?_
      simp +contextual [asked_iff, stores_iff, refuses_iff, well_iff, FakeSession.gone_iff, hrun,
        hfit, hw, huntried]
      intro t _ _ _ _ u _ _ hu _ _ _ _ hfail
      rw [hu.knobs.idleFail] at hfail
      cases hfail

/-! ### The poll -/

@[mk_iff]
structure Fresh (s : World Bench) : Prop where
  generation : s.service.generation = 0
  pristine : s.session.prepared = false
  idleRetired : s.service.idleRetired = false
  even : 2 ∣ (seen s.log).length
  attached : (seen s.log).getLast? ≠ some true

@[mk_iff]
structure Idle (s : World Bench) : Prop where
  gone : s.session.Gone s.service.generation
  idle : s.session.idle
  idleRetired : s.service.idleRetired

/-- What holds between operations. -/
@[mk_iff]
structure Steady (s : World Bench) : Prop where
  well : Well s
  agreement : Agreement s
  settled : s.service.phase ≠ .connecting ∧ s.service.phase ≠ .ejecting
  started : s.service.phase = .starting ∨ s.service.phase = .unplugToStart → Fresh s ∨ Idle s
  calm : Calm s

lemma Steady.of_waits (hwell : Well s)
    (hp : s.service.phase = .waiting ∨ s.service.phase = .replugRequired)
    (hw : s.session.Waits s.service.generation s.service.failures) (hc : Calm s) : Steady s := by
  rcases hp with hp | hp <;> simp [steady_iff, agreement_iff, hwell, hp, hw, hc.eq]

lemma Steady.of_asleep (hp : s.service.phase = .asleep) (hf : Fits s.session s.port)
    (hg : s.session.Gone s.service.generation) (hi : s.session.idle)
    (hr : s.service.idleRetired) (hc : (stopwatch s.log).refused = false) : Steady s :=
  ⟨⟨by rw [hp]; nofun, hf⟩, by simp [agreement_iff, hp, hg, hi, hr], by simp [hp], by simp [hp], hc⟩

instance (p : Phase) (b : Bool) : Vc Fair Unfailed (publish bench p b) :=
  .ofSpec _ (fun s => Well s ∧ p ≠ .failed)
    (fun s _ t => t.service = { s.service with phase := p } ∧ t.session = s.session ∧
      Fits t.session t.port ∧ (s.port.rearm = false → t.port.rearm = false) ∧
      seen t.log = seen s.log ∧ stopwatch t.log = stopwatch s.log) Endless fun s hs => by
      obtain ⟨⟨hrun, hfit⟩, hp⟩ := hs
      unfold publish
      refine Vc.sound ?_
      simp +contextual [asked_iff, well_iff, hfit, hp]

/-- A renewal that the kernel refuses leaves the session alone. -/
instance (g : ℤ) : Vc Fair Unfailed (renewOrUnplug bench g) :=
  .ofSpec _ (fun s => Well s ∧ s.session.Gone g ∧ s.service.phase.isStart)
    (fun s b t => Fits t.session t.port ∧ Calm t ∧
      if b then t.service = s.service ∧ t.session.prepared = false ∧ g < t.session.generation ∧
        renewed t.log
      else t.service = { s.service with phase := .unplugToStart } ∧ t.session = s.session)
    Endless fun s hs => by
      obtain ⟨⟨hrun, hfit⟩, ⟨hg, hr⟩, hp⟩ := hs
      unfold renewOrUnplug renew
      refine Vc.sound ?_
      simp +contextual [asked_iff, stores_iff, well_iff, hrun, hfit, ← hg, hr, hp]

instance (g : ℤ) : Vc Fair Unfailed (beginWaiting bench g) :=
  .ofSpec _ (fun s => Well s ∧ Calm s ∧ s.session.Waits g s.service.failures)
    (fun _ _ t => Steady t) Endless fun s hs => by
      obtain ⟨⟨hrun, hfit⟩, hcalm, hw⟩ := hs
      unfold beginWaiting
      refine Vc.sound ?_
      simp +contextual [steady_iff, agreement_iff, well_iff, hrun, hfit, hw, hcalm.eq]

/-- The port was seen empty. -/
instance : Vc Fair Unfailed (freshSession bench) :=
  .ofSpec _ (fun s => Well s ∧
      (looksAgain s ∧ s.session.prepared = false ∧ s.service.idleRetired = false ∨
        Idle s ∧ s.service.phase.isStart))
    (fun _ _ t => Steady t) Endless fun s hs => by
      obtain ⟨⟨hrun, hfit⟩, ⟨hl, hp, hi⟩ | ⟨⟨hg, hi, hr⟩, hp⟩⟩ := hs
      · have hpos := hfit.sane.generation
        unfold freshSession
        refine Vc.sound ?_
        simp +contextual [well_iff, hrun, hfit, hl, hp, hi, hl.1, hpos]
      · unfold freshSession
        refine Vc.sound ?_
        simp +contextual [steady_iff, agreement_iff, well_iff, idle_iff, hrun, hfit, hg, hi, hr, hp]

/-- The service has looked once since the poll began, or it has powered its session down. -/
instance (x : Option (Left × ℤ)) : Vc Fair Unfailed (stepStartWith bench x) :=
  .ofSpec _ (fun s => Well s ∧ Calm s ∧ x = none ∧ s.service.phase.isStart ∧
      (s.service.generation = 0 ∧ s.session.prepared = false ∧ s.service.idleRetired = false ∧
        ¬2 ∣ (seen s.log).length ∨ Idle s))
    (fun _ _ t => Steady t) Endless fun s hs => by
      obtain ⟨⟨hrun, hfit⟩, hcalm, rfl, hstart, h⟩ := hs
      unfold stepStartWith
      refine Vc.sound ?_
      rcases h with ⟨hg, hp, hi, ho⟩ | h
      · have he : 2 ∣ (seen s.log).length + 1 := by omega
        simp +contextual [asked_iff, well_iff, steady_iff, agreement_iff, fresh_iff, looksAgain,
          hrun, hfit, hg, hp, hi, he, hcalm.eq]
      · obtain ⟨hg, hi, hr⟩ := h
        simp +contextual [asked_iff, well_iff, steady_iff, agreement_iff, idle_iff,
          hrun, hfit, hg, hi, hr, hstart, hcalm.eq]

instance : Vc Fair Unfailed (stepStart bench) :=
  .ofSpec _ (fun s => Well s ∧ Calm s ∧ (Fresh s ∨ Idle s) ∧ s.service.phase.isStart)
    (fun _ _ t => Steady t) Endless fun s hs => by
      obtain ⟨⟨hrun, hfit⟩, hcalm, ⟨hg, hp, hi, he, ha⟩ | ⟨hg, hi, hr⟩, hstart⟩ := hs
      · have ho : ¬2 ∣ (seen s.log).length + 1 := by omega
        unfold stepStart
        refine Vc.sound ?_
        simp +contextual [asked_iff, well_iff, hrun, hfit, hg, hp, hi, ho, hstart, hcalm.eq]
      · have hne := hfit.sane.ne_zero hg.generation
        unfold stepStart
        refine Vc.sound ?_
        simp +contextual [well_iff, idle_iff, hrun, hfit, hg, hi, hr, hne, hstart, hcalm.eq]

/-- A drive that did not connect has taken no time. -/
instance (n : ℕ) : Vc Fair Unfailed (connect bench n) :=
  .ofSpec _ (fun s => Well s ∧ s.session.Waits s.service.generation s.service.failures ∧
      s.port.rearm = false ∧ (seen s.log).getLast? = some false)
    (fun s _ t => Steady t ∧ (t.service.phase = .waiting ∨ t.service.phase = .replugRequired →
      (stopwatch t.log).begun = (stopwatch s.log).begun)) Endless fun s hs => by
      obtain ⟨⟨hrun, hfit⟩, hw, hr, hl⟩ := hs
      unfold connect
      refine Vc.sound ?_
      simp +contextual [asked_iff, steady_iff, agreement_iff, well_iff, FakeSession.hasDrive_iff,
        hrun, hfit, hw, hr, hl, -IsEmpty.forall_iff]

instance (p : Phase) : Vc Fair Unfailed (ejectTo bench p) :=
  .ofSpec _ (fun s => Well s ∧ (∃ d, s.session.HasDrive s.service.generation d) ∧ p ≠ .failed)
    (fun s _ t => t.service = { s.service with phase := p, disk := none } ∧
      t.session.Gone s.service.generation ∧ Fits t.session t.port ∧ Calm t) Endless fun s hs => by
      obtain ⟨⟨hrun, hfit⟩, hd, hp⟩ := hs
      unfold ejectTo
      refine Vc.sound ?_
      simp +contextual [well_iff, hrun, hfit, hd, hp]

instance : Vc Fair Unfailed (stepPulled bench) :=
  .ofSpec _ (fun s => Well s ∧ (∃ d, s.session.HasDrive s.service.generation d) ∧
      (seen s.log).getLast? = some true)
    (fun _ _ t => Steady t) Endless fun s hs => by
      obtain ⟨⟨hrun, hfit⟩, hd, hl⟩ := hs
      unfold stepPulled
      refine Vc.sound ?_
      simp +contextual [steady_iff, agreement_iff, well_iff, hrun, hfit, hd, hl]

instance : Vc Fair Unfailed (stepRenew bench) :=
  .ofSpec _ (fun s => Well s ∧ s.session.Gone s.service.generation ∧
      s.service.phase.isStart = false ∧ (seen s.log).getLast? = some true ∧
      s.session.initialEvent < s.port.disconnectEvent)
    (fun _ _ t => Steady t) Endless fun s hs => by
      obtain ⟨⟨hrun, hfit⟩, ⟨hg, hr⟩, hp, hl, hd⟩ := hs
      unfold stepRenew renew
      refine Vc.sound ?_
      simp +contextual [stores_iff, steady_iff, agreement_iff, well_iff, hrun, hfit, ← hg, hr, hp,
        hl, hd]

instance (c : Connection) : Vc Fair Unfailed (stepConnected bench c) :=
  .ofSpec _ (fun s => Steady s ∧ (s.service.phase = .connected ∨ s.service.phase = .releasing) ∧
      c = .connected)
    (fun _ _ t => Steady t) Endless fun s hs => by
      obtain ⟨⟨⟨hrun, hfit⟩, ha, -, -, hcalm⟩, hp, rfl⟩ := hs
      have hd := ha.drive hp
      have hd' : ∃ d, s.session.HasDrive s.service.generation d := ⟨_, hd⟩
      unfold stepConnected
      refine Vc.sound ?_
      rcases hp with hp | hp <;>
        simp +contextual [asked_iff, steady_iff, agreement_iff, well_iff, hfit, hd, hd', hp,
          hcalm.eq]

instance (n : ℕ) : Vc Fair Unfailed (stepSession bench n) :=
  .ofSpec _ (fun s => Steady s ∧ s.service.phase.isStart = false) (fun _ _ t => Steady t) Endless
    fun s hs => by
      obtain ⟨⟨⟨hrun, hfit⟩, ⟨hw, hd, hg, -⟩, hset, -, hcalm⟩, hp⟩ := hs
      unfold stepSession
      refine Vc.sound ?_
      cases hphase : s.service.phase with
      | starting | unplugToStart | asleep => rw [hphase] at hp; cases hp
      | connecting => exact absurd hphase hset.1
      | ejecting => exact absurd hphase hset.2
      | failed => exact absurd hphase hrun
      | waiting =>
        have hw := hw (.inl hphase)
        simp +contextual [asked_iff, well_iff, steady_iff, agreement_iff, hfit, hphase, hw,
          hw.generation, hcalm.eq, -IsEmpty.forall_iff]
      | replugRequired =>
        have hw := hw (.inr hphase)
        simp +contextual [asked_iff, well_iff, steady_iff, agreement_iff, hfit, hphase, hw,
          hw.generation, hcalm.eq, -IsEmpty.forall_iff]
      | connected | releasing =>
        have hd := hd (by simp [hphase])
        have hd' : ∃ d, s.session.HasDrive s.service.generation d := ⟨_, hd⟩
        simp +contextual [asked_iff, well_iff, steady_iff, agreement_iff, hfit, hphase, hd, hd',
          hd.generation, hd.complete, hd.retired, hcalm.eq, -IsEmpty.forall_iff]
        exact fun c t _ _ _ _ _ _ _ _ _ h hne => h.resolve_left hne
      | safeToUnplug | ejectedForSleep | pulled | replugAfterPull =>
        have hg := hg (by simp [hphase])
        simp +contextual [asked_iff, well_iff, steady_iff, agreement_iff, hfit, hphase, hg,
          hg.generation, hg.retired, hcalm.eq, Phase.isStart, -IsEmpty.forall_iff]

instance (f : Fault) : Vc Fair Unfailed (fail bench f) := .unreached _

instance (n : ℕ) : Vc Fair Unfailed (stepAwake bench n) :=
  .ofSpec _ Steady (fun _ _ t => Steady t) Endless fun s hs => by
      unfold stepAwake
      refine Vc.sound ?_
      have hidle (h : s.service.phase = .asleep) : Idle s := by
        obtain ⟨hg, hi, hr⟩ := hs.agreement.asleep h
        exact ⟨hg, hi, hr⟩
      have hwell := hs.well
      have hstarted := hs.started
      have hcalm := hs.calm.eq
      cases hphase : s.service.phase <;>
        simp_all [Phase.isStart]

lemma Steady.sleeping {s t : World Bench} (hs : Steady s) (hc : t.session = s.session)
    (hfit : Fits t.session t.port) (hl : seen t.log = seen s.log) (hcalm : Calm t) (b : Bool)
    (x : ℚ) (r : Option (String × ℚ))
    (h : t.service = { s.service with sleeping := b, sleepStarted := x, refusal := r }) :
    Steady t := by
  obtain ⟨⟨hrun, -⟩, ⟨hw, hd, hg, ha⟩, hset, hst, -⟩ := hs
  simp only [fresh_iff, idle_iff] at hst
  refine ⟨⟨?_, hfit⟩, ?_, ?_, ?_, hcalm⟩
  · rwa [h]
  · rw [agreement_iff, h, hc]
    exact ⟨hw, hd, hg, ha⟩
  · rwa [h]
  · rw [fresh_iff, idle_iff, h, hc, hl]
    exact hst

instance (n : ℕ) : Vc Fair Unfailed (step bench n) :=
  .ofSpec _ Steady (fun _ _ t => Steady t) Endless fun s hs => by
      have hrun := hs.well.running
      unfold step pollOnce
      refine Vc.sound ?_
      simp +contextual [asked_iff, Fault.handled, hs, hs.well, hrun]
      intro _ now t h1 h2 h3 _ _ h4 h5 _
      have hfit : Fits t.session t.port := h2 ▸ h3
      have hcalm : Calm t := by simp [h5]
      split_ifs
      · exact hs.sleeping h2 hfit h4 hcalm _ _ _ h1
      · exact hs.sleeping h2 hfit h4 hcalm false s.service.sleepStarted s.service.refusal rfl

/-! ### Sleep -/

/-- The service has a drive, and no eject of it has begun. -/
@[mk_iff]
structure Driving (s : World Bench) : Prop where
  well : Well s
  phase : s.service.phase = .connected ∨ s.service.phase = .releasing
  drive : s.session.HasDrive s.service.generation s.service.disk
  calm : Calm s

lemma Driving.steady (h : Driving s) : Steady s := by
  obtain ⟨hwell, hp, hd, hcalm⟩ := h
  rcases hp with hp | hp <;> simp [steady_iff, agreement_iff, hwell, hp, hd, hcalm.eq]

lemma Steady.driving (h : Steady s)
    (hp : s.service.phase = .connected ∨ s.service.phase = .releasing) : Driving s :=
  ⟨h.well, hp, h.agreement.drive hp, h.calm⟩

lemma Driving.of_asked {s t : World Bench} (hs : Driving s) (h : Asked s t) : Driving t := by
  rw [driving_iff, well_iff, h.service]
  refine ⟨⟨hs.well.running, h.fits⟩, hs.phase, ?_, h.calm hs.calm⟩
  rw [h.session]
  exact hs.drive

/-- `Busy` leaves a steady service; else only a wait that is followed no further ends it. -/
def Refused (e : Exn) (t : World Bench) : Prop :=
  match e with
  | .busy _ => Steady t
  | .fault f => f = .crash

lemma unmountAll_driving (ds : List String) (hs : Driving s) :
    wp Fair Unfailed (unmountAll bench ds).1 (fun _ t => Driving t) Refused s := by
  induction ds generalizing s with
  | nil => exact hs
  | cons d ds ih =>
    let rest : Vc Fair Unfailed (unmountAll bench ds) :=
      .ofSpec _ Driving (fun _ _ t => Driving t) (fun _ => Refused) fun s hs => ih hs
    have hstay (t : World Bench) (h : Asked s t) := hs.of_asked h
    unfold unmountAll
    refine Vc.sound ?_
    simp +contextual [rest, Refused, hs.well, hstay, Driving.steady]

instance (ds : List String) : Vc Fair Unfailed (unmountAll bench ds) :=
  .ofSpec _ Driving (fun _ _ t => Driving t) (fun _ => Refused) fun _ hs => unmountAll_driving ds hs

lemma unmountDesktopAll_driving (ps : List String) (hs : Driving s) :
    wp Fair Unfailed (unmountDesktopAll bench ps).1 (fun _ t => Driving t) (fun f _ => f = .crash)
      s := by
  induction ps generalizing s with
  | nil => exact hs
  | cons p ps ih =>
    let rest : Vc Fair Unfailed (unmountDesktopAll bench ps) :=
      .ofSpec _ Driving (fun _ _ t => Driving t) Endless fun s hs => ih hs
    have hstay (t : World Bench) (h : Asked s t) := hs.of_asked h
    unfold unmountDesktopAll
    refine Vc.sound ?_
    simp +contextual [rest, hs.well, hstay]

instance (ps : List String) : Vc Fair Unfailed (unmountDesktopAll bench ps) :=
  .ofSpec _ Driving (fun _ _ t => Driving t) Endless fun _ hs => unmountDesktopAll_driving ps hs

lemma settleForSleep_driving (deadline : ℚ) (n k : ℕ) (hs : Driving s) :
    wp Fair Unfailed (settleForSleep bench deadline n k).1 (fun _ t => Driving t) Refused s := by
  induction n generalizing k s with
  | zero => rfl
  | succ n ih =>
    let rest (k : ℕ) : Vc Fair Unfailed (settleForSleep bench deadline n k) :=
      .ofSpec _ Driving (fun _ _ t => Driving t) (fun _ => Refused) fun s hs => ih k hs
    obtain ⟨⟨hrun, hfit⟩, hp, hd, hcalm⟩ := hs
    unfold settleForSleep
    refine Vc.sound ?_
    rcases hp with hp | hp <;> simp +contextual [rest, Refused, asked_iff, well_iff, driving_iff,
      steady_iff, agreement_iff, hfit, hp, hd, hcalm.eq]

instance (deadline : ℚ) (n k : ℕ) : Vc Fair Unfailed (settleForSleep bench deadline n k) :=
  .ofSpec _ Driving (fun _ _ t => Driving t) (fun _ => Refused) fun _ hs =>
    settleForSleep_driving deadline n k hs

instance (n : ℕ) (deadline : ℚ) (desktop : Bool) :
    Vc Fair Unfailed (releaseForSleep bench n deadline desktop) :=
  .ofSpec _ Driving (fun _ _ t => Steady t) (fun _ => Refused) fun s hs => by
    have hstay (t : World Bench) (h : Asked s t) := hs.of_asked h
    have hdrive (t : World Bench) (h : Driving t) :
        ∃ d, t.session.HasDrive t.service.generation d := ⟨_, h.drive⟩
    have hwell (t : World Bench) (h : Driving t) : ¬t.service.phase = .failed ∧
        Fits t.session t.port := ⟨h.well.running, h.well.fits⟩
    unfold releaseForSleep
    refine Vc.sound ?_
    simp +contextual [Refused, steady_iff, agreement_iff, well_iff, hs, hwell, hstay, hdrive]

/-- A refused power-down has time to be tried again. -/
instance (deadline : ℚ) : Vc Fair Unfailed (pauseForSleep bench deadline) :=
  .ofSpec _ (fun s => Well s ∧ stopwatch s.log = ⟨some (deadline - sleepBudget), true⟩)
    (fun s _ t => Asked s t ∧ seen t.log = seen s.log ∧
      stopwatch t.log = ⟨some (deadline - sleepBudget), false⟩) Endless fun s hs => by
    obtain ⟨⟨hrun, hfit⟩, hwatch⟩ := hs
    unfold pauseForSleep
    refine Vc.sound ?_
    simp +contextual [asked_iff, well_iff, Stopwatch.Within, Stopwatch.next, hrun, hfit, hwatch]

/-- The request began a budget before its deadline, which matters while there is no drive. -/
def InTime (deadline : ℚ) (s : World Bench) : Prop :=
  s.service.phase = .waiting ∨ s.service.phase = .replugRequired →
    (stopwatch s.log).begun = some (deadline - sleepBudget)

instance (n : ℕ) (deadline : ℚ) : Vc Fair Unfailed (powerDown bench n deadline) :=
  .ofSpec _ (fun s => Steady s ∧ InTime deadline s ∧
      (s.service.phase = .waiting ∨ s.service.phase = .replugRequired))
    (fun _ b t => Steady t ∧ (b = false → InTime deadline t)) Endless fun s hs => by
    obtain ⟨⟨⟨hrun, hfit⟩, ha, -, -, hcalm⟩, htime, hp⟩ := hs
    have hw := ha.waits hp
    have hw' : ∃ n, s.session.Waits s.service.generation n := ⟨_, hw⟩
    have hbegun := htime hp
    have hpaused (t : World Bench) (hsv : t.service = s.service) (hss : t.session = s.session)
        (hf : Fits t.session t.port)
        (hb : stopwatch t.log = ⟨some (deadline - sleepBudget), false⟩) :
        Steady t ∧ InTime deadline t :=
      ⟨.of_waits ⟨hsv ▸ hrun, hf⟩ (hsv ▸ hp) (by rw [hsv, hss]; exact hw) (by rw [Calm, hb]),
        fun _ => by rw [hb]⟩
    unfold powerDown
    refine Vc.sound ?_
    rcases hp with hp | hp <;>
      simp +contextual [asked_iff, well_iff, InTime, hpaused, Steady.of_asleep, hp, hfit, hw, hw',
        hw.generation, hbegun, -IsEmpty.forall_iff]

lemma quietForSleep_steady (n : ℕ) (deadline : ℚ) (desktop : Bool) (m : ℕ)
    (hs : Steady s) (htime : InTime deadline s) :
    wp Fair Unfailed (quietForSleep bench n deadline desktop m).1 (fun _ t => Steady t) Refused
      s := by
  induction m generalizing s with
  | zero => rfl
  | succ m ih =>
    let rest : Vc Fair Unfailed (quietForSleep bench n deadline desktop m) :=
      .ofSpec _ (fun s => Steady s ∧ InTime deadline s) (fun _ _ t => Steady t) (fun _ => Refused)
        fun s hs => ih hs.1 hs.2
    have hdriving := hs.driving
    have hset := hs.settled
    have hrun := hs.well.running
    unfold quietForSleep
    refine Vc.sound ?_
    -- One case per phase: the quiet ones are done, the transitional ones excluded.
    cases hphase : s.service.phase <;>
      simp_all [rest, Phase.isQuiet, Refused]

instance (n : ℕ) (deadline : ℚ) (desktop : Bool) (m : ℕ) :
    Vc Fair Unfailed (quietForSleep bench n deadline desktop m) :=
  .ofSpec _ (fun s => Steady s ∧ InTime deadline s) (fun _ _ t => Steady t) (fun _ => Refused)
    fun _ hs => quietForSleep_steady n deadline desktop m hs.1 hs.2

instance (n : ℕ) (desktop : Bool) : Vc Fair Unfailed (sleepPre bench n desktop) :=
  .ofSpec _ Steady (fun _ _ t => Steady t) (fun _ => Refused) fun s hs => by
    unfold sleepPre
    refine Vc.sound ?_
    simp +contextual [asked_iff, Refused, hs.well]
    intro now t h1 h2 h3 _ _ h4 h5 _
    have hcalm : Calm t := by simp [h5]
    refine ⟨⟨hs.sleeping h2 (h2 ▸ h3) h4 hcalm _ _ _ h1, fun _ => ?_⟩, fun u hu => ?_⟩
    · simp [h5, Stopwatch.next, hs.calm.eq]
    · have hrun := hu.well.running
      refine ⟨hrun, ⟨hrun, hu.well.fits⟩, fun now v h1 h2 h3 _ _ h4 h5 _ => ⟨hrun, ?_⟩⟩
      have hcalm : Calm v := by simp [h5]
      exact hu.sleeping h2 (h2 ▸ h3) h4 hcalm true now u.service.refusal rfl

lemma Steady.of_asked {s t : World Bench} (hs : Steady s) (h : Asked s t)
    (hl : seen t.log = seen s.log) : Steady t :=
  hs.sleeping h.session h.fits hl (h.calm hs.calm) _ _ _ h.service

instance (x : Option (String × ℚ)) : Vc Fair Unfailed (refusedSince bench x) :=
  .ofSpec _ Steady (fun _ _ t => Steady t) Endless fun s hs => by
    have hstay (t : World Bench) (h : Asked s t) := hs.of_asked h
    cases x <;> unfold refusedSince <;> refine Vc.sound ?_ <;>
      simp +contextual [hs, hs.well, hstay]

instance (n : ℕ) (desktop : Bool) (x : Option String) :
    Vc Fair Unfailed (sleepPreUnless bench n desktop x) :=
  .ofSpec _ Steady (fun _ _ t => Steady t) (fun _ => Refused) fun s hs => by
    cases x <;> unfold sleepPreUnless sleepOk <;> refine Vc.sound ?_ <;> simp +contextual [hs]

instance (f : Fault) : Vc Fair Unfailed (failAnswer bench f) := .unreached _

instance (desktop : Bool) (message : String) :
    Vc Fair Unfailed (refuse bench desktop message) :=
  .ofSpec _ Steady (fun _ _ t => Steady t) Endless fun s hs => by
    have hstay (t : World Bench) (h : Asked s t) := hs.of_asked h
    unfold refuse keepRefusal
    refine Vc.sound ?_
    cases desktop with
    | false => simp +contextual [hs.well, hstay]
    | true =>
      simp +contextual [asked_iff, hs.well]
      intro now t _ h2 h3 _ _ _ h5 _
      have hrun := hs.well.running
      refine ⟨hrun, ⟨hrun, h2 ▸ h3⟩, fun u h1 h2 h3 _ _ h4 h6 => ?_⟩
      have hcalm : Calm u := by simp [h6]
      exact hs.sleeping h2 (h2 ▸ h3) h4 hcalm _ _ (some (message, now)) h1

instance (n : ℕ) (action : SleepAction) (desktop : Bool) :
    Vc Fair Unfailed (sleepRequest bench n action desktop) :=
  .ofSpec _ Steady (fun _ _ t => Steady t) (fun _ e _ => e = .fault .crash) fun s hs => by
    cases action with
    | unknown => exact hs
    | post =>
      unfold sleepRequest sleepPost sleepOk
      refine Vc.sound ?_
      simp [hs.well.running]
      exact hs.sleeping rfl hs.well.fits rfl hs.calm _ _ none rfl
    | pre =>
      have hanswer : ∀ (e : Exn) (t : World Bench), Refused e t →
          match e with
          | .busy _ => Steady t
          | .fault f => f.handled = false ∧ f = .crash := by
        intro e t h
        cases e with
        | busy m => exact h
        | fault f =>
          obtain rfl : f = .crash := h
          exact ⟨rfl, rfl⟩
      unfold sleepRequest refusedLately
      refine Vc.sound ?_
      simp +contextual [hs]
      split_ifs
      · exact hanswer
      · exact ⟨fun _ _ => hanswer, fun _ => rfl⟩

/-! ### Runs -/

instance : Vc Fair Unfailed (ejectRequest bench) :=
  .ofSpec _ Steady (fun _ _ t => Steady t) Endless fun s hs => by
    have hstay (t : World Bench) (h : Asked s t) := hs.of_asked h
    unfold ejectRequest ejectNow
    refine Vc.sound ?_
    simp +contextual [hs, hs.well]
    intro hp points t ht hl _
    have hd := (hs.driving hp).of_asked ht
    split_ifs
    · refine ⟨hd.well, fun u hu hl' _ => (hstay t ht hl).of_asked hu (hl'.trans hl.symm),
        fun u hu _ _ => ?_⟩
      have hd := hd.of_asked hu
      exact ⟨⟨hd.well, _, hd.drive⟩, fun v h1 h2 h3 h4 => by
        simp [steady_iff, agreement_iff, well_iff, h1, h2, h3, h4]⟩
    · exact hstay t ht hl

instance (n : ℕ) (preparing : Bool) : Vc Fair Unfailed (answerAnnouncement bench n preparing) :=
  .ofSpec _ Steady (fun _ _ t => Steady t) (fun _ e _ => e = .fault .crash) fun s hs => by
    have hwell (t : World Bench) (h : Steady t) := h.well
    unfold answerAnnouncement
    refine Vc.sound ?_
    simp +contextual [hs, hwell]
    exact fun t ht u hu hl _ => ht.of_asked hu hl

lemma op_steady (n : ℕ) (op : Op) (hs : Steady s) :
    wp Fair Unfailed (op.run bench n).1 (fun _ t => Steady t) (fun e _ => e = .fault .crash) s := by
  cases op with
  | poll =>
    unfold Op.run
    refine Vc.sound ?_
    simp [hs]
  | eject =>
    unfold Op.run
    refine Vc.sound ?_
    simp [hs]
  | sleep action =>
    unfold Op.run answerSleep
    refine Vc.sound ?_
    simp [hs]
  | announce values =>
    unfold Op.run answerLogind
    refine Vc.sound ?_
    simp +contextual [hs]

lemma serveOps_steady (n : ℕ) (ops : List Op) (hs : Steady s) :
    wp Fair Unfailed (serveOps bench n ops).1 (fun _ t => Steady t) (fun e _ => e = .fault .crash)
      s := by
  induction ops generalizing s with
  | nil => exact hs
  | cons op ops ih =>
    -- One operation keeps the service steady; the rest follows by induction.
    let run : Vc Fair Unfailed (op.run bench n) :=
      .ofSpec _ Steady (fun _ _ t => Steady t) (fun _ e _ => e = .fault .crash)
        fun s hs => op_steady n op hs
    let rest : Vc Fair Unfailed (serveOps bench n ops) :=
      .ofSpec _ Steady (fun _ _ t => Steady t) (fun _ e _ => e = .fault .crash) fun s hs => ih hs
    have hb : Steady { s with op := op } := hs.sleeping rfl hs.well.fits rfl hs.calm _ _ _ rfl
    have hrun (t : World Bench) (h : Steady t) := h.well.running
    unfold serveOps
    refine Vc.sound ?_
    simp +contextual [run, rest, hb, hrun, hs.well.running]

lemma fits_fresh : Fits {} {} :=
  ⟨sane_fresh, ⟨rfl, rfl, rfl⟩, le_rfl, le_rfl, nofun, nofun, fun _ => rfl⟩

lemma life_steady (n : ℕ) (ops : List Op) (hs : Fits s.session s.port)
    (hp : s.session.prepared = false) (hl : seen s.log = []) (hcalm : Calm s) :
    wp Fair Unfailed (life bench n ops).1 (fun _ t => Steady t) (fun e _ => e = .fault .crash)
      s := by
  let rest : Vc Fair Unfailed (serveOps bench n ops) :=
    .ofSpec _ Steady (fun _ _ t => Steady t) (fun _ e _ => e = .fault .crash)
      fun s hs => serveOps_steady n ops hs
  unfold life start
  refine Vc.sound ?_
  simp +contextual [rest, asked_iff, well_iff, steady_iff, agreement_iff, fresh_iff, hs, hp, hl,
    hcalm.eq]

/-- **The cable alone never stops the service**: on a fresh kernel with an empty port it goes on
for as long as each of its questions comes in time. -/
theorem life_unfailed (n : ℕ) (ops : List Op) (ts : List Tick) :
    let s : World Bench := { kernel := ⟨{}, ts⟩ }
    Follow Fair Unfailed s ((life bench n ops).1 s).trace fun _ => True := by
  intro s
  have h := life_steady n ops (s := s) fits_fresh rfl rfl rfl
  exact Follow.mono (fun _ _ _ h => h) (fun _ _ _ h => h) (fun _ _ => trivial) h

def plugAndPull : List Tick :=
  List.replicate 9 ({} : Tick) ++ [{ acts := [.plug] }] ++ List.replicate 10 ({} : Tick) ++
    [{ acts := [.unplug] }] ++ List.replicate 7 ({} : Tick)

-- The condition is met by a run through all of a session's life, with a power-down that is
-- refused once.
example :
    let ts := plugAndPull ++ [{ acts := [.turn { idleRefusals := 1 }] }]
    let s : World Bench := { kernel := ⟨{}, ts⟩ }
    let r := (life bench 3 [.poll, .poll, .poll, .poll, .sleep .pre]).1 s
    Along Fair s r.trace ∧ (final s r.trace).service.phase = .asleep ∧
      (final s r.trace).kernel.fake.port.knobs.idleRefusals = 0 := by
  decide +kernel

-- A power-down that is refused until the time is over stops the service.
example :
    let ts := plugAndPull ++ [{ acts := [.turn { commandPending := true }] }] ++
      List.replicate 5 ({} : Tick) ++ List.replicate 5 { now := sleepBudget }
    let s : World Bench := { kernel := ⟨{}, ts⟩ }
    let r := (life bench 3 [.poll, .poll, .poll, .poll, .sleep .pre]).1 s
    (final s r.trace).service.error = some "USB4 did not power down in time for sleep" := by
  decide +kernel

@[simp] def Act.isCable : Act → Bool
  | .plug | .unplug => true
  | _ => false

/-- The drive comes back between the look that shows it gone and the renewal of the session. -/
theorem life_fails_in_race :
    let ts := plugAndPull ++ [{ acts := [.plug] }]
    let s : World Bench := { kernel := ⟨{}, ts⟩ }
    let r := (life bench 3 [.poll, .poll, .poll, .poll]).1 s
    (∀ tick ∈ ts, tick.killed = false ∧ ∀ a ∈ tick.acts, a.isCable) ∧
      (final s r.trace).service.phase = .failed ∧
      (final s r.trace).service.error = some "[Errno 16] attached" := by
  decide +kernel

end YogaUsb4.Daemon
