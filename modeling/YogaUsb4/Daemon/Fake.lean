import YogaUsb4.Daemon.Serve

/-!
`FakeKernel`, the kernel of the service's tests: the managed stages as the driver implements
them, with the cable, the mounts and the faults that a test sets. On a bench these may change
before every answer, the clock may show any time, and the service may be killed.
-/

namespace YogaUsb4.Daemon

open HostState

/-- The stages of an eject after the removal of the endpoint. -/
inductive QuiesceStage
  | tunnel | host | power
  deriving DecidableEq, Repr

/-- The fields of `FakeKernel` that only stores change. -/
structure FakeSession where
  generation : ℕ := 1
  prepared : Bool := false
  waiting : Bool := false
  complete : Bool := false
  retired : Bool := false
  initialEvent : ℕ := 0
  negotiationFailures : ℕ := 0
  removed : Bool := false
  stages : List QuiesceStage := []
  diskName : Option String := none
  idle : Bool := false
  idleAttempted : Bool := false
  pulledRetired : Bool := false

/-- The fields of `FakeKernel` that a test sets: whether the next attach enters USB4, what fails
and what is busy. -/
structure Knobs where
  negotiate : Bool := true
  error : ℤ := 0
  heldElsewhere : Bool := false
  idleRefusals : ℕ := 0
  idleFail : Bool := false
  commandPending : Bool := false
  unmountBusy : Bool := false
  pulledFail : Bool := false
  desktopBusy : Bool := false

/-- The fields of `FakeKernel` that the surroundings change: the cable, the mounts, and the
knobs. -/
structure Port where
  orientation : ℕ := 0
  events : ℕ := 0
  disconnectEvent : ℕ := 0
  rearm : Bool := false
  mounts : List String := []
  knobs : Knobs := {}

structure FakeKernel where
  session : FakeSession := {}
  port : Port := {}

/-! ### Physical actions -/

/-- What happens around the service. -/
inductive Act
  | plug
  | unplug
  | mount (points : List String)
  | turn (knobs : Knobs)

def Port.act (p : Port) : Act → Port
  | .plug => { p with events := p.events + 1, orientation := 1 }
  | .unplug =>
    { p with events := p.events + 1, disconnectEvent := p.events + 1, orientation := 0
             rearm := false }
  | .mount points => { p with mounts := points }
  | .turn knobs => { p with knobs := knobs }

/-! ### Numbers as text -/

def isDecimal (t : String) : Bool := !t.toList.isEmpty && t.toList.all Char.isDigit

/-- `int` on the texts of the fake, whose numbers are never negative. -/
def decimal (t : String) : Option ℤ :=
  if isDecimal t then some (Nat.ofDigitChars 10 t.toList 0 : ℕ) else none

@[simp] lemma isDecimal_repr (n : ℕ) : isDecimal n.repr = true := by
  rw [Nat.repr_eq_ofList_toDigits]
  simp only [isDecimal, String.toList_ofList, Bool.and_eq_true, Bool.not_eq_true',
    List.isEmpty_eq_false_iff, List.all_eq_true]
  exact ⟨Nat.toDigits_ne_nil, fun c hc => Nat.isDigit_of_mem_toDigits (by decide) (by decide) hc⟩

@[simp] lemma decimal_repr (n : ℕ) : decimal n.repr = some (n : ℤ) := by
  simp only [decimal, isDecimal_repr, if_true]
  rw [Nat.repr_eq_ofList_toDigits, String.toList_ofList, Nat.ofDigitChars_ten_toDigits]

lemma decimal_repr_negSucc (m : ℕ) : decimal (Int.negSucc m).repr = none := by
  have h : (Int.negSucc m).repr.toList = '-' :: (m + 1).repr.toList := by
    show ("-" ++ (m + 1).repr).toList = _
    rw [String.toList_append]
    rfl
  rw [decimal, isDecimal, h]
  rfl

@[simp] lemma repr_eq_repr (g : ℤ) (n : ℕ) : g.repr = n.repr ↔ g = n := by
  refine ⟨fun h => ?_, fun h => by rw [h]; rfl⟩
  have hd := congrArg decimal h
  cases g with
  | ofNat m => exact Option.some.inj ((decimal_repr m).symm.trans (hd.trans (decimal_repr n)))
  | negSucc m =>
    rw [decimal_repr_negSucc, decimal_repr] at hd
    cases hd

@[simp] lemma repr_eq_repr' (g : ℤ) (n : ℕ) : n.repr = g.repr ↔ n = g := by
  rw [eq_comm, repr_eq_repr, eq_comm]

@[simp] lemma repr_eq_zero (n : ℕ) : n.repr = "0" ↔ n = 0 := by
  refine ⟨fun h => ?_, fun h => by rw [h]; rfl⟩
  have hd := congrArg decimal h
  rw [decimal_repr] at hd
  exact_mod_cast Option.some.inj (hd.trans (by decide : decimal "0" = some 0))

/-! ### Snapshots -/

def flag (b : Bool) : String := if b then "1" else "0"

@[simp] lemma flag_eq_one (b : Bool) : flag b = "1" ↔ b = true := by
  cases b <;> decide

@[simp] lemma flag_eq_zero (b : Bool) : flag b = "0" ↔ b = false := by
  cases b <;> decide

def sessionFields (s : FakeSession) (p : Port) : Fields
  | .managed => some "1"
  | .generation => some (toString s.generation)
  | .pristine => some (flag !s.prepared)
  | .orientation => some (toString p.orientation)
  | .prepared => some (flag s.prepared)
  | .waiting => some (flag s.waiting)
  | .complete => some (flag s.complete)
  | .fullyRetired => some (flag s.retired)
  | .platformRetired => some (flag s.retired)
  | .platformError => some "0"
  | .initialEvent => some (toString s.initialEvent)
  | .disconnectEvent => some (toString p.disconnectEvent)
  | _ => none

def inventoryFields (s : FakeSession) (p : Port) : Fields
  | .error => some (toString p.knobs.error)
  | .terminal => some "0"
  | .step => some (if s.waiting then "connect-once" else "nvme-bound")
  | .negotiationRearm => some (flag p.rearm)
  | .negotiationFailures => some (toString s.negotiationFailures)
  | _ => none

def generalFields (s : FakeSession) (p : Port) : Fields
  | .endpointRemoved => some (flag s.removed)
  | .endpointRemoveError => some "0"
  | .idleRetireAttempted => some (flag s.idleAttempted)
  | .idleRetired => some (flag s.idle)
  | .idleRetireError => some (if p.knobs.idleFail then "-5" else "0")
  | .idleRetireStage => some (if p.knobs.idleFail then "power-stop" else "none")
  | .pulledRetired => some (flag s.pulledRetired)
  | .pulledRetireError => some "0"
  | _ => none

def stageFields (s : FakeSession) (st : QuiesceStage) : Fields
  | .attempted => some (flag (s.stages.contains st))
  | .complete => some (flag (s.stages.contains st))
  | .error => some "0"
  | _ => none

def snapshot (s : FakeSession) (p : Port) : Snapshot → Fields
  | .sessionState => sessionFields s p
  | .inventoryState => inventoryFields s p
  | .generalState => generalFields s p
  | .tunnelQuiesceState => stageFields s .tunnel
  | .hostQuiesceState => stageFields s .host
  | .powerQuiesceState => stageFields s .power

/-! ### Stores -/

/-- What a store does: it changes the kernel, it raises an error, which it may do after a
change, or it fails an assertion of the test. -/
abbrev Stored := Except Fault Unit × FakeKernel

def asserting (k : FakeKernel) (c : Bool) (r : Stored) : Stored :=
  if c then r else (.error .crash, k)

def storeInventory (k : FakeKernel) (token : String) : Stored :=
  asserting k (token == inventoryToken) <|
    if !k.session.prepared then
      asserting k (k.port.orientation == 0)
        (.ok (), { k with session := { k.session with
          prepared := true, waiting := true, initialEvent := k.port.events } })
    else
      asserting k (k.session.waiting && k.port.orientation != 0 && !k.port.rearm) <|
        if !k.port.knobs.negotiate then
          (.error (.osError .enotconn "not negotiated"),
            { session := { k.session with
                negotiationFailures := k.session.negotiationFailures + 1 }
              port := { k.port with rearm := true } })
        else
          (.ok (), { k with session := { k.session with
            waiting := false, complete := true, diskName := some "nvme1n1" } })

def storeEndpoint (k : FakeKernel) (token : String) : Stored :=
  asserting k (token == endpointStage.token && k.port.mounts.isEmpty && k.session.complete)
    (.ok (), { k with session := { k.session with removed := true, diskName := none } })

def QuiesceStage.before : QuiesceStage → List QuiesceStage
  | .tunnel => []
  | .host => [.tunnel]
  | .power => [.tunnel, .host]

def storeQuiesce (k : FakeKernel) (st : QuiesceStage) : Stored :=
  asserting k (k.session.removed && k.session.stages == st.before)
    (.ok (), { k with session := { k.session with
      stages := k.session.stages ++ [st], retired := k.session.retired || st == .power } })

def storeIdle (k : FakeKernel) (token : String) : Stored :=
  asserting k (token == idleRetireToken && !k.session.idleAttempted) <|
    if k.port.knobs.idleRefusals ≠ 0 then
      (.error (.osError .ebusy "refused, session kept"),
        { k with port := { k.port with knobs := { k.port.knobs with
          idleRefusals := k.port.knobs.idleRefusals - 1 } } })
    else if !(k.session.prepared && k.session.waiting) || k.session.complete ||
        k.port.knobs.commandPending then
      (.error (.osError .eperm "not idle"), k)
    else if k.port.knobs.idleFail then
      (.error (.osError .eio "power stop failed"),
        { k with session := { k.session with idleAttempted := true } })
    else
      (.ok (), { k with session := { k.session with
        idleAttempted := true, idle := true, retired := true } })

def storePulled (k : FakeKernel) (token : String) : Stored :=
  asserting k (token == pulledRetireToken && k.session.complete && !k.session.removed &&
      k.port.orientation == 0 && decide (k.port.disconnectEvent > k.session.initialEvent)) <|
    if k.port.knobs.pulledFail then (.error (.osError .eio "pulled retirement failed"), k)
    else
      (.ok (), {
        session := { k.session with pulledRetired := true, retired := true, diskName := none }
        port := { k.port with mounts := [] } })

def storeRenew (k : FakeKernel) (token : String) : Stored :=
  asserting k (token == toString k.session.generation ++ "\n" && k.session.retired) <|
    if k.port.orientation ≠ 0 ∨
        (!k.session.idle ∧ k.port.disconnectEvent ≤ k.session.initialEvent) then
      (.error (.osError .ebusy "attached"), k)
    else
      (.ok (), { k with session := { k.session with
        generation := k.session.generation + 1
        idle := false, idleAttempted := false, pulledRetired := false
        prepared := false, waiting := false, complete := false, retired := false
        removed := false, stages := [], negotiationFailures := 0 } })

def FakeKernel.store (k : FakeKernel) (name : Attribute) (token : String) : Stored :=
  match name with
  | .inventoryOnce => storeInventory k token
  | .endpointRemoveOnce => storeEndpoint k token
  | .tunnelQuiesceOnce => storeQuiesce k .tunnel
  | .hostQuiesceOnce => storeQuiesce k .host
  | .powerQuiesceOnce => storeQuiesce k .power
  | .idleRetireOnce => storeIdle k token
  | .pulledRetireOnce => storePulled k token
  | .renewSession => storeRenew k token

/-! ### The bench -/

/-- What happens before an answer, whether the service is killed there, and what the clock
shows. -/
structure Tick where
  acts : List Act := []
  killed : Bool := false
  now : ℚ := 0

/-- The kernel on the bench, with what will happen. -/
structure Bench where
  fake : FakeKernel := {}
  ticks : List Tick := []

/-- The next tick; after the last of them nothing happens. -/
def Bench.tick (b : Bench) : Tick := b.ticks.headD {}

/-- The port once the acts of the tick have happened. -/
def Bench.portNow (b : Bench) : Port := b.tick.acts.foldl Port.act b.fake.port

def FakeKernel.answer (k : FakeKernel) (now : ℚ) :
    {α : Type} → Ask α → Except Fault α × FakeKernel
  | _, .read name => (.ok (snapshot k.session k.port name), k)
  | _, .store name token => k.store name token
  | _, .disk => (.ok k.session.diskName, k)
  | _, .mounted _ => (.ok k.port.mounts, k)
  | _, .mountedDevices _ => (.ok (if k.port.mounts.isEmpty then [] else ["nvme1n1p4"]), k)
  | _, .unmount _ =>
    (.ok !k.port.knobs.unmountBusy, { k with port :=
      if k.port.knobs.unmountBusy then k.port else { k.port with mounts := [] } })
  | _, .unmountDesktop point =>
    (.ok !k.port.knobs.desktopBusy, { k with port :=
      if k.port.knobs.desktopBusy then k.port
      else { k.port with mounts := k.port.mounts.filter (· != point) } })
  | _, .released _ => (.ok (k.port.mounts.isEmpty && !k.port.knobs.heldElsewhere), k)
  | _, .clock => (.ok now, k)
  | _, .settle => (.ok (), k)
  | _, .sleep _ => (.ok (), k)
  | _, .parametersOk => (.ok (), k)
  | _, .installRule => (.ok (), k)
  | _, .publish _ => (.ok (), k)
  | _, .notify _ => (.ok (), k)
  | _, .notifyText _ => (.ok (), k)
  | _, .releaseLock => (.ok (), k)
  | _, .takeLock => (.ok (), k)

def Bench.answer {α : Type} (q : Ask α) (b : Bench) : Except Fault α × Bench :=
  let k : FakeKernel := { b.fake with port := b.portNow }
  if b.tick.killed then (.error .crash, ⟨k, b.ticks.tail⟩)
  else
    let r := k.answer b.tick.now q
    (r.1, ⟨r.2, b.ticks.tail⟩)

lemma FakeKernel.answer_ok {α : Type} (k : FakeKernel) (now : ℚ) (q : Ask α)
    (hq : q.checks = false) : ∃ a, (k.answer now q).1 = .ok a := by
  cases q with
  | read | store | parametersOk => cases hq
  | _ => exact ⟨_, rfl⟩

def bench : Kernel Bench where
  answer := Bench.answer
  int := decimal
  isdecimal := isDecimal
  stop_checks q b f h hf := by
    unfold Bench.answer at h
    split at h
    · cases h
      cases hf
    · cases hq : q.checks with
      | true => rfl
      | false =>
        obtain ⟨a, ha⟩ := FakeKernel.answer_ok { b.fake with port := b.portNow } b.tick.now q hq
        rw [ha] at h
        cases h

end YogaUsb4.Daemon
