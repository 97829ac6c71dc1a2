import YogaUsb4.Dialog
import YogaUsb4.Steps

/-!
The tickets of the private NVMe sessions. One ticket at a time is open; the driver's probe claims
it, the driver's resource retirement marks it, and only then can it be closed. A device is known by
the address of its `struct pci_dev`, which another device may have later.
-/

namespace YogaUsb4.NvmeSession

/-! ### The calls -/

/-- What `x1_nvme_read_admitted` reads of the bridge above the device. -/
structure RootPort where
  onRootBus : Bool
  busNumber : ℕ
  devfn : ℕ
  vendor : ℕ
  device : ℕ
  rootPortType : Bool

/-- What the calls read of a `struct pci_dev`, at the time of the call. -/
structure Look where
  hasHost : Bool
  hasParent : Bool
  machineCompatible : Bool
  expectedNode : Bool
  parentIsExpected : Bool
  nodeCompatible : Bool
  nodeReadTest : Bool
  parentReadTest : Bool
  domain : ℕ
  busNumber : ℕ
  devfn : ℕ
  vendor : ℕ
  device : ℕ
  storageExpress : Bool
  root : Option RootPort
  driver : Bool
  drvdata : Bool
  msiData : Bool
  registered : Bool

def privateHost (l : Look) : Bool :=
  l.hasHost && l.hasParent && l.machineCompatible &&
    (l.expectedNode && l.parentIsExpected && l.nodeCompatible && l.nodeReadTest)

def readAdmitted (l : Look) : Bool :=
  privateHost l && l.parentReadTest && l.domain == 0 && l.busNumber == 1 && l.devfn == 0 &&
    l.vendor == 0x1c19 && l.device == 0x102b && l.storageExpress &&
    l.root.any fun r => r.onRootBus && r.busNumber == 0 && r.devfn == 0 && r.vendor == 0x17cb &&
      r.device == 0x0111 && r.rootPortType

variable {Dev : Type} [DecidableEq Dev]

/-- `struct x1_nvme_session`. -/
structure Session (Dev : Type) where
  pdev : Dev
  id : BitVec 64
  consumed : Bool := false
  resourcesRetired : Bool := false

/-- The static variables, the sessions that are allocated, and the device references that
`pci_dev_get` took and `pci_dev_put` did not give back. -/
structure State (Dev : Type) where
  session : Option (Session Dev) := none
  sequence : BitVec 64 := 0
  allocated : ℤ := 0
  refs : Dev → ℤ := fun _ => 0

def U64_MAX : BitVec 64 := 0xffffffffffffffff

def count (refs : Dev → ℤ) (pdev : Dev) (n : ℤ) : Dev → ℤ :=
  fun d => if d = pdev then refs d + n else refs d

/-- `nvme_x1_open_session`; `idPtr` and `memory` say whether there is room for the id and for the
session. On success it also stores the id. -/
def openSession (s : State Dev) (pdev : Option Dev) (idPtr memory : Bool) (l : Look) :
    State Dev × ℤ × Option (BitVec 64) :=
  match pdev with
  | none => (s, -einval, none)
  | some pdev =>
    if idPtr = false ∨ readAdmitted l = false then (s, -einval, none)
    else if s.session.isSome ∨ l.driver ∨ l.drvdata ∨ l.registered = false ∨
        s.sequence = U64_MAX then
      (s, -eperm, none)
    else if memory = false then (s, -enomem, none)
    else
      let id := s.sequence + 1
      ({ session := some { pdev, id }, sequence := id, allocated := s.allocated + 1
         refs := count s.refs pdev 1 }, 0, some id)

def claimSession (s : State Dev) (pdev : Dev) : State Dev × Bool :=
  match s.session with
  | none => (s, false)
  | some t =>
    if t.pdev = pdev ∧ t.consumed = false ∧ t.resourcesRetired = false then
      ({ s with session := some { t with consumed := true } }, true)
    else (s, false)

def sessionResourcesRetired (s : State Dev) (pdev : Dev) : State Dev × ℤ :=
  match s.session with
  | none => (s, -estale)
  | some t =>
    if t.pdev = pdev ∧ t.consumed ∧ t.resourcesRetired = false then
      ({ s with session := some { t with resourcesRetired := true } }, 0)
    else (s, -estale)

def closeSession (s : State Dev) (pdev : Option Dev) (id : BitVec 64) (l : Look) :
    State Dev × ℤ :=
  match pdev with
  | none => (s, -einval)
  | some pdev =>
    if id = 0 then (s, -einval)
    else
      match s.session with
      | none => (s, -eperm)
      | some t =>
        -- no topology walks: the old PCI bus has already been unregistered
        if t.pdev ≠ pdev ∨ t.id ≠ id ∨ t.consumed = false ∨ t.resourcesRetired = false ∨
            l.driver ∨ l.drvdata ∨ l.msiData ∨ l.registered then
          (s, -eperm)
        else
          ({ s with session := none, allocated := s.allocated - 1
                    refs := count s.refs t.pdev (-1) }, 0)

/-! ### Histories -/

/-- A call that anyone may make, on any device and in any order. -/
inductive Call (Dev : Type) where
  | openSession (pdev : Option Dev) (idPtr memory : Bool) (l : Look)
  | claimSession (pdev : Dev)
  | resourcesRetired (pdev : Dev)
  | closeSession (pdev : Option Dev) (id : BitVec 64) (l : Look)

/-- What a call that succeeded did. `pdev` is the caller's argument; a claim and a retirement note
the id of the ticket that they marked, a close the id that it was given. -/
inductive Event (Dev : Type) where
  | opened (pdev : Dev) (id : BitVec 64)
  | claimed (pdev : Dev) (id : BitVec 64)
  | retired (pdev : Dev) (id : BitVec 64)
  | closed (pdev : Dev) (id : BitVec 64)
  deriving DecidableEq

def Event.id : Event Dev → BitVec 64
  | .opened _ id => id
  | .claimed _ id => id
  | .retired _ id => id
  | .closed _ id => id

/-- The state, and what happened, the latest first. -/
structure World (Dev : Type) where
  state : State Dev := {}
  log : List (Event Dev) := []

def World.next (w : World Dev) (s' : State Dev) (ok : Bool) (e : Option (Event Dev)) :
    World Dev :=
  ⟨s', if ok then e.toList ++ w.log else w.log⟩

/-- A call; under `x1_nvme_session_lock` there is nothing in between. -/
def World.step (w : World Dev) : Call Dev → World Dev
  | .openSession pdev idPtr memory l =>
    let (s, ret, id) := openSession w.state pdev idPtr memory l
    w.next s (ret = 0) (pdev.bind fun d => id.map (.opened d))
  | .claimSession pdev =>
    let (s, admitted) := claimSession w.state pdev
    w.next s admitted (w.state.session.map fun t => .claimed pdev t.id)
  | .resourcesRetired pdev =>
    let (s, ret) := sessionResourcesRetired w.state pdev
    w.next s (ret = 0) (w.state.session.map fun t => .retired pdev t.id)
  | .closeSession pdev id l =>
    let (s, ret) := closeSession w.state pdev id l
    w.next s (ret = 0) (pdev.map fun d => .closed d id)

def openTickets : List (Event Dev) → List (Dev × BitVec 64)
  | [] => []
  | .opened pdev id :: h => (pdev, id) :: openTickets h
  | .closed pdev id :: h => (openTickets h).erase (pdev, id)
  | .claimed _ _ :: h => openTickets h
  | .retired _ _ :: h => openTickets h

def Session.key (t : Session Dev) : Dev × BitVec 64 := (t.pdev, t.id)

lemma countP_key (t : Session Dev) (d : Dev) :
    [t.key].countP (·.1 = d) = if d = t.pdev then 1 else 0 := by
  simp [Session.key, eq_comm, List.countP_cons]

/-! ### What a call can do -/

/-- Everything that a call does to the state and to the log. -/
inductive Effect : World Dev → World Dev → Prop
  | refused (w : World Dev) : Effect w w
  | opened {s : State Dev} {h : List (Event Dev)} (pdev : Dev) (hfree : s.session = none)
      (hroom : s.sequence ≠ U64_MAX) :
      Effect ⟨s, h⟩ ⟨{ session := some { pdev, id := s.sequence + 1 }, sequence := s.sequence + 1
                       allocated := s.allocated + 1, refs := count s.refs pdev 1 },
        .opened pdev (s.sequence + 1) :: h⟩
  | claimed {s : State Dev} {h : List (Event Dev)} {t : Session Dev} (ht : s.session = some t)
      (hc : t.consumed = false) :
      Effect ⟨s, h⟩ ⟨{ s with session := some { t with consumed := true } },
        .claimed t.pdev t.id :: h⟩
  | retired {s : State Dev} {h : List (Event Dev)} {t : Session Dev} (ht : s.session = some t)
      (hc : t.consumed) (hr : t.resourcesRetired = false) :
      Effect ⟨s, h⟩ ⟨{ s with session := some { t with resourcesRetired := true } },
        .retired t.pdev t.id :: h⟩
  | closed {s : State Dev} {h : List (Event Dev)} {t : Session Dev} (ht : s.session = some t)
      (hc : t.consumed) (hr : t.resourcesRetired) :
      Effect ⟨s, h⟩ ⟨{ s with session := none, allocated := s.allocated - 1
                              refs := count s.refs t.pdev (-1) }, .closed t.pdev t.id :: h⟩

lemma openSession_cases (s : State Dev) (pdev : Option Dev) (idPtr memory : Bool) (l : Look) :
    (∃ ret ≠ 0, openSession s pdev idPtr memory l = (s, ret, none)) ∨
      ∃ d, pdev = some d ∧ s.session = none ∧ s.sequence ≠ U64_MAX ∧
        openSession s pdev idPtr memory l =
          ({ session := some { pdev := d, id := s.sequence + 1 }, sequence := s.sequence + 1
             allocated := s.allocated + 1, refs := count s.refs d 1 }, 0,
            some (s.sequence + 1)) := by
  cases pdev with
  | none => exact .inl ⟨-einval, by decide, rfl⟩
  | some d =>
    unfold openSession
    dsimp only
    split
    · exact .inl ⟨-einval, by decide, rfl⟩
    · split
      · exact .inl ⟨-eperm, by decide, rfl⟩
      · split
        · exact .inl ⟨-enomem, by decide, rfl⟩
        · rename_i hfree _
          simp only [not_or, Bool.not_eq_true, Option.isSome_eq_false_iff,
            Option.isNone_iff_eq_none] at hfree
          exact .inr ⟨d, rfl, hfree.1, hfree.2.2.2.2, rfl⟩

lemma claimSession_cases (s : State Dev) (pdev : Dev) :
    claimSession s pdev = (s, false) ∨
      ∃ t, s.session = some t ∧ t.pdev = pdev ∧ t.consumed = false ∧ claimSession s pdev =
        ({ s with session := some { t with consumed := true } }, true) := by
  unfold claimSession
  cases ht : s.session with
  | none => exact .inl rfl
  | some t =>
    dsimp only
    split
    · rename_i hall
      exact .inr ⟨t, rfl, hall.1, hall.2.1, rfl⟩
    · exact .inl rfl

lemma sessionResourcesRetired_cases (s : State Dev) (pdev : Dev) :
    sessionResourcesRetired s pdev = (s, -estale) ∨
      ∃ t, s.session = some t ∧ t.pdev = pdev ∧ t.consumed ∧ t.resourcesRetired = false ∧
        sessionResourcesRetired s pdev =
          ({ s with session := some { t with resourcesRetired := true } }, 0) := by
  unfold sessionResourcesRetired
  cases ht : s.session with
  | none => exact .inl rfl
  | some t =>
    dsimp only
    split
    · rename_i hall
      exact .inr ⟨t, rfl, hall.1, hall.2.1, hall.2.2, rfl⟩
    · exact .inl rfl

lemma closeSession_cases (s : State Dev) (pdev : Option Dev) (id : BitVec 64) (l : Look) :
    (∃ ret ≠ 0, closeSession s pdev id l = (s, ret)) ∨
      ∃ t, s.session = some t ∧ pdev = some t.pdev ∧ id = t.id ∧ t.consumed ∧
        t.resourcesRetired ∧ closeSession s pdev id l =
          ({ s with session := none, allocated := s.allocated - 1
                    refs := count s.refs t.pdev (-1) }, 0) := by
  cases pdev with
  | none => exact .inl ⟨-einval, by decide, rfl⟩
  | some d =>
    unfold closeSession
    dsimp only
    split
    · exact .inl ⟨-einval, by decide, rfl⟩
    · cases ht : s.session with
      | none => exact .inl ⟨-eperm, by decide, rfl⟩
      | some t =>
        dsimp only
        split
        · exact .inl ⟨-eperm, by decide, rfl⟩
        · rename_i hall
          simp only [not_or, not_not, Bool.not_eq_false] at hall
          obtain ⟨rfl, rfl, hc, hr, -⟩ := hall
          exact .inr ⟨t, rfl, rfl, rfl, hc, hr, rfl⟩

theorem step_effect (w : World Dev) (c : Call Dev) : Effect w (w.step c) := by
  obtain ⟨s, h⟩ := w
  cases c with
  | openSession pdev idPtr memory l =>
    rcases openSession_cases s pdev idPtr memory l with
      ⟨ret, hne, heq⟩ | ⟨d, rfl, hfree, hroom, heq⟩
    · simp only [World.step, World.next, heq, hne, decide_false, Bool.false_eq_true, if_false]
      exact .refused _
    · simp only [World.step, World.next, heq, decide_true, if_true]
      exact .opened d hfree hroom
  | claimSession pdev =>
    rcases claimSession_cases s pdev with heq | ⟨t, ht, rfl, hc, heq⟩
    · simp only [World.step, World.next, heq, Bool.false_eq_true, if_false]
      exact .refused _
    · simp only [World.step, World.next, heq, ht, if_true]
      exact .claimed ht hc
  | resourcesRetired pdev =>
    rcases sessionResourcesRetired_cases s pdev with heq | ⟨t, ht, rfl, hc, hr, heq⟩
    · have hne : ¬ -estale = 0 := by decide
      simp only [World.step, World.next, heq, hne, decide_false, Bool.false_eq_true, if_false]
      exact .refused _
    · simp only [World.step, World.next, heq, ht, decide_true, if_true]
      exact .retired ht hc hr
  | closeSession pdev id l =>
    rcases closeSession_cases s pdev id l with ⟨ret, hne, heq⟩ | ⟨t, ht, rfl, rfl, hc, hr, heq⟩
    · simp only [World.step, World.next, heq, hne, decide_false, Bool.false_eq_true, if_false]
      exact .refused _
    · simp only [World.step, World.next, heq, decide_true, if_true]
      exact .closed ht hc hr

/-! ### Every history -/

/-- What has to be true of the history before an event. -/
def Fits : Event Dev → List (Event Dev) → Prop
  | .opened _ id, before =>
      openTickets before = [] ∧ ∀ pdev' id', .opened pdev' id' ∈ before → id' < id
  | .claimed pdev id, before =>
      openTickets before = [(pdev, id)] ∧ ∀ pdev', .claimed pdev' id ∉ before
  | .retired pdev id, before =>
      openTickets before = [(pdev, id)] ∧ .claimed pdev id ∈ before ∧
        ∀ pdev', .retired pdev' id ∉ before
  | .closed pdev id, before =>
      openTickets before = [(pdev, id)] ∧ .claimed pdev id ∈ before ∧ .retired pdev id ∈ before

/-- What the state says about the history. -/
structure Inv (w : World Dev) : Prop where
  tickets : openTickets w.log = w.state.session.toList.map Session.key
  allocated : w.state.allocated = w.state.session.toList.length
  refs : ∀ d, w.state.refs d = (w.state.session.toList.map Session.key).countP (·.1 = d)
  above : ∀ e ∈ w.log, e.id ≤ w.state.sequence
  latest : ∀ t ∈ w.state.session, t.id = w.state.sequence
  claimed : ∀ t ∈ w.state.session, t.consumed → .claimed t.pdev t.id ∈ w.log
  unclaimed : ∀ t ∈ w.state.session, t.consumed = false → ∀ d, .claimed d t.id ∉ w.log
  retired : ∀ t ∈ w.state.session, t.resourcesRetired → .retired t.pdev t.id ∈ w.log
  unretired : ∀ t ∈ w.state.session, t.resourcesRetired = false → ∀ d, .retired d t.id ∉ w.log
  fits : ∀ e before, e :: before <:+ w.log → Fits e before

lemma lt_succ {n : BitVec 64} (h : n ≠ U64_MAX) : n < n + 1 := by
  unfold U64_MAX at h
  bv_omega

lemma Inv.fresh {w : World Dev} (hw : Inv w) (h : w.state.sequence ≠ U64_MAX) {e : Event Dev}
    (he : e ∈ w.log) : e.id < w.state.sequence + 1 :=
  Std.lt_of_le_of_lt (hw.above e he) (lt_succ h)

lemma Inv.opened {s : State Dev} {h : List (Event Dev)} (hw : Inv ⟨s, h⟩) (pdev : Dev)
    (hfree : s.session = none) (hroom : s.sequence ≠ U64_MAX) :
    Inv ⟨{ session := some { pdev, id := s.sequence + 1 }, sequence := s.sequence + 1
           allocated := s.allocated + 1, refs := count s.refs pdev 1 },
      .opened pdev (s.sequence + 1) :: h⟩ := by
  -- The id is new, so no earlier event is about this ticket.
  have hnew : ∀ e : Event Dev, e.id = s.sequence + 1 → e ∉ h := fun e he hmem =>
    absurd (hw.fresh hroom hmem) (by simp [he])
  refine ⟨?_, ?_, ?_, ?_, ?_, ?_, ?_, ?_, ?_, ?_⟩
  · simpa [openTickets, hfree, Session.key] using hw.tickets
  · have ha : s.allocated = 0 := by simpa [hfree] using hw.allocated
    rw [ha]
    rfl
  · intro d
    have hd := hw.refs d
    simp only [hfree, Option.toList_none, List.map_nil, List.countP_nil] at hd
    simp only [Option.toList_some, List.map_singleton, countP_key, count, hd]
    split <;> rfl
  · refine List.forall_mem_cons.2 ⟨BitVec.le_refl _, fun e he => ?_⟩
    exact BitVec.le_of_lt (hw.fresh hroom he)
  · simp
  · simp
  · rintro t ⟨⟩ - d
    simpa using hnew (.claimed d _) rfl
  · simp
  · rintro t ⟨⟩ - d
    simpa using hnew (.retired d _) rfl
  · refine Steps.forall_suffix_cons.2 ⟨⟨?_, fun d id hmem => hw.fresh hroom hmem⟩, hw.fits⟩
    simpa [hfree] using hw.tickets

lemma Inv.marked {s : State Dev} {h : List (Event Dev)} {t t' : Session Dev} {e : Event Dev}
    (hw : Inv ⟨s, h⟩) (ht : s.session = some t) (hkey : t'.key = t.key) (he : e.id = t.id)
    (hopen : openTickets (e :: h) = openTickets h)
    (hc : t'.consumed → .claimed t.pdev t.id ∈ e :: h)
    (hc' : t'.consumed = false → ∀ d, .claimed d t.id ∉ e :: h)
    (hr : t'.resourcesRetired → .retired t.pdev t.id ∈ e :: h)
    (hr' : t'.resourcesRetired = false → ∀ d, .retired d t.id ∉ e :: h) (hfits : Fits e h) :
    Inv ⟨{ s with session := some t' }, e :: h⟩ := by
  obtain ⟨hpdev, hid⟩ : t'.pdev = t.pdev ∧ t'.id = t.id := Prod.mk.inj hkey
  have hlatest : t.id = s.sequence := hw.latest t ht
  refine ⟨?_, ?_, ?_, ?_, ?_, ?_, ?_, ?_, ?_, ?_⟩
  · simpa [ht, hopen, hkey] using hw.tickets
  · simpa [ht] using hw.allocated
  · simpa [ht, hkey] using hw.refs
  · refine List.forall_mem_cons.2 ⟨?_, hw.above⟩
    rw [he, hlatest]
    exact BitVec.le_refl _
  · rintro _ ⟨⟩
    rw [hid, hlatest]
  · rintro _ ⟨⟩
    rwa [hpdev, hid]
  · rintro _ ⟨⟩
    rwa [hid]
  · rintro _ ⟨⟩
    rwa [hpdev, hid]
  · rintro _ ⟨⟩
    rwa [hid]
  · exact Steps.forall_suffix_cons.2 ⟨hfits, hw.fits⟩

lemma Inv.closed {s : State Dev} {h : List (Event Dev)} {t : Session Dev} (hw : Inv ⟨s, h⟩)
    (ht : s.session = some t) (hc : t.consumed) (hr : t.resourcesRetired) :
    Inv ⟨{ s with session := none, allocated := s.allocated - 1
                  refs := count s.refs t.pdev (-1) }, .closed t.pdev t.id :: h⟩ := by
  have hopen : openTickets h = [t.key] := by simpa [ht] using hw.tickets
  refine ⟨?_, ?_, ?_, ?_, ?_, ?_, ?_, ?_, ?_, ?_⟩
  · simp [openTickets, hopen, Session.key]
  · have ha : s.allocated = 1 := by simpa [ht] using hw.allocated
    rw [ha]
    rfl
  · intro d
    have hd := hw.refs d
    simp only [ht, Option.toList_some, List.map_singleton, countP_key] at hd
    simp only [count, hd]
    split <;> rfl
  · refine List.forall_mem_cons.2 ⟨?_, hw.above⟩
    rw [← hw.latest t ht]
    exact BitVec.le_refl _
  · simp
  · simp
  · simp
  · simp
  · simp
  · exact Steps.forall_suffix_cons.2 ⟨⟨hopen, hw.claimed t ht hc, hw.retired t ht hr⟩, hw.fits⟩

theorem Inv.step {w w' : World Dev} (h : Effect w w') (hw : Inv w) : Inv w' := by
  cases h with
  | refused => exact hw
  | opened pdev hfree hroom => exact hw.opened pdev hfree hroom
  | @claimed s h t ht hc =>
    have hopen : openTickets h = [t.key] := by simpa [ht] using hw.tickets
    refine hw.marked (t := t) ht rfl rfl rfl (fun _ => List.mem_cons_self) nofun
      (fun hr => List.mem_cons_of_mem _ (hw.retired t ht hr)) (fun hr d => ?_)
      ⟨hopen, hw.unclaimed t ht hc⟩
    simpa using hw.unretired t ht hr d
  | @retired s h t ht hc hr =>
    have hopen : openTickets h = [t.key] := by simpa [ht] using hw.tickets
    exact hw.marked (t := t) ht rfl rfl rfl
      (fun _ => List.mem_cons_of_mem _ (hw.claimed t ht hc))
      (fun hc' => absurd (hc'.symm.trans hc) Bool.false_ne_true) (fun _ => List.mem_cons_self)
      nofun ⟨hopen, hw.claimed t ht hc, hw.unretired t ht hr⟩
  | closed ht hc hr => exact hw.closed ht hc hr

lemma Inv.init : Inv ({} : World Dev) := by
  refine ⟨rfl, rfl, fun _ => rfl, ?_, ?_, ?_, ?_, ?_, ?_, ?_⟩ <;> simp

/-- What is known after any calls on any devices. -/
structure Tickets (w : World Dev) : Prop where
  /-- At most one ticket exists, and it is the only session that is allocated. -/
  one : (openTickets w.log).length ≤ 1
  allocated : w.state.allocated = (openTickets w.log).length
  /-- The references that are held on a device are those of its open tickets. -/
  refs : ∀ d, w.state.refs d = (openTickets w.log).countP (·.1 = d)
  fits : ∀ e before, e :: before <:+ w.log → Fits e before
  /-- The id of an earlier ticket closes nothing, whatever device it is used with. -/
  stale : ∀ pdev id pdev' id' before, .opened pdev' id' :: before <:+ w.log →
    .opened pdev id ∈ before → ∀ p l, ∃ ret ≠ 0, closeSession w.state p id l = (w.state, ret)

theorem Inv.stale {w : World Dev} (hw : Inv w) {pdev pdev' : Dev} {id id' : BitVec 64}
    {before : List (Event Dev)} (hs : .opened pdev' id' :: before <:+ w.log)
    (hmem : .opened pdev id ∈ before) (p : Option Dev) (l : Look) :
    ∃ ret ≠ 0, closeSession w.state p id l = (w.state, ret) := by
  rcases closeSession_cases w.state p id l with hrefused | ⟨t, ht, -, rfl, -⟩
  · exact hrefused
  · -- the id that is open is the last that was given out, and `id'` came after `id`
    have hlt : t.id < id' := (hw.fits _ _ hs).2 pdev t.id hmem
    have hle : id' ≤ w.state.sequence := hw.above _ (hs.subset List.mem_cons_self)
    rw [← hw.latest t ht] at hle
    exact absurd (Std.lt_of_lt_of_le hlt hle) (Std.lt_irrefl)

theorem sessions_tickets (calls : List (Call Dev)) :
    Tickets (Steps.run World.step ({} : World Dev) calls) := by
  have hw : Inv (Steps.run World.step ({} : World Dev) calls) :=
    Steps.run_invariant (fun w c hw => hw.step (step_effect w c)) calls Inv.init
  refine ⟨?_, ?_, ?_, hw.fits, fun _ _ _ _ _ hs hmem => hw.stale hs hmem⟩
  · rw [hw.tickets, List.length_map]
    exact Option.length_toList_le
  · rw [hw.tickets, hw.allocated, List.length_map]
  · rw [hw.tickets]
    exact hw.refs

end YogaUsb4.NvmeSession
