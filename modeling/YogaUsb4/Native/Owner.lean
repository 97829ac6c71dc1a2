import YogaUsb4.Native.Basic

/-!
What the native owner comes to over every interleaving. `Mark.Earned` says what must have happened
before a thing happens; it holds of everything that ever does. The call that has `native_lock` is
alone in carrying the chain on, so what is known at each of its statements holds until the next one,
whatever workers and users of the domain do in between.
-/

namespace YogaUsb4.Native

open Steps

variable {lacie : BitVec 64} {s s' : Sys} {word : BitVec 32} {c : Found}

/-! ### What must have happened -/

def lastValid (h : List Mark) : Option Bool :=
  h.findSome? fun
    | .valid b => some b
    | _ => none

/-- The port was as it should be when it was asked for last, and the owner is not stopped. -/
structure Going (before : List Mark) : Prop where
  valid : lastValid before = some true
  stopped : .stopped ∉ before

/-- The router is the approved one, at its place. -/
structure Router.Exact (lacie : BitVec 64) (r : Router) : Prop where
  route : r.route = 2
  uid : r.uid = lacie
  approved : lacie ≠ 0

/-- The place of a mark in the chain from the command to the device. A place is taken once. -/
@[simp] def Mark.level : Mark → ℕ
  | .command _ => 1
  | .rescan => 2
  | .enumerated _ => 3
  | .pcieStart _ => 4
  | .tunnel _ _ => 5
  | .approved _ => 6
  | .pcieTrain _ => 7
  | .opened => 8
  | .validated _ _ => 9
  | .valid _ | .poll | .refused _ | .below | .nvme _ | .returned _ | .stopped | .ctlStop => 0

/-- Nothing at this place of the chain or behind it has happened. -/
def Before (before : List Mark) (n : ℕ) : Prop := ∀ m ∈ before, m.level < n

/-- What has to be true of the past for a mark to be made. -/
def Mark.Earned (lacie : BitVec 64) (before : List Mark) : Mark → Prop
  | .valid _ => True
  | .command word => Going before ∧ Before before 1 ∧ connectWordAllowed word = 0
  | .poll => .stopped ∉ before ∧ ∃ word, .command word ∈ before
  | .rescan => Going before ∧ Before before 2 ∧ (∃ word, .command word ∈ before) ∧
      ∀ e, .refused e ∉ before
  | .refused _ => ∀ e, .refused e ∉ before
  | .enumerated r => .stopped ∉ before ∧ Before before 3 ∧ (∃ word, .command word ∈ before) ∧
      (∀ e, .refused e ∉ before) ∧ r.Exact lacie
  | .pcieStart _ => Going before ∧ Before before 4 ∧ ∃ r, .enumerated r ∈ before
  | .tunnel type r => Going before ∧ Before before 5 ∧ .pcieStart 0 ∈ before ∧ type = .pci ∧
      r.Exact lacie
  | .approved r => Going before ∧ Before before 6 ∧ .pcieStart 0 ∈ before ∧ r.Exact lacie
  | .pcieTrain _ => Going before ∧ Before before 7 ∧ ∃ r, .approved r ∈ before
  | .opened => Going before ∧ Before before 8 ∧ .pcieTrain 0 ∈ before
  | .validated devices endpoint => .stopped ∉ before ∧ Before before 9 ∧ .opened ∈ before ∧
      ∃ d, endpoint = some d ∧ Sole devices d
  | .below => .opened ∈ before
  | .nvme d => ∃ devices, .validated devices (some d) ∈ before
  | .returned ret => ret = 0 →
      lastValid before = some true ∧ ∃ devices d, .validated devices d ∈ before
  | .stopped => .stopped ∉ before
  | .ctlStop => .stopped ∈ before ∧ .ctlStop ∉ before

/-- Everything that happened was due. -/
def Earned (lacie : BitVec 64) (h : List Mark) : Prop :=
  ∀ m before, m :: before <:+ h → m.Earned lacie before

variable {h : List Mark} {m : Mark}

lemma Earned.cons (hh : Earned lacie h) (hm : m.Earned lacie h) :
    Earned lacie (m :: h) :=
  forall_suffix_cons.2 ⟨hm, hh⟩

@[simp] lemma lastValid_valid (b : Bool) (h : List Mark) :
    lastValid (.valid b :: h) = some b := rfl

/-! ### Where the calls are -/

/-- The call has the domain's lock. -/
@[simp] def ConnectAt.holdsTb : ConnectAt → Bool
  | .look _ | .rescanValid _ | .rescan _ | .rescanning _ _ | .unlock _ | .unlockBreak _ => true
  | .approveLook | .allow _ | .approve _ | .tunnel _ | .disallow _ _ | .approveUnlock _ => true
  | _ => false

@[simp] def NativeAt.holdsTb : NativeAt → Bool
  | .start .adding | .start (.scanning _) | .start (.addUnlock _) => true
  | .connect _ pt => pt.holdsTb
  | .stop .ctlStop | .stop .ctlUnlock => true
  | _ => false

/-- The statements between the two stores to `allow_pcie`. -/
@[simp] def ConnectAt.allows : ConnectAt → Bool
  | .approve _ | .tunnel _ | .disallow _ _ => true
  | _ => false

@[simp] def NativeAt.allows : NativeAt → Bool
  | .connect _ pt => pt.allows
  | _ => false

/-- The statements between the store to `stopped` and `tb_ctl_stop`. -/
@[simp] def NativeAt.stopping : NativeAt → Bool
  | .stop .unlive | .stop .ctlLock | .stop .ctlStop => true
  | _ => false

/-- How far the chain can be when the call is at a statement, once the attempt is made and until
the call leaves. -/
@[simp] def ConnectAt.reached : ConnectAt → Option ℕ
  | .claim | .leave _ => none
  | .validFirst | .command => some 0
  | .arm | .rescanValid _ | .rescan _ => some 1
  | .pollValid p | .tryLock p | .look p | .unlock p | .sleep p | .asleep p _ =>
    some (if p.rescanned then 2 else 1)
  | .rescanning _ _ => some 2
  | .unlockBreak _ | .startValid | .start => some 3
  | .approveLock | .approveLook | .allow _ | .approve _ | .tunnel _ => some 4
  | .disallow _ _ => some 5
  | .approveUnlock _ | .trainValid | .train => some 6
  | .scanValid | .scanOpen => some 7
  | .scanFinish => some 8
  | .endValid => some 9

/-- The owner's fields, or those of the owner that is to come. -/
def Sys.fields (s : Sys) : Owner := s.owner.getD {}

def Owner.refusal (o : Owner) : Option ℤ := if o.refused then some o.scanError else none

@[simp] def Mark.isPoll : Mark → Bool
  | .poll => true
  | .valid _ | .command _ | .rescan | .refused _ | .enumerated _ | .pcieStart _ | .tunnel _ _
  | .approved _ | .pcieTrain _ | .opened | .validated _ _ | .below | .nvme _ | .returned _
  | .stopped | .ctlStop => false

def polls (h : List Mark) : ℕ := h.countP Mark.isPoll

/-- At the time `t` every turn of the loop has had its 20 milliseconds. -/
def Paced (h : List Mark) (p : Poll) (t : ℕ) : Prop := 20 * polls h + p.deadline ≤ t + 20000

/-- What was done and seen on the way to a statement, with the refusal on record and the time. -/
@[simp] def ConnectAt.Has (lacie : BitVec 64) (h : List Mark) (refusal : Option ℤ) (now : ℕ) :
    ConnectAt → Prop
  | .claim => True
  | .validFirst => polls h = 0
  | .command => lastValid h = some true ∧ polls h = 0
  | .arm => polls h = 0 ∧ ∃ word, .command word ∈ h
  | .pollValid p | .tryLock p => polls h < 1000 ∧ Paced h p now ∧ ∃ word, .command word ∈ h
  | .look p | .unlock p | .sleep p => Paced h p (now + 20) ∧ ∃ word, .command word ∈ h
  | .asleep p wake => Paced h p wake ∧ ∃ word, .command word ∈ h
  | .rescanValid p => p.rescanned = true ∧ refusal = none ∧ Paced h p (now + 20) ∧
      ∃ word, .command word ∈ h
  | .rescan p => lastValid h = some true ∧ p.rescanned = true ∧ refusal = none ∧
      Paced h p (now + 20) ∧ ∃ word, .command word ∈ h
  | .rescanning p _ => p.rescanned = true ∧ Paced h p (now + 20) ∧ ∃ word, .command word ∈ h
  | .unlockBreak ret => ret = 0 → ∃ r, .enumerated r ∈ h
  | .startValid => ∃ r, .enumerated r ∈ h
  | .start => lastValid h = some true ∧ ∃ r, .enumerated r ∈ h
  | .approveLock | .approveLook => .pcieStart 0 ∈ h
  | .allow r | .approve r | .tunnel r | .disallow r _ =>
    lastValid h = some true ∧ .pcieStart 0 ∈ h ∧ r.Exact lacie
  | .approveUnlock ret => ret = 0 → ∃ r, .approved r ∈ h
  | .trainValid => ∃ r, .approved r ∈ h
  | .train => lastValid h = some true ∧ ∃ r, .approved r ∈ h
  | .scanValid => .pcieTrain 0 ∈ h
  | .scanOpen => lastValid h = some true ∧ .pcieTrain 0 ∈ h
  | .scanFinish => .opened ∈ h
  | .endValid => ∃ devices d, .validated devices d ∈ h
  | .leave ret => ret = 0 → lastValid h = some true ∧ ∃ devices d, .validated devices d ∈ h

/-- What is known of a connect between its claim and its end. -/
structure Inside (s : Sys) (k : ℕ) : Prop where
  owner : s.owner.isSome = true
  live : s.fields.live = true
  going : s.fields.stopped = false
  attempted : s.fields.attempted = true
  level : ∀ m ∈ s.history, m.level ≤ k
  endpoint : k ≤ 8 → ∀ b, s.storage.owner = some b →
    b.endpoint = none ∧ b.endpointValidated = false

structure Inv (lacie : BitVec 64) (s : Sys) : Prop where
  earned : Earned lacie s.history
  lock : s.native.holdsTb = true ↔ s.domain = .native
  allow : s.fields.allowPcie = s.native.allows
  stopped : s.fields.stopped = true ↔ .stopped ∈ s.history
  refused : ∀ e, s.fields.refusal = some e ↔ .refused e ∈ s.history
  turns : polls s.history ≤ 1000
  ctlStop : .ctlStop ∈ s.history → s.fields.stopped = true ∧ s.native.stopping = false
  stopping : s.native.stopping = true → s.fields.stopped = true
  fresh : s.fields.attempted = false →
    s.storage = {} ∧ polls s.history = 0 ∧ ∀ m ∈ s.history, m.level = 0
  word : ∀ word pt, s.native = .connect word pt → connectWordAllowed word = 0
  inside : ∀ word pt k, s.native = .connect word pt → pt.reached = some k → Inside s k
  has : ∀ word pt, s.native = .connect word pt → pt.Has lacie s.history s.fields.refusal s.now
  opened : ∀ b, s.storage.owner = some b → b.downstream = true → .opened ∈ s.history
  admitted : ∀ d, s.storage.nvmeAllowed d = true →
    ∃ devices, .validated devices (some d) ∈ s.history

lemma Inv.init : Inv lacie {} := by
  constructor <;>
    simp [Earned, Sys.fields, Owner.refusal, Owner.refused, Storage.nvmeAllowed, polls]

lemma polls_cons (hm : m.isPoll = false) (h : List Mark) : polls (m :: h) = polls h :=
  List.countP_cons_of_neg (by rw [hm]; decide)

lemma polls_poll (h : List Mark) : polls (.poll :: h) = polls h + 1 :=
  List.countP_cons_of_pos rfl

lemma Paced.cons {p : Poll} {t : ℕ} (hp : Paced h p t)
    (hm : m.isPoll = false) : Paced (m :: h) p t := by
  unfold Paced
  rw [polls_cons hm]
  exact hp

lemma Paced.mono {p : Poll} {t t' : ℕ} (hp : Paced h p t) (ht : t ≤ t') :
    Paced h p t' := by
  unfold Paced at hp ⊢
  omega

lemma Inside.level_cons {k k' : ℕ} (hin : Inside s k) (hk : k ≤ k')
    (hm : m.level ≤ k') : ∀ m' ∈ m :: s.history, m'.level ≤ k' :=
  List.forall_mem_cons.2 ⟨hm, fun m' hold => (hin.level m' hold).trans hk⟩

variable {k : ℕ}

lemma mem_or_level_le (hm : m.level ≤ k) :
    ∀ m' ∈ m :: h, m' ∈ h ∨ m'.level ≤ k :=
  List.forall_mem_cons.2 ⟨.inr hm, fun _ hold => .inl hold⟩

/-! ### The steps of a connect -/

/-- The marks of the call itself; the others are those of a stop and of a scan. -/
@[simp] def Mark.own : Mark → Bool
  | .stopped | .ctlStop | .refused _ => false
  | .valid _ | .command _ | .poll | .rescan | .enumerated _ | .pcieStart _ | .tunnel _ _
  | .approved _ | .pcieTrain _ | .opened | .validated _ _ | .below | .nvme _ | .returned _ => true

def Adds (lacie : BitVec 64) (h h' : List Mark) : Prop :=
  h' = h ∨ ∃ m, h' = m :: h ∧ m.own = true ∧ m.Earned lacie h

lemma Adds.earned {h h' : List Mark} (ha : Adds lacie h h') (hh : Earned lacie h) :
    Earned lacie h' := by
  obtain rfl | ⟨m, rfl, -, hm⟩ := ha
  · exact hh
  · exact hh.cons hm

lemma Adds.subset {h h' : List Mark} (ha : Adds lacie h h') (hm : m ∈ h) : m ∈ h' := by
  obtain rfl | ⟨m', rfl, -, -⟩ := ha
  · exact hm
  · exact List.mem_cons_of_mem _ hm

lemma Adds.mem_iff {h h' : List Mark} (ha : Adds lacie h h') (hm : m.own = false) :
    m ∈ h' ↔ m ∈ h := by
  obtain rfl | ⟨m', rfl, hown, -⟩ := ha
  · exact Iff.rfl
  · rw [List.mem_cons]
    refine or_iff_right fun heq => ?_
    rw [heq, hown] at hm
    cases hm

/-! ### What others leave -/

/-- What everyone else leaves who does something while a call has `native_lock`, and what a scan
leaves whoever makes it. -/
structure Quiet (lacie : BitVec 64) (s s' : Sys) : Prop where
  native : s'.native = s.native
  storage : s'.storage = s.storage
  now : s.now ≤ s'.now
  isSome : s'.owner.isSome = s.owner.isSome
  live : s'.fields.live = s.fields.live
  attempted : s'.fields.attempted = s.fields.attempted
  stopped : s'.fields.stopped = s.fields.stopped
  allow : s'.fields.allowPcie = s.fields.allowPcie
  history : (s'.history = s.history ∧ s'.fields.refusal = s.fields.refusal) ∨
    (∃ m, s'.history = m :: s.history ∧ s'.fields.refusal = s.fields.refusal ∧
      m.level = 0 ∧ (∀ b, m ≠ .valid b) ∧ m.isPoll = false ∧ m.own = true ∧
      m.Earned lacie s.history) ∨
    ∃ e, s'.history = .refused e :: s.history ∧ s.fields.refusal = none ∧
      s'.fields.refusal = some e

lemma Quiet.refl (s : Sys) : Quiet lacie s s :=
  ⟨rfl, rfl, le_rfl, rfl, rfl, rfl, rfl, rfl, .inl ⟨rfl, rfl⟩⟩

lemma Quiet.of_domain {rs : List Router} {d : DomainAt} :
    Quiet lacie s { s with routers := rs, domain := d } :=
  ⟨rfl, rfl, le_rfl, rfl, rfl, rfl, rfl, rfl, .inl ⟨rfl, rfl⟩⟩

variable {pt : ConnectAt}

/-- What was known of a statement is known later and after a mark, if it is neither an answer of
`valid` nor a turn of the loop. -/
lemma ConnectAt.Has.cons {r : Option ℤ} {now : ℕ}
    (hpt : pt.Has lacie h r now) (hm : ∀ b, m ≠ .valid b) (hp : m.isPoll = false) :
    pt.Has lacie (m :: h) r now := by
  have hv : lastValid (m :: h) = lastValid h := by
    cases m with
    | valid b => exact absurd rfl (hm b)
    | _ => rfl
  have hpaced : ∀ p t, Paced (m :: h) p t ↔ Paced h p t := by
    intro p t
    rw [Paced, polls_cons hp]
    rfl
  cases pt <;> simp only [ConnectAt.Has, hv, polls_cons hp, hpaced, List.mem_cons] at hpt ⊢ <;>
    grind

lemma ConnectAt.Has.later {r : Option ℤ} {now now' : ℕ}
    (hpt : pt.Has lacie h r now) (ht : now ≤ now') : pt.Has lacie h r now' := by
  have hpaced : ∀ p k, Paced h p (now + k) → Paced h p (now' + k) :=
    fun p k hp => hp.mono (Nat.add_le_add_right ht k)
  cases pt with
  | pollValid p | tryLock p => exact ⟨hpt.1, hpaced p 0 hpt.2.1, hpt.2.2⟩
  | look p | unlock p | sleep p => exact ⟨hpaced p 20 hpt.1, hpt.2⟩
  | rescanValid p => exact ⟨hpt.1, hpt.2.1, hpaced p 20 hpt.2.2.1, hpt.2.2.2⟩
  | rescan p => exact ⟨hpt.1, hpt.2.1, hpt.2.2.1, hpaced p 20 hpt.2.2.2.1, hpt.2.2.2.2⟩
  | rescanning p k => exact ⟨hpt.1, hpaced p 20 hpt.2.1, hpt.2.2⟩
  | _ => exact hpt

/-- The statements that rely on that no refusal is recorded. -/
@[simp] def NativeAt.relies : NativeAt → Bool
  | .connect _ (.rescanValid _) | .connect _ (.rescan _) => true
  | _ => false

/-- At the other statements a refusal may be recorded. -/
lemma ConnectAt.Has.of_not_relies {r r' : Option ℤ} {now : ℕ}
    (hpt : pt.Has lacie h r now) (hr : (NativeAt.connect word pt).relies = false) :
    pt.Has lacie h r' now := by
  cases pt <;> first | exact hpt | cases hr

lemma Inv.not_refused (h : Inv lacie s) (hr : s.fields.refusal = none) (e : ℤ) :
    .refused e ∉ s.history := by
  intro he
  rw [(h.refused e).2 he] at hr
  cases hr

lemma Inv.quiet (h : Inv lacie s) (hq : Quiet lacie s s')
    (hlock : s.native.holdsTb = true ↔ s'.domain = .native)
    (hr : s.native.relies = false ∨ s'.fields.refusal = s.fields.refusal) : Inv lacie s' := by
  have hsub : ∀ m ∈ s.history, m ∈ s'.history := by
    intro m hm
    rcases hq.history with ⟨hh, -⟩ | ⟨m', hh, -⟩ | ⟨e, hh, -⟩
    · exact hh ▸ hm
    · exact hh ▸ List.mem_cons_of_mem _ hm
    · exact hh ▸ List.mem_cons_of_mem _ hm
  -- The others make no mark of the chain.
  have hlevel : ∀ m ∈ s'.history, m ∈ s.history ∨ m.level = 0 := by
    intro m hm
    rcases hq.history with ⟨hh, -⟩ | ⟨m', hh, -, h0, -⟩ | ⟨e, hh, -⟩
    · exact .inl (hh ▸ hm)
    · rcases List.mem_cons.1 (hh ▸ hm) with rfl | hm
      · exact .inr h0
      · exact .inl hm
    · rcases List.mem_cons.1 (hh ▸ hm) with rfl | hm
      · exact .inr rfl
      · exact .inl hm
  have hkeep : ∀ m : Mark, m.own = false → (∀ e, m ≠ .refused e) →
      (m ∈ s'.history ↔ m ∈ s.history) := by
    intro m hm hne
    refine ⟨fun hmem => ?_, hsub m⟩
    rcases hq.history with ⟨hh, -⟩ | ⟨m', hh, -, -, -, -, hown, -⟩ | ⟨e, hh, -⟩
    · exact hh ▸ hmem
    · rcases List.mem_cons.1 (hh ▸ hmem) with rfl | hmem
      · rw [hown] at hm
        cases hm
      · exact hmem
    · exact (List.mem_cons.1 (hh ▸ hmem)).resolve_left (hne e)
  have hpolls : polls s'.history = polls s.history := by
    rcases hq.history with ⟨hh, -⟩ | ⟨m', hh, -, -, -, hp, -⟩ | ⟨e, hh, -⟩
    · rw [hh]
    · rw [hh, polls_cons hp]
    · rw [hh, polls_cons rfl]
  constructor
  case earned =>
    rcases hq.history with ⟨hh, -⟩ | ⟨m', hh, -, -, -, -, -, hm⟩ | ⟨e, hh, hr', -⟩
    · exact hh ▸ h.earned
    · exact hh ▸ h.earned.cons hm
    · exact hh ▸ h.earned.cons (h.not_refused hr')
  case lock => rw [hq.native]; exact hlock
  case allow => rw [hq.allow, hq.native]; exact h.allow
  case stopped =>
    rw [hq.stopped, hkeep _ rfl (by simp)]
    exact h.stopped
  case refused =>
    intro e'
    rcases hq.history with ⟨hh, hr'⟩ | ⟨m', hh, hr', -, -, -, hown, -⟩ | ⟨e, hh, hold, hr'⟩
    · rw [hr', hh, h.refused]
    · rw [hr', hh, h.refused, List.mem_cons, or_iff_right]
      rintro rfl
      cases hown
    · rw [hr', hh, List.mem_cons, or_iff_left (h.not_refused hold e'), Option.some.injEq,
        Mark.refused.injEq, eq_comm]
  case turns => exact hpolls ▸ h.turns
  case ctlStop =>
    rw [hkeep _ rfl (by simp), hq.stopped, hq.native]
    exact h.ctlStop
  case stopping => rw [hq.native, hq.stopped]; exact h.stopping
  case fresh =>
    rw [hq.attempted, hq.storage, hpolls]
    intro ha
    refine ⟨(h.fresh ha).1, (h.fresh ha).2.1, fun m hm => ?_⟩
    rcases hlevel m hm with hold | h0
    · exact (h.fresh ha).2.2 m hold
    · exact h0
  case word => rw [hq.native]; exact h.word
  case inside =>
    intro word pt k hn hk
    have hin := h.inside word pt k (hq.native ▸ hn) hk
    refine ⟨hq.isSome.trans hin.owner, hq.live.trans hin.live, hq.stopped.trans hin.going,
      hq.attempted.trans hin.attempted, fun m hm => ?_, hq.storage ▸ hin.endpoint⟩
    rcases hlevel m hm with hold | h0
    · exact hin.level m hold
    · exact h0 ▸ Nat.zero_le k
  case has =>
    intro word pt hn
    rw [hq.native] at hn
    have hhas := (h.has word pt hn).later hq.now
    rw [hn] at hr
    rcases hq.history with ⟨hh, hr'⟩ | ⟨m', hh, hr', -, hv, hp, -⟩ | ⟨e, hh, hold, hnew⟩
    · rw [hh, hr']
      exact hhas
    · rw [hh, hr']
      exact hhas.cons hv hp
    · rw [hh]
      rcases hr with hr | hr
      · exact (hhas.cons (by simp) rfl).of_not_relies hr
      · rw [hold, hnew] at hr
        cases hr
  case opened =>
    rw [hq.storage]
    exact fun b hb hd => hsub _ (h.opened b hb hd)
  case admitted =>
    rw [hq.storage]
    intro d hd
    obtain ⟨devices, hv⟩ := h.admitted d hd
    exact ⟨devices, hsub _ hv⟩

lemma Quiet.of_record {o o' : Owner} (ho : s.owner = some o)
    (hlive : o'.live = o.live) (hatt : o'.attempted = o.attempted) (hstop : o'.stopped = o.stopped)
    (hallow : o'.allowPcie = o.allowPcie) (hh : (h = s.history ∧ o'.refusal = o.refusal) ∨
      ∃ e, h = .refused e :: s.history ∧ o.refusal = none ∧ o'.refusal = some e) :
    Quiet lacie s { s with owner := some o', history := h } := by
  obtain rfl : s.fields = o := by simp [Sys.fields, ho]
  refine ⟨rfl, rfl, le_rfl, by simp [ho], hlive, hatt, hstop, hallow, ?_⟩
  rcases hh with hh | hh
  · exact .inl hh
  · exact .inr (.inr hh)

lemma Sys.scanResult_quiet (s : Sys) (e : ℤ) (p : Bool) : Quiet lacie s (s.scanResult e p) := by
  unfold Sys.scanResult
  cases ho : s.owner with
  | none => exact .refl s
  | some o =>
    dsimp only
    cases hr : o.refused
    · have hrec : o.scanResult e p = { o with
          scanResults := o.scanResults + 1
          scanError := e
          scanPreconfig := p } := if_neg (by simp [hr])
      rw [hrec]
      have hnone : o.refusal = none := if_neg (by simp [hr])
      split
      case isTrue hnew =>
        refine .of_record ho rfl rfl rfl rfl (.inr ⟨e, rfl, hnone, if_pos ?_⟩)
        simpa using hnew
      case isFalse hold =>
        refine .of_record ho rfl rfl rfl rfl (.inl ⟨rfl, ?_⟩)
        rw [hnone]
        exact if_neg (by simpa using hold)
    · have hrec : o.scanResult e p = o := if_pos hr
      rw [hrec]
      exact .of_record ho rfl rfl rfl rfl (.inl ⟨rfl, rfl⟩)

/-- Whoever scans a port, nothing comes of it but routers and the record. -/
lemma Sys.scanPort_quiet (s : Sys) (lacie : BitVec 64) (k : Scan) (c : Found) :
    Quiet lacie s (s.scanPort lacie k c).1 ∧ (s.scanPort lacie k c).1.domain = s.domain := by
  unfold Sys.scanPort
  split
  · split <;> exact ⟨.refl s, rfl⟩
  · exact ⟨.refl s, rfl⟩
  · dsimp only
    split <;> exact ⟨.refl s, rfl⟩
  · split <;> exact ⟨.refl s, rfl⟩
  · split
    · exact ⟨.refl s, rfl⟩
    · exact ⟨.of_domain, rfl⟩
  · exact ⟨.refl s, rfl⟩
  · refine ⟨s.scanResult_quiet _ _, ?_⟩
    unfold Sys.scanResult
    split
    · rfl
    · dsimp only
      split <;> rfl
  · exact ⟨.refl s, rfl⟩

lemma fields_setOwner {f : Owner → Owner} (hs : s.owner.isSome = true) :
    (s.setOwner f).fields = f s.fields := by
  obtain ⟨o, ho⟩ := Option.isSome_iff_exists.1 hs
  simp [Sys.fields, Sys.setOwner, ho]

/-- The store to `allow_pcie` is the only one a connect does after its claim. -/
lemma fields_allow (hs : s.owner.isSome = true) {b : Bool}
    (ho : s'.owner = s.owner.map fun o => { o with allowPcie := b }) :
    s'.fields = { s.fields with allowPcie := b } := by
  obtain ⟨o, ho'⟩ := Option.isSome_iff_exists.1 hs
  simp [Sys.fields, ho, ho']

/-- A step from one statement of a connect to another. -/
lemma Inv.advance (h : Inv lacie s) {pt pt' : ConnectAt}
    (hn : s.native = .connect word pt) (hk : pt.reached = some k)
    (hn' : s'.native = .connect word pt') (hlock : pt'.holdsTb = true ↔ s'.domain = .native)
    (howner : s'.owner = s.owner.map fun o => { o with allowPcie := pt'.allows })
    (hadds : Adds lacie s.history s'.history) (hpolls : polls s'.history ≤ 1000)
    (hlevel : ∀ k', pt'.reached = some k' → ∀ m ∈ s'.history, m.level ≤ k')
    (hend : ∀ k', pt'.reached = some k' → k' ≤ 8 →
      ∀ b, s'.storage.owner = some b → b.endpoint = none ∧ b.endpointValidated = false)
    (hopen : ∀ b, s'.storage.owner = some b → b.downstream = true → .opened ∈ s'.history)
    (hadm : ∀ d, s'.storage.nvmeAllowed d = true →
      ∃ devices, .validated devices (some d) ∈ s'.history)
    (hhas : pt'.Has lacie s'.history s.fields.refusal s'.now) : Inv lacie s' := by
  have hin := h.inside _ _ _ hn hk
  have hf := fields_allow hin.owner howner
  have hrefused : s'.fields.refusal = s.fields.refusal := by rw [hf]; rfl
  constructor
  case earned => exact hadds.earned h.earned
  case lock => rw [hn']; exact hlock
  case allow => rw [hf, hn']; rfl
  case stopped =>
    rw [hf, hadds.mem_iff rfl]
    exact h.stopped
  case refused =>
    intro e
    rw [hrefused, h.refused]
    exact (hadds.mem_iff rfl).symm
  case turns => exact hpolls
  case ctlStop =>
    rw [hf, hn', hadds.mem_iff rfl]
    exact fun hc => ⟨(h.ctlStop hc).1, rfl⟩
  case stopping => rw [hn']; exact fun hc => by cases hc
  case fresh =>
    rw [hf]
    exact fun hc => absurd (hin.attempted.symm.trans hc) (by decide)
  case word =>
    rintro w pt₁ h₁
    obtain ⟨rfl, rfl⟩ := NativeAt.connect.inj (hn'.symm.trans h₁)
    exact h.word _ _ hn
  case inside =>
    rintro w pt₁ k₁ h₁ hk₁
    obtain ⟨rfl, rfl⟩ := NativeAt.connect.inj (hn'.symm.trans h₁)
    refine ⟨by simpa [howner] using hin.owner, ?_, ?_, ?_, hlevel _ hk₁, hend _ hk₁⟩
    · rw [hf]; exact hin.live
    · rw [hf]; exact hin.going
    · rw [hf]; exact hin.attempted
  case has =>
    rintro w pt₁ h₁
    obtain ⟨rfl, rfl⟩ := NativeAt.connect.inj (hn'.symm.trans h₁)
    rw [hrefused]
    exact hhas
  case opened => exact hopen
  case admitted => exact hadm

/-- A step that leaves the bridge alone. -/
lemma Inv.go (h : Inv lacie s) (pt' : ConnectAt)
    (hn : s.native = .connect word pt) (hk : pt.reached = some k)
    (hn' : s'.native = .connect word pt') (hlock : pt'.holdsTb = true ↔ s'.domain = .native)
    (howner : s'.owner = s.owner.map fun o => { o with allowPcie := pt'.allows })
    (hstorage : s'.storage = s.storage) (hadds : Adds lacie s.history s'.history)
    (hpolls : polls s'.history ≤ 1000)
    (hle : ∀ k', pt'.reached = some k' → k ≤ k' ∧ ∀ m ∈ s'.history, m ∈ s.history ∨ m.level ≤ k')
    (hhas : pt'.Has lacie s'.history s.fields.refusal s'.now) : Inv lacie s' := by
  have hin := h.inside _ _ _ hn hk
  refine h.advance hn hk hn' hlock howner hadds hpolls ?_ ?_ ?_ ?_ hhas
  · intro k' hk' m hm
    obtain ⟨hkk, hnew⟩ := hle k' hk'
    rcases hnew m hm with hold | hlow
    · exact (hin.level m hold).trans hkk
    · exact hlow
  · intro k' hk' h8
    rw [hstorage]
    exact hin.endpoint ((hle k' hk').1.trans h8)
  · intro b hb hd
    exact hadds.subset (h.opened b (hstorage ▸ hb) hd)
  · intro d hd
    obtain ⟨devices, hv⟩ := h.admitted d (hstorage ▸ hd)
    exact ⟨devices, hadds.subset hv⟩

lemma Inv.owner_eq (h : Inv lacie s) {pt pt' : ConnectAt} (hn : s.native = .connect word pt)
    (ha : pt'.allows = pt.allows) :
    s.owner = s.owner.map fun o => { o with allowPcie := pt'.allows } := by
  have hallow := h.allow
  rw [hn] at hallow
  cases ho : s.owner with
  | none => rfl
  | some o =>
    simp only [Sys.fields, ho, Option.getD_some, NativeAt.allows] at hallow
    simp only [Option.map_some, ha, ← hallow]

lemma Inv.lockAt (h : Inv lacie s) (hn : s.native = .connect word pt) :
    pt.holdsTb = true ↔ s.domain = .native := by
  have := h.lock
  rwa [hn] at this

lemma Inv.jump (h : Inv lacie s) (pt' : ConnectAt)
    (hn : s.native = .connect word pt) (hk : pt.reached = some k)
    (hn' : s'.native = .connect word pt') (hlock : pt'.holdsTb = true ↔ s'.domain = .native)
    (ha : pt'.allows = pt.allows) (howner : s'.owner = s.owner) (hstorage : s'.storage = s.storage)
    (hh : s'.history = s.history) (hle : ∀ k', pt'.reached = some k' → k ≤ k')
    (hhas : pt'.Has lacie s.history s.fields.refusal s'.now) : Inv lacie s' :=
  h.go pt' hn hk hn' hlock (howner.trans (h.owner_eq hn ha)) hstorage (.inl hh) (hh ▸ h.turns)
    (fun k' hk' => ⟨hle k' hk', fun _ hm => .inl (hh ▸ hm)⟩) (hh ▸ hhas)

lemma Inv.note (h : Inv lacie s) (pt' : ConnectAt)
    (hn : s.native = .connect word pt) (hk : pt.reached = some k)
    (hn' : s'.native = .connect word pt') (hlock : pt'.holdsTb = true ↔ s'.domain = .native)
    (ha : pt'.allows = pt.allows) (howner : s'.owner = s.owner) (hstorage : s'.storage = s.storage)
    (hh : s'.history = m :: s.history) (hown : m.own = true) (hpoll : m.isPoll = false)
    (hm : m.Earned lacie s.history) (hle : ∀ k', pt'.reached = some k' → k ≤ k' ∧ m.level ≤ k')
    (hhas : pt'.Has lacie (m :: s.history) s.fields.refusal s'.now) : Inv lacie s' := by
  refine h.go pt' hn hk hn' hlock (howner.trans (h.owner_eq hn ha)) hstorage
    (.inr ⟨m, hh, hown, hm⟩) (by rw [hh, polls_cons hpoll]; exact h.turns)
    (fun k' hk' => ⟨(hle k' hk').1, ?_⟩) (hh ▸ hhas)
  rw [hh]
  exact mem_or_level_le (hle k' hk').2

/-- A step that makes a mark and leaves the bridge as closed as it was. -/
lemma Inv.store (h : Inv lacie s) (pt' : ConnectAt)
    (hn : s.native = .connect word pt) (hk : pt.reached = some k)
    (hn' : s'.native = .connect word pt') (hlock : pt'.holdsTb = true ↔ s'.domain = .native)
    (ha : pt'.allows = pt.allows) (howner : s'.owner = s.owner)
    (hstorage : s.storage.Calm s'.storage) (hh : s'.history = m :: s.history)
    (hown : m.own = true) (hpoll : m.isPoll = false) (hm : m.Earned lacie s.history)
    (hle : ∀ k', pt'.reached = some k' → k ≤ k' ∧ m.level ≤ k')
    (hhas : pt'.Has lacie (m :: s.history) s.fields.refusal s'.now) : Inv lacie s' := by
  have hin := h.inside _ _ _ hn hk
  have hadds : Adds lacie s.history s'.history := .inr ⟨m, hh, hown, hm⟩
  refine h.advance hn hk hn' hlock (howner.trans (h.owner_eq hn ha)) hadds
    (by rw [hh, polls_cons hpoll]; exact h.turns) ?_ ?_ ?_ ?_ (hh ▸ hhas)
  · intro k' hk'
    rw [hh]
    exact hin.level_cons (hle k' hk').1 (hle k' hk').2
  · intro k' hk' h8 b' hb'
    rcases hstorage b' hb' with ⟨b, hb, he, -, hv⟩ | ⟨he, -, hv⟩
    · rw [he, hv]
      exact hin.endpoint ((hle k' hk').1.trans h8) b hb
    · exact ⟨he, hv⟩
  · intro b' hb' hd'
    rcases hstorage b' hb' with ⟨b, hb, -, hd, -⟩ | ⟨-, hd, -⟩
    · exact hadds.subset (h.opened b hb (hd ▸ hd'))
    · rw [hd] at hd'
      cases hd'
  · intro d hd
    cases hb' : s'.storage.owner with
    | none => simp [Storage.nvmeAllowed, hb'] at hd
    | some b' =>
      simp only [Storage.nvmeAllowed, hb'] at hd
      rcases hstorage b' hb' with ⟨b, hb, he, -, hv⟩ | ⟨-, -, hv⟩
      · obtain ⟨devices, hmem⟩ := h.admitted d (by simpa [Storage.nvmeAllowed, hb, he, hv] using hd)
        exact ⟨devices, hadds.subset hmem⟩
      · simp [hv] at hd

lemma Inv.askValid (h : Inv lacie s) {pt pt' : ConnectAt}
    (hn : s.native = .connect word pt) (hk : pt.reached = some k) (hpt : pt.holdsTb = false)
    (hpt' : pt'.holdsTb = false) (ha : pt.allows = false) (ha' : pt'.allows = false)
    (hle : ∀ k', pt'.reached = some k' → k ≤ k')
    (hhas : pt'.Has lacie (.valid true :: s.history) s.fields.refusal s.now) :
    Inv lacie (s.askValid word c pt') := by
  have hlock : false = true ↔ s.domain = .native := hpt ▸ h.lockAt hn
  unfold Sys.askValid
  cases hv : c.valid
  · exact h.note (.leave (-enotconn)) (m := .valid false) hn hk rfl hlock ha.symm rfl rfl rfl rfl
      rfl trivial (fun k' hk' => by cases hk') fun h0 => absurd h0 (by decide)
  · exact h.note pt' (m := .valid true) hn hk rfl (hpt' ▸ hlock) (ha'.trans ha.symm) rfl rfl rfl rfl
      rfl trivial (fun k' hk' => ⟨hle k' hk', Nat.zero_le _⟩) hhas

/-! ### From and to the outside -/

/-- No statement of a connect between its claim and its success. -/
inductive NativeAt.Outside : NativeAt → Prop
  | free : Outside .free
  | start (pt : StartAt) : Outside (.start pt)
  | stop (pt : StopAt) : Outside (.stop pt)
  | claim {word : BitVec 32} (hw : connectWordAllowed word = 0) : Outside (.connect word .claim)
  | leave {word : BitVec 32} (hw : connectWordAllowed word = 0) {ret : ℤ} (hret : ret ≠ 0) :
    Outside (.connect word (.leave ret))

lemma Inv.outside (h : Inv lacie s) (hout : s'.native.Outside)
    (hlock : s'.native.holdsTb = true ↔ s'.domain = .native)
    (hallow : s'.fields.allowPcie = false) (hstop : s'.fields.stopped = s.fields.stopped)
    (hatt : s'.fields.attempted = s.fields.attempted)
    (href : s'.fields.refusal = s.fields.refusal) (hstorage : s'.storage = s.storage)
    (hh : s'.history = s.history)
    (hstopping : s'.native.stopping = true → s.native.stopping = true) : Inv lacie s' := by
  constructor
  case earned => exact hh ▸ h.earned
  case lock => exact hlock
  case allow =>
    rw [hallow]
    generalize s'.native = n at hout
    cases hout <;> rfl
  case stopped => rw [hstop, hh]; exact h.stopped
  case refused => rw [href, hh]; exact h.refused
  case turns => rw [hh]; exact h.turns
  case ctlStop =>
    rw [hstop, hh]
    intro hc
    refine ⟨(h.ctlStop hc).1, Bool.eq_false_iff.2 fun hs => ?_⟩
    rw [(h.ctlStop hc).2] at hstopping
    cases hstopping hs
  case stopping => rw [hstop]; exact fun hs => h.stopping (hstopping hs)
  case fresh => rw [hatt, hh, hstorage]; exact h.fresh
  case word =>
    intro word pt hn
    rw [hn] at hout
    cases hout <;> assumption
  case inside =>
    intro word pt k hn hk
    rw [hn] at hout
    cases hout <;> cases hk
  case has =>
    intro word pt hn
    rw [hn] at hout
    cases hout with
    | claim => trivial
    | leave hw hret => exact fun h0 => absurd h0 hret
  case opened => rw [hstorage, hh]; exact h.opened
  case admitted => rw [hstorage, hh]; exact h.admitted

lemma Inv.leave (h : Inv lacie s) {ret : ℤ} (hn : s.native = .connect word (.leave ret)) :
    Inv lacie ({ s with native := .free }.mark (.returned ret)) := by
  have hlock := h.lockAt hn
  have hallow := h.allow
  rw [hn] at hallow
  have hfree : Inv lacie { s with native := .free } :=
    h.outside .free hlock hallow rfl rfl rfl rfl rfl (by simp)
  exact hfree.quiet ⟨rfl, rfl, le_rfl, rfl, rfl, rfl, rfl, rfl, .inr (.inl
    ⟨_, rfl, rfl, rfl, by simp, rfl, rfl, h.has _ _ hn⟩)⟩ hlock (.inl rfl)

lemma Inv.claim (h : Inv lacie s) (hn : s.native = .connect word .claim)
    (hs : s.connectStep lacie word c .claim = some s') : Inv lacie s' := by
  have hlock := h.lockAt hn
  have hallow := h.allow
  have hword := h.word _ _ hn
  rw [hn] at hallow
  simp only [Sys.connectStep] at hs
  cases ho : s.owner with
  | none =>
    simp only [ho] at hs
    cases hs
    exact h.outside (.leave hword (by decide)) hlock hallow rfl rfl rfl rfl rfl
      fun hc => by cases hc
  | some o =>
    simp only [ho] at hs
    split at hs
    · cases hs
      exact h.outside (.leave hword (by decide)) hlock hallow rfl rfl rfl rfl rfl
        fun hc => by cases hc
    · rename_i hguard
      obtain ⟨⟨⟨hlive, hstop⟩, hatt⟩, -⟩ : ((o.live = true ∧ o.stopped = false) ∧
          o.attempted = false) ∧ o.connect = true := by simpa using hguard
      obtain rfl : s.fields = o := by simp [Sys.fields, ho]
      -- The first claim: the bridge is untouched and the chain empty.
      obtain ⟨hstorage, hturns, hlevel⟩ := h.fresh hatt
      cases hs
      have hfields : ((s.setOwner fun o => { o with attempted := true }).atConnect word
          .validFirst).fields = { s.fields with attempted := true } :=
        fields_setOwner (by rw [ho]; rfl)
      constructor
      case earned => exact h.earned
      case lock => exact hlock
      case allow => rw [hfields]; exact hallow
      case stopped => rw [hfields]; exact h.stopped
      case refused => rw [hfields]; exact h.refused
      case turns => exact h.turns
      case ctlStop =>
        intro hc
        exact absurd (h.ctlStop hc).1 (by rw [hstop]; decide)
      case stopping => exact fun hc => by cases hc
      case fresh =>
        rw [hfields]
        exact fun hc => by cases hc
      case word =>
        rintro w pt ⟨⟩
        exact hword
      case inside =>
        rintro w pt k ⟨⟩ ⟨⟩
        refine ⟨by simp [Sys.setOwner, Sys.atConnect, ho], ?_, ?_, ?_,
          fun m hm => (hlevel m hm).le, fun _ b hb => ?_⟩
        · rw [hfields]; exact hlive
        · rw [hfields]; exact hstop
        · rw [hfields]
        · have hnone : s.storage.owner = some b := hb
          rw [hstorage] at hnone
          cases hnone
      case has =>
        rintro w pt ⟨⟩
        exact hturns
      case opened => exact h.opened
      case admitted => exact h.admitted

section Connect

variable {k : ℕ}

lemma Inside.not_stopped (hin : Inside s k) (h : Inv lacie s) : .stopped ∉ s.history := by
  intro hs
  have := h.stopped.2 hs
  rw [hin.going] at this
  cases this

lemma Inside.going_of (hin : Inside s k) (h : Inv lacie s) (hv : lastValid s.history = some true) :
    Going s.history :=
  ⟨hv, hin.not_stopped h⟩

lemma Inside.before (hin : Inside s k) {n : ℕ} (hn : k < n) : Before s.history n :=
  fun m hm => (hin.level m hm).trans_lt hn

lemma uidAllowed_eq_zero {route uid : BitVec 64} :
    uidAllowed lacie route uid = 0 ↔ lacie ≠ 0 ∧ route = 2 ∧ uid = lacie := by
  unfold uidAllowed
  split
  · exact iff_of_true rfl ‹_›
  · exact iff_of_false (by decide) ‹_›

lemma Router.Exact.of_find {r : Router} (hf : s.findByRoute 2 = some r)
    (hu : uidAllowed lacie 2 r.uid = 0) : r.Exact lacie := by
  obtain ⟨h0, -, hu⟩ := uidAllowed_eq_zero.1 hu
  exact ⟨by simpa using List.find?_some hf, hu, h0⟩

lemma Router.Exact.of_enumerate {r : Router} (hf : s.findByRoute 2 = some r)
    (he : r.enumerate lacie = 0) : r.Exact lacie := by
  unfold Router.enumerate at he
  split at he
  · exact absurd he ‹_›
  · exact .of_find hf (not_not.1 ‹_›)

lemma Router.Exact.of_approvable {r : Router} {valid : Bool} (hf : s.findByRoute 2 = some r)
    (he : r.approvable lacie valid = 0) : r.Exact lacie ∧ valid = true := by
  unfold Router.approvable at he
  split at he
  · exact absurd he ‹_›
  · split at he
    · exact absurd he (by decide)
    · refine ⟨.of_find hf (not_not.1 ‹_›), ?_⟩
      cases valid <;> simp_all

lemma Inv.scanOpen (h : Inv lacie s) (hn : s.native = .connect word .scanOpen)
    (hs : s.connectStep lacie word c .scanOpen = some s') : Inv lacie s' := by
  have hhas := h.has _ _ hn
  have hlock := h.lockAt hn
  have hin := h.inside _ _ _ hn rfl
  simp only [Sys.connectStep] at hs
  split at hs
  · cases hs
    exact h.jump _ hn rfl rfl hlock rfl rfl rfl rfl (by simp) fun h0 => absurd h0 (by decide)
  · rename_i storage hopen
    obtain ⟨b, hb, rfl⟩ := Storage.scanOpen_some hopen
    cases hs
    refine h.advance hn rfl rfl hlock (h.owner_eq hn rfl) (.inr ⟨.opened, rfl, rfl,
      hin.going_of h hhas.1, hin.before (by decide), hhas.2⟩)
      ((polls_cons rfl _).trans_le h.turns) ?_ ?_ ?_ ?_ List.mem_cons_self
    · rintro k' ⟨⟩
      exact hin.level_cons (by decide) le_rfl
    · intro k' _ _ b' hb'
      obtain rfl := Option.some.inj hb'
      exact hin.endpoint (by decide) b hb
    · exact fun _ _ _ => List.mem_cons_self
    · intro d hd
      have hnone := (hin.endpoint (by decide) b hb).2
      simp [Storage.nvmeAllowed, Sys.atConnect, hnone] at hd

lemma Inv.scanFinish (h : Inv lacie s) (hn : s.native = .connect word .scanFinish)
    (hs : s.connectStep lacie word c .scanFinish = some s') : Inv lacie s' := by
  have hhas := h.has _ _ hn
  have hlock := h.lockAt hn
  have hin := h.inside _ _ _ hn rfl
  simp only [Sys.connectStep] at hs
  cases hfin : s.storage.scanFinish c.devices with
  | mk storage ret =>
    simp only [hfin] at hs
    by_cases hret : ret = 0
    · subst hret
      obtain ⟨b, d, hb, hsole, rfl⟩ :=
        Storage.scanFinish_ok (fun b hb => (hin.endpoint (by decide) b hb).1) hfin
      cases hs
      refine h.advance hn rfl rfl hlock (h.owner_eq hn rfl) (.inr ⟨_, rfl, rfl,
        hin.not_stopped h, hin.before (by decide), hhas, d, rfl, hsole⟩)
        ((polls_cons rfl _).trans_le h.turns) ?_ ?_ ?_ ?_ ⟨_, _, List.mem_cons_self⟩
      · rintro k' ⟨⟩
        exact hin.level_cons (by decide) le_rfl
      · intro k' hk' h8
        cases hk'
        exact absurd h8 (by decide)
      · exact fun _ _ _ => List.mem_cons_of_mem _ hhas
      · intro d' hd'
        obtain rfl : d = d' := by simpa [Storage.nvmeAllowed, Sys.atConnect] using hd'
        exact ⟨c.devices, List.mem_cons_self⟩
    · rw [if_pos hret] at hs
      cases hs
      refine h.advance hn rfl rfl hlock (h.owner_eq hn rfl) (.inl rfl) h.turns
        (fun k' hk' => by cases hk') (fun k' hk' => by cases hk') (fun _ _ _ => hhas) ?_
        fun h0 => absurd h0 hret
      intro d hd
      cases hb' : storage.owner with
      | none => simp [Storage.nvmeAllowed, Sys.atConnect, hb'] at hd
      | some b' =>
        obtain ⟨b, hb, -, hv⟩ := Storage.scanFinish_error hfin hret hb'
        rw [(hin.endpoint (by decide) b hb).2] at hv
        simp [Storage.nvmeAllowed, Sys.atConnect, hb', hv] at hd

lemma Inv.approveLook (h : Inv lacie s) {r : Router}
    (hn : s.native = .connect word .approveLook) (hf : s.findByRoute 2 = some r)
    (hs : (if uidAllowed lacie 2 r.uid = 0 then s.mark (.valid c.valid) else s).atConnect word
      (if r.approvable lacie c.valid ≠ 0 then .approveUnlock (r.approvable lacie c.valid)
        else .allow r) = s') : Inv lacie s' := by
  have hhas := h.has _ _ hn
  have hlock := h.lockAt hn
  subst hs
  by_cases hu : uidAllowed lacie 2 r.uid = 0
  · rw [if_pos hu]
    split
    · exact h.note _ (m := .valid c.valid) hn rfl rfl hlock rfl rfl rfl rfl rfl rfl trivial
        (by simp) fun h0 => absurd h0 ‹_›
    · obtain ⟨hexact, hv⟩ := Router.Exact.of_approvable hf (not_not.1 ‹_›)
      exact h.note _ (m := .valid c.valid) hn rfl rfl hlock rfl rfl rfl rfl rfl rfl trivial
        (by simp) ⟨by rw [hv]; rfl, List.mem_cons_of_mem _ hhas, hexact⟩
  · have hne : r.approvable lacie c.valid ≠ 0 := by
      rw [Router.approvable, if_pos hu]
      exact hu
    rw [if_neg hu, if_pos hne]
    exact h.jump _ hn rfl rfl hlock rfl rfl rfl rfl (by simp) fun h0 => absurd h0 hne

lemma Sys.tunnelPci_cases (s : Sys) (r : Router) (c : Found) :
    (∃ ret, s.tunnelPci r c = (s, ret)) ∨ s.tunnelPci r c = (s.mark (.tunnel .pci r), 0) := by
  unfold Sys.tunnelPci
  split
  · exact .inl ⟨_, rfl⟩
  · split
    · exact .inl ⟨_, rfl⟩
    · split
      · exact .inl ⟨_, rfl⟩
      · exact .inr rfl

lemma Inv.look (h : Inv lacie s) {p : Poll} {o : Owner} (hn : s.native = .connect word (.look p))
    (ho : s.owner = some o) : Inv lacie (s.look lacie word p o) := by
  have hhas := h.has _ _ hn
  have hlock := h.lockAt hn
  have hin := h.inside _ _ _ hn rfl
  have hfields : s.fields = o := by simp [Sys.fields, ho]
  -- Every error leaves the loop through the unlock.
  have hbreak : ∀ ret, ret ≠ 0 → Inv lacie (s.atConnect word (.unlockBreak ret)) := fun ret hret =>
    h.jump _ hn rfl rfl hlock rfl rfl rfl rfl (by intro k' hk'; cases hk'; split <;> decide)
      fun h0 => absurd h0 hret
  unfold Sys.look
  split
  case isTrue hr =>
    refine hbreak _ fun h0 => ?_
    simp [Owner.refused, h0] at hr
  case isFalse hr =>
    have hnone : s.fields.refusal = none := by rw [hfields]; exact if_neg hr
    have hnot := h.not_refused hnone
    cases hf : s.findByRoute 2 with
    | some r =>
      dsimp only
      split
      · exact hbreak _ ‹_›
      · have hexact := Router.Exact.of_enumerate hf (not_not.1 ‹_›)
        refine h.note _ (m := .enumerated r) hn rfl rfl hlock rfl rfl rfl rfl rfl rfl
          ⟨hin.not_stopped h, hin.before ?_, hhas.2, hnot, hexact⟩ ?_
          fun _ => ⟨r, List.mem_cons_self⟩
        · split <;> decide
        · intro k' hk'
          cases hk'
          exact ⟨by split <;> decide, le_rfl⟩
    | none =>
      dsimp only
      split
      case isTrue hre =>
        have hp : p.rescanned = false := by
          have := hre.1
          simp only [rescanAllowed, Bool.and_eq_true, Bool.not_eq_true'] at this
          exact this.1.1
        refine h.jump _ hn rfl rfl hlock rfl rfl rfl rfl ?_ ⟨rfl, hnone, hhas⟩
        intro k' hk'
        cases hk'
        simp [hp]
      case isFalse => exact h.jump _ hn rfl rfl hlock rfl rfl rfl rfl (by simp) hhas

lemma Inv.connectStep (h : Inv lacie s) (hn : s.native = .connect word pt)
    (hs : s.connectStep lacie word c pt = some s') : Inv lacie s' := by
  have hhas := h.has _ _ hn
  have hlock := h.lockAt hn
  -- One case per statement of `x1_native_connect`, in its order.
  cases pt with
  | claim => exact h.claim hn hs
  | validFirst =>
    cases hs
    exact h.askValid hn rfl rfl rfl rfl rfl (by simp) ⟨rfl, (polls_cons rfl _).trans hhas⟩
  | command =>
    have hin := h.inside _ _ _ hn rfl
    cases hs
    have hearned : Mark.Earned lacie s.history (.command word) :=
      ⟨hin.going_of h hhas.1, hin.before Nat.one_pos, h.word _ _ hn⟩
    split
    · exact h.note _ (m := .command word) hn rfl rfl hlock rfl rfl rfl rfl rfl rfl hearned
        (fun k' hk' => by cases hk') fun h0 => absurd h0 (by assumption)
    · exact h.note _ (m := .command word) hn rfl rfl hlock rfl rfl rfl rfl rfl rfl hearned
        (by simp) ⟨(polls_cons rfl _).trans hhas.2, word, List.mem_cons_self⟩
  | arm =>
    cases hs
    refine h.jump _ hn rfl rfl hlock rfl rfl rfl rfl (by simp) ⟨?_, ?_, hhas.2⟩
    · rw [hhas.1]
      decide
    · rw [Paced, hhas.1]
      exact (Nat.zero_add _).le
  | pollValid p =>
    cases hs
    exact h.askValid hn rfl rfl rfl rfl rfl (by simp)
      ⟨(polls_cons rfl _).trans_lt hhas.1, hhas.2.1.cons rfl, by simpa using hhas.2.2⟩
  | tryLock p =>
    have hin := h.inside _ _ _ hn rfl
    have hadds : Adds lacie s.history (.poll :: s.history) :=
      .inr ⟨.poll, rfl, rfl, hin.not_stopped h, hhas.2.2⟩
    have hturns : polls (.poll :: s.history) ≤ 1000 := (polls_poll _).trans_le hhas.1
    -- A turn takes 20 ms or more, so the clock bounds the turns.
    have hmore : Paced (.poll :: s.history) p (s.now + 20) ∧
        ∃ word, .command word ∈ Mark.poll :: s.history := by
      refine ⟨?_, by simpa using hhas.2.2⟩
      have := hhas.2.1
      rw [Paced] at this ⊢
      rw [polls_poll]
      omega
    have hlow : ∀ k', some (if p.rescanned then 2 else 1) = some k' →
        (if p.rescanned then 2 else 1) ≤ k' ∧
          ∀ m ∈ Mark.poll :: s.history, m ∈ s.history ∨ m.level ≤ k' := by
      intro k' hk'
      exact ⟨(Option.some.inj hk').le, mem_or_level_le (Nat.zero_le k')⟩
    by_cases hfree : s.domain = .free
    · simp only [Sys.connectStep, Sys.lockTb, Sys.mark, hfree, if_true] at hs
      cases hs
      exact h.go (.look p) hn rfl rfl (by simp [Sys.atConnect]) (h.owner_eq hn rfl) rfl hadds
        hturns hlow hmore
    · simp only [Sys.connectStep, Sys.lockTb, Sys.mark, hfree, if_false] at hs
      cases hs
      exact h.go (.sleep p) hn rfl rfl hlock (h.owner_eq hn rfl) rfl hadds hturns hlow hmore
  | look p =>
    obtain ⟨o, ho, rfl⟩ := Option.map_eq_some_iff.1 hs
    exact h.look hn ho
  | rescanValid p =>
    cases hs
    split
    · exact h.note _ (m := .valid c.valid) hn rfl rfl hlock rfl rfl rfl rfl rfl rfl trivial
        (by simp) ⟨by simp [*], hhas.1, hhas.2.1, hhas.2.2.1.cons rfl, by simpa using hhas.2.2.2⟩
    · exact h.note _ (m := .valid c.valid) hn rfl rfl hlock rfl rfl rfl rfl rfl rfl trivial
        (by simp) fun h0 => absurd h0 (by decide)
  | rescan p =>
    have hin := h.inside _ _ _ hn rfl
    have hearned : Mark.Earned lacie s.history .rescan :=
      ⟨hin.going_of h hhas.1, hin.before Nat.one_lt_two, hhas.2.2.2.2, h.not_refused hhas.2.2.1⟩
    cases hs
    split
    · exact h.note _ (m := .rescan) hn rfl rfl hlock rfl rfl rfl rfl rfl rfl hearned (by simp)
        ⟨hhas.2.1, hhas.2.2.2.1.cons rfl, by simpa using hhas.2.2.2.2⟩
    · exact h.note _ (m := .rescan) hn rfl rfl hlock rfl rfl rfl rfl rfl rfl hearned (by simp)
        fun h0 => absurd h0 (by decide)
  | rescanning p k =>
    obtain ⟨hq, hd⟩ := s.scanPort_quiet lacie k c
    have h₁ := h.quiet hq (by rw [hd]; exact h.lock) (.inl (by rw [hn]; rfl))
    have hn₁ := hq.native.trans hn
    simp only [Sys.connectStep] at hs
    split at hs <;> rename_i heq
    all_goals
      rw [heq] at h₁ hn₁
      cases hs
      have hlock₁ := h₁.lockAt hn₁
      have hhas₁ := h₁.has _ _ hn₁
    · exact h₁.jump _ hn₁ rfl rfl hlock₁ rfl rfl rfl rfl (by simp [hhas.1]) hhas₁.2
    · exact h₁.jump _ hn₁ rfl rfl hlock₁ rfl rfl rfl rfl (by simp) hhas₁
  | unlock p =>
    cases hs
    exact h.jump _ hn rfl rfl (by simp [Sys.unlockTb, Sys.atConnect]) rfl rfl rfl rfl (by simp) hhas
  | unlockBreak ret =>
    have hfree : (false = true) ↔ s.unlockTb.domain = .native := by simp [Sys.unlockTb]
    cases hs
    split
    · exact h.jump _ hn rfl rfl hfree rfl rfl rfl rfl (by simp) fun h0 => absurd h0 ‹_›
    · exact h.jump _ hn rfl rfl hfree rfl rfl rfl rfl (by simp) (hhas (not_not.1 ‹_›))
  | sleep p =>
    cases hs
    exact h.jump _ hn rfl rfl hlock rfl rfl rfl rfl (by simp) hhas
  | asleep p wake =>
    simp only [Sys.connectStep] at hs
    split at hs
    · cases hs
    · cases hs
      split
      case isTrue hlate =>
        have hpaced := hhas.1.mono (not_lt.1 ‹¬ s.now < wake›)
        refine h.jump _ hn rfl rfl hlock rfl rfl rfl rfl (by simp) ⟨?_, hpaced, hhas.2⟩
        rw [Paced] at hpaced
        omega
      case isFalse =>
        exact h.jump _ hn rfl rfl hlock rfl rfl rfl rfl (by simp) fun h0 => absurd h0 (by decide)
  | startValid =>
    cases hs
    exact h.askValid hn rfl rfl rfl rfl rfl (by simp) (by simpa using hhas)
  | start =>
    have hin := h.inside _ _ _ hn rfl
    have hcalm := Storage.pcieStart_calm s.storage c.start
    simp only [Sys.connectStep] at hs
    generalize s.storage.pcieStart c.start = r at hcalm hs
    obtain ⟨storage, ret⟩ := r
    have hearned : Mark.Earned lacie s.history (.pcieStart ret) :=
      ⟨hin.going_of h hhas.1, hin.before (by decide), hhas.2⟩
    cases hs
    split
    · exact h.store _ (m := .pcieStart ret) hn rfl rfl hlock rfl rfl hcalm rfl rfl rfl hearned
        (by simp) fun h0 => absurd h0 ‹_›
    · obtain rfl := not_not.1 ‹¬ ret ≠ 0›
      exact h.store _ (m := .pcieStart 0) hn rfl rfl hlock rfl rfl hcalm rfl rfl rfl hearned
        (by simp) List.mem_cons_self
  | approveLock =>
    obtain ⟨s₁, hlocked, rfl⟩ := Option.map_eq_some_iff.1 hs
    simp only [Sys.lockTb] at hlocked
    split at hlocked
    · cases hlocked
      exact h.jump _ hn rfl rfl (by simp [Sys.atConnect]) rfl rfl rfl rfl (by simp) hhas
    · cases hlocked
  | approveLook =>
    simp only [Sys.connectStep] at hs
    cases hf : s.findByRoute 2 with
    | none =>
      rw [hf] at hs
      cases hs
      exact h.jump _ hn rfl rfl hlock rfl rfl rfl rfl (by simp) fun h0 => absurd h0 (by decide)
    | some r => exact h.approveLook hn hf (by simpa only [hf, Option.some.injEq] using hs)
  | allow r =>
    cases hs
    exact h.go _ hn rfl rfl hlock rfl rfl (.inl rfl) h.turns
      (fun _ hk' => ⟨(Option.some.inj hk').le, fun _ hm => .inl hm⟩) hhas
  | approve r =>
    cases hs
    split
    · exact h.jump _ hn rfl rfl hlock rfl rfl rfl rfl (by simp) hhas
    · exact h.jump _ hn rfl rfl hlock rfl rfl rfl rfl (by simp) hhas
  | tunnel r =>
    have hin := h.inside _ _ _ hn rfl
    have hearned : Mark.Earned lacie s.history (.tunnel .pci r) :=
      ⟨hin.going_of h hhas.1, hin.before (by decide), hhas.2.1, rfl, hhas.2.2⟩
    simp only [Sys.connectStep] at hs
    rcases s.tunnelPci_cases r c with ⟨ret, heq⟩ | heq
    · rw [heq] at hs
      cases hs
      exact h.jump _ hn rfl rfl hlock rfl rfl rfl rfl (by simp) hhas
    · rw [heq] at hs
      cases hs
      exact h.note _ (m := .tunnel .pci r) hn rfl rfl hlock rfl rfl rfl rfl rfl rfl hearned
        (by simp) ⟨hhas.1, List.mem_cons_of_mem _ hhas.2.1, hhas.2.2⟩
  | disallow r ret =>
    have hin := h.inside _ _ _ hn rfl
    have hearned : Mark.Earned lacie s.history (.approved r) :=
      ⟨hin.going_of h hhas.1, hin.before (by decide), hhas.2⟩
    simp only [Sys.connectStep] at hs
    by_cases hret : ret = 0
    · rw [if_pos hret] at hs
      cases hs
      refine h.go _ hn rfl rfl hlock rfl rfl (.inr ⟨_, rfl, rfl, hearned⟩)
        ((polls_cons rfl _).trans_le h.turns) ?_ fun _ => ⟨r, List.mem_cons_self⟩
      intro k' hk'
      cases hk'
      exact ⟨by decide, mem_or_level_le le_rfl⟩
    · rw [if_neg hret] at hs
      cases hs
      refine h.go _ hn rfl rfl hlock rfl rfl (.inl rfl) h.turns ?_ fun h0 => absurd h0 hret
      intro k' hk'
      cases hk'
      exact ⟨by decide, fun m hm => .inl hm⟩
  | approveUnlock ret =>
    have hfree : (false = true) ↔ s.unlockTb.domain = .native := by simp [Sys.unlockTb]
    cases hs
    split
    · exact h.jump _ hn rfl rfl hfree rfl rfl rfl rfl (by simp) fun h0 => absurd h0 ‹_›
    · exact h.jump _ hn rfl rfl hfree rfl rfl rfl rfl (by simp) (hhas (not_not.1 ‹_›))
  | trainValid =>
    cases hs
    exact h.askValid hn rfl rfl rfl rfl rfl (by simp) (by simpa using hhas)
  | train =>
    have hin := h.inside _ _ _ hn rfl
    have hcalm := Storage.pcieTrain_calm s.storage c.ret c.windows
    simp only [Sys.connectStep] at hs
    generalize s.storage.pcieTrain c.ret c.windows = r at hcalm hs
    obtain ⟨storage, ret⟩ := r
    have hearned : Mark.Earned lacie s.history (.pcieTrain ret) :=
      ⟨hin.going_of h hhas.1, hin.before (by decide), hhas.2⟩
    cases hs
    split
    · exact h.store _ (m := .pcieTrain ret) hn rfl rfl hlock rfl rfl hcalm rfl rfl rfl hearned
        (by simp) fun h0 => absurd h0 ‹_›
    · obtain rfl := not_not.1 ‹¬ ret ≠ 0›
      exact h.store _ (m := .pcieTrain 0) hn rfl rfl hlock rfl rfl hcalm rfl rfl rfl hearned
        (by simp) List.mem_cons_self
  | scanValid =>
    cases hs
    exact h.askValid hn rfl rfl rfl rfl rfl (by simp) (by simpa using hhas)
  | scanOpen => exact h.scanOpen hn hs
  | scanFinish => exact h.scanFinish hn hs
  | endValid =>
    cases hs
    exact h.askValid hn rfl rfl rfl rfl rfl (by simp) (by simpa using hhas)
  | leave ret =>
    cases hs
    exact h.leave hn

end Connect

/-! ### The other calls -/

lemma setOwner_keeps {β : Type} {f : Owner → Owner} (g : Owner → β) (hg : ∀ o, g (f o) = g o) :
    g (s.setOwner f).fields = g s.fields := by
  cases ho : s.owner with
  | none => simp [Sys.fields, Sys.setOwner, ho]
  | some o => simp [Sys.fields, Sys.setOwner, ho, hg]

lemma Inv.not_authorizing (h : Inv lacie s) (ha : s.native.allows = false) :
    s.authorizing = false := by
  have hallow := h.allow
  rw [ha] at hallow
  unfold Sys.authorizing
  cases ho : s.owner with
  | none => rfl
  | some o =>
    have : o.allowPcie = false := by simpa [Sys.fields, ho] using hallow
    simp [this]

lemma Inv.work_quiet (h : Inv lacie s) (ha : s.native.allows = false) (c : Found) (job : Job) :
    Quiet lacie s (s.work c job) ∧ (s.work c job).domain = s.domain := by
  cases job with
  | leave => exact ⟨.refl s, rfl⟩
  | scan route port => exact ⟨.refl s, rfl⟩
  | setUnplugged route => exact ⟨.of_domain, rfl⟩
  | remove route => exact ⟨.of_domain, rfl⟩
  | tunnel type r =>
    have hno : s.tunnelAlloc type c = false := by simp [Sys.tunnelAlloc, h.not_authorizing ha]
    simp only [Sys.work, hno]
    exact ⟨.refl s, rfl⟩

variable {n : NativeAt}

lemma Inv.lock_of_eq (h : Inv lacie s) (hl : n.holdsTb = s.native.holdsTb) :
    n.holdsTb = true ↔ s.domain = .native := by
  rw [hl]
  exact h.lock

lemma Inv.outsideAt (h : Inv lacie s) (hout : n.Outside)
    (ha : s.native.allows = false) (hl : n.holdsTb = s.native.holdsTb)
    (hstopping : n.stopping = true → s.native.stopping = true) :
    Inv lacie { s with native := n } :=
  h.outside hout (h.lock_of_eq hl) (h.allow.trans ha) rfl rfl rfl rfl rfl hstopping

lemma Inv.outsideLock (h : Inv lacie s) {d : DomainAt} (hout : n.Outside)
    (ha : s.native.allows = false) (hl : n.holdsTb = true ↔ d = .native)
    (hstopping : n.stopping = true → s.native.stopping = true) :
    Inv lacie { s with native := n, domain := d } :=
  h.outside hout hl (h.allow.trans ha) rfl rfl rfl rfl rfl hstopping

lemma Inv.outsideStore (h : Inv lacie s) {f : Owner → Owner} (hout : n.Outside)
    (ha : s.native.allows = false) (hl : n.holdsTb = s.native.holdsTb)
    (hstopping : n.stopping = true → s.native.stopping = true)
    (hf : ∀ o, (f o).allowPcie = o.allowPcie ∧ (f o).stopped = o.stopped ∧
      (f o).attempted = o.attempted ∧ (f o).refusal = o.refusal) :
    Inv lacie { s.setOwner f with native := n } :=
  h.outside hout (h.lock_of_eq hl)
    ((setOwner_keeps Owner.allowPcie fun o => (hf o).1).trans (h.allow.trans ha))
    (setOwner_keeps Owner.stopped fun o => (hf o).2.1)
    (setOwner_keeps Owner.attempted fun o => (hf o).2.2.1)
    (setOwner_keeps Owner.refusal fun o => (hf o).2.2.2) rfl rfl hstopping

lemma Inv.startStep (h : Inv lacie s) {pt : StartAt} (hn : s.native = .start pt)
    (hs : s.startStep lacie c pt = some s') : Inv lacie s' := by
  have ha : s.native.allows = false := by rw [hn]; rfl
  -- A start is outside the chain: only its own place changes.
  have hgo : ∀ pt', NativeAt.holdsTb (.start pt') = NativeAt.holdsTb (.start pt) →
      Inv lacie (s.atStart pt') := fun pt' hl =>
    h.outsideAt (.start pt') ha (by rw [hn, hl]) fun hc => by cases hc
  cases pt with
  | claim =>
    simp only [Sys.startStep] at hs
    split at hs
    · cases hs
      exact hgo _ rfl
    · split at hs
      · cases hs
        exact hgo _ rfl
      · rename_i hnone _
        have hfields : s.fields = {} := by
          rw [Sys.fields, Option.not_isSome_iff_eq_none.1 hnone]
          rfl
        cases hs
        exact h.outside (.start .check) (h.lock_of_eq (by rw [hn]; rfl)) rfl (by rw [hfields]; rfl)
          (by rw [hfields]; rfl) (by rw [hfields]; rfl) rfl rfl fun hc => by cases hc
  | check | prepare | interrupts =>
    simp only [Sys.startStep] at hs
    split at hs <;> cases hs <;> exact hgo _ rfl
  | probe =>
    simp only [Sys.startStep] at hs
    split at hs
    · cases hs
      exact hgo _ rfl
    · cases hs
      exact h.outsideStore (.start _) ha (by rw [hn]; rfl) (fun hc => by cases hc)
        fun o => ⟨rfl, rfl, rfl, rfl⟩
  | addLock =>
    obtain ⟨s₁, hlocked, rfl⟩ := Option.map_eq_some_iff.1 hs
    simp only [Sys.lockTb] at hlocked
    split at hlocked
    · cases hlocked
      exact h.outsideLock (.start _) ha (by simp) fun hc => by cases hc
    · cases hlocked
  | adding =>
    simp only [Sys.startStep] at hs
    split at hs
    · cases hs
      exact hgo _ rfl
    · cases hs
      exact hgo _ rfl
    · cases hs
      obtain ⟨hq, hd⟩ := h.work_quiet ha c c.job
      have h₁ := h.quiet hq (by rw [hd]; exact h.lock) (.inl (by rw [hn]; rfl))
      exact h₁.outsideAt (.start _) (by rw [hq.native]; exact ha) (by rw [hq.native, hn])
        fun hc => by cases hc
  | scanning k =>
    obtain ⟨hq, hd⟩ := s.scanPort_quiet lacie k c
    have h₁ := h.quiet hq (by rw [hd]; exact h.lock) (.inl (by rw [hn]; rfl))
    have hn₁ := hq.native.trans hn
    simp only [Sys.startStep] at hs
    split at hs <;> rename_i heq
    all_goals
      rw [heq] at h₁ hn₁
      cases hs
      exact h₁.outsideAt (.start _) (by rw [hn₁]; rfl) (by rw [hn₁]; rfl) fun hc => by cases hc
  | addUnlock ret =>
    cases hs
    refine h.outsideLock (.start _) ha (iff_of_false (fun hc => ?_) fun hc => by cases hc)
      fun hc => by cases hc
    split at hc <;> cases hc
  | publish =>
    cases hs
    exact h.outsideStore (.start _) ha (by rw [hn]; rfl) (fun hc => by cases hc)
      fun o => ⟨rfl, rfl, rfl, rfl⟩
  | leave ret =>
    cases hs
    exact h.outsideAt .free ha (by rw [hn]; rfl) fun hc => by cases hc

lemma Inv.markStopped (h : Inv lacie s) (hn : s.native = .stop .claim)
    (ho : s.owner.isSome = true) (hgoing : s.fields.stopped = false) :
    Inv lacie
      (((s.setOwner fun o => { o with stopped := true }).mark .stopped).atStop .unlive) := by
  have hnot : .stopped ∉ s.history := fun hs => by
    have := h.stopped.2 hs
    rw [hgoing] at this
    cases this
  have hallow := h.allow
  rw [hn] at hallow
  have hfields : (((s.setOwner fun o => { o with stopped := true }).mark .stopped).atStop
      .unlive).fields = { s.fields with stopped := true } := fields_setOwner ho
  constructor
  case earned => exact h.earned.cons hnot
  case lock => exact h.lock_of_eq (by rw [hn]; rfl)
  case allow => rw [hfields]; exact hallow
  case stopped =>
    rw [hfields]
    exact iff_of_true rfl List.mem_cons_self
  case refused =>
    rw [hfields]
    intro e
    exact (h.refused e).trans (by simp [Sys.atStop, Sys.setOwner])
  case turns => exact (polls_cons rfl _).trans_le h.turns
  case ctlStop =>
    intro hc
    have hc' : .ctlStop ∈ s.history := by simpa [Sys.atStop, Sys.setOwner] using hc
    have := (h.ctlStop hc').1
    rw [hgoing] at this
    cases this
  case stopping => rw [hfields]; exact fun _ => rfl
  case fresh =>
    rw [hfields]
    intro ha
    exact ⟨(h.fresh ha).1, (polls_cons rfl _).trans (h.fresh ha).2.1,
      List.forall_mem_cons.2 ⟨rfl, (h.fresh ha).2.2⟩⟩
  case word => exact fun _ _ hn => by cases hn
  case inside => exact fun _ _ _ hn => by cases hn
  case has => exact fun _ _ hn => by cases hn
  case opened => exact fun b hb hd => List.mem_cons_of_mem _ (h.opened b hb hd)
  case admitted =>
    intro d hd
    obtain ⟨devices, hv⟩ := h.admitted d hd
    exact ⟨devices, List.mem_cons_of_mem _ hv⟩

lemma Inv.markCtlStop (h : Inv lacie s) (hn : s.native = .stop .ctlStop) :
    Inv lacie ((s.mark .ctlStop).atStop .ctlUnlock) := by
  have hstopping : s.native.stopping = true := by rw [hn]; rfl
  have hstop := h.stopping hstopping
  have hnot : .ctlStop ∉ s.history := fun hc => by
    have := (h.ctlStop hc).2
    rw [hstopping] at this
    cases this
  have hallow := h.allow
  rw [hn] at hallow
  constructor
  case earned => exact h.earned.cons ⟨h.stopped.1 hstop, hnot⟩
  case lock => exact h.lock_of_eq (by rw [hn]; rfl)
  case allow => exact hallow
  case stopped => exact h.stopped.trans (by simp [Sys.atStop])
  case refused => exact fun e => (h.refused e).trans (by simp [Sys.atStop])
  case turns => exact (polls_cons rfl _).trans_le h.turns
  case ctlStop => exact fun _ => ⟨hstop, rfl⟩
  case stopping => exact fun hc => by cases hc
  case fresh =>
    intro ha
    exact ⟨(h.fresh ha).1, (polls_cons rfl _).trans (h.fresh ha).2.1,
      List.forall_mem_cons.2 ⟨rfl, (h.fresh ha).2.2⟩⟩
  case word => exact fun _ _ hn => by cases hn
  case inside => exact fun _ _ _ hn => by cases hn
  case has => exact fun _ _ hn => by cases hn
  case opened => exact fun b hb hd => List.mem_cons_of_mem _ (h.opened b hb hd)
  case admitted =>
    intro d hd
    obtain ⟨devices, hv⟩ := h.admitted d hd
    exact ⟨devices, List.mem_cons_of_mem _ hv⟩

lemma Inv.stopStep (h : Inv lacie s) {pt : StopAt} (hn : s.native = .stop pt)
    (hs : s.stopStep pt = some s') : Inv lacie s' := by
  have ha : s.native.allows = false := by rw [hn]; rfl
  cases pt with
  | claim =>
    simp only [Sys.stopStep] at hs
    cases ho : s.owner with
    | none =>
      simp only [ho] at hs
      cases hs
      exact h.outsideAt (.stop .leave) ha (by rw [hn]; rfl) fun hc => by cases hc
    | some o =>
      simp only [ho] at hs
      split at hs <;> rename_i hgoing
      · cases hs
        exact h.outsideAt (.stop .leave) ha (by rw [hn]; rfl) fun hc => by cases hc
      · cases hs
        exact h.markStopped hn (by rw [ho]; rfl) (by simpa [Sys.fields, ho] using hgoing)
  | unlive =>
    cases hs
    refine h.outsideStore (.stop _) ha ?_ ?_ fun o => ⟨rfl, rfl, rfl, rfl⟩
    · rw [hn]
      split <;> rfl
    · rw [hn]
      exact fun _ => rfl
  | ctlLock =>
    obtain ⟨s₁, hlocked, rfl⟩ := Option.map_eq_some_iff.1 hs
    simp only [Sys.lockTb] at hlocked
    split at hlocked
    · cases hlocked
      exact h.outsideLock (.stop .ctlStop) ha (by simp) fun _ => by rw [hn]; rfl
    · cases hlocked
  | ctlStop =>
    cases hs
    exact h.markCtlStop hn
  | ctlUnlock =>
    cases hs
    exact h.outsideLock (.stop .leave) ha (by simp [Sys.unlockTb]) fun hc => by cases hc
  | leave =>
    cases hs
    exact h.outsideAt .free ha (by rw [hn]; rfl) fun hc => by cases hc

lemma Inv.nativeStep (h : Inv lacie s) (hs : s.nativeStep lacie c = some s') : Inv lacie s' := by
  unfold Sys.nativeStep at hs
  cases hn : s.native with
  | free =>
    rw [hn] at hs
    cases hs
  | start pt => exact h.startStep hn (by simpa only [hn] using hs)
  | connect word pt => exact h.connectStep hn (by simpa only [hn] using hs)
  | stop pt => exact h.stopStep hn (by simpa only [hn] using hs)

/-! ### Workers and users -/

/-- While a worker or a user has the domain's lock, the call with `native_lock` has not. -/
lemma Inv.holdsTb_eq_false (h : Inv lacie s) (hd : s.domain ≠ .native) :
    s.native.holdsTb = false :=
  Bool.eq_false_iff.2 fun hl => hd (h.lock.1 hl)

lemma NativeAt.allows_le (hl : n.holdsTb = false) :
    n.allows = false ∧ n.relies = false := by
  cases n with
  | connect word pt => cases pt <;> first | exact ⟨rfl, rfl⟩ | cases hl
  | _ => exact ⟨rfl, rfl⟩

lemma Inv.domainStep (h : Inv lacie s) (hs : s.domainStep lacie c = some s') : Inv lacie s' := by
  by_cases hd : s.domain = .native
  · simp only [Sys.domainStep, hd] at hs
    cases hs
  have hl := h.holdsTb_eq_false hd
  obtain ⟨ha, hr⟩ := NativeAt.allows_le hl
  -- whatever is done leaves the lock with a worker or a user, or gives it back
  have hquiet : ∀ {s₁ : Sys}, Quiet lacie s s₁ → s₁.domain ≠ .native → Inv lacie s₁ :=
    fun hq hd₁ => h.quiet hq (iff_of_false (by rw [hl]; decide) hd₁) (.inl hr)
  have hunlock : Inv lacie s.unlockTb := hquiet .of_domain (by simp [Sys.unlockTb])
  unfold Sys.domainStep at hs
  cases hdom : s.domain with
  | free => simp [hdom] at hs
  | native => exact absurd hdom hd
  | worker =>
    simp only [hdom] at hs
    split at hs <;> cases hs
    · exact hunlock
    · exact hquiet .of_domain (by simp)
    · obtain ⟨hq, hd₁⟩ := h.work_quiet ha c c.job
      exact hquiet hq (by rw [hd₁, hdom]; simp)
  | workerScan k =>
    obtain ⟨hq, -⟩ := s.scanPort_quiet lacie k c
    simp only [hdom] at hs
    split at hs <;> rename_i heq
    all_goals
      rw [heq] at hq
      cases hs
      exact hquiet ⟨hq.native, hq.storage, hq.now, hq.isSome, hq.live, hq.attempted, hq.stopped,
        hq.allow, hq.history⟩ (by simp)
  | user route val key =>
    have hno : s.approveSwitch c ≠ 0 := by
      rw [Sys.approveSwitch, h.not_authorizing ha, if_pos (by rfl)]
      decide
    simp only [hdom] at hs
    split at hs
    · cases hs
      exact hunlock
    · split_ifs at hs with h₁ h₂ h₃ h₄ h₅ <;> first
        | (cases hs; exact hunlock)
        | (cases hs; exact hquiet .of_domain (by simp [Sys.unlockTb]))
        | simp [hno] at h₅

/-! ### Runs -/

lemma Inv.enter (h : Inv lacie s) (hout : n.Outside) (hl : n.holdsTb = false)
    (hstop : n.stopping = false) : Inv lacie (s.enter n) := by
  unfold Sys.enter
  split
  case isTrue hfree =>
    exact h.outsideAt hout (by rw [hfree]; rfl) (by rw [hl, hfree]; rfl) fun hc => by
      rw [hstop] at hc
      cases hc
  case isFalse => exact h

lemma Inv.enterDomain (h : Inv lacie s) {d : DomainAt} (hd : d ≠ .native) :
    Inv lacie (s.enterDomain d) := by
  unfold Sys.enterDomain
  split
  case isTrue hfree =>
    have hl := h.holdsTb_eq_false (by rw [hfree.1]; simp)
    exact h.quiet .of_domain (iff_of_false (by rw [hl]; decide) hd)
      (.inl (NativeAt.allows_le hl).2)
  case isFalse => exact h

lemma Inv.note_quiet (h : Inv lacie s) (h0 : m.level = 0) (hv : ∀ b, m ≠ .valid b)
    (hp : m.isPoll = false) (hown : m.own = true) (hm : m.Earned lacie s.history) :
    Inv lacie (s.mark m) :=
  h.quiet ⟨rfl, rfl, le_rfl, rfl, rfl, rfl, rfl, rfl,
    .inr (.inl ⟨m, rfl, rfl, h0, hv, hp, hown, hm⟩)⟩ h.lock (.inr rfl)

lemma Inv.step (h : Inv lacie s) (a : Act) : Inv lacie (step lacie s a) := by
  cases a with
  | start => exact h.enter (.start .claim) rfl rfl
  | register given =>
    simp only [Native.step]
    split
    case isTrue hfree =>
      -- A registration only provides the connect.
      have hkeep : ∀ {β : Type} (g : Owner → β),
          (∀ o : Owner, g { o with connect := true } = g o) →
          g (s.setOwner (·.register given)).fields = g s.fields := by
        intro β g hg
        refine setOwner_keeps g fun o => ?_
        unfold Owner.register
        split
        · rfl
        · exact hg o
      refine h.quiet ⟨rfl, rfl, le_rfl, by simp [Sys.setOwner], hkeep _ fun _ => rfl,
        hkeep _ fun _ => rfl, hkeep _ fun _ => rfl, hkeep _ fun _ => rfl,
        .inl ⟨rfl, hkeep _ fun _ => rfl⟩⟩ h.lock ?_
      exact .inl (by rw [hfree]; rfl)
    case isFalse => exact h
  | connect word =>
    simp only [Native.step]
    split
    · exact h
    · exact h.enter (.claim (not_not.1 ‹_›)) rfl rfl
  | stop => exact h.enter (.stop .claim) rfl rfl
  | native c =>
    simp only [Native.step]
    cases hs : s.nativeStep lacie c with
    | none => exact h
    | some s' => exact h.nativeStep hs
  | worker => exact h.enterDomain (by simp)
  | user route val key => exact h.enterDomain (by simp)
  | domain c =>
    simp only [Native.step]
    cases hs : s.domainStep lacie c with
    | none => exact h
    | some s' => exact h.domainStep hs
  | tick ms =>
    exact h.quiet ⟨rfl, rfl, Nat.le_add_right _ _, rfl, rfl, rfl, rfl, rfl, .inl ⟨rfl, rfl⟩⟩ h.lock
      (.inr rfl)
  | nvme d =>
    simp only [Native.step]
    split
    case isTrue hd => exact h.note_quiet rfl (by simp) rfl rfl (h.admitted d hd)
    case isFalse => exact h
  | config bus devfn pos =>
    simp only [Native.step]
    split
    case isTrue hmap =>
      obtain ⟨b, hb, hdown⟩ := Storage.ecamMap_below hmap.1 hmap.2
      exact h.note_quiet rfl (by simp) rfl rfl (h.opened b hb hdown)
    case isFalse => exact h

lemma run_inv (as : List Act) : Inv lacie (run lacie as) := by
  unfold run
  exact run_invariant (fun _ a h => h.step a) as Inv.init

end YogaUsb4.Native
