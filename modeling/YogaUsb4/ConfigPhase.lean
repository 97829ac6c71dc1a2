import YogaUsb4.Footprint

/-!
The phases of configuration access on one PCIe0 context. Access opens with the one scan, writes
of the scan end with it, writes of the bind come once and only behind a scan that succeeded, and
the fence ends all of them for good, whatever it reports.
-/

set_option synthInstance.maxSize 1000

namespace YogaUsb4.ConfigPhase

open HostState Typec Driver Prog Rules Frames Footprint Cm Pcie PcieRetire

variable {mp : Params}

/-! ### The phases -/

/-- What configuration access a context allows. -/
inductive Phase
  | closed | scan | opened | bound | fenced
  deriving DecidableEq, Repr

def Phase.isOpen : Phase → Bool
  | .scan | .opened | .bound => true
  | .closed | .fenced => false

/-- The one way through the phases. -/
inductive Phase.Next : Phase → Phase → Prop
  | start : Next .closed .scan
  | finish : Next .scan .opened
  | bind : Next .opened .bound
  | fence : Next .bound .fenced

/-- The context `c` of a session with the state `st` is in the phase `p`. -/
structure InPhase (p : Phase) (c : X1PcieContext) (st : X1PcieState) : Prop where
  configOpen : c.configOpen = p.isOpen
  scanWrites : c.scanWrites = decide (p = .scan)
  bindWrites : c.bindWrites = decide (p = .bound)
  scanned : p ≠ .closed → st.hostAttempted = true
  unbound : p = .closed ∨ p = .scan → st.nvmeBindAttempted = false
  bindTried : p = .bound ∨ p = .fenced → st.nvmeBindAttempted = true
  prepared : st.hostPrepared = true → p = .opened ∨ p = .bound ∨ p = .fenced
  nvmeBound : st.nvmeBound = true → p = .bound ∨ p = .fenced
  configFenced : st.configFenced = true → p = .fenced

lemma InPhase.unique {p q : Phase} {c : X1PcieContext} {st : X1PcieState} (h : InPhase p c st)
    (h' : InPhase q c st) : p = q := by
  have hopen := h.configOpen.symm.trans h'.configOpen
  have hscan := h.scanWrites.symm.trans h'.scanWrites
  have hbind := h.bindWrites.symm.trans h'.bindWrites
  have hu := h.unbound
  have ht := h.bindTried
  have hu' := h'.unbound
  have ht' := h'.bindTried
  cases p <;> cases q <;> simp_all [Phase.isOpen]

/-- What one step may do: the context stays in its phase or goes on to the next one, to the
writes of the bind only behind a scan that succeeded; a new context is closed and was never
scanned; and no scan is forgotten. -/
structure Step (b b' : Back) : Prop where
  same : ∀ c c', b.x1Pcie = some c → b'.x1Pcie = some c' →
    ∃ p p', InPhase p c b.host.pcie ∧ InPhase p' c' b'.host.pcie ∧
      (p' = p ∨ p.Next p' ∧ (p = .opened → b.host.pcie.hostPrepared = true))
  new : ∀ c', b.x1Pcie = none → b'.x1Pcie = some c' →
    InPhase .closed c' b'.host.pcie ∧ b'.host.pcie.hostAttempted = false
  scanned : b.host.pcie.hostAttempted = true → b'.host.pcie.hostAttempted = true

/-- No configuration access is allowed, and none reaches a device. -/
structure Shut (b : Back) : Prop where
  flags : ∀ c, b.x1Pcie = some c →
    c.configOpen = false ∧ c.scanWrites = false ∧ c.bindWrites = false
  config : configBase b = false
  enable : ∀ fr, enableReaches b fr = false

/-! ### Steps that leave the phase alone -/

/-- Nothing that tells a phase changed, except that the context may be gone. -/
structure Quiet (b b' : Back) : Prop where
  context : ∀ c', b'.x1Pcie = some c' → ∃ c, b.x1Pcie = some c ∧ c'.configOpen = c.configOpen ∧
    c'.scanWrites = c.scanWrites ∧ c'.bindWrites = c.bindWrites
  attempted : b'.host.pcie.attempted = b.host.pcie.attempted
  configFenced : b'.host.pcie.configFenced = b.host.pcie.configFenced
  hostAttempted : b'.host.pcie.hostAttempted = b.host.pcie.hostAttempted
  bindTried : b'.host.pcie.nvmeBindAttempted = b.host.pcie.nvmeBindAttempted
  prepared : b'.host.pcie.hostPrepared = b.host.pcie.hostPrepared
  nvmeBound : b'.host.pcie.nvmeBound = b.host.pcie.nvmeBound

lemma Quiet.refl (b : Back) : Quiet b b :=
  ⟨fun c h => ⟨c, h, rfl, rfl, rfl⟩, rfl, rfl, rfl, rfl, rfl, rfl⟩

variable {b b' : Back}

lemma Quiet.of_eq (hc : b'.x1Pcie = b.x1Pcie) (hp : b'.host.pcie = b.host.pcie) :
    Quiet b b' := by
  refine ⟨fun c h => ⟨c, hc ▸ h, rfl, rfl, rfl⟩, ?_, ?_, ?_, ?_, ?_, ?_⟩ <;> rw [hp]

def Quietly (s : Sys) (_ : Label) (t : Sys) : Prop := Quiet s.back t.back

instance : Acts mp Quietly := ⟨fun s _ => Quiet.refl s.back⟩

instance : Silent Quietly := ⟨fun _ _ _ _ _ => Quiet.of_eq rfl rfl⟩

instance : Answers Quietly .configRead :=
  ⟨fun s => Quiet.refl s.back, fun s _ _ => Quiet.refl s.back⟩

/-- The sections that say nothing about a phase. -/
@[reducible] def noPhase : Section → Bool
  | .pcie | .bus | .hold | .newContext => false
  | _ => true

instance (k : Section) [h : Holds (noPhase k)] : Writes Quietly k := by
  have h := h.out
  refine ⟨fun s b hd => ?_⟩
  cases k
  all_goals first
    | exact absurd h Bool.false_ne_true
    | (obtain ⟨x, rfl⟩ := hd; exact .of_eq rfl rfl)
    | (obtain ⟨x, y, rfl⟩ := hd; exact .of_eq rfl rfl)
    | (obtain ⟨x, y, z, rfl⟩ := hd; exact .of_eq rfl rfl)
    | (obtain ⟨w, x, y, z, rfl⟩ := hd; exact .of_eq rfl rfl)

lemma quiet_context {b : Back} {f : X1PcieContext → X1PcieContext}
    (hf : ∀ c, (f c).configOpen = c.configOpen ∧ (f c).scanWrites = c.scanWrites ∧
      (f c).bindWrites = c.bindWrites) : Quiet b { b with x1Pcie := b.x1Pcie.map f } := by
  refine ⟨fun c' h => ?_, rfl, rfl, rfl, rfl, rfl, rfl⟩
  obtain ⟨c, hc, rfl⟩ := Option.map_eq_some_iff.mp h
  exact ⟨c, hc, hf c⟩

instance : Writes Quietly .hold :=
  ⟨by rintro s _ ⟨f, rfl⟩; exact quiet_context fun _ => ⟨rfl, rfl, rfl⟩⟩

section Bus

variable (x y z : Bool)

lemma keeps_bus {f : X1PcieBus → X1PcieBus}
    (hf : ∀ c, (f c).configOpen = c.configOpen ∧ (f c).scanWrites = c.scanWrites ∧
      (f c).bindWrites = c.bindWrites) : Keeps Quietly (assignBus mp f) :=
  ⟨within_step fun _ => quiet_context fun c => hf c.toX1PcieBus⟩

instance : Keeps Quietly (assignBus mp fun c => { c with window := x }) :=
  keeps_bus fun _ => ⟨rfl, rfl, rfl⟩

instance : Keeps Quietly (assignBus mp fun c => { c with entered := x }) :=
  keeps_bus fun _ => ⟨rfl, rfl, rfl⟩

instance : Keeps Quietly (assignBus mp fun c => { c with config := x }) :=
  keeps_bus fun _ => ⟨rfl, rfl, rfl⟩

instance : Keeps Quietly (assignBus mp fun c => { c with resetEarly := x }) :=
  keeps_bus fun _ => ⟨rfl, rfl, rfl⟩

instance : Keeps Quietly (assignBus mp fun c => { c with runtimeEnabled := x }) :=
  keeps_bus fun _ => ⟨rfl, rfl, rfl⟩

instance : Keeps Quietly (assignBus mp fun c => { c with batchActive := x }) :=
  keeps_bus fun _ => ⟨rfl, rfl, rfl⟩

instance : Keeps Quietly (assignBus mp fun c => { c with bridge := x }) :=
  keeps_bus fun _ => ⟨rfl, rfl, rfl⟩

instance : Keeps Quietly (assignBus mp fun c => { c with bridgeBus := x }) :=
  keeps_bus fun _ => ⟨rfl, rfl, rfl⟩

instance : Keeps Quietly (assignBus mp fun c => { c with driverRegistered := x }) :=
  keeps_bus fun _ => ⟨rfl, rfl, rfl⟩

instance : Keeps Quietly
    (assignBus mp fun c => { c with nvmeSession := x, endpoint := y, rootPort := z }) :=
  keeps_bus fun _ => ⟨rfl, rfl, rfl⟩

instance : Keeps Quietly (assignBus mp fun c => { c with nvmeSession := x }) :=
  keeps_bus fun _ => ⟨rfl, rfl, rfl⟩

instance : Keeps Quietly (assignBus mp fun c => { c with rootPort := x, endpoint := y }) :=
  keeps_bus fun _ => ⟨rfl, rfl, rfl⟩

instance : Keeps Quietly (assign mp fun b => { b with x1Pcie := none }) :=
  ⟨within_step fun _ =>
    ⟨fun c h => (Option.some_ne_none c h.symm).elim, rfl, rfl, rfl, rfl, rfl, rfl⟩⟩

end Bus

section State

variable (x y z : Bool) (e : Option Errno)

lemma keeps_state {f : X1PcieState → X1PcieState}
    (hf : ∀ p, (f p).attempted = p.attempted ∧ (f p).configFenced = p.configFenced ∧
      (f p).hostAttempted = p.hostAttempted ∧ (f p).nvmeBindAttempted = p.nvmeBindAttempted ∧
      (f p).hostPrepared = p.hostPrepared ∧ (f p).nvmeBound = p.nvmeBound) :
    Keeps Quietly (assignPcie mp f) := by
  refine ⟨within_step fun s => ?_⟩
  obtain ⟨ha, hc, hh, hb, hp, hn⟩ := hf s.back.host.pcie
  exact ⟨fun c h => ⟨c, h, rfl, rfl, rfl⟩, ha, hc, hh, hb, hp, hn⟩

instance : Keeps Quietly (assignPcie mp fun p => { p with inspectComplete := x }) :=
  keeps_state fun _ => ⟨rfl, rfl, rfl, rfl, rfl, rfl⟩

instance : Keeps Quietly (assignPcie mp fun p => { p with cfg0Complete := x }) :=
  keeps_state fun _ => ⟨rfl, rfl, rfl, rfl, rfl, rfl⟩

instance : Keeps Quietly (assignPcie mp fun p => { p with error := e, prepared := x }) :=
  keeps_state fun _ => ⟨rfl, rfl, rfl, rfl, rfl, rfl⟩

instance (w : Bool) : Keeps Quietly (assignPcie mp fun p =>
    { p with inventoryRequested := w, inspectRequested := x, cfg0Requested := y
             prepared := z }) :=
  keeps_state fun _ => ⟨rfl, rfl, rfl, rfl, rfl, rfl⟩

instance : Keeps Quietly (assignPcie mp fun p => { p with error := e }) :=
  keeps_state fun _ => ⟨rfl, rfl, rfl, rfl, rfl, rfl⟩

instance : Keeps Quietly (assignPcie mp fun p => { p with bridgeAllocated := x }) :=
  keeps_state fun _ => ⟨rfl, rfl, rfl, rfl, rfl, rfl⟩

instance (r : X1ImsiReceipt) : Keeps Quietly (assignPcie mp fun p => { p with receiver := r }) :=
  keeps_state fun _ => ⟨rfl, rfl, rfl, rfl, rfl, rfl⟩

instance : Keeps Quietly (assignPcie mp fun p => { p with hostPublished := x }) :=
  keeps_state fun _ => ⟨rfl, rfl, rfl, rfl, rfl, rfl⟩

instance : Keeps Quietly (assignPcie mp fun p => { p with hostError := e }) :=
  keeps_state fun _ => ⟨rfl, rfl, rfl, rfl, rfl, rfl⟩

instance : Keeps Quietly (assignPcie mp fun p => { p with inventoryAttempted := x }) :=
  keeps_state fun _ => ⟨rfl, rfl, rfl, rfl, rfl, rfl⟩

instance : Keeps Quietly (assignPcie mp fun p => { p with endpointRemoveAttempted := x }) :=
  keeps_state fun _ => ⟨rfl, rfl, rfl, rfl, rfl, rfl⟩

instance : Keeps Quietly (assignPcie mp fun p =>
    { p with endpointRemoveError := e, endpointRemoved := x, error := e <|> p.error }) :=
  keeps_state fun _ => ⟨rfl, rfl, rfl, rfl, rfl, rfl⟩

instance : Keeps Quietly (assignPcie mp fun p =>
    { p with hostError := e, error := e <|> p.error }) :=
  keeps_state fun _ => ⟨rfl, rfl, rfl, rfl, rfl, rfl⟩

instance (f : X1PcieRetire → X1PcieRetire) : Keeps Quietly (assignRetire mp f) :=
  keeps_state fun _ => ⟨rfl, rfl, rfl, rfl, rfl, rfl⟩

end State

/-! ### Functions that leave the phase alone -/

section Functions

variable (m : BackProg mp Unit) [Keeps Quietly m]

instance : Keeps Quietly (x1PcieInspect mp) := by unfold x1PcieInspect; infer_instance

instance : Keeps Quietly (x1PcieLocalCfg0 mp) := by unfold x1PcieLocalCfg0; infer_instance

instance : Keeps Quietly (x1PcieReleaseRetiredReset mp) := by
  unfold x1PcieReleaseRetiredReset; infer_instance

instance : Keeps Quietly (x1PciePrepareProviders mp) := by
  unfold x1PciePrepareProviders; infer_instance

instance : Keeps Quietly (x1PciePrepareProbe mp) := by
  unfold x1PciePrepareProbe; infer_instance

instance : Keeps Quietly (x1ImsiCached mp) := by unfold x1ImsiCached; infer_instance

instance : Keeps Quietly (x1PcieReceiverPrepare mp m) := by
  unfold x1PcieReceiverPrepare; infer_instance

instance : Keeps Quietly (x1PcieScanIdentity mp) := by
  unfold x1PcieScanIdentity; infer_instance

instance (e : Option Errno) : Keeps Quietly (endpointReceipt mp e) := by
  unfold endpointReceipt; infer_instance

instance : Keeps Quietly (qcomUsb4X1GeneralRemove mp) := by
  unfold qcomUsb4X1GeneralRemove; infer_instance

instance : Keeps Quietly (qcomUsb4X1PulledRemove mp) := by
  unfold qcomUsb4X1PulledRemove; infer_instance

instance : Keeps Quietly (qcomUsb4X1RetireNamespaces mp m) := by
  unfold qcomUsb4X1RetireNamespaces; infer_instance

instance : Keeps Quietly (disableClock mp) := by unfold disableClock; infer_instance

instance : Keeps Quietly (stopPlatform mp) := by unfold stopPlatform; infer_instance

instance : Keeps Quietly (suspendPlatform mp) := by unfold suspendPlatform; infer_instance

instance : Keeps Quietly (releasePlatform mp) := by unfold releasePlatform; infer_instance

instance : Keeps Quietly (freeContext mp) := by unfold freeContext; infer_instance

instance : Keeps Quietly (qcomUsb4X1RetirePlatform mp m) := by
  unfold qcomUsb4X1RetirePlatform; infer_instance

instance : Keeps Quietly (qcomUsb4X1IdleRetirePlatform mp m) := by
  unfold qcomUsb4X1IdleRetirePlatform; infer_instance

end Functions

/-! ### Where a run stands -/

structure Blank (st : X1PcieState) : Prop where
  hostAttempted : st.hostAttempted = false
  bindTried : st.nvmeBindAttempted = false
  prepared : st.hostPrepared = false
  nvmeBound : st.nvmeBound = false
  configFenced : st.configFenced = false

/-- The preparation began, and the context, if there is one, is in the phase `p`. -/
structure At (p : Phase) (b : Back) : Prop where
  attempted : b.host.pcie.attempted = true
  context : ∀ c, b.x1Pcie = some c → InPhase p c b.host.pcie

structure Ready (b : Back) : Prop extends At .opened b where
  ready : b.host.pcie.hostPrepared = true
  tried : b.host.pcie.nvmeBindAttempted = true

structure Fresh (b : Back) : Prop where
  none : b.x1Pcie = none
  blank : Blank b.host.pcie

def Between (b : Back) : Prop := ∃ p, p ≠ .scan ∧ At p b

/-- How every operation finds and leaves PCIe0. -/
def Rest (b : Back) : Prop := Fresh b ∨ Between b

def Bound (b : Back) : Prop := At .bound b ∨ At .fenced b

def Scanning (b : Back) : Prop := At .closed b ∨ At .scan b ∨ At .opened b

variable {p : Phase}

lemma Blank.quiet (h : Blank b.host.pcie) (hq : Quiet b b') :
    Blank b'.host.pcie where
  hostAttempted := hq.hostAttempted.trans h.hostAttempted
  bindTried := hq.bindTried.trans h.bindTried
  prepared := hq.prepared.trans h.prepared
  nvmeBound := hq.nvmeBound.trans h.nvmeBound
  configFenced := hq.configFenced.trans h.configFenced

lemma Quiet.none (hq : Quiet b b') (h : b.x1Pcie = none) : b'.x1Pcie = none := by
  rw [Option.eq_none_iff_forall_ne_some]
  intro c' hc'
  obtain ⟨c, hc, -⟩ := hq.context c' hc'
  exact Option.some_ne_none c (hc.symm.trans h)

lemma InPhase.quiet {c c' : X1PcieContext} (h : InPhase p c b.host.pcie)
    (hq : Quiet b b') (hc : c'.configOpen = c.configOpen ∧ c'.scanWrites = c.scanWrites ∧
      c'.bindWrites = c.bindWrites) : InPhase p c' b'.host.pcie where
  configOpen := hc.1.trans h.configOpen
  scanWrites := hc.2.1.trans h.scanWrites
  bindWrites := hc.2.2.trans h.bindWrites
  scanned hp := hq.hostAttempted.trans (h.scanned hp)
  unbound hp := hq.bindTried.trans (h.unbound hp)
  bindTried hp := hq.bindTried.trans (h.bindTried hp)
  prepared hp := h.prepared (hq.prepared.symm.trans hp)
  nvmeBound hp := h.nvmeBound (hq.nvmeBound.symm.trans hp)
  configFenced hp := h.configFenced (hq.configFenced.symm.trans hp)

lemma At.quiet (h : At p b) (hq : Quiet b b') : At p b' where
  attempted := hq.attempted.trans h.attempted
  context c' hc' := by
    obtain ⟨c, hc, hf⟩ := hq.context c' hc'
    exact (h.context c hc).quiet hq hf

lemma Fresh.quiet (h : Fresh b) (hq : Quiet b b') : Fresh b' :=
  ⟨hq.none h.none, h.blank.quiet hq⟩

lemma At.step (h : At p b) (h' : At p b') (hn : b.x1Pcie = none → b'.x1Pcie = none)
    (hs : b.host.pcie.hostAttempted = true → b'.host.pcie.hostAttempted = true) : Step b b' where
  same c c' hc hc' := ⟨p, p, h.context c hc, h'.context c' hc', .inl rfl⟩
  new c' hc hc' := absurd ((hn hc).symm.trans hc') (Option.some_ne_none c').symm
  scanned := hs

/-- What is owed about every step of a run. -/
def Stepped (s : Sys) (_ : Label) (t : Sys) : Prop := Step s.back t.back

/-- A property of a run that quiet steps keep, and that makes them steps of the phases. -/
class Settled (I : Back → Prop) : Prop where
  step : ∀ b b', Quiet b b' → I b → Step b b'
  quiet : ∀ b b', Quiet b b' → I b → I b'

instance : Settled (At p) where
  step _ _ hq h := h.step (h.quiet hq) hq.none hq.hostAttempted.trans
  quiet _ _ hq h := h.quiet hq

instance : Settled Fresh where
  step _ _ hq h := ⟨fun c _ hc _ => absurd (h.none.symm.trans hc) (Option.some_ne_none c).symm,
    fun c' _ hc' => absurd ((hq.none h.none).symm.trans hc') (Option.some_ne_none c').symm,
    hq.hostAttempted.trans⟩
  quiet _ _ hq h := h.quiet hq

instance : Settled Ready where
  step b b' hq h := Settled.step b b' hq h.toAt
  quiet _ _ hq h :=
    ⟨h.toAt.quiet hq, hq.prepared.trans h.ready, hq.bindTried.trans h.tried⟩

instance {I J : Back → Prop} [hI : Settled I] [hJ : Settled J] :
    Settled fun b => I b ∨ J b where
  step b b' hq h := h.elim (hI.step b b' hq) (hJ.step b b' hq)
  quiet b b' hq h := h.imp (hI.quiet b b' hq) (hJ.quiet b b' hq)

instance : Settled Between where
  step := by
    rintro b b' hq ⟨p, -, h⟩
    exact Settled.step b b' hq h
  quiet := by
    rintro b b' hq ⟨p, hp, h⟩
    exact ⟨p, hp, h.quiet hq⟩

instance : Settled Rest := inferInstanceAs (Settled fun b => Fresh b ∨ Between b)

instance : Settled Bound := inferInstanceAs (Settled fun b => At .bound b ∨ At .fenced b)

/-! ### Steps that change the phase -/

section Rules

variable {α : Type} {R : Sys → Label → Sys → Prop} {s : Sys} {E : Errno → Sys → Prop}

instance (priority := low) {I : Back → Prop} [hI : Settled I] (m : Guarded Sys Label Errno R α)
    [hm : Keeps Quietly m] :
    Preserves (fun _ _ _ => True) Stepped (fun s => I s.back) m := by
  refine ⟨fun s hs => ?_⟩
  have hk : Keeps (fun s l t => True → I s.back → Stepped s l t ∧ I t.back) m :=
    ⟨hm.within.mono fun s l t hq _ hs => ⟨hI.step _ _ hq hs, hI.quiet _ _ hq hs⟩⟩
  exact Keeps.wp_of_invariant m hs (fun _ _ h => h) fun _ _ h => h

lemma settle (I : Back → Prop) {m : Guarded Sys Label Errno R α}
    [h : Preserves (fun _ _ _ => True) Stepped (fun s => I s.back) m] (hs : I s.back) :
    wp (fun _ _ _ => True) Stepped m.1 (fun _ t => I t.back) (fun _ t => I t.back) s :=
  h.sound s hs

lemma attempt_then {A G : Sys → Label → Sys → Prop} {I : Sys → Prop} {Q : α → Sys → Prop}
    {m : Guarded Sys Label Errno R Unit} {f : Option Errno → Guarded Sys Label Errno R α}
    (hm : wp A G m.1 (fun _ => I) (fun _ => I) s)
    (hf : ∀ ret t, I t → wp A G (f ret).1 Q E t) : wp A G (attempt m >>= f).1 Q E s := by
  rw [Guarded.val_bind, wp_bind, wp_attempt]
  exact wp_mono (fun _ t ht => hf none t ht) (fun e t ht => hf (some e) t ht) hm

lemma wp_move {q : Phase} {f : X1PcieBus → X1PcieBus} (h : At p s.back)
    (hpq : q = p ∨ p.Next q ∧ (p = .opened → s.back.host.pcie.hostPrepared = true))
    (hf : ∀ c, InPhase p c s.back.host.pcie →
      InPhase q { c with toX1PcieBus := f c.toX1PcieBus } s.back.host.pcie) :
    wp (fun _ _ _ => True) Stepped (assignBus mp f).1 (fun _ t => At q t.back) E s := by
  intro _
  have hq : At q { s.back with
      x1Pcie := s.back.x1Pcie.map fun c => { c with toX1PcieBus := f c.toX1PcieBus } } := by
    refine ⟨h.attempted, fun c' hc' => ?_⟩
    obtain ⟨c, hc, rfl⟩ := Option.map_eq_some_iff.mp hc'
    exact hf c (h.context c hc)
  refine ⟨⟨fun c c' hc hc' => ⟨p, q, h.context c hc, hq.context c' hc', hpq⟩, ?_, id⟩, hq⟩
  intro c' hc hc'
  obtain ⟨c, hc₁, -⟩ := Option.map_eq_some_iff.mp hc'
  exact absurd (hc.symm.trans hc₁) (Option.some_ne_none c).symm

lemma wp_note {f : X1PcieState → X1PcieState} (h : At p s.back)
    (ha : (f s.back.host.pcie).attempted = s.back.host.pcie.attempted)
    (hs : s.back.host.pcie.hostAttempted = true →
      (f s.back.host.pcie).hostAttempted = true)
    (hf : ∀ c, InPhase p c s.back.host.pcie → InPhase p c (f s.back.host.pcie)) :
    wp (fun _ _ _ => True) Stepped (assignPcie mp f).1
      (fun _ t => At p t.back ∧ t.back.host.pcie = f s.back.host.pcie) E s := by
  intro _
  have hp : At p { s.back with host.pcie := f s.back.host.pcie } :=
    ⟨ha.trans h.attempted, fun c hc => hf c (h.context c hc)⟩
  exact ⟨h.step hp id hs, hp, rfl⟩

end Rules

/-! ### The scan -/

section Scan

variable {c : X1PcieContext} {st : X1PcieState}

lemma At.closed {b : Back} (h : At p b) (hs : b.host.pcie.hostAttempted = false) :
    At .closed b := by
  refine ⟨h.attempted, fun c hc => ?_⟩
  have hp : p = .closed := by
    by_contra hp
    exact absurd (hs.symm.trans ((h.context c hc).scanned hp)) Bool.false_ne_true
  exact hp ▸ h.context c hc

lemma InPhase.attempted (h : InPhase .closed c st) :
    InPhase .closed c { st with hostAttempted := true } :=
  { h with scanned := fun _ => rfl }

lemma InPhase.scan (h : InPhase .closed c st) (hs : st.hostAttempted = true) :
    InPhase .scan { c with configOpen := true, scanWrites := true } st where
  configOpen := rfl
  scanWrites := rfl
  bindWrites := h.bindWrites
  scanned _ := hs
  unbound _ := h.unbound (.inl rfl)
  bindTried := by simp
  prepared hp := by simpa using h.prepared hp
  nvmeBound hp := by simpa using h.nvmeBound hp
  configFenced hp := by simpa using h.configFenced hp

lemma InPhase.opened (h : InPhase .scan c st) :
    InPhase .opened { c with scanWrites := false } st where
  configOpen := h.configOpen
  scanWrites := rfl
  bindWrites := h.bindWrites
  scanned _ := h.scanned (by simp)
  unbound := by simp
  bindTried := by simp
  prepared _ := .inl rfl
  nvmeBound hp := by simpa using h.nvmeBound hp
  configFenced hp := by simpa using h.configFenced hp

variable {s : Sys} {E : Errno → Sys → Prop}

lemma wp_endScan (h : Scanning s.back) :
    wp (fun _ _ _ => True) Stepped (assignBus mp fun c => { c with scanWrites := false }).1
      (fun _ t => Between t.back) E s := by
  rcases h with h | h | h
  · refine wp_mono (fun _ _ ht => ⟨.closed, by simp, ht⟩) (fun _ _ h => h)
      (wp_move h (.inl rfl) fun c hc => ?_)
    exact { hc with scanWrites := rfl }
  · exact wp_mono (fun _ _ ht => ⟨.opened, by simp, ht⟩) (fun _ _ h => h)
      (wp_move h (.inr ⟨.finish, nofun⟩) fun c hc => hc.opened)
  · refine wp_mono (fun _ _ ht => ⟨.opened, by simp, ht⟩) (fun _ _ h => h)
      (wp_move h (.inl rfl) fun c hc => ?_)
    exact { hc with scanWrites := rfl }

structure Tried (b : Back) : Prop extends At .closed b where
  tried : b.host.pcie.hostAttempted = true

instance : Settled Tried where
  step b b' hq h := Settled.step b b' hq h.toAt
  quiet _ _ hq h := ⟨h.toAt.quiet hq, hq.hostAttempted.trans h.tried⟩

instance (m : BackProg mp Unit) [Keeps Quietly m] :
    Preserves (fun _ _ _ => True) Stepped (fun s => Between s.back) (x1PcieHostScan mp m) := by
  refine ⟨fun s hs => ?_⟩
  unfold x1PcieHostScan
  refine (wp_bind _ _).mpr (wp_getHost.mpr ((wp_bind _ _).mpr ((wp_require _ _).mpr ?_)))
  split
  case isFalse => exact hs
  case isTrue hfirst =>
    obtain ⟨p, -, hp⟩ := hs
    have hc := hp.closed (by simpa using hfirst)
    refine (wp_bind _ _).mpr (wp_mono ?_ (fun _ _ h => h)
      (wp_note hc rfl (fun _ => rfl) fun _ => InPhase.attempted))
    rintro - s ⟨hs, hst⟩
    have hs : Tried s.back := ⟨hs, by rw [hst]⟩
    refine attempt_then (I := fun s => Scanning s.back) ?_ fun ret s hs => ?_
    · iterate 4
        refine Preserves.step (fun s => Tried s.back) hs (fun _ _ h => .inl h.toAt) fun _ s hs => ?_
      refine (wp_bind _ _).mpr (wp_mono (fun _ s hs => ?_) (fun _ _ h => h)
        (wp_move hs.toAt (.inr ⟨.start, nofun⟩) fun _ hc => hc.scan hs.tried))
      iterate 12
        refine Preserves.step (fun s => At .scan s.back) hs (fun _ _ h => .inr (.inl h))
          fun _ s hs => ?_
      refine (wp_bind _ _).mpr (wp_mono (fun _ s hs => ?_) (fun _ _ h => h)
        (wp_move hs (.inr ⟨.finish, nofun⟩) fun _ hc => hc.opened))
      iterate 5
        refine Preserves.step (fun s => At .opened s.back) hs (fun _ _ h => .inr (.inr h))
          fun _ s hs => ?_
      refine wp_mono (fun _ _ ht => .inr (.inr ht.1)) (fun _ _ h => h)
        (wp_note hs rfl id fun _ hc => ?_)
      exact { hc with prepared := fun _ => .inl rfl }
    · refine (wp_bind _ _).mpr (wp_mono (fun _ s hs => ?_) (fun _ _ h => h) (wp_endScan hs))
      refine Preserves.step (fun s => Between s.back) hs (fun _ _ h => h) fun _ s hs => ?_
      exact settle Between hs

end Scan

/-! ### The other operations -/

section Operations

variable (m : BackProg mp Unit) [Keeps Quietly m] {c : X1PcieContext} {st : X1PcieState}

lemma Rest.between {b : Back} (h : Rest b) (hc : b.x1Pcie = some c) : Between b := by
  rcases h with h | h
  · exact absurd (h.none.symm.trans hc) (Option.some_ne_none c).symm
  · exact h

structure Begun (b : Back) : Prop extends Fresh b where
  attempted : b.host.pcie.attempted = true

instance : Settled Begun where
  step b b' hq h := Settled.step b b' hq h.toFresh
  quiet _ _ hq h := ⟨h.toFresh.quiet hq, hq.attempted.trans h.attempted⟩

lemma Blank.closed (h : Blank st) (g : ℕ) : InPhase .closed { state := g } st where
  configOpen := rfl
  scanWrites := rfl
  bindWrites := rfl
  scanned hp := absurd rfl hp
  unbound _ := h.bindTried
  bindTried := by simp
  prepared hp := absurd (h.prepared.symm.trans hp) Bool.false_ne_true
  nvmeBound hp := absurd (h.nvmeBound.symm.trans hp) Bool.false_ne_true
  configFenced hp := absurd (h.configFenced.symm.trans hp) Bool.false_ne_true

lemma wp_newContext {s : Sys} (h : Begun s.back) :
    wp (fun _ _ _ => True) Stepped (newContext mp).1 (fun _ t => At .closed t.back)
      (fun _ t => Rest t.back) s := by
  refine Preserves.step (fun s => Begun s.back) h (fun _ _ h => .inl h.toFresh) fun _ s hs => ?_
  intro _
  have hnew : At .closed
      { s.back with x1Pcie := some { state := s.back.host.generation } } := by
    refine ⟨hs.attempted, ?_⟩
    rintro c ⟨⟩
    exact hs.blank.closed _
  refine ⟨⟨fun c _ hc _ => ?_, fun c' _ hc' => ?_, id⟩, hnew⟩
  · exact absurd (hs.none.symm.trans hc) (Option.some_ne_none c).symm
  · exact ⟨hnew.context c' hc', hs.blank.hostAttempted⟩

instance (i : Bool) : Preserves (fun _ _ _ => True) Stepped (fun s => Rest s.back)
    (x1PciePrepareOnce mp i) := by
  refine ⟨fun s hs => ?_⟩
  unfold x1PciePrepareOnce
  refine (wp_bind _ _).mpr (wp_get.mpr ((wp_bind _ _).mpr ((wp_require _ _).mpr ?_)))
  split
  case isFalse => exact hs
  case isTrue =>
  refine (wp_bind _ _).mpr ((wp_require _ _).mpr ?_)
  split
  case isFalse => exact hs
  case isTrue hnew =>
  simp only [Bool.and_eq_true, Bool.not_eq_true', Option.isNone_iff_eq_none] at hnew
  have hf : Fresh s.back := by
    rcases hs with h | ⟨p, -, h⟩
    · exact h
    · exact absurd (hnew.1.symm.trans h.attempted) Bool.false_ne_true
  refine (wp_bind _ _).mpr fun _ => ⟨?_, ?_⟩
  · exact ⟨fun c _ hc _ => absurd (hf.none.symm.trans hc) (Option.some_ne_none c).symm,
      fun c _ hc => absurd (hf.none.symm.trans hc) (Option.some_ne_none c).symm, id⟩
  · refine attempt_then (I := fun s => Rest s.back) ?_ fun ret s hs => ?_
    · refine (wp_bind _ _).mpr (wp_mono (fun _ s hs => ?_) (fun _ _ h => h)
        (wp_newContext ⟨⟨hf.none, { hf.blank with }⟩, rfl⟩))
      exact settle Rest (.inr ⟨.closed, by simp, hs⟩)
    · exact settle Rest hs

lemma wp_context {α : Type} {s : Sys} {f : X1PcieContext → Bool} {k : BackProg mp α}
    (hs : Rest s.back)
    (hk : ∀ c, s.back.x1Pcie = some c → f c = true → Between s.back →
      wp (fun _ _ _ => True) Stepped k.1 (fun _ t => Rest t.back) (fun _ t => Rest t.back) s) :
    wp (fun _ _ _ => True) Stepped
      (do withCtx mp fun c => require (f c) .eperm; k : BackProg mp α).1
      (fun _ t => Rest t.back) (fun _ t => Rest t.back) s := by
  refine (wp_bind _ _).mpr ((wp_withCtx _).mpr ?_)
  cases hc : s.back.x1Pcie with
  | none => exact hs
  | some c =>
    refine (wp_require _ _).mpr ?_
    split
    case isTrue hf => exact hk c hc hf (hs.between hc)
    case isFalse => exact hs

instance (v d : ℕ) : Preserves (fun _ _ _ => True) Stepped (fun s => Rest s.back)
    (qcomUsb4X1BatchInventory mp m v d) := by
  refine ⟨fun s hs => ?_⟩
  unfold qcomUsb4X1BatchInventory
  refine (wp_bind _ _).mpr (wp_getHost.mpr (wp_context hs fun c _ _ hb => ?_))
  refine wp_mono (fun _ _ h => .inr h) (fun _ _ h => .inr h) ?_
  exact settle Between hb

lemma InPhase.bindAttempted (h : InPhase .opened c st) :
    InPhase .opened c { st with nvmeBindAttempted := true } :=
  { h with unbound := by simp, bindTried := fun _ => rfl }

lemma InPhase.bind (h : InPhase .opened c st) (ht : st.nvmeBindAttempted = true) :
    InPhase .bound { c with bindWrites := true } st where
  configOpen := h.configOpen
  scanWrites := h.scanWrites
  bindWrites := rfl
  scanned _ := h.scanned (by simp)
  unbound := by simp
  bindTried _ := ht
  prepared _ := .inr (.inl rfl)
  nvmeBound _ := .inl rfl
  configFenced hp := by simpa using h.configFenced hp

lemma At.opened {b : Back} (h : At p b) (hp : b.host.pcie.hostPrepared = true)
    (hb : b.host.pcie.nvmeBindAttempted = false) : At .opened b := by
  refine ⟨h.attempted, fun c hc => ?_⟩
  have hc := h.context c hc
  have hp : p = .opened := by
    rcases hc.prepared hp with h | h
    · exact h
    · exact absurd (hb.symm.trans (hc.bindTried h)) Bool.false_ne_true
  exact hp ▸ hc

lemma wp_attach {s : Sys} (hs : Ready s.back) :
    wp (fun _ _ _ => True) Stepped (do
      call mp (.check .driverOverride)
      assignBus mp fun c => { c with bindWrites := true }
      call mp (.check .driverAttach)
      raiseCfgError mp
      assignPcie mp fun p => { p with nvmeBound := true }
      mark mp .bound : BackProg mp Unit).1
      (fun _ t => Between t.back) (fun _ t => Between t.back) s := by
  refine Preserves.step (fun s => Ready s.back) hs (fun _ _ h => ⟨.opened, by simp, h.toAt⟩)
    fun _ s hs => ?_
  refine (wp_bind _ _).mpr (wp_mono (fun _ s hs => ?_) (fun _ _ h => h)
    (wp_move hs.toAt (.inr ⟨.bind, fun _ => hs.ready⟩) fun _ hc => hc.bind hs.tried))
  iterate 2
    refine Preserves.step (fun s => At .bound s.back) hs (fun _ _ h => ⟨.bound, by simp, h⟩)
      fun _ s hs => ?_
  refine (wp_bind _ _).mpr (wp_mono ?_ (fun _ _ h => h) (wp_note hs rfl id fun c hc => ?_))
  · rintro - s ⟨hs, -⟩
    exact settle Between ⟨.bound, by simp, hs⟩
  · exact { hc with nvmeBound := fun _ => .inl rfl }

instance : Preserves (fun _ _ _ => True) Stepped (fun s => Rest s.back)
    (qcomUsb4X1NvmeBind mp) := by
  refine ⟨fun s hs => ?_⟩
  unfold qcomUsb4X1NvmeBind
  refine (wp_bind _ _).mpr (wp_getHost.mpr (wp_context hs fun c _ hf hb => ?_))
  simp only [Bool.and_eq_true] at hf
  refine (wp_bind _ _).mpr ((wp_require _ _).mpr ?_)
  split
  case isFalse => exact hs
  case isTrue hfirst =>
  obtain ⟨p, -, hp⟩ := hb
  have hprep : s.back.host.pcie.hostPrepared = true := by tauto
  have ho := hp.opened hprep (by simpa using hfirst)
  refine (wp_bind _ _).mpr (wp_mono ?_ (fun _ _ h => h)
    (wp_note ho rfl id fun _ => InPhase.bindAttempted))
  rintro - s ⟨hs, hst⟩
  have hs : Ready s.back := ⟨hs, by rw [hst]; exact hprep, by rw [hst]⟩
  refine attempt_then (I := fun s => Between s.back) ?_ fun ret s hs => ?_
  · have hE : ∀ (e : Errno) (t : Sys), Ready t.back → Between t.back :=
      fun _ _ h => ⟨.opened, by simp, h.toAt⟩
    iterate 3
      refine Preserves.step (fun s => Ready s.back) hs hE fun _ s hs => ?_
    dsimp only
    split
    · iterate 2
        refine Preserves.step (fun s => Ready s.back) hs hE fun _ s hs => ?_
      exact wp_attach hs
    · exact wp_attach hs
  · exact settle Rest (.inr hs)

lemma At.bound {b : Back} (h : At p b) (hn : b.host.pcie.nvmeBound = true) :
    Bound b := by
  by_cases hc : ∃ c, b.x1Pcie = some c
  · obtain ⟨c, hc⟩ := hc
    rcases (h.context c hc).nvmeBound hn with rfl | rfl
    · exact .inl h
    · exact .inr h
  · exact .inl ⟨h.attempted, fun c hx => absurd ⟨c, hx⟩ hc⟩

lemma InPhase.fence (h : InPhase p c st) (ht : p = .bound ∨ p = .fenced) :
    InPhase .fenced { c with configOpen := false, scanWrites := false, bindWrites := false }
      st where
  configOpen := rfl
  scanWrites := rfl
  bindWrites := rfl
  scanned _ := h.scanned (by rcases ht with rfl | rfl <;> simp)
  unbound := by simp
  bindTried _ := h.bindTried ht
  prepared _ := .inr (.inr rfl)
  nvmeBound _ := .inr rfl
  configFenced _ := rfl

lemma wp_fence {s : Sys} {E : Errno → Sys → Prop} (h : Bound s.back) :
    wp (fun _ _ _ => True) Stepped
      (assignBus mp fun c =>
        { c with configOpen := false, scanWrites := false, bindWrites := false }).1
      (fun _ t => At .fenced t.back) E s := by
  rcases h with h | h
  · exact wp_move h (.inr ⟨.fence, nofun⟩) fun c hc => hc.fence (.inl rfl)
  · exact wp_move h (.inl rfl) fun c hc => hc.fence (.inr rfl)

lemma Bound.rest {b : Back} (h : Bound b) : Rest b :=
  .inr (h.elim (fun h => ⟨.bound, by simp, h⟩) fun h => ⟨.fenced, by simp, h⟩)

lemma fenceAction_rest {s : Sys} (h : Bound s.back) :
    wp (fun _ _ _ => True) Stepped (x1PcieFenceAction mp m).1 (fun _ t => Rest t.back)
      (fun _ t => Rest t.back) s := by
  unfold x1PcieFenceAction
  refine Preserves.step (fun s => Bound s.back) h (fun _ _ h => h.rest) fun _ s hs => ?_
  refine (wp_bind _ _).mpr (wp_get.mpr ((wp_bind _ _).mpr ((wp_withCtx _).mpr ?_)))
  have hrest : ∀ (ret : Option Errno) (s : Sys), Rest s.back →
      wp (fun _ _ _ => True) Stepped (do
        assign mp fun b => { b with configLocked := false }
        raise ret
        let ret ← attempt (x1ImsiStopRetained mp)
        x1ImsiCached mp
        raise ret
        m : BackProg mp Unit).1 (fun _ t => Rest t.back) (fun _ t => Rest t.back) s :=
    fun ret s hs => settle Rest hs
  cases s.back.x1Pcie with
  | none => exact hs.rest
  | some c =>
    dsimp only
    split
    · exact hrest _ s hs.rest
    · refine Preserves.step (fun s => Bound s.back) hs (fun _ _ h => h.rest) fun _ s hs => ?_
      refine (wp_bind _ _).mpr (wp_mono (fun _ s hs => ?_) (fun _ _ h => h) (wp_fence hs))
      refine (wp_bind _ _).mpr (wp_mono ?_ (fun _ _ h => h)
        (wp_note hs rfl id fun c hc => { hc with configFenced := fun _ => rfl }))
      rintro - s ⟨hs, -⟩
      exact wp_mono hrest (fun _ _ h => h) (settle Rest (.inr ⟨.fenced, by simp, hs⟩))

instance : Preserves (fun _ _ _ => True) Stepped (fun s => Rest s.back)
    (qcomUsb4X1FenceAndQuiesce mp m) := by
  refine ⟨fun s hs => ?_⟩
  unfold qcomUsb4X1FenceAndQuiesce
  refine (wp_bind _ _).mpr (wp_get.mpr (wp_context hs fun c _ hf hb => ?_))
  simp only [Bool.and_eq_true, boundContext] at hf
  obtain ⟨p, -, hp⟩ := hb
  have hbound := hp.bound (by tauto)
  dsimp only
  split
  · refine Preserves.step (fun s => Bound s.back) hbound (fun _ _ h => h.rest) fun _ s hs => ?_
    exact fenceAction_rest m hs
  · exact fenceAction_rest m hbound

/-- The bus is gone: nothing is published or bound any more. -/
instance (x : Bool) : Preserves (fun _ _ _ => True) Stepped (fun s => Rest s.back)
    (assignPcie mp fun p =>
      { p with nvmeBound := false, hostPublished := x, hostPrepared := false }) := by
  refine ⟨fun s hs => ?_⟩
  rcases hs with hs | ⟨p, hp, hs⟩
  · refine fun _ => ⟨⟨fun c _ hc _ => ?_, fun c _ hc => ?_, id⟩, .inl ⟨hs.none, ?_⟩⟩
    · exact absurd (hs.none.symm.trans hc) (Option.some_ne_none c).symm
    · exact absurd (hs.none.symm.trans hc) (Option.some_ne_none c).symm
    · exact { hs.blank with prepared := rfl, nvmeBound := rfl }
  · refine wp_mono (fun _ _ ht => .inr ⟨p, hp, ht.1⟩) (fun _ _ h => h)
      (wp_note hs rfl id fun c hc => ?_)
    exact { hc with prepared := nofun, nvmeBound := nofun }

instance : Preserves (fun _ _ _ => True) Stepped (fun s => Rest s.back)
    (qcomUsb4X1RetirePci mp m) := by
  unfold qcomUsb4X1RetirePci; infer_instance

end Operations

/-! ### The fence -/

/-- The scan is over, and no access is left to the context. -/
structure After (b : Back) : Prop where
  scanned : b.host.pcie.hostAttempted = true
  context : ∀ c, b.x1Pcie = some c → InPhase .fenced c b.host.pcie

lemma After.step (h : After b) (hs : Step b b') : After b' where
  scanned := hs.scanned h.scanned
  context c' hc' := by
    cases hc : b.x1Pcie with
    | none =>
      exact absurd ((hs.new c' hc hc').2.symm.trans (hs.scanned h.scanned)) Bool.false_ne_true
    | some c =>
      obtain ⟨p, p', hp, hp', hn⟩ := hs.same c c' hc hc'
      obtain rfl := hp.unique (h.context c hc)
      rcases hn with rfl | ⟨hn, -⟩
      · exact hp'
      · exact nomatch hn

lemma After.shut {b : Back} (h : After b) : Shut b := by
  have hflags : ∀ c, b.x1Pcie = some c →
      c.configOpen = false ∧ c.scanWrites = false ∧ c.bindWrites = false := fun c hc =>
    ⟨(h.context c hc).configOpen, (h.context c hc).scanWrites, (h.context c hc).bindWrites⟩
  refine ⟨hflags, ?_, fun fr => ?_⟩
  · unfold configBase
    cases hc : b.x1Pcie with
    | none => rfl
    | some c => simp [(hflags c hc).1]
  · unfold enableReaches
    cases hc : b.x1Pcie with
    | none => rfl
    | some c => simp [(hflags c hc).2.2]

lemma After.quiet (h : After b) (hq : Quiet b b') : After b' where
  scanned := hq.hostAttempted.trans h.scanned
  context c' hc' := by
    obtain ⟨c, hc, hf⟩ := hq.context c' hc'
    exact (h.context c hc).quiet hq hf

/-- Nothing but the interrupts of the drive is dealt with before access is closed. -/
def CallsFenced (s : Sys) (l : Label) (_ : Sys) : Prop :=
  ∀ c e, l = .call c e → c ≠ .check .nvmeRetireIrqs → After s.back

section Fence

variable {s : Sys} {c : X1PcieContext} (m : BackProg mp Unit) [Keeps Quietly m]

lemma wp_assign_fenced {f : Back → Back} {Q : Unit → Sys → Prop} {E : Errno → Sys → Prop}
    (h : Q () { s with back := f s.back }) :
    wp (fun _ _ _ => True) CallsFenced (assign mp f).1 Q E s :=
  fun _ => ⟨nofun, h⟩

instance (priority := low) {α : Type} {R : Sys → Label → Sys → Prop}
    (m : Guarded Sys Label Errno R α) [hm : Keeps Quietly m] :
    Preserves (fun _ _ _ => True) CallsFenced (fun s => After s.back) m := by
  refine ⟨fun s hs => ?_⟩
  have hk : Keeps (fun s l t => True → After s.back → CallsFenced s l t ∧ After t.back) m :=
    ⟨hm.within.mono fun s l t hq _ hs => ⟨fun _ _ _ _ => hs, hs.quiet hq⟩⟩
  exact Keeps.wp_of_invariant m hs (fun _ _ h => h) fun _ _ h => h

/-- Closed at its beginning, or found closed: the rest of the fence leaves it so, whatever it
returns. -/
lemma fenceAction_after (h : Bound s.back) (hc : s.back.x1Pcie = some c) :
    wp (fun _ _ _ => True) CallsFenced (x1PcieFenceAction mp m).1 (fun _ t => After t.back)
      (fun _ t => After t.back) s := by
  -- Once the phase is closed nothing behind it opens it, whatever the stop returns.
  have hrest : ∀ (ret : Option Errno) (s : Sys), After s.back →
      wp (fun _ _ _ => True) CallsFenced (do
        assign mp fun b => { b with configLocked := false }
        raise ret
        let ret ← attempt (x1ImsiStopRetained mp)
        x1ImsiCached mp
        raise ret
        m : BackProg mp Unit).1 (fun _ t => After t.back) (fun _ t => After t.back) s :=
    fun ret s hs => Preserves.sound s hs
  obtain ⟨p, hp, ht⟩ : ∃ p, InPhase p c s.back.host.pcie ∧ (p = .bound ∨ p = .fenced) := by
    rcases h with h | h
    · exact ⟨.bound, h.context c hc, .inl rfl⟩
    · exact ⟨.fenced, h.context c hc, .inr rfl⟩
  unfold x1PcieFenceAction
  refine (wp_bind _ _).mpr (wp_assign_fenced ?_)
  refine (wp_bind _ _).mpr (wp_get.mpr ((wp_bind _ _).mpr ((wp_withCtx _).mpr ?_)))
  dsimp only
  rw [hc]
  dsimp only
  split
  · rename_i hfenced
    obtain rfl := hp.configFenced hfenced
    refine hrest _ _ ⟨hp.scanned (by simp), ?_⟩
    rintro c' ⟨⟩
    exact hp
  · refine (wp_bind _ _).mpr (wp_assign_fenced ?_)
    refine (wp_bind _ _).mpr (wp_assign_fenced ?_)
    refine (wp_bind _ _).mpr (wp_assign_fenced ?_)
    refine wp_mono hrest (fun _ _ h => h) (Preserves.sound _ ⟨(hp.fence ht).scanned (by simp), ?_⟩)
    rintro c' ⟨⟩
    exact { hp.fence ht with configFenced := fun _ => rfl }

/-- What `fence_and_quiesce` asks before it comes to the fence: the drive is bound, and its
interrupts are retired if the endpoint is still there. -/
def reachesFence (mp : Params) (s : Sys) : Bool :=
  match s.back.x1Pcie with
  | none => false
  | some c =>
    boundContext c s.back.host s.front.cfgError &&
      s.back.host.pcie.general == s.back.host.pcie.endpointRemoved &&
      (s.back.host.pcie.general || ((call mp (.check .nvmeRetireIrqs)).1 s).res.isOk)

lemma reachesFence_iff : reachesFence mp s = true ↔
    ∃ c, s.back.x1Pcie = some c ∧ boundContext c s.back.host s.front.cfgError = true ∧
      s.back.host.pcie.general = s.back.host.pcie.endpointRemoved ∧
      (s.back.host.pcie.general = false →
        ((call mp (.check .nvmeRetireIrqs)).1 s).res = .ok ()) := by
  unfold reachesFence
  cases s.back.x1Pcie with
  | none => simp
  | some c =>
    cases ((call mp (.check .nvmeRetireIrqs)).1 s).res <;>
      simp [Except.isOk, Except.toBool, and_assoc]

lemma fenceAndQuiesce_after (hs : Rest s.back) (hf : reachesFence mp s = true) :
    wp (fun _ _ _ => True) CallsFenced (qcomUsb4X1FenceAndQuiesce mp m).1
      (fun _ t => After t.back) (fun _ t => After t.back) s := by
  obtain ⟨c, hc, hb, hgen, hirqs⟩ := reachesFence_iff.mp hf
  unfold qcomUsb4X1FenceAndQuiesce
  refine (wp_bind _ _).mpr (wp_get.mpr ((wp_bind _ _).mpr ((wp_withCtx _).mpr ?_)))
  rw [hc]
  refine (wp_require _ _).mpr ?_
  rw [if_pos (by simp [hb, hgen])]
  obtain ⟨p, -, hp⟩ := hs.between hc
  have hbound : Bound s.back := by
    simp only [boundContext, Bool.and_eq_true] at hb
    exact hp.bound (by tauto)
  dsimp only
  split
  · rename_i hg
    refine (wp_bind _ _).mpr (wp_of_ok (hirqs (by simpa using hg)) (E := fun _ _ => True) ?_)
    refine wp_call (P := fun t => t.back = s.back) (fun t a ht _ => ⟨nofun, ht⟩) rfl
      (fun t _ hb _ => ⟨fun _ _ hl hne => ?_, ?_⟩)
      fun t e v _ _ _ => ⟨fun _ _ hl hne => ?_, trivial⟩
    · cases hl
      exact absurd rfl hne
    · refine fenceAction_after (c := c) m (Settled.quiet _ _ (Quiet.of_eq ?_ ?_) hbound) ?_
      · exact congrArg Back.x1Pcie hb
      · exact congrArg (·.host.pcie) hb
      · exact (congrArg Back.x1Pcie hb).trans hc
    · cases hl
      exact absurd rfl hne
  · exact fenceAction_after m hbound hc

end Fence

/-! ### Runs -/

variable (mp) in
/-- Code outside this file: it leaves the phase of PCIe0 alone. -/
structure Caller where
  prog : BackProg mp Unit
  quiet : Within Quietly prog.1

instance (k : Caller mp) : Keeps Quietly k.prog := ⟨k.quiet⟩

variable (mp) in
/-- What can be asked of PCIe0, with the callbacks it is given, and whatever else the driver
does meanwhile. -/
inductive PciOp
  | prepareOnce (inventory : Bool)
  | batchInventory (batchLive : Caller mp) (vendor device : ℕ)
  | nvmeBind
  | generalRemove
  | pulledRemove
  | fenceAndQuiesce (action : Caller mp)
  | retireNamespaces (checkStopped : Caller mp)
  | retirePci (checkStopped : Caller mp)
  | retirePlatform (checkStopped : Caller mp)
  | idleRetirePlatform (checkStopped : Caller mp)
  | releaseRetiredReset
  | outside (k : Caller mp)

def PciOp.prog : PciOp mp → BackProg mp Unit
  | .prepareOnce i => x1PciePrepareOnce mp i
  | .batchInventory k v d => qcomUsb4X1BatchInventory mp k.prog v d
  | .nvmeBind => qcomUsb4X1NvmeBind mp
  | .generalRemove => qcomUsb4X1GeneralRemove mp
  | .pulledRemove => qcomUsb4X1PulledRemove mp
  | .fenceAndQuiesce k => qcomUsb4X1FenceAndQuiesce mp k.prog
  | .retireNamespaces k => qcomUsb4X1RetireNamespaces mp k.prog
  | .retirePci k => qcomUsb4X1RetirePci mp k.prog
  | .retirePlatform k => qcomUsb4X1RetirePlatform mp k.prog
  | .idleRetirePlatform k => qcomUsb4X1IdleRetirePlatform mp k.prog
  | .releaseRetiredReset => qcomUsb4X1ReleaseRetiredReset mp
  | .outside k => k.prog

instance (op : PciOp mp) :
    Preserves (fun _ _ _ => True) Stepped (fun s => Rest s.back) op.prog := by
  cases op <;> dsimp only [PciOp.prog] <;> infer_instance

/-- Whatever is asked of PCIe0 and in whatever order, its context goes through the phases one
way, no scan outlives its operation, a fence that is reached closes access before it goes on and
whatever comes of it, and from then on nothing reaches a device. -/
theorem configAccess_phased (s : Sys) (hs : Fresh s.back) (ops : List (PciOp mp)) :
    let tr := (runAll (ops.map fun op => op.prog.1) s).trace
    Along Stepped s tr ∧
    (∀ c, (final s tr).back.x1Pcie = some c → c.scanWrites = false) ∧
    (∀ tr₁ tr₂, tr = tr₁ ++ tr₂ → After (final s tr₁).back →
      Shut (final s tr₁).back ∧ Along (fun _ _ u => Shut u.back) (final s tr₁) tr₂) ∧
    ∀ action : Caller mp, reachesFence mp (final s tr) = true →
      let fence := ((qcomUsb4X1FenceAndQuiesce mp action.prog).1 (final s tr)).trace
      Along CallsFenced (final s tr) fence ∧ After (final (final s tr) fence).back := by
  intro tr
  -- Every operation keeps to the steps of the phases and comes to rest in one.
  have hrun : Triple (fun _ _ _ => True) Stepped (fun s => Rest s.back)
      (runAll (ops.map fun op => op.prog.1)) (fun _ s => Rest s.back) fun _ _ => False := by
    refine Triple.runAll fun m hm => ?_
    obtain ⟨op, -, rfl⟩ := List.mem_map.mp hm
    exact fun s hs => settle Rest hs
  obtain ⟨hsteps, hend⟩ := Follow.along (hrun s (.inl hs)) (along_true _ _)
  have hrest : Rest (final s tr).back := by
    revert hend
    cases (runAll (ops.map fun op => op.prog.1) s).res with
    | ok a => exact id
    | error e => exact False.elim
  refine ⟨hsteps, fun c hc => ?_, fun tr₁ tr₂ htr hafter => ?_, fun action hf => ?_⟩
  · obtain ⟨p, hp, h⟩ := hrest.between hc
    rw [(h.context c hc).scanWrites]
    exact decide_eq_false hp
  · have hlater : Along Stepped (final s tr₁) tr₂ :=
      ((along_append s tr₁ tr₂).mp (htr ▸ hsteps)).2
    refine ⟨hafter.shut, ?_⟩
    exact (hlater.invariant (I := fun t : Sys => After t.back) (fun _ _ _ hs h => h.step hs)
      hafter).1.mono fun _ _ _ h => h.2.shut
  · obtain ⟨hcalls, hafter⟩ :=
      Follow.along (fenceAndQuiesce_after action.prog hrest hf) (along_true _ _)
    refine ⟨hcalls, ?_⟩
    cases hres : ((qcomUsb4X1FenceAndQuiesce mp action.prog).1 (final s tr)).res <;>
      rw [hres] at hafter <;> exact hafter

/-- A session that asked for the scan and the bind, with nothing done yet. -/
def requested : Sys :=
  { back := { host := { generation := 1, pcie := { receiverRequested := true, nvmeRequested := true
                                                   general := true } }
              nextGeneration := 1 }
    env := Run.undisturbed }

def boundRun : List (PciOp Run.required) :=
  [.prepareOnce true, .batchInventory ⟨pure (), within_pure _⟩ 0 0, .nvmeBind, .generalRemove]

def failing : Caller Run.required := ⟨throw .eio, within_throw _⟩

theorem configAccess_phased_fence :
    let s := final requested (runAll (boundRun.map fun op => op.prog.1) requested).trace
    let fence := (qcomUsb4X1FenceAndQuiesce Run.required failing.prog).1 s
    (s.back.x1Pcie.map (·.configOpen) = some true ∧ fence.res = .error .eio ∧
      (final s fence.trace).back.x1Pcie.isSome = true) ∧ After (final s fence.trace).back :=
  ⟨by decide +kernel,
    ((configAccess_phased requested ⟨rfl, ⟨rfl, rfl, rfl, rfl, rfl⟩⟩ boundRun).2.2.2 failing
      (by decide +kernel)).2⟩

end YogaUsb4.ConfigPhase
