import YogaUsb4.Ledger.Activate

/-!
The books of a batch: from the empty port to a bound endpoint.
-/

set_option synthInstance.maxSize 1000

namespace YogaUsb4.Ledger

open HostState Typec Driver Prog Rules Frames Footprint Cm Pcie Activate Batch

variable {mp : Params}

/-! ### The preparation of PCIe0 -/

/-- A voting session with its PCIe context. -/
@[mk_iff] structure Placed (b : Back) : Prop where
  voting : Voting b
  context : b.x1Pcie ≠ none

@[grind →] lemma Same.context_ne {b b' : Back} (h : Same b b') (hb : b.x1Pcie ≠ none) :
    b'.x1Pcie ≠ none := by
  intro hc
  have := h.context
  rw [hc, Option.map_none, eq_comm, Option.map_eq_none_iff] at this
  exact hb this

@[grind →] lemma Same.placed {b b' : Back} (h : Same b b') (hb : Placed b) : Placed b' :=
  ⟨h.voting hb.voting, h.context_ne hb.context⟩

instance : Booked Placed := ⟨Same.placed⟩

instance : Saves mp Placed (enableClock mp) := by
  refine ⟨fun s h => ?_⟩
  unfold enableClock
  refine Vc.sound ?_
  obtain ⟨c, hc⟩ := Option.ne_none_iff_exists'.mp h.context
  obtain ⟨fr, b, env⟩ := s
  simp only [placed_iff, voting_iff, open_iff, balanced_iff, Covered] at h hc
  simp +contextual [placed_iff, voting_iff, open_iff, balanced_iff, Covered, h, hc]
  grind

instance : Saves mp Placed (x1PcieMode mp) := by
  refine ⟨fun s h => ?_⟩
  unfold x1PcieMode
  refine Vc.sound ?_
  obtain ⟨fr, b, env⟩ := s
  simp only [placed_iff, voting_iff, open_iff, balanced_iff, Covered] at h
  simp +contextual [placed_iff, voting_iff, open_iff, balanced_iff, Covered, h]

instance : Saves mp Placed (votePlatform mp) := by
  refine ⟨fun s h => ?_⟩
  unfold votePlatform
  refine Vc.sound ?_
  obtain ⟨fr, b, env⟩ := s
  simp only [placed_iff, voting_iff, open_iff, balanced_iff, Covered] at h
  simp +contextual [placed_iff, voting_iff, open_iff, balanced_iff, Covered, h]

@[mk_iff] structure Vacant (b : Back) : Prop where
  placed : Placed b
  runtime : (held b.x1Pcie).runtimeHeld = false

@[grind →] lemma Same.vacant {b b' : Back} (h : Same b b') (hb : Vacant b) : Vacant b' :=
  ⟨h.placed hb.placed, by rw [h.held, hb.runtime]⟩

lemma resumed (s : Sys) (h : Vacant s.back) :
    wp (votes mp).A (votes mp).G (resumePlatform mp).1
      (fun _ t => Placed t.back) (fun _ t => Placed t.back) s := by
  unfold resumePlatform
  refine Vc.sound ?_
  obtain ⟨c, hc⟩ := Option.ne_none_iff_exists'.mp h.placed.context
  obtain ⟨fr, b, env⟩ := s
  simp only [vacant_iff, placed_iff, voting_iff, open_iff, balanced_iff, Covered] at h hc
  simp +contextual [placed_iff, voting_iff, open_iff, balanced_iff, Covered, h, hc]
  grind

lemma prepareProviders (s : Sys) (h : Vacant s.back) :
    wp (votes mp).A (votes mp).G (x1PciePrepareProviders mp).1
      (fun _ t => Placed t.back) (fun _ t => Placed t.back) s := by
  unfold x1PciePrepareProviders
  exact Preserves.after (resumed s h)

lemma placeContext (s : Sys) (h : Voting s.back ∧ s.back.x1Pcie = none) :
    wp (votes mp).A (votes mp).G (newContext mp).1
      (fun _ t => Vacant t.back) (fun _ t => Voting t.back) s := by
  unfold newContext
  refine Vc.sound ?_
  obtain ⟨fr, b, env⟩ := s
  simp only [voting_iff, open_iff, balanced_iff, Covered] at h
  simp +contextual [vacant_iff, placed_iff, voting_iff, open_iff, balanced_iff, Covered, h]
  grind

instance : Saves mp Vacant (x1PcieReleaseRetiredReset mp) := by
  refine ⟨fun s h => ?_⟩
  unfold x1PcieReleaseRetiredReset
  refine Vc.sound ?_
  obtain ⟨c, hc⟩ := Option.ne_none_iff_exists'.mp h.placed.context
  obtain ⟨fr, b, env⟩ := s
  simp only [vacant_iff, placed_iff, voting_iff, open_iff, balanced_iff, Covered] at h hc
  simp +contextual [vacant_iff, placed_iff, voting_iff, open_iff, balanced_iff, Covered, h, hc]
  grind

instance : Vc (votes mp).A (votes mp).G (newContext mp) := Vc.ofSpec _ _ _ _ placeContext

instance : Vc (votes mp).A (votes mp).G (x1PciePrepareProviders mp) :=
  Vc.ofSpec _ _ _ _ prepareProviders

instance : Vc (votes mp).A (votes mp).G (x1PcieReleaseRetiredReset mp) :=
  Vc.ofSpec _ _ _ _ (Preserves.sound (I := fun s => Vacant s.back))

open scoped Forget

lemma prepareOnce (i : Bool) (s : Sys) (h : i = true → Voting s.back) :
    wp (votes mp).A (votes mp).G (x1PciePrepareOnce mp i).1
      (fun _ t => Voting t.back)
      (fun _ t => if i then Voting t.back else t.back = s.back) s := by
  unfold x1PciePrepareOnce x1PciePrepareProbe
  refine Vc.sound ?_
  cases i
  · simp
  · simp [h]
    grind [Vacant.placed, Placed.voting]

instance (i : Bool) : Vc (votes mp).A (votes mp).G (x1PciePrepareOnce mp i) :=
  Vc.ofSpec _ _ _ _ (prepareOnce i)

/-! ### The receiver and the tunnel -/

/-- A session whose batch is not waiting any more, before its tunnel is held. -/
@[mk_iff] structure Attached (b : Back) : Prop where
  opened : Open b
  untied : b.host.retainedTb = false
  still : b.host.batch.waiting = false

@[grind →] lemma Same.attached {b b' : Back} (h : Same b b') (hb : Attached b) : Attached b' :=
  ⟨h.opened hb.opened, by rw [h.retainedTb, hb.untied], by rw [h.waiting, hb.still]⟩

instance : Booked Attached := ⟨Same.attached⟩

/-- The same with its PCIe context. -/
@[mk_iff] structure Sited (b : Back) : Prop where
  attached : Attached b
  context : b.x1Pcie ≠ none

@[grind →] lemma Same.sited {b b' : Back} (h : Same b b') (hb : Sited b) : Sited b' :=
  ⟨h.attached hb.attached, h.context_ne hb.context⟩

instance : Booked Sited := ⟨Same.sited⟩

instance : Saves mp Sited (retainReceiver mp) := by
  refine ⟨fun s h => ?_⟩
  unfold retainReceiver
  refine Vc.sound ?_
  obtain ⟨c, hc⟩ := Option.ne_none_iff_exists'.mp h.context
  obtain ⟨fr, b, env⟩ := s
  simp only [sited_iff, attached_iff, open_iff, balanced_iff, Covered] at h hc
  cases h₁ : b.host.power.runtimeHeld <;> cases h₂ : c.receiverRetained <;>
    cases h₃ : c.runtimeHeld <;>
    simp +contextual [sited_iff, attached_iff, open_iff, balanced_iff, Covered, h, hc, h₁, h₂, h₃]
  all_goals grind

instance : Saves mp Sited (newReceiver mp) := by
  refine ⟨fun s h => ?_⟩
  unfold newReceiver
  refine Vc.sound ?_
  obtain ⟨c, hc⟩ := Option.ne_none_iff_exists'.mp h.context
  obtain ⟨fr, b, env⟩ := s
  simp only [sited_iff, attached_iff, open_iff, balanced_iff, Covered] at h hc
  simp +contextual [sited_iff, attached_iff, open_iff, balanced_iff, Covered, h, hc]
  grind

section Live

variable (live : BackProg mp Unit) [Keeps Aside live]

instance : Saves mp Sited (x1PcieReceiverPrepare mp live) := by
  unfold x1PcieReceiverPrepare x1ImsiPrepare x1PcieReceiverRetain
  infer_instance

/-- Without a context there is no batch. -/
instance (vendor device : ℕ) :
    Saves mp Attached (qcomUsb4X1BatchInventory mp live vendor device) := by
  have : Saves mp Sited (qcomUsb4X1BatchInventory mp live vendor device) := by
    unfold qcomUsb4X1BatchInventory
    infer_instance
  refine ⟨fun s h => ?_⟩
  cases hc : s.back.x1Pcie with
  | none => 
    simp only [qcomUsb4X1BatchInventory, Guarded.val_bind, wp_bind, wp_getHost, wp_withCtx, hc]
    exact h
  | some c =>
    have hs : Sited s.back := ⟨h, by simp [hc]⟩
    exact wp_mono (fun _ _ ht => ht.attached) (fun _ _ ht => ht.attached) (this.sound s hs)

end Live

@[mk_iff] structure Settled (b : Back) : Prop where
  opened : Open b
  still : b.host.batch.waiting = false

@[grind →] lemma Same.settled {b b' : Back} (h : Same b b') (hb : Settled b) : Settled b' :=
  ⟨h.opened hb.opened, by rw [h.waiting, hb.still]⟩

variable {b : Back}

lemma Attached.settled (h : Attached b) : Settled b := ⟨h.opened, h.still⟩

lemma tunnelHeld (uid : ℕ) (s : Sys) (h : Attached s.back) :
    wp (votes mp).A (votes mp).G (holdTunnel mp uid).1
      (fun _ t => Settled t.back) (fun _ t => Settled t.back) s := by
  unfold holdTunnel
  refine Preserves.step (fun s => Attached s.back) h (fun _ _ ht => ht.settled) fun r t h => ?_
  refine Vc.sound ?_
  obtain ⟨fr, b, env⟩ := t
  simp only [attached_iff, open_iff, balanced_iff, Covered] at h
  cases r <;> simp +contextual [settled_iff, open_iff, balanced_iff, Covered, h]
  all_goals grind

instance (live : BackProg mp Unit) [Keeps Aside live] (vendor device : ℕ) :
    Vc (votes mp).A (votes mp).G (qcomUsb4X1BatchInventory mp live vendor device) :=
  Vc.ofSpec _ _ _ _ (Preserves.sound (I := fun s => Attached s.back))

instance (uid : ℕ) : Vc (votes mp).A (votes mp).G (holdTunnel mp uid) :=
  Vc.ofSpec _ _ _ _ (tunnelHeld uid)

lemma batchRun (a : Admitted) (s : Sys) (h : Attached s.back) :
    wp (votes mp).A (votes mp).G (runBatch mp a).1
      (fun _ t => Settled t.back) (fun _ t => Settled t.back) s := by
  unfold runBatch
  refine Vc.sound ?_
  simp
  grind [Attached.settled]

instance (a : Admitted) : Vc (votes mp).A (votes mp).G (runBatch mp a) :=
  Vc.ofSpec _ _ _ _ (batchRun a)

/-! ### The attribute -/

lemma inv_batch (x : X1Batch) (hx : x.waiting = false) (h : Inv b) :
    Inv { b with host.batch := x } := by
  rcases h with h | ⟨hc, h⟩
  · exact .inl h
  · refine .inr ⟨hc, ?_⟩
    simp only [sound_iff, balanced_iff, quiet_iff] at h ⊢
    simp [h, hx]
    grind

lemma batchEnd (r : Option Errno) (s : Sys) (h : Inv s.back) :
    wp (votes mp).A (votes mp).G (batchTerminal mp r).1
      (fun _ t => Inv t.back) (fun _ t => Inv t.back) s := by
  unfold batchTerminal
  refine Vc.sound ?_
  cases r with
  | none =>
    simp only [Vc.vc]
    exact fun _ => ⟨id, fun _ => ⟨id, fun b hb => hb.inv (inv_batch _ rfl h)⟩⟩
  | some e =>
    simp only [Vc.vc]
    exact fun _ => ⟨id, fun _ => ⟨id, fun b hb => hb.inv (inv_batch _ rfl h)⟩⟩

instance (r : Option Errno) : Vc (votes mp).A (votes mp).G (batchTerminal mp r) :=
  Vc.ofSpec _ _ _ _ (batchEnd r)

@[mk_iff] structure Awaiting (b : Back) : Prop where
  opened : Open b
  untied : b.host.retainedTb = false

@[grind →] lemma Same.awaiting {b b' : Back} (h : Same b b') (hb : Awaiting b) : Awaiting b' :=
  ⟨h.opened hb.opened, by rw [h.retainedTb, hb.untied]⟩

instance : Booked Awaiting := ⟨Same.awaiting⟩

instance (r : Option Errno) : Vc (votes mp).A (votes mp).G (assignBatch mp fun x =>
    { x with negotiationFailures := x.negotiationFailures + 1, negotiationError := r }) :=
  forget _ fun _ => ⟨_, rfl, by constructor <;> rfl⟩

lemma stopsWaiting (s : Sys) (h : Awaiting s.back) :
    wp (votes mp).A (votes mp).G (assignBatch mp fun x => { x with waiting := false }).1
      (fun _ t => Attached t.back) (fun _ _ => False) s := by
  refine Vc.sound ?_
  obtain ⟨fr, b, env⟩ := s
  simp only [awaiting_iff, open_iff, balanced_iff] at h
  simp [attached_iff, open_iff, balanced_iff, h]
  grind

instance : Vc (votes mp).A (votes mp).G (assignBatch mp fun x => { x with waiting := false }) :=
  Vc.ofSpec _ _ _ _ stopsWaiting

lemma Voting.awaiting (h : Voting b) : Awaiting b := ⟨h.opened, h.untied⟩

lemma Settled.inv (h : Settled b) : Inv b := h.opened.inv

lemma Attached.inv (h : Attached b) : Inv b := h.opened.inv

lemma Awaiting.inv (h : Awaiting b) : Inv b := h.opened.inv

lemma attachment (a : Admitted) (s : Sys) (h : Awaiting s.back) :
    wp (votes mp).A (votes mp).G (waitAttachment mp a).1
      (fun _ t => Inv t.back) (fun _ t => Inv t.back) s := by
  unfold waitAttachment
  refine Preserves.step (fun s => Awaiting s.back) h (fun _ _ ht => ht.inv) fun r t h => ?_
  refine Preserves.step (fun s => Awaiting s.back) h (fun _ _ ht => ht.inv) fun _ t h => ?_
  refine Vc.sound ?_
  obtain ⟨fr, b, env⟩ := t
  simp
  grind [Settled.inv, Attached.inv, Awaiting.inv]

instance (a : Admitted) : Vc (votes mp).A (votes mp).G (waitAttachment mp a) :=
  Vc.ofSpec _ _ _ _ (attachment a)

lemma startsWaiting (s : Sys) (h : Voting s.back) :
    wp (votes mp).A (votes mp).G (assignBatch mp fun x => { x with waiting := true }).1
      (fun _ t => Awaiting t.back) (fun _ _ => False) s := by
  refine Vc.sound ?_
  obtain ⟨fr, b, env⟩ := s
  simp only [voting_iff, open_iff, balanced_iff] at h
  simp [awaiting_iff, open_iff, balanced_iff, h]
  grind

instance : Vc (votes mp).A (votes mp).G (assignBatch mp fun x => { x with waiting := true }) :=
  Vc.ofSpec _ _ _ _ startsWaiting

lemma prepare (s : Sys) (h : Voting s.back) :
    wp (votes mp).A (votes mp).G (prepareLocal mp).1
      (fun _ t => Awaiting t.back) (fun _ t => Awaiting t.back) s := by
  unfold prepareLocal
  refine Vc.sound ?_
  simp
  grind [Voting.awaiting]

instance : Vc (votes mp).A (votes mp).G (prepareLocal mp) := Vc.ofSpec _ _ _ _ prepare

instance (u v d : ℕ) : Vc (votes mp).A (votes mp).G (assignBatch mp fun x =>
    { x with attempted := true, uid := u, vendor := v, device := d }) :=
  forget _ fun _ => ⟨_, rfl, by constructor <;> rfl⟩

lemma Sound.inv (h : Sound b) (hs : b.host.startupAttempted = false) : Inv b := by
  have hq := h.quiet (.inl hs)
  exact .inr ⟨by simp [Covered, hq.resets, hq.bcr], h⟩

lemma batchStart [Fact (mp.general = true)] (a : Admitted) (s : Sys)
    (h : Sound s.back ∧ s.back.host.startupAttempted = false) :
    wp (votes mp).A (votes mp).G (startBatch mp a).1
      (fun _ t => Inv t.back) (fun _ t => Inv t.back) s := by
  unfold startBatch
  refine Vc.sound ?_
  simp
  grind [Sound.inv, Awaiting.inv, Open.inv]

instance [Fact (mp.general = true)] (a : Admitted) :
    Vc (votes mp).A (votes mp).G (startBatch mp a) :=
  Vc.ofSpec _ _ _ _ (batchStart a)

lemma Inv.sound (h : Inv b) (hs : b.host.startupAttempted = false) : Sound b := by
  rcases h with h | h
  · rw [h.1] at hs; cases hs
  · exact h.2

lemma Inv.awaiting (h : Inv b) (hw : b.host.batch.waiting = true)
    (hs : b.host.stopping = false) : Awaiting b := by
  rcases h with h | ⟨hc, h⟩
  · rw [h.2.1] at hs; cases hs
  · have hr : b.host.fullyRetired = false := by
      by_contra hr
      have := (h.retired (by simpa using hr)).1
      rw [this] at hs; cases hs
    refine ⟨{ h.toBalanced with
      restore := h.restore
      fresh := h.fresh
      imsi := h.imsi
      stop := fun ht => (h.stop ht).resolve_left (by simp [hr])
      started := h.wait hw
      going := hr
      covered := hc }, h.fresh hw⟩

instance : Booked Inv := ⟨Same.inv⟩

instance [Fact (mp.general = true)] (w : Write) : Saves mp Inv (inventoryOnce mp w) := by
  refine ⟨fun s h => ?_⟩
  unfold inventoryOnce leave
  cases x1BatchParse mp w with
  | none =>
    refine Vc.sound ?_
    simp [h]
  | some a =>
    refine Vc.sound ?_
    simp [awaits]
    grind [Inv.awaiting, Inv.sound]

instance [Fact (mp.general = true)] : Saves mp Inv (x1Activate mp) := by
  refine ⟨fun s h => ?_⟩
  cases hs : s.back.host.startupAttempted with
  | true =>
    refine (wp_bind _ _).mpr (wp_getHost.mpr ((wp_bind _ _).mpr ((wp_require _ _).mpr ?_)))
    rw [if_neg (by simp [hs])]
    exact h
  | false =>
    refine wp_mono (fun _ t ht => ht.opened.inv) (fun _ t ht => ?_) (activate s ⟨h.sound hs, hs⟩)
    rcases ht with ht | ht
    · exact ht.inv
    · exact ht ▸ h

instance [Fact (mp.general = true)] (w : Write) : Saves mp Inv (activateOnce mp w) := by
  unfold activateOnce; infer_instance

instance : Saves mp Inv (x1PciePrepareOnce mp false) := by
  refine ⟨fun s h => ?_⟩
  refine wp_mono ?_ ?_ (prepareOnce false s (by simp))
  · exact fun _ t ht => ht.opened.inv
  · rintro _ t ht
    rw [if_neg (by simp)] at ht
    exact ht ▸ h

instance (w : Write) : Saves mp Inv (pciePrepareOnce mp w) := by
  unfold pciePrepareOnce; infer_instance

end YogaUsb4.Ledger
