import YogaUsb4.Link.Run

/-!
The rules of an enumeration. Whatever the reads and writes are answered, the root router is written
once, from the header that was read; the link is connected once, after the root was found to be as
planned and both lanes were found; the first port is unlocked only when its lane is up; and the
other router is not written where that is disabled. After a transfer that fails there is no other.
-/

namespace YogaUsb4.Link

open Wire LinkPacket Dialog

/-! ### The protocol of a run -/

/-- Of the run so far: whether a transfer failed, the root's header as it was read last, whether it
was written and then found to be as planned, the ports whose lane capability was found, the last
answer of the check, how often the link was connected, whether the first lane was seen up since
then, and the first port's lock word. -/
structure Progress where
  failed : Bool := false
  header : Option (ℕ → BitVec 32) := none
  written : Bool := false
  configured : Bool := false
  lanes : List (BitVec 32) := []
  live : Bool := false
  connects : ℕ := 0
  up : Bool := false
  lock : Option (BitVec 32) := none

/-- What a successful read says. -/
def Progress.note (g : Progress) (s : ReadSpec) (word : ℕ → BitVec 32) : Progress :=
  if s = ⟨0, 0, 2, 0, 5, 0⟩ then
    { g with header := some word, configured := g.written && Topology.admittedHeader 0 word }
  else if s.route = 0 ∧ s.space = 1 ∧ s.words = 2 then
    { g with
      lanes := if (word 0 >>> 8) &&& 0xff = 1 then s.port :: g.lanes else g.lanes
      up := g.up || (0 < g.connects && s.port = 2 && laneUp (word 1)) }
  else if s = ⟨0, 2, 1, 4, 1, 0⟩ then { g with lock := some (word 0) }
  else g

/-- A write is the configuration of the root router from the header that was read, before the link
is connected, or the unlocking of the first port from the word that was read, when its lane is up;
the other router is only written where that is not disabled. -/
def Progress.Writable (disabled : Bool) (g : Progress) (s : WriteSpec) : Prop :=
  (s.Is .configureRoot ∧ g.connects = 0 ∧ g.written = false ∧
    ∃ header, g.header = some header ∧ s.before = fun i => header (i + 1)) ∨
  (s.Is .unlockPort ∧ g.connects = 1 ∧ g.up ∧ g.lock = some (s.before 0)) ∨
  ((s.Is .configureExternal ∨ s.Is .setupExternal) ∧ disabled = false ∧ g.connects = 1 ∧ g.up)

/-- The rules of a run for `word`, with the end of the session as `limit`. -/
def protocol (disabled : Bool) (word : BitVec 32) (limit : ℕ) :
    Watch LinkCall LinkReply Progress where
  look g
    | .valid, r => { g with live := r.ok }
    | .transfer (.read s), r => match r.words with
      | .error _ => { g with failed := true }
      | .ok words => g.note s fun i => words.getD i 0
    | .transfer (.write s), r => match r.words with
      | .error _ => { g with failed := true }
      | .ok _ => if s.route = 0 ∧ s.port = 0 then { g with written := true } else g
    | .connect _, _ => { g with connects := g.connects + 1 }
    | .jiffies, _ | .msleep _, _ | .deadline, _ | .setDeadline _, _ => g
  allow g
    | .valid | .jiffies | .msleep _ | .deadline => True
    | .transfer (.read _) => g.failed = false
    | .transfer (.write s) => g.failed = false ∧ g.Writable disabled s
    | .connect w => w = word ∧ g.failed = false ∧ g.connects = 0 ∧ g.configured ∧ 2 ∈ g.lanes ∧
      3 ∈ g.lanes ∧ g.live
    | .setDeadline time => time ≤ limit
  expect _
    | .transfer _, r => Refuses r.words
    | .deadline, r => r.time ≤ limit
    | _, _ => True

variable {disabled : Bool} {word : BitVec 32} {limit : ℕ} {g : Progress}

def Failed (_ : Progress) (e : ℤ) : Prop := e ≠ 0

section Rules

lemma runs_linkRead {route port space offset words : BitVec 32}
    {R : Progress → (ℕ → BitVec 32) → Prop} (hf : g.failed = false)
    (hR : ∀ data, R (g.note ⟨route, port, space, offset, words, 0⟩ data) data) :
    Runs (protocol disabled word limit) R Failed (linkRead route port space offset words) g := by
  refine runs_bind.2 (runs_ask.2 ⟨hf, fun r hr => ?_⟩)
  cases hwords : r.words with
  | error e =>
    have he : e ≠ 0 := hr e hwords
    simpa [protocol, hwords, Failed] using he
  | ok ws => simpa [protocol, hwords] using hR _

lemma runs_write {s : WriteSpec} {R : Progress → Unit → Prop} (hf : g.failed = false)
    (hs : g.Writable disabled s)
    (hR : R (if s.route = 0 ∧ s.port = 0 then { g with written := true } else g) ()) :
    Runs (protocol disabled word limit) R Failed (do let _ ← transfer (.write s)) g := by
  refine runs_bind.2 (runs_bind.2 (runs_ask.2 ⟨⟨hf, hs⟩, fun r hr => ?_⟩))
  cases hwords : r.words with
  | error e =>
    have he : e ≠ 0 := hr e hwords
    simpa [protocol, hwords, Failed] using he
  | ok ws => simpa [protocol, hwords] using hR

lemma runs_plan {α : Type} {x : Except ℤ α} {R : Progress → α → Prop} (hx : Refuses x)
    (hR : ∀ a, x = .ok a → R g a) :
    Runs (protocol disabled word limit) R Failed (plan x) g := by
  cases x with
  | error e => exact hx e rfl
  | ok a => exact hR a rfl

end Rules

/-! What a read leaves as it is. -/

section Note

variable {s : ReadSpec} {data : ℕ → BitVec 32}

@[simp] lemma note_failed : (g.note s data).failed = g.failed := by
  unfold Progress.note
  split_ifs <;> rfl

@[simp] lemma note_written : (g.note s data).written = g.written := by
  unfold Progress.note
  split_ifs <;> rfl

@[simp] lemma note_connects : (g.note s data).connects = g.connects := by
  unfold Progress.note
  split_ifs <;> rfl

lemma note_up (h : g.up = true) : (g.note s data).up = true := by
  unfold Progress.note
  split_ifs <;> simp [h]

lemma note_configured (h : s.space = 1) : (g.note s data).configured = g.configured := by
  unfold Progress.note
  split_ifs with h₁
  · rw [h₁] at h
    exact absurd h (by decide)
  all_goals rfl

lemma note_lanes : g.lanes ⊆ (g.note s data).lanes := by
  unfold Progress.note
  split_ifs
  · exact List.Subset.refl _
  · exact List.subset_cons_self _ _
  · exact List.Subset.refl _
  · exact List.Subset.refl _
  · exact List.Subset.refl _

lemma note_lane {port cap : BitVec 32} : g.note ⟨0, port, 1, cap, 2, 0⟩ data =
    { g with
      lanes := if (data 0 >>> 8) &&& 0xff = 1 then port :: g.lanes else g.lanes
      up := g.up || (0 < g.connects && port = 2 && laneUp (data 1)) } := by
  simp [Progress.note]

end Note

/-! ### The host's side -/

/-- What the search for the lanes leaves. -/
structure Steady (g g' : Progress) : Prop where
  failed : g'.failed = g.failed
  connects : g'.connects = g.connects
  configured : g'.configured = g.configured
  lanes : g.lanes ⊆ g'.lanes
  up : g.up = true → g'.up = true

lemma Steady.trans {g₁ g₂ g₃ : Progress} (h : Steady g₁ g₂) (h' : Steady g₂ g₃) : Steady g₁ g₃ :=
  ⟨h'.failed.trans h.failed, h'.connects.trans h.connects, h'.configured.trans h.configured,
    List.Subset.trans h.lanes h'.lanes, fun hu => h'.up (h.up hu)⟩

lemma Steady.refl (g : Progress) : Steady g g :=
  ⟨rfl, rfl, rfl, List.Subset.refl _, id⟩

lemma Steady.note {s : ReadSpec} {data : ℕ → BitVec 32} (h : s.space = 1) :
    Steady g (g.note s data) :=
  ⟨note_failed, note_connects, note_configured h, note_lanes, note_up⟩

variable {header : ℕ → BitVec 32}

lemma refuses_rootPlan : Refuses (rootPlan header) :=
  .ite (.error (by decide)) .ok

lemma admitted_of_verified {host config data : ℕ → BitVec 32} (hplan : rootPlan host = .ok config)
    (h : verified host data config = true) : Topology.admittedHeader 0 data = true := by
  unfold rootPlan at hplan
  split at hplan
  · cases hplan
  rename_i hheader
  simp only [not_or, not_not] at hheader
  obtain ⟨h₀, h₁, h₂, h₃, h₄⟩ := hheader
  cases hplan
  simp [verified, List.range_succ, h₀, h₁, h₂, h₃, h₄] at h
  obtain ⟨hd₀, hd₁, hd₂, hd₃, hd₄⟩ := h
  simp [Topology.admittedHeader, hd₀, hd₁, hd₂, hd₃, hd₄]

lemma runs_configureRoot (hf : g.failed = false) (hw : g.written = false) (hc : g.connects = 0) :
    Runs (protocol disabled word limit) (fun g' x => (g'.failed = false ∧ g'.connects = 0 ∧
      g'.configured = true) ∧ rootPlan x.1 = .ok x.2) Failed configureRoot g := by
  refine runs_bind.2 (runs_linkRead hf fun host => ?_)
  refine runs_bind.2 (runs_plan refuses_rootPlan fun config hplan => ?_)
  refine runs_bind.2 (runs_write (by simpa using hf) (.inl ⟨rootPlan_is hplan 0, by simpa using hc,
    by simpa using hw, host, by simp [Progress.note], rfl⟩) ?_)
  refine runs_bind.2 (runs_linkRead (by simpa using hf) fun data => ?_)
  by_cases hv : verified host data config = false
  · simp only [hv, if_true]
    exact (by decide : (-eio) ≠ 0)
  · rw [if_neg hv]
    refine ⟨⟨by simpa using hf, by simpa using hc, ?_⟩, hplan⟩
    simpa [Progress.note] using admitted_of_verified hplan (Bool.not_eq_false _ ▸ hv)

variable {seen : List (BitVec 32)}

lemma runs_findCap {port cap : BitVec 32} {n : ℕ} (hf : g.failed = false) :
    Runs (protocol disabled word limit)
      (fun g' x => Steady g g' ∧ (x.isSome → port ∈ g'.lanes)) Failed
      (findCap port n seen cap) g := by
  -- The induction is on the rounds that are left.
  induction n generalizing g seen cap with
  | zero => exact ⟨.refl g, by simp⟩
  | succ n ih =>
    unfold findCap
    split
    · exact ⟨.refl g, by simp⟩
    split
    · exact (by decide : (-eproto) ≠ 0)
    refine runs_bind.2 (runs_linkRead hf fun data => ?_)
    split
    · rename_i hid
      refine ⟨.note rfl, fun _ => ?_⟩
      rw [note_lane, if_pos hid]
      exact List.mem_cons_self
    · refine (ih (by simpa using hf)).mono (fun g' x hx => ?_) fun _ _ h => h
      exact ⟨Steady.trans (.note rfl) hx.1, hx.2⟩

lemma runs_discover {ports : List (BitVec 32)} (hf : g.failed = false) :
    Runs (protocol disabled word limit)
      (fun g' lanes => Steady g g' ∧ ∀ lane ∈ lanes, lane.1 ∈ g'.lanes) Failed
      (discover ports) g := by
  induction ports generalizing g with
  | nil => exact ⟨.refl g, by simp⟩
  | cons port ports ih =>
    unfold discover
    refine runs_bind.2 (runs_linkRead hf fun data => ?_)
    have hnote : Steady g (g.note ⟨0, port, 1, 0, 8, 0⟩ data) := .note rfl
    split
    · refine (ih (by simpa using hf)).mono (fun g' x hx => ?_) fun _ _ h => h
      exact ⟨hnote.trans hx.1, hx.2⟩
    refine runs_bind.2 ((runs_findCap (by simpa using hf)).mono (fun g₁ cap hcap => ?_)
      fun _ _ h => h)
    obtain ⟨hs₁, hfound⟩ := hcap
    cases cap with
    | none => exact (by decide : (-eopnotsupp) ≠ 0)
    | some cap =>
      have hf₁ : g₁.failed = false := (hnote.trans hs₁).failed.trans hf
      refine runs_bind.2 ((ih hf₁).mono (fun g₂ lanes hlanes => ?_) fun _ _ h => h)
      obtain ⟨hs₂, hall⟩ := hlanes
      refine ⟨(hnote.trans hs₁).trans hs₂, fun lane hlane => ?_⟩
      -- A lane that was found stays found while the others are looked at.
      rcases List.mem_cons.1 hlane with rfl | hlane
      · exact hs₂.lanes (hfound rfl)
      · exact hall lane hlane

/-! ### The link is up -/

lemma runs_pollRound {lanes : List (BitVec 32 × BitVec 32)} (hf : g.failed = false)
    (hc : g.connects = 1) :
    Runs (protocol disabled word limit)
      (fun g' up => Steady g g' ∧ (2 ∈ up → g'.up = true)) Failed (pollRound lanes) g := by
  induction lanes generalizing g with
  | nil => exact ⟨.refl g, by simp⟩
  | cons lane lanes ih =>
    obtain ⟨port, cap⟩ := lane
    unfold pollRound
    refine runs_bind.2 (runs_linkRead hf fun data => ?_)
    have hnote : Steady g (g.note ⟨0, port, 1, cap, 2, 0⟩ data) := .note rfl
    refine runs_bind.2 ((ih (by simpa using hf) (by simpa using hc)).mono (fun g' up hup => ?_)
      fun _ _ h => h)
    refine ⟨hnote.trans hup.1, fun h2 => ?_⟩
    split at h2
    · rename_i hlane
      rcases List.mem_cons.1 h2 with rfl | h2
      · refine hup.1.up ?_
        rw [note_lane]
        simp [hc, hlane]
      · exact hup.2 h2
    · exact hup.2 h2

lemma runs_pollLanes {lanes : List (BitVec 32 × BitVec 32)} {n : ℕ} (up : List (BitVec 32))
    (hf : g.failed = false) (hc : g.connects = 1) (hup : 2 ∈ up → g.up = true) :
    Runs (protocol disabled word limit)
      (fun g' up => Steady g g' ∧ (2 ∈ up → g'.up = true)) Failed (pollLanes lanes n up) g := by
  induction n generalizing g up with
  | zero => exact ⟨.refl g, hup⟩
  | succ n ih =>
    unfold pollLanes
    refine runs_bind.2 ((runs_pollRound hf hc).mono (fun g' up hround => ?_) fun _ _ h => h)
    split
    · exact hround
    refine runs_bind.2 (runs_ask.2 ⟨trivial, fun _ _ => ?_⟩)
    refine (ih _ (hround.1.failed.trans hf) (hround.1.connects.trans hc) hround.2).mono
      (fun g'' up hup => ?_) fun _ _ h => h
    exact ⟨hround.1.trans hup.1, hup.2⟩

/-- The link is connected, and its first lane was seen up. -/
structure Progress.Up (g : Progress) : Prop where
  failed : g.failed = false
  connects : g.connects = 1
  up : g.up = true

lemma Progress.Up.note {s : ReadSpec} {data : ℕ → BitVec 32} (h : g.Up) : (g.note s data).Up :=
  ⟨note_failed.trans h.failed, note_connects.trans h.connects, note_up h.up⟩

lemma runs_unlockPort (h : g.Up) :
    Runs (protocol disabled word limit) (fun g' _ => g'.Up) Failed unlockPort g := by
  unfold unlockPort
  refine runs_bind.2 (runs_linkRead h.failed fun before => ?_)
  split
  · rename_i hlocked
    refine runs_bind.2 (runs_write h.note.failed (.inr (.inl ⟨unlock_is hlocked 0, h.note.connects,
      h.note.up, by simp [Progress.note]⟩)) ?_)
    rw [if_neg fun h => absurd (show (2 : BitVec 32) = 0 from h.2) (by decide)]
    refine runs_bind.2 (runs_linkRead h.note.failed fun data => ?_)
    split
    · exact (by decide : (-eio) ≠ 0)
    · exact h.note.note
  · exact h.note

/-! ### The topology -/

/-- The inventory stops at the first read that fails. -/
def halting : Watch Topology.Call Topology.Reply Bool where
  look g q r := g || (q.isRead && r.ret ≠ 0)
  allow g q := q.isRead → g = false

section Topology

open YogaUsb4.Topology

/-- What is left of the inventory's state: it has not failed unless it says so. -/
def Halts (g : Bool) (ret : ℤ) : Prop := ret = 0 → g = false

variable {t : Topo} {route port space offset words type cap : BitVec 32} {what : Purpose}

lemma safe_topoRead : Safe halting (fun g x => Halts g x.2.1)
    (topoRead t what route port space offset words) false := by
  unfold topoRead
  split
  · exact fun _ => rfl
  · split
    · exact fun _ => rfl
    · refine safe_ask_bind.2 ⟨fun _ => rfl, fun r _ h => ?_⟩
      simpa [halting, Call.isRead] using h

lemma safe_report {α : Type} {R : Bool → α → Prop} {text : String} {data : List (BitVec 32)}
    {d : Dialog Call Reply α} (h : Safe halting R d false) :
    Safe halting R (ask (.report text route port offset data) >>= fun _ => d) false :=
  safe_ask_bind.2 ⟨fun h => absurd h (by simp [Call.isRead]), fun _ _ => h⟩

lemma safe_capStep : Safe halting (fun g x => match x.2 with
    | .inl ret => Halts g ret
    | .inr _ => g = false) (capStep route port type seen cap t) false := by
  unfold capStep
  split
  · exact safe_report (fun _ => rfl)
  split
  · exact fun _ => rfl
  refine safe_bind.2 (safe_topoRead.mono fun g x hx => ?_)
  obtain ⟨t, ret, data⟩ := x
  dsimp only at hx ⊢
  split
  · exact hx
  rename_i hret
  obtain rfl := hx (not_not.1 hret)
  split
  · exact safe_report (fun _ => rfl)
  refine safe_report ?_
  split
  · rfl
  refine safe_bind.2 (safe_topoRead.mono fun g x hx => ?_)
  obtain ⟨t, ret, body⟩ := x
  dsimp only at hx ⊢
  split
  · exact hx
  rename_i hret
  obtain rfl := hx (not_not.1 hret)
  exact safe_report rfl

lemma safe_topoCapsFrom {n : ℕ} : Safe halting (fun g x => Halts g x.2)
    (topoCapsFrom route port type n seen cap t) false := by
  induction n generalizing seen cap t with
  | zero => exact fun _ => rfl
  | succ n ih =>
    unfold topoCapsFrom
    split
    · exact fun _ => rfl
    refine safe_bind.2 (safe_capStep.mono fun g x hx => ?_)
    obtain ⟨t, ret | next⟩ := x
    · exact hx
    · obtain rfl : g = false := hx
      exact ih

lemma safe_readAdapters {ports : List (BitVec 32)} : Safe halting (fun g x => Halts g x.2.1)
    (readAdapters route ports t) false := by
  induction ports generalizing t with
  | nil => exact fun _ => rfl
  | cons port ports ih =>
    unfold readAdapters
    refine safe_bind.2 (safe_topoRead.mono fun g x hx => ?_)
    obtain ⟨t, ret, data⟩ := x
    dsimp only at hx ⊢
    split
    · exact hx
    rename_i hret
    obtain rfl := hx (not_not.1 hret)
    refine safe_report (safe_bind.2 (ih.mono fun g x hx => ?_))
    exact hx

lemma safe_walkAdapters {adapters : List Adapter} : Safe halting (fun g x => Halts g x.2)
    (Act.list (adapters.map (walkAdapter route)) t) false := by
  induction adapters generalizing t with
  | nil => exact fun _ => rfl
  | cons a adapters ih =>
    refine safe_seq.2 ?_
    have hwalk : Safe halting (fun g x => Halts g x.2) (walkAdapter route a t) false := by
      unfold walkAdapter
      split
      · exact fun _ => rfl
      · exact safe_topoCapsFrom
    refine hwalk.mono fun g x hx => ?_
    split
    · exact hx
    · obtain rfl := hx (not_not.1 ‹_›)
      exact ih

lemma safe_topologyRouter {given : Given} :
    Safe halting (fun g x => Halts g x.2) (Topology.topologyRouter given route header t) false := by
  unfold Topology.topologyRouter
  split
  · exact fun _ => rfl
  split
  · exact fun _ => rfl
  refine safe_bind.2 (safe_readAdapters.mono fun g x hx => ?_)
  obtain ⟨t, ret, adapters⟩ := x
  dsimp only at hx ⊢
  split
  · exact hx
  rename_i hret
  obtain rfl := hx (not_not.1 hret)
  refine safe_seq.2 (safe_walkAdapters.mono fun g x hx => ?_)
  split
  · exact hx
  obtain rfl := hx (not_not.1 ‹_›)
  unfold walkRouter
  refine safe_bind.2 (safe_topoRead.mono fun g x hx => ?_)
  obtain ⟨t, ret, data⟩ := x
  dsimp only at hx ⊢
  split
  · exact hx
  rename_i hret
  obtain rfl := hx (not_not.1 hret)
  exact safe_report safe_topoCapsFrom

end Topology

lemma runs_topologyRouter {route : BitVec 32} {t : Topology.Topo} (h : g.Up) :
    Runs (protocol disabled word limit) (fun g' _ => g'.Up) Failed
      (topologyRouter route header t) g := by
  refine runs_bind.2 (runs_lift.2 ((Safe.serve (v := protocol disabled word limit)
    (I := fun b g _ => b = false → g.Up) (fun q b g s hI hq => ?_) safe_topologyRouter
    fun _ => h).mono fun g' x hx => ?_))
  · cases q with
    | report => exact ⟨trivial, fun hb => hI (by simpa [halting, Topology.Call.isRead] using hb)⟩
    | read what route port space offset words =>
      have hup : g.Up := hI (hq rfl)
      have hread : Runs (protocol disabled word limit) (fun g' _ => g'.Up) Failed
          (linkRead route port space offset words) g :=
        runs_linkRead hup.failed fun data => hup.note
      refine safe_bind.2 (Safe.mono hread fun g' r hr => ?_)
      cases r with
      | error e =>
        have he : e ≠ 0 := hr
        exact ⟨trivial, fun hb => absurd hb (by simp [halting, Topology.Call.isRead, he])⟩
      | ok data => exact ⟨trivial, fun _ => hr⟩
  · obtain ⟨b, hend, hI⟩ := hx
    obtain ⟨_, t, ret⟩ := x
    dsimp only at hend ⊢
    split
    · exact ‹ret ≠ 0›
    · exact hI (hend (not_not.1 ‹_›))

/-! ### The other router -/

lemma refuses_externalPlan : Refuses (externalPlan header) :=
  .ite (.error (by decide)) .ok

lemma refuses_externalSetupPlan {before : BitVec 32} : Refuses (externalSetupPlan before) :=
  .ite (.error (by decide)) .ok

lemma runs_pollReady {n : ℕ} (h : g.Up) :
    Runs (protocol disabled word limit) (fun g' _ => g'.Up) Failed (pollReady n) g := by
  induction n generalizing g with
  | zero => exact (by decide : (-etimedout) ≠ 0)
  | succ n ih =>
    unfold pollReady
    refine runs_bind.2 (runs_ask.2 ⟨trivial, fun now _ => ?_⟩)
    refine runs_bind.2 (runs_ask.2 ⟨trivial, fun deadline _ => ?_⟩)
    split
    · exact (by decide : (-etimedout) ≠ 0)
    refine runs_bind.2 (runs_linkRead h.failed fun got => ?_)
    split
    · exact (by decide : (-eperm) ≠ 0)
    split
    · exact h.note
    refine runs_bind.2 (runs_ask.2 ⟨trivial, fun _ _ => ?_⟩)
    have hnote : (g.note ⟨2, 0, 2, 6, 1, 0⟩ got).Up := h.note
    exact ih hnote

lemma runs_setupExternal (hd : disabled = false) (h : g.Up) :
    Runs (protocol disabled word limit) (fun g' _ => g'.Up) Failed setupExternal g := by
  unfold setupExternal
  refine runs_bind.2 (runs_linkRead h.failed fun before => ?_)
  refine runs_bind.2 (runs_plan refuses_externalSetupPlan fun after hafter => ?_)
  refine runs_bind.2 (runs_write h.note.failed (.inr (.inr ⟨.inr (externalSetupPlan_is hafter 0),
    hd, h.note.connects, h.note.up⟩)) ?_)
  rw [if_neg fun h => absurd (show (2 : BitVec 32) = 0 from h.1) (by decide)]
  refine runs_bind.2 (runs_linkRead h.note.failed fun got => ?_)
  split
  · exact (by decide : (-eio) ≠ 0)
  · exact h.note.note

lemma runs_awaitReady (h : g.Up) :
    Runs (protocol disabled word limit) (fun g' _ => g'.Up) Failed awaitReady g := by
  unfold awaitReady
  refine runs_bind.2 (runs_ask.2 ⟨trivial, fun deadline hdeadline => ?_⟩)
  refine runs_bind.2 (runs_ask.2 ⟨trivial, fun now _ => ?_⟩)
  have hle : deadline.time ≤ limit := hdeadline
  refine runs_bind.2 (runs_ask.2 ⟨(min_le_left _ _).trans hle, fun _ _ => ?_⟩)
  refine runs_bind.2 (runs_lift.2 (Safe.mono (runs_pollReady h) fun g' ret hret => ?_))
  refine runs_bind.2 (runs_ask.2 ⟨hle, fun _ _ => ?_⟩)
  cases ret with
  | error e => exact hret
  | ok a => exact hret

lemma runs_linkExternalInit (h : g.Up) :
    Runs (protocol disabled word limit) (fun g' _ => disabled = false ∧ g'.Up) Failed
      (linkExternalInit disabled header) g := by
  unfold linkExternalInit
  refine runs_bind.2 (runs_plan refuses_externalPlan fun config hplan => ?_)
  refine runs_bind.2 (runs_linkRead h.failed fun state => ?_)
  split
  · exact (by decide : (-eperm) ≠ 0)
  rename_i hallowed
  simp only [not_or, Bool.not_eq_true] at hallowed
  refine runs_bind.2 (runs_plan refuses_externalSetupPlan fun _ _ => ?_)
  refine runs_bind.2 (runs_write h.note.failed (.inr (.inr ⟨.inl (externalPlan_is hplan 0),
    hallowed.1, h.note.connects, h.note.up⟩)) ?_)
  rw [if_neg fun h => absurd (show (2 : BitVec 32) = 0 from h.1) (by decide)]
  refine runs_bind.2 (runs_linkRead h.note.failed fun configured => ?_)
  split
  · exact (by decide : (-eio) ≠ 0)
  refine runs_bind.2 ((runs_setupExternal hallowed.1 h.note.note).mono (fun g' _ hg => ?_)
    fun _ _ h => h)
  refine runs_bind.2 ((runs_awaitReady hg).mono (fun g'' _ hg' => ?_) fun _ _ h => h)
  exact ⟨hallowed.1, hg'⟩

/-! ### The whole run -/

/-- Whatever the reads and the writes are answered, the run keeps to its rules, and it ends well
only where the other router may be configured. -/
lemma runs_enumerate :
    Runs (protocol disabled word limit) (fun g' _ => disabled = false ∧ g'.Up) Failed
      (enumerate disabled word) {} := by
  unfold enumerate
  refine runs_bind.2 ((runs_configureRoot rfl rfl rfl).mono (fun g₁ x h₁ => ?_) fun _ _ h => h)
  obtain ⟨host, config⟩ := x
  obtain ⟨⟨hf, hc, hconf⟩, -⟩ := h₁
  refine runs_bind.2 ((runs_discover hf).mono (fun g₂ lanes h₂ => ?_) fun _ _ h => h)
  obtain ⟨hsteady, hlanes⟩ := h₂
  split
  · exact (by decide : (-enodev) ≠ 0)
  rename_i hpair
  simp only [not_or, not_not] at hpair
  have hmem : ∀ port, port ∈ lanes.map (·.1) → port ∈ g₂.lanes := by
    intro port hport
    obtain ⟨lane, hlane, rfl⟩ := List.mem_map.1 hport
    exact hlanes lane hlane
  refine runs_bind.2 (runs_ask.2 ⟨trivial, fun valid _ => ?_⟩)
  split
  · exact (by decide : (-enotconn) ≠ 0)
  rename_i hvalid
  -- The connect: root configured and read back, both lanes found, the port still valid.
  refine runs_bind.2 (runs_ask.2 ⟨⟨rfl, hsteady.failed.trans hf, hsteady.connects.trans hc,
    hsteady.configured.trans hconf, hmem 2 hpair.2.1, hmem 3 hpair.2.2,
    Bool.not_eq_false _ ▸ hvalid⟩, fun connect _ => ?_⟩)
  split
  · exact ‹connect.ret ≠ 0›
  refine runs_bind.2 ((runs_pollLanes []
    (g := { g₂ with live := valid.ok, connects := g₂.connects + 1 }) (hsteady.failed.trans hf)
    (congrArg (· + 1) (hsteady.connects.trans hc)) (by simp)).mono (fun g₃ up h₃ => ?_)
    fun _ _ h => h)
  split
  · exact (by decide : (-enolink) ≠ 0)
  rename_i hup
  -- From here on the first lane is up, as the rules ask of the unlock.
  have hUp : g₃.Up := ⟨h₃.1.failed.trans (hsteady.failed.trans hf),
    h₃.1.connects.trans (congrArg (· + 1) (hsteady.connects.trans hc)), h₃.2 (not_not.1 hup)⟩
  refine runs_bind.2 ((runs_unlockPort hUp).mono (fun g₄ _ h₄ => ?_) fun _ _ h => h)
  refine runs_bind.2 (runs_linkRead h₄.failed fun external => ?_)
  refine runs_bind.2 ((runs_topologyRouter h₄.note).mono (fun g₅ t h₅ => ?_) fun _ _ h => h)
  refine runs_bind.2 ((runs_linkExternalInit h₅).mono (fun g₆ configured h₆ => ?_) fun _ _ h => h)
  refine runs_bind.2 ((runs_topologyRouter h₆.2).mono (fun g₇ _ h₇ => ?_) fun _ _ h => h)
  exact ⟨h₆.1, h₇⟩

/-- Every conversation of a run keeps to the rules; its result is an error that is not 0, or the
other router may be configured. -/
theorem enumerate_keeps_protocol {tr : List (LinkCall × LinkReply)} {result : Except ℤ Unit}
    (hd : Does (enumerate disabled word).run tr result)
    (htr : (protocol disabled word limit).Honest {} tr) :
    (protocol disabled word limit).Allowed {} tr ∧ Refuses result ∧
      (result = .ok () → disabled = false) := by
  have hrun : Runs (protocol disabled word limit) (fun g' _ => disabled = false ∧ g'.Up) Failed
      (enumerate disabled word) {} := runs_enumerate
  obtain ⟨hall, hend⟩ := Safe.does hrun hd htr
  refine ⟨hall, fun e he => ?_, fun hok => ?_⟩
  · rw [he] at hend
    exact hend
  · rw [hok] at hend
    exact hend.1

def LinkCall.isWrite : LinkCall → Bool
  | .transfer (.write _) => true
  | _ => false

def LinkCall.isConnect : LinkCall → Bool
  | .connect _ => true
  | _ => false

/-- A host with a lane at the ports 2 and 3, that is up as soon as it is asked. -/
def twoLanes (past : List (LinkCall × LinkReply)) : LinkCall → LinkReply
  | .transfer (.read ⟨0, 0, 2, 0, 5, _⟩) =>
    { words := .ok (if past.any (·.1.isWrite) then
        [0x093805c6, 0x0101c11c, 0, 0x80000000, 0x200010ff]
        else [0x093805c6, 0x0101c11c, 0, 0, 0x2000000a]) }
  | .transfer (.read ⟨0, port, 1, 0, 8, _⟩) =>
    { words := .ok [0, 8, if port = 2 ∨ port = 3 then 1 else 0] }
  | .transfer (.read ⟨0, _, 1, _, 2, _⟩) => { words := .ok [0x100, 0x08000000] }
  | _ => {}

theorem enumerate_keeps_protocol_twoLanes :
    (protocol true 0x2501 20000).Allowed {} ((enumerate true 0x2501).run.run twoLanes []).1 := by
  refine (enumerate_keeps_protocol (run_does twoLanes [] _) (run_honest (fun past q => ?_) _)).1
  cases q with
  | transfer req =>
    change Refuses (twoLanes past (.transfer req)).words
    unfold twoLanes
    split <;> exact .ok
  | deadline => exact Nat.zero_le 20000
  | _ => exact trivial

example : ((enumerate true 0x2501).run.run twoLanes []).1.countP (·.1.isConnect) = 1 := by
  decide +kernel

end YogaUsb4.Link
