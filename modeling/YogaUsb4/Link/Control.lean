import YogaUsb4.Link.Protocol

/-!
The link over a boot. A run is carried out by transfers, so that what is known of either level holds
of the whole; and of all that is asked of the link, in any order, at most one run reaches the rings.
-/

namespace YogaUsb4.Link

open Wire LinkPacket Dialog

variable {crc32c : List Byte → BitVec 32} {disabled : Bool} {word : BitVec 32} {limit : ℕ}

/-! ### A run and its transfers -/

/-- The run, the rings and the session know the same. -/
structure Bound (limit : ℕ) (g : Progress) (e : Line) (s : Session) : Prop where
  tied : Tied limit e s
  connects : e.connects = g.connects
  clear : g.failed = false → e.Clear
  live : g.failed = false → g.live = true → e.live = true

section CarryOut

variable {g : Progress} {e : Line} {s : Session}

lemma Transferred.bound_error {req : Request} {e' : Line} {s' : Session} {err : ℤ}
    (h : Transferred crc32c limit req e s e' (s', .error err)) (hb : Bound limit g e s) :
    Bound limit { g with failed := true } e' s' :=
  ⟨h.tied, h.connects.trans hb.connects, by simp, by simp⟩

lemma Transferred.bound_ok {req : Request} {e' : Line} {s' : Session} {ws : List (BitVec 32)}
    {g' : Progress} (h : Transferred crc32c limit req e s e' (s', .ok ws)) (hb : Bound limit g e s)
    (hc : g'.connects = g.connects) : Bound limit g' e' s' :=
  ⟨h.tied, (h.connects.trans hb.connects).trans hc.symm, fun _ => h.clear ws rfl,
    fun _ _ => h.live ws rfl⟩

lemma look_error {req : Request} {err : ℤ} : (protocol disabled word limit).look g (.transfer req)
    { words := .error err } = { g with failed := true } := by
  cases req <;> rfl

lemma connects_look_ok {req : Request} {ws : List (BitVec 32)} :
    ((protocol disabled word limit).look g (.transfer req) { words := .ok ws }).connects =
      g.connects := by
  cases req with
  | read r => simp only [protocol, note_connects]
  | write r =>
    simp only [protocol]
    split_ifs <;> rfl

lemma safe_carryOut {q : LinkCall} (hb : Bound limit g e s)
    (hq : (protocol disabled word limit).allow g q) :
    Safe (ring crc32c limit) (fun e x => (protocol disabled word limit).expect g q x.2 ∧
      Bound limit ((protocol disabled word limit).look g q x.2) e x.1) (carryOut crc32c q s) e := by
  cases q with
  | valid =>
    exact ⟨⟨hb.tied.running, trivial⟩, fun r _ => ⟨trivial, hb.tied.asked _ _, hb.connects,
      fun hf => ⟨(hb.clear hf).owed, (hb.clear hf).gone⟩, fun _ h => h⟩⟩
  | jiffies =>
    exact ⟨⟨hb.tied.running, trivial⟩, fun r _ => ⟨trivial, hb.tied.asked _ _, hb.connects,
      fun hf => ⟨(hb.clear hf).owed, (hb.clear hf).gone⟩, hb.live⟩⟩
  | msleep ms => exact ⟨⟨hb.tied.running, trivial⟩, fun r _ => ⟨trivial, hb⟩⟩
  | deadline => exact ⟨hb.tied.deadline, hb⟩
  | setDeadline time =>
    obtain ⟨hrun, htx, hroom, hrx, hacks, -⟩ := hb.tied
    exact ⟨trivial, ⟨hrun, htx, hroom, hrx, hacks, hq⟩, hb.connects, hb.clear, hb.live⟩
  | connect w =>
    obtain ⟨-, hf, hc, -, -, -, hlive⟩ := hq
    have hclear := hb.clear hf
    obtain ⟨hrun, htx, hroom, hrx, hacks, hdeadline⟩ := hb.tied
    exact ⟨⟨hrun, hb.connects.trans hc, hb.live hf hlive, hclear.owed, hclear.gone⟩,
      fun r _ => ⟨trivial, ⟨hrun, htx, hroom, hrx, hacks, hdeadline⟩, congrArg (· + 1) hb.connects,
        fun _ => ⟨hclear.owed, hclear.gone⟩, hb.live⟩⟩
  | transfer req =>
    have hf : g.failed = false := by
      cases req with
      | read => exact hq
      | write => exact hq.1
    -- A transfer sends only while none has failed, so the line is clear.
    refine safe_bind.2 ((safe_linkTransfer hb.tied (hb.clear hf)).mono fun e' x h => ?_)
    obtain ⟨s', words⟩ := x
    rw [safe_pure]
    refine ⟨h.refuses, ?_⟩
    cases words with
    | error err =>
      rw [look_error]
      exact h.bound_error hb
    | ok ws => exact h.bound_ok hb connects_look_ok

end CarryOut

lemma safe_enumerate {e : Line} {s : Session} (hb : Bound limit {} e s) :
    Safe (ring crc32c limit) (fun e' x => Tied limit e' x.1 ∧ (toRet x.2 = 0 → disabled = false))
      (serve (carryOut crc32c) (enumerate disabled word).run s) e := by
  have hrun : Runs (protocol disabled word limit) (fun g' _ => disabled = false ∧ g'.Up) Failed
      (enumerate disabled word) {} := runs_enumerate
  refine (Safe.serve (fun q g e s hb hq => safe_carryOut hb hq) hrun hb).mono fun e' x hx => ?_
  obtain ⟨g, hend, hb'⟩ := hx
  refine ⟨hb'.tied, fun h0 => ?_⟩
  obtain ⟨s', ret⟩ := x
  cases ret with
  | error err => exact absurd h0 hend
  | ok a => exact hend.1

/-! ### Whole boots -/

/-- What is asked of the link; each is done under the lock. -/
inductive Op where
  | register (given : Bool)
  | run (board : Bool) (word : BitVec 32)
  | stop

def Op.isRun : Op → Bool
  | .run .. => true
  | _ => false

variable (crc32c disabled) in
def perform : Op → Control → Dialog RingCall RingReply (Control × ℤ)
  | .register given, c => return diagLinkRegister given c
  | .run board word, c => diagLinkRun crc32c disabled board word c
  | .stop, c => do
    let c ← diagLinkStop c
    return (c, 0)

variable (crc32c disabled) in
def performAll : List Op → Control → Dialog RingCall RingReply (Control × List ℤ)
  | [], c => return (c, [])
  | op :: ops, c => do
    let (c, ret) ← perform crc32c disabled op c
    let (c, rets) ← performAll ops c
    return (c, ret :: rets)

def firstClock : List (RingCall × RingReply) → Option ℕ
  | [] => none
  | (.jiffies, r) :: _ => some r.now
  | _ :: tr => firstClock tr

/-- A conversation with the rings that keeps to their rules, for 20 seconds from the first look at
the clock, and after which they are stopped or not. -/
def Orderly (crc32c : List Byte → BitVec 32) (g : Line) (tr : List (RingCall × RingReply))
    (stopped : Bool) : Prop :=
  ∃ limit, (ring crc32c limit).Allowed g tr ∧
    ((ring crc32c limit).after g tr).stopped = stopped ∧
    ∀ time, firstClock tr = some time → limit = time + 20000

lemma Orderly.nil {g : Line} (h : g.stopped = false) : Orderly crc32c g [] false :=
  ⟨0, fun pre _ _ post heq => absurd heq (by simp), h, fun _ h => absurd h (by simp [firstClock])⟩

lemma firstClock_stop {tr : List (RingCall × RingReply)} {r : RingReply} :
    firstClock (tr ++ [(.stop, r)]) = firstClock tr := by
  induction tr with
  | nil => rfl
  | cons x tr ih =>
    obtain ⟨q, a⟩ := x
    cases q <;> first | rfl | exact ih

lemma Orderly.stop {g : Line} {tr : List (RingCall × RingReply)} (h : Orderly crc32c g tr false)
    (r : RingReply) : Orderly crc32c g (tr ++ [(.stop, r)]) true := by
  obtain ⟨limit, hall, hrun, hclock⟩ := h
  refine ⟨limit, hall.append ?_, ?_, fun time ht => hclock time (firstClock_stop ▸ ht)⟩
  · refine Watch.Allowed.cons ?_ ⟨hrun, trivial⟩
    exact fun pre _ _ post heq => absurd heq (by simp)
  · rw [Watch.after_append]
    rfl

/-- The link is there, and the rings are as the session would find them. -/
structure Idle (c : Control) (g : Line) : Prop where
  present : c.present = true
  stopped : c.stopped = false
  line : ∀ limit, Tied limit g ⟨c.nextTx, c.nextRx, limit, 0⟩
  clear : g.Clear
  connects : g.connects = 0

variable {c c' : Control} {g : Line} {tr : List (RingCall × RingReply)} {ret : ℤ}

lemma Idle.bound (h : Idle c g) (limit now : ℕ) (live : Bool) :
    Bound limit {} { g with live := live, now := now } ⟨c.nextTx, c.nextRx, limit, 0⟩ :=
  ⟨(h.line limit).asked live now, h.connects, fun _ => ⟨h.clear.owed, h.clear.gone⟩, by simp⟩

lemma does_linkAttempt (h : Idle c g)
    (hd : Does (linkAttempt crc32c disabled word c) tr (c', ret)) :
    Orderly crc32c g tr false ∧ c'.stopped = false ∧ c'.linkAttempted = c.linkAttempted ∧
      (ret = 0 → disabled = false) := by
  have hrun : g.stopped = false := (h.line 0).running
  unfold linkAttempt at hd
  split at hd
  · obtain ⟨rfl, rfl, rfl⟩ := Act.does_return.1 hd
    exact ⟨.nil hrun, h.stopped, rfl, fun h => absurd h (by decide)⟩
  obtain ⟨valid, tr, rfl, hd₁⟩ := does_ask_bind.1 hd
  split at hd₁
  · obtain ⟨rfl, rfl, rfl⟩ := Act.does_return.1 hd₁
    refine ⟨⟨0, ?_, hrun, by simp [firstClock]⟩, h.stopped, rfl, fun h => absurd h (by decide)⟩
    exact Watch.Allowed.cons (fun pre _ _ post heq => absurd heq (by simp)) ⟨hrun, trivial⟩
  obtain ⟨now, tr, rfl, hd₂⟩ := does_ask_bind.1 hd₁
  obtain ⟨t, ⟨s, result⟩, u, rfl, hserve, hd₃⟩ := does_bind.1 hd₂
  obtain ⟨rfl, rfl, rfl⟩ := Act.does_return.1 hd₃
  -- the session begins here, with 20 seconds
  obtain ⟨hall, htied, hend⟩ := (safe_enumerate (h.bound (now.now + 20000) now.now valid.ok)).does
    hserve fun _ _ _ _ _ => trivial
  rw [List.append_nil]
  refine ⟨⟨now.now + 20000, ?_, htied.running, ?_⟩, h.stopped, rfl, hend⟩
  · exact Watch.Allowed.cons (Watch.Allowed.cons hall ⟨hrun, trivial⟩) ⟨hrun, trivial⟩
  · intro time ht
    rw [← Option.some.inj ht]

lemma does_linkStopLocked (h : c.stopped = false) (hd : Does (linkStopLocked c) tr c') :
    ∃ r, tr = [(.stop, r)] ∧ c' = { c with stopped := true } := by
  unfold linkStopLocked at hd
  rw [h] at hd
  obtain ⟨r, u, rfl, hd₁⟩ := does_ask_bind.1 hd
  obtain ⟨rfl, rfl⟩ := does_pure.1 hd₁
  exact ⟨r, rfl, rfl⟩

/-- What one operation on an idle link says and leaves: it is idle, or stopped for good. -/
lemma does_perform {op : Op} (h : Idle c g)
    (hd : Does (perform crc32c disabled op c) tr (c', ret)) :
    ((tr = [] ∧ Idle c' g) ∨ (Orderly crc32c g tr true ∧ c'.stopped = true)) ∧
      (op.isRun → ret = 0 → disabled = false) := by
  have hrun : g.stopped = false := (h.line 0).running
  cases op with
  | register given =>
    obtain ⟨rfl, heq⟩ := does_pure.1 hd
    refine ⟨.inl ⟨rfl, ?_⟩, by simp [Op.isRun]⟩
    unfold diagLinkRegister at heq
    split at heq
    · obtain ⟨rfl, -⟩ := Prod.mk.inj heq
      exact h
    · obtain ⟨rfl, -⟩ := Prod.mk.inj heq
      exact ⟨h.present, h.stopped, h.line, h.clear, h.connects⟩
  | stop =>
    refine ⟨.inr ?_, by simp [Op.isRun]⟩
    obtain ⟨t, c₁, u, rfl, hstop, hd₁⟩ := does_bind.1 hd
    obtain ⟨rfl, rfl, -⟩ := Act.does_return.1 hd₁
    rw [diagLinkStop, if_pos h.present] at hstop
    obtain ⟨r, rfl, rfl⟩ := does_linkStopLocked h.stopped hstop
    exact ⟨(Orderly.nil hrun).stop r, rfl⟩
  | run board word =>
    change Does (diagLinkRun crc32c disabled board word c) tr (c', ret) at hd
    unfold diagLinkRun at hd
    split at hd
    · obtain ⟨rfl, rfl, rfl⟩ := Act.does_return.1 hd
      exact ⟨.inl ⟨rfl, h⟩, fun _ h0 => absurd h0 (by decide)⟩
    obtain ⟨t, ⟨c₁, ret₁⟩, u, rfl, hattempt, hd₁⟩ := does_bind.1 hd
    obtain ⟨v, c₂, w, rfl, hstop, hd₂⟩ := does_bind.1 hd₁
    obtain ⟨rfl, rfl, rfl⟩ := Act.does_return.1 hd₂
    have hidle : Idle { c with linkAttempted := true } g :=
      ⟨h.present, h.stopped, h.line, h.clear, h.connects⟩
    obtain ⟨horderly, hstopped, -, hret⟩ := does_linkAttempt hidle hattempt
    obtain ⟨r, rfl, rfl⟩ := does_linkStopLocked hstopped hstop
    rw [List.append_nil]
    exact ⟨.inr ⟨horderly.stop r, rfl⟩, fun _ => hret⟩

lemma does_perform_stopped {op : Op} (h : c.stopped = true)
    (hd : Does (perform crc32c disabled op c) tr (c', ret)) :
    tr = [] ∧ c'.stopped = true ∧ (op.isRun → ret ≠ 0) := by
  cases op with
  | register given =>
    obtain ⟨rfl, heq⟩ := does_pure.1 hd
    rw [diagLinkRegister, if_pos (by simp [h])] at heq
    obtain ⟨rfl, rfl⟩ := Prod.mk.inj heq
    exact ⟨rfl, h, by simp [Op.isRun]⟩
  | stop =>
    obtain ⟨t, c₁, u, rfl, hstop, hd₁⟩ := does_bind.1 hd
    obtain ⟨rfl, rfl, rfl⟩ := Act.does_return.1 hd₁
    have hsame : t = [] ∧ c' = c := by
      unfold diagLinkStop at hstop
      split at hstop
      · rw [linkStopLocked, if_pos h] at hstop
        exact does_pure.1 hstop
      · exact does_pure.1 hstop
    obtain ⟨rfl, rfl⟩ := hsame
    exact ⟨rfl, h, by simp [Op.isRun]⟩
  | run board word =>
    change Does (diagLinkRun crc32c disabled board word c) tr (c', ret) at hd
    unfold diagLinkRun at hd
    rw [if_pos (by simp [h])] at hd
    obtain ⟨rfl, rfl, rfl⟩ := Act.does_return.1 hd
    exact ⟨rfl, h, fun _ => by decide⟩

variable {ops : List Op} {rets : List ℤ}

def NoSuccess (ops : List Op) (rets : List ℤ) : Prop :=
  ∀ x ∈ ops.zip rets, x.1.isRun → x.2 ≠ 0

lemma NoSuccess.cons {op : Op} (h : op.isRun → ret ≠ 0) (hs : NoSuccess ops rets) :
    NoSuccess (op :: ops) (ret :: rets) := by
  intro x hx
  rcases List.mem_cons.1 hx with rfl | hx
  · exact h
  · exact hs x hx

lemma does_performAll_stopped (h : c.stopped = true)
    (hd : Does (performAll crc32c disabled ops c) tr (c', rets)) :
    tr = [] ∧ NoSuccess ops rets := by
  induction ops generalizing c tr rets with
  | nil =>
    obtain ⟨rfl, -, rfl⟩ := Act.does_return.1 hd
    exact ⟨rfl, by simp [NoSuccess]⟩
  | cons op ops ih =>
    obtain ⟨t, ⟨c₁, ret⟩, u, rfl, hop, hd₁⟩ := does_bind.1 hd
    obtain ⟨v, ⟨c₂, rets₂⟩, w, rfl, hops, hd₂⟩ := does_bind.1 hd₁
    obtain ⟨rfl, rfl, rfl⟩ := Act.does_return.1 hd₂
    obtain ⟨rfl, hstopped, hret⟩ := does_perform_stopped h hop
    obtain ⟨rfl, hrets⟩ := ih hstopped hops
    exact ⟨rfl, hrets.cons hret⟩

lemma does_performAll (h : Idle c g)
    (hd : Does (performAll crc32c disabled ops c) tr (c', rets)) :
    (tr = [] ∨ Orderly crc32c g tr true) ∧ (disabled = true → NoSuccess ops rets) := by
  induction ops generalizing c tr rets with
  | nil =>
    obtain ⟨rfl, -, rfl⟩ := Act.does_return.1 hd
    exact ⟨.inl rfl, fun _ => by simp [NoSuccess]⟩
  | cons op ops ih =>
    obtain ⟨t, ⟨c₁, ret⟩, u, rfl, hop, hd₁⟩ := does_bind.1 hd
    obtain ⟨v, ⟨c₂, rets₂⟩, w, rfl, hops, hd₂⟩ := does_bind.1 hd₁
    obtain ⟨rfl, rfl, rfl⟩ := Act.does_return.1 hd₂
    obtain ⟨hsaid, hret⟩ := does_perform h hop
    have hfail : disabled = true → op.isRun → ret ≠ 0 := fun hdis hrun h0 =>
      absurd (hret hrun h0) (by simp [hdis])
    -- The first operation that speaks leaves the link stopped, and then none speaks.
    rcases hsaid with ⟨rfl, hidle⟩ | ⟨horderly, hstopped⟩
    · obtain ⟨htr, hrets⟩ := ih hidle hops
      simp only [List.nil_append, List.append_nil]
      exact ⟨htr, fun hdis => (hrets hdis).cons (hfail hdis)⟩
    · obtain ⟨rfl, hrets⟩ := does_performAll_stopped hstopped hops
      simp only [List.append_nil]
      exact ⟨.inr horderly, fun hdis => hrets.cons (hfail hdis)⟩

/-! What follows from the rules. -/

def connectCount (tr : List (RingCall × RingReply)) : ℕ :=
  tr.countP fun x => match x.1 with | .connect _ => true | _ => false

lemma connects_look {q : RingCall} {r : RingReply} :
    ((ring crc32c limit).look g q r).connects = g.connects + connectCount [(q, r)] := by
  cases q <;> simp only [ring, connectCount, List.countP_singleton] <;> split_ifs <;>
    first | rfl | contradiction

lemma connectCount_le_of_allowed (hall : (ring crc32c limit).Allowed g tr) (hg : g.connects ≤ 1) :
    g.connects + connectCount tr ≤ 1 := by
  induction tr generalizing g with
  | nil => exact hg
  | cons x tr ih =>
    obtain ⟨q, r⟩ := x
    have hlook : ((ring crc32c limit).look g q r).connects ≤ 1 := by
      rw [connects_look]
      cases q with
      | connect w =>
        -- The rules allow a connection only as the first.
        have h0 : g.connects = 0 := hall.head.2.1
        rw [h0]
        rfl
      | _ => exact hg
    have hrest := ih hall.tail hlook
    rw [connects_look] at hrest
    have hsplit : connectCount ((q, r) :: tr) = connectCount [(q, r)] + connectCount tr := by
      rw [← List.singleton_append]
      exact List.countP_append
    omega

lemma Orderly.stop_last {stopped : Bool} (h : Orderly crc32c g tr stopped)
    {pre post : List (RingCall × RingReply)} {r : RingReply}
    (htr : tr = pre ++ (.stop, r) :: post) : post = [] := by
  obtain ⟨limit, hall, -, -⟩ := h
  cases post with
  | nil => rfl
  | cons x post =>
    have hnext := (hall (pre ++ [(.stop, r)]) x.1 x.2 post (by rw [htr]; simp)).1
    rw [Watch.after_append] at hnext
    cases hnext

/-- What the rings see of a boot, whatever is asked of the link and in whatever order: nothing, or
one conversation that keeps to their rules, connects at most once and ends when they are stopped. In
this snapshot no run succeeds. -/
structure BootLaw (crc32c : List Byte → BitVec 32) (disabled : Bool) (g : Line) (ops : List Op)
    (rets : List ℤ) (tr : List (RingCall × RingReply)) : Prop where
  rules : tr = [] ∨ Orderly crc32c g tr true
  connects : connectCount tr ≤ 1
  last : ∀ pre r post, tr = pre ++ (.stop, r) :: post → post = []
  noSuccess : disabled = true → NoSuccess ops rets

theorem boot_keeps_rings {n : ℕ}
    (hd : Does (performAll crc32c disabled ops { present := true, nextRx := n }) tr (c', rets)) :
    BootLaw crc32c disabled { tx := 2, rx := n } ops rets tr := by
  have hidle : Idle { present := true, nextRx := n } { tx := 2, rx := n } :=
    ⟨rfl, rfl, fun limit => ⟨rfl, le_rfl, (by decide : 2 ≤ txCount), rfl, rfl, le_rfl⟩,
      ⟨rfl, rfl⟩, rfl⟩
  obtain ⟨hrules, hsuccess⟩ := does_performAll hidle hd
  refine ⟨hrules, ?_, fun pre r post htr => ?_, hsuccess⟩
  · rcases hrules with rfl | horderly
    · exact Nat.zero_le 1
    · obtain ⟨limit, hall, -⟩ := horderly
      simpa using connectCount_le_of_allowed hall (Nat.zero_le 1)
  · rcases hrules with rfl | horderly
    · cases pre <;> cases htr
    · exact horderly.stop_last htr

/-- Rings on which nothing arrives. -/
def silent (_ : List (RingCall × RingReply)) : RingCall → RingReply
  | .rxDone .. => { ok := false }
  | _ => {}

def runTwice : Dialog RingCall RingReply (Control × List ℤ) :=
  performAll (fun _ => 0) true [.register true, .run true 0x2501, .run true 0x2501, .stop]
    { present := true, nextRx := 2 }

theorem boot_keeps_rings_runTwice : BootLaw (fun _ => 0) true { tx := 2, rx := 2 }
    [.register true, .run true 0x2501, .run true 0x2501, .stop] (runTwice.run silent []).2.2
    (runTwice.run silent []).1 :=
  boot_keeps_rings (run_does silent [] runTwice)

example : (runTwice.run silent []).2.2 = [0, -etimedout, -eperm, 0] := by decide +kernel

end YogaUsb4.Link
