import YogaUsb4.Link.Packets

/-!
One transfer of the diagnostic link. A request goes out in a slot of its own, and the plug events
that arrive before its reply are acknowledged in slots of their own; no slot is ever used again.
What the rings, the clock and the other side answer is arbitrary.
-/

namespace YogaUsb4.Link

open Wire LinkPacket Dialog

/-! ### The code -/

/-- What the link calls: the caller's check, the clock in milliseconds, the two rings, and what the
run does besides. A wait has a slot and the time that is left. -/
inductive RingCall where
  | valid
  | jiffies
  | tx (slot : ℕ) (frame : Frame)
  | txDone (slot left : ℕ)
  | rxDone (slot left : ℕ)
  | connect (word : BitVec 32)
  | msleep (ms : ℕ)
  | stop

/-- Whether the check holds or the wait was not in vain, the time, the result of `tb_ring_tx` or of
the connect callback, and what is found in the slot: a frame with one of the two error flags is
damaged. -/
structure RingReply where
  ok : Bool := true
  now : ℕ := 0
  ret : ℤ := 0
  canceled : Bool := false
  damaged : Bool := false
  frame : Frame := ⟨[], 0, 0⟩

def txCount : ℕ := 256
def rxCount : ℕ := 384
def eventLimit : ℕ := 16

/-- `struct x1_link_session`, with the two counters of `struct x1_control`. -/
structure Session where
  nextTx : ℕ
  nextRx : ℕ
  deadline : ℕ
  events : ℕ := 0

/-- A transfer is a read or a write. -/
inductive Request where
  | read (s : ReadSpec)
  | write (s : WriteSpec)

namespace Request

def number (slot : ℕ) : Request → Request
  | read s => read { s with seq := BitVec.ofNat 32 slot &&& 3 }
  | write s => write { s with seq := BitVec.ofNat 32 slot &&& 3 }

variable (crc32c : List Byte → BitVec 32)

def wire : Request → Except ℤ (List Byte)
  | read s => readRequest crc32c s
  | write s => writeRequest crc32c s

def mark : Request → BitVec 32
  | read _ => 1
  | write _ => 2

def reply (f : Frame) : Request → Except ℤ (List (BitVec 32))
  | read s => readReply crc32c f s
  | write s => (writeReply crc32c f s).map fun _ => []

end Request

variable (crc32c : List Byte → BitVec 32)

/-- The end of `link_event`, for the acknowledgement in `slot`. -/
def sendAck (event : PlugEvent) (slot deadline : ℕ) (wire : List Byte) :
    Dialog RingCall RingReply ℤ := do
  let sent ← ask (.tx slot ⟨wire, 3, 3⟩)
  if sent.ret ≠ 0 then return sent.ret
  let now ← ask .jiffies
  if deadline ≤ now.now then return -etimedout
  let done ← ask (.txDone slot (deadline - now.now))
  if done.ok = false then return -etimedout
  if done.canceled then return -eshutdown
  if event.unplug then return -enotconn
  let valid ← ask .valid
  return if valid.ok then 0 else -enotconn

def linkEvent (f : Frame) (deadline : ℕ) : Act RingCall RingReply Session := fun s =>
  match eventDecode crc32c f with
  | .error e => return (s, e)
  | .ok event => do
    if eventLimit ≤ s.events ∨ txCount ≤ s.nextTx then return (s, -enospc)
    let valid ← ask .valid
    if valid.ok = false then return (s, -enotconn)
    let now ← ask .jiffies
    if deadline ≤ now.now then return (s, -etimedout)
    match eventAck crc32c event with
    | .error e => return ({ s with events := s.events + 1, nextTx := s.nextTx + 1 }, e)
    | .ok wire => do
      let ret ← sendAck event s.nextTx deadline wire
      return ({ s with events := s.events + 1, nextTx := s.nextTx + 1 }, ret)

/-- The loop of `link_transfer`, with `n` slots left to receive in. -/
def receive (req : Request) (deadline : ℕ) :
    ℕ → Session → Dialog RingCall RingReply (Session × Except ℤ (List (BitVec 32)))
  | 0, s => return (s, .error (-etimedout))
  | n + 1, s => do
    let now ← ask .jiffies
    if deadline ≤ now.now then return (s, .error (-etimedout))
    let rx ← ask (.rxDone s.nextRx (deadline - now.now))
    if rx.ok = false then return (s, .error (-etimedout))
    if rx.canceled then return ({ s with nextRx := s.nextRx + 1 }, .error (-eshutdown))
    if rx.damaged then return ({ s with nextRx := s.nextRx + 1 }, .error (-ebadmsg))
    if rx.frame.eof = 5 then
      let (s, ret) ← linkEvent crc32c rx.frame deadline { s with nextRx := s.nextRx + 1 }
      if ret ≠ 0 then return (s, .error ret)
      receive req deadline n s
    else return ({ s with nextRx := s.nextRx + 1 }, req.reply crc32c rx.frame)

/-- The end of `link_transfer`: the request itself has to be out, and the caller still content. -/
def conclude (slot deadline : ℕ) (words : List (BitVec 32)) :
    Dialog RingCall RingReply (Except ℤ (List (BitVec 32))) := do
  let now ← ask .jiffies
  if deadline ≤ now.now then return .error (-etimedout)
  let done ← ask (.txDone slot (deadline - now.now))
  if done.ok = false ∨ done.canceled then return .error (-etimedout)
  let valid ← ask .valid
  return if valid.ok then .ok words else .error (-enotconn)

/-- `link_transfer` from where the request is out. -/
def answer (req : Request) (slot deadline : ℕ) (s : Session) :
    Dialog RingCall RingReply (Session × Except ℤ (List (BitVec 32))) := do
  let (s, reply) ← receive crc32c req deadline (rxCount - s.nextRx) s
  match reply with
  | .error e => return (s, .error e)
  | .ok words => do
    let ret ← conclude slot deadline words
    return (s, ret)

/-- `link_transfer` from where the request is built. -/
def exchange (req : Request) (slot : ℕ) (s : Session) :
    Dialog RingCall RingReply (Session × Except ℤ (List (BitVec 32))) :=
  match req.wire crc32c with
  | .error e => return (s, .error e)
  | .ok wire => do
    let sent ← ask (.tx slot ⟨wire, req.mark, req.mark⟩)
    if sent.ret ≠ 0 then return (s, .error sent.ret)
    let now ← ask .jiffies
    answer crc32c req slot (min s.deadline (now.now + 1000)) s

def linkTransfer (req : Request) (s : Session) :
    Dialog RingCall RingReply (Session × Except ℤ (List (BitVec 32))) := do
  if s.nextTx = txCount then return (s, .error (-enospc))
  let valid ← ask .valid
  if valid.ok = false then return (s, .error (-enotconn))
  let now ← ask .jiffies
  if s.deadline ≤ now.now then return (s, .error (-etime))
  -- the slot is used up even if the request is refused
  exchange crc32c (req.number s.nextTx) s.nextTx { s with nextTx := s.nextTx + 1 }

/-! ### What is seen of the rings -/

/-- Of the conversation so far: the slots that were used, the acknowledgements, the last answers of
the check and the clock, the request that was sent last, the frame that arrived last, an event that
is not acknowledged yet, whether one of them was an unplug, how often the link was connected, and
whether the rings were stopped. -/
structure Line where
  tx : ℕ := 0
  rx : ℕ := 0
  acks : ℕ := 0
  live : Bool := false
  now : ℕ := 0
  sent : Option (ℕ × Frame) := none
  got : Option Frame := none
  owed : Option PlugEvent := none
  gone : Bool := false
  connects : ℕ := 0
  stopped : Bool := false

/-- The event of a frame that arrived in one piece. -/
def RingReply.event (r : RingReply) : Option PlugEvent :=
  if r.canceled ∨ r.damaged then none else (eventDecode crc32c r.frame).toOption

/-- What may be sent in a slot: the acknowledgement that is owed, or else, if nothing was
unplugged, a request with the slot's sequence number. -/
def Line.Sendable (g : Line) (slot : ℕ) (f : Frame) : Prop :=
  match g.owed with
  | some e => g.acks < eventLimit ∧ ∃ p, eventAck crc32c e = .ok p ∧ f = ⟨p, 3, 3⟩
  | none => g.gone = false ∧ ∃ req : Request, ∃ p, (req.number slot).wire crc32c = .ok p ∧
    f = ⟨p, req.mark, req.mark⟩

/-- The rules of the rings up to the time `limit`. -/
def ring (limit : ℕ) : Watch RingCall RingReply Line where
  look g
    | .valid, r => { g with live := r.ok }
    | .jiffies, r => { g with now := r.now }
    | .tx slot f, _ => if g.owed.isSome then
        { g with tx := slot + 1, acks := g.acks + 1, owed := none }
      else { g with tx := slot + 1, sent := some (slot, f) }
    | .txDone .., _ => g
    | .rxDone .., r => if r.ok then
        { g with rx := g.rx + 1, got := some r.frame, owed := r.event crc32c,
                 gone := g.gone || (r.event crc32c).any (·.unplug) } else g
    | .connect _, _ => { g with connects := g.connects + 1 }
    | .msleep _, _ => g
    | .stop, _ => { g with stopped := true }
  allow g q := g.stopped = false ∧ match q with
    | .valid | .jiffies | .msleep _ | .stop => True
    | .tx slot f => g.tx ≤ slot ∧ slot < txCount ∧ g.live ∧ g.now < limit ∧ g.Sendable crc32c slot f
    | .txDone slot left => slot < g.tx ∧ 0 < left ∧ g.now + left ≤ limit
    | .rxDone slot left => slot = g.rx ∧ slot < rxCount ∧ g.owed = none ∧ 0 < left ∧
      g.now + left ≤ limit
    | .connect _ => g.connects = 0 ∧ g.live ∧ g.owed = none ∧ g.gone = false

section Look

variable {crc32c} {limit : ℕ} {g : Line} {r : RingReply}

@[simp] lemma look_valid : (ring crc32c limit).look g .valid r = { g with live := r.ok } := rfl

@[simp] lemma look_jiffies : (ring crc32c limit).look g .jiffies r = { g with now := r.now } := rfl

@[simp] lemma look_txDone {slot left : ℕ} :
    (ring crc32c limit).look g (.txDone slot left) r = g := rfl

lemma look_ack {slot : ℕ} {f : Frame} {e : PlugEvent} (h : g.owed = some e) :
    (ring crc32c limit).look g (.tx slot f) r =
      { g with tx := slot + 1, acks := g.acks + 1, owed := none } := by
  simp [ring, h]

lemma look_request {slot : ℕ} {f : Frame} (h : g.owed = none) :
    (ring crc32c limit).look g (.tx slot f) r =
      { g with tx := slot + 1, sent := some (slot, f) } := by
  simp [ring, h]

lemma look_empty {slot left : ℕ} (h : r.ok = false) :
    (ring crc32c limit).look g (.rxDone slot left) r = g := by
  simp [ring, h]

lemma look_frame {slot left : ℕ} (h : ¬ r.ok = false) :
    (ring crc32c limit).look g (.rxDone slot left) r =
      { g with rx := g.rx + 1, got := some r.frame, owed := r.event crc32c,
               gone := g.gone || (r.event crc32c).any (·.unplug) } := by
  simp [ring, h]

end Look

/-! ### Events -/

variable {crc32c} {limit deadline slot : ℕ} {g : Line} {s : Session} {req : Request}

/-- The session knows what was seen. -/
structure Tied (limit : ℕ) (g : Line) (s : Session) : Prop where
  running : g.stopped = false
  tx : g.tx ≤ s.nextTx
  room : s.nextTx ≤ txCount
  rx : g.rx = s.nextRx
  acks : g.acks = s.events
  deadline : s.deadline ≤ limit

structure Acked (slot : ℕ) (g g' : Line) : Prop where
  tx : g'.tx = slot + 1
  rx : g'.rx = g.rx
  acks : g'.acks = g.acks + 1
  sent : g'.sent = g.sent
  owed : g'.owed = none
  gone : g'.gone = g.gone
  connects : g'.connects = g.connects
  stopped : g'.stopped = g.stopped

lemma safe_sendAck {event : PlugEvent} {p : List Byte} (howed : g.owed = some event)
    (hrun : g.stopped = false) (hack : eventAck crc32c event = .ok p) (hlimit : g.acks < eventLimit)
    (hslot : g.tx ≤ slot ∧ slot < txCount) (hlive : g.live = true) (hnow : g.now < deadline)
    (hdeadline : deadline ≤ limit) :
    Safe (ring crc32c limit) (fun g' ret => Acked slot g g' ∧ (ret = 0 → event.unplug = false))
      (sendAck event slot deadline p) g := by
  unfold sendAck
  rw [safe_ask_bind]
  refine ⟨⟨hrun, hslot.1, hslot.2, hlive, by omega, ?_⟩, fun sent _ => ?_⟩
  · simp only [Line.Sendable, howed]
    exact ⟨hlimit, p, hack, rfl⟩
  rw [look_ack howed]
  -- from here on nothing is sent
  split
  · exact ⟨⟨rfl, rfl, rfl, rfl, rfl, rfl, rfl, rfl⟩, fun h => absurd h ‹_›⟩
  refine safe_ask_bind.2 ⟨⟨hrun, trivial⟩, fun now _ => ?_⟩
  rw [look_jiffies]
  split
  · exact ⟨⟨rfl, rfl, rfl, rfl, rfl, rfl, rfl, rfl⟩, fun h => absurd h (by decide)⟩
  refine safe_ask_bind.2 ⟨⟨hrun, Nat.lt_succ_self slot, by omega, by dsimp only; omega⟩,
    fun done _ => ?_⟩
  rw [look_txDone]
  split
  · exact ⟨⟨rfl, rfl, rfl, rfl, rfl, rfl, rfl, rfl⟩, fun h => absurd h (by decide)⟩
  split
  · exact ⟨⟨rfl, rfl, rfl, rfl, rfl, rfl, rfl, rfl⟩, fun h => absurd h (by decide)⟩
  split
  · exact ⟨⟨rfl, rfl, rfl, rfl, rfl, rfl, rfl, rfl⟩, fun h => absurd h (by decide)⟩
  exact ⟨⟨hrun, trivial⟩, fun valid _ => ⟨⟨rfl, rfl, rfl, rfl, rfl, rfl, rfl, rfl⟩,
    fun _ => Bool.eq_false_iff.2 ‹_›⟩⟩

/-- Nothing is owed and nothing was unplugged. -/
structure Line.Clear (g : Line) : Prop where
  owed : g.owed = none
  gone : g.gone = false

/-- What a part of a transfer leaves: the session still knows what was seen, and no request was
sent. -/
structure Kept (limit : ℕ) (g : Line) (s : Session) (g' : Line) (s' : Session) : Prop where
  tied : Tied limit g' s'
  slots : g.tx ≤ g'.tx
  sent : g'.sent = g.sent
  deadline : s'.deadline = s.deadline
  connects : g'.connects = g.connects

lemma Kept.refl (ht : Tied limit g s) : Kept limit g s g s := ⟨ht, le_rfl, rfl, rfl, rfl⟩

lemma Kept.trans {g₁ g₂ : Line} {s₁ s₂ : Session} (h : Kept limit g s g₁ s₁)
    (h' : Kept limit g₁ s₁ g₂ s₂) : Kept limit g s g₂ s₂ :=
  ⟨h'.tied, h.slots.trans h'.slots, h'.sent.trans h.sent, h'.deadline.trans h.deadline,
    h'.connects.trans h.connects⟩

lemma Tied.asked (ht : Tied limit g s) (live : Bool) (now : ℕ) :
    Tied limit { g with live := live, now := now } s :=
  ⟨ht.running, ht.tx, ht.room, ht.rx, ht.acks, ht.deadline⟩

structure Handled (limit : ℕ) (g : Line) (s : Session) (g' : Line) (x : Session × ℤ) : Prop
    extends Kept limit g s g' x.1 where
  rx : x.1.nextRx = s.nextRx
  clear : x.2 = 0 → g'.Clear

lemma safe_linkEvent {f : Frame} (ht : Tied limit g s)
    (howed : g.owed = (eventDecode crc32c f).toOption)
    (hgone : g.gone = g.owed.any (·.unplug)) (hdeadline : deadline ≤ limit) :
    Safe (ring crc32c limit) (Handled limit g s) (linkEvent crc32c f deadline s) g := by
  unfold linkEvent
  cases hdecode : eventDecode crc32c f with
  | error e =>
    rw [hdecode] at howed
    rw [howed] at hgone
    exact ⟨.refl ht, rfl, fun _ => ⟨howed, hgone⟩⟩
  | ok event =>
    rw [hdecode] at howed
    have hack : eventAck crc32c event = .ok _ := eventAck_ok.2 ⟨(eventDecode_ok.1 hdecode).1, rfl⟩
    dsimp only
    split
    · exact ⟨.refl ht, rfl, fun h => absurd (show -enospc = 0 from h) (by decide)⟩
    rename_i hroom
    refine safe_ask_bind.2 ⟨⟨ht.running, trivial⟩, fun valid _ => ?_⟩
    rw [look_valid]
    split
    · exact ⟨⟨ht.asked _ _, le_rfl, rfl, rfl, rfl⟩, rfl,
        fun h => absurd (show -enotconn = 0 from h) (by decide)⟩
    rename_i hvalid
    refine safe_ask_bind.2 ⟨⟨ht.running, trivial⟩, fun now _ => ?_⟩
    rw [look_jiffies]
    split
    · exact ⟨⟨ht.asked _ _, le_rfl, rfl, rfl, rfl⟩, rfl,
        fun h => absurd (show -etimedout = 0 from h) (by decide)⟩
    rename_i hnow
    rw [hack]
    dsimp only
    rw [safe_bind]
    -- Both limits were tested above: there is a slot, and an acknowledgement left.
    have hfree : s.events < eventLimit ∧ s.nextTx < txCount := by omega
    refine (safe_sendAck (g := { g with live := valid.ok, now := now.now }) howed
      ht.running hack (ht.acks.trans_lt hfree.1) ⟨ht.tx, hfree.2⟩ (Bool.not_eq_false _ ▸ hvalid)
      (Nat.lt_of_not_le hnow) hdeadline).mono fun g' ret h => ?_
    obtain ⟨hacked, hplug⟩ := h
    refine ⟨⟨⟨hacked.stopped.trans ht.running, hacked.tx.le, hfree.2, hacked.rx.trans ht.rx, ?_,
      ht.deadline⟩, ?_, hacked.sent, rfl, hacked.connects⟩, rfl, fun h0 => ⟨hacked.owed, ?_⟩⟩
    · exact hacked.acks.trans (congrArg (· + 1) ht.acks)
    · rw [hacked.tx]
      exact Nat.le_succ_of_le ht.tx
    · calc g'.gone = g.owed.any (·.unplug) := hacked.gone.trans hgone
        _ = event.unplug := by rw [howed]; rfl
        _ = false := hplug h0

/-! ### Transfers -/

/-- The frame that arrived last says this in reply. -/
def Line.Answers (crc32c : List Byte → BitVec 32) (g : Line) (req : Request)
    (words : List (BitVec 32)) : Prop :=
  ∃ f, g.got = some f ∧ req.reply crc32c f = .ok words

lemma event_eq_none {r : RingReply} (h : r.frame.eof ≠ 5) : r.event crc32c = none := by
  unfold RingReply.event
  split
  · rfl
  · cases hdecode : eventDecode crc32c r.frame with
    | error e => rfl
    | ok e =>
      obtain ⟨-, hframe⟩ := eventDecode_ok.1 hdecode
      exact absurd (congrArg Frame.eof hframe) h

lemma refuses_wire : Refuses (req.wire crc32c) := by
  cases req with
  | read s => exact .bind refuses_readAddress fun _ => .ok
  | write s => exact .bind refuses_writeAddress fun _ => .ok

lemma refuses_reply {f : Frame} : Refuses (req.reply crc32c f) := by
  cases req with
  | read s => exact refuses_readReply
  | write s =>
    intro e h
    cases hreply : writeReply crc32c f s with
    | error e' =>
      rw [Request.reply, hreply] at h
      exact Except.error.inj h ▸ refuses_writeReply e' hreply
    | ok a =>
      rw [Request.reply, hreply] at h
      cases h

structure Received (crc32c : List Byte → BitVec 32) (limit : ℕ) (req : Request) (g : Line)
    (s : Session) (g' : Line) (x : Session × Except ℤ (List (BitVec 32))) : Prop
    extends Kept limit g s g' x.1 where
  answered : ∀ words, x.2 = .ok words → g'.Clear ∧ g'.Answers crc32c req words
  refuses : Refuses x.2

lemma safe_receive {n : ℕ} (hn : n ≤ rxCount - s.nextRx) (ht : Tied limit g s) (hc : g.Clear)
    (hdeadline : deadline ≤ limit) :
    Safe (ring crc32c limit) (Received crc32c limit req g s)
      (receive crc32c req deadline n s) g := by
  -- The induction is on the slots that are left.
  induction n generalizing g s with
  | zero => exact ⟨.refl ht, by simp, .error (by decide)⟩
  | succ n ih =>
    unfold receive
    refine safe_ask_bind.2 ⟨⟨ht.running, trivial⟩, fun now _ => ?_⟩
    rw [look_jiffies]
    split
    · exact ⟨⟨ht.asked _ _, le_rfl, rfl, rfl, rfl⟩, by simp, .error (by decide)⟩
    rename_i hnow
    refine safe_ask_bind.2 ⟨⟨ht.running, ht.rx.symm, by omega, hc.owed, by omega,
      by dsimp only; omega⟩, fun rx _ => ?_⟩
    split
    · rename_i hempty
      rw [look_empty hempty]
      exact ⟨⟨ht.asked _ _, le_rfl, rfl, rfl, rfl⟩, by simp, .error (by decide)⟩
    rename_i hframe
    rw [look_frame hframe]
    have hkept : Kept limit g s
        { g with
          now := now.now, rx := g.rx + 1, got := some rx.frame, owed := rx.event crc32c,
          gone := g.gone || (rx.event crc32c).any (·.unplug) }
        { s with nextRx := s.nextRx + 1 } :=
      ⟨⟨ht.running, ht.tx, ht.room, congrArg (· + 1) ht.rx, ht.acks, ht.deadline⟩, le_rfl, rfl, rfl,
        rfl⟩
    split
    · exact ⟨hkept, by simp, .error (by decide)⟩
    rename_i hcanceled
    split
    · exact ⟨hkept, by simp, .error (by decide)⟩
    rename_i hdamaged
    split
    · -- an event: the loop goes on if it was acknowledged
      rw [safe_bind]
      have hevent : rx.event crc32c = (eventDecode crc32c rx.frame).toOption := by
        simp [RingReply.event, hcanceled, hdamaged]
      refine (safe_linkEvent hkept.tied hevent (by simp [hc.gone]) hdeadline).mono fun g' x hx => ?_
      dsimp only
      split
      · exact ⟨hkept.trans hx.toKept, by simp, .error ‹_›⟩
      rename_i hret
      have hrest := hx.rx
      refine (ih (by dsimp only at hrest; omega) hx.tied (hx.clear (not_not.1 hret))).mono
        fun g'' y hy => ?_
      exact ⟨(hkept.trans hx.toKept).trans hy.toKept, hy.answered, hy.refuses⟩
    · rename_i heof
      -- No event, so it is the reply or an error, and nothing is owed.
      refine ⟨hkept, fun words hreply => ⟨⟨event_eq_none heof, ?_⟩, _, rfl, hreply⟩, refuses_reply⟩
      simp [event_eq_none heof, hc.gone]

variable {words : List (BitVec 32)}

lemma safe_conclude (hrun : g.stopped = false) (hslot : slot < g.tx)
    (hdeadline : deadline ≤ limit) :
    Safe (ring crc32c limit) (fun g' ret => (∃ live now, g' = { g with live := live, now := now }) ∧
      (∀ words', ret = .ok words' → words' = words ∧ g'.live = true) ∧ Refuses ret)
      (conclude slot deadline words) g := by
  unfold conclude
  refine safe_ask_bind.2 ⟨⟨hrun, trivial⟩, fun now _ => ?_⟩
  rw [look_jiffies]
  split
  · exact ⟨⟨_, _, rfl⟩, by simp, .error (by decide)⟩
  refine safe_ask_bind.2 ⟨⟨hrun, hslot, by omega, by dsimp only; omega⟩, fun done _ => ?_⟩
  rw [look_txDone]
  split
  · exact ⟨⟨_, _, rfl⟩, by simp, .error (by decide)⟩
  refine safe_ask_bind.2 ⟨⟨hrun, trivial⟩, fun valid _ => ⟨⟨_, _, rfl⟩, fun words' h => ?_,
    .ite .ok (.error (by decide))⟩⟩
  split at h
  · exact ⟨(Except.ok.inj h).symm, ‹_›⟩
  · cases h

lemma safe_answer (ht : Tied limit g s) (hc : g.Clear) (hslot : slot < g.tx)
    (hdeadline : deadline ≤ limit) :
    Safe (ring crc32c limit) (fun g' x => Received crc32c limit req g s g' x ∧
      ∀ words, x.2 = .ok words → g'.live = true) (answer crc32c req slot deadline s) g := by
  unfold answer
  rw [safe_bind]
  refine (safe_receive le_rfl ht hc hdeadline).mono fun g' x hx => ?_
  obtain ⟨s', reply⟩ := x
  cases reply with
  | error e => exact ⟨hx, by simp⟩
  | ok words =>
    dsimp only
    rw [safe_bind]
    refine (safe_conclude hx.tied.running (hslot.trans_le hx.slots) hdeadline).mono
      fun g'' ret hret => ?_
    obtain ⟨⟨live, now, rfl⟩, hok, hrefuses⟩ := hret
    obtain ⟨⟨howed, hgone⟩, hanswers⟩ := hx.answered words rfl
    refine ⟨⟨⟨hx.tied.asked _ _, hx.slots, hx.sent, hx.deadline, hx.connects⟩, fun words' h => ?_,
      hrefuses⟩, fun words' h => (hok words' h).2⟩
    rw [(hok words' h).1]
    exact ⟨⟨howed, hgone⟩, hanswers⟩

/-- What a transfer leaves. If it succeeds, its request was sent in the session's next slot, what
arrived last is the reply to it, nothing is owed, nothing was unplugged, and the caller was content
in the end. -/
structure Transferred (crc32c : List Byte → BitVec 32) (limit : ℕ) (req : Request) (g : Line)
    (s : Session) (g' : Line) (x : Session × Except ℤ (List (BitVec 32))) : Prop where
  tied : Tied limit g' x.1
  deadline : x.1.deadline = s.deadline
  connects : g'.connects = g.connects
  clear : ∀ words, x.2 = .ok words → g'.Clear
  live : ∀ words, x.2 = .ok words → g'.live = true
  sent : ∀ words, x.2 = .ok words → ∃ p, (req.number s.nextTx).wire crc32c = .ok p ∧
    g'.sent = some (s.nextTx, ⟨p, req.mark, req.mark⟩)
  answered : ∀ words, x.2 = .ok words → g'.Answers crc32c (req.number s.nextTx) words
  refuses : Refuses x.2

@[simp] lemma Request.mark_number : (req.number slot).mark = req.mark := by
  cases req <;> rfl

lemma Transferred.failed {e : ℤ} {g' : Line} {s' : Session} (ht : Tied limit g' s')
    (h : s'.deadline = s.deadline) (hg : g'.connects = g.connects) (he : e ≠ 0) :
    Transferred crc32c limit req g s g' (s', .error e) :=
  ⟨ht, h, hg, by simp, by simp, by simp, by simp, .error he⟩

lemma safe_exchange (ht : Tied limit g s) (hc : g.Clear) (hslot : s.nextTx < txCount)
    (hlive : g.live = true) (hnow : g.now < limit) :
    Safe (ring crc32c limit) (Transferred crc32c limit req g s)
      (exchange crc32c (req.number s.nextTx) s.nextTx { s with nextTx := s.nextTx + 1 }) g := by
  unfold exchange
  cases hwire : (req.number s.nextTx).wire crc32c with
  | error e =>
    exact .failed ⟨ht.running, Nat.le_succ_of_le ht.tx, hslot, ht.rx, ht.acks, ht.deadline⟩ rfl rfl
      (refuses_wire e hwire)
  | ok p =>
    refine safe_ask_bind.2 ⟨⟨ht.running, ht.tx, hslot, hlive, hnow, ?_⟩, fun sent _ => ?_⟩
    · simp only [Line.Sendable, hc.owed]
      exact ⟨hc.gone, req, p, hwire, by rw [Request.mark_number]⟩
    rw [look_request hc.owed, Request.mark_number]
    have htied : Tied limit
        { g with tx := s.nextTx + 1, sent := some (s.nextTx, ⟨p, req.mark, req.mark⟩) }
        { s with nextTx := s.nextTx + 1 } :=
      ⟨ht.running, le_rfl, hslot, ht.rx, ht.acks, ht.deadline⟩
    split
    · exact .failed htied rfl rfl ‹_›
    refine safe_ask_bind.2 ⟨⟨ht.running, trivial⟩, fun start _ => ?_⟩
    rw [look_jiffies]
    refine (safe_answer (htied.asked g.live start.now) ⟨hc.owed, hc.gone⟩
      (Nat.lt_succ_self _) ((min_le_left _ _).trans ht.deadline)).mono fun g' x hx => ?_
    obtain ⟨hreceived, hend⟩ := hx
    exact ⟨hreceived.tied, hreceived.deadline, hreceived.connects,
      fun words h => (hreceived.answered words h).1, hend,
      fun words _ => ⟨p, hwire, hreceived.sent⟩, fun words h => (hreceived.answered words h).2,
      hreceived.refuses⟩

/-- `link_transfer` keeps to the rules of the rings, whatever it is answered. -/
lemma safe_linkTransfer (ht : Tied limit g s) (hc : g.Clear) :
    Safe (ring crc32c limit) (Transferred crc32c limit req g s) (linkTransfer crc32c req s) g := by
  unfold linkTransfer
  split
  · exact .failed ht rfl rfl (by decide)
  rename_i hroom
  refine safe_ask_bind.2 ⟨⟨ht.running, trivial⟩, fun valid _ => ?_⟩
  rw [look_valid]
  split
  · exact .failed (ht.asked _ _) rfl rfl (by decide)
  rename_i hvalid
  refine safe_ask_bind.2 ⟨⟨ht.running, trivial⟩, fun now _ => ?_⟩
  rw [look_jiffies]
  split
  · exact .failed (ht.asked _ _) rfl rfl (by decide)
  rename_i hnow
  refine (safe_exchange (ht.asked valid.ok now.now) ⟨hc.owed, hc.gone⟩
    (lt_of_le_of_ne ht.room hroom) (Bool.not_eq_false _ ▸ hvalid)
    ((Nat.lt_of_not_le hnow).trans_le ht.deadline)).mono fun g' x h => ?_
  exact ⟨h.tied, h.deadline, h.connects, h.clear, h.live, h.sent, h.answered, h.refuses⟩

/-- A transfer that succeeds is genuine, and every conversation keeps to the rules of the rings. -/
theorem linkTransfer_genuine {tr : List (RingCall × RingReply)}
    {x : Session × Except ℤ (List (BitVec 32))} (ht : Tied limit g s) (hc : g.Clear)
    (hd : Does (linkTransfer crc32c req s) tr x) :
    (ring crc32c limit).Allowed g tr ∧
      Transferred crc32c limit req g s ((ring crc32c limit).after g tr) x :=
  (safe_linkTransfer ht hc).does hd fun _ _ _ _ _ => trivial

/-- The frames of a plug event and of the reply to the first read of a run. -/
def plugThenReply (slot : ℕ) : Frame :=
  if slot = 0 then shortFrame (fun _ => 0) 5 0 (PlugEvent.data ⟨2, false⟩)
  else routerReply (fun _ => 0) ⟨0, 0, 2, 0, 5, 2⟩ [1, 2, 3, 4, 5]

def plugThenReplyRings (_ : List (RingCall × RingReply)) : RingCall → RingReply
  | .rxDone slot _ => { frame := plugThenReply slot }
  | _ => {}

theorem linkTransfer_genuine_plugThenReply :
    let req := Request.read ⟨0, 0, 2, 0, 5, 0⟩
    let r := (linkTransfer (fun _ => 0) req ⟨2, 0, 20000, 0⟩).run plugThenReplyRings []
    (ring (fun _ => 0) 20000).Allowed { tx := 2 } r.1 ∧
      Transferred (fun _ => 0) 20000 req { tx := 2 } ⟨2, 0, 20000, 0⟩
        ((ring (fun _ => 0) 20000).after { tx := 2 } r.1) r.2 :=
  linkTransfer_genuine ⟨rfl, le_rfl, by decide, rfl, rfl, le_rfl⟩ ⟨rfl, rfl⟩ (run_does _ [] _)

/-! ### Rings that work -/

/-- The rings work from `start` to `stop`, the caller is content, and this is what arrives. -/
def working (start stop : ℕ) (stream : ℕ → Frame) : Watch RingCall RingReply Unit where
  look _ _ _ := ()
  expect _
    | .valid, r => r.ok = true
    | .jiffies, r => start ≤ r.now ∧ r.now < stop
    | .tx .., r => r.ret = 0
    | .txDone .., r => r.ok = true ∧ r.canceled = false
    | .rxDone slot _, r => r.ok = true ∧ r.canceled = false ∧ r.damaged = false ∧
      r.frame = stream slot
    | _, _ => True

section Working

variable {start stop : ℕ} {stream : ℕ → Frame}

lemma working_linkEvent {e : PlugEvent} (hknown : e.Known) (hplug : e.unplug = false)
    (hlimit : s.events < eventLimit) (hroom : s.nextTx < txCount) (hstop : stop ≤ deadline) :
    Safe (working start stop stream)
      (fun _ x => x = ({ s with nextTx := s.nextTx + 1, events := s.events + 1 }, 0))
      (linkEvent crc32c (shortFrame crc32c 5 0 e.data) deadline s) () := by
  unfold linkEvent
  rw [eventDecode_ok.2 ⟨hknown, rfl⟩]
  dsimp only
  rw [if_neg (by omega)]
  refine safe_ask_bind.2 ⟨trivial, fun valid hvalid => ?_⟩
  have hvalid : valid.ok = true := hvalid
  rw [if_neg (by simp [hvalid])]
  refine safe_ask_bind.2 ⟨trivial, fun now hnow => ?_⟩
  have hnow : now.now < stop := hnow.2
  rw [if_neg (by omega), eventAck_ok.2 ⟨hknown, rfl⟩]
  unfold sendAck
  refine safe_bind.2 (safe_ask_bind.2 ⟨trivial, fun sent hsent => ?_⟩)
  have hsent : sent.ret = 0 := hsent
  rw [if_neg (not_not.2 hsent)]
  refine safe_ask_bind.2 ⟨trivial, fun later hlater => ?_⟩
  have hlater : later.now < stop := hlater.2
  rw [if_neg (by omega)]
  refine safe_ask_bind.2 ⟨trivial, fun done hdone => ?_⟩
  rw [if_neg (by simp [hdone.1]), if_neg (by simp [hdone.2]), if_neg (by simp [hplug])]
  refine safe_ask_bind.2 ⟨trivial, fun valid' hvalid' => ?_⟩
  have hvalid' : valid'.ok = true := hvalid'
  rw [if_pos hvalid']
  rfl

lemma Request.eof_ne {f : Frame} (h : req.reply crc32c f = .ok words) :
    f.eof ≠ 5 := by
  cases req with
  | read s =>
    rw [(readReply_ok.1 h).1.eof]
    decide
  | write s =>
    obtain ⟨u, h⟩ : ∃ u, writeReply crc32c f s = .ok u := by
      cases hr : writeReply crc32c f s with
      | ok u => exact ⟨u, rfl⟩
      | error e => simp [Request.reply, hr, Except.map] at h
    obtain ⟨-, port, -, rfl⟩ := writeReply_ok.1 h
    exact (by decide : (2 : BitVec 32) ≠ 5)

lemma working_receive {events : List PlugEvent} {f : Frame} {n : ℕ}
    (hevents : ∀ e ∈ events, e.Known ∧ e.unplug = false)
    (hlimit : s.events + events.length ≤ eventLimit) (hroom : s.nextTx + events.length ≤ txCount)
    (hn : events.length < n) (hstop : stop ≤ deadline) (hstream : ∀ i (h : i < events.length),
      stream (s.nextRx + i) = shortFrame crc32c 5 0 (events[i]).data)
    (hlast : stream (s.nextRx + events.length) = f) (hreply : req.reply crc32c f = .ok words) :
    Safe (working start stop stream) (fun _ x => x = ({ s with
        nextTx := s.nextTx + events.length, nextRx := s.nextRx + events.length + 1,
        events := s.events + events.length }, .ok words))
      (receive crc32c req deadline n s) () := by
  -- The induction is on the events that come before the reply.
  induction events generalizing s n with
  | nil =>
    obtain ⟨n, rfl⟩ := Nat.exists_eq_succ_of_ne_zero (Nat.ne_of_gt hn)
    unfold receive
    refine safe_ask_bind.2 ⟨trivial, fun now hnow => ?_⟩
    have hnow : now.now < stop := hnow.2
    rw [if_neg (by omega)]
    refine safe_ask_bind.2 ⟨trivial, fun rx hrx => ?_⟩
    obtain ⟨hok, hcanceled, hdamaged, hframe⟩ := hrx
    have hf : rx.frame = f := hframe.trans hlast
    rw [if_neg (by simp [hok]), if_neg (by simp [hcanceled]), if_neg (by simp [hdamaged]), hf,
      if_neg (Request.eof_ne hreply), hreply]
    rfl
  | cons e events ih =>
    rw [List.length_cons] at hlimit hroom hn hlast
    obtain ⟨n, rfl⟩ : ∃ m, n = m + 1 := ⟨n - 1, by omega⟩
    unfold receive
    refine safe_ask_bind.2 ⟨trivial, fun now hnow => ?_⟩
    have hnow : now.now < stop := hnow.2
    rw [if_neg (by omega)]
    refine safe_ask_bind.2 ⟨trivial, fun rx hrx => ?_⟩
    obtain ⟨hok, hcanceled, hdamaged, hframe⟩ := hrx
    have hf : rx.frame = shortFrame crc32c 5 0 e.data :=
      hframe.trans (hstream 0 (Nat.succ_pos _))
    obtain ⟨hknown, hplug⟩ := hevents e List.mem_cons_self
    rw [if_neg (by simp [hok]), if_neg (by simp [hcanceled]), if_neg (by simp [hdamaged]), hf,
      if_pos (show (shortFrame crc32c 5 0 e.data).eof = 5 from rfl)]
    refine safe_bind.2 ((working_linkEvent (s := { s with nextRx := s.nextRx + 1 }) hknown hplug
      (by dsimp only; omega) (by dsimp only; omega) hstop).mono fun _ x hx => ?_)
    rw [hx]
    refine (ih (s := ⟨s.nextTx + 1, s.nextRx + 1, s.deadline, s.events + 1⟩)
      (fun e' he' => hevents e' (List.mem_cons_of_mem _ he')) (by dsimp only; omega)
      (by dsimp only; omega) (by omega) (fun i hi => ?_) ?_).mono fun _ y hy => ?_
    · calc stream (s.nextRx + 1 + i) = stream (s.nextRx + (i + 1)) :=
            congrArg stream (by omega)
        _ = _ := hstream (i + 1) (Nat.succ_lt_succ hi)
    · rw [← hlast]
      exact congrArg stream (by dsimp only; omega)
    · rw [hy]
      simp only [List.length_cons, Prod.mk.injEq, Session.mk.injEq, and_true, true_and]
      omega

end Working

/-- With rings that work, a caller that is content and a router that answers, a transfer delivers
what the router says after any plug events that come before the reply, if none is an unplug and
there is room for them. -/
theorem linkTransfer_delivers (start stop : ℕ) (stream : ℕ → Frame) (events : List PlugEvent)
    {f : Frame} {p : List Byte} {words : List (BitVec 32)} {tr : List (RingCall × RingReply)}
    {x : Session × Except ℤ (List (BitVec 32))}
    (hd : Does (linkTransfer crc32c req s) tr x) (htr : (working start stop stream).Honest () tr)
    (hwire : (req.number s.nextTx).wire crc32c = .ok p)
    (hevents : ∀ e ∈ events, e.Known ∧ e.unplug = false)
    (hlimit : s.events + events.length ≤ eventLimit) (hroom : s.nextTx + events.length < txCount)
    (hrx : s.nextRx + events.length < rxCount) (hstop : stop ≤ s.deadline ∧ stop ≤ start + 1000)
    (hstream : ∀ i (h : i < events.length),
      stream (s.nextRx + i) = shortFrame crc32c 5 0 (events[i]).data)
    (hlast : stream (s.nextRx + events.length) = f)
    (hreply : (req.number s.nextTx).reply crc32c f = .ok words) :
    x = ({ s with
      nextTx := s.nextTx + events.length + 1, nextRx := s.nextRx + events.length + 1,
      events := s.events + events.length }, .ok words) := by
  refine (Safe.does (w := working start stop stream) (g := ())
    (R := fun _ x => x = ({ s with
      nextTx := s.nextTx + events.length + 1, nextRx := s.nextRx + events.length + 1,
      events := s.events + events.length }, .ok words)) ?_ hd htr).2
  unfold linkTransfer
  rw [if_neg (by omega)]
  refine safe_ask_bind.2 ⟨trivial, fun valid hvalid => ?_⟩
  have hvalid : valid.ok = true := hvalid
  rw [if_neg (by simp [hvalid])]
  refine safe_ask_bind.2 ⟨trivial, fun now hnow => ?_⟩
  have hnow : now.now < stop := hnow.2
  rw [if_neg (by omega)]
  unfold exchange
  rw [hwire]
  refine safe_ask_bind.2 ⟨trivial, fun sent hsent => ?_⟩
  have hsent : sent.ret = 0 := hsent
  rw [if_neg (not_not.2 hsent)]
  refine safe_ask_bind.2 ⟨trivial, fun begin hbegin => ?_⟩
  have hbegin : start ≤ begin.now := hbegin.1
  -- The wait ends at the session's deadline or after a second, both after `stop`.
  have hdeadline : stop ≤ min s.deadline (begin.now + 1000) := by omega
  refine safe_bind.2 ((working_receive (s := { s with nextTx := s.nextTx + 1 }) hevents hlimit
    (by dsimp only; omega) (by dsimp only; omega) hdeadline hstream hlast hreply).mono
    fun _ y hy => ?_)
  rw [hy]
  unfold conclude
  refine safe_bind.2 (safe_ask_bind.2 ⟨trivial, fun late hlate => ?_⟩)
  have hlate : late.now < stop := hlate.2
  dsimp only
  rw [if_neg (by omega)]
  refine safe_ask_bind.2 ⟨trivial, fun done hdone => ?_⟩
  rw [if_neg (by simp [hdone.1, hdone.2])]
  refine safe_ask_bind.2 ⟨trivial, fun valid' hvalid' => ?_⟩
  have hvalid' : valid'.ok = true := hvalid'
  simp only [safe_pure, hvalid', if_true, Prod.mk.injEq, Session.mk.injEq, and_true]
  omega

theorem linkTransfer_delivers_plugThenReply :
    ((linkTransfer (fun _ => 0) (.read ⟨0, 0, 2, 0, 5, 0⟩) ⟨2, 0, 20000, 0⟩).run
      plugThenReplyRings []).2 = (⟨4, 2, 20000, 1⟩, .ok [1, 2, 3, 4, 5]) := by
  have hadm : ReadSpec.Admitted ⟨0, 0, 2, 0, 5, 2⟩ := by decide
  have hnumber : Request.number 2 (.read ⟨0, 0, 2, 0, 5, 0⟩) = .read ⟨0, 0, 2, 0, 5, 2⟩ := rfl
  have hwire : ∃ p, (Request.number 2 (.read ⟨0, 0, 2, 0, 5, 0⟩)).wire (fun _ => 0) = .ok p := by
    rw [hnumber, Request.wire, readRequest_admitted hadm]
    exact ⟨_, rfl⟩
  have hreply : (Request.number 2 (.read ⟨0, 0, 2, 0, 5, 0⟩)).reply (fun _ => 0) (plugThenReply 1) =
      .ok [1, 2, 3, 4, 5] := by
    rw [hnumber, Request.reply, plugThenReply, if_neg Nat.one_ne_zero, readReply_ok,
      accepted_routerReply hadm hadm.fitsWord, payload_routerReply (by rfl)]
    exact ⟨⟨⟨rfl, rfl, rfl, rfl, rfl⟩, rfl⟩, rfl⟩
  obtain ⟨p, hwire⟩ := hwire
  refine linkTransfer_delivers 0 1 plugThenReply [⟨2, false⟩] (run_does plugThenReplyRings [] _)
    (run_honest (fun past q => ?_) _) hwire (by simp [PlugEvent.Known])
    (by decide) (by decide) (by decide) (by decide) (fun i hi => ?_) rfl hreply
  · cases q with
    | rxDone slot left => exact ⟨rfl, rfl, rfl, rfl⟩
    | txDone slot left => exact ⟨rfl, rfl⟩
    | jiffies => exact ⟨le_rfl, Nat.one_pos⟩
    | valid => rfl
    | tx slot frame => rfl
    | connect w => exact trivial
    | msleep ms => exact trivial
    | stop => exact trivial
  · obtain rfl : i = 0 := by simpa using hi
    rfl

end YogaUsb4.Link
