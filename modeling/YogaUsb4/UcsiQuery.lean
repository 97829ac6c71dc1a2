import YogaUsb4.Dialog

/-!
One UCSI command: the controller must be idle, the command is written, its completion polled for
and acknowledged, and the acknowledgement polled for. The controller answers as it likes.
-/

namespace YogaUsb4.UcsiQuery

open Dialog

/-! ### The code -/

def UQ_NOTIFY : BitVec 64 := 0x10005
def UQ_NOTIFY_READY : BitVec 64 := 0xdb050005
def UQ_ACK : BitVec 64 := 0x20004
def UQ_ACK_EVENT : BitVec 64 := 0x30004
def UQ_COMPLETE : BitVec 32 := 0x80000000
def UQ_ERROR : BitVec 32 := 0x40000000
def UQ_ACKED : BitVec 32 := 0x20000000
def UQ_BUSY : BitVec 32 := 0x10000000
def UQ_UNSUPPORTED : BitVec 32 := 0x02000000

/-- What the query reads of a `struct yoga_ucsi_sample`. -/
structure Sample where
  version : BitVec 16
  cci : BitVec 32

/-- The callbacks of `struct uq_io`. -/
inductive Call where
  | write (command : BitVec 64)
  | read
  | pause
  | deadline
  deriving DecidableEq

/-- What a callback returns, 0 or a negative error, and the sample that `read` stores. -/
structure Reply where
  ret : ℤ
  sample : Sample
  ret_nonpos : ret ≤ 0

abbrev Query := Dialog Call Reply

def uqAllowed (cmd : BitVec 64) : Bool :=
  cmd = UQ_NOTIFY || cmd = UQ_NOTIFY_READY || cmd = UQ_ACK || cmd = UQ_ACK_EVENT || cmd = 6 ||
    [1, 2, 3].any fun port : BitVec 64 =>
      cmd = (port <<< 16 ||| 7) || cmd = (port <<< 16 ||| 0x11) || cmd = (port <<< 16 ||| 0x12) ||
        cmd = (port <<< 16 ||| 0x0e) ||
        [1, 2].any fun recipient : BitVec 64 => cmd = (port <<< 24 ||| recipient <<< 16 ||| 0x0c)

def uqRead : Query (ℤ × Sample) := do
  let r ← ask .read
  if r.ret ≠ 0 then return (r.ret, r.sample)
  return (if r.sample.version = 0x0120 then 0 else -eprotonosupport, r.sample)

/-- The number of data bytes, and the connector with an event. -/
def dataLength (cci : BitVec 32) : BitVec 32 := (cci >>> 8) &&& 0xff
def connector (cci : BitVec 32) : BitVec 32 := (cci >>> 1) &&& 0x7f

/-- What `uq_poll` makes of a sample: its result, or another round. -/
def pollCheck (ack : Bool) (cci : BitVec 32) : Option ℤ :=
  -- all other fields are invalid while the controller is busy
  if cci &&& UQ_BUSY ≠ 0 then none
  else if cci &&& ~~~(UQ_COMPLETE ||| UQ_ERROR ||| UQ_ACKED ||| UQ_UNSUPPORTED ||| 0xfffe) ≠ 0 then
    some (-eproto)
  else if ack ∧ cci &&& UQ_ACKED ≠ 0 then
    some (if cci &&& ~~~(UQ_ACKED ||| 0xfe) ≠ 0 then -eproto else 0)
  else if ack = false ∧ cci &&& UQ_COMPLETE ≠ 0 then
    some (if cci &&& UQ_ACKED ≠ 0 ∨ dataLength cci > 16 then -eproto else 0)
  else none

/-- The loop of `uq_poll` with `n` rounds left; it leaves the last sample. -/
def uqPollFrom (ack : Bool) : ℕ → Sample → Query (ℤ × Sample)
  | 0, sample => return (-etimedout, sample)
  | n + 1, _ => do
    let (ret, sample) ← uqRead
    if ret ≠ 0 then return (ret, sample)
    match pollCheck ack sample.cci with
    | some ret => return (ret, sample)
    | none =>
      let _ ← ask .pause
      uqPollFrom ack n sample

def uqPoll (ack : Bool) (sample : Sample) : Query (ℤ × Sample) := uqPollFrom ack 50 sample

/-- The result of a command by the sample with its completion. -/
def outcome (event cci : BitVec 32) : ℤ :=
  let result : ℤ := (dataLength cci).toNat
  let result := if cci &&& UQ_UNSUPPORTED ≠ 0 then -eopnotsupp else result
  let result := if cci &&& UQ_ERROR ≠ 0 then -eremoteio else result
  -- only a status of the right size for the pending connector consumes its event
  if event ≠ 0 ∧ result ≥ 0 ∧ (result < 9 ∨ result > 16 ∨ connector cci ≠ event) then -eproto
  else result

/-- The end of `uq_command_kind`: the acknowledgement of the completion in `reply`. -/
def uqAcknowledge (event : BitVec 32) (sample reply : Sample) : Query (ℤ × Sample) := do
  let result := outcome event reply.cci
  let _ ← ask .deadline
  let w ← ask (.write (if event ≠ 0 ∧ result ≥ 0 then UQ_ACK_EVENT else UQ_ACK))
  if w.ret ≠ 0 then return (w.ret, reply)
  let (ret, _) ← uqPoll true sample
  return (if ret ≠ 0 then ret else result, reply)

/-- Its middle: the command and the poll for its completion. -/
def uqSubmit (cmd : BitVec 64) (event : BitVec 32) (sample reply : Sample) :
    Query (ℤ × Sample) := do
  let w ← ask (.write cmd)
  if w.ret ≠ 0 then return (w.ret, reply)
  let (ret, reply) ← uqPoll false reply
  if ret ≠ 0 then return (ret, reply)
  uqAcknowledge event sample reply

/-- The result if the first sample does not admit the command, and 0 if it does. -/
def refusal (event cci : BitVec 32) : ℤ :=
  -- never clear a command left by another owner or an uncertain earlier run
  if cci &&& ~~~(UQ_ACKED ||| 0xfe) ≠ 0 then -ebusy
  else if event ≠ 0 ∧ connector cci ≠ event then -eproto
  else 0

/-- The commands that `uq_command_kind` takes. -/
def accepts (cmd : BitVec 64) (event : BitVec 32) : Bool :=
  (uqAllowed cmd && cmd ≠ UQ_ACK && cmd ≠ UQ_ACK_EVENT) &&
    (event = 0 || (event ≤ 3 && cmd = (event.setWidth 64 <<< 16 ||| 0x12)))

/-- `uq_command_kind`: its result, and what `reply` has in the end. -/
def uqCommandKind (cmd : BitVec 64) (reply : Sample) (event : BitVec 32) : Query (ℤ × Sample) := do
  if accepts cmd event = false then return (-eperm, reply)
  let _ ← ask .deadline
  let (ret, sample) ← uqRead
  if ret ≠ 0 then return (ret, reply)
  if refusal event sample.cci ≠ 0 then return (refusal event sample.cci, reply)
  uqSubmit cmd event sample reply

/-! ### Conversations -/

abbrev Trace := List (Call × Reply)

def write? : Call × Reply → Option (BitVec 64)
  | (.write c, _) => some c
  | _ => none

def read? : Call × Reply → Option Reply
  | (.read, r) => some r
  | _ => none

def writes (tr : Trace) : List (BitVec 64) := tr.filterMap write?
def reads (tr : Trace) : List Reply := tr.filterMap read?

@[simp] lemma writes_append (tr u : Trace) : writes (tr ++ u) = writes tr ++ writes u :=
  List.filterMap_append

@[simp] lemma reads_append (tr u : Trace) : reads (tr ++ u) = reads tr ++ reads u :=
  List.filterMap_append

variable {q : Call} {r : Reply} {tr u : Trace} {c : BitVec 64}

@[simp] lemma writes_nil : writes [] = [] := rfl
@[simp] lemma writes_write : writes ((.write c, r) :: tr) = c :: writes tr := rfl
@[simp] lemma writes_read : writes ((.read, r) :: tr) = writes tr := rfl
@[simp] lemma writes_pause : writes ((.pause, r) :: tr) = writes tr := rfl
@[simp] lemma writes_deadline : writes ((.deadline, r) :: tr) = writes tr := rfl
@[simp] lemma reads_nil : reads [] = [] := rfl
@[simp] lemma reads_write : reads ((.write c, r) :: tr) = reads tr := rfl
@[simp] lemma reads_read : reads ((.read, r) :: tr) = r :: reads tr := rfl
@[simp] lemma reads_pause : reads ((.pause, r) :: tr) = reads tr := rfl
@[simp] lemma reads_deadline : reads ((.deadline, r) :: tr) = reads tr := rfl

/-! ### Reading and polling -/

/-- A sample that `uq_read` accepts. -/
def Reply.Good (r : Reply) : Prop := r.ret = 0 ∧ r.sample.version = 0x0120

def Reply.result (r : Reply) : ℤ :=
  if r.ret ≠ 0 then r.ret else if r.sample.version = 0x0120 then 0 else -eprotonosupport

lemma Reply.result_eq_zero : r.result = 0 ↔ r.Good := by
  unfold Reply.result Reply.Good eprotonosupport
  split
  · simp_all
  · split <;> simp_all

lemma Reply.result_nonpos (r : Reply) : r.result ≤ 0 := by
  unfold Reply.result eprotonosupport
  have := r.ret_nonpos
  split
  · exact this
  · split <;> decide

variable {ret : ℤ} {sample s : Sample} {ack : Bool} {n : ℕ}

lemma does_uqRead (h : Does uqRead tr (ret, s)) :
    ∃ r, tr = [(.read, r)] ∧ ret = r.result ∧ s = r.sample := by
  obtain ⟨r, u, rfl, hend⟩ := does_ask_bind.1 h
  refine ⟨r, ?_⟩
  unfold Reply.result
  split at hend
  · obtain ⟨rfl, heq⟩ := does_pure.1 hend
    obtain ⟨rfl, rfl⟩ := Prod.mk.inj heq
    simp_all
  · obtain ⟨rfl, heq⟩ := does_pure.1 hend
    obtain ⟨rfl, rfl⟩ := Prod.mk.inj heq
    simp_all

/-- What a poll does: it reads and waits, and succeeds with a sample that passed the check. -/
structure Polled (ack : Bool) (n : ℕ) (tr : Trace) (ret : ℤ) (s : Sample) : Prop where
  quiet : writes tr = []
  reads_le : (reads tr).length ≤ n
  ret_nonpos : ret ≤ 0
  passed : ret = 0 → ∃ r, (reads tr).getLast? = some r ∧ r.Good ∧
    pollCheck ack r.sample.cci = some 0 ∧ s = r.sample

lemma pollCheck_nonpos {cci : BitVec 32} (h : pollCheck ack cci = some ret) : ret ≤ 0 := by
  unfold pollCheck eproto at h
  grind

theorem polled_uqPollFrom (h : Does (uqPollFrom ack n sample) tr (ret, s)) :
    Polled ack n tr ret s := by
  induction n generalizing sample tr with
  | zero =>
    obtain ⟨rfl, heq⟩ := does_pure.1 h
    obtain ⟨rfl, rfl⟩ := Prod.mk.inj heq
    exact ⟨rfl, by simp, by decide, by simp [etimedout]⟩
  | succ n ih =>
    obtain ⟨tr₁, ⟨e, s₁⟩, u, rfl, hread, hrest⟩ := does_bind.1 h
    obtain ⟨r, rfl, rfl, rfl⟩ := does_uqRead hread
    dsimp only at hrest
    split at hrest
    · rename_i hfail
      obtain ⟨rfl, heq⟩ := does_pure.1 hrest
      obtain ⟨rfl, rfl⟩ := Prod.mk.inj heq
      exact ⟨rfl, by simp, r.result_nonpos, fun h => absurd h hfail⟩
    · rename_i hok
      rw [not_not, Reply.result_eq_zero] at hok
      split at hrest
      · rename_i e hcheck
        obtain ⟨rfl, heq⟩ := does_pure.1 hrest
        obtain ⟨rfl, rfl⟩ := Prod.mk.inj heq
        exact ⟨rfl, by simp, pollCheck_nonpos hcheck, fun h => ⟨r, by simp, hok, h ▸ hcheck, rfl⟩⟩
      · obtain ⟨a, v, rfl, hrec⟩ := does_ask_bind.1 hrest
        have hp := ih hrec
        refine ⟨by simpa using hp.quiet, by simpa using hp.reads_le, hp.ret_nonpos, fun h => ?_⟩
        obtain ⟨r', hlast, hpassed⟩ := hp.passed h
        exact ⟨r', by simp [List.getLast?_cons, hlast], hpassed⟩

/-! ### A whole command -/

/-- No command is pending, and an event is for its connector. -/
structure Idle (event : BitVec 32) (r : Reply) : Prop where
  good : r.Good
  clear : r.sample.cci &&& ~~~(UQ_ACKED ||| 0xfe) = 0
  event : event ≠ 0 → connector r.sample.cci = event

structure Completed (r : Reply) : Prop where
  good : r.Good
  busy : r.sample.cci &&& UQ_BUSY = 0
  complete : r.sample.cci &&& UQ_COMPLETE ≠ 0

/-- It did so with a status of the right size for the connector. -/
structure Successful (event : BitVec 32) (r : Reply) : Prop where
  error : r.sample.cci &&& UQ_ERROR = 0
  supported : r.sample.cci &&& UQ_UNSUPPORTED = 0
  length : 9 ≤ dataLength r.sample.cci ∧ dataLength r.sample.cci ≤ 16
  connector : connector r.sample.cci = event

structure Confirmed (r : Reply) : Prop where
  good : r.Good
  busy : r.sample.cci &&& UQ_BUSY = 0
  acked : r.sample.cci &&& UQ_ACKED ≠ 0

structure Acknowledges (event : BitVec 32) (r : Reply) (a : BitVec 64) : Prop where
  kind : a = UQ_ACK ∨ a = UQ_ACK_EVENT
  combined : a = UQ_ACK_EVENT ↔ event ≠ 0 ∧ Successful event r

/-- How a command may go: nothing is written, or the command alone, or the command and its
acknowledgement. -/
inductive Course (cmd : BitVec 64) (event : BitVec 32) : Trace → ℤ → Prop
  | unwritten {tr : Trace} {ret : ℤ} (hw : writes tr = []) (hret : ret < 0) :
      Course cmd event tr ret
  | unanswered {pre m : Trace} {r w : Reply} {ret : ℤ} (hpre : writes pre = [])
      (hfirst : (reads pre).head? = some r) (hidle : Idle event r) (hm : writes m = [])
      (hret : ret < 0) : Course cmd event (pre ++ (.write cmd, w) :: m) ret
  | acknowledged {pre m m' : Trace} {r r' w w' : Reply} {a : BitVec 64} {ret : ℤ}
      (hpre : writes pre = []) (hfirst : (reads pre).head? = some r) (hidle : Idle event r)
      (hm : writes m = []) (hlast : (reads m).getLast? = some r') (hdone : Completed r')
      (hack : Acknowledges event r' a) (hm' : writes m' = [])
      (hret : 0 ≤ ret → ∃ r'', (reads m').getLast? = some r'' ∧ Confirmed r'') :
      Course cmd event (pre ++ (.write cmd, w) :: (m ++ (.write a, w') :: m')) ret

lemma pollCheck_complete {cci : BitVec 32} (h : pollCheck false cci = some 0) :
    cci &&& UQ_BUSY = 0 ∧ cci &&& UQ_COMPLETE ≠ 0 := by
  unfold pollCheck eproto at h
  grind

lemma pollCheck_acked {cci : BitVec 32} (h : pollCheck true cci = some 0) :
    cci &&& UQ_BUSY = 0 ∧ cci &&& UQ_ACKED ≠ 0 := by
  unfold pollCheck eproto at h
  grind

lemma outcome_nonneg {event : BitVec 32} (h0 : event ≠ 0) :
    0 ≤ outcome event r.sample.cci ↔ Successful event r := by
  unfold outcome eopnotsupp eproto eremoteio
  by_cases herror : r.sample.cci &&& UQ_ERROR = 0
  · by_cases hsupported : r.sample.cci &&& UQ_UNSUPPORTED = 0
    · simp only [herror, hsupported, ne_eq, not_true_eq_false, if_false, h0, not_false_eq_true,
        true_and]
      split
      · rename_i hbad
        refine iff_of_false (by decide) fun h => ?_
        have := h.connector
        have := h.length
        bv_omega
      · rename_i hgood
        refine iff_of_true (by omega) ⟨herror, hsupported, ?_, ?_⟩
        · bv_omega
        · by_contra hne
          exact hgood ⟨by omega, .inr (.inr hne)⟩
    · refine iff_of_false ?_ fun h => hsupported h.supported
      simp only [herror, hsupported, ne_eq, not_true_eq_false, not_false_eq_true, if_true, if_false]
      split <;> decide
  · refine iff_of_false ?_ fun h => herror h.error
    simp only [herror, ne_eq, not_false_eq_true, if_true]
    split <;> decide

/-- The event is consumed by a successful status for its connector. -/
lemma acknowledges_outcome (event : BitVec 32) (r : Reply) : Acknowledges event r
    (if event ≠ 0 ∧ outcome event r.sample.cci ≥ 0 then UQ_ACK_EVENT else UQ_ACK) := by
  split
  · rename_i h
    exact ⟨.inr rfl, fun _ => ⟨h.1, (outcome_nonneg h.1).1 h.2⟩, fun _ => rfl⟩
  · rename_i h
    refine ⟨.inl rfl, fun h' => absurd h' (by decide), fun h' => ?_⟩
    exact absurd ⟨h'.1, (outcome_nonneg h'.1).2 h'.2⟩ h

variable {cmd : BitVec 64} {event : BitVec 32} {reply : Sample}

/-- What `uq_command_kind` does with any controller. -/
structure Careful (cmd : BitVec 64) (event : BitVec 32) (tr : Trace) (ret : ℤ) : Prop where
  course : Course cmd event tr ret
  allowed : ∀ c ∈ writes tr, uqAllowed c
  reads_le : (reads tr).length ≤ 101

lemma refusal_eq_zero (hr : r.Good) (h : refusal event r.sample.cci = 0) : Idle event r := by
  unfold refusal ebusy eproto at h
  split at h
  · cases h
  · rename_i hclear
    split at h
    · cases h
    · rename_i hevent
      rw [not_and, not_not] at hevent
      exact ⟨hr, not_not.1 hclear, hevent⟩

lemma refusal_nonpos {cci : BitVec 32} : refusal event cci ≤ 0 := by
  unfold refusal ebusy eproto
  split
  · decide
  · split <;> decide

lemma neg_of_nonpos {e : ℤ} (h : e ≤ 0) (hne : e ≠ 0) : e < 0 := by omega

lemma does_uqAcknowledge (h : Does (uqAcknowledge event sample r.sample) tr (ret, s)) :
    ∃ d a w m, tr = (.deadline, d) :: (.write a, w) :: m ∧ Acknowledges event r a ∧ uqAllowed a ∧
      writes m = [] ∧ (reads m).length ≤ 50 ∧
        (0 ≤ ret → ∃ r', (reads m).getLast? = some r' ∧ Confirmed r') := by
  obtain ⟨d, u, rfl, hdue⟩ := does_ask_bind.1 h
  obtain ⟨w, v, rfl, hwritten⟩ := does_ask_bind.1 hdue
  have hallowed : uqAllowed (if event ≠ 0 ∧ outcome event r.sample.cci ≥ 0 then UQ_ACK_EVENT
      else UQ_ACK) := by
    split <;> decide
  refine ⟨d, _, w, v, rfl, acknowledges_outcome event r, hallowed, ?_⟩
  split at hwritten
  · rename_i hfail
    obtain ⟨rfl, heq⟩ := does_pure.1 hwritten
    obtain ⟨rfl, -⟩ := Prod.mk.inj heq
    exact ⟨rfl, by simp, fun h => absurd h (Int.not_le.2 (neg_of_nonpos w.ret_nonpos hfail))⟩
  · obtain ⟨m, ⟨e, s'⟩, x, rfl, hpoll, hend⟩ := does_bind.1 hwritten
    have hp := polled_uqPollFrom hpoll
    obtain ⟨rfl, heq⟩ := does_pure.1 hend
    obtain ⟨hret, -⟩ := Prod.mk.inj heq
    rw [List.append_nil]
    refine ⟨hp.quiet, hp.reads_le, fun h0 => ?_⟩
    have he : e = 0 := by
      by_contra hne
      rw [hret, if_pos hne] at h0
      exact Int.not_le.2 (neg_of_nonpos hp.ret_nonpos hne) h0
    obtain ⟨r', hlast, hgood, hcheck, -⟩ := hp.passed he
    obtain ⟨hbusy, hacked⟩ := pollCheck_acked hcheck
    exact ⟨r', hlast, hgood, hbusy, hacked⟩

lemma does_uqSubmit (h : Does (uqSubmit cmd event sample reply) tr (ret, s)) :
    ∃ w m, writes m = [] ∧ (reads m).length ≤ 50 ∧
      ((tr = (.write cmd, w) :: m ∧ ret < 0) ∨ ∃ r u, tr = (.write cmd, w) :: (m ++ u) ∧
        (reads m).getLast? = some r ∧ Completed r ∧
          Does (uqAcknowledge event sample r.sample) u (ret, s)) := by
  obtain ⟨w, v, rfl, hwritten⟩ := does_ask_bind.1 h
  split at hwritten
  · rename_i hfail
    obtain ⟨rfl, heq⟩ := does_pure.1 hwritten
    obtain ⟨rfl, -⟩ := Prod.mk.inj heq
    exact ⟨w, [], rfl, by simp, .inl ⟨rfl, neg_of_nonpos w.ret_nonpos hfail⟩⟩
  · obtain ⟨m, ⟨e, s'⟩, u, rfl, hpoll, hpolled⟩ := does_bind.1 hwritten
    have hp := polled_uqPollFrom hpoll
    refine ⟨w, m, hp.quiet, hp.reads_le, ?_⟩
    dsimp only at hpolled
    split at hpolled
    · rename_i hfail
      obtain ⟨rfl, heq⟩ := does_pure.1 hpolled
      obtain ⟨rfl, -⟩ := Prod.mk.inj heq
      exact .inl ⟨by rw [List.append_nil], neg_of_nonpos hp.ret_nonpos hfail⟩
    · obtain ⟨r, hlast, hgood, hcheck, rfl⟩ := hp.passed (not_not.1 ‹_›)
      obtain ⟨hbusy, hcomplete⟩ := pollCheck_complete hcheck
      exact .inr ⟨r, u, rfl, hlast, ⟨hgood, hbusy, hcomplete⟩, hpolled⟩

theorem careful_of_does (h : Does (uqCommandKind cmd reply event) tr (ret, s)) :
    Careful cmd event tr ret := by
  unfold uqCommandKind at h
  split at h
  · obtain ⟨rfl, heq⟩ := does_pure.1 h
    obtain ⟨rfl, -⟩ := Prod.mk.inj heq
    exact ⟨.unwritten rfl (by decide), by simp, by simp⟩
  rename_i haccepts
  have hallowed : uqAllowed cmd := by
    simp only [accepts, Bool.not_eq_false, Bool.and_eq_true] at haccepts
    exact haccepts.1.1.1
  obtain ⟨d, u, rfl, hbegun⟩ := does_ask_bind.1 h
  obtain ⟨tr₁, ⟨e, sample⟩, u₁, rfl, hread, hsampled⟩ := does_bind.1 hbegun
  obtain ⟨r, rfl, rfl, rfl⟩ := does_uqRead hread
  dsimp only at hsampled
  split at hsampled
  · rename_i hfail
    obtain ⟨rfl, heq⟩ := does_pure.1 hsampled
    obtain ⟨rfl, -⟩ := Prod.mk.inj heq
    exact ⟨.unwritten rfl (neg_of_nonpos r.result_nonpos hfail), by simp, by simp⟩
  rename_i hgood
  rw [not_not, Reply.result_eq_zero] at hgood
  split at hsampled
  · rename_i hfail
    obtain ⟨rfl, heq⟩ := does_pure.1 hsampled
    obtain ⟨rfl, -⟩ := Prod.mk.inj heq
    exact ⟨.unwritten rfl (neg_of_nonpos refusal_nonpos hfail), by simp, by simp⟩
  -- Only now is anything written: the controller was found idle.
  have hidle : Idle event r := refusal_eq_zero hgood (not_not.1 ‹_›)
  obtain ⟨w, m, hquiet, hreads, ⟨rfl, hret⟩ | ⟨r', u', rfl, hlast, hdone, hacked⟩⟩ :=
    does_uqSubmit hsampled
  · refine ⟨@Course.unanswered _ _ [(.deadline, d), (.read, r)] _ _ _ _ rfl rfl hidle hquiet hret,
      ?_, ?_⟩
    · simpa [hquiet] using hallowed
    · simp
      omega
  · obtain ⟨d', a, w', m', rfl, hack, hallowed', hquiet', hreads', hret⟩ :=
      does_uqAcknowledge hacked
    have hcourse : Course cmd event ([(.deadline, d), (.read, r)] ++ (.write cmd, w) ::
        ((m ++ [(.deadline, d')]) ++ (.write a, w') :: m')) ret :=
      .acknowledged rfl rfl hidle (by simp [hquiet]) (by simpa using hlast) hdone hack hquiet' hret
    refine ⟨by simpa using hcourse, ?_, ?_⟩
    · simpa [hquiet, hquiet'] using ⟨hallowed, hallowed'⟩
    · simp
      omega

/-- Any command, for any event, with a controller that answers by all that was said before. -/
theorem uqCommandKind_careful (cmd : BitVec 64) (event : BitVec 32) (reply : Sample)
    (answer : Trace → Call → Reply) (past : Trace) :
    Careful cmd event ((uqCommandKind cmd reply event).run answer past).1
      ((uqCommandKind cmd reply event).run answer past).2.1 :=
  careful_of_does (run_does answer past _)

/-- A status of nine bytes for connector 1 is acknowledged together with its event, one that names
connector 2 without it. -/
example :
    let controller (done : BitVec 32) : Trace → Call → Reply := fun past _ =>
      ⟨0, ⟨0x0120, match (writes past).length with | 0 => 2 | 1 => done | _ => UQ_ACKED⟩, by decide⟩
    let command (done : BitVec 32) :=
      (uqCommandKind 0x10012 ⟨0, 0⟩ 1).run (controller done) []
    (writes (command (UQ_COMPLETE ||| 0x902)).1 = [0x10012, UQ_ACK_EVENT] ∧
        (command (UQ_COMPLETE ||| 0x902)).2.1 = 9) ∧
      writes (command (UQ_COMPLETE ||| 0x904)).1 = [0x10012, UQ_ACK] ∧
        (command (UQ_COMPLETE ||| 0x904)).2.1 = -eproto := by
  decide +kernel

end YogaUsb4.UcsiQuery
