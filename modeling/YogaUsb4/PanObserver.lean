import YogaUsb4.PanPlan
import YogaUsb4.Steps

/-!
The PAN observer. Packets, service notifications, the worker and the two stores take their turns in
any order; each step is a part of the code that runs under the spinlock, or one call outside of it.
The stores exclude each other by the control lock, and so do two requests by the request lock.
-/

namespace YogaUsb4.PanObserver

open Dialog Wire LittleEndian PanPlan Steps

/-! ### The state -/

/-- Where a request is. It holds the request lock from `sending` on. -/
inductive Request where
  | start
  | sending
  | waiting
  /-- About to end, with this result so far. -/
  | closing (ret : ℤ)
  deriving DecidableEq

/-- Where the worker is, with its local variables. -/
inductive Worker where
  | idle
  | top
  | configuring (index : ℕ) (e : YogaPan)
  | failing (ret : ℤ)
  | requesting (index : ℕ) (e : YogaPan) (q : Request)
  | advancing

/-- Where the store is that holds the control lock. -/
inductive Control where
  | idle
  /-- `observe_store` in its request. -/
  | observing (q : Request)
  /-- In `cancel_work_sync`. -/
  | cancelling
  /-- `link_store` in `x1_diag_link_run`, with the count of its token. -/
  | linking (count : ℕ)

/-- What happened. -/
inductive Note where
  | admitted
  | enable
  | ack (index : ℕ) (port : Byte)
  | configured (index : ℕ)
  /-- A packet with an event arrived, whatever became of it. -/
  | arrived
  /-- The service went away while the observer was active. -/
  | lost
  | attempt (count : ℕ)
  | valid (count : ℕ) (answer : Bool)
  deriving DecidableEq

/-- `struct observer`, where the worker and the store are, and what happened, latest first. -/
structure State where
  events : ℕ → YogaPan
  count : ℕ := 0
  processed : ℕ := 0
  /-- 0 if there is none. -/
  error : ℤ := 0
  serviceUp : Bool := false
  active : Bool := false
  attempted : Bool := false
  awaiting : Bool := false
  linkAttempted : Bool := false
  /-- The completion `ack`, and whether the work is queued. -/
  acked : Bool := false
  pending : Bool := false
  worker : Worker := .idle
  control : Control := .idle
  log : List Note := []

/-- What is decided outside of the observer in a step. -/
structure Outside where
  /-- The providers of the port, in `configure_port`. -/
  answer : List (Call × ℤ) → Call → ℤ
  /-- What `pmic_glink_send` returns. -/
  sent : ℤ
  /-- A request has waited long enough. -/
  timeout : Bool
  /-- `x1_diag_link_run` returns, or else tests its callback. -/
  done : Bool

/-! ### The code -/

def panLimit : ℕ := 32

/-- One part of `request`: the state, and where the request is now or what it returns. -/
def request (x : Outside) (send : Note) (s : State) : Request → State × (Request ⊕ ℤ)
  | .start =>
    if !s.active ∨ !s.serviceUp ∨ s.error ≠ 0 then
      (s, .inr (if s.error ≠ 0 then s.error else -enotconn))
    else ({ s with acked := false, awaiting := true, log := .admitted :: s.log }, .inl .sending)
  | .sending =>
    ({ s with log := send :: s.log }, .inl (if x.sent ≠ 0 then .closing x.sent else .waiting))
  | .waiting =>
    if s.acked then (s, .inl (.closing 0))
    else if x.timeout then (s, .inl (.closing (-etimedout)))
    else (s, .inl .waiting)
  | .closing ret =>
    let ret := if !s.serviceUp then -enotconn else ret
    let ret := if s.error ≠ 0 then s.error else ret
    if ret ≠ 0 then ({ s with awaiting := false, error := ret, active := false }, .inr ret)
    else ({ s with awaiting := false }, .inr 0)

/-- The request lock is taken by the worker, or by a store. -/
def Worker.holds : Worker → Bool
  | .requesting _ _ .start => false
  | .requesting _ _ _ => true
  | _ => false
def Control.holds : Control → Bool
  | .observing .start => false
  | .observing _ => true
  | _ => false

/-- The next part of `worker`, or its start by the work queue. -/
def workerStep (x : Outside) (s : State) : State :=
  match s.worker with
  | .idle => if s.pending then { s with pending := false, worker := .top } else s
  | .top =>
    if !s.active ∨ s.error ≠ 0 ∨ s.processed = s.count then { s with worker := .idle }
    else { s with worker := .configuring s.processed (s.events s.processed) }
  | .configuring index e =>
    let ret := ((configurePort true true e).run x.answer []).2
    if ret ≠ 0 then { s with worker := .failing ret }
    else { s with worker := .requesting index e .start, log := .configured index :: s.log }
  | .failing ret => { s with error := ret, active := false, worker := .idle }
  | .requesting index e q =>
    -- the mutex is taken first
    if q = .start ∧ s.control.holds then s
    else
      match request x (.ack index e.port) s q with
      | (s, .inl q) => { s with worker := .requesting index e q }
      | (s, .inr ret) => { s with worker := if ret ≠ 0 then .idle else .advancing }
  | .advancing => { s with processed := s.processed + 1, worker := .top }

def callback (p : List Byte) (s : State) : State :=
  if p.length < 12 ∨ word (byte p) 0 ≠ 32780 then s
  else
    let opcode := word (byte p) 8
    if opcode = 0x15 ∧ word (byte p) 4 = 1 then
      if s.awaiting ∧ p.length ≤ 64 then { s with acked := true } else s
    else if opcode &&& 0xff ≠ 0x16 then s
    else
      let s := { s with log := .arrived :: s.log }
      if !s.active then s
      else
        let (e, ret) := yogaPanDecode p (s.events s.count)
        if ret ≠ 0 ∨ s.count = panLimit then
          { s with error := if ret ≠ 0 then ret else -enospc, active := false }
        else
          { s with events := Function.update s.events s.count e, count := s.count + 1
                   -- work that is being cancelled is not queued
                   pending := s.pending || match s.control with | .cancelling => false | _ => true }

def pdrNotify (up : Bool) (s : State) : State :=
  if !up ∧ s.active then
    { s with serviceUp := false, error := -enotconn, active := false
             acked := s.acked || s.awaiting, log := .lost :: s.log }
  else { s with serviceUp := up }

/-- `observe_store` up to its request; `complete` is the answer of `x1_diag_nhi_complete`. -/
def observeStore (enable complete : Bool) (s : State) : State :=
  match s.control with
  | .idle =>
    if enable ∧ (!complete ∨ s.attempted ∨ !s.serviceUp) then
      { s with control := .cancelling, pending := false }
    else if enable then { s with attempted := true, active := true, control := .observing .start }
    else { s with active := false, control := .cancelling, pending := false }
  | _ => s

def yogaLinkWord (events : ℕ → YogaPan) (count processed : ℕ) : Except ℤ (BitVec 32) :=
  if count = 0 ∨ 32 < count ∨ count ≠ processed then .error (-eagain)
  else
    match ((List.range count).map events).reverse.find? (·.port = 0) with
    | none => .error (-enotconn)
    | some e =>
      match yogaPlanLocal e with
      | .error _ => .error (-enotconn)
      | .ok p =>
        if e.vid ≠ 0x059f ∨ e.cable ≠ 1 ∨ p.mode ≠ .usb4 ∨
            (p.connectWord ≠ 0x2501 ∧ p.connectWord ≠ 0x2701) then .error (-enotconn)
        else .ok p.connectWord

/-- `link_store` up to the call of `x1_diag_link_run`. -/
def linkStore (s : State) : State :=
  match s.control with
  | .idle =>
    if s.linkAttempted ∨ !s.active ∨ !s.serviceUp ∨ s.error ≠ 0 then s
    else
      let s := { s with linkAttempted := true, log := .attempt s.count :: s.log }
      match yogaLinkWord s.events s.count s.processed with
      | .error _ => s
      | .ok _ => { s with control := .linking s.count }
  | _ => s

def linkValid (s : State) (count : ℕ) : Bool :=
  s.active && s.serviceUp && s.error == 0 && s.count == count && s.count == s.processed

/-- The next part of the store that holds the control lock. -/
def controlStep (x : Outside) (s : State) : State :=
  match s.control with
  | .idle => s
  | .observing q =>
    if q = .start ∧ s.worker.holds then s
    else
      match request x .enable s q with
      | (s, .inl q) => { s with control := .observing q }
      | (s, .inr ret) =>
        if ret ≠ 0 then { s with control := .cancelling, pending := false }
        else { s with control := .idle }
  | .cancelling =>
    match s.worker with
    | .idle => { s with control := .idle }
    | _ => s
  | .linking count =>
    if x.done then { s with control := .idle }
    else { s with log := .valid count (linkValid s count) :: s.log }

inductive Turn where
  | packet (p : List Byte)
  | notify (up : Bool)
  | worker (x : Outside)
  | observe (enable complete : Bool)
  | link
  | control (x : Outside)

def step (s : State) : Turn → State
  | .packet p => callback p s
  | .notify up => pdrNotify up s
  | .worker x => workerStep x s
  | .observe enable complete => observeStore enable complete s
  | .link => linkStore s
  | .control x => controlStep x s

/-! ### Everything a step does -/

/-- What a part of a request does to the state, and where it is then or what it returns. -/
inductive Requested (send : Note) (s : State) : Request → State × (Request ⊕ ℤ) → Prop
  | refused {ret : ℤ} (h : ret ≠ 0) : Requested send s .start (s, .inr ret)
  | admitted (h : s.error = 0) : Requested send s .start
      ({ s with acked := false, awaiting := true, log := .admitted :: s.log }, .inl .sending)
  | sent {q : Request} (h : q = .waiting ∨ ∃ ret, q = .closing ret) :
      Requested send s .sending ({ s with log := send :: s.log }, .inl q)
  | waited {q : Request} (h : q = .waiting ∨ ∃ ret, q = .closing ret) :
      Requested send s .waiting (s, .inl q)
  | failed {ret ret' : ℤ} (h : ret' ≠ 0) : Requested send s (.closing ret)
      ({ s with awaiting := false, error := ret', active := false }, .inr ret')
  | done {ret : ℤ} (h : s.error = 0) (hret : ret = 0) (hup : s.serviceUp = true) :
      Requested send s (.closing ret) ({ s with awaiting := false }, .inr 0)

lemma request_requested (x : Outside) (send : Note) (s : State) (q : Request) :
    Requested send s q (request x send s q) := by
  cases q with
  | start =>
    simp only [request]
    split
    · refine .refused ?_
      split
      · assumption
      · decide
    · rename_i h
      exact .admitted (not_not.1 fun he => h (.inr (.inr he)))
  | sending =>
    refine .sent ?_
    split
    · exact .inr ⟨_, rfl⟩
    · exact .inl rfl
  | waiting =>
    simp only [request]
    split
    · exact .waited (.inr ⟨_, rfl⟩)
    split
    · exact .waited (.inr ⟨_, rfl⟩)
    · exact .waited (.inl rfl)
  | closing ret =>
    simp only [request]
    by_cases he : s.error = 0
    · rw [if_neg (not_not_intro he)]
      -- A service that went down meanwhile is an error as well.
      by_cases hret : (if !s.serviceUp then -enotconn else ret) = 0
      · rw [if_neg (not_not_intro hret)]
        have hup : s.serviceUp = true := by
          refine (Bool.eq_false_or_eq_true _).resolve_right fun hdown => ?_
          simp [hdown, enotconn] at hret
        exact .done he (by simpa [hup] using hret) hup
      · rw [if_pos hret]
        exact .failed hret
    · rw [if_pos he, if_pos he]
      exact .failed he

/-- When something is noted: a request is not admitted while there is an error or another one has
the lock, and `link_valid` is tested by the store in `x1_diag_link_run` only. -/
def Noted (s : State) : Note → Prop
  | .admitted => s.error = 0 ∧ s.worker.holds = false ∧ s.control.holds = false
  | .valid count answer => s.control = .linking count ∧ answer = linkValid s count
  | _ => True

/-- What every step does: it may record an event and set the error, and it notes at most one
thing. -/
structure Grows (s s' : State) : Prop where
  count_le : s.count ≤ s'.count
  limit : s.count ≤ panLimit → s'.count ≤ panLimit
  events_eq : ∀ i < s.count, s'.events i = s.events i
  error_ne : s.error ≠ 0 → s'.error ≠ 0
  log_eq : s'.log = s.log ∨ ∃ n, s'.log = n :: s.log ∧ Noted s n

/-- What others than the worker do: nothing to its part of the state, and no acknowledgement. -/
structure Around (s s' : State) : Prop extends Grows s s' where
  worker_eq : s'.worker = s.worker
  processed_eq : s'.processed = s.processed
  no_ack : ∀ i port, s'.log ≠ .ack i port :: s.log

def State.queue (s : State) : (ℕ → YogaPan) × ℕ := (s.events, s.count)

lemma Grows.of_queue {s s' : State} (h : s'.queue = s.queue) (he : s.error ≠ 0 → s'.error ≠ 0)
    (hlog : s'.log = s.log ∨ ∃ n, s'.log = n :: s.log ∧ Noted s n) :
    Grows s s' := by
  obtain ⟨hevents, hcount⟩ := Prod.mk.inj h
  exact ⟨hcount.ge, fun hle => hcount.le.trans hle, fun i _ => congrFun hevents i, he, hlog⟩

lemma Around.quiet {s s' : State} (h : s'.queue = s.queue) (he : s.error ≠ 0 → s'.error ≠ 0)
    (hw : s'.worker = s.worker) (hp : s'.processed = s.processed) (hlog : s'.log = s.log) :
    Around s s' :=
  ⟨.of_queue h he (.inl hlog), hw, hp, fun _ _ hack => by simp [hlog] at hack⟩

lemma Around.noted {s s' : State} {n : Note} (h : s'.queue = s.queue)
    (he : s.error ≠ 0 → s'.error ≠ 0) (hw : s'.worker = s.worker)
    (hp : s'.processed = s.processed) (hlog : s'.log = n :: s.log)
    (hn : Noted s n) (hack : ∀ i port, n ≠ .ack i port) : Around s s' :=
  ⟨.of_queue h he (.inr ⟨n, hlog, hn⟩), hw, hp, fun i port h =>
    hack i port (List.cons.inj (hlog.symm.trans h)).1⟩

lemma Around.refl (s : State) : Around s s := .quiet rfl id rfl rfl rfl

lemma callback_around (p : List Byte) (s : State) : Around s (callback p s) := by
  unfold callback
  split
  · exact .refl s
  dsimp only
  split
  · split <;> exact .quiet rfl id rfl rfl rfl
  split
  · exact .refl s
  split
  · exact .noted rfl id rfl rfl rfl trivial (by simp)
  generalize yogaPanDecode p (s.events s.count) = r
  split
  · refine .noted rfl (fun _ => ?_) rfl rfl rfl trivial (by simp)
    dsimp only
    split
    · assumption
    · simp [enospc]
  · rename_i hroom
    refine ⟨⟨Nat.le_succ _, fun hle => ?_, fun i hi => ?_, id, .inr ⟨_, rfl, trivial⟩⟩, rfl, rfl,
      by simp⟩
    · have hne : s.count ≠ panLimit := fun h => hroom (.inr h)
      exact Nat.lt_of_le_of_ne hle hne
    · exact Function.update_of_ne (Nat.ne_of_lt hi) _ _

lemma pdrNotify_around (up : Bool) (s : State) : Around s (pdrNotify up s) := by
  unfold pdrNotify
  split
  · exact .noted rfl (fun _ => by simp [enotconn]) rfl rfl rfl trivial (by simp)
  · exact .quiet rfl id rfl rfl rfl

lemma observeStore_around (enable complete : Bool) (s : State) :
    Around s (observeStore enable complete s) := by
  unfold observeStore
  split
  · split
    · exact .quiet rfl id rfl rfl rfl
    split <;> exact .quiet rfl id rfl rfl rfl
  · exact .refl s

lemma linkStore_around (s : State) : Around s (linkStore s) := by
  unfold linkStore
  split
  · split
    · exact .refl s
    dsimp only
    split <;> exact .noted rfl id rfl rfl rfl trivial (by simp)
  · exact .refl s

variable {r : Request ⊕ ℤ} {q : Request}

lemma Requested.around {s s' : State} (h : Requested .enable s q (s', r))
    (hlock : q = .start → s.worker.holds = false ∧ s.control.holds = false) : Around s s' := by
  cases h with
  | refused | waited => exact .refl s
  | admitted he => exact .noted rfl id rfl rfl rfl ⟨he, hlock rfl⟩ (by simp)
  | sent => exact .noted rfl id rfl rfl rfl trivial (by simp)
  | failed hret => exact .quiet rfl (fun _ => hret) rfl rfl rfl
  | done => exact .quiet rfl id rfl rfl rfl

lemma Around.control {s s' : State} (h : Around s s') (c : Control) (b : Bool) :
    Around s { s' with control := c, pending := b } :=
  ⟨⟨h.count_le, h.limit, h.events_eq, h.error_ne, h.log_eq⟩, h.worker_eq, h.processed_eq, h.no_ack⟩

lemma controlStep_around (x : Outside) (s : State) : Around s (controlStep x s) := by
  unfold controlStep
  split
  · exact .refl s
  · rename_i q hq
    split
    · exact .refl s
    rename_i hfree
    have hlock : q = .start → s.worker.holds = false ∧ s.control.holds = false := by
      rintro rfl
      exact ⟨by simpa using hfree, by rw [hq]; rfl⟩
    have hreq := request_requested x .enable s q
    generalize request x .enable s q = r at hreq ⊢
    obtain ⟨s', q' | ret⟩ := r
    · exact (hreq.around hlock).control _ _
    · dsimp only
      split
      · exact (hreq.around hlock).control _ _
      · exact (hreq.around hlock).control _ _
  · split
    · exact (Around.refl s).control _ _
    · exact .refl s
  · split
    · exact (Around.refl s).control _ _
    · exact .noted rfl id rfl rfl rfl ⟨‹_›, rfl⟩ (by simp)

inductive Worked (s : State) : State → Prop
  | same : Worked s s
  | begin (hw : s.worker = .idle) : Worked s { s with pending := false, worker := .top }
  | stop (hw : s.worker = .top) : Worked s { s with worker := .idle }
  | take (hw : s.worker = .top) (he : s.error = 0) (hne : s.processed ≠ s.count) :
      Worked s { s with worker := .configuring s.processed (s.events s.processed) }
  | misconfigured {index : ℕ} {e : YogaPan} {ret : ℤ} (hw : s.worker = .configuring index e)
      (hret : ret ≠ 0) : Worked s { s with worker := .failing ret }
  | configured {index : ℕ} {e : YogaPan} (hw : s.worker = .configuring index e) :
      Worked s { s with worker := .requesting index e .start, log := .configured index :: s.log }
  | failed {ret : ℤ} (hw : s.worker = .failing ret) :
      Worked s { s with error := ret, active := false, worker := .idle }
  | asked {index : ℕ} {e : YogaPan} {q q' : Request} {s' : State}
      (hw : s.worker = .requesting index e q) (hlock : q = .start → s.control.holds = false)
      (h : Requested (.ack index e.port) s q (s', .inl q')) :
      Worked s { s' with worker := .requesting index e q' }
  | returned {index : ℕ} {e : YogaPan} {q : Request} {s' : State} {ret : ℤ}
      (hw : s.worker = .requesting index e q) (hlock : q = .start → s.control.holds = false)
      (h : Requested (.ack index e.port) s q (s', .inr ret)) :
      Worked s { s' with worker := if ret ≠ 0 then .idle else .advancing }
  | advanced (hw : s.worker = .advancing) :
      Worked s { s with processed := s.processed + 1, worker := .top }

lemma workerStep_worked (x : Outside) (s : State) : Worked s (workerStep x s) := by
  unfold workerStep
  split
  · split
    · exact .begin ‹_›
    · exact .same
  · split
    · exact .stop ‹_›
    · rename_i hw hgo
      exact .take hw (not_not.1 fun h => hgo (.inr (.inl h))) fun h => hgo (.inr (.inr h))
  · dsimp only
    split
    · exact .misconfigured ‹_› ‹_›
    · exact .configured ‹_›
  · exact .failed ‹_›
  · rename_i index e q hw
    split
    · exact .same
    rename_i hfree
    have hlock : q = .start → s.control.holds = false := by simpa using hfree
    have hreq := request_requested x (.ack index e.port) s q
    generalize request x (.ack index e.port) s q = r at hreq ⊢
    obtain ⟨s', q' | ret⟩ := r
    · exact .asked hw hlock hreq
    · exact .returned hw hlock hreq
  · exact .advanced ‹_›

/-! ### The acknowledgements -/

/-- The indices that were acknowledged, latest first, and those below a number. -/
def acks (log : List Note) : List ℕ := log.filterMap fun | .ack i _ => some i | _ => none
def down (n : ℕ) : List ℕ := (List.range n).reverse

variable {s s' : State} {n : Note} {log : List Note}

lemma acks_cons_of_ne (h : ∀ i port, n ≠ .ack i port) : acks (n :: log) = acks log := by
  cases n with
  | ack i port => exact absurd rfl (h i port)
  | _ => rfl

lemma acks_cons_ack {i : ℕ} {port : Byte} : acks (.ack i port :: log) = i :: acks log := rfl

lemma down_succ (n : ℕ) : down (n + 1) = n :: down n := by
  simp [down, List.range_succ]

lemma mem_down {i n : ℕ} : i ∈ down n ↔ i < n := by
  simp [down]

lemma mem_acks {i : ℕ} : i ∈ acks log ↔ ∃ port, .ack i port ∈ log := by
  constructor
  · intro h
    obtain ⟨n, hn, hi⟩ := List.mem_filterMap.1 h
    cases n with
    | ack j port =>
      obtain rfl : j = i := Option.some.inj hi
      exact ⟨port, hn⟩
    | _ => cases hi
  · rintro ⟨port, h⟩
    exact List.mem_filterMap.2 ⟨_, h, rfl⟩

/-- Every event that was processed is acknowledged, and one more at most after an error. -/
def Behind (s : State) : Prop :=
  acks s.log = down s.processed ∨ (s.error ≠ 0 ∧ acks s.log = down (s.processed + 1))

/-- The worker has the oldest event that was not processed. -/
def Oldest (s : State) (index : ℕ) (e : YogaPan) : Prop :=
  index = s.processed ∧ index < s.count ∧ e = s.events index

/-- How far the worker is with that event. -/
def Fits (s : State) : Worker → Prop
  | .idle | .top => Behind s
  | .configuring index e => Oldest s index e ∧ Behind s
  | .failing ret => ret ≠ 0 ∧ Behind s
  | .requesting index e .start => Oldest s index e ∧ .configured index ∈ s.log ∧ Behind s
  | .requesting index e .sending =>
    Oldest s index e ∧ .configured index ∈ s.log ∧ acks s.log = down s.processed
  | .requesting index e _ =>
    Oldest s index e ∧ .configured index ∈ s.log ∧ acks s.log = down (s.processed + 1)
  | .advancing => s.processed < s.count ∧ acks s.log = down (s.processed + 1)

structure Inv (s : State) : Prop where
  processed_le : s.processed ≤ s.count
  count_le : s.count ≤ panLimit
  fits : Fits s s.worker

lemma Around.acks_eq (h : Around s s') : acks s'.log = acks s.log := by
  obtain hlog | ⟨n, hlog, -⟩ := h.log_eq
  · rw [hlog]
  · rw [hlog, acks_cons_of_ne fun i port hn => h.no_ack i port (by rw [hlog, hn])]

lemma Grows.mem_log (h : Grows s s') (hn : n ∈ s.log) : n ∈ s'.log := by
  obtain hlog | ⟨m, hlog, -⟩ := h.log_eq
  · rwa [hlog]
  · rw [hlog]
    exact List.mem_cons_of_mem m hn

lemma Around.behind (h : Around s s') (hb : Behind s) : Behind s' := by
  unfold Behind
  rw [h.acks_eq, h.processed_eq]
  exact hb.imp_right fun ⟨he, ha⟩ => ⟨h.error_ne he, ha⟩

variable {index : ℕ} {e : YogaPan}

lemma Around.oldest (h : Around s s') (ho : Oldest s index e) :
    Oldest s' index e := by
  obtain ⟨hindex, hlt, he⟩ := ho
  exact ⟨hindex.trans h.processed_eq.symm, hlt.trans_le h.count_le,
    he.trans (h.events_eq index hlt).symm⟩

lemma Around.fits {w : Worker} (h : Around s s') (hf : Fits s w) : Fits s' w := by
  cases w with
  | idle | top => exact h.behind hf
  | configuring index e => exact ⟨h.oldest hf.1, h.behind hf.2⟩
  | failing ret => exact ⟨hf.1, h.behind hf.2⟩
  | requesting index e q =>
    cases q with
    | start => exact ⟨h.oldest hf.1, h.mem_log hf.2.1, h.behind hf.2.2⟩
    | sending | waiting | closing =>
      refine ⟨h.oldest hf.1, h.mem_log hf.2.1, ?_⟩
      rw [h.acks_eq, h.processed_eq]
      exact hf.2.2
  | advancing =>
    refine ⟨?_, ?_⟩
    · rw [h.processed_eq]
      exact hf.1.trans_le h.count_le
    · rw [h.acks_eq, h.processed_eq]
      exact hf.2

lemma Around.inv (h : Around s s') (hi : Inv s) : Inv s' :=
  ⟨h.processed_eq ▸ hi.processed_le.trans h.count_le, h.limit hi.count_le,
    h.worker_eq ▸ h.fits hi.fits⟩

lemma Requested.fits_asked {q q' : Request}
    (h : Requested (.ack index e.port) s q (s', .inl q')) (hf : Fits s (.requesting index e q)) :
    Fits s' (.requesting index e q') := by
  cases h with
  | admitted he =>
    obtain ⟨ho, hconf, hb⟩ := hf
    refine ⟨ho, List.mem_cons_of_mem _ hconf, ?_⟩
    -- without an error nothing is acknowledged that was not processed
    exact hb.resolve_right fun hr => hr.1 he
  | sent hq =>
    obtain ⟨ho, hconf, hacks⟩ := hf
    have hnew : acks (.ack index e.port :: s.log) = down (s.processed + 1) := by
      rw [acks_cons_ack, hacks, ho.1, down_succ]
    rcases hq with rfl | ⟨ret, rfl⟩ <;>
      exact ⟨ho, List.mem_cons_of_mem _ hconf, hnew⟩
  | waited hq => rcases hq with rfl | ⟨ret, rfl⟩ <;> exact hf

lemma Requested.fits_returned {ret : ℤ}
    (h : Requested (.ack index e.port) s q (s', .inr ret)) (hf : Fits s (.requesting index e q)) :
    Fits s' (if ret ≠ 0 then .idle else .advancing) := by
  cases h with
  | refused hret =>
    rw [if_pos hret]
    exact hf.2.2
  | failed hret =>
    rw [if_pos hret]
    exact .inr ⟨hret, hf.2.2⟩
  | done =>
    rw [if_neg (not_not_intro rfl)]
    exact ⟨hf.1.1 ▸ hf.1.2.1, hf.2.2⟩

lemma fits_worker {w w' : Worker} : Fits { s with worker := w' } w ↔ Fits s w := by
  rcases w with _ | _ | _ | _ | ⟨_, _, _ | _ | _ | _⟩ | _ <;> exact Iff.rfl

lemma Requested.inv_of_fits {send : Note} {w : Worker}
    (h : Requested send s q (s', r)) (hi : Inv s) (hf : Fits s' w) :
    Inv { s' with worker := w } := by
  have hw : Fits { s' with worker := w } w := fits_worker.2 hf
  cases h <;> exact ⟨hi.processed_le, hi.count_le, hw⟩

lemma Worked.inv (h : Worked s s') (hi : Inv s) : Inv s' := by
  -- Each branch knows where the worker was and what fitted there.
  have hf := hi.fits
  cases h with
  | same => exact hi
  | begin hw | stop hw =>
    rw [hw] at hf
    exact ⟨hi.processed_le, hi.count_le, hf⟩
  | take hw he hne =>
    rw [hw] at hf
    exact ⟨hi.processed_le, hi.count_le,
      ⟨rfl, Nat.lt_of_le_of_ne hi.processed_le hne, rfl⟩, hf⟩
  | misconfigured hw hret =>
    rw [hw] at hf
    exact ⟨hi.processed_le, hi.count_le, hret, hf.2⟩
  | configured hw =>
    rw [hw] at hf
    exact ⟨hi.processed_le, hi.count_le, hf.1, List.mem_cons_self, hf.2⟩
  | failed hw =>
    rw [hw] at hf
    exact ⟨hi.processed_le, hi.count_le, hf.2.imp_right fun h => ⟨hf.1, h.2⟩⟩
  | asked hw _ hreq =>
    rw [hw] at hf
    exact hreq.inv_of_fits hi (hreq.fits_asked hf)
  | returned hw _ hreq =>
    rw [hw] at hf
    exact hreq.inv_of_fits hi (hreq.fits_returned hf)
  | advanced hw =>
    rw [hw] at hf
    exact ⟨hf.1, hi.count_le, .inl hf.2⟩

lemma Requested.grows {send : Note} {w : Worker}
    (h : Requested send s q (s', r)) (hsend : Noted s send)
    (hlock : q = .start → s.worker.holds = false ∧ s.control.holds = false) :
    Grows s { s' with worker := w } := by
  cases h with
  | refused | waited => exact .of_queue rfl id (.inl rfl)
  | admitted he => exact .of_queue rfl id (.inr ⟨_, rfl, he, hlock rfl⟩)
  | sent => exact .of_queue rfl id (.inr ⟨_, rfl, hsend⟩)
  | failed hret => exact .of_queue rfl (fun _ => hret) (.inl rfl)
  | done => exact .of_queue rfl id (.inl rfl)

lemma Worked.grows (h : Worked s s') (hi : Inv s) : Grows s s' := by
  cases h with
  | same | begin | stop | take | misconfigured | advanced => exact .of_queue rfl id (.inl rfl)
  | configured => exact .of_queue rfl id (.inr ⟨_, rfl, trivial⟩)
  | failed hw =>
    have hf := hi.fits
    rw [hw] at hf
    exact .of_queue rfl (fun _ => hf.1) (.inl rfl)
  | asked hw hlock hreq | returned hw hlock hreq =>
    exact hreq.grows trivial fun hq => ⟨by rw [hw, hq]; rfl, hlock hq⟩

lemma step_cases (s : State) (t : Turn) : (∃ x, t = .worker x) ∨ Around s (step s t) := by
  cases t with
  | packet p => exact .inr (callback_around p s)
  | notify up => exact .inr (pdrNotify_around up s)
  | worker x => exact .inl ⟨x, rfl⟩
  | observe enable complete => exact .inr (observeStore_around enable complete s)
  | link => exact .inr (linkStore_around s)
  | control x => exact .inr (controlStep_around x s)

lemma step_inv (s : State) (t : Turn) (hi : Inv s) : Inv (step s t) := by
  obtain ⟨x, rfl⟩ | haround := step_cases s t
  · exact (workerStep_worked x s).inv hi
  · exact haround.inv hi

lemma step_grows (t : Turn) (hi : Inv s) : Grows s (step s t) := by
  obtain ⟨x, rfl⟩ | haround := step_cases s t
  · exact (workerStep_worked x s).grows hi
  · exact haround.toGrows

variable {t : Turn}

/-- An acknowledgement is for the oldest event, which is configured and was not acknowledged. -/
lemma step_ack {i : ℕ} {port : Byte} (hi : Inv s) (h : (step s t).log = .ack i port :: s.log) :
    Oldest s i (s.events i) ∧ port = (s.events i).port ∧ .configured i ∈ s.log ∧
      ∀ port', .ack i port' ∉ s.log := by
  obtain ⟨x, rfl⟩ | haround := step_cases s t
  · have hf := hi.fits
    have hworked : Worked s (step s (.worker x)) := workerStep_worked x s
    generalize step s (.worker x) = s' at hworked h
    cases hworked with
    | same | begin | stop | take | misconfigured | failed | advanced => simp at h
    | configured => simp at h
    | asked hw _ hreq =>
      rw [hw] at hf
      cases hreq with
      | admitted | waited => simp at h
      | sent =>
        obtain ⟨rfl, rfl⟩ : _ = i ∧ _ = port := by simpa using h
        obtain ⟨ho, hconf, hacks⟩ := hf
        refine ⟨⟨ho.1, ho.2.1, rfl⟩, by rw [ho.2.2], hconf, fun port' hmem => ?_⟩
        have hlt := mem_down.1 (hacks ▸ mem_acks.2 ⟨port', hmem⟩)
        exact absurd ho.1 (Nat.ne_of_lt hlt)
    | returned hw _ hreq => cases hreq <;> simp at h
  · exact absurd h (haround.no_ack i port)

/-! ### Errors -/

section Requested

variable {send : Note} {q : Request} {r : Request ⊕ ℤ} {x : Outside} {ret : ℤ}

lemma Requested.rest_eq (h : Requested send s q (s', r)) :
    s'.linkAttempted = s.linkAttempted ∧ s'.control = s.control ∧ s'.count = s.count := by
  cases h <;> exact ⟨rfl, rfl, rfl⟩

/-- A call of the request fails: the message is not sent, or nothing answers it in time. -/
def Request.Fails (x : Outside) (s : State) : Request → Prop
  | .sending => x.sent ≠ 0
  | .waiting => s.acked = false ∧ x.timeout = true
  | _ => False

lemma request_of_fails (send : Note) (h : q.Fails x s) :
    ∃ ret, ret ≠ 0 ∧ (request x send s q).2 = .inl (.closing ret) := by
  cases q with
  | start | closing => cases h
  | sending =>
    have h : x.sent ≠ 0 := h
    exact ⟨x.sent, h, by rw [request, if_pos h]⟩
  | waiting => exact ⟨-etimedout, by decide, by simp [request, h.1, h.2]⟩

lemma request_closing (send : Note) (h : ret ≠ 0 ∨ s.serviceUp = false) :
    (request x send s (.closing ret)).1.error ≠ 0 ∧
      ∃ ret', (request x send s (.closing ret)).2 = .inr ret' := by
  have hreq := request_requested x send s (.closing ret)
  generalize request x send s (.closing ret) = r at hreq ⊢
  cases hreq with
  | failed hret => exact ⟨hret, _, rfl⟩
  | done he hret hup =>
    rcases h with h | h
    · exact absurd hret h
    · exact absurd (h.symm.trans hup) Bool.false_ne_true

end Requested

def IsEvent (p : List Byte) : Prop :=
  12 ≤ p.length ∧ word (byte p) 0 = 32780 ∧ word (byte p) 8 &&& 0xff = 0x16

/-- A call of the worker or of the store fails in this step. -/
def Fails (s : State) : Turn → Prop
  | .worker x =>
    match s.worker with
    | .configuring _ e => ((configurePort true true e).run x.answer []).2 ≠ 0
    | .requesting _ _ q => q.Fails x s
    | _ => False
  | .control x =>
    match s.control with
    | .observing q => q.Fails x s
    | _ => False
  | _ => False

/-- An error has to be recorded in this step: the event cannot be, the service is lost, the worker
or the request comes to its end with an error. -/
def Errs (s : State) : Turn → Prop
  | .packet p => s.active = true ∧ IsEvent p ∧
    ((yogaPanDecode p (s.events s.count)).2 ≠ 0 ∨ s.count = panLimit)
  | .notify up => s.active = true ∧ up = false
  | .worker _ =>
    match s.worker with
    | .failing _ => True
    | .requesting _ _ (.closing ret) => ret ≠ 0 ∨ s.serviceUp = false
    | _ => False
  | .control _ =>
    match s.control with
    | .observing (.closing ret) => ret ≠ 0 ∨ s.serviceUp = false
    | _ => False
  | _ => False

/-- There is an error, or who has the request lock is about to record one. -/
inductive Shut (s : State) : Prop
  | error (h : s.error ≠ 0)
  | worker {index : ℕ} {e : YogaPan} {ret : ℤ}
      (h : s.worker = .requesting index e (.closing ret)) (hret : ret ≠ 0)
  | control {ret : ℤ} (h : s.control = .observing (.closing ret)) (hret : ret ≠ 0)

/-- Or the worker, without the lock, is about to record that the port is not configured. -/
def Stopping (s : State) : Prop :=
  Shut s ∨ ∃ ret, ret ≠ 0 ∧ s.worker = .failing ret

lemma workerStep_closing {x : Outside} {ret : ℤ}
    (hw : s.worker = .requesting index e (.closing ret)) (h : ret ≠ 0 ∨ s.serviceUp = false) :
    (workerStep x s).error ≠ 0 := by
  obtain ⟨he, ret', hr⟩ := request_closing (x := x) (.ack index e.port) h
  simp only [workerStep, hw, reduceCtorEq, false_and, if_false]
  generalize request x (.ack index e.port) s (.closing ret) = r at he hr ⊢
  obtain ⟨s', r⟩ := r
  obtain rfl : r = .inr ret' := hr
  exact he

lemma controlStep_closing {x : Outside} {ret : ℤ} (hc : s.control = .observing (.closing ret))
    (h : ret ≠ 0 ∨ s.serviceUp = false) : (controlStep x s).error ≠ 0 := by
  obtain ⟨he, ret', hr⟩ := request_closing (x := x) .enable h
  simp only [controlStep, hc, reduceCtorEq, false_and, if_false]
  generalize request x .enable s (.closing ret) = r at he hr ⊢
  obtain ⟨s', r⟩ := r
  obtain rfl : r = .inr ret' := hr
  dsimp only
  split <;> exact he

lemma callback_error {p : List Byte} (h : Errs s (.packet p)) : (callback p s).error ≠ 0 := by
  obtain ⟨hactive, ⟨hlen, hid, hop⟩, hbad⟩ := h
  have hack : word (byte p) 8 ≠ 0x15 := by
    intro h
    rw [h] at hop
    exact absurd hop (by decide)
  unfold callback
  rw [if_neg (not_or.2 ⟨Nat.not_lt.2 hlen, not_not_intro hid⟩)]
  dsimp only
  rw [if_neg fun h => hack h.1, if_neg (not_not_intro hop), if_neg (by simp [hactive]),
    if_pos hbad]
  dsimp only
  split
  · assumption
  · decide

lemma step_error (hi : Inv s) (h : Errs s t) : (step s t).error ≠ 0 := by
  cases t with
  | packet p => exact callback_error h
  | notify up =>
    obtain ⟨hactive, rfl⟩ := h
    simp [step, pdrNotify, hactive, enotconn]
  | worker x =>
    rw [Errs] at h
    split at h
    · rename_i ret hw
      have hf := hi.fits
      rw [hw] at hf
      simpa [step, workerStep, hw] using hf.1
    · exact workerStep_closing ‹_› h
    · cases h
  | control x =>
    rw [Errs] at h
    split at h
    · exact controlStep_closing ‹_› h
    · cases h
  | observe | link => cases h

lemma step_of_fails (h : Fails s t) : Stopping (step s t) := by
  cases t with
  | worker x =>
    rw [Fails] at h
    split at h
    · rename_i hw
      exact .inr ⟨_, h, by simp [step, workerStep, hw, h]⟩
    · rename_i index e q hw
      have hq : q ≠ .start := fun hq => by simp [hq, Request.Fails] at h
      obtain ⟨ret, hret, hr⟩ := request_of_fails (.ack index e.port) h
      refine .inl (@Shut.worker _ index e ret ?_ hret)
      simp only [step, workerStep, hw, hq, false_and, if_false]
      generalize request x (.ack index e.port) s q = r at hr ⊢
      obtain ⟨s', r⟩ := r
      obtain rfl : r = .inl (.closing ret) := hr
      rfl
    · cases h
  | control x =>
    rw [Fails] at h
    split at h
    · rename_i q hc
      have hq : q ≠ .start := fun hq => by simp [hq, Request.Fails] at h
      obtain ⟨ret, hret, hr⟩ := request_of_fails .enable h
      refine .inl (.control ?_ hret)
      simp only [step, controlStep, hc, hq, false_and, if_false]
      generalize request x .enable s q = r at hr ⊢
      obtain ⟨s', r⟩ := r
      obtain rfl : r = .inl (.closing ret) := hr
      rfl
    · cases h
  | packet | notify | observe | link => cases h

/-! ### Later -/

/-- What holds from one state of a run to any later one. -/
structure Later (s s' : State) : Prop where
  count_le : s.count ≤ s'.count
  events_eq : ∀ i < s.count, s'.events i = s.events i
  error_ne : s.error ≠ 0 → s'.error ≠ 0
  shut : Shut s → Shut s'
  stopping : Stopping s → Stopping s'
  /-- With an error no request is admitted. -/
  refused : Shut s → s'.log.count .admitted = s.log.count .admitted

lemma Worked.control_eq (h : Worked s s') : s'.control = s.control := by
  cases h with
  | asked _ _ hreq | returned _ _ hreq => exact hreq.rest_eq.2.1
  | _ => rfl

lemma step_control (hc : s.control ≠ .idle) (ht : ∀ x, t ≠ .control x) :
    (step s t).control = s.control := by
  cases t with
  | packet p =>
    simp only [step, callback]
    split
    · rfl
    split
    · split <;> rfl
    split
    · rfl
    split
    · rfl
    split <;> rfl
  | notify up =>
    simp only [step, pdrNotify]
    split <;> rfl
  | worker x => exact (workerStep_worked x s).control_eq
  | observe enable complete =>
    simp only [step, observeStore]
  | link => simp only [step, linkStore]
  | control x => exact absurd rfl (ht x)

lemma step_shut (hi : Inv s) (h : Shut s) : Shut (step s t) := by
  cases h with
  | error he => exact .error ((step_grows t hi).error_ne he)
  | worker hw hret =>
    obtain ⟨x, rfl⟩ | haround := step_cases s t
    · exact .error (workerStep_closing hw (.inl hret))
    · exact .worker (haround.worker_eq.trans hw) hret
  | control hc hret =>
    by_cases ht : ∃ x, t = .control x
    · obtain ⟨x, rfl⟩ := ht
      exact .error (controlStep_closing hc (.inl hret))
    · refine .control ((step_control ?_ fun x hx => ht ⟨x, hx⟩).trans hc) hret
      rw [hc]
      nofun

lemma step_stopping (hi : Inv s) (h : Stopping s) : Stopping (step s t) := by
  rcases h with h | ⟨ret, hret, hw⟩
  · exact .inl (step_shut hi h)
  · obtain ⟨x, rfl⟩ | haround := step_cases s t
    · exact .inl (.error (step_error hi (by rw [Errs, hw]; trivial)))
    · exact .inr ⟨ret, hret, haround.worker_eq.trans hw⟩

lemma Shut.not_noted (h : Shut s) : ¬ Noted s .admitted := by
  rintro ⟨he, hw, hc⟩
  cases h with
  | error h => exact h he
  | worker h => simp [h, Worker.holds] at hw
  | control h => simp [h, Control.holds] at hc

lemma step_later (t : Turn) (hi : Inv s) : Later s (step s t) := by
  have hg := step_grows t hi
  refine ⟨hg.count_le, hg.events_eq, hg.error_ne, step_shut hi, step_stopping hi, fun h => ?_⟩
  obtain hlog | ⟨n, hlog, hn⟩ := hg.log_eq
  · rw [hlog]
  · rw [hlog, List.count_cons_of_ne]
    rintro rfl
    exact h.not_noted hn

lemma Later.trans {s'' : State} (h : Later s s') (h' : Later s' s'') : Later s s'' :=
  ⟨h.count_le.trans h'.count_le,
    fun i hi => (h'.events_eq i (hi.trans_le h.count_le)).trans (h.events_eq i hi),
    fun he => h'.error_ne (h.error_ne he), fun hs => h'.shut (h.shut hs),
    fun hs => h'.stopping (h.stopping hs),
    fun hs => (h'.refused (h.shut hs)).trans (h.refused hs)⟩

lemma run_later (ts : List Turn) (hi : Inv s) : Later s (run step s ts) := by
  induction ts generalizing s with
  | nil => exact ⟨le_rfl, fun _ _ => rfl, id, id, id, fun _ => rfl⟩
  | cons t ts ih => exact (step_later t hi).trans (ih (step_inv s t hi))

/-! ### The link -/

/-- How many attempts were made, and how many events have arrived since the last one. -/
def attempts (log : List Note) : ℕ := (log.filter fun | .attempt _ => true | _ => false).length
def arrivedSince : List Note → ℕ
  | [] => 0
  | .attempt _ :: _ => 0
  | .arrived :: log => arrivedSince log + 1
  | _ :: log => arrivedSince log

def Note.plain : Note → Bool
  | .attempt _ | .arrived => false
  | _ => true

lemma attempts_cons_of_plain (h : n.plain = true) : attempts (n :: log) = attempts log := by
  cases n <;> first | rfl | cases h

lemma arrivedSince_cons_of_plain (h : n.plain = true) :
    arrivedSince (n :: log) = arrivedSince log := by
  cases n <;> first | rfl | cases h

structure LinkInv (s : State) : Prop where
  unattempted : s.linkAttempted = false → attempts s.log = 0
  attempts_le : attempts s.log ≤ 1
  /-- While the link runs, the events that have arrived since are those that were recorded. -/
  linking : ∀ c, s.control = .linking c → .attempt c ∈ s.log ∧
    (s.active = true → s.error = 0 → s.count = c + arrivedSince s.log)

/-- What a step does to what a running link relies on, unless it starts one. -/
structure Beside (s s' : State) : Prop where
  attempted_eq : s'.linkAttempted = s.linkAttempted
  attempts_eq : attempts s'.log = attempts s.log
  linking : ∀ c, s'.control = .linking c → s.control = .linking c
  counted : s.control = s'.control → s'.active = true → s'.error = 0 →
    s.active = true ∧ s.error = 0 ∧ s'.count + arrivedSince s.log = s.count + arrivedSince s'.log

lemma Beside.inv (h : Beside s s') (hg : Grows s s') (hi : LinkInv s) : LinkInv s' := by
  refine ⟨fun ha => ?_, h.attempts_eq ▸ hi.attempts_le, fun c hc => ?_⟩
  · rw [h.attempts_eq]
    exact hi.unattempted (h.attempted_eq ▸ ha)
  · have hlink := h.linking c hc
    obtain ⟨hmem, hcount⟩ := hi.linking c hlink
    refine ⟨hg.mem_log hmem, fun hactive he => ?_⟩
    obtain ⟨ha, he, heq⟩ := h.counted (hlink.trans hc.symm) hactive he
    have := hcount ha he
    omega

lemma Beside.plain (ha : s'.linkAttempted = s.linkAttempted)
    (hlink : ∀ c, s'.control = .linking c → s.control = .linking c)
    (hlive : s.control = s'.control → s'.active = true → s'.error = 0 →
      s.active = true ∧ s.error = 0)
    (hcount : s'.count = s.count)
    (hlog : s'.log = s.log ∨ ∃ n, s'.log = n :: s.log ∧ n.plain = true) : Beside s s' := by
  obtain hlog | ⟨n, hlog, hn⟩ := hlog
  · refine ⟨ha, by rw [hlog], hlink, fun hc hactive he => ?_⟩
    exact ⟨(hlive hc hactive he).1, (hlive hc hactive he).2, by rw [hlog, hcount]⟩
  · refine ⟨ha, by rw [hlog, attempts_cons_of_plain hn], hlink, fun hc hactive he => ?_⟩
    exact ⟨(hlive hc hactive he).1, (hlive hc hactive he).2,
      by rw [hlog, hcount, arrivedSince_cons_of_plain hn]⟩

lemma Beside.refl (s : State) : Beside s s :=
  .plain rfl (fun _ => id) (fun _ ha he => ⟨ha, he⟩) rfl (.inl rfl)

lemma callback_beside (p : List Byte) (s : State) : Beside s (callback p s) := by
  unfold callback
  split
  · exact .refl s
  dsimp only
  split
  · split <;> exact .plain rfl (fun _ => id) (fun _ ha he => ⟨ha, he⟩) rfl (.inl rfl)
  split
  · exact .refl s
  split
  · rename_i hidle
    have hidle : s.active = false := by simpa using hidle
    exact ⟨rfl, rfl, fun _ => id, fun _ ha => absurd (hidle.symm.trans ha) Bool.false_ne_true⟩
  · rename_i hactive
    generalize yogaPanDecode p (s.events s.count) = r
    split
    · exact ⟨rfl, rfl, fun _ => id, fun _ ha => absurd ha Bool.false_ne_true⟩
    · refine ⟨rfl, rfl, fun _ => id, fun _ ha he => ⟨ha, he, ?_⟩⟩
      -- the event was recorded
      exact Nat.succ_add _ _

lemma pdrNotify_beside (up : Bool) (s : State) : Beside s (pdrNotify up s) := by
  unfold pdrNotify
  split
  · exact .plain rfl (fun _ => id) (fun _ ha => absurd ha Bool.false_ne_true) rfl
      (.inr ⟨_, rfl, rfl⟩)
  · exact .plain rfl (fun _ => id) (fun _ ha he => ⟨ha, he⟩) rfl (.inl rfl)

lemma observeStore_beside (enable complete : Bool) (s : State) :
    Beside s (observeStore enable complete s) := by
  unfold observeStore
  split
  · rename_i hidle
    have hne : ∀ {c : Control}, c ≠ .idle → s.control ≠ c := fun hc h => hc (h.symm.trans hidle)
    split
    · exact .plain rfl nofun (fun h => absurd h (hne nofun)) rfl (.inl rfl)
    split <;> exact .plain rfl nofun (fun h => absurd h (hne nofun)) rfl (.inl rfl)
  · exact .refl s

section Requested

variable {send : Note} {q : Request} {r : Request ⊕ ℤ} (h : Requested send s q (s', r))
include h

lemma Requested.live : s'.active = true → s'.error = 0 → s.active = true ∧ s.error = 0 := by
  cases h with
  | failed => exact fun ha => absurd ha Bool.false_ne_true
  | _ => exact fun ha he => ⟨ha, he⟩

lemma Requested.log_plain (hsend : send.plain = true) :
    s'.log = s.log ∨ ∃ n, s'.log = n :: s.log ∧ n.plain = true := by
  cases h with
  | admitted => exact .inr ⟨_, rfl, rfl⟩
  | sent => exact .inr ⟨_, rfl, hsend⟩
  | _ => exact .inl rfl

lemma Requested.beside_worker (hsend : send.plain = true) (w : Worker) :
    Beside s { s' with worker := w } := by
  obtain ⟨ha, hc, hcount⟩ := h.rest_eq
  exact .plain ha (fun c hlink => hc.symm.trans hlink) (fun _ => h.live) hcount (h.log_plain hsend)

lemma Requested.beside_control (hsend : send.plain = true) {c : Control}
    (hc : ∀ n, c ≠ .linking n) (b : Bool) : Beside s { s' with control := c, pending := b } := by
  obtain ⟨ha, -, hcount⟩ := h.rest_eq
  exact .plain ha (fun n hlink => absurd hlink (hc n)) (fun _ => h.live) hcount
    (h.log_plain hsend)

end Requested

lemma Worked.beside (h : Worked s s') : Beside s s' := by
  cases h with
  | failed =>
    exact .plain rfl (fun _ => id) (fun _ ha => absurd ha Bool.false_ne_true) rfl (.inl rfl)
  | configured =>
    exact .plain rfl (fun _ => id) (fun _ ha he => ⟨ha, he⟩) rfl (.inr ⟨_, rfl, rfl⟩)
  | asked hw _ hreq | returned hw _ hreq => exact hreq.beside_worker rfl _
  | _ => exact .plain rfl (fun _ => id) (fun _ ha he => ⟨ha, he⟩) rfl (.inl rfl)

lemma controlStep_beside (x : Outside) (s : State) : Beside s (controlStep x s) := by
  have hidle : ∀ {s : State}, Beside s { s with control := .idle } :=
    .plain rfl nofun (fun _ ha he => ⟨ha, he⟩) rfl (.inl rfl)
  unfold controlStep
  split
  · exact .refl s
  · rename_i q hq
    split
    · exact .refl s
    have hreq := request_requested x .enable s q
    generalize request x .enable s q = r at hreq ⊢
    obtain ⟨s', q' | ret⟩ := r
    · exact hreq.beside_control rfl (by simp) _
    · dsimp only
      split
      · exact hreq.beside_control rfl (by simp) _
      · exact hreq.beside_control rfl (by simp) _
  · split
    · exact hidle
    · exact .refl s
  · split
    · exact hidle
    · exact .plain rfl (fun _ => id) (fun _ ha he => ⟨ha, he⟩) rfl (.inr ⟨_, rfl, rfl⟩)

lemma linkStore_inv (hi : LinkInv s) : LinkInv (linkStore s) := by
  unfold linkStore
  split
  · split
    · exact hi
    · rename_i hidle hgo
      have hfirst : attempts s.log = 0 := by
        refine hi.unattempted (Bool.eq_false_iff.2 fun h => hgo (.inl h))
      have hone : attempts (.attempt s.count :: s.log) = 1 := congrArg Nat.succ hfirst
      dsimp only
      split
      · refine ⟨nofun, hone.le, fun c hc => ?_⟩
        cases hidle.symm.trans hc
      · refine ⟨nofun, hone.le, fun c hc => ?_⟩
        obtain rfl : s.count = c := Control.linking.inj hc
        exact ⟨List.mem_cons_self, fun _ _ => rfl⟩
  · exact hi

lemma step_linkInv (t : Turn) (hi : Inv s) (hl : LinkInv s) : LinkInv (step s t) := by
  have hg := step_grows t hi
  cases t with
  | packet p => exact (callback_beside p s).inv hg hl
  | notify up => exact (pdrNotify_beside up s).inv hg hl
  | worker x => exact (workerStep_worked x s).beside.inv hg hl
  | observe enable complete => exact (observeStore_beside enable complete s).inv hg hl
  | link => exact linkStore_inv hl
  | control x => exact (controlStep_beside x s).inv hg hl

lemma Fits.acks_eq {w : Worker} (hf : Fits s w) :
    acks s.log = down s.processed ∨ acks s.log = down (s.processed + 1) := by
  rcases w with _ | _ | _ | _ | ⟨_, _, _ | _ | _ | _⟩ | _
  · exact hf.imp_right And.right
  · exact hf.imp_right And.right
  · exact hf.2.imp_right And.right
  · exact hf.2.imp_right And.right
  · exact hf.2.2.imp_right And.right
  · exact .inl hf.2.2
  · exact .inr hf.2.2
  · exact .inr hf.2.2
  · exact .inr hf.2

lemma Inv.exists_ack {i : ℕ} (hi : Inv s) (h : i < s.processed) : ∃ port, .ack i port ∈ s.log := by
  rw [← mem_acks]
  rcases hi.fits.acks_eq with hacks | hacks <;> rw [hacks, mem_down]
  · exact h
  · exact h.trans (Nat.lt_succ_self _)

/-- The link's test is true only with the events of the attempt, and all of them acknowledged. -/
lemma step_valid {c : ℕ} (hi : Inv s) (hl : LinkInv s)
    (h : (step s t).log = .valid c true :: s.log) :
    s.count = c ∧ .attempt c ∈ s.log ∧ arrivedSince s.log = 0 ∧
      ∀ i < c, ∃ port, .ack i port ∈ s.log := by
  obtain hlog | ⟨n, hlog, hn⟩ := (step_grows t hi).log_eq
  · simp [hlog] at h
  obtain rfl : n = .valid c true := (List.cons.inj (hlog.symm.trans h)).1
  obtain ⟨hc, hvalid⟩ := hn
  obtain ⟨⟨⟨⟨hactive, -⟩, he⟩, hcount⟩, hprocessed⟩ :
      (((s.active = true ∧ s.serviceUp = true) ∧ s.error = 0) ∧ s.count = c) ∧
        s.count = s.processed := by
    simpa [linkValid] using hvalid.symm
  obtain ⟨hattempt, hsince⟩ := hl.linking c hc
  refine ⟨hcount, hattempt, ?_, fun i hlt => ?_⟩
  · have := hsince hactive he
    omega
  · exact hi.exists_ack (hprocessed ▸ hcount ▸ hlt)

/-! ### Every run -/

/-- What holds in every state that the observer reaches. -/
structure Kept (s : State) : Prop where
  processed_le : s.processed ≤ s.count
  count_le : s.count ≤ 32
  /-- At most one thing is noted in a step. -/
  one_note : ∀ t, (step s t).log = s.log ∨ ∃ n, (step s t).log = n :: s.log
  /-- An acknowledgement is for the oldest event that was not processed, which is configured and was
  not acknowledged before. -/
  ack : ∀ t i port, (step s t).log = .ack i port :: s.log → i = s.processed ∧ i < s.count ∧
    port = (s.events i).port ∧ .configured i ∈ s.log ∧ ∀ port', .ack i port' ∉ s.log
  errs : ∀ t, Errs s t → (step s t).error ≠ 0
  fails : ∀ t, Fails s t → Stopping (step s t)
  attempts_le : attempts s.log ≤ 1
  /-- `link_valid` is true only with the events that the attempt counted: none has arrived since,
  and all of them are acknowledged. -/
  valid : ∀ t c, (step s t).log = .valid c true :: s.log → s.count = c ∧ .attempt c ∈ s.log ∧
    arrivedSince s.log = 0 ∧ ∀ i < c, ∃ port, .ack i port ∈ s.log

lemma kept_of_inv (hi : Inv s) (hl : LinkInv s) : Kept s where
  processed_le := hi.processed_le
  count_le := hi.count_le
  one_note t := (step_grows t hi).log_eq.imp_right fun ⟨n, hn, _⟩ => ⟨n, hn⟩
  ack t i port h := by
    obtain ⟨⟨hindex, hlt, -⟩, hport, hconf, honce⟩ := step_ack hi h
    exact ⟨hindex, hlt, hport, hconf, honce⟩
  errs t h := step_error hi h
  fails t h := step_of_fails h
  attempts_le := hl.attempts_le
  valid t c h := step_valid hi hl h

/-- In every run, whatever arrives in whatever order: every state is as `Kept` says, and from any of
them to a later one recorded events stay, an error shuts the observer for good, and so does one that
is still to be recorded as soon as it is. -/
theorem observer_kept (events : ℕ → YogaPan) (before after : List Turn) :
    let s := run step { events := events } before
    Kept s ∧ Later s (run step s after) := by
  intro s
  have hinv : Inv s ∧ LinkInv s := by
    refine run_invariant (I := fun s => Inv s ∧ LinkInv s) (fun s t h => ?_) before ⟨?_, ?_⟩
    · exact ⟨step_inv s t h.1, step_linkInv t h.1 h.2⟩
    · exact ⟨le_rfl, Nat.zero_le _, .inl rfl⟩
    · exact ⟨fun _ => rfl, Nat.zero_le _, nofun⟩
  exact ⟨kept_of_inv hinv.1 hinv.2, run_later after hinv.1⟩

/-- A packet of the service with this opcode, and one event of port 1. -/
def packet (kind opcode : Byte) : List Byte :=
  [0x0c, 0x80, 0, 0, kind, 0, 0, 0, opcode, 0, 0, 0, 1] ++ List.replicate 19 0

-- the observer is enabled, an event of another port is recorded, acknowledged and processed
example :
    let x : Outside := ⟨fun _ _ => 0, 0, false, false⟩
    let s := run step { events := fun _ => ⟨0, 0, 0, fun _ => 0, 0, 0, 0⟩ }
      [.notify true, .observe true true, .control x, .control x, .packet (packet 1 0x15),
        .control x, .control x, .packet (packet 2 0x16), .worker x, .worker x, .worker x,
        .worker x, .worker x, .packet (packet 1 0x15), .worker x, .worker x, .worker x]
    (s.count, s.processed, s.error, s.log) =
      (1, 1, 0, [.ack 0 1, .admitted, .configured 0, .arrived, .enable, .admitted]) := by
  decide +kernel

end YogaUsb4.PanObserver
