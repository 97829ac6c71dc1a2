import YogaUsb4.Threads
import YogaUsb4.HostState

/-!
The control channel of `ctl.c`. Requests and acknowledgements transmit under `request_queue_lock`,
ordinary start and stop and the private stop run under the domain lock, and the retirement and
`tb_ctl_free` under neither. The packets that came from the DMA pool are numbered in the order of
their allocation; the receive packets are the first ones.
-/

namespace YogaUsb4.Ctl

open HostState Steps Threads

/-! ### The channel -/

def rxPkgCount : ℕ := 10

/-- Who releases a ring, the pool or the channel itself. -/
inductive Releaser
  | free | retire
  deriving DecidableEq

/-- What happened on the channel. -/
inductive Mark
  | alloc (id : ℕ)
  | freed (id : ℕ)
  | ringStart
  | ringStop
  | ringFree (by_ : Releaser)
  | poolDestroy (by_ : Releaser)
  /-- `tb_ctl_stop_x1_retained` has set its latch. -/
  | stopAttempted
  /-- It returns after that; `none` is success. -/
  | stopReturned (r : Option Errno)
  /-- What `qcom_usb4_nhi_detach_stopped` answered an admitted retirement. -/
  | detached (r : Option Errno)
  /-- `x1_retired` is set. -/
  | retired
  | shellFree
  deriving DecidableEq

/-- `struct tb_ctl`, its two locks taken or not, and the frames that the transmit ring has. -/
structure Channel where
  domainLock : Bool := false
  mutex : Bool := false
  running : Bool := false
  stopAttempted : Bool := false
  retireAttempted : Bool := false
  retired : Bool := false
  requestQueue : List ℕ := []
  tx : Bool := true
  rx : Bool := true
  framePool : Bool := true
  rxPackets : List ℕ := List.range rxPkgCount
  /-- The shell is there. -/
  shell : Bool := true
  allocated : ℕ := rxPkgCount
  ring : List ℕ := []
  /-- The receipt of the private stop says that it finished. -/
  stopFinished : Bool := false
  history : List Mark := (List.range rxPkgCount).map .alloc
  deriving DecidableEq

@[simp] def Channel.mark (c : Channel) (m : Mark) : Channel := { c with history := m :: c.history }

/-- `tb_ctl_pkg_free`. -/
@[simp] def Channel.pkgFree (c : Channel) (id : ℕ) : Channel := c.mark (.freed id)

/-! ### Transmitters -/

/-- Where a transmitter is: `tb_cfg_request` enqueues first and dequeues in the end, a direct
acknowledgement is only `tb_ctl_tx`. The results are those of `tb_ctl_tx`. -/
inductive TxAt
  | enqueue | enqueueLocked | enqueueUnlock (r : Option Errno)
  | tx
  | txLocked
  /-- The latch was seen clear. -/
  | txAlloc
  | txRing (id : ℕ)
  | txFree (id : ℕ) (e : Errno)
  | txUnlock (r : Option Errno)
  | waiting
  | dequeue (r : Option Errno) | dequeueLocked (r : Option Errno) | dequeueUnlock (r : Option Errno)
  | done (r : Option Errno)
  deriving DecidableEq

/-- `tb_ctl_start`. -/
inductive StartAt
  | entry | locked | ringTx | ringRx | run | unlock | done
  deriving DecidableEq

/-- `tb_ctl_stop`. -/
inductive StopAt
  | entry | locked | lock | clear | unlockMutex | ringRx | ringTx | reset | unlock | done
  deriving DecidableEq

/-- `tb_ctl_stop_x1_retained`, under the domain lock of its caller. -/
inductive StopRetainedAt
  | entry | locked | lock | attempt
  /-- The latch was set before. -/
  | refused
  | unlockMutex (r : Option Errno)
  | flush | nhiStop
  | out (r : Option Errno)
  | unlock (r : Option Errno)
  | done (r : Option Errno)
  deriving DecidableEq

/-- `tb_ctl_retire_x1_stopped`. -/
inductive RetireAt
  | entry | admission
  | refused (e : Errno)
  | unlockMutex
  | detach | ringRx | ringTx | packets | pool | publish
  | done (r : Option Errno)
  deriving DecidableEq

/-- `tb_ctl_free`: the ordinary way, and the one of a channel with the latch set. -/
inductive FreeAt
  | entry
  | ringRx | ringTx
  | packets (i : ℕ)
  | pool | kfree
  | gate | shell
  | done
  deriving DecidableEq

inductive Thread
  /-- `request` is the request of a `tb_cfg_request`, `none` is an acknowledgement. -/
  | transmit (request : Option ℕ) (pt : TxAt)
  | start (pt : StartAt)
  | stop (pt : StopAt)
  | stopRetained (pt : StopRetainedAt)
  | retire (pt : RetireAt)
  | free (pt : FreeAt)
  deriving DecidableEq

/-- What the code does not decide: the answers of arguments and receipts, of allocations, of the
ring and of the NHI. -/
inductive Choice
  | ok
  | fail (e : Errno)
  deriving DecidableEq

def lockMutex (c : Channel) (t : Thread) : Option (Move Channel Thread) :=
  if c.mutex then none else some ⟨{ c with mutex := true }, t, []⟩

def unlockMutex (c : Channel) (t : Thread) : Option (Move Channel Thread) :=
  some ⟨{ c with mutex := false }, t, []⟩

def lockDomain (c : Channel) (t : Thread) : Option (Move Channel Thread) :=
  if c.domainLock then none else some ⟨{ c with domainLock := true }, t, []⟩

def unlockDomain (c : Channel) (t : Thread) : Option (Move Channel Thread) :=
  some ⟨{ c with domainLock := false }, t, []⟩

def txReturn (request : Option ℕ) (r : Option Errno) : TxAt :=
  match request, r with
  | none, r => .done r
  | some _, none => .waiting
  | some _, some e => .dequeue (some e)

/-- `tb_cfg_request` and `tb_ctl_tx`. -/
def ctlTx (c : Channel) (request : Option ℕ) (a : Choice) : TxAt → Option (Move Channel Thread)
  | .enqueue => lockMutex c (.transmit request .enqueueLocked)
  | .enqueueLocked =>
    if c.running then
      some ⟨{ c with requestQueue := c.requestQueue ++ request.toList },
        .transmit request (.enqueueUnlock none), []⟩
    else some ⟨c, .transmit request (.enqueueUnlock (some .enotconn)), []⟩
  | .enqueueUnlock r =>
    unlockMutex c (.transmit request (if r.isSome then .done r else .tx))
  | .tx =>
    match a with
    -- An invalid size is refused before the lock.
    | .fail _ => some ⟨c, .transmit request (txReturn request (some .einval)), []⟩
    | .ok => lockMutex c (.transmit request .txLocked)
  | .txLocked =>
    some ⟨c, .transmit request
      (if c.stopAttempted then .txUnlock (some .eshutdown) else .txAlloc), []⟩
  | .txAlloc =>
    match a with
    | .fail _ => some ⟨c, .transmit request (.txUnlock (some .enomem)), []⟩
    | .ok =>
      some ⟨{ c with allocated := c.allocated + 1 }.mark (.alloc c.allocated),
        .transmit request (.txRing c.allocated), []⟩
  | .txRing id =>
    match a with
    | .fail e => some ⟨c, .transmit request (.txFree id e), []⟩
    | .ok => some ⟨{ c with ring := id :: c.ring }, .transmit request (.txUnlock none), []⟩
  | .txFree id e => some ⟨c.pkgFree id, .transmit request (.txUnlock (some e)), []⟩
  | .txUnlock r => unlockMutex c (.transmit request (txReturn request r))
  | .waiting => some ⟨c, .transmit request (.dequeue none), []⟩
  | .dequeue r => lockMutex c (.transmit request (.dequeueLocked r))
  | .dequeueLocked r =>
    some ⟨{ c with requestQueue := c.requestQueue.diff request.toList },
      .transmit request (.dequeueUnlock r), []⟩
  | .dequeueUnlock r => unlockMutex c (.transmit request (.done r))
  | .done _ => none

/-! ### Ordinary start, stop and free -/

def ctlStart (c : Channel) : StartAt → Option (Move Channel Thread)
  | .entry => lockDomain c (.start .locked)
  | .locked => some ⟨c, .start (if c.stopAttempted then .unlock else .ringTx), []⟩
  | .ringTx => some ⟨c.mark .ringStart, .start .ringRx, []⟩
  | .ringRx => some ⟨c.mark .ringStart, .start .run, []⟩
  | .run => some ⟨{ c with running := true }, .start .unlock, []⟩
  | .unlock => unlockDomain c (.start .done)
  | .done => none

def ctlStop (c : Channel) : StopAt → Option (Move Channel Thread)
  | .entry => lockDomain c (.stop .locked)
  | .locked => some ⟨c, .stop (if c.stopAttempted then .unlock else .lock), []⟩
  | .lock => lockMutex c (.stop .clear)
  | .clear => some ⟨{ c with running := false }, .stop .unlockMutex, []⟩
  | .unlockMutex => unlockMutex c (.stop .ringRx)
  | .ringRx => some ⟨c.mark .ringStop, .stop .ringTx, []⟩
  | .ringTx => some ⟨c.mark .ringStop, .stop .reset, []⟩
  | .reset => some ⟨{ c with requestQueue := [] }, .stop .unlock, []⟩
  | .unlock => unlockDomain c (.stop .done)
  | .done => none

def ctlFree (c : Channel) : FreeAt → Option (Move Channel Thread)
  | .entry => some ⟨c, .free (if c.stopAttempted then .gate else .ringRx), []⟩
  | .gate => some ⟨c, .free (if c.retired then .shell else .done), []⟩
  | .shell => some ⟨{ c with shell := false }.mark .shellFree, .free .done, []⟩
  | .ringRx =>
    if c.rx then some ⟨{ c with rx := false }.mark (.ringFree .free), .free .ringTx, []⟩
    else some ⟨c, .free .ringTx, []⟩
  | .ringTx =>
    if c.tx then some ⟨{ c with tx := false }.mark (.ringFree .free), .free (.packets 0), []⟩
    else some ⟨c, .free (.packets 0), []⟩
  | .packets i =>
    match c.rxPackets[i]? with
    | none => some ⟨c, .free .pool, []⟩
    | some id => some ⟨c.pkgFree id, .free (.packets (i + 1)), []⟩
  | .pool =>
    some ⟨{ c with framePool := false }.mark (.poolDestroy .free), .free .kfree, []⟩
  | .kfree => some ⟨{ c with shell := false }.mark .shellFree, .free .done, []⟩
  | .done => none

/-! ### The private stop and the retirement -/

def ctlStopX1Retained (c : Channel) (a : Choice) : StopRetainedAt → Option (Move Channel Thread)
  | .entry => lockDomain c (.stopRetained .locked)
  | .locked =>
    some ⟨c, .stopRetained (if a ≠ .ok || !c.tx || !c.rx then .unlock (some .einval) else .lock),
      []⟩
  | .lock => lockMutex c (.stopRetained .attempt)
  | .attempt =>
    if c.stopAttempted then some ⟨c, .stopRetained .refused, []⟩
    else
      some ⟨{ c with stopAttempted := true, running := false }.mark .stopAttempted,
        .stopRetained (.unlockMutex
          (if c.running && c.requestQueue.isEmpty then none else some .ebusy)), []⟩
  | .refused => unlockMutex c (.stopRetained (.unlock (some .ealready)))
  | .unlockMutex (some e) => unlockMutex c (.stopRetained (.out (some e)))
  | .unlockMutex none => unlockMutex c (.stopRetained .flush)
  | .flush =>
    -- The flush succeeds when the callback of every frame has run.
    if a = .ok ∧ c.ring = [] then some ⟨c, .stopRetained .nhiStop, []⟩
    else some ⟨c, .stopRetained (.out (some .etimedout)), []⟩
  | .nhiStop =>
    match a with
    | .fail e => some ⟨c, .stopRetained (.out (some e)), []⟩
    | .ok => some ⟨{ c with stopFinished := true }, .stopRetained (.out none), []⟩
  | .out r => some ⟨c.mark (.stopReturned r), .stopRetained (.unlock r), []⟩
  | .unlock r => unlockDomain c (.stopRetained (.done r))
  | .done _ => none

def ctlRetireX1Stopped (c : Channel) (a : Choice) : RetireAt → Option (Move Channel Thread)
  | .entry => lockMutex c (.retire .admission)
  | .admission =>
    if c.retireAttempted then some ⟨c, .retire (.refused .ealready), []⟩
    else if !c.stopAttempted || c.running || !c.requestQueue.isEmpty || !c.tx || !c.rx ||
        !c.framePool || c.rxPackets.length ≠ rxPkgCount then
      some ⟨c, .retire (.refused .eperm), []⟩
    else
      match a with
      | .fail e => some ⟨c, .retire (.refused e), []⟩
      | .ok => some ⟨{ c with retireAttempted := true }, .retire .unlockMutex, []⟩
  | .refused e => unlockMutex c (.retire (.done (some e)))
  | .unlockMutex => unlockMutex c (.retire .detach)
  | .detach =>
    -- The detach succeeds only after a finished stop.
    match a with
    | .fail e => some ⟨c.mark (.detached (some e)), .retire (.done (some e)), []⟩
    | .ok =>
      if c.stopFinished then some ⟨c.mark (.detached none), .retire .ringRx, []⟩
      else some ⟨c.mark (.detached (some .eperm)), .retire (.done (some .eperm)), []⟩
  | .ringRx => some ⟨{ c with rx := false }.mark (.ringFree .retire), .retire .ringTx, []⟩
  | .ringTx => some ⟨{ c with tx := false }.mark (.ringFree .retire), .retire .packets, []⟩
  | .packets =>
    match c.rxPackets with
    | [] => some ⟨c, .retire .pool, []⟩
    | id :: ids => some ⟨{ c with rxPackets := ids }.pkgFree id, .retire .packets, []⟩
  | .pool =>
    some ⟨{ c with framePool := false }.mark (.poolDestroy .retire), .retire .publish, []⟩
  | .publish => some ⟨{ c with retired := true }.mark .retired, .retire (.done none), []⟩
  | .done _ => none

/-! ### Runs -/

def Thread.next (c : Channel) (t : Thread) (a : Choice) : Option (Move Channel Thread) :=
  match t with
  | .transmit request pt => ctlTx c request a pt
  | .start pt => ctlStart c pt
  | .stop pt => ctlStop c pt
  | .stopRetained pt => ctlStopX1Retained c a pt
  | .retire pt => ctlRetireX1Stopped c a pt
  | .free pt => ctlFree c pt

inductive Call
  | request (id : ℕ) | ack | start | stop | stopRetained | retire | free
  deriving DecidableEq

def Call.thread : Call → Thread
  | .request id => .transmit (some id) .enqueue
  | .ack => .transmit none .tx
  | .start => .start .entry
  | .stop => .stop .entry
  | .stopRetained => .stopRetained .entry
  | .retire => .retire .entry
  | .free => .free .entry

inductive Act
  | call (c : Call)
  | thread (i : ℕ) (a : Choice)
  /-- The transmit callback of a frame that the ring has, done or canceled. -/
  | txCallback (id : ℕ)
  deriving DecidableEq

abbrev Sys := Pool Channel Thread

/-- Nothing happens on a channel whose shell is freed. -/
def step (s : Sys) (a : Act) : Sys :=
  if s.shared.shell then
    match a with
    | .call c => { s with threads := s.threads ++ [c.thread] }
    | .thread i a => s.move Thread.next i a
    | .txCallback id =>
      if id ∈ s.shared.ring then
        { s with shared := { s.shared with ring := s.shared.ring.erase id }.pkgFree id }
      else s
  else s

/-- What `tb_ctl_alloc` returns. -/
def start : Sys := ⟨{}, []⟩

end YogaUsb4.Ctl
