import YogaUsb4.Threads
import YogaUsb4.HostState

/-!
Thunderbolt events against the retained hold. `tb_handle_event` runs without the domain lock: it
counts itself in `x1_pending_events`, records the event in `x1_generation`, and only then tests
`x1_retained`. The hold, which has the lock, reads the counter, takes the generation, publishes
the flag and reads both again. Every atomic operation is a step of its own, and the steps of any
number of callbacks and workers fall between those of the one caller that has the lock.
-/

namespace YogaUsb4.Events

open HostState Steps Threads

/-! ### The domain -/

/-- `enum tb_cfg_error`, as far as `tb_handle_notification` tells its values apart. -/
inductive CfgError
  | pcieWake | dpConChange | dptxDiscovery | dpBw | other
  deriving DecidableEq

/-- The packet of a callback: `TB_CFG_PKG_ERROR`, `TB_CFG_PKG_EVENT`, or any other type. -/
inductive Pkg
  | error (e : CfgError)
  | event
  | other
  deriving DecidableEq

/-- The work item of a `tb_hotplug_event`. -/
inductive Work
  | hotplug | bandwidth
  deriving DecidableEq

/-- What made `tb_x1_invalidate_pcie` count: a packet, Type-C, or a mutation that
`tb_x1_retained_block` refused. -/
inductive Record
  | packet (p : Pkg)
  | typec
  | blocked
  deriving DecidableEq

/-- The calls that the frontend makes with the domain lock held. -/
inductive Call
  | hold | stop | stopPulled | stopped | freeze
  deriving DecidableEq

/-- A `tb_x1_retained_check`, by the statement that calls it. -/
inductive Site
  | first | second | third
  | admission | live | last
  | stopped
  deriving DecidableEq

/-- What happened, as far as the callers are promised something about it. -/
inductive Mark
  /-- An acknowledgement, on the control channel. -/
  | ack
  | queue (w : Work)
  /-- A worker changes topology or tunnels. -/
  | change
  | recorded (r : Record)
  /-- The hold reads the generation. -/
  | snapshot
  /-- A check reads the generation for the last time and passes. -/
  | matched (site : Site)
  /-- A call returns; `none` is success. -/
  | returned (c : Call) (r : Option Errno)
  deriving DecidableEq

inductive CheckAt
  | generation | pending | identity | generationAgain
  deriving DecidableEq

inductive CallerAt
  /-- It does not have the domain lock. -/
  | outside
  | locked
  | holdPending | holdSnapshot | holdPublish | holdReady | holdFinish
  | check (site : Site) (at_ : CheckAt)
  | portState (up : Bool)
  | stopActive | deactivating | stopFinish
  | stoppedFinish
  | freezePending | freezePublish | freezeReady
  deriving DecidableEq

/-- What the callbacks, the workers and the caller share. `history` has the latest mark first. -/
structure Domain where
  pending : ℤ := 0
  generation : ℕ := 0
  retained : Bool := false
  hotplugActive : Bool := false
  locked : Bool := false
  holdAttempted : Bool := false
  holdReady : Bool := false
  retainedGeneration : ℕ := 0
  stopAttempted : Bool := false
  stopComplete : Bool := false
  idleFrozen : Bool := false
  caller : CallerAt := .outside
  history : List Mark := []
  deriving DecidableEq

@[simp] def Domain.mark (d : Domain) (m : Mark) : Domain := { d with history := m :: d.history }

@[simp] def Domain.invalidatePcie (d : Domain) (r : Record) : Domain :=
  { d with generation := d.generation + 1 }.mark (.recorded r)

@[simp] def Domain.eventPending (d : Domain) (queued : Bool) : Domain :=
  { d with pending := if queued then d.pending + 1 else d.pending - 1 }

/-! ### Callbacks and workers -/

/-- Where `tb_handle_event` is, by what it has done. -/
inductive CallbackAt
  | entered
  /-- It has counted itself. -/
  | counted
  | recorded
  /-- It has seen the flag clear. -/
  | admitted
  | acked (w : Work)
  /-- It has counted the work item and not queued it. -/
  | accounted (w : Work)
  | leaving
  | done
  deriving DecidableEq

/-- Where `tb_handle_hotplug` or `tb_handle_dp_bandwidth_request` is. -/
inductive WorkerAt
  | queued
  | started
  | locked
  /-- It has seen the flag set and not recorded that. -/
  | blocked
  | unblocked
  | running
  /-- It is at `tb_scan_port`, which tests the flag again. -/
  | scanning
  | scanBlocked
  /-- It is at a `tb_queue_hotplug` or `tb_queue_dp_bandwidth_request` of its own. -/
  | queueing
  | accounted
  | unlocking
  | unlocked
  | unregistering
  | leaving
  | done
  deriving DecidableEq

inductive Thread
  | callback (p : Pkg) (pt : CallbackAt)
  | worker (w : Work) (pt : WorkerAt)
  deriving DecidableEq

/-- What the code does not decide: whether an allocation fails, and what a worker finds to do. -/
inductive Choice
  | go
  | noMemory
  | change
  | again
  deriving DecidableEq

/-- `tb_handle_notification` and the switch of `tb_handle_event`: what is acknowledged, and the
work that is queued then. -/
def Pkg.acked : Pkg → Option (Option Work)
  | .error .pcieWake | .error .dpConChange | .error .dptxDiscovery => some none
  | .error .dpBw => some (some .bandwidth)
  | .error .other => none
  | .event => some (some .hotplug)
  | .other => none

/-- `tb_handle_event`. -/
def handleEvent (d : Domain) (p : Pkg) (c : Choice) : CallbackAt → Option (Move Domain Thread)
  | .entered => some ⟨d.eventPending true, .callback p .counted, []⟩
  | .counted =>
    some ⟨if p = .other then d else d.invalidatePcie (.packet p), .callback p .recorded, []⟩
  | .recorded => some ⟨d, .callback p (if d.retained then .leaving else .admitted), []⟩
  | .admitted =>
    match p.acked with
    | none => some ⟨d, .callback p .leaving, []⟩
    | some none => some ⟨d.mark .ack, .callback p .leaving, []⟩
    | some (some w) => some ⟨d.mark .ack, .callback p (.acked w), []⟩
  | .acked w =>
    if c = .noMemory then some ⟨d, .callback p .leaving, []⟩
    else some ⟨d.eventPending true, .callback p (.accounted w), []⟩
  | .accounted w => some ⟨d.mark (.queue w), .callback p .leaving, [.worker w .queued]⟩
  | .leaving => some ⟨d.eventPending false, .callback p .done, []⟩
  | .done => none

/-- `tb_handle_hotplug` and `tb_handle_dp_bandwidth_request`. They differ in what makes them queue
a further item, and in the XDomains that the first unregisters after the lock. -/
def handleWork (d : Domain) (w : Work) (c : Choice) : WorkerAt → Option (Move Domain Thread)
  | .queued => some ⟨d, .worker w .started, []⟩
  | .started =>
    if d.locked then none else some ⟨{ d with locked := true }, .worker w .locked, []⟩
  | .locked => some ⟨d, .worker w (if d.retained then .blocked else .unblocked), []⟩
  | .blocked => some ⟨d.invalidatePcie .blocked, .worker w .unlocking, []⟩
  | .unblocked => some ⟨d, .worker w (if d.hotplugActive then .running else .unlocking), []⟩
  | .running =>
    match c, w with
    | .change, _ => some ⟨d.mark .change, .worker w .running, []⟩
    | .again, .hotplug => some ⟨d, .worker w .scanning, []⟩
    | .again, .bandwidth => some ⟨d, .worker w .queueing, []⟩
    | _, _ => some ⟨d, .worker w .unlocking, []⟩
  | .scanning => some ⟨d, .worker w (if d.retained then .scanBlocked else .queueing), []⟩
  | .scanBlocked => some ⟨d.invalidatePcie .blocked, .worker w .running, []⟩
  | .queueing =>
    if c = .noMemory then some ⟨d, .worker w .running, []⟩
    else some ⟨d.eventPending true, .worker w .accounted, []⟩
  | .accounted => some ⟨d.mark (.queue w), .worker w .running, [.worker w .queued]⟩
  | .unlocking =>
    some ⟨{ d with locked := false },
      .worker w (if w = .hotplug then .unlocked else .leaving), []⟩
  | .unlocked => some ⟨d, .worker w (if d.retained then .leaving else .unregistering), []⟩
  | .unregistering => some ⟨d.mark .change, .worker w .leaving, []⟩
  | .leaving => some ⟨d.eventPending false, .worker w .done, []⟩
  | .done => none

def Thread.next (d : Domain) (t : Thread) (c : Choice) : Option (Move Domain Thread) :=
  match t with
  | .callback p pt => handleEvent d p c pt
  | .worker w pt => handleWork d w c pt

/-! ### The caller -/

/-- What the caller does next. The answers are those of the checks outside this model: owner,
approval, pinned identities, topology, port registers and the tunnel's own state. -/
inductive Ask
  | lock
  | unlock
  | hold (owner approved : Option Errno)
  | stop (owner : Option Errno) (pristine : Bool)
  | stopPulled (owner : Option Errno) (pristine : Bool) (pinned : Option Errno)
  | stopped
  /-- `used`: the domain was approved before, or its retirement attempted. -/
  | freeze (owner : Option Errno) (used : Bool)
  /-- The next statement of the call. -/
  | go (answer : Option Errno)
  /-- The tunnel's deactivation calls `check_live`. -/
  | live
  deriving DecidableEq

@[simp] def Domain.ret (d : Domain) (c : Call) (r : Option Errno) : Domain :=
  { d with caller := .locked }.mark (.returned c r)

def Domain.checkFailed (d : Domain) (e : Errno) : Site → Domain
  | .first | .second | .third => { d with holdReady := false }.ret .hold (some e)
  | .admission | .last => d.ret .stop (some e)
  | .live => { d with caller := .deactivating }
  | .stopped => d.ret .stopped (some e)

def Domain.checkPassed (d : Domain) : Site → Domain
  | .first => { d with caller := .portState true }
  | .second => { d with caller := .portState false }
  | .third => { d with caller := .holdFinish }
  | .admission => { d with caller := .stopActive }
  | .live => { d with caller := .deactivating }
  | .last => { d with caller := .stopFinish }
  | .stopped => { d with caller := .stoppedFinish }

/-- `tb_x1_retained_check`. -/
def Domain.retainedCheck (d : Domain) (site : Site) (answer : Option Errno) : CheckAt → Domain
  | .generation =>
    if !d.retained || !d.holdAttempted || !d.holdReady || answer.isSome ||
        d.generation != d.retainedGeneration then
      d.checkFailed .estale site
    else { d with caller := .check site .pending }
  | .pending =>
    if d.pending ≠ 0 then d.checkFailed .estale site
    else { d with caller := .check site .identity }
  | .identity =>
    match answer with
    | some e => d.checkFailed e site
    | none => { d with caller := .check site .generationAgain }
  | .generationAgain =>
    if d.generation = d.retainedGeneration then (d.mark (.matched site)).checkPassed site
    else d.checkFailed .estale site

/-- `tb_x1_hold_pcie` up to its read of the counter. -/
def Domain.holdPcie (d : Domain) (owner approved : Option Errno) : Domain :=
  match owner with
  | some e => d.ret .hold (some e)
  | none =>
    if d.holdAttempted || d.retained then d.ret .hold (some .ealready)
    else match approved with
      | some e => d.ret .hold (some e)
      | none => { d with caller := .holdPending }

/-- `tb_x1_stop_pcie_retained` up to its first check. -/
def Domain.stopPcieRetained (d : Domain) (owner : Option Errno) (pristine : Bool) : Domain :=
  match owner with
  | some e => d.ret .stop (some e)
  | none =>
    if d.stopAttempted then d.ret .stop (some .ealready)
    else if !pristine then d.ret .stop (some .einval)
    else { d with stopAttempted := true, caller := .check .admission .generation }

/-- `tb_x1_stop_pcie_pulled`, which has no generation to compare. -/
def Domain.stopPciePulled (d : Domain) (owner : Option Errno) (pristine : Bool)
    (pinned : Option Errno) : Domain :=
  match owner with
  | some e => d.ret .stopPulled (some e)
  | none =>
    if d.stopAttempted then d.ret .stopPulled (some .ealready)
    else if !pristine then d.ret .stopPulled (some .einval)
    else
      let d := { d with stopAttempted := true }
      if !d.retained || !d.holdAttempted || !d.holdReady then d.ret .stopPulled (some .enodev)
      else match pinned with
        | some e => d.ret .stopPulled (some e)
        | none => { d with stopComplete := true }.ret .stopPulled none

/-- `tb_x1_idle_freeze` up to its read of the counter. -/
def Domain.idleFreeze (d : Domain) (owner : Option Errno) (used : Bool) : Domain :=
  match owner with
  | some e => d.ret .freeze (some e)
  | none =>
    if d.retained || d.idleFrozen || d.holdAttempted || used then d.ret .freeze (some .ealready)
    else { d with caller := .freezePending }

/-- The statements of a call after its first ones. -/
def Domain.goOn (d : Domain) (answer : Option Errno) : Domain :=
  match d.caller with
  | .holdPending =>
    if d.pending ≠ 0 then d.ret .hold (some .ebusy) else { d with caller := .holdSnapshot }
  | .holdSnapshot =>
    -- The pins and the generation are plain stores that only the lock's owner reads.
    { d with
      holdAttempted := true
      retainedGeneration := d.generation
      caller := .holdPublish }.mark .snapshot
  | .holdPublish => { d with retained := true, caller := .holdReady }
  | .holdReady =>
    { d with hotplugActive := false, holdReady := true, caller := .check .first .generation }
  | .holdFinish => d.ret .hold none
  | .check site pt => d.retainedCheck site answer pt
  | .portState up =>
    match answer with
    | some e => { d with holdReady := false }.ret .hold (some e)
    | none => { d with caller := .check (if up then .second else .third) .generation }
  | .stopActive =>
    if answer.isSome then d.ret .stop (some .eio) else { d with caller := .deactivating }
  | .deactivating =>
    match answer with
    | some e => d.ret .stop (some e)
    | none => { d with caller := .check .last .generation }
  | .stopFinish =>
    if answer.isSome then d.ret .stop (some .eio)
    else { d with stopComplete := true }.ret .stop none
  | .stoppedFinish =>
    if !d.stopAttempted || !d.stopComplete || answer.isSome then d.ret .stopped (some .ebusy)
    else d.ret .stopped none
  | .freezePending =>
    if answer.isSome || d.pending ≠ 0 then d.ret .freeze (some .ebusy)
    else { d with caller := .freezePublish }
  | .freezePublish => { d with idleFrozen := true, retained := true, caller := .freezeReady }
  | .freezeReady => { d with hotplugActive := false }.ret .freeze none
  | .outside | .locked => d

def Domain.ask (d : Domain) : Ask → Domain
  | .lock =>
    if d.caller = .outside ∧ d.locked = false then { d with locked := true, caller := .locked }
    else d
  | .unlock =>
    if d.caller = .locked then { d with locked := false, caller := .outside } else d
  | .hold owner approved => if d.caller = .locked then d.holdPcie owner approved else d
  | .stop owner pristine => if d.caller = .locked then d.stopPcieRetained owner pristine else d
  | .stopPulled owner pristine pinned =>
    if d.caller = .locked then d.stopPciePulled owner pristine pinned else d
  | .stopped =>
    if d.caller = .locked then { d with caller := .check .stopped .generation } else d
  | .freeze owner used => if d.caller = .locked then d.idleFreeze owner used else d
  | .go answer => d.goOn answer
  | .live =>
    if d.caller = .deactivating then { d with caller := .check .live .generation } else d

/-! ### Runs -/

inductive Act
  /-- The control channel calls `tb_handle_event`. -/
  | arrive (p : Pkg)
  | thread (i : ℕ) (c : Choice)
  /-- Type-C calls `tb_x1_invalidate_pcie`. -/
  | invalidate
  /-- Suspend, resume, freeze and thaw, under the lock. -/
  | setActive (active : Bool)
  | caller (q : Ask)
  deriving DecidableEq

abbrev Sys := Pool Domain Thread

def step (s : Sys) : Act → Sys
  | .arrive p => { s with threads := s.threads ++ [.callback p .entered] }
  | .thread i c => s.move Thread.next i c
  | .invalidate => { s with shared := s.shared.invalidatePcie .typec }
  | .setActive active =>
    if s.shared.locked then s
    else if s.shared.retained then { s with shared := s.shared.invalidatePcie .blocked }
    else { s with shared := { s.shared with hotplugActive := active } }
  | .caller q => { s with shared := s.shared.ask q }

/-- The domain as `tb_probe` leaves it. -/
def start : Sys := ⟨{}, []⟩

end YogaUsb4.Events
