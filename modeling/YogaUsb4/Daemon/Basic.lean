import YogaUsb4.Vc
import YogaUsb4.HostState
import Mathlib.Data.Rat.Defs

/-!
The storage service: its phases and their messages, its exceptions, what it asks of the kernel
and of the desktop, and programs that ask. A kernel is anything that answers; the service
changes its own fields and never the kernel's state other than by asking.
-/

namespace YogaUsb4.Daemon

open HostState

/-! ### Phases -/

inductive Phase
  | starting | unplugToStart | waiting | connecting | replugRequired | connected | releasing
  | ejecting | safeToUnplug | failed | asleep | pulled | replugAfterPull | ejectedForSleep
  deriving DecidableEq, Repr

/-- `MESSAGES`. -/
def Phase.message : Phase → String
  | .starting => "Starting USB4."
  | .unplugToStart => "Unplug the cable from the rear left USB-C port once so USB4 can start."
  | .waiting => "USB4 is ready. Connect a drive to the rear left USB-C port."
  | .connecting => "Connecting the USB4 drive."
  | .replugRequired => "USB4 did not start on this connection. Unplug the cable, wait two " ++
      "seconds, and plug it in again."
  | .connected => "The USB4 drive is connected. Open it in Files, and eject it there before " ++
      "unplugging."
  | .releasing => "Waiting for the system to finish with the USB4 drive. Do not unplug yet."
  | .ejecting => "Finishing with the USB4 drive. Do not unplug yet."
  | .safeToUnplug => "The USB4 drive can be unplugged now."
  | .failed => "USB4 stopped. Restart the laptop to use USB4 again."
  | .asleep => "USB4 is off while the laptop sleeps."
  | .pulled => "The USB4 drive was unplugged without ejecting. Files that were still being " ++
      "written may be incomplete."
  | .replugAfterPull => "Unplug the USB4 drive and plug it in again to use it."
  | .ejectedForSleep => "The USB4 drive was ejected for sleep. Unplug it and plug it in again " ++
      "to use it."

def busyForSleep : String :=
  "The laptop cannot sleep while files on the USB4 drive are open. " ++
    "Close them, or eject the drive in Files."

/-! Time is in seconds on the monotonic clock. -/

def sleepBudget : ℚ := 60

def sleepGrace : ℚ := 120

def refusalReuse : ℚ := 60

/-! ### The kernel's interface -/

/-- The attributes the service reads. -/
inductive Snapshot
  | sessionState | inventoryState | generalState
  | tunnelQuiesceState | hostQuiesceState | powerQuiesceState
  deriving DecidableEq, Repr

inductive Attribute
  | inventoryOnce | endpointRemoveOnce | tunnelQuiesceOnce | hostQuiesceOnce | powerQuiesceOnce
  | pulledRetireOnce | idleRetireOnce | renewSession
  deriving DecidableEq, Repr

def Attribute.text : Attribute → String
  | .inventoryOnce => "inventory_once"
  | .endpointRemoveOnce => "endpoint_remove_once"
  | .tunnelQuiesceOnce => "tunnel_quiesce_once"
  | .hostQuiesceOnce => "host_quiesce_once"
  | .powerQuiesceOnce => "power_quiesce_once"
  | .pulledRetireOnce => "pulled_retire_once"
  | .idleRetireOnce => "idle_retire_once"
  | .renewSession => "renew_session"

inductive Field
  | managed | generation | orientation | pristine | prepared | waiting | complete
  | fullyRetired | platformRetired | platformError | initialEvent | disconnectEvent
  | error | terminal | step | negotiationRearm | negotiationFailures
  | endpointRemoved | endpointRemoveError | attempted
  | idleRetireAttempted | idleRetired | idleRetireError | idleRetireStage
  | pulledRetired | pulledRetireError
  deriving DecidableEq, Repr

def Field.text : Field → String
  | .managed => "managed"
  | .generation => "generation"
  | .orientation => "orientation"
  | .pristine => "pristine"
  | .prepared => "prepared"
  | .waiting => "waiting"
  | .complete => "complete"
  | .fullyRetired => "fully_retired"
  | .platformRetired => "platform_retired"
  | .platformError => "platform_error"
  | .initialEvent => "initial_event"
  | .disconnectEvent => "disconnect_event"
  | .error => "error"
  | .terminal => "terminal"
  | .step => "step"
  | .negotiationRearm => "negotiation_rearm"
  | .negotiationFailures => "negotiation_failures"
  | .endpointRemoved => "endpoint_removed"
  | .endpointRemoveError => "endpoint_remove_error"
  | .attempted => "attempted"
  | .idleRetireAttempted => "idle_retire_attempted"
  | .idleRetired => "idle_retired"
  | .idleRetireError => "idle_retire_error"
  | .idleRetireStage => "idle_retire_stage"
  | .pulledRetired => "pulled_retired"
  | .pulledRetireError => "pulled_retire_error"

/-- A snapshot as it was read: the text of each field that it has. -/
abbrev Fields := Field → Option String

/-- What a call to the kernel may raise. A `crash` is any exception that the service handles
nowhere; a process that is killed while it waits for an answer crashes as well. -/
inductive Fault
  | stop (message : String)
  | osError (errno : Errno) (text : String)
  | valueError (text : String)
  | keyError (key : Field)
  | crash
  deriving DecidableEq

/-- The number of an error on Linux. -/
def errno : Errno → ℕ
  | .eperm => 1
  | .enoent => 2
  | .eio => 5
  | .eagain => 11
  | .enomem => 12
  | .ebusy => 16
  | .exdev => 18
  | .enodev => 19
  | .einval => 22
  | .erange => 34
  | .enolink => 67
  | .eproto => 71
  | .eopnotsupp => 95
  | .enotconn => 107
  | .eshutdown => 108
  | .etimedout => 110
  | .ealready => 114
  | .estale => 116
  | .provider code => code

/-- `str(error)`. -/
def Fault.text : Fault → String
  | .stop m => m
  | .osError n t => "[Errno " ++ toString (errno n) ++ "] " ++ t
  | .valueError t => t
  | .keyError k => "'" ++ k.text ++ "'"
  | .crash => ""

/-- What the code for sleep may raise: the faults, and `Busy`. -/
inductive Exn
  | fault (f : Fault)
  | busy (message : String)
  deriving DecidableEq

/-- `(Stop, OSError, ValueError, KeyError)`. -/
def Fault.handled : Fault → Bool
  | .crash => false
  | _ => true

/-- What the service publishes about itself. -/
structure Status where
  phase : Phase
  generation : ℤ
  disk : Option String
  error : Option String

/-- What the service asks, by the type of the answer. -/
inductive Ask : Type → Type
  | read (name : Snapshot) : Ask Fields
  | store (name : Attribute) (token : String) : Ask Unit
  | disk : Ask (Option String)
  | mounted (disk : Option String) : Ask (List String)
  | mountedDevices (disk : Option String) : Ask (List String)
  | unmount (device : String) : Ask Bool
  | unmountDesktop (point : String) : Ask Bool
  | released (disk : Option String) : Ask Bool
  | settle : Ask Unit
  | clock : Ask ℚ
  | sleep (seconds : ℚ) : Ask Unit
  | parametersOk : Ask Unit
  | installRule : Ask Unit
  | publish (value : Status) : Ask Unit
  | notify (phase : Phase) : Ask Unit
  | notifyText (text : String) : Ask Unit
  | releaseLock : Ask Unit
  | takeLock : Ask Unit

/-- The questions that check what they find: a snapshot that is busy or malformed, a short store
and a wrong option stop the service. -/
@[simp] def Ask.checks : {α : Type} → Ask α → Bool
  | _, .read _ => true
  | _, .store _ _ => true
  | _, .parametersOk => true
  | _, _ => false

def Fault.isStop : Fault → Bool
  | .stop _ => true
  | _ => false

/-- A kernel with its desktop: how it answers, and what Python makes of the texts it hands
out. -/
structure Kernel (κ : Type) where
  answer : {α : Type} → Ask α → κ → Except Fault α × κ
  int : String → Option ℤ
  isdecimal : String → Bool
  stop_checks {α : Type} (q : Ask α) (k : κ) {f : Fault} (h : (answer q k).1 = .error f)
    (hf : f.isStop) : q.checks

/-- A store, or a look at the kernel, at the drive or at the clock, with its answer. -/
inductive Event
  | read (name : Snapshot) (r : Except Fault Fields)
  | store (name : Attribute) (token : String) (r : Except Fault Unit)
  | disk (r : Except Fault (Option String))
  | mounted (disk : Option String) (r : Except Fault (List String))
  | mountedDevices (disk : Option String) (r : Except Fault (List String))
  | unmount (device : String) (r : Except Fault Bool)
  | unmountDesktop (point : String) (r : Except Fault Bool)
  | released (disk : Option String) (r : Except Fault Bool)
  | clock (r : Except Fault ℚ)

@[simp] def Event.isStore : Event → Bool
  | .store .. => true
  | _ => false

@[simp] def Ask.event : {α : Type} → Ask α → Except Fault α → Option Event
  | _, .read n, r => some (.read n r)
  | _, .store n t, r => some (.store n t r)
  | _, .disk, r => some (.disk r)
  | _, .mounted d, r => some (.mounted d r)
  | _, .mountedDevices d, r => some (.mountedDevices d r)
  | _, .unmount d, r => some (.unmount d r)
  | _, .unmountDesktop p, r => some (.unmountDesktop p r)
  | _, .released d, r => some (.released d r)
  | _, .clock, r => some (.clock r)
  | _, .settle, _ => none
  | _, .sleep _, _ => none
  | _, .parametersOk, _ => none
  | _, .installRule, _ => none
  | _, .publish _, _ => none
  | _, .notify _, _ => none
  | _, .notifyText _, _ => none
  | _, .releaseLock, _ => none
  | _, .takeLock, _ => none

/-! ### Programs -/

/-- The fields of `Service`, and the one of its `Router`. -/
structure Service where
  phase : Phase := .starting
  generation : ℤ := 0
  disk : Option String := none
  wasMounted : Bool := false
  error : Option String := none
  idleRetired : Bool := false
  sleeping : Bool := false
  sleepStarted : ℚ := 0
  refusal : Option (String × ℚ) := none
  failures : ℕ := 0

/-- What a sleep request asks for; anything but `'pre'` and `'post'` is unknown. -/
inductive SleepAction
  | pre | post | unknown
  deriving DecidableEq

inductive Op
  | poll
  | eject
  | sleep (action : SleepAction)
  | announce (values : List Bool)

/-- The service and its kernel: its fields, the operation the serve loop is in, the kernel's
state, and the events so far. -/
structure World (κ : Type) where
  service : Service := {}
  op : Op := .poll
  kernel : κ
  log : List Event := []

/-- What a step of the service is: a question that was answered, an assignment to its own
fields, or the end of an operation after which it goes on. -/
inductive Label
  | asked (e : Option Event)
  | own
  | between

variable {κ : Type}

def World.asked (s : World κ) (k : κ) (e : Option Event) : World κ :=
  { s with kernel := k, log := s.log ++ e.toList }

/-- Steps of an operation: a question changes only the kernel and is recorded, an assignment
changes only the service. -/
def Interface (s : World κ) : Label → World κ → Prop
  | .asked e, t => ∃ k, t = s.asked k e
  | .own, t => t.kernel = s.kernel ∧ t.op = s.op ∧ t.log = s.log
  | .between, _ => False

/-- Steps of the serve loop: those of its operations, and the ones from each to the next. -/
def Looping (s : World κ) (l : Label) (t : World κ) : Prop :=
  Interface s l t ∨ (t.service = s.service ∧ t.kernel = s.kernel ∧ t.log = s.log)

/-- Code of the service that raises no `Busy`. -/
abbrev ServiceProg (κ : Type) := Guarded (World κ) Label Fault (@Interface κ)

abbrev SleepProg (κ : Type) := Guarded (World κ) Label Exn (@Interface κ)

abbrev LoopProg (κ : Type) := Guarded (World κ) Label Exn (@Looping κ)

instance : MonadLift (ServiceProg κ) (SleepProg κ) where
  monadLift m := m.mapError .fault

instance : MonadLift (SleepProg κ) (LoopProg κ) where
  monadLift m := m.weaken fun _ _ _ h => .inl h

variable (K : Kernel κ) {ε : Type}

/-- Asks the kernel; its answer is returned, its fault raised. -/
def ask {α : Type} (q : Ask α) : ServiceProg κ α :=
  ⟨fun s =>
      let r := K.answer q s.kernel
      ⟨[(.asked (q.event r.1), s.asked r.2 (q.event r.1))], r.1⟩,
    fun _ => ⟨⟨_, rfl⟩, trivial⟩⟩

def assign (f : Service → Service) : Guarded (World κ) Label ε Interface Unit :=
  ⟨Prog.step .own fun s => { s with service := f s.service },
    Prog.within_step fun _ => ⟨rfl, rfl, rfl⟩⟩

/-- The serve loop comes to its next operation. -/
def begins (op : Op) : LoopProg κ Unit :=
  ⟨Prog.step .own fun s => { s with op := op }, Prog.within_step fun _ => .inr ⟨rfl, rfl, rfl⟩⟩

/-- Marks the end of an operation. -/
def goOn : LoopProg κ Unit :=
  ⟨Prog.step .between id, Prog.within_step fun _ => .inr ⟨rfl, rfl, rfl⟩⟩

def self : Guarded (World κ) Label ε Interface Service := do
  return (← Guarded.get).service

/-- `require`: stops with the message unless `ok`. -/
def require (ok : Bool) (message : String) : ServiceProg κ Unit :=
  if ok then pure () else throw (.stop message)

/-- Runs `m`; an `OSError` goes to `h`, with its number. -/
def onOSError {α : Type} (m : ServiceProg κ α) (h : Errno → Fault → ServiceProg κ α) :
    ServiceProg κ α :=
  tryCatchThe Fault m fun f =>
    match f with
    | .osError n _ => h n f
    | _ => throw f

/-- Runs `m`; what `(Stop, OSError, ValueError, KeyError)` covers goes to `h`. -/
def onFault {α : Type} (m : ServiceProg κ α) (h : Fault → ServiceProg κ α) : ServiceProg κ α :=
  tryCatchThe Fault m fun f => if f.handled then h f else throw f

end YogaUsb4.Daemon
