import YogaUsb4.Daemon.Router

/-!
`Service`: the phase machine over the router's stages, with its three ways in: the poll, the
manual eject and the sleep requests of the hook and of logind. `n` bounds how often a waiting
loop is followed; a loop that is followed no further never returns.
-/

namespace YogaUsb4.Daemon

open HostState

variable {κ : Type} (K : Kernel κ)

def publish (phase : Phase) (notify : Bool) : ServiceProg κ Unit := do
  let changed := phase ≠ (← self).phase
  assign fun s => { s with phase := phase }
  let sv ← self
  ask K (.publish ⟨phase, sv.generation, sv.disk, sv.error⟩)
  if changed ∧ notify then ask K (.notify phase)

def fail (error : Fault) : ServiceProg κ Unit := do
  assign fun s => { s with error := some error.text }
  publish K .failed true

def start : ServiceProg κ Unit := do
  ask K .parametersOk
  ask K .installRule
  publish K .starting false

/-! ### The poll -/

/-- Renews the session. A cable that the kernel still sees ends the attempt with a request to
unplug it; `false` then. -/
def renewOrUnplug (generation : ℤ) : ServiceProg κ Bool :=
  onOSError (do renew K generation; pure true) fun errno e =>
    if errno = .ebusy then do
      publish K .unplugToStart true
      pure false
    else throw e

/-- The session is prepared: from now on the service waits for a drive. -/
def beginWaiting (generation : ℤ) : ServiceProg κ Unit := do
  assign fun s => { s with generation := generation }
  let sv ← self
  publish K .waiting (sv.phase == .unplugToStart)

/-- After a service restart, for example an upgrade. -/
def adoptSession (state : Left) (generation : ℤ) : ServiceProg κ Unit :=
  if state = .retired then do
    if ← renewOrUnplug K generation then
      beginWaiting K (← prepare K generation)
    else pure ()
  else beginWaiting K generation

def freshSession : ServiceProg κ Unit := do
  let old := (← self).generation
  if (← self).idleRetired then
    if ← renewOrUnplug K old then
      assign fun s => { s with idleRetired := false }
      beginWaiting K (← prepare K old)
    else pure ()
  else beginWaiting K (← prepare K old)

/-- The poll of a service without a session, once it knows what was left behind. -/
def stepStartWith : Option (Left × ℤ) → ServiceProg κ Unit
  | some (state, generation) => adoptSession K state generation
  | none => do
    if ← portEmpty K then freshSession K else publish K .unplugToStart true

def stepStart : ServiceProg κ Unit := do
  let adopted ← if (← self).generation = 0 then adopt K else pure none
  stepStartWith K adopted

def connect (n : ℕ) : ServiceProg κ Unit := do
  publish K .connecting false
  if ← routerConnect K n (← self).generation then
    let disk ← ask K .disk
    assign fun s => { s with disk := disk }
    assign fun s => { s with wasMounted := false }
    publish K .connected true
  else publish K .replugRequired true

/-- Ejects the drive and publishes `phase`. -/
def ejectTo (phase : Phase) : ServiceProg κ Unit := do
  publish K .ejecting true
  eject K (← self).generation
  assign fun s => { s with disk := none }
  publish K phase true

/-- Pulled without Eject: retire without touching the drive. -/
def stepPulled : ServiceProg κ Unit := do
  publish K .pulled true
  pulledRetire K (← self).generation
  assign fun s => { s with disk := none }

def stepConnected (status : Connection) : ServiceProg κ Unit := do
  require (status == .connected) ("Unexpected USB4 state while connected: " ++ status.text)
  let points ← ask K (.mounted (← self).disk)
  if !points.isEmpty then
    assign fun s => { s with wasMounted := true }
    if (← self).phase = .releasing then publish K .connected false else pure ()
  else if (← self).wasMounted then
    -- A mount copy in another namespace keeps the filesystem open.
    if ← ask K (.released (← self).disk) then ejectTo K .safeToUnplug
    else publish K .releasing false
  else pure ()

/-- The drive has left a retired session: the next one begins. -/
def stepRenew : ServiceProg κ Unit := do
  let old := (← self).generation
  renew K old
  let generation ← prepare K old
  assign fun s => { s with generation := generation }
  publish K .waiting false

def stepSession (n : ℕ) : ServiceProg κ Unit := do
  let status ← connection K (← self).generation
  let phase := (← self).phase
  if (phase = .connected ∨ phase = .releasing) ∧ status = .empty then stepPulled K
  else if phase = .waiting ∧ status = .ready then connect K n
  else if phase = .replugRequired then
    if status = .empty ∨ status = .ready then publish K .waiting false else pure ()
  else if phase = .connected ∨ phase = .releasing then stepConnected K status
  else if (phase = .pulled ∨ phase = .replugAfterPull) ∧ status = .retiredAttached then
    publish K .replugAfterPull true
  else if (phase = .safeToUnplug ∨ phase = .ejectedForSleep ∨ phase = .pulled ∨
      phase = .replugAfterPull) ∧ status = .disconnected then stepRenew K
  else pure ()

def stepAwake (n : ℕ) : ServiceProg κ Unit := do
  let phase := (← self).phase
  if phase = .starting ∨ phase = .unplugToStart ∨ phase = .asleep then stepStart K
  else stepSession K n

/-- `_step`: nothing may power the router up between the sleep hook and resume. -/
def pollOnce (n : ℕ) : ServiceProg κ Unit := do
  let sv ← self
  if sv.sleeping then
    let now ← ask K .clock
    if now - sv.sleepStarted < sleepGrace then pure ()
    else
      assign fun s => { s with sleeping := false }
      stepAwake K n
  else stepAwake K n

/-- One poll; `false` once the service has failed. -/
def step (n : ℕ) : ServiceProg κ Bool := do
  if (← self).phase = .failed then pure false
  else
    onFault (do pollOnce K n; pure true) fun e => do
      fail K e
      pure false

/-! ### Sleep -/

def unmountAll : List String → SleepProg κ Unit
  | [] => pure ()
  | d :: ds => do
    if ← ask K (.unmount d) then unmountAll ds else throw (.busy busyForSleep)

def unmountDesktopAll : List String → ServiceProg κ Unit
  | [] => pure ()
  | p :: ps => do
    let _ ← ask K (.unmountDesktop p)
    unmountDesktopAll ps

/-- Waits until no namespace held the disk twice in a row. -/
def settleForSleep (deadline : ℚ) : ℕ → ℕ → SleepProg κ Unit
  | 0, _ => throw (.fault .crash)
  | n + 1, settled =>
    if 2 ≤ settled then pure ()
    else do
      let now ← ask K .clock
      if now ≥ deadline then throw (.busy busyForSleep)
      else
        let devices ← ask K (.mountedDevices (← self).disk)
        if !devices.isEmpty then
          unmountAll K devices
          assign fun s => { s with wasMounted := true }
          ask K (.sleep (1 / 2))
          settleForSleep deadline n 0
        else if ← ask K (.released (← self).disk) then
          ask K (.sleep (1 / 2))
          settleForSleep deadline n (settled + 1)
        else
          publish K .releasing false
          ask K (.sleep (1 / 2))
          settleForSleep deadline n 0

/-- `release_for_sleep`, and the phase its caller publishes after it. -/
def releaseForSleep (n : ℕ) (deadline : ℚ) (desktop : Bool) : SleepProg κ Unit := do
  if desktop then
    let points ← ask K (.mounted (← self).disk)
    unmountDesktopAll K points
  settleForSleep K deadline n 0
  ejectTo K .ejectedForSleep

def pauseForSleep (deadline : ℚ) : ServiceProg κ Unit := do
  let now ← ask K .clock
  require (decide (now < deadline)) "USB4 did not power down in time for sleep"
  ask K (.sleep (1 / 2))

/-- The phases in which the router holds nothing: never started, or retired. -/
def Phase.isQuiet : Phase → Bool
  | .starting | .unplugToStart | .safeToUnplug | .ejectedForSleep | .asleep | .pulled
  | .replugAfterPull => true
  | _ => false

/-- The power-down of an idle router; `true` once it is off. -/
def powerDown (n : ℕ) (deadline : ℚ) : ServiceProg κ Bool := do
  if ← idleRetire K (← self).generation then
    assign fun s => { s with idleRetired := true }
    publish K .asleep false
    pure true
  else if (← self).phase = .waiting then
    -- Refused unchanged: a drive is connecting on this router right now.
    if (← connection K (← self).generation) = .ready then
      connect K n
      pure false
    else
      pauseForSleep K deadline
      pure false
  else
    pauseForSleep K deadline
    pure false

/-- The loop of `sleep_pre`. -/
def quietForSleep (n : ℕ) (deadline : ℚ) (desktop : Bool) : ℕ → SleepProg κ Unit
  | 0 => throw (.fault .crash)
  | m + 1 => do
    let phase := (← self).phase
    if phase.isQuiet then pure ()
    else
      (require (phase ≠ .failed) "USB4 had already stopped" : ServiceProg κ Unit)
      if phase = .waiting ∨ phase = .replugRequired then
        if ← powerDown K n deadline then pure () else quietForSleep n deadline desktop m
      else if phase = .connected ∨ phase = .releasing then releaseForSleep K n deadline desktop
      else
        pauseForSleep K deadline
        quietForSleep n deadline desktop m

/-- Before system sleep: leave no router powered, or raise `Busy`. -/
def sleepPre (n : ℕ) (desktop : Bool) : SleepProg κ Unit := do
  let now ← ask K .clock
  quietForSleep K n (now + sleepBudget) desktop n
  assign fun s => { s with sleeping := true }
  let now ← ask K .clock
  assign fun s => { s with sleepStarted := now }

def sleepPost : SleepProg κ Unit :=
  assign fun s => { s with sleeping := false, refusal := none }

/-- The refusal, if it is not too old to answer with. -/
def refusedSince : Option (String × ℚ) → ServiceProg κ (Option String)
  | none => pure none
  | some (message, time) => do
    let now ← ask K .clock
    pure (if now - time < refusalReuse then some message else none)

/-- The refusal of the last announcement still answers the hook. -/
def refusedLately (desktop : Bool) : ServiceProg κ (Option String) := do
  let sv ← self
  if desktop then pure none else refusedSince K sv.refusal

def keepRefusal (desktop : Bool) (message : String) : ServiceProg κ Unit :=
  if desktop then do
    let now ← ask K .clock
    assign fun s => { s with refusal := some (message, now) }
  else pure ()

def sleepOk : SleepProg κ (Bool × String) := do
  pure (true, (← self).phase.message)

def refuse (desktop : Bool) (message : String) : ServiceProg κ (Bool × String) := do
  keepRefusal K desktop message
  ask K (.notifyText message)
  pure (false, message)

def failAnswer (f : Fault) : ServiceProg κ (Bool × String) := do
  fail K f
  pure (false, f.text)

def answerExn (desktop : Bool) : Exn → SleepProg κ (Bool × String)
  | .busy message => refuse K desktop message
  | .fault f => if f.handled then failAnswer K f else throw (.fault f)

/-- A `'pre'` request, unless it was refused lately. -/
def sleepPreUnless (n : ℕ) (desktop : Bool) : Option String → SleepProg κ (Bool × String)
  | some message => pure (false, message)
  | none => do
    sleepPre K n desktop
    sleepOk

/-- Handles one sleep request; returns whether it went through, and a message. -/
def sleepRequest (n : ℕ) (action : SleepAction) (desktop : Bool) :
    SleepProg κ (Bool × String) :=
  match action with
  | .unknown => pure (false, "Unknown sleep action")
  | .pre =>
    tryCatchThe Exn (do
      let refused ← refusedLately K desktop
      sleepPreUnless K n desktop refused) (answerExn K desktop)
  | .post =>
    tryCatchThe Exn (do
      sleepPost
      sleepOk) (answerExn K desktop)

/-! ### The manual eject -/

/-- Manual eject for drives that were never mounted. -/
def ejectNow : ServiceProg κ Unit := do
  let phase := (← self).phase
  require (decide (phase = .connected ∨ phase = .releasing)) "No connected drive to eject"
  let points ← ask K (.mounted (← self).disk)
  require points.isEmpty "Unmount the drive first"
  let free ← ask K (.released (← self).disk)
  require free "The drive is still in use elsewhere"
  ejectTo K .safeToUnplug

end YogaUsb4.Daemon
