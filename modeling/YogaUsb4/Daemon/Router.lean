import YogaUsb4.Daemon.Basic

/-!
`Router`: the managed kernel stages for one generation at a time.
-/

namespace YogaUsb4.Daemon

open HostState

/-! ### Tokens -/

def inventoryToken : String := "inventory any\n"

def idleRetireToken : String := "retire-idle-v1\n"

def pulledRetireToken : String := "retire-pulled-v1\n"

/-- A stage of an eject: what is stored, and the snapshot that must confirm it. -/
structure EjectStage where
  store : Attribute
  token : String
  snapshot : Snapshot
  wanted : List (Field × String)

def endpointStage : EjectStage :=
  ⟨.endpointRemoveOnce, "remove-endpoint-v1\n", .generalState,
    [(.endpointRemoved, "1"), (.endpointRemoveError, "0")]⟩

/-- What a snapshot of one of the three retained stops must show. -/
def stopped : List (Field × String) := [(.attempted, "1"), (.complete, "1"), (.error, "0")]

def tunnelStage : EjectStage :=
  ⟨.tunnelQuiesceOnce, "stop-retain-v1\n", .tunnelQuiesceState, stopped⟩

def hostStage : EjectStage :=
  ⟨.hostQuiesceOnce, "stop-host-retain-v1\n", .hostQuiesceState, stopped⟩

def powerStage : EjectStage :=
  ⟨.powerQuiesceOnce, "stop-power-retain-v1\n", .powerQuiesceState, stopped⟩

/-- `EJECT`. -/
def ejectTable : List EjectStage := [endpointStage, tunnelStage, hostStage, powerStage]

def EjectStage.confirmed (st : EjectStage) (value : Fields) : Bool :=
  st.wanted.all fun w => value w.1 == some w.2

variable {κ : Type} (K : Kernel κ)

/-- `int(value[f])`. -/
def number (value : Fields) (f : Field) : ServiceProg κ ℤ :=
  match value f with
  | none => throw (.keyError f)
  | some t =>
    match K.int t with
    | none => throw (.valueError ("invalid literal for int() with base 10: '" ++ t ++ "'"))
    | some n => pure n

/-! ### Looks at the session -/

def session (generation : Option ℤ) : ServiceProg κ Fields := do
  let value ← ask K (.read .sessionState)
  require (value .managed == some "1") "Router session is not managed"
  require (generation.all fun g => value .generation == some (toString g))
    "Kernel generation changed"
  pure value

/-- Only this router's own connector matters; the other ports are independent. -/
def portEmpty : ServiceProg κ Bool := do
  let value ← session K none
  pure (value .orientation == some "0")

/-- What a stopped service left behind. -/
inductive Left
  | waiting | retired
  deriving DecidableEq

def cleanInventory (inventory : Fields) : Bool :=
  inventory .error == some "0" && inventory .terminal == some "0" &&
    inventory .step == some "connect-once" && inventory .negotiationRearm == some "0" &&
    inventory .negotiationFailures == some "0"

/-- What a stopped service left behind with the port empty. -/
def adopt : ServiceProg κ (Option (Left × ℤ)) := do
  let value ← session K none
  if value .orientation != some "0" || value .pristine == some "1" then pure none
  else if value .fullyRetired == some "1" then
    if value .platformRetired == some "1" && value .platformError == some "0" then do
      let generation ← number K value .generation
      pure (some (.retired, generation))
    else pure none
  else if !(value .prepared == some "1" && value .waiting == some "1" &&
      value .complete == some "0") then pure none
  else do
    let inventory ← ask K (.read .inventoryState)
    if !cleanInventory inventory then pure none
    else do
      let generation ← number K value .generation
      pure (some (.waiting, generation))

inductive Connection
  | disconnected | retiredAttached | abandoned | empty | connected | ready
  deriving DecidableEq

def Connection.text : Connection → String
  | .disconnected => "disconnected"
  | .retiredAttached => "retired-attached"
  | .abandoned => "abandoned"
  | .empty => "empty"
  | .connected => "connected"
  | .ready => "ready"

/-- A cable event after the session began was a detach, as far as its numbers can be read. -/
def detached (value : Fields) : ServiceProg κ Bool := do
  if value .orientation == some "0" then
    let disconnect ← number K value .disconnectEvent
    let initial ← number K value .initialEvent
    pure (decide (disconnect > initial))
  else pure false

def connection (generation : ℤ) : ServiceProg κ Connection := do
  let value ← session K (some generation)
  require (value .platformError == some "0") "Platform retirement failed"
  if value .fullyRetired == some "1" then do
    if ← detached K value then pure .disconnected else pure .retiredAttached
  else do
    let inventory ← ask K (.read .inventoryState)
    require (inventory .error == some "0") "Controller operation failed"
    if inventory .negotiationRearm == some "1" then pure .abandoned
    else if value .orientation == some "0" then pure .empty
    else if value .complete == some "1" then pure .connected
    else pure .ready

/-! ### Stages -/

def prepare (old : ℤ) : ServiceProg κ ℤ := do
  let value ← session K none
  let generation ← number K value .generation
  require (decide (generation > old)) "Generation not fresh"
  require (value .pristine == some "1" && value .orientation == some "0" &&
    value .prepared == some "0" && value .fullyRetired == some "0") "Router not pristine"
  assign fun s => { s with failures := 0 }
  ask K (.store .inventoryOnce inventoryToken)
  let value ← session K (some generation)
  require (value .prepared == some "1" && value .waiting == some "1") "Prepare incomplete"
  pure generation

/-- The kernel counted one more failed negotiation and waits for the next attachment. -/
def rearmed (generation : ℤ) : ServiceProg κ Bool := do
  let value ← session K (some generation)
  let inventory ← ask K (.read .inventoryState)
  let sv ← self
  let failures := (inventory .negotiationFailures).getD ""
  pure (value .waiting == some "1" && value .complete == some "0" &&
    inventory .terminal == some "0" && inventory .error == some "0" &&
    inventory .step == some "connect-once" && K.isdecimal failures &&
    K.int failures == some ((sv.failures : ℤ) + 1))

/-- Waits until the drive is published; `n` bounds the looks that are followed. -/
def awaitDisk (deadline : ℚ) : ℕ → ServiceProg κ Unit
  | 0 => throw .crash
  | n + 1 => do
    let disk ← ask K .disk
    if disk.isSome then pure ()
    else do
      let now ← ask K .clock
      require (decide (now < deadline)) "The drive did not appear"
      ask K (.sleep (1 / 5))
      awaitDisk deadline n

/-- Stores the connect command; `false` after a failed negotiation. -/
def sendConnect (generation : ℤ) : ServiceProg κ Bool :=
  onOSError (do ask K (.store .inventoryOnce inventoryToken); pure true) fun errno e => do
    if errno = .enotconn then
      if ← rearmed K generation then
        assign fun s => { s with failures := s.failures + 1 }
        pure false
      else throw e
    else throw e

/-- `Router.connect`: `false` for `'replug-required'`. -/
def routerConnect (n : ℕ) (generation : ℤ) : ServiceProg κ Bool := do
  if ← sendConnect K generation then
    let value ← session K (some generation)
    require (value .complete == some "1" && value .waiting == some "0") "Connect incomplete"
    let now ← ask K .clock
    awaitDisk K (now + 45) n
    ask K .settle
    pure true
  else pure false

def runEjectStage (st : EjectStage) : ServiceProg κ Unit := do
  ask K (.store st.store st.token)
  let value ← ask K (.read st.snapshot)
  require (st.confirmed value) ("Eject step failed: " ++ st.store.text)

def runEjectStages : List EjectStage → ServiceProg κ Unit
  | [] => pure ()
  | st :: sts => do
    runEjectStage K st
    runEjectStages sts

def requireRetired (generation : ℤ) : ServiceProg κ Unit := do
  let value ← session K (some generation)
  require (value .fullyRetired == some "1" && value .platformRetired == some "1")
    "Router not fully retired"

def eject (generation : ℤ) : ServiceProg κ Unit := do
  runEjectStages K ejectTable
  requireRetired K generation
  let disk ← ask K .disk
  require disk.isNone "The drive is still visible"

def renew (generation : ℤ) : ServiceProg κ Unit :=
  ask K (.store .renewSession (toString generation ++ "\n"))

/-- Retires a connected router whose drive was pulled; nothing touches the drive. -/
def pulledRetire (generation : ℤ) : ServiceProg κ Unit := do
  ask K (.store .pulledRetireOnce pulledRetireToken)
  let state ← ask K (.read .generalState)
  require (state .pulledRetired == some "1" && state .pulledRetireError == some "0")
    "Pulled drive retirement incomplete"
  requireRetired K generation

/-- Stores the power-down; `false` if it was refused unchanged. -/
def sendIdleRetire : ServiceProg κ Bool :=
  onOSError (do ask K (.store .idleRetireOnce idleRetireToken); pure true) fun errno e => do
    let state ← ask K (.read .generalState)
    require (state .idleRetireAttempted == some "0")
      ("USB4 power-down failed at " ++ (state .idleRetireStage).getD "unknown")
    if errno = .ebusy ∨ errno = .eperm then pure false else throw e

/-- Powers down a prepared router with no connection; `false` if refused unchanged. -/
def idleRetire (generation : ℤ) : ServiceProg κ Bool := do
  if ← sendIdleRetire K then
    let state ← ask K (.read .generalState)
    require (state .idleRetired == some "1" && state .idleRetireError == some "0")
      "USB4 power-down incomplete"
    requireRetired K generation
    pure true
  else pure false

end YogaUsb4.Daemon
