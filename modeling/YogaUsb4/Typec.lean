import YogaUsb4.HostState

/-!
The Type-C side of the driver: the orientation switch and mux callbacks, the connect command
they may send to the router's MCU, and what else happens on its own around the operations
(connection-manager events, PCI configuration accesses).

A callback runs in two parts. The first takes only the port's event lock: it records the
event, pins the published session and invalidates a held tunnel. The second waits for the
session's lock, which an operation may hold.
-/

namespace YogaUsb4.Typec

open HostState

variable (mp : Params)

/-! ### The connect command -/

structure QcomUsb4PanConnect where
  mode : ℕ
  orientation : ℕ
  cableType : ℕ
  cableSpeed : ℕ
  rounded : ℕ
  boardRetimer : ℕ

def qcomUsb4TypecConnectCommand (pan : QcomUsb4PanConnect) : Except Errno ℕ :=
  if pan.mode > 1 ∨ pan.orientation > 1 ∨ pan.rounded > 1 ∨ pan.boardRetimer > 1 then
    .error .einval
  else if pan.cableType > 1 ∨ pan.cableSpeed > 1 then
    .error .eopnotsupp
  else
    let cableClass :=
      if pan.cableType = 1 then if pan.mode = 0 ∧ pan.rounded = 0 then 3 else 1 else 0
    .ok (1 ||| pan.mode <<< 8 ||| pan.orientation <<< 9 ||| pan.boardRetimer <<< 10 |||
      cableClass <<< 11 ||| pan.cableSpeed <<< 13)

/-- `EUDO_USB_MODE_USB4`, and the two cable speeds the encoder knows. -/
def eudoUsb4 : ℕ := 2
def eudoSpeedGen2 : ℕ := 2
def eudoSpeedGen3 : ℕ := 3

def qcomUsb4TypecUsb4Command (data : EnterUsbData) (orientation : Orientation)
    (boardRetimer : ℕ) : Except Errno ℕ := do
  if data.usbMode ≠ eudoUsb4 then throw .einval
  if data.activeLinkTraining then throw .eopnotsupp
  let pan ← match orientation with
    | .normal => pure 0
    | .reverse => pure 1
    | .none => throw .einval
  let speed ←
    if data.cableSpeed = eudoSpeedGen2 then pure 0
    else if data.cableSpeed = eudoSpeedGen3 then pure 1
    else throw .eopnotsupp
  qcomUsb4TypecConnectCommand ⟨1, pan, data.cableType, speed, 0, boardRetimer⟩

/-! ### The callbacks, with the session's lock held -/

/-- No connect command, router or PCIe stage exists for this attachment yet. -/
def x1AttachUntouched (h : X1Host) (l : Link) : Bool :=
  mp.managed && h.batch.attempted && h.batch.waiting && !h.batch.terminal &&
    l.error.isNone && !h.stopping && !l.commandAttempted && l.connectedCommand == 0 &&
    l.pendingCommand == 0 && h.batch.switch.isNone && !h.training.attempted &&
    !h.inventory.attempted && !h.pcie.receiver.attempted && !h.pcie.hostAttempted &&
    !h.pcie.nvmeBindAttempted

def x1BatchOrientation (h : X1Host) (l : Link) (o : Orientation) : Link × Option Errno :=
  if !h.batch.attempted then (l, none)
  else if h.batch.terminal || l.error.isSome then (l, some (l.error.getD .eshutdown))
  else if o = l.orientation then (l, none)
  else if o = .none ∧ l.batchOrientation ≠ .none ∧ x1AttachUntouched mp h l then
    ({ l with batchOrientation := .none, negotiationRearm := false }, none)
  else if !h.batch.waiting ∨ l.batchOrientation ≠ .none ∨ o = .none then
    ({ l with error := some .eshutdown }, some .eshutdown)
  else ({ l with batchOrientation := o }, none)

/-- What `x1_apply_link` did: the link, its result, and the command it sent. -/
structure Applied where
  link : Link
  ret : Option Errno := none
  sent : Option ℕ := none

/-- Sends the pending connect command once; `mcu` is the mailbox's answer. -/
def x1ApplyLink (h : X1Host) (l : Link) (mcu : Option Errno) : Applied :=
  if !h.ready || l.pendingCommand == 0 || h.stopping then ⟨l, none, none⟩
  else if l.error.isSome then ⟨l, l.error, none⟩
  else if l.pendingCommand = l.connectedCommand then ⟨l, none, none⟩
  else if l.commandAttempted then
    ⟨{ l with error := some .eopnotsupp }, some .eopnotsupp, none⟩
  else
    match mcu with
    | some e => ⟨{ l with commandAttempted := true, error := some e }, some e,
        some l.pendingCommand⟩
    | none => ⟨{ l with commandAttempted := true, connectedCommand := l.pendingCommand }, none,
        some l.pendingCommand⟩

/-- `x1_switch_set` from its lock on, apart from the mark of a pulled drive. -/
def x1SwitchSet (h : X1Host) (l : Link) (o : Orientation) : Link × Option Errno :=
  if h.stopping then (l, none)
  else
    match x1BatchOrientation mp h l o with
    | (l, some e) => (l, some e)
    | (l, none) =>
      let l :=
        if l.orientation ≠ o ∨ o = .none then
          { l with pendingCommand := 0
                   error := if l.commandAttempted then some .eshutdown else l.error }
        else l
      ({ l with orientation := o }, none)

/-- `x1_mux_set` from its lock on. -/
def x1MuxSet (h : X1Host) (l : Link) (usb4 : Option EnterUsbData) (mcu : Option Errno) :
    Applied :=
  if h.stopping then ⟨l, none, none⟩
  else if h.batch.attempted && (h.batch.terminal || l.error.isSome) then
    ⟨l, some (l.error.getD .eshutdown), none⟩
  else
    match usb4 with
    | none =>
      ⟨{ l with pendingCommand := 0
                error := if l.commandAttempted then some .eshutdown else l.error }, none, none⟩
    | some data =>
      if h.batch.attempted && !h.batch.waiting then
        ⟨{ l with error := some .eshutdown }, some .eshutdown, none⟩
      else
        let l := { l with pendingCommand := 0 }
        if l.negotiationRearm then ⟨l, none, none⟩
        else
          match qcomUsb4TypecUsb4Command data l.orientation 1 with
          | .error e =>
            ⟨if l.commandAttempted || h.batch.attempted then { l with error := some e } else l,
              some e, none⟩
          | .ok command => x1ApplyLink h { l with pendingCommand := command } mcu

/-! ### Acts of the surroundings -/

/-- What can happen on its own: a Type-C callback begins, or gets the session's lock and
finishes; the connection manager sees an event, or finishes one; PCI core or the NVMe driver
makes a configuration access, or enables a device (`refused` is what the local checks of the
access answer). -/
inductive EnvAct
  | begin (n : Notice)
  | finish (i : ℕ) (mcu : Option Errno)
  | cmEvent
  | cmWorker
  | config (refused : Option Errno)
  | enableDevice

/-- `x1_invalidate_retained` of the session `h`. -/
def x1InvalidateRetained (h : X1Host) (fr : Front) : Front :=
  if h.retainedTb then { fr with cmGeneration := fr.cmGeneration + 1 } else fr

/-- `qcom_usb4_x1_mark_pulled` for the current session. -/
def qcomUsb4X1MarkPulled (b : Back) (fr : Front) : Front :=
  match b.x1Pcie with
  | none => fr
  | some ctx =>
    if ctx.state = b.host.generation ∧ b.host.pcie.general ∧ ctx.endpoint ∧
        !b.host.pcie.retire.pciAttempted then
      { fr with pulled := true }
    else fr

/-- `x1_orientation_session`: records the event and pins the published session. -/
def x1OrientationSession (b : Back) (fr : Front) (o : Orientation) : Front :=
  let n := fr.record.eventSequence + 1
  { fr with
    record := ⟨o, n, if o = .none then n else fr.record.disconnectSequence⟩
    events := fr.events ++ [⟨o, b.host.generation⟩] }

def beginCallback (b : Back) (fr : Front) (n : Notice) : Front :=
  let fr := match n with
    | .orientation o => x1OrientationSession b fr o
    | _ => fr
  x1InvalidateRetained b.host
    { fr with flights := fr.flights ++ [⟨b.host.generation, n⟩] }

/-- The second part of a callback on the session `h` with link `l`. -/
def callbackBody (h : X1Host) (l : Link) (n : Notice) (mcu : Option Errno) : Applied :=
  match n with
  | .orientation o => ⟨(x1SwitchSet mp h l o).1, (x1SwitchSet mp h l o).2, none⟩
  | .usb4 data => x1MuxSet h l (some data) mcu
  | .other => x1MuxSet h l none mcu

/-- The second part of a callback that pinned the current session. -/
def finishCurrent (b : Back) (fr : Front) (n : Notice) (mcu : Option Errno) : Front :=
  let fr := x1InvalidateRetained b.host fr
  let fr :=
    if !b.host.stopping && mp.general && (match n with | .orientation .none => true | _ => false)
    then qcomUsb4X1MarkPulled b fr else fr
  let a := callbackBody mp b.host fr.link n mcu
  { fr with
    link := a.link
    commands := match a.sent with
      | some c => fr.commands ++ [⟨b.host.generation, c⟩]
      | none => fr.commands }

/-- The second part of a callback that pinned a session replaced since. -/
def finishOld (fr : Front) (f : Flight) (mcu : Option Errno) : Front :=
  { fr with
    old := fr.old.map fun p =>
      if p.1.generation = f.generation then (p.1, (callbackBody mp p.1 p.2 f.notice mcu).link)
      else p
    commands := fr.commands ++ fr.old.filterMap fun p =>
      if p.1.generation = f.generation then
        (callbackBody mp p.1 p.2 f.notice mcu).sent.map fun c => ⟨f.generation, c⟩
      else none }

/-- `x1_pcie_config_base` finds the endpoint's or the root port's window. -/
def configBase (b : Back) : Bool :=
  match b.x1Pcie with
  | none => false
  | some ctx => ctx.bridge && ctx.configOpen && ctx.bridgeBus

/-- An access through the config callbacks reaches the endpoint's window. -/
def configReaches (b : Back) (fr : Front) : Bool := configBase b && !fr.pulled

/-- `x1_pcie_enable_device` reaches the endpoint's window. -/
def enableReaches (b : Back) (fr : Front) : Bool :=
  match b.x1Pcie with
  | none => false
  | some ctx => ctx.bindWrites && b.host.pcie.hostPrepared && !fr.pulled

/-- The effect of an act. One that a held lock keeps waiting does nothing yet. -/
def EnvAct.perform (b : Back) (fr : Front) : EnvAct → Front
  | .begin n => beginCallback b fr n
  | .finish i mcu =>
    match fr.flights[i]? with
    | none => fr
    | some f =>
      if f.generation = b.host.generation then
        if b.hostLocked || b.configLocked then fr
        else finishCurrent mp b { fr with flights := fr.flights.eraseIdx i } f.notice mcu
      else finishOld mp { fr with flights := fr.flights.eraseIdx i } f mcu
  | .cmEvent =>
    if b.host.tb then
      { fr with cmGeneration := fr.cmGeneration + 1, cmPending := fr.cmPending + 1 }
    else fr
  | .cmWorker => { fr with cmPending := fr.cmPending - 1 }
  | .config refused =>
    if configReaches b fr && !b.configLocked then
      { fr with cfgError := fr.cfgError <|> refused }
    else fr
  | .enableDevice => fr

end YogaUsb4.Typec
