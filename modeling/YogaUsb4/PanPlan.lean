import YogaUsb4.Dialog
import YogaUsb4.LittleEndian
import YogaUsb4.Typec

/-!
From a PAN packet to the connect word of the router's MCU. The observer decodes the packet, plans
the port and configures the retimer with a standard Type-C payload; the router's side has its own
decoder for each payload. The word that the plan names and the one that the router's side reads off
the payload are compared here.
-/

namespace YogaUsb4.PanPlan

open Dialog Wire LittleEndian HostState Typec

/-! ### The packet -/

/-- `get_unaligned_le16`. -/
def getLe16 (p : List Byte) (i : ℕ) : BitVec 16 := byte p (i + 1) ++ byte p i

structure YogaPan where
  port : Byte
  orientationRaw : Byte
  muxRaw : Byte
  ext : Fin 8 → Byte
  vid : BitVec 16
  svidHeader : BitVec 16
  svidPayload : BitVec 16

/-- `ext[0]`, the byte about the cable. -/
def YogaPan.cable (e : YogaPan) : Byte := e.ext 0

/-- `yoga_pan_decode`: what is in `out` afterwards, and the result. -/
def yogaPanDecode (p : List Byte) (out : YogaPan) : YogaPan × ℤ :=
  if p.length ≠ 32 then (out, -einval)
  else if word (byte p) 0 ≠ 32780 ∨ word (byte p) 4 ≠ 2 ∨ word (byte p) 8 &&& 0xffff ≠ 0x16 ∨
      3 ≤ byte p 12 then
    (out, -ebadmsg)
  else
    ({ port := byte p 12, orientationRaw := byte p 13, muxRaw := byte p 14
       vid := getLe16 p 16, svidPayload := getLe16 p 18
       svidHeader := (word (byte p) 8 >>> 16).truncate 16, ext := fun i => byte p (20 + i) }, 0)

/-! ### The plan -/

inductive YogaPortMode where
  | safe | usb3 | usb4 | tbt
  deriving DecidableEq

structure YogaPortPlan where
  orientation : Byte := 0
  mode : YogaPortMode := .safe
  cableType : Byte := 0
  speed : Byte := 0
  rounded : Byte := 0
  connectWord : BitVec 32 := 0
  deriving DecidableEq

def tunnelMode (svid : BitVec 16) : Option YogaPortMode :=
  if svid = 0xff00 then some .usb4 else if svid = 0x8087 then some .tbt else none

def tunnelPlan (orientation : Byte) (mode : YogaPortMode) (speed cableType rounded : Byte) :
    YogaPortPlan :=
  let cableClass : BitVec 32 :=
    if cableType ≠ 0 then if mode = .tbt ∧ rounded = 0 then 3 else 1 else 0
  { orientation := orientation, mode := mode, cableType := cableType, speed := speed
    rounded := rounded
    connectWord := 1 ||| (if mode = .usb4 then 1 <<< 8 else 0) ||| orientation.setWidth 32 <<< 9 |||
      1 <<< 10 ||| cableClass <<< 11 ||| speed.setWidth 32 <<< 13 }

/-- `yoga_plan` for a tunnel. -/
def yogaPlanTunnel (e : YogaPan) : Except ℤ YogaPortPlan :=
  if e.orientationRaw = 2 ∨ e.svidHeader ≠ e.svidPayload then .error (-einval)
  else
    match tunnelMode e.svidHeader with
    | none => .error (-eopnotsupp)
    | some mode =>
      if e.cable &&& 0x80 ≠ 0 then .error (-eopnotsupp)
      else if ∃ i : Fin 8, i ≠ 0 ∧ e.ext i ≠ 0 then .error (-eopnotsupp)
      else
        let speed := e.cable &&& 7
        let cableType := (e.cable >>> 3) &&& 7
        let rounded := (e.cable >>> 6) &&& 1
        if 1 < speed ∨ 1 < cableType then .error (-eopnotsupp)
        else .ok (tunnelPlan e.orientationRaw mode speed cableType rounded)

/-- `yoga_plan` up to its last assignment: the local plan, or the error. -/
def yogaPlanLocal (e : YogaPan) : Except ℤ YogaPortPlan :=
  if e.port ≠ 0 ∨ 2 < e.orientationRaw then .error (-einval)
  else if e.muxRaw = 0 then .ok { orientation := 2, mode := .safe }
  else if e.muxRaw = 1 then
    if e.orientationRaw = 2 then .error (-einval)
    else if e.svidHeader ≠ 0xff00 ∨ e.svidPayload ≠ 0xff00 then .error (-eopnotsupp)
    else .ok { orientation := e.orientationRaw, mode := .usb3 }
  else if e.muxRaw = 4 then yogaPlanTunnel e
  -- no DP, reset request, V2 bits or guessed fallback
  else .error (-eopnotsupp)

/-- `yoga_plan`: what is in `out` afterwards, and the result. -/
def yogaPlan (e : YogaPan) (out : YogaPortPlan) : YogaPortPlan × ℤ :=
  match yogaPlanLocal e with
  | .error ret => (out, ret)
  | .ok p => (p, 0)

/-! ### The payload -/

/-- `FIELD_PREP` and `FIELD_GET`, with a field given by its lowest bit and its width. -/
def fieldPrep (low width : ℕ) (v : BitVec 32) : BitVec 32 :=
  (v &&& BitVec.ofNat 32 (2 ^ width - 1)) <<< low
def fieldGet (low width : ℕ) (v : BitVec 32) : BitVec 32 :=
  (v >>> low) &&& BitVec.ofNat 32 (2 ^ width - 1)

/-- The bits of the Thunderbolt VDOs. -/
def tbtMode : BitVec 32 := 1 <<< 0
def tbtCableOptical : BitVec 32 := 1 <<< 21
def tbtCableRetimer : BitVec 32 := 1 <<< 22
def tbtCableLinkTraining : BitVec 32 := 1 <<< 23
def tbtEnterModeActiveCable : BitVec 32 := 1 <<< 24
def tbtCableActivePassive : BitVec 32 := 1 <<< 25

structure TypecThunderboltData where
  deviceMode : BitVec 32
  cableMode : BitVec 32
  enterVdo : BitVec 32

/-- `struct typec_retimer_state` as `configure_port` fills it; the link training of a USB4 payload
stays off. -/
inductive RetimerState where
  | safe
  | usb
  | usb4 (eudo : BitVec 32)
  | tbt (data : TypecThunderboltData)

def tbtData (p : YogaPortPlan) : TypecThunderboltData :=
  let speed : BitVec 32 := if p.speed ≠ 0 then 3 else 2
  let active : BitVec 32 :=
    if p.cableType ≠ 0 then tbtCableRetimer ||| fieldPrep 19 2 (p.rounded.setWidth 32) else 0
  { deviceMode := tbtMode ||| fieldPrep 16 1 1
    cableMode := tbtMode ||| fieldPrep 16 3 speed ||| active |||
      if p.cableType ≠ 0 then tbtCableActivePassive else 0
    enterVdo := tbtMode ||| fieldPrep 16 3 speed ||| active |||
      if p.cableType ≠ 0 then tbtEnterModeActiveCable else 0 }

/-- The payload that `configure_port` builds from the plan. -/
def retimerState (p : YogaPortPlan) : RetimerState :=
  match p.mode with
  | .safe => .safe
  | .usb3 => .usb
  | .usb4 => .usb4 (fieldPrep 28 3 2 ||| fieldPrep 21 3 (if p.speed ≠ 0 then 3 else 2) |||
      fieldPrep 19 2 (p.cableType.setWidth 32))
  | .tbt => .tbt (tbtData p)

/-- The orientation that `configure_port` sets the switch to. -/
def planOrientation (p : YogaPortPlan) : Orientation :=
  if p.orientation = 2 then .none else if p.orientation = 1 then .reverse else .normal

inductive Call where
  /-- `x1_diag_nhi_complete`, which does not answer 0 if it is. -/
  | nhiComplete
  | switchSet (o : Orientation)
  | retimerSet (s : RetimerState)

/-- `configure_port`, with the switch and the retimer that the probe found. -/
def configurePort (sw retimer : Bool) (e : YogaPan) : Dialog Call ℤ ℤ := do
  -- only a receipt for the other ports; their retimers are not touched
  if e.port ≠ 0 then return 0
  let (plan, ret) := yogaPlan e {}
  if ret ≠ 0 then return ret
  let complete ← ask .nhiComplete
  if complete = 0 ∨ !sw ∨ !retimer then return -eperm
  let ret ← ask (.switchSet (planOrientation plan))
  if ret ≠ 0 then return ret
  ask (.retimerSet (retimerState plan))

/-! ### The router's side -/

def enterUsbData (eudo : BitVec 32) : EnterUsbData where
  usbMode := (fieldGet 28 3 eudo).toNat
  cableSpeed := (fieldGet 21 3 eudo).toNat
  cableType := (fieldGet 19 2 eudo).toNat
  activeLinkTraining := false

def qcomUsb4TypecTbtCommand (data : TypecThunderboltData) (orientation : Orientation)
    (boardRetimer : ℕ) : Except Errno ℕ := do
  let cable := data.cableMode
  let enter := data.enterVdo
  if data.deviceMode &&& tbtMode = 0 ∨ cable &&& tbtMode = 0 ∨ enter &&& tbtMode = 0 then
    throw .einval
  if fieldGet 16 1 data.deviceMode ≠ 1 then throw .eopnotsupp
  if (cable ||| enter) &&& (tbtCableOptical ||| tbtCableLinkTraining) ≠ 0 then throw .eopnotsupp
  let active : Bool := cable &&& tbtCableActivePassive ≠ 0
  let retimer : Bool := cable &&& tbtCableRetimer ≠ 0
  if active ≠ decide (enter &&& tbtEnterModeActiveCable ≠ 0) ∨
      retimer ≠ decide (enter &&& tbtCableRetimer ≠ 0) ∨ (!active && retimer) then
    throw .einval
  -- a redriver, or old data that only says active, must not become a retimer
  if active && !retimer then throw .eopnotsupp
  let speed := fieldGet 16 3 cable
  if speed ≠ fieldGet 16 3 enter then throw .einval
  let cableSpeed ←
    if speed = 2 then pure 0
    else if speed = 3 then pure 1
    else throw .eopnotsupp
  let rounded := fieldGet 19 2 cable
  if rounded ≠ fieldGet 19 2 enter then throw .einval
  if 1 < rounded then throw .eopnotsupp
  let pan ← match orientation with
    | .normal => pure 0
    | .reverse => pure 1
    | .none => throw .einval
  qcomUsb4TypecConnectCommand
    ⟨0, pan, if retimer then 1 else 0, cableSpeed, rounded.toNat, boardRetimer⟩

/-- The decoder of the payload's mode, on a board with a retimer. -/
def routerCommand (o : Orientation) : RetimerState → Except Errno ℕ
  | .usb4 eudo => qcomUsb4TypecUsb4Command (enterUsbData eudo) o 1
  | .tbt data => qcomUsb4TypecTbtCommand data o 1
  | .safe | .usb => .error .eopnotsupp

/-- The fields of the plan as the encoder takes them. -/
def panConnect (p : YogaPortPlan) : QcomUsb4PanConnect where
  mode := if p.mode = .usb4 then 1 else 0
  orientation := p.orientation.toNat
  cableType := p.cableType.toNat
  cableSpeed := p.speed.toNat
  rounded := p.rounded.toNat
  boardRetimer := 1

/-! ### Every outcome of the plan -/

/-- Either the packet is refused, or there is a plan; that of a tunnel has fields of one bit. -/
inductive Planned : Except ℤ YogaPortPlan → Prop
  | refused {ret : ℤ} (h : ret ≠ 0) : Planned (.error ret)
  | plain {p : YogaPortPlan} (h : p.mode = .safe ∨ p.mode = .usb3) : Planned (.ok p)
  | tunnel {o speed cable rounded : Byte} {mode : YogaPortMode} (ho : o = 0 ∨ o = 1)
      (hmode : mode = .usb4 ∨ mode = .tbt) (hspeed : speed = 0 ∨ speed = 1)
      (hcable : cable = 0 ∨ cable = 1) (hrounded : rounded = 0 ∨ rounded = 1) :
      Planned (.ok (tunnelPlan o mode speed cable rounded))

lemma eq_zero_or_one {x : Byte} (h : ¬ 1 < x) : x = 0 ∨ x = 1 := by
  bv_omega

lemma and_one_eq (x : Byte) : x &&& 1 = 0 ∨ x &&& 1 = 1 := by
  refine eq_zero_or_one fun h => ?_
  have hle : (x &&& 1).toNat ≤ 1 := by
    rw [BitVec.toNat_and]
    exact Nat.and_le_right
  have hlt : 1 < (x &&& 1).toNat := BitVec.lt_def.1 h
  omega

lemma tunnelMode_cases {svid : BitVec 16} {mode : YogaPortMode} (h : tunnelMode svid = some mode) :
    mode = .usb4 ∨ mode = .tbt := by
  unfold tunnelMode at h
  split at h
  · exact .inl (Option.some.inj h).symm
  · split at h
    · exact .inr (Option.some.inj h).symm
    · cases h

lemma yogaPlanTunnel_planned (e : YogaPan) (ho : ¬ 2 < e.orientationRaw) :
    Planned (yogaPlanTunnel e) := by
  unfold yogaPlanTunnel
  split
  · exact .refused (by decide)
  · rename_i hraw
    have horient : e.orientationRaw = 0 ∨ e.orientationRaw = 1 := by
      have hne : e.orientationRaw ≠ 2 := fun h => hraw (.inl h)
      bv_omega
    split
    · exact .refused (by decide)
    · rename_i mode hmode
      split
      · exact .refused (by decide)
      split
      · exact .refused (by decide)
      dsimp only
      split
      · exact .refused (by decide)
      · rename_i hsmall
        exact .tunnel horient (tunnelMode_cases hmode) (eq_zero_or_one fun h => hsmall (.inl h))
          (eq_zero_or_one fun h => hsmall (.inr h)) (and_one_eq _)

lemma yogaPlanLocal_planned (e : YogaPan) : Planned (yogaPlanLocal e) := by
  unfold yogaPlanLocal
  split
  · exact .refused (by decide)
  · rename_i hfirst
    split
    · exact .plain (.inl rfl)
    split
    · split
      · exact .refused (by decide)
      split
      · exact .refused (by decide)
      · exact .plain (.inr rfl)
    split
    · exact yogaPlanTunnel_planned e fun h => hfirst (.inr h)
    · exact .refused (by decide)

lemma yogaPlan_eq_iff {e : YogaPan} {out p : YogaPortPlan} :
    yogaPlan e out = (p, 0) ↔ yogaPlanLocal e = .ok p := by
  have h := yogaPlanLocal_planned e
  unfold yogaPlan
  generalize yogaPlanLocal e = r at h ⊢
  cases h with
  | refused hret => simp [hret]
  | plain | tunnel => simp

lemma yogaPlan_refused {e : YogaPan} {out : YogaPortPlan} (h : (yogaPlan e out).2 ≠ 0) :
    (yogaPlan e out).1 = out := by
  unfold yogaPlan at h ⊢
  split
  · rfl
  · rename_i p hp
    rw [hp] at h
    exact absurd rfl h

lemma yogaPanDecode_refused {bytes : List Byte} {e : YogaPan} (h : (yogaPanDecode bytes e).2 ≠ 0) :
    (yogaPanDecode bytes e).1 = e := by
  unfold yogaPanDecode at h ⊢
  split
  · rfl
  · rename_i hlen
    rw [if_neg hlen] at h
    split
    · rfl
    · rename_i hbad
      rw [if_neg hbad] at h
      exact absurd rfl h

/-! ### The words agree -/

section Words

variable {o speed cable rounded : Byte} {mode : YogaPortMode} (ho : o = 0 ∨ o = 1)
  (hmode : mode = .usb4 ∨ mode = .tbt) (hspeed : speed = 0 ∨ speed = 1)
  (hcable : cable = 0 ∨ cable = 1) (hrounded : rounded = 0 ∨ rounded = 1)
include ho hmode hspeed hcable hrounded

-- the fields have one bit each, so there are 32 tunnels
lemma routerCommand_tunnelPlan :
    let p := tunnelPlan o mode speed cable rounded
    routerCommand (planOrientation p) (retimerState p) = .ok p.connectWord.toNat := by
  rcases ho with rfl | rfl <;> rcases hmode with rfl | rfl <;> rcases hspeed with rfl | rfl <;>
    rcases hcable with rfl | rfl <;> rcases hrounded with rfl | rfl <;> rfl

lemma connectCommand_tunnelPlan :
    let p := tunnelPlan o mode speed cable rounded
    qcomUsb4TypecConnectCommand (panConnect p) = .ok p.connectWord.toNat := by
  rcases ho with rfl | rfl <;> rcases hmode with rfl | rfl <;> rcases hspeed with rfl | rfl <;>
    rcases hcable with rfl | rfl <;> rcases hrounded with rfl | rfl <;> rfl

end Words

lemma Planned.tunnel_words {p : YogaPortPlan} (h : Planned (.ok p))
    (hmode : p.mode = .usb4 ∨ p.mode = .tbt) :
    routerCommand (planOrientation p) (retimerState p) = .ok p.connectWord.toNat ∧
      qcomUsb4TypecConnectCommand (panConnect p) = .ok p.connectWord.toNat := by
  cases h with
  | plain hplain =>
    rcases hplain with h | h <;> rcases hmode with h' | h' <;> cases h.symm.trans h'
  | tunnel ho hm hspeed hcable hrounded =>
    exact ⟨routerCommand_tunnelPlan ho hm hspeed hcable hrounded,
      connectCommand_tunnelPlan ho hm hspeed hcable hrounded⟩

/-! ### Configuring the port -/

/-- The calls that configure a port by a plan. -/
def Call.By (p : YogaPortPlan) : Call → Prop
  | .nhiComplete => True
  | .switchSet o => o = planOrientation p
  | .retimerSet s => s = retimerState p

variable {e : YogaPan} {p : YogaPortPlan} {sw retimer : Bool}

lemma configurePort_by (hp : yogaPlanLocal e = .ok p) :
    All (Call.By p) (fun _ => True) (configurePort sw retimer e) := by
  have hplan : yogaPlan e {} = (p, 0) := yogaPlan_eq_iff.2 hp
  unfold configurePort
  rw [hplan]
  split
  · trivial
  · refine all_ask_bind.2 ⟨trivial, fun complete => ?_⟩
    split
    · trivial
    · refine all_ask_bind.2 ⟨rfl, fun ret => ?_⟩
      split
      · trivial
      · exact ⟨rfl, fun _ => trivial⟩

lemma port_of_plan (hp : yogaPlanLocal e = .ok p) : e.port = 0 := by
  by_contra hport
  rw [yogaPlanLocal, if_pos (.inl hport)] at hp
  cases hp

/-- With its providers there and nothing refused, the port is configured by the plan. -/
lemma configurePort_does (hp : yogaPlanLocal e = .ok p) :
    Does (configurePort true true e)
      [(.nhiComplete, 1), (.switchSet (planOrientation p), 0), (.retimerSet (retimerState p), 0)]
      0 := by
  have hplan : yogaPlan e {} = (p, 0) := yogaPlan_eq_iff.2 hp
  unfold configurePort
  rw [hplan, if_neg (not_not_intro (port_of_plan hp))]
  simp

/-- A packet, decoded into an event that held `old` and planned into `out`. -/
def planPacket (bytes : List Byte) (old : YogaPan) (out : YogaPortPlan) : YogaPortPlan × ℤ :=
  let (e, ret) := yogaPanDecode bytes old
  if ret ≠ 0 then (out, ret) else yogaPlan e out

/-- What the router's side makes of a tunnel's plan. -/
structure Agrees (e : YogaPan) (p : YogaPortPlan) : Prop where
  /-- The payload is accepted by the decoder of its mode and yields the plan's word. -/
  payload : routerCommand (planOrientation p) (retimerState p) = .ok p.connectWord.toNat
  /-- So do the fields, without a payload in between. -/
  fields : qcomUsb4TypecConnectCommand (panConnect p) = .ok p.connectWord.toNat
  /-- `configure_port` hands over this payload and orientation and no other. -/
  handed : ∀ sw retimer tr ret, Does (configurePort sw retimer e) tr ret → ∀ x ∈ tr, x.1.By p
  reached : ∃ tr, Does (configurePort true true e) tr 0 ∧ (.retimerSet (retimerState p), 0) ∈ tr

/-- The whole way of a packet: a refused one leaves the event and the plan as they were, and of an
accepted one that asks for a tunnel both encoders make the same word. -/
theorem planPacket_agrees (bytes : List Byte) (old : YogaPan) (out : YogaPortPlan) :
    ((yogaPanDecode bytes old).2 ≠ 0 → (yogaPanDecode bytes old).1 = old) ∧
      ((planPacket bytes old out).2 ≠ 0 → (planPacket bytes old out).1 = out) ∧
      ∀ e p, yogaPanDecode bytes old = (e, 0) → yogaPlan e out = (p, 0) →
        p.mode = .usb4 ∨ p.mode = .tbt → Agrees e p := by
  refine ⟨yogaPanDecode_refused, ?_, ?_⟩
  · intro h
    unfold planPacket at h ⊢
    dsimp only at h ⊢
    split
    · rfl
    · rename_i hdecoded
      rw [if_neg hdecoded] at h
      exact yogaPlan_refused h
  · intro e p _ hplan hmode
    have hp : yogaPlanLocal e = .ok p := yogaPlan_eq_iff.1 hplan
    obtain ⟨hpayload, hfields⟩ := Planned.tunnel_words (hp ▸ yogaPlanLocal_planned e) hmode
    refine ⟨hpayload, hfields, fun _ _ _ _ h => (All.does (configurePort_by hp) h).1, ?_⟩
    exact ⟨_, configurePort_does hp, by simp⟩

-- a passive cable with the rounded flag, which the payload does not carry
example : yogaPlan { port := 0, orientationRaw := 1, muxRaw := 4, vid := 0, svidHeader := 0x8087
                     svidPayload := 0x8087, ext := fun i => if i = 0 then 0x41 else 0 } {} =
    ({ orientation := 1, mode := .tbt, speed := 1, rounded := 1, connectWord := 0x2601 }, 0) := by
  decide +kernel

end YogaUsb4.PanPlan
