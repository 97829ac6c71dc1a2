import YogaUsb4.Link.Transport
import YogaUsb4.Topology

/-!
The manual enumeration of the diagnostic link: what the run does in terms of reads and writes of
configuration words, how each of them is carried out by a transfer of the level below, and the
operations that share the link under its lock.
-/

namespace YogaUsb4.Link

open Wire LinkPacket Dialog

/-! ### The code -/

/-- What the run asks for. -/
inductive LinkCall where
  | valid
  | jiffies
  | transfer (req : Request)
  | connect (word : BitVec 32)
  | msleep (ms : ℕ)
  | deadline
  | setDeadline (time : ℕ)

/-- Whether the check holds, a time, the result of the connect callback, and that of a transfer
with the words that it stores. -/
structure LinkReply where
  ok : Bool := true
  time : ℕ := 0
  ret : ℤ := 0
  words : Except ℤ (List (BitVec 32)) := .ok []

abbrev LinkTry := Try LinkCall LinkReply

def transfer (req : Request) : LinkTry (ℕ → BitVec 32) := do
  let r ← Try.ask (.transfer req)
  match r.words with
  | .error e => throw e
  | .ok words => return fun i => words.getD i 0

def linkRead (route port space offset words : BitVec 32) : LinkTry (ℕ → BitVec 32) :=
  transfer (.read ⟨route, port, space, offset, words, 0⟩)

def linkWrite (port space offset words : BitVec 32) (before after : ℕ → BitVec 32) :
    LinkTry Unit := do
  let _ ← transfer (.write ⟨port, space, offset, words, 0, before, after, 0⟩)

def linkExternalWrite (offset words : BitVec 32) (before after : ℕ → BitVec 32) :
    LinkTry Unit := do
  let _ ← transfer (.write ⟨0, 2, offset, words, 0, before, after, 2⟩)

def plan {α : Type} (x : Except ℤ α) : LinkTry α :=
  match x with
  | .error e => throw e
  | .ok a => return a

/-- What was written is read back: the first word is the old one, the others are as planned. -/
def verified (old got planned : ℕ → BitVec 32) : Bool :=
  got 0 = old 0 ∧ (List.range 4).all fun i => got (i + 1) = planned i

def configureRoot : LinkTry ((ℕ → BitVec 32) × (ℕ → BitVec 32)) := do
  let host ← linkRead 0 0 2 0 5
  let config ← plan (rootPlan host)
  linkWrite 0 2 1 4 (fun i => host (i + 1)) config
  let data ← linkRead 0 0 2 0 5
  if verified host data config = false then throw (-eio)
  return (host, config)

/-- The capabilities of a lane adapter, with `n` rounds left: the one of the physical layer. -/
def findCap (port : BitVec 32) : ℕ → List (BitVec 32) → BitVec 32 → LinkTry (Option (BitVec 32))
  | 0, _, _ => return none
  | n + 1, seen, cap => do
    if cap = 0 then return none
    if cap < 8 ∨ cap > 254 ∨ seen.contains cap then throw (-eproto)
    let data ← linkRead 0 port 1 cap 2
    if (data 0 >>> 8) &&& 0xff = 1 then return some cap
    findCap port n (cap :: seen) (data 0 &&& 0xff)

/-- The host's lane adapters among the ports that are left, with their capabilities. -/
def discover : List (BitVec 32) → LinkTry (List (BitVec 32 × BitVec 32))
  | [] => return []
  | port :: ports => do
    let data ← linkRead 0 port 1 0 8
    if data 2 &&& 0xffffff ≠ 1 then discover ports
    else
      let some cap ← findCap port 16 [] (data 1 &&& 0xff) | throw (-eopnotsupp)
      let lanes ← discover ports
      return (port, cap) :: lanes

def hostPorts (header : ℕ → BitVec 32) : List (BitVec 32) :=
  (List.range ((header 1 >>> 14) &&& 0x3f).toNat).map fun i => BitVec.ofNat 32 (i + 1)

def laneUp (word : BitVec 32) : Bool :=
  2 ≤ (word >>> 26) &&& 0xf ∧ (word >>> 26) &&& 0xf ≤ 6 ∧ word &&& 0x4000 = 0

/-- A round over the lanes: those that are up. -/
def pollRound : List (BitVec 32 × BitVec 32) → LinkTry (List (BitVec 32))
  | [] => return []
  | (port, cap) :: lanes => do
    let data ← linkRead 0 port 1 cap 2
    let up ← pollRound lanes
    return if laneUp (data 1) then port :: up else up

/-- The rounds that are left; the last one counts. -/
def pollLanes (lanes : List (BitVec 32 × BitVec 32)) :
    ℕ → List (BitVec 32) → LinkTry (List (BitVec 32))
  | 0, up => return up
  | n + 1, _ => do
    let up ← pollRound lanes
    if up.contains 2 then return up
    let _ ← Try.ask (.msleep 100)
    pollLanes lanes n up

/-- The first port is unlocked if it is locked. -/
def unlockPort : LinkTry Unit := do
  let before ← linkRead 0 2 1 4 1
  if before 0 ≠ before 0 &&& ~~~ 0x80000000 then
    linkWrite 2 1 4 1 (fun _ => before 0) (fun _ => before 0 &&& ~~~ 0x80000000)
    let data ← linkRead 0 2 1 4 1
    if data 0 ≠ before 0 &&& ~~~ 0x80000000 then throw (-eio)

/-- The callbacks of the topology: `topology_read`; a report is only printed. -/
def topologyCall : Topology.Call → Unit → Dialog LinkCall LinkReply (Unit × Topology.Reply)
  | .read _ route port space offset words, s => do
    let r ← (linkRead route port space offset words).run
    match r with
    | .error e => return (s, { ret := e })
    | .ok word => return (s, { word })
  | .report .., s => return (s, {})

/-- `x1_topology_router`, with its reads carried out. -/
def topologyRouter (route : BitVec 32) (header : ℕ → BitVec 32) (t : Topology.Topo) :
    LinkTry Topology.Topo := do
  let (_, t, ret) ← ExceptT.lift
    (serve topologyCall (Topology.topologyRouter {} route header t) ())
  if ret ≠ 0 then throw ret
  return t

/-- The rounds that are left of the wait for the other router. -/
def pollReady : ℕ → LinkTry Unit
  | 0 => throw (-etimedout)
  | n + 1 => do
    let now ← Try.ask .jiffies
    let deadline ← Try.ask .deadline
    if deadline.time ≤ now.time then throw (-etimedout)
    let got ← linkRead 2 0 2 6 1
    if got 0 &&& 0x02000001 ≠ 0 then throw (-eperm)
    else if got 0 &&& 0x01000000 ≠ 0 then return
    else
      let _ ← Try.ask (.msleep 50)
      pollReady n

/-- The other router's setup: one bit is cleared, and read back. -/
def setupExternal : LinkTry Unit := do
  let before ← linkRead 2 0 2 5 1
  let after ← plan (externalSetupPlan (before 0))
  linkExternalWrite 5 1 (fun _ => before 0) (fun _ => after)
  let got ← linkRead 2 0 2 5 1
  if got 0 ≠ after then throw (-eio)

/-- The wait for the other router, under a deadline of its own that is put back on every path. -/
def awaitReady : LinkTry Unit := do
  let deadline ← Try.ask .deadline
  let now ← Try.ask .jiffies
  let _ ← Try.ask (.setDeadline (min deadline.time (now.time + 500)))
  let ret ← ExceptT.lift (pollReady 11).run
  let _ ← Try.ask (.setDeadline deadline.time)
  plan ret

/-- `link_external_init`: the header that it leaves. In this snapshot it is `disabled`. -/
def linkExternalInit (disabled : Bool) (header : ℕ → BitVec 32) : LinkTry (ℕ → BitVec 32) := do
  let config ← plan (externalPlan header)
  let state ← linkRead 2 0 2 5 4
  if disabled ∨ state 2 ≠ 0 ∨ state 3 ≠ 0 ∨ state 1 &&& 0x02000001 ≠ 0 then throw (-eperm)
  let _ ← plan (externalSetupPlan (state 0))
  linkExternalWrite 1 4 (fun i => header (i + 1)) config
  let configured ← linkRead 2 0 2 0 5
  if verified header configured config = false then throw (-eio)
  setupExternal
  awaitReady
  return configured

/-- `x1_diag_link_run` from the first read to the last. -/
def enumerate (disabled : Bool) (word : BitVec 32) : LinkTry Unit := do
  let (host, config) ← configureRoot
  let lanes ← discover (hostPorts host)
  if lanes.length ≠ 2 ∨ 2 ∉ lanes.map (·.1) ∨ 3 ∉ lanes.map (·.1) then throw (-enodev)
  let valid ← Try.ask .valid
  if valid.ok = false then throw (-enotconn)
  let connect ← Try.ask (.connect word)
  if connect.ret ≠ 0 then throw connect.ret
  let up ← pollLanes lanes 20 []
  if 2 ∉ up then throw (-enolink)
  unlockPort
  let external ← linkRead 2 0 2 0 5
  let t ← topologyRouter 0 (fun i => [host 0, host 1, host 2, config 2, config 3].getD i 0) {}
  let configured ← linkExternalInit disabled external
  let _ ← topologyRouter 2 configured t

/-! The level below. -/

variable (crc32c : List Byte → BitVec 32)

def carryOut : LinkCall → Session → Dialog RingCall RingReply (Session × LinkReply)
  | .valid, s => do
    let r ← ask .valid
    return (s, { ok := r.ok })
  | .jiffies, s => do
    let r ← ask .jiffies
    return (s, { time := r.now })
  | .transfer req, s => do
    let (s, words) ← linkTransfer crc32c req s
    return (s, { words })
  | .connect word, s => do
    let r ← ask (.connect word)
    return (s, { ret := r.ret })
  | .msleep ms, s => do
    let _ ← ask (.msleep ms)
    return (s, {})
  | .deadline, s => return (s, { time := s.deadline })
  | .setDeadline time, s => return ({ s with deadline := time }, {})

/-- `struct x1_control` behind `link_ctl`: whether it is there, and what of it is used here. -/
structure Control where
  present : Bool := false
  stopped : Bool := false
  linkAttempted : Bool := false
  connect : Bool := false
  nextTx : ℕ := 2
  nextRx : ℕ := 0

def linkStopLocked (c : Control) : Dialog RingCall RingReply Control := do
  if c.stopped then return c
  let _ ← ask .stop
  return { c with stopped := true }

def diagLinkStop (c : Control) : Dialog RingCall RingReply Control :=
  if c.present then linkStopLocked c else return c

/-- `x1_diag_link_register`; `given` says that both pointers are there. -/
def diagLinkRegister (given : Bool) (c : Control) : Control × ℤ :=
  if given = false ∨ c.present = false ∨ c.stopped ∨ c.connect then (c, -eperm)
  else ({ c with connect := true }, 0)

def toRet : Except ℤ Unit → ℤ
  | .error e => e
  | .ok _ => 0

/-- `x1_diag_link_run` from where the attempt is noted to where the link is stopped. -/
def linkAttempt (disabled : Bool) (word : BitVec 32) (c : Control) :
    Dialog RingCall RingReply (Control × ℤ) := do
  if word ≠ 0x2501 ∧ word ≠ 0x2701 then return (c, -eperm)
  let valid ← ask .valid
  if valid.ok = false then return (c, -eperm)
  let now ← ask .jiffies
  let (s, ret) ← serve (carryOut crc32c) (enumerate disabled word).run
    ⟨c.nextTx, c.nextRx, now.now + 20000, 0⟩
  return ({ c with nextTx := s.nextTx, nextRx := s.nextRx }, toRet ret)

/-- `x1_diag_link_run`; `board` says that the board and its properties are the right ones. -/
def diagLinkRun (disabled board : Bool) (word : BitVec 32) (c : Control) :
    Dialog RingCall RingReply (Control × ℤ) := do
  if c.present = false ∨ c.stopped ∨ c.linkAttempted ∨ c.connect = false ∨ board = false then
    return (c, -eperm)
  let (c, ret) ← linkAttempt crc32c disabled word { c with linkAttempted := true }
  let c ← linkStopLocked c
  return (c, ret)

end YogaUsb4.Link
