import YogaUsb4.LinkPacket

/-!
The inventory of a router: the headers of its adapters, and the chains of capabilities that start
there and in the router's own header. The replies come from the device and may be anything.
-/

namespace YogaUsb4.Topology

open Dialog LinkPacket

/-! ### The code -/

/-- What a read is for; the callback does not learn it. -/
inductive Purpose where
  | adapter | header | body | router
  deriving DecidableEq

/-- The callbacks of `struct x1_topology`; a report has the words that it passes on. -/
inductive Call where
  | read (what : Purpose) (route port space offset words : BitVec 32)
  | report (text : String) (route port offset : BitVec 32) (data : List (BitVec 32))
  deriving DecidableEq

/-- What `read` returns, and the words that it stores. -/
structure Reply where
  ret : ℤ := 0
  word : ℕ → BitVec 32 := fun _ => 0

/-- The counters of `struct x1_topology`. -/
structure Topo where
  reads : ℕ := 0
  adapters : ℕ := 0
  caps : ℕ := 0
  lanes : ℕ := 0
  pcieUp : ℕ := 0
  pcieDown : ℕ := 0
  skipped : ℕ := 0

abbrev TopoAct := Act Call Reply Topo

def readLimit : ℕ := 128
def capLimit : ℕ := 16

/-- The spec of a read; its sequence number is 0. -/
def spec (route port space offset words : BitVec 32) : ReadSpec :=
  ⟨route, port, space, offset, words, 0⟩

/-- `x1_topo_read`: its result, and the words if that is 0. -/
def topoRead (t : Topo) (what : Purpose) (route port space offset words : BitVec 32) :
    Dialog Call Reply (Topo × ℤ × (ℕ → BitVec 32)) :=
  match readAddress (spec route port space offset words) with
  | .error e => return (t, e, fun _ => 0)
  | .ok _ => do
    if t.reads ≥ readLimit then return (t, -enospc, fun _ => 0)
    let r ← ask (.read what route port space offset words)
    return ({ t with reads := t.reads + 1 }, r.ret, r.word)

/-! The fields of a capability header; port 0 is the router itself. -/

def capSpace (port : BitVec 32) : BitVec 32 := if port = 0 then 2 else 1
def capWords (port : BitVec 32) : BitVec 32 := if port = 0 then 2 else 1
def firstCap (port : BitVec 32) : BitVec 32 := if port = 0 then 9 else 8
def capId (data : ℕ → BitVec 32) : BitVec 32 := (data 0 >>> 8) &&& 0xff

def capNext (port : BitVec 32) (data : ℕ → BitVec 32) : BitVec 32 :=
  if port = 0 ∧ capId data = 5 ∧ data 0 >>> 24 = 0 then data 1 &&& 0xffff else data 0 &&& 0xff

/-- A capability of the router that is not interpreted, nor what follows it. -/
def unknownCap (port : BitVec 32) (data : ℕ → BitVec 32) : Bool :=
  port = 0 ∧ capId data ≠ 3 ∧ capId data ≠ 5

/-- A capability whose second word is read too. -/
def hasBody (port type : BitVec 32) (data : ℕ → BitVec 32) : Bool :=
  port ≠ 0 ∧ ((capId data = 1 ∧ type = 1) ∨ (capId data = 4 ∧
    (type = 0x100101 ∨ type = 0x100102 ∨ type = 0x200101 ∨ type = 0x200102)))

/-- The body of the loop of `x1_topo_caps`: it returns, or goes on with another capability. -/
def capStep (route port type : BitVec 32) (seen : List (BitVec 32)) (cap : BitVec 32) (t : Topo) :
    Dialog Call Reply (Topo × (ℤ ⊕ BitVec 32)) := do
  if cap > 254 then
    -- a known limit of the read window, not a transport failure
    let _ ← ask (.report "CAP_OUTSIDE_WINDOW" route port cap [cap])
    return ({ t with skipped := t.skipped + 1 }, .inl 0)
  if cap < firstCap port ∨ seen.contains cap then return (t, .inl (-eproto))
  let (t, ret, data) ← topoRead t .header route port (capSpace port) cap (capWords port)
  if ret ≠ 0 then return (t, .inl ret)
  let words := (List.range (capWords port).toNat).map data
  if unknownCap port data then
    let _ ← ask (.report "UNKNOWN_ROUTER_CAP" route port cap words)
    return ({ t with skipped := t.skipped + 1 }, .inl 0)
  let t := { t with caps := t.caps + 1 }
  let _ ← ask (.report "CAP" route port cap words)
  if hasBody port type data = false then return (t, .inr (capNext port data))
  let (t, ret, body) ← topoRead t .body route port 1 (cap + 1) 1
  if ret ≠ 0 then return (t, .inl ret)
  let _ ← ask (.report (if capId data = 1 then "PHY" else "PROTOCOL") route port cap
    [data 0, body 0])
  return (if capId data = 1 then { t with lanes := t.lanes + 1 } else t, .inr (capNext port data))

/-- The loop of `x1_topo_caps` with `n` rounds left. -/
def topoCapsFrom (route port type : BitVec 32) : ℕ → List (BitVec 32) → BitVec 32 → TopoAct
  | 0, _, cap => fun t => return (t, if cap ≠ 0 then -eloop else 0)
  | n + 1, seen, cap => fun t => do
    if cap = 0 then return (t, 0)
    let (t, next) ← capStep route port type seen cap t
    match next with
    | .inl ret => return (t, ret)
    | .inr next => topoCapsFrom route port type n (cap :: seen) next t

/-- `x1_topo_caps`. -/
def topoCaps (route port cap type : BitVec 32) : TopoAct :=
  topoCapsFrom route port type capLimit [] cap

/-- What `x1_topology_router` keeps of an adapter's header. -/
structure Adapter where
  port : BitVec 32
  type : BitVec 32
  capHead : BitVec 32

/-- The first loop of `x1_topology_router`, over the ports that are left. -/
def readAdapters (route : BitVec 32) :
    List (BitVec 32) → Topo → Dialog Call Reply (Topo × ℤ × List Adapter)
  | [], t => return (t, 0, [])
  | port :: ports, t => do
    let (t, ret, data) ← topoRead t .adapter route port 1 0 8
    if ret ≠ 0 then return (t, ret, [])
    let t := { t with adapters := t.adapters + 1 }
    let _ ← ask (.report "ADAPTER" route port 0 ((List.range 8).map data))
    let type := data 2 &&& 0xffffff
    let t := if type = 0x100102 ∧ route ≠ 0 then { t with pcieUp := t.pcieUp + 1 } else t
    let t := if type = 0x100101 ∧ route = 0 then { t with pcieDown := t.pcieDown + 1 } else t
    let (t, ret, adapters) ← readAdapters route ports t
    return (t, ret, { port, type, capHead := data 1 &&& 0xff } :: adapters)

/-- A round of the second loop. -/
def walkAdapter (route : BitVec 32) (a : Adapter) : TopoAct := fun t =>
  -- the capabilities of the host interface are not needed
  if (route = 0 ∧ a.port = 1) ∨ a.type = 0 then return (t, 0)
  else topoCaps route a.port a.capHead a.type t

/-- The router's own words and capabilities. -/
def walkRouter (route : BitVec 32) (header : ℕ → BitVec 32) : TopoAct := fun t => do
  let (t, ret, data) ← topoRead t .router route 0 2 5 4
  if ret ≠ 0 then return (t, ret)
  let _ ← ask (.report "ROUTER" route 0 5 ((List.range 4).map data))
  topoCaps route 0 (header 1 &&& 0xff) 0 t

/-- The two classes of routers that are inventoried. -/
def admittedHeader (route : BitVec 32) (header : ℕ → BitVec 32) : Bool :=
  (route = 0 ∧ header 0 = 0x093805c6 ∧ header 1 = 0x0101c11c ∧ header 2 = 0 ∧
      header 3 = 0x80000000 ∧ header 4 = 0x200010ff) ∨
    (route = 2 ∧ header 0 = 0x113b059f ∧ header 1 = 0x00114120 ∧ header 2 = 2 ∧
      header 3 = 0x80000000 ∧ header 4 = 0x200010ff)

def ports (route : BitVec 32) : List (BitVec 32) :=
  if route = 0 then [1, 2, 3, 4, 5, 6, 7] else [1, 2, 3, 4, 5]

/-- Which pointers that `x1_topology_router` asks for are there. -/
structure Given where
  topology : Bool := true
  read : Bool := true
  report : Bool := true
  header : Bool := true

def Given.all (g : Given) : Bool := g.topology && g.read && g.report && g.header

/-- `x1_topology_router`. -/
def topologyRouter (g : Given) (route : BitVec 32) (header : ℕ → BitVec 32) : TopoAct :=
  fun t => do
    if g.all = false then return (t, -einval)
    if admittedHeader route header = false then return (t, -eperm)
    let (t, ret, adapters) ← readAdapters route (ports route) t
    if ret ≠ 0 then return (t, ret)
    Act.seq (Act.list (adapters.map (walkAdapter route))) (walkRouter route header) t

/-! ### Conversations -/

/-- A header of a capability of `p` that was read. -/
def header? (p : BitVec 32) : Call × Reply → Option (BitVec 32 × Reply)
  | (.read .header _ port _ offset _, r) => if port = p then some (offset, r) else none
  | _ => none

/-- The headers of the capabilities of `p` that were read, in order. -/
def headers (p : BitVec 32) (tr : List (Call × Reply)) : List (BitVec 32 × Reply) :=
  tr.filterMap (header? p)

def Call.isRead : Call → Bool
  | .read .. => true
  | .report .. => false

def readCount (tr : List (Call × Reply)) : ℕ := tr.countP (·.1.isRead)

/-- A read is one that `x1_read_address` admits. -/
def Call.Admitted : Call → Prop
  | .read _ route port space offset words => (spec route port space offset words).Admitted
  | .report .. => True

@[simp] lemma headers_nil (p : BitVec 32) : headers p [] = [] := rfl

@[simp] lemma headers_append (p : BitVec 32) (tr u : List (Call × Reply)) :
    headers p (tr ++ u) = headers p tr ++ headers p u := List.filterMap_append

@[simp] lemma readCount_append (tr u : List (Call × Reply)) :
    readCount (tr ++ u) = readCount tr + readCount u := List.countP_append

variable {t t' : Topo} {tr : List (Call × Reply)} {ret : ℤ} {word : ℕ → BitVec 32}
variable {what : Purpose} {route port space offset words type cap : BitVec 32}
variable {seen : List (BitVec 32)} {next : ℤ ⊕ BitVec 32}

lemma does_topoRead
    (hadm : (spec route port space offset words).Admitted)
    (h : Does (topoRead t what route port space offset words) tr (t', ret, word)) :
    (readLimit ≤ t.reads ∧ tr = [] ∧ t' = t ∧ ret = -enospc) ∨
      ∃ r, t.reads < readLimit ∧ tr = [(.read what route port space offset words, r)] ∧
        t' = { t with reads := t.reads + 1 } ∧ ret = r.ret ∧ word = r.word := by
  have hrefused : (spec route port space offset words).refused = false := hadm
  simp only [topoRead, readAddress, hrefused, Bool.false_eq_true, if_false] at h
  split at h
  · obtain ⟨rfl, heq⟩ := does_pure.1 h
    obtain ⟨rfl, rfl, rfl⟩ : t' = t ∧ ret = -enospc ∧ word = _ := by simpa using heq
    exact .inl ⟨‹_›, rfl, rfl, rfl⟩
  · obtain ⟨r, u, rfl, hend⟩ := does_ask_bind.1 h
    obtain ⟨rfl, heq⟩ := does_pure.1 hend
    obtain ⟨rfl, rfl, rfl⟩ : t' = _ ∧ ret = r.ret ∧ word = r.word := by simpa using heq
    exact .inr ⟨r, Nat.lt_of_not_le ‹_›, rfl, rfl, rfl, rfl⟩

/-- What is known of a run that counts from `n` to `n'`: the reads are counted, kept below the
limit and admitted, and an invalid argument is the answer of a callback. -/
structure Sound (n : ℕ) (tr : List (Call × Reply)) (n' : ℕ) (ret : ℤ) : Prop where
  reads : n' = n + readCount tr
  limit : n ≤ readLimit → n' ≤ readLimit
  admitted : ∀ x ∈ tr, x.1.Admitted
  invalid : ret = -einval → ∃ x ∈ tr, x.1.isRead ∧ x.2.ret = -einval

section Sound

variable {n n' : ℕ}

lemma Sound.stop (n : ℕ) (h : ret ≠ -einval) : Sound n [] n ret :=
  ⟨rfl, id, nofun, fun h' => absurd h' h⟩

lemma Sound.append {u : List (Call × Reply)} {n'' : ℕ} {ret' : ℤ} (h : Sound n tr n' ret)
    (h' : Sound n' u n'' ret') : Sound n (tr ++ u) n'' ret' := by
  refine ⟨?_, fun hle => h'.limit (h.limit hle), ?_, fun hret => ?_⟩
  · rw [h'.reads, h.reads, readCount_append, Nat.add_assoc]
  · intro x hx
    rcases List.mem_append.1 hx with hx | hx
    · exact h.admitted x hx
    · exact h'.admitted x hx
  · obtain ⟨x, hx, hinv⟩ := h'.invalid hret
    exact ⟨x, List.mem_append_right _ hx, hinv⟩

lemma Sound.report (n : ℕ) {q : Call} (a : Reply) (hq : q.isRead = false) :
    Sound n [(q, a)] n 0 := by
  cases q with
  | read => cases hq
  | report => exact ⟨rfl, id, by simp [Call.Admitted], nofun⟩

lemma Sound.read {r : Reply} (hadm : (spec route port space offset words).Admitted)
    (hb : n < readLimit) :
    Sound n [(.read what route port space offset words, r)] (n + 1) r.ret := by
  refine ⟨rfl, fun _ => hb, ?_, fun hret => ?_⟩
  · simpa [Call.Admitted] using hadm
  · exact ⟨_, List.mem_singleton_self _, rfl, hret⟩

end Sound

/-! ### One capability -/

/-- The router and the port of a chain. -/
structure Place (route port : BitVec 32) : Prop where
  known : route = 0 ∨ route = 2
  small : port ≤ 7
  external : route ≠ 0 → port ≤ 5

/-- An offset where the header of a capability may be read. -/
structure Fresh (port : BitVec 32) (seen : List (BitVec 32)) (cap : BitVec 32) : Prop where
  first : firstCap port ≤ cap
  window : cap ≤ 254
  unseen : cap ∉ seen

lemma Place.admitted_port (hp : Place route port) (h0 : port ≠ 0) (hw : words ≠ 0 ∧ words ≤ 8)
    (ho : offset ≤ 255) (hend : offset + words ≤ 256) :
    (spec route port 1 offset words).Admitted := by
  obtain ⟨hroute, hport, hext⟩ := hp
  unfold ReadSpec.Admitted ReadSpec.refused spec
  rcases hroute with rfl | rfl
  · simp
    bv_omega
  · have := hext (by decide)
    simp
    bv_omega

lemma Place.admitted_router (hp : Place route port)
    (h : (9 ≤ offset ∧ offset ≤ 254 ∧ words = 2) ∨ (offset = 5 ∧ words = 4)) :
    (spec route 0 2 offset words).Admitted := by
  unfold ReadSpec.Admitted ReadSpec.refused spec
  rcases hp.known with rfl | rfl
  · simp
    bv_omega
  · simp
    bv_omega

lemma Place.admitted_header (hp : Place route port) (hc : Fresh port seen cap) :
    (spec route port (capSpace port) cap (capWords port)).Admitted := by
  obtain ⟨hfirst, hwindow, -⟩ := hc
  unfold capSpace capWords
  unfold firstCap at hfirst
  split
  · subst port
    rw [if_pos rfl] at hfirst
    exact hp.admitted_router (.inl ⟨hfirst, hwindow, rfl⟩)
  · exact hp.admitted_port ‹_› (by decide) (by bv_omega) (by bv_omega)

/-- Everything that can happen at one capability. -/
inductive CapStep (route port type : BitVec 32) (seen : List (BitVec 32)) (cap : BitVec 32)
    (t : Topo) : List (Call × Reply) → Topo → ℤ ⊕ BitVec 32 → Prop
  | outside {t' q a} (h : 254 < cap) (hq : q.isRead = false) (ht : t'.reads = t.reads) :
      CapStep route port type seen cap t [(q, a)] t' (.inl 0)
  | refused (h : cap < firstCap port ∨ cap ∈ seen) :
      CapStep route port type seen cap t [] t (.inl (-eproto))
  | spent (hc : Fresh port seen cap) (hb : readLimit ≤ t.reads) :
      CapStep route port type seen cap t [] t (.inl (-enospc))
  | failed {t' r} (hc : Fresh port seen cap) (hb : t.reads < readLimit) (hr : r.ret ≠ 0)
      (ht : t'.reads = t.reads + 1) :
      CapStep route port type seen cap t
        [(.read .header route port (capSpace port) cap (capWords port), r)] t' (.inl r.ret)
  | unknown {t' r q a} (hc : Fresh port seen cap) (hb : t.reads < readLimit) (hr : r.ret = 0)
      (hu : unknownCap port r.word) (hq : q.isRead = false) (ht : t'.reads = t.reads + 1) :
      CapStep route port type seen cap t
        [(.read .header route port (capSpace port) cap (capWords port), r), (q, a)] t' (.inl 0)
  | plain {t' r q a} (hc : Fresh port seen cap) (hb : t.reads < readLimit) (hr : r.ret = 0)
      (hu : unknownCap port r.word = false) (hbody : hasBody port type r.word = false)
      (hq : q.isRead = false) (ht : t'.reads = t.reads + 1) :
      CapStep route port type seen cap t
        [(.read .header route port (capSpace port) cap (capWords port), r), (q, a)] t'
        (.inr (capNext port r.word))
  | bodySpent {t' r q a} (hc : Fresh port seen cap) (hb : t.reads < readLimit) (hr : r.ret = 0)
      (hu : unknownCap port r.word = false) (hbody : hasBody port type r.word)
      (hq : q.isRead = false) (ht : t'.reads = t.reads + 1) (hb' : readLimit ≤ t.reads + 1) :
      CapStep route port type seen cap t
        [(.read .header route port (capSpace port) cap (capWords port), r), (q, a)] t'
        (.inl (-enospc))
  | bodyFailed {t' r q a b} (hc : Fresh port seen cap) (hb : t.reads < readLimit) (hr : r.ret = 0)
      (hu : unknownCap port r.word = false) (hbody : hasBody port type r.word)
      (hq : q.isRead = false) (hb' : t.reads + 1 < readLimit) (hr' : b.ret ≠ 0)
      (ht : t'.reads = t.reads + 2) :
      CapStep route port type seen cap t
        [(.read .header route port (capSpace port) cap (capWords port), r), (q, a),
          (.read .body route port 1 (cap + 1) 1, b)] t' (.inl b.ret)
  | body {t' r q a b q' a'} (hc : Fresh port seen cap) (hb : t.reads < readLimit)
      (hr : r.ret = 0) (hu : unknownCap port r.word = false) (hbody : hasBody port type r.word)
      (hq : q.isRead = false) (hb' : t.reads + 1 < readLimit) (hr' : b.ret = 0)
      (hq' : q'.isRead = false) (ht : t'.reads = t.reads + 2) :
      CapStep route port type seen cap t
        [(.read .header route port (capSpace port) cap (capWords port), r), (q, a),
          (.read .body route port 1 (cap + 1) 1, b), (q', a')] t' (.inr (capNext port r.word))

lemma hasBody.port_ne_zero {data : ℕ → BitVec 32} (h : hasBody port type data) : port ≠ 0 := by
  simp only [hasBody, decide_eq_true_eq] at h
  exact h.1

lemma Place.admitted_body (hp : Place route port) {data : ℕ → BitVec 32}
    (hbody : hasBody port type data) (hc : Fresh port seen cap) :
    (spec route port 1 (cap + 1) 1).Admitted := by
  have := hc.window
  exact hp.admitted_port (hasBody.port_ne_zero hbody) (by decide) (by bv_omega) (by bv_omega)

theorem does_capStep (hp : Place route port)
    (h : Does (capStep route port type seen cap t) tr (t', next)) :
    CapStep route port type seen cap t tr t' next := by
  unfold capStep at h
  dsimp only at h
  split at h
  · obtain ⟨a, u, rfl, hend⟩ := does_ask_bind.1 h
    obtain ⟨rfl, rfl, rfl⟩ := Act.does_return.1 hend
    exact .outside ‹_› rfl rfl
  rename_i hwindow
  simp only [List.contains_iff_mem] at h
  split at h
  · obtain ⟨rfl, rfl, rfl⟩ := Act.does_return.1 h
    exact .refused ‹_›
  rename_i hnew
  rw [not_or] at hnew
  have hc : Fresh port seen cap := ⟨by bv_omega, by bv_omega, hnew.2⟩
  obtain ⟨tr₁, ⟨t₁, ret, data⟩, u, rfl, hread, hrest⟩ := does_bind.1 h
  rcases does_topoRead (hp.admitted_header hc) hread with
    ⟨hb, rfl, rfl, rfl⟩ | ⟨r, hb, rfl, rfl, rfl, rfl⟩
  · rw [if_pos (by simp [enospc])] at hrest
    obtain ⟨rfl, rfl, rfl⟩ := Act.does_return.1 hrest
    exact .spent hc hb
  dsimp only at hrest
  split at hrest
  · obtain ⟨rfl, rfl, rfl⟩ := Act.does_return.1 hrest
    exact .failed hc hb ‹_› rfl
  rename_i hr
  rw [not_not] at hr
  split at hrest
  · obtain ⟨a, u, rfl, hend⟩ := does_ask_bind.1 hrest
    obtain ⟨rfl, rfl, rfl⟩ := Act.does_return.1 hend
    exact .unknown hc hb hr ‹_› rfl rfl
  rename_i hu
  rw [Bool.not_eq_true] at hu
  obtain ⟨a, u, rfl, hknown⟩ := does_ask_bind.1 hrest
  split at hknown
  · obtain ⟨rfl, rfl, rfl⟩ := Act.does_return.1 hknown
    exact .plain hc hb hr hu ‹_› rfl rfl
  rename_i hbody
  rw [Bool.not_eq_false] at hbody
  obtain ⟨tr₂, ⟨t₂, ret, data⟩, v, rfl, hread', hbodied⟩ := does_bind.1 hknown
  rcases does_topoRead (hp.admitted_body hbody hc) hread' with
    ⟨hb', rfl, rfl, rfl⟩ | ⟨b, hb', rfl, rfl, rfl, rfl⟩
  · rw [if_pos (by simp [enospc])] at hbodied
    obtain ⟨rfl, rfl, rfl⟩ := Act.does_return.1 hbodied
    exact .bodySpent hc hb hr hu hbody rfl rfl hb'
  dsimp only at hbodied
  split at hbodied
  · obtain ⟨rfl, rfl, rfl⟩ := Act.does_return.1 hbodied
    exact .bodyFailed hc hb hr hu hbody rfl hb' ‹_› rfl
  rename_i hr'
  rw [not_not] at hr'
  obtain ⟨a', w, rfl, hend⟩ := does_ask_bind.1 hbodied
  obtain ⟨rfl, rfl, rfl⟩ := Act.does_return.1 hend
  refine .body hc hb hr hu hbody rfl hb' hr' rfl ?_
  split <;> rfl

lemma enospc_ne : (-enospc : ℤ) ≠ -einval := by decide

/-- What a round returns; 0 if the loop goes on. -/
def result : ℤ ⊕ BitVec 32 → ℤ
  | .inl ret => ret
  | .inr _ => 0

lemma CapStep.sound (hp : Place route port) (h : CapStep route port type seen cap t tr t' next) :
    Sound t.reads tr t'.reads (result next) := by
  cases h with
  | outside h hq ht =>
    rw [ht]
    exact .report _ _ hq
  | refused h => exact .stop _ (by decide)
  | spent hc hb => exact .stop _ (by decide)
  | failed hc hb hr ht =>
    rw [ht]
    exact .read (hp.admitted_header hc) hb
  | unknown hc hb hr hu hq ht =>
    rw [ht]
    exact (Sound.read (hp.admitted_header hc) hb).append (.report _ _ hq)
  | plain hc hb hr hu hbody hq ht =>
    rw [ht]
    exact (Sound.read (hp.admitted_header hc) hb).append (.report _ _ hq)
  | bodySpent hc hb hr hu hbody hq ht hb' =>
    rw [ht]
    exact ((Sound.read (hp.admitted_header hc) hb).append (.report _ _ hq)).append
      (.stop _ enospc_ne)
  | bodyFailed hc hb hr hu hbody hq hb' hr' ht =>
    rw [ht]
    exact ((Sound.read (hp.admitted_header hc) hb).append (.report _ _ hq)).append
      (.read (hp.admitted_body hbody hc) hb')
  | body hc hb hr hu hbody hq hb' hr' hq' ht =>
    rw [ht]
    exact (((Sound.read (hp.admitted_header hc) hb).append (.report _ _ hq)).append
      (.read (hp.admitted_body hbody hc) hb')).append (.report _ _ hq')

lemma CapStep.length_le (h : CapStep route port type seen cap t tr t' next) : tr.length ≤ 4 := by
  cases h <;> simp

@[simp] lemma headers_cons_report (p : BitVec 32) {q : Call} (a : Reply)
    (tr : List (Call × Reply)) (hq : q.isRead = false) :
    headers p ((q, a) :: tr) = headers p tr := by
  cases q with
  | read => cases hq
  | report => rfl

@[simp] lemma headers_cons_read (p : BitVec 32) (r : Reply) (tr : List (Call × Reply)) :
    headers p ((.read what route port space offset words, r) :: tr) =
      if what = .header ∧ port = p then (offset, r) :: headers p tr else headers p tr := by
  by_cases hp : port = p <;> cases what <;>
    simp [headers, header?, hp, List.filterMap_cons]

lemma CapStep.headers_of_ne {p : BitVec 32} (hne : port ≠ p)
    (h : CapStep route port type seen cap t tr t' next) : headers p tr = [] := by
  cases h <;> simp [*]

/-- Where the walk goes after a header. -/
def nextCap (port : BitVec 32) (r : Reply) : Option (BitVec 32) :=
  if unknownCap port r.word then none else some (capNext port r.word)

lemma CapStep.headers_cases (h : CapStep route port type seen cap t tr t' next) :
    (∃ ret, headers port tr = [] ∧ next = .inl ret ∧ (ret = 0 → 254 < cap)) ∨
      ∃ r, Fresh port seen cap ∧ headers port tr = [(cap, r)] ∧
        ((∃ c, next = .inr c ∧ nextCap port r = some c) ∨
          ∃ ret, next = .inl ret ∧ (ret = 0 → nextCap port r = none)) := by
  cases h with
  | outside h hq ht => exact .inl ⟨0, by simp [hq], rfl, fun _ => h⟩
  | refused h => exact .inl ⟨_, rfl, rfl, by simp [eproto]⟩
  | spent hc hb => exact .inl ⟨_, rfl, rfl, by simp [enospc]⟩
  | @failed t' r hc hb hr ht =>
    exact .inr ⟨r, hc, by simp, .inr ⟨_, rfl, fun h => absurd h hr⟩⟩
  | @unknown t' r q a hc hb hr hu hq ht =>
    exact .inr ⟨r, hc, by simp [hq], .inr ⟨_, rfl, fun _ => by simp [nextCap, hu]⟩⟩
  | @plain t' r q a hc hb hr hu hbody hq ht =>
    exact .inr ⟨r, hc, by simp [hq], .inl ⟨_, rfl, by simp [nextCap, hu]⟩⟩
  | @bodySpent t' r q a hc hb hr hu hbody hq ht hb' =>
    exact .inr ⟨r, hc, by simp [hq], .inr ⟨_, rfl, by simp [enospc]⟩⟩
  | @bodyFailed t' r q a b hc hb hr hu hbody hq hb' hr' ht =>
    exact .inr ⟨r, hc, by simp [hq], .inr ⟨_, rfl, fun h => absurd h hr'⟩⟩
  | @body t' r q a b q' a' hc hb hr hu hbody hq hb' hr' hq' ht =>
    exact .inr ⟨r, hc, by simp [hq, hq'], .inl ⟨_, rfl, by simp [nextCap, hu]⟩⟩

/-! ### A chain -/

variable {n : ℕ}

lemma does_topoCapsFrom (h : Does (topoCapsFrom route port type (n + 1) seen cap t) tr (t', ret)) :
    (cap = 0 ∧ tr = [] ∧ t' = t ∧ ret = 0) ∨
      cap ≠ 0 ∧ ∃ tr₁ t₁ next u, tr = tr₁ ++ u ∧
        Does (capStep route port type seen cap t) tr₁ (t₁, next) ∧
          ((next = .inl ret ∧ u = [] ∧ t' = t₁) ∨ ∃ c, next = .inr c ∧
            Does (topoCapsFrom route port type n (cap :: seen) c t₁) u (t', ret)) := by
  unfold topoCapsFrom at h
  split at h
  · obtain ⟨rfl, rfl, rfl⟩ := Act.does_return.1 h
    exact .inl ⟨‹_›, rfl, rfl, rfl⟩
  · obtain ⟨tr₁, ⟨t₁, next⟩, u, rfl, hstep, hrest⟩ := does_bind.1 h
    refine .inr ⟨‹_›, tr₁, t₁, next, u, rfl, hstep, ?_⟩
    cases next with
    | inl e =>
      obtain ⟨rfl, rfl, rfl⟩ := Act.does_return.1 hrest
      exact .inl ⟨rfl, rfl, rfl⟩
    | inr c => exact .inr ⟨c, rfl, hrest⟩

lemma does_topoCapsFrom_zero
    (h : Does (topoCapsFrom route port type 0 seen cap t) tr (t', ret)) :
    tr = [] ∧ t' = t ∧ ret = if cap ≠ 0 then -eloop else 0 := Act.does_return.1 h

lemma sound_topoCapsFrom (hp : Place route port)
    (h : Does (topoCapsFrom route port type n seen cap t) tr (t', ret)) :
    Sound t.reads tr t'.reads ret := by
  induction n generalizing seen cap t tr with
  | zero =>
    obtain ⟨rfl, rfl, rfl⟩ := does_topoCapsFrom_zero h
    refine .stop _ ?_
    split <;> decide
  | succ n ih =>
    rcases does_topoCapsFrom h with ⟨-, rfl, rfl, rfl⟩ | ⟨-, tr₁, t₁, next, u, rfl, hstep, hrest⟩
    · exact .stop _ (by decide)
    have hsound := (does_capStep hp hstep).sound hp
    rcases hrest with ⟨rfl, rfl, rfl⟩ | ⟨c, rfl, hrec⟩
    · rw [List.append_nil]
      exact hsound
    · exact hsound.append (ih hrec)

lemma length_topoCapsFrom (hp : Place route port)
    (h : Does (topoCapsFrom route port type n seen cap t) tr (t', ret)) : tr.length ≤ 4 * n := by
  induction n generalizing seen cap t tr with
  | zero =>
    obtain ⟨rfl, -, -⟩ := does_topoCapsFrom_zero h
    exact Nat.zero_le _
  | succ n ih =>
    rcases does_topoCapsFrom h with ⟨-, rfl, -, -⟩ | ⟨-, tr₁, t₁, next, u, rfl, hstep, hrest⟩
    · exact Nat.zero_le _
    have hlen := (does_capStep hp hstep).length_le
    rw [List.length_append]
    rcases hrest with ⟨-, rfl, -⟩ | ⟨c, -, hrec⟩
    · simp only [List.length_nil]
      omega
    · have := ih hrec
      omega

lemma headers_topoCapsFrom_of_ne {p : BitVec 32} (hne : port ≠ p) (hp : Place route port)
    (h : Does (topoCapsFrom route port type n seen cap t) tr (t', ret)) : headers p tr = [] := by
  induction n generalizing seen cap t tr with
  | zero =>
    obtain ⟨rfl, -, -⟩ := does_topoCapsFrom_zero h
    rfl
  | succ n ih =>
    rcases does_topoCapsFrom h with ⟨-, rfl, -, -⟩ | ⟨-, tr₁, t₁, next, u, rfl, hstep, hrest⟩
    · rfl
    rw [headers_append, (does_capStep hp hstep).headers_of_ne hne]
    rcases hrest with ⟨-, rfl, -⟩ | ⟨c, -, hrec⟩
    · rfl
    · exact ih hrec

/-- Where a walk stands that started at `cap` and has read the headers `hs`; nowhere behind one
that it does not interpret. -/
def after (port cap : BitVec 32) (hs : List (BitVec 32 × Reply)) : Option (BitVec 32) :=
  match hs.getLast? with
  | none => some cap
  | some x => nextCap port x.2

/-- A walk from `cap` over the headers `hs`, of at most `n` and none of them in `seen`. -/
structure Followed (port : BitVec 32) (n : ℕ) (seen : List (BitVec 32)) (cap : BitVec 32)
    (hs : List (BitVec 32 × Reply)) (ret : ℤ) : Prop where
  starts : ∀ x ∈ hs.head?, x.1 = cap
  linked : hs.IsChain fun x y => nextCap port x.2 = some y.1
  distinct : (hs.map Prod.fst).Nodup
  unseen : ∀ x ∈ hs, x.1 ∉ seen
  short : hs.length ≤ n
  /-- A chain that returns to an offset is an error. -/
  returns : ∀ c, after port cap hs = some c → c ∈ seen ∨ c ∈ hs.map Prod.fst → ret ≠ 0
  /-- So is one that goes on after `n` capabilities. -/
  overlong : ∀ c, after port cap hs = some c → hs.length = n → c ≠ 0 → ret ≠ 0

lemma after_cons {r : Reply} {c : BitVec 32} (hs : List (BitVec 32 × Reply))
    (h : nextCap port r = some c) : after port cap ((cap, r) :: hs) = after port c hs := by
  cases hs with
  | nil => simpa [after] using h
  | cons x hs => simp only [after, List.getLast?_cons, Option.getD_some]

lemma Followed.nil (hseen : cap ∈ seen → ret ≠ 0) (hn : n = 0 → cap ≠ 0 → ret ≠ 0) :
    Followed port n seen cap [] ret where
  starts := by simp
  linked := .nil
  distinct := List.nodup_nil
  unseen := by simp
  short := Nat.zero_le n
  returns c hc hmem := by
    obtain rfl : cap = c := by simpa [after] using hc
    exact hseen (by simpa using hmem)
  overlong c hc hlen := by
    obtain rfl : cap = c := by simpa [after] using hc
    exact hn hlen.symm

lemma Followed.last {r : Reply} (hc : cap ∉ seen) (hret : ret = 0 → nextCap port r = none) :
    Followed port (n + 1) seen cap [(cap, r)] ret := by
  have hne : ∀ c, after port cap [(cap, r)] = some c → ret ≠ 0 := by
    intro c hafter h0
    rw [show after port cap [(cap, r)] = nextCap port r from rfl, hret h0] at hafter
    exact Option.some_ne_none c hafter.symm
  exact ⟨by simp, .singleton _, by simp, by simpa using hc, by simp,
    fun c hafter _ => hne c hafter, fun c hafter _ _ => hne c hafter⟩

lemma Followed.cons {r : Reply} {c : BitVec 32} {hs : List (BitVec 32 × Reply)} (hc : cap ∉ seen)
    (hnext : nextCap port r = some c) (h : Followed port n (cap :: seen) c hs ret) :
    Followed port (n + 1) seen cap ((cap, r) :: hs) ret where
  starts := by simp
  linked := by
    cases hs with
    | nil => exact .singleton _
    | cons x hs => exact .cons_cons (hnext.trans (congrArg some (h.starts x rfl).symm)) h.linked
  distinct := by
    refine List.nodup_cons.2 ⟨fun hmem => ?_, h.distinct⟩
    obtain ⟨x, hx, heq⟩ := List.mem_map.1 hmem
    exact h.unseen x hx (heq ▸ List.mem_cons_self)
  unseen := List.forall_mem_cons.2
    ⟨hc, fun x hx hmem => h.unseen x hx (List.mem_cons_of_mem _ hmem)⟩
  short := Nat.succ_le_succ h.short
  returns d hd hmem := by
    rw [after_cons hs hnext] at hd
    refine h.returns d hd ?_
    simp only [List.map_cons, List.mem_cons] at hmem ⊢
    tauto
  overlong d hd hlen := by
    rw [after_cons hs hnext] at hd
    exact h.overlong d hd (Nat.succ.inj hlen)

/-- Every walk, whatever the device answers. -/
theorem followed_topoCapsFrom (hp : Place route port) (hseen : ∀ x ∈ seen, x ≠ 0 ∧ x ≤ 254)
    (h : Does (topoCapsFrom route port type n seen cap t) tr (t', ret)) :
    Followed port n seen cap (headers port tr) ret := by
  induction n generalizing seen cap t tr with
  | zero =>
    obtain ⟨rfl, rfl, rfl⟩ := does_topoCapsFrom_zero h
    have hret : cap ≠ 0 → (if cap ≠ 0 then -eloop else 0) ≠ 0 := fun h => by
      rw [if_pos h]
      decide
    exact .nil (fun hmem => hret (hseen cap hmem).1) fun _ => hret
  | succ n ih =>
    rcases does_topoCapsFrom h with ⟨rfl, rfl, rfl, rfl⟩ | ⟨h0, tr₁, t₁, next, u, rfl, hstep, hrest⟩
    · exact .nil (fun hmem => absurd rfl (hseen 0 hmem).1) nofun
    rw [headers_append]
    rcases (does_capStep hp hstep).headers_cases with
      ⟨e, hnone, rfl, hout⟩ | ⟨r, hc, hone, hgo⟩
    · -- it stopped before the header
      rcases hrest with ⟨heq, rfl, rfl⟩ | ⟨c, heq, -⟩
      · obtain rfl := Sum.inl.inj heq
        rw [hnone]
        refine .nil (fun hmem he => ?_) nofun
        have := (hseen cap hmem).2
        have := hout he
        bv_omega
      · cases heq
    · rw [hone]
      rcases hgo with ⟨c, rfl, hnext⟩ | ⟨e, rfl, hstop⟩
      · rcases hrest with ⟨heq, -⟩ | ⟨c', heq, hrec⟩
        · cases heq
        · obtain rfl := Sum.inr.inj heq
          exact Followed.cons hc.unseen hnext
            (ih (List.forall_mem_cons.2 ⟨⟨h0, hc.window⟩, hseen⟩) hrec)
      · rcases hrest with ⟨heq, rfl, rfl⟩ | ⟨c, heq, -⟩
        · obtain rfl := Sum.inl.inj heq
          exact .last hc.unseen hstop
        · cases heq

/-! ### Chains of a device -/

/-- What a device holds, by port, space and offset. -/
abbrev Memory := BitVec 32 → BitVec 32 → BitVec 32 → BitVec 32

/-- Every read succeeded, and got what the device holds. -/
def Answers (m : Memory) (tr : List (Call × Reply)) : Prop :=
  ∀ what route port space offset words r, (.read what route port space offset words, r) ∈ tr →
    r.ret = 0 ∧ ∀ i < words.toNat, r.word i = m port space (offset + BitVec.ofNat 32 i)

variable {m : Memory} {l : List (BitVec 32)}

def capData (m : Memory) (port offset : BitVec 32) (i : ℕ) : BitVec 32 :=
  m port (capSpace port) (offset + BitVec.ofNat 32 i)

/-- The pointers lead from `cap` over the offsets of the list to 0. -/
def Leads (m : Memory) (port : BitVec 32) : BitVec 32 → List (BitVec 32) → Prop
  | cap, [] => cap = 0
  | cap, c :: l => cap = c ∧ Leads m port (capNext port (capData m port c)) l

/-- A chain of at most `n` capabilities in the window, with distinct offsets, that ends in 0. -/
structure Chain (m : Memory) (port : BitVec 32) (n : ℕ) (cap : BitVec 32) (l : List (BitVec 32)) :
    Prop where
  leads : Leads m port cap l
  short : l.length ≤ n
  distinct : l.Nodup
  window : ∀ c ∈ l, firstCap port ≤ c ∧ c ≤ 254

/-- The reads that it takes: a header and maybe a body for each capability, up to the first that is
not interpreted. -/
def cost (m : Memory) (port type : BitVec 32) : List (BitVec 32) → ℕ
  | [] => 0
  | c :: l =>
    if unknownCap port (capData m port c) then 1
    else (if hasBody port type (capData m port c) then 2 else 1) + cost m port type l

lemma Answers.append_left {u : List (Call × Reply)} (h : Answers m (tr ++ u)) : Answers m tr :=
  fun _ _ _ _ _ _ _ hmem => h _ _ _ _ _ _ _ (List.mem_append_left _ hmem)

lemma Answers.append_right {u : List (Call × Reply)} (h : Answers m (tr ++ u)) : Answers m u :=
  fun _ _ _ _ _ _ _ hmem => h _ _ _ _ _ _ _ (List.mem_append_right _ hmem)

lemma fields_congr {data data' : ℕ → BitVec 32}
    (h : ∀ i < (capWords port).toNat, data i = data' i) :
    unknownCap port data = unknownCap port data' ∧
      (∀ type, hasBody port type data = hasBody port type data') ∧
        capNext port data = capNext port data' := by
  have h0 : data 0 = data' 0 := h 0 (by unfold capWords; split <;> decide)
  have hid : capId data = capId data' := by rw [capId, capId, h0]
  refine ⟨by rw [unknownCap, unknownCap, hid], fun type => by rw [hasBody, hasBody, hid], ?_⟩
  by_cases hport : port = 0
  · have h1 : data 1 = data' 1 := h 1 (by rw [capWords, if_pos hport]; decide)
    rw [capNext, capNext, hid, h0, h1]
  · rw [capNext, capNext, if_neg fun h => hport h.1, if_neg fun h => hport h.1, h0]

lemma Answers.header {r : Reply} (hm : Answers m tr)
    (hmem : (.read what route port (capSpace port) cap (capWords port), r) ∈ tr) :
    r.ret = 0 ∧ unknownCap port r.word = unknownCap port (capData m port cap) ∧
      (∀ type, hasBody port type r.word = hasBody port type (capData m port cap)) ∧
        capNext port r.word = capNext port (capData m port cap) :=
  have h := hm _ _ _ _ _ _ _ hmem
  ⟨h.1, fields_congr h.2⟩

lemma firstCap_ne_zero : 0 < firstCap port := by
  unfold firstCap
  split <;> decide

lemma CapStep.accepted (hm : Answers m tr) (hc : Fresh port seen cap)
    (hb : t.reads + cost m port type (cap :: l) ≤ readLimit)
    (h : CapStep route port type seen cap t tr t' next) :
    (next = .inl 0 ∧ t'.reads = t.reads + cost m port type (cap :: l)) ∨
      next = .inr (capNext port (capData m port cap)) ∧
        t'.reads + cost m port type l = t.reads + cost m port type (cap :: l) := by
  -- A header costs a read, so the limit is not reached before it.
  have hpos : 1 ≤ cost m port type (cap :: l) := by
    unfold cost
    split
    · exact Nat.le_refl 1
    · split <;> omega
  cases h with
  | outside h => exact absurd hc.window (by bv_omega)
  | refused h =>
    rcases h with h | h
    · exact absurd hc.first (by bv_omega)
    · exact absurd h hc.unseen
  | spent _ hb' => omega
  | failed _ _ hr => exact absurd (hm.header List.mem_cons_self).1 hr
  | unknown _ _ _ hu _ ht =>
    have hu' := (hm.header List.mem_cons_self).2.1.symm.trans hu
    exact .inl ⟨rfl, by simp [ht, cost, hu']⟩
  | plain _ _ _ hu hbody _ ht =>
    obtain ⟨-, hu', hbody', hnext⟩ := hm.header List.mem_cons_self
    rw [hu] at hu'
    have hbody'' := (hbody' type).symm.trans hbody
    refine .inr ⟨by rw [hnext], ?_⟩
    simp only [cost, ← hu', hbody'', ht, Bool.false_eq_true, if_false]
    omega
  | bodySpent _ _ _ hu hbody _ _ hb' =>
    obtain ⟨-, hu', hbody', -⟩ := hm.header List.mem_cons_self
    rw [hu] at hu'
    have hbody'' := (hbody' type).symm.trans hbody
    simp only [cost, ← hu', hbody'', Bool.false_eq_true, if_false, if_true] at hb
    omega
  | @bodyFailed _ _ _ _ b _ _ _ _ _ _ _ hr' =>
    exact absurd (hm .body route port 1 (cap + 1) 1 b (by simp)).1 hr'
  | body _ _ _ hu hbody _ _ _ _ ht =>
    obtain ⟨-, hu', hbody', hnext⟩ := hm.header List.mem_cons_self
    rw [hu] at hu'
    have hbody'' := (hbody' type).symm.trans hbody
    refine .inr ⟨by rw [hnext], ?_⟩
    simp only [cost, ← hu', hbody'', ht, Bool.false_eq_true, if_false, if_true]
    omega

/-- Every chain of the device is accepted if the budget suffices. -/
theorem accepted_topoCapsFrom (hp : Place route port) (hm : Answers m tr)
    (hl : Chain m port n cap l) (hseen : ∀ c ∈ l, c ∉ seen)
    (hb : t.reads + cost m port type l ≤ readLimit)
    (h : Does (topoCapsFrom route port type n seen cap t) tr (t', ret)) :
    ret = 0 ∧ t'.reads ≤ t.reads + cost m port type l := by
  induction n generalizing seen cap t tr l with
  | zero =>
    obtain ⟨rfl, rfl, rfl⟩ := does_topoCapsFrom_zero h
    obtain rfl : l = [] := List.length_eq_zero_iff.1 (Nat.le_zero.1 hl.short)
    obtain rfl : cap = 0 := hl.leads
    exact ⟨rfl, Nat.le_refl _⟩
  | succ n ih =>
    -- The walk follows the chain `l`, one capability a round.
    cases l with
    | nil =>
      obtain rfl : cap = 0 := hl.leads
      rcases does_topoCapsFrom h with ⟨-, rfl, rfl, rfl⟩ | ⟨h0, -⟩
      · exact ⟨rfl, Nat.le_refl _⟩
      · exact absurd rfl h0
    | cons c l =>
      obtain ⟨rfl, hleads⟩ := hl.leads
      obtain ⟨hfirst, hwindow⟩ := hl.window cap List.mem_cons_self
      obtain ⟨hfresh, hdistinct⟩ := List.nodup_cons.1 hl.distinct
      have hc : Fresh port seen cap := ⟨hfirst, hwindow, hseen cap List.mem_cons_self⟩
      rcases does_topoCapsFrom h with ⟨rfl, -⟩ | ⟨-, tr₁, t₁, next, u, rfl, hstep, hrest⟩
      · have : 0 < firstCap port := firstCap_ne_zero
        exact absurd hfirst (by bv_omega)
      rcases (does_capStep hp hstep).accepted hm.append_left hc hb with
        ⟨rfl, hreads⟩ | ⟨rfl, hreads⟩
      · rcases hrest with ⟨heq, rfl, rfl⟩ | ⟨d, heq, -⟩
        · exact ⟨(Sum.inl.inj heq).symm, hreads.le⟩
        · cases heq
      · rcases hrest with ⟨heq, -⟩ | ⟨d, heq, hrec⟩
        · cases heq
        · obtain rfl := Sum.inr.inj heq
          have hrest := ih (l := l) hm.append_right
            ⟨hleads, Nat.le_of_succ_le_succ hl.short, hdistinct,
              fun c hc => hl.window c (List.mem_cons_of_mem _ hc)⟩
            (fun d hd hmem => ?_) (by omega) hrec
          · exact ⟨hrest.1, by omega⟩
          · rcases List.mem_cons.1 hmem with rfl | hmem
            · exact hfresh hd
            · exact hseen d (List.mem_cons_of_mem _ hd) hmem

/-! ### The adapters -/

variable {ps : List (BitVec 32)} {as : List Adapter}

def Adapter.of (port : BitVec 32) (data : ℕ → BitVec 32) : Adapter :=
  ⟨port, data 2 &&& 0xffffff, data 1 &&& 0xff⟩

lemma Place.admitted_adapter (hp : Place route port) (h0 : port ≠ 0) :
    (spec route port 1 0 8).Admitted :=
  hp.admitted_port h0 (by decide) (by decide) (by decide)

lemma does_readAdapters_cons (hp : Place route port) (h0 : port ≠ 0)
    (h : Does (readAdapters route (port :: ps) t) tr (t', ret, as)) :
    (readLimit ≤ t.reads ∧ tr = [] ∧ t' = t ∧ ret = -enospc ∧ as = []) ∨
      ∃ r, t.reads < readLimit ∧
        ((r.ret ≠ 0 ∧ tr = [(.read .adapter route port 1 0 8, r)] ∧ ret = r.ret ∧
            t'.reads = t.reads + 1 ∧ as = []) ∨
          r.ret = 0 ∧ ∃ q a t₁ u rest, q.isRead = false ∧ t₁.reads = t.reads + 1 ∧
            tr = (.read .adapter route port 1 0 8, r) :: (q, a) :: u ∧
            Does (readAdapters route ps t₁) u (t', ret, rest) ∧ as = .of port r.word :: rest) := by
  unfold readAdapters at h
  obtain ⟨tr₁, ⟨t₁, e, data⟩, u, rfl, hread, hrest⟩ := does_bind.1 h
  dsimp only at hrest
  rcases does_topoRead (hp.admitted_adapter h0) hread with
    ⟨hb, rfl, rfl, rfl⟩ | ⟨r, hb, rfl, rfl, rfl, rfl⟩
  · rw [if_pos (by simp [enospc])] at hrest
    obtain ⟨rfl, rfl, heq⟩ := Act.does_return.1 hrest
    obtain ⟨rfl, rfl⟩ := Prod.mk.inj heq
    exact .inl ⟨hb, rfl, rfl, rfl, rfl⟩
  · refine .inr ⟨r, hb, ?_⟩
    split at hrest
    · obtain ⟨rfl, rfl, heq⟩ := Act.does_return.1 hrest
      obtain ⟨rfl, rfl⟩ := Prod.mk.inj heq
      exact .inl ⟨‹_›, rfl, rfl, rfl, rfl⟩
    · obtain ⟨a, v, rfl, hreported⟩ := does_ask_bind.1 hrest
      obtain ⟨tr₂, ⟨t₂, e, rest⟩, w, rfl, hrec, hend⟩ := does_bind.1 hreported
      obtain ⟨rfl, rfl, heq⟩ := Act.does_return.1 hend
      obtain ⟨rfl, rfl⟩ := Prod.mk.inj heq
      refine .inr ⟨not_not.1 ‹_›, .report "ADAPTER" route port 0 ((List.range 8).map r.word), a, _,
        tr₂, rest, rfl, ?_, by rw [List.append_nil]; rfl, hrec, rfl⟩
      split <;> split <;> rfl

/-- What the first loop does, whatever the device answers. -/
structure Adapters (route : BitVec 32) (ps : List (BitVec 32)) (t : Topo)
    (tr : List (Call × Reply)) (t' : Topo) (ret : ℤ) (as : List Adapter) : Prop where
  sound : Sound t.reads tr t'.reads ret
  length : tr.length ≤ 2 * ps.length
  headers : ∀ p, headers p tr = []
  ports : ret = 0 → as.map Adapter.port = ps
  heads : ∀ a ∈ as, ∃ r, (.read .adapter route a.port 1 0 8, r) ∈ tr ∧ a = .of a.port r.word

lemma adapters_readAdapters (hps : ∀ p ∈ ps, p ≠ 0 ∧ Place route p)
    (h : Does (readAdapters route ps t) tr (t', ret, as)) : Adapters route ps t tr t' ret as := by
  induction ps generalizing t tr as with
  | nil =>
    obtain ⟨rfl, heq⟩ := does_pure.1 h
    obtain ⟨rfl, rfl, rfl⟩ : t' = t ∧ ret = 0 ∧ as = [] := by simpa using heq
    exact ⟨.stop _ (by decide), by simp, fun _ => rfl, fun _ => rfl, by simp⟩
  | cons port ps ih =>
    obtain ⟨⟨h0, hp⟩, hps⟩ := List.forall_mem_cons.1 hps
    rcases does_readAdapters_cons hp h0 h with ⟨hb, rfl, rfl, rfl, rfl⟩ |
      ⟨r, hb, ⟨hr, rfl, rfl, ht, rfl⟩ | ⟨hr, q, a, t₁, u, rest, hq, ht, rfl, hrec, rfl⟩⟩
    · exact ⟨.stop _ (by decide), by simp, fun _ => rfl, by simp [enospc], by simp⟩
    · refine ⟨?_, by simp; omega, by simp, fun h => absurd h hr, by simp⟩
      rw [ht]
      exact .read (hp.admitted_adapter h0) hb
    · have hrest := ih hps hrec
      refine ⟨?_, ?_, fun p => ?_, fun h => ?_, ?_⟩
      · have hread : Sound t.reads [(.read .adapter route port 1 0 8, r)] (t.reads + 1) r.ret :=
          .read (hp.admitted_adapter h0) hb
        have hround := hread.append (.report _ a hq)
        exact hround.append (ht ▸ hrest.sound)
      · have := hrest.length
        simp only [List.length_cons]
        omega
      · simpa [hq] using hrest.headers p
      · rw [List.map_cons, hrest.ports h]
        rfl
      · refine List.forall_mem_cons.2 ⟨⟨r, List.mem_cons_self, rfl⟩, fun b hb => ?_⟩
        obtain ⟨r', hmem, heq⟩ := hrest.heads b hb
        exact ⟨r', List.mem_cons_of_mem _ (List.mem_cons_of_mem _ hmem), heq⟩

def deviceAdapter (m : Memory) (port : BitVec 32) : Adapter :=
  .of port fun i => m port 1 (0 + BitVec.ofNat 32 i)

lemma accepted_readAdapters (hps : ∀ p ∈ ps, p ≠ 0 ∧ Place route p) (hm : Answers m tr)
    (hb : t.reads + ps.length ≤ readLimit)
    (h : Does (readAdapters route ps t) tr (t', ret, as)) :
    ret = 0 ∧ t'.reads = t.reads + ps.length ∧ as = ps.map (deviceAdapter m) := by
  induction ps generalizing t tr as with
  | nil =>
    obtain ⟨rfl, heq⟩ := does_pure.1 h
    obtain ⟨rfl, rfl, rfl⟩ : t' = t ∧ ret = 0 ∧ as = [] := by simpa using heq
    exact ⟨rfl, rfl, rfl⟩
  | cons port ps ih =>
    obtain ⟨⟨h0, hp⟩, hps⟩ := List.forall_mem_cons.1 hps
    rw [List.length_cons] at hb
    rcases does_readAdapters_cons hp h0 h with ⟨hb', -⟩ |
      ⟨r, -, ⟨hr, rfl, -⟩ | ⟨-, q, a, t₁, u, rest, -, ht, rfl, hrec, rfl⟩⟩
    · omega
    · exact absurd (hm _ _ _ _ _ _ _ (List.mem_singleton_self _)).1 hr
    · have hwords := (hm _ _ _ _ _ _ _ List.mem_cons_self).2
      obtain ⟨hret, hreads, rfl⟩ := ih hps (@Answers.append_right [_, _] _ _ hm) (by omega) hrec
      refine ⟨hret, by rw [hreads, ht, List.length_cons]; omega, ?_⟩
      rw [List.map_cons, deviceAdapter, Adapter.of, Adapter.of, hwords 1 (by decide),
        hwords 2 (by decide)]

/-! ### The chains of a router -/

lemma Followed.ok {hs : List (BitVec 32 × Reply)} (h : Followed port n seen cap hs 0) (ret : ℤ) :
    Followed port n seen cap hs ret where
  starts := h.starts
  linked := h.linked
  distinct := h.distinct
  unseen := h.unseen
  short := h.short
  returns c hc hmem := absurd rfl (h.returns c hc hmem)
  overlong c hc hlen h0 := absurd rfl (h.overlong c hc hlen h0)

lemma Followed.skipped : Followed port capLimit [] cap [] ret :=
  .nil (by simp) fun h => absurd h (by decide)

/-- What is known of a walk over the chain of `port` that starts at `cap`. -/
structure Walked (port cap : BitVec 32) (t : Topo) (tr : List (Call × Reply)) (t' : Topo)
    (ret : ℤ) : Prop where
  sound : Sound t.reads tr t'.reads ret
  length : tr.length ≤ 4 * capLimit
  others : ∀ p, p ≠ port → headers p tr = []
  followed : Followed port capLimit [] cap (headers port tr) ret

lemma walked_topoCaps (hp : Place route port)
    (h : Does (topoCaps route port cap type t) tr (t', ret)) : Walked port cap t tr t' ret :=
  ⟨sound_topoCapsFrom hp h, length_topoCapsFrom hp h,
    fun _ hne => headers_topoCapsFrom_of_ne (Ne.symm hne) hp h,
    followed_topoCapsFrom hp (by simp) h⟩

lemma walked_walkAdapter {a : Adapter} (hp : Place route a.port)
    (h : Does (walkAdapter route a t) tr (t', ret)) : Walked a.port a.capHead t tr t' ret := by
  unfold walkAdapter at h
  split at h
  · obtain ⟨rfl, rfl, rfl⟩ := Act.does_return.1 h
    exact ⟨.stop _ (by decide), by simp, fun _ _ => rfl, .skipped⟩
  · exact walked_topoCaps hp h

/-- The second loop. -/
structure AllWalked (as : List Adapter) (t : Topo) (tr : List (Call × Reply)) (t' : Topo)
    (ret : ℤ) : Prop where
  sound : Sound t.reads tr t'.reads ret
  length : tr.length ≤ 4 * capLimit * as.length
  others : ∀ p ∉ as.map Adapter.port, headers p tr = []
  followed : ∀ a ∈ as, Followed a.port capLimit [] a.capHead (headers a.port tr) ret

lemma allWalked_list (has : ∀ a ∈ as, Place route a.port) (hnodup : (as.map Adapter.port).Nodup)
    (h : Does (Act.list (as.map (walkAdapter route)) t) tr (t', ret)) :
    AllWalked as t tr t' ret := by
  induction as generalizing t tr with
  | nil =>
    obtain ⟨rfl, rfl, rfl⟩ := Act.does_list_nil.1 h
    exact ⟨.stop _ (by decide), by simp, fun _ _ => rfl, by simp⟩
  | cons a as ih =>
    obtain ⟨hp, has⟩ := List.forall_mem_cons.1 has
    obtain ⟨hnew, hnodup⟩ := List.nodup_cons.1 hnodup
    rcases Act.does_seq.1 h with ⟨hfail, -⟩ | ⟨tr₁, u, t₁, rfl, hfirst, hrec⟩
    · have hw := walked_walkAdapter hp hfail
      refine ⟨hw.sound, ?_, fun p hp => ?_, List.forall_mem_cons.2 ⟨hw.followed, fun b hb => ?_⟩⟩
      · have := hw.length
        rw [List.length_cons, Nat.mul_succ]
        omega
      · exact hw.others p fun h => hp (h ▸ List.mem_cons_self)
      · rw [hw.others b.port fun h => hnew (h ▸ List.mem_map_of_mem hb)]
        exact .skipped
    · have hw := walked_walkAdapter hp hfirst
      have hrest := ih has hnodup hrec
      refine ⟨hw.sound.append hrest.sound, ?_, fun p hp => ?_,
        List.forall_mem_cons.2 ⟨?_, fun b hb => ?_⟩⟩
      · have := hw.length
        have := hrest.length
        rw [List.length_append, List.length_cons, Nat.mul_succ]
        omega
      · rw [List.map_cons, List.mem_cons, not_or] at hp
        rw [headers_append, hw.others p hp.1, hrest.others p hp.2]
        rfl
      · rw [headers_append, hrest.others a.port hnew, List.append_nil]
        exact hw.followed.ok ret
      · rw [headers_append, hw.others b.port fun h => hnew (h ▸ List.mem_map_of_mem hb)]
        exact hrest.followed b hb

lemma walked_walkRouter {header : ℕ → BitVec 32} (hp : Place route 0)
    (h : Does (walkRouter route header t) tr (t', ret)) :
    Sound t.reads tr t'.reads ret ∧ tr.length ≤ 2 + 4 * capLimit ∧
      (∀ p, p ≠ 0 → headers p tr = []) ∧
        Followed 0 capLimit [] (header 1 &&& 0xff) (headers 0 tr) ret := by
  unfold walkRouter at h
  obtain ⟨tr₁, ⟨t₁, e, data⟩, u, rfl, hread, hrest⟩ := does_bind.1 h
  dsimp only at hrest
  have hadm : (spec route 0 2 5 4).Admitted := hp.admitted_router (.inr ⟨rfl, rfl⟩)
  rcases does_topoRead hadm hread with ⟨hb, rfl, rfl, rfl⟩ | ⟨r, hb, rfl, rfl, rfl, rfl⟩
  · rw [if_pos (by simp [enospc])] at hrest
    obtain ⟨rfl, rfl, rfl⟩ := Act.does_return.1 hrest
    exact ⟨.stop _ (by decide), by simp, fun _ _ => rfl, .skipped⟩
  · split at hrest
    · obtain ⟨rfl, rfl, rfl⟩ := Act.does_return.1 hrest
      refine ⟨.read hadm hb, by simp; omega, by simp, ?_⟩
      simpa using Followed.skipped
    · obtain ⟨a, v, rfl, hwalk⟩ := does_ask_bind.1 hrest
      have hw := walked_topoCaps hp hwalk
      have hread : Sound t.reads [(.read .router route 0 2 5 4, r)] (t.reads + 1) r.ret :=
        .read hadm hb
      have hround := hread.append
        (.report _ a (q := .report "ROUTER" route 0 5 ((List.range 4).map r.word)) rfl)
      refine ⟨hround.append hw.sound, ?_, fun p hne => ?_, ?_⟩
      · have := hw.length
        simp only [List.length_append, List.length_cons, List.length_nil]
        omega
      · exact hw.others p hne
      · exact hw.followed

/-! ### The whole inventory -/

variable {g : Given} {header : ℕ → BitVec 32}

lemma place_ports (h : route = 0 ∨ route = 2) : ∀ p ∈ ports route, p ≠ 0 ∧ Place route p := by
  rcases h with rfl | rfl
  · have : ∀ p ∈ ports 0, p ≠ 0 ∧ p ≤ 7 := by simp [ports]
    exact fun p hp => ⟨(this p hp).1, .inl rfl, (this p hp).2, fun h => absurd rfl h⟩
  · have : ∀ p ∈ ports 2, p ≠ 0 ∧ p ≤ 5 := by simp [ports]
    exact fun p hp => ⟨(this p hp).1, .inr rfl, by have := (this p hp).2; bv_omega,
      fun _ => (this p hp).2⟩

lemma length_ports_le : (ports route).length ≤ 7 := by
  unfold ports
  split <;> decide

lemma nodup_ports : (ports route).Nodup := by
  unfold ports
  split <;> decide

lemma route_of_admittedHeader (h : admittedHeader route header) : route = 0 ∨ route = 2 := by
  simp only [admittedHeader, decide_eq_true_eq] at h
  exact h.imp And.left And.left

/-- Where the chain of `p` starts: in the header of the adapter, or in that of the router. -/
def HeadOf (header : ℕ → BitVec 32) (tr : List (Call × Reply)) (p cap : BitVec 32) : Prop :=
  (p = 0 ∧ cap = header 1 &&& 0xff) ∨
    ∃ route r, (.read .adapter route p 1 0 8, r) ∈ tr ∧ cap = r.word 1 &&& 0xff

lemma does_topologyRouter (h : Does (topologyRouter g route header t) tr (t', ret)) :
    (tr = [] ∧ t' = t ∧ ((g.all = false ∧ ret = -einval) ∨
        g.all ∧ admittedHeader route header = false ∧ ret = -eperm)) ∨
      g.all ∧ admittedHeader route header ∧ ∃ tr₁ t₁ e as,
        Does (readAdapters route (ports route) t) tr₁ (t₁, e, as) ∧
          ((e ≠ 0 ∧ tr = tr₁ ∧ t' = t₁ ∧ ret = e) ∨ e = 0 ∧ ∃ u, tr = tr₁ ++ u ∧
            Does (Act.seq (Act.list (as.map (walkAdapter route))) (walkRouter route header) t₁) u
              (t', ret)) := by
  unfold topologyRouter at h
  split at h
  · obtain ⟨rfl, rfl, rfl⟩ := Act.does_return.1 h
    exact .inl ⟨rfl, rfl, .inl ⟨‹_›, rfl⟩⟩
  rename_i hg
  rw [Bool.not_eq_false] at hg
  split at h
  · obtain ⟨rfl, rfl, rfl⟩ := Act.does_return.1 h
    exact .inl ⟨rfl, rfl, .inr ⟨hg, ‹_›, rfl⟩⟩
  rename_i hheader
  rw [Bool.not_eq_false] at hheader
  obtain ⟨tr₁, ⟨t₁, e, as⟩, u, rfl, hadapters, hrest⟩ := does_bind.1 h
  refine .inr ⟨hg, hheader, tr₁, t₁, e, as, hadapters, ?_⟩
  dsimp only at hrest
  split at hrest
  · obtain ⟨rfl, rfl, rfl⟩ := Act.does_return.1 hrest
    exact .inl ⟨‹_›, List.append_nil _, rfl, rfl⟩
  · exact .inr ⟨not_not.1 ‹_›, u, rfl, hrest⟩

/-- What one call of `x1_topology_router` does, whatever the device answers. -/
structure Inventory (g : Given) (header : ℕ → BitVec 32) (t : Topo) (tr : List (Call × Reply))
    (t' : Topo) (ret : ℤ) : Prop where
  /-- It makes so many calls at most. -/
  length : tr.length ≤ 14 + 8 * (4 * capLimit) + 2
  reads : t'.reads = t.reads + readCount tr
  limit : t.reads ≤ readLimit → t'.reads ≤ readLimit
  /-- Every read is one that `x1_read_address` admits. -/
  admitted : ∀ x ∈ tr, x.1.Admitted
  /-- Only a callback finds an argument invalid. -/
  invalid : g.all → ret = -einval → ∃ x ∈ tr, x.1.isRead ∧ x.2.ret = -einval
  /-- Each chain is walked without reading a header twice; one that returns or is too long is an
  error. -/
  followed : ∀ p, ∃ cap, (headers p tr ≠ [] → HeadOf header tr p cap) ∧
    Followed p capLimit [] cap (headers p tr) ret

theorem inventory_topologyRouter (h : Does (topologyRouter g route header t) tr (t', ret)) :
    Inventory g header t tr t' ret := by
  rcases does_topologyRouter h with ⟨rfl, rfl, hret⟩ | ⟨-, hheader, tr₁, t₁, e, as, hread, hrest⟩
  · refine ⟨by simp, rfl, id, nofun, fun hg hinv => ?_, fun p => ⟨0, by simp, .skipped⟩⟩
    rcases hret with ⟨hg', -⟩ | ⟨-, -, rfl⟩
    · exact absurd (hg'.symm.trans hg) Bool.false_ne_true
    · exact absurd hinv (by decide)
  have hplace := place_ports (route_of_admittedHeader hheader)
  have hlen : (ports route).length ≤ 7 := length_ports_le
  have ha := adapters_readAdapters hplace hread
  rcases hrest with ⟨-, rfl, rfl, rfl⟩ | ⟨rfl, u, rfl, hrest⟩
  · refine ⟨by have := ha.length; omega, ha.sound.reads, ha.sound.limit, ha.sound.admitted,
      fun _ => ha.sound.invalid, fun p => ⟨0, by simp [ha.headers], ?_⟩⟩
    rw [ha.headers]
    exact .skipped
  have hports := ha.ports rfl
  have hplaces : ∀ a ∈ as, a.port ≠ 0 ∧ Place route a.port := fun a hmem =>
    hplace a.port (hports ▸ List.mem_map_of_mem hmem)
  have hlen' : as.length ≤ 7 := by
    rw [← List.length_map Adapter.port, hports]
    exact hlen
  -- the head of an adapter's chain was read in the first loop
  have hhead : ∀ a ∈ as, HeadOf header (tr₁ ++ u) a.port a.capHead := by
    intro a hmem
    obtain ⟨r, hr, heq⟩ := ha.heads a hmem
    exact .inr ⟨route, r, List.mem_append_left _ hr, congrArg Adapter.capHead heq⟩
  have hnodup : (as.map Adapter.port).Nodup := by
    rw [hports]
    exact nodup_ports
  have hzero : (0 : BitVec 32) ∉ as.map Adapter.port := by
    intro hmem
    obtain ⟨a, hmem, heq⟩ := List.mem_map.1 hmem
    exact (hplaces a hmem).1 heq
  have hlen₁ := ha.length
  rcases Act.does_seq.1 hrest with ⟨hlist, -⟩ | ⟨v, w, t₂, rfl, hlist, hrouter⟩
  · have hw := allWalked_list (fun a hmem => (hplaces a hmem).2) hnodup hlist
    have hsound := ha.sound.append hw.sound
    have := hw.length
    have := Nat.mul_le_mul_left (4 * capLimit) hlen'
    refine ⟨by rw [List.length_append]; omega, hsound.reads, hsound.limit, hsound.admitted,
      fun _ => hsound.invalid, fun p => ?_⟩
    rw [headers_append, ha.headers, List.nil_append]
    by_cases hp : p ∈ as.map Adapter.port
    · obtain ⟨a, hmem, rfl⟩ := List.mem_map.1 hp
      exact ⟨a.capHead, fun _ => hhead a hmem, hw.followed a hmem⟩
    · rw [hw.others p hp]
      exact ⟨0, fun h => absurd rfl h, .skipped⟩
  · have hw := allWalked_list (fun a hmem => (hplaces a hmem).2) hnodup hlist
    have hp0 : Place route 0 := ⟨route_of_admittedHeader hheader, by decide, fun _ => by decide⟩
    obtain ⟨hsound', hlen₂, hothers, hfollowed⟩ := walked_walkRouter hp0 hrouter
    have hsound := ha.sound.append (hw.sound.append hsound')
    have := hw.length
    have := Nat.mul_le_mul_left (4 * capLimit) hlen'
    refine ⟨by simp only [List.length_append]; omega, hsound.reads, hsound.limit, hsound.admitted,
      fun _ => hsound.invalid, fun p => ?_⟩
    rw [headers_append, ha.headers, List.nil_append, headers_append]
    by_cases hp : p ∈ as.map Adapter.port
    · obtain ⟨a, hmem, rfl⟩ := List.mem_map.1 hp
      rw [hothers _ (hplaces a hmem).1, List.append_nil]
      exact ⟨a.capHead, fun _ => hhead a hmem, (hw.followed a hmem).ok ret⟩
    · rw [hw.others p hp, List.nil_append]
      by_cases h0 : p = 0
      · subst h0
        exact ⟨_, fun _ => .inl ⟨rfl, rfl⟩, hfollowed⟩
      · rw [hothers p h0]
        exact ⟨0, fun h => absurd rfl h, .skipped⟩

/-- The reads that a whole inventory of the device takes, for these chains. -/
def totalCost (m : Memory) (route : BitVec 32) (chains : BitVec 32 → List (BitVec 32)) : ℕ :=
  (ports route).length +
    (((ports route).map (deviceAdapter m)).map fun a => cost m a.port a.type (chains a.port)).sum +
    1 + cost m 0 0 (chains 0)

/-- The chains of the device that are walked are all chains as they should be. -/
structure WellChained (m : Memory) (route : BitVec 32) (header : ℕ → BitVec 32)
    (chains : BitVec 32 → List (BitVec 32)) : Prop where
  adapter : ∀ p ∈ ports route, (deviceAdapter m p).type ≠ 0 → ¬ (route = 0 ∧ p = 1) →
    Chain m p capLimit (deviceAdapter m p).capHead (chains p)
  router : Chain m 0 capLimit (header 1 &&& 0xff) (chains 0)

lemma accepted_list {chains : BitVec 32 → List (BitVec 32)}
    (has : ∀ a ∈ as, Place route a.port ∧ (a.type ≠ 0 → ¬ (route = 0 ∧ a.port = 1) →
      Chain m a.port capLimit a.capHead (chains a.port)))
    (hm : Answers m tr)
    (hb : t.reads + (as.map fun a => cost m a.port a.type (chains a.port)).sum ≤ readLimit)
    (h : Does (Act.list (as.map (walkAdapter route)) t) tr (t', ret)) :
    ret = 0 ∧ t'.reads ≤ t.reads + (as.map fun a => cost m a.port a.type (chains a.port)).sum := by
  induction as generalizing t tr with
  | nil =>
    obtain ⟨rfl, rfl, rfl⟩ := Act.does_list_nil.1 h
    exact ⟨rfl, Nat.le_refl _⟩
  | cons a as ih =>
    obtain ⟨⟨hp, hchain⟩, has⟩ := List.forall_mem_cons.1 has
    simp only [List.map_cons, List.sum_cons] at hb ⊢
    -- the chain of the first adapter is skipped, or accepted
    have hone : ∀ {tr₁ t₁ e}, Answers m tr₁ → Does (walkAdapter route a t) tr₁ (t₁, e) →
        e = 0 ∧ t₁.reads ≤ t.reads + cost m a.port a.type (chains a.port) := by
      intro tr₁ t₁ e hm₁ hd
      unfold walkAdapter at hd
      split at hd
      · obtain ⟨rfl, rfl, rfl⟩ := Act.does_return.1 hd
        exact ⟨rfl, Nat.le_add_right _ _⟩
      · rename_i hwalk
        rw [not_or] at hwalk
        exact accepted_topoCapsFrom hp hm₁ (hchain hwalk.2 hwalk.1) (by simp) (by omega) hd
    rcases Act.does_seq.1 h with ⟨hfail, hne⟩ | ⟨tr₁, u, t₁, rfl, hfirst, hrec⟩
    · exact absurd (hone hm hfail).1 hne
    · have h₁ := hone hm.append_left hfirst
      have h₂ := ih has hm.append_right (by omega) hrec
      exact ⟨h₂.1, by omega⟩

/-- An inventory of a device with good chains succeeds, if every read does and the budget
suffices. -/
theorem accepted_topologyRouter {chains : BitVec 32 → List (BitVec 32)} (hg : g.all)
    (hheader : admittedHeader route header) (hm : Answers m tr)
    (hchains : WellChained m route header chains)
    (hb : t.reads + totalCost m route chains ≤ readLimit)
    (h : Does (topologyRouter g route header t) tr (t', ret)) : ret = 0 := by
  have hroute := route_of_admittedHeader hheader
  have hplace := place_ports hroute
  unfold totalCost at hb
  rcases does_topologyRouter h with ⟨-, -, ⟨hg', -⟩ | ⟨-, hheader', -⟩⟩ |
    ⟨-, -, tr₁, t₁, e, as, hread, hrest⟩
  · exact absurd (hg'.symm.trans hg) Bool.false_ne_true
  · exact absurd (hheader'.symm.trans hheader) Bool.false_ne_true
  have hm₁ : Answers m tr₁ := by
    rcases hrest with ⟨-, rfl, -⟩ | ⟨-, u, rfl, -⟩
    · exact hm
    · exact hm.append_left
  obtain ⟨rfl, hreads, rfl⟩ := accepted_readAdapters hplace hm₁ (by omega) hread
  rcases hrest with ⟨hne, -⟩ | ⟨-, u, rfl, hrest⟩
  · exact absurd rfl hne
  -- The adapters first: their chains fit into what the limit leaves.
  have hlist : ∀ {v t₂ e}, Answers m v → Does (Act.list (((ports route).map
      (deviceAdapter m)).map (walkAdapter route)) t₁) v (t₂, e) → e = 0 ∧ t₂.reads ≤ t₁.reads +
        (((ports route).map (deviceAdapter m)).map fun a =>
          cost m a.port a.type (chains a.port)).sum := by
    intro v t₂ e hv hd
    refine accepted_list (List.forall_mem_map.2 fun p hp => ?_) hv (by omega) hd
    exact ⟨(hplace p hp).2, fun htype hskip => hchains.adapter p hp htype hskip⟩
  rcases Act.does_seq.1 hrest with ⟨hfail, hne⟩ | ⟨v, w, t₂, rfl, hok, hrouter⟩
  · exact absurd (hlist hm.append_right hfail).1 hne
  have hm₂ : Answers m w := hm.append_right.append_right
  have hreads₂ := (hlist hm.append_right.append_left hok).2
  have hp0 : Place route 0 := ⟨hroute, by decide, fun _ => by decide⟩
  unfold walkRouter at hrouter
  obtain ⟨tr₃, ⟨t₃, e, data⟩, w', rfl, hread', hwalk⟩ := does_bind.1 hrouter
  dsimp only at hwalk
  rcases does_topoRead (hp0.admitted_router (.inr ⟨rfl, rfl⟩)) hread' with
    ⟨hb', -⟩ | ⟨r, -, rfl, rfl, rfl, rfl⟩
  · omega
  rw [if_neg (not_not.2 (hm₂ _ _ _ _ _ _ _ List.mem_cons_self).1)] at hwalk
  obtain ⟨a, w'', rfl, hchain⟩ := does_ask_bind.1 hwalk
  refine (accepted_topoCapsFrom hp0 ?_ hchains.router (by simp) ?_ hchain).1
  · exact @Answers.append_right [_, _] _ _ hm₂
  · dsimp only
    omega

/-! ### The life of a topology object -/

/-- Calls of `x1_topology_router` on one object, one after the other. -/
def life : List (Given × BitVec 32 × (ℕ → BitVec 32)) → Topo → Dialog Call Reply Topo
  | [], t => return t
  | (g, route, header) :: calls, t => do
    let (t, _) ← topologyRouter g route header t
    life calls t

lemma reads_life {calls : List (Given × BitVec 32 × (ℕ → BitVec 32))}
    (h : Does (life calls t) tr t') (hb : t.reads ≤ readLimit) :
    t'.reads = t.reads + readCount tr ∧ t'.reads ≤ readLimit := by
  induction calls generalizing t tr with
  | nil =>
    obtain ⟨rfl, rfl⟩ := does_pure.1 h
    exact ⟨rfl, hb⟩
  | cons c calls ih =>
    obtain ⟨tr₁, ⟨t₁, ret⟩, u, rfl, hcall, hrest⟩ := does_bind.1 h
    have hi := inventory_topologyRouter hcall
    obtain ⟨hreads, hlimit⟩ := ih hrest (hi.limit hb)
    exact ⟨by rw [hreads, hi.reads, readCount_append, Nat.add_assoc], hlimit⟩

/-- What `x1_topology_router` does with any device. -/
structure AnyDevice : Prop where
  /-- One object never reads more than 128 times. -/
  budget : ∀ calls answer, readCount ((life calls {}).run answer []).1 ≤ 128
  /-- Every call, in whatever state and after whatever was said, ends; see `Inventory`. -/
  inventory : ∀ g route header t answer past,
    let x := (topologyRouter g route header t).run answer past
    Inventory g header t x.1 x.2.1 x.2.2
  /-- A chain of the device is accepted if all reads succeed and the budget suffices. -/
  chain : ∀ m route port type cap l t answer past, Place route port → Chain m port 16 cap l →
    t.reads + cost m port type l ≤ 128 →
    let x := (topoCaps route port cap type t).run answer past
    Answers m x.1 → x.2.2 = 0
  /-- So is the router, if its chains are. -/
  router : ∀ m g route header chains t answer past, g.all → admittedHeader route header →
    WellChained m route header chains → t.reads + totalCost m route chains ≤ 128 →
    let x := (topologyRouter g route header t).run answer past
    Answers m x.1 → x.2.2 = 0

/-- Port 1 has a lane whose first capability is at 8, and leads back to it or not. -/
example :
    let device (next : BitVec 32) : List (Call × Reply) → Call → Reply := fun _ q =>
      match q with
      | .read .adapter _ 1 _ _ _ => { word := fun i => if i = 1 then 8 else 1 }
      | .read .header _ 1 _ _ _ => { word := fun _ => next }
      | _ => {}
    let header : ℕ → BitVec 32 := fun i =>
      [0x113b059f, 0x00114120, 2, 0x80000000, 0x200010ff].getD i 0
    ((topologyRouter {} 2 header {}).run (device 8) []).2.2 = -eproto ∧
      ((topologyRouter {} 2 header {}).run (device 0) []).2.2 = 0 := by
  decide +kernel

end YogaUsb4.Topology
