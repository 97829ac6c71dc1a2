import YogaUsb4.Dialog
import YogaUsb4.Steps
import Mathlib.Algebra.BigOperators.Group.List.Basic
import Mathlib.Algebra.Ring.Int.Defs
import Mathlib.Logic.Function.Basic

/-!
The lease on the receive clocks of router 0 in the global clock controller. What the lease takes
from the clock framework, the driver core and the module loader is read off the calls themselves,
and compared with what the lease records.
-/

namespace YogaUsb4.GccLease

open Dialog

/-! ### The lease -/

/-- The clocks of `struct x1_gcc_usb4`: two receive clocks, their muxes and the two parents of
each mux. -/
inductive Clk where
  | rx (i : Fin 2)
  | mux (i : Fin 2)
  | parent (i j : Fin 2)
  deriving DecidableEq

/-- The fields of `struct x1_gcc_usb4` that are set when something is taken. -/
inductive Field where
  | link
  | clk (c : Clk)
  | unknownRx (i : Fin 2)
  | exclusive (i : Fin 2)
  | enabled (i : Fin 2)
  deriving DecidableEq

/-- `struct x1_gcc_usb4` at `addr`; a field is set, or null or false. -/
structure Lease where
  addr : ℕ
  has : Field → Bool := fun _ => false

def Lease.set (l : Lease) (f : Field) (b : Bool) : Lease :=
  { l with has := Function.update l.has f b }

@[simp] lemma Lease.set_has_self (l : Lease) (f : Field) (b : Bool) : (l.set f b).has f = b :=
  Function.update_self ..

lemma Lease.set_has_of_ne (l : Lease) {f f' : Field} (h : f' ≠ f) (b : Bool) :
    (l.set f b).has f' = l.has f' := Function.update_of_ne h ..

inductive Call where
  | moduleGet | modulePut | alloc | free | deviceGet | devicePut | linkAdd | linkDel
  | isPrepared (c : Clk)
  | getClk (c : Clk) | putClk (c : Clk)
  | parentByIndex (i j : Fin 2)
  | registerFixed (i : Fin 2) | unregisterFixed (i : Fin 2)
  | exclusiveGet (i : Fin 2) | exclusivePut (i : Fin 2)
  | enable (i : Fin 2) | disable (i : Fin 2)
  | setParent (i j : Fin 2)
  | regRead (i : Fin 2)
  deriving DecidableEq

/-- The result of a call, and the value of a register or of a pointer. -/
structure Reply where
  ret : ℤ
  value : ℕ := 0

abbrev LeaseAct := Act Call Reply Lease

def take (q : Call) (f : Field) : LeaseAct := fun l => do
  let r ← ask q
  if r.ret ≠ 0 then return (l, r.ret)
  return (l.set f true, 0)

/-- `clk_hw_get_clk`. -/
def takeClk (c : Clk) : LeaseAct := take (.getClk c) (.clk c)

/-! ### Get -/

/-- Refuse an already active native or independent consumer. -/
def refusePrepared (i : Fin 2) : LeaseAct := fun l => do
  if (← ask (.isPrepared (.rx i))).ret ≠ 0 then return (l, -ebusy)
  if (← ask (.isPrepared (.mux i))).ret ≠ 0 then return (l, -ebusy)
  return (l, 0)

/-- A parent must be there by now. -/
def needParent (i j : Fin 2) : LeaseAct := fun l => do
  if (← ask (.parentByIndex i j)).ret = 0 then return (l, -eprobeDefer)
  return (l, 0)

/-- One parent of a mux; a missing first one is registered with an unknown rate. -/
def takeParent (i j : Fin 2) : LeaseAct := fun l => do
  if (← ask (.parentByIndex i j)).ret ≠ 0 then takeClk (.parent i j) l
  else if j ≠ 0 then return (l, -eprobeDefer)
  else Act.list [take (.registerFixed i) (.unknownRx i), needParent i j, takeClk (.parent i j)] l

/-- The loop of `x1_gcc_usb4_get`. -/
def takeClocks (i : Fin 2) : LeaseAct := Act.list [
  refusePrepared i, takeClk (.rx i), takeClk (.mux i), takeParent i 0, takeParent i 1,
  take (.exclusiveGet i) (.exclusive i)]

def takeLink : LeaseAct := fun l => do
  if (← ask .linkAdd).ret = 0 then return (l, -enomem)
  return (l.set .link true, 0)

/-- `x1_gcc_usb4_get` up to its `fail` label. -/
def fill : LeaseAct := Act.list [takeClocks 0, takeClocks 1, takeLink]

/-- What `x1_usb4_gcc_release` gives back for each field, in its order. -/
def releases : List (Field × Call) :=
  [(.enabled 1, .disable 1), (.exclusive 1, .exclusivePut 1),
    (.clk (.parent 1 0), .putClk (.parent 1 0)), (.clk (.parent 1 1), .putClk (.parent 1 1)),
    (.clk (.mux 1), .putClk (.mux 1)), (.clk (.rx 1), .putClk (.rx 1)),
    (.enabled 0, .disable 0), (.exclusive 0, .exclusivePut 0),
    (.clk (.parent 0 0), .putClk (.parent 0 0)), (.clk (.parent 0 1), .putClk (.parent 0 1)),
    (.clk (.mux 0), .putClk (.mux 0)), (.clk (.rx 0), .putClk (.rx 0)),
    (.unknownRx 1, .unregisterFixed 1), (.unknownRx 0, .unregisterFixed 0), (.link, .linkDel)]

/-- Gives back the fields of the table that are set; `clk_put` of a null pointer does nothing. -/
def giveBack (l : Lease) : List (Field × Call) → Dialog Call Reply Unit
  | [] => pure ()
  | (f, q) :: rest =>
    if l.has f then do
      let _ ← ask q
      giveBack l rest
    else giveBack l rest

def release (l : Lease) : Dialog Call Reply Unit := do
  giveBack l releases
  let _ ← ask .devicePut
  let _ ← ask .free
  return ()

/-- The active lease, and the functions on it. -/
abbrev Global := Option Lease

/-- `x1_gcc_usb4_get`: `consumer` says that there is one with a node, `probed` that the
controller has its register map. -/
def gccGet (consumer : Bool) (port : ℕ) (probed : Bool) : Act Call Reply Global := fun g => do
  if consumer = false then return (g, -einval)
  if port ≠ 0 then return (g, -eopnotsupp)
  if probed = false then return (g, -eprobeDefer)
  if g.isSome then return (g, -ebusy)
  if (← ask .moduleGet).ret = 0 then return (g, -enodev)
  let p ← ask .alloc
  if p.value = 0 then
    let _ ← ask .modulePut
    return (g, -enomem)
  let _ ← ask .deviceGet
  let (l, ret) ← fill { addr := p.value }
  if ret ≠ 0 then
    release l
    let _ ← ask .modulePut
    return (g, ret)
  return (some l, 0)

/-- `x1_gcc_usb4_put` of the lease at `p`. -/
def gccPut (p : ℕ) : Act Call Reply Global := fun g =>
  match g with
  | none => pure (none, 0)
  | some l =>
    if l.addr ≠ p then pure (some l, 0)
    else do
      release l
      let _ ← ask .modulePut
      return (none, 0)

/-! ### Receive select -/

/-- The first loop of `x1_gcc_usb4_rx_select`. -/
def checkSelector (i : Fin 2) : LeaseAct := fun l => do
  let r ← ask (.regRead i)
  if r.ret ≠ 0 then return (l, r.ret)
  if r.value &&& 3 ≠ 0 ∧ r.value &&& 3 ≠ 2 then return (l, -eio)
  if l.has (.enabled i) then return (l, 0)
  refusePrepared i l

/-- Account for the initial gate state by ordinary references. -/
def enableIdle (i : Fin 2) : LeaseAct := fun l =>
  if l.has (.enabled i) then pure (l, 0) else take (.enable i) (.enabled i) l

def gate (i : Fin 2) : LeaseAct := fun l => do
  let _ ← ask (.disable i)
  return (l.set (.enabled i) false, 0)

/-- The parent of a source, and its selector. -/
def source (phy : Bool) : Fin 2 := if phy then 0 else 1
def want (phy : Bool) : ℕ := if phy then 0 else 2

def reparent (phy : Bool) (i : Fin 2) : LeaseAct := fun l => do
  if (← ask (.isPrepared (.mux i))).ret ≠ 0 then return (l, -ebusy)
  let r ← ask (.setParent i (source phy))
  if r.ret ≠ 0 then return (l, r.ret)
  let r ← ask (.regRead i)
  if r.ret ≠ 0 then return (l, r.ret)
  if r.value &&& 3 ≠ want phy then return (l, -eio)
  return (l, 0)

/-- The loops of `x1_gcc_usb4_rx_select`. -/
def rxSelect (phy : Bool) : LeaseAct := Act.list [
  checkSelector 0, checkSelector 1, enableIdle 0, enableIdle 1, gate 0, gate 1,
  reparent phy 0, reparent phy 1,
  take (.enable 0) (.enabled 0), take (.enable 1) (.enabled 1)]

/-- `x1_gcc_usb4_rx_select` of the lease at `p`. -/
def gccRxSelect (p : ℕ) (phy : Bool) (probed : Bool) : Act Call Reply Global := fun g =>
  match g with
  | none => pure (none, -eperm)
  | some l =>
    if l.addr ≠ p || !probed then pure (some l, -eperm)
    else do
      let (l, ret) ← rxSelect phy l
      return (some l, ret)

/-! ### What was taken -/

inductive Res where
  | module | memory | consumer
  | field (f : Field)
  deriving DecidableEq

def taken : Call × Reply → Option Res
  | (.moduleGet, r) => if r.ret ≠ 0 then some .module else none
  | (.alloc, r) => if r.value ≠ 0 then some .memory else none
  | (.deviceGet, _) => some .consumer
  | (.linkAdd, r) => if r.ret ≠ 0 then some (.field .link) else none
  | (.getClk c, r) => if r.ret = 0 then some (.field (.clk c)) else none
  | (.registerFixed i, r) => if r.ret = 0 then some (.field (.unknownRx i)) else none
  | (.exclusiveGet i, r) => if r.ret = 0 then some (.field (.exclusive i)) else none
  | (.enable i, r) => if r.ret = 0 then some (.field (.enabled i)) else none
  | _ => none

def returned : Call × Reply → Option Res
  | (.modulePut, _) => some .module
  | (.free, _) => some .memory
  | (.devicePut, _) => some .consumer
  | (.linkDel, _) => some (.field .link)
  | (.putClk c, _) => some (.field (.clk c))
  | (.unregisterFixed i, _) => some (.field (.unknownRx i))
  | (.exclusivePut i, _) => some (.field (.exclusive i))
  | (.disable i, _) => some (.field (.enabled i))
  | _ => none

/-- How often something was taken and not given back. -/
def balance (tr : List (Call × Reply)) (r : Res) : ℤ :=
  tr.countP (fun e => taken e = some r) - tr.countP (fun e => returned e = some r)

def recorded : Global → Res → ℤ
  | none, _ => 0
  | some l, .field f => if l.has f then 1 else 0
  | some _, _ => 1

@[simp] lemma balance_nil (r : Res) : balance [] r = 0 := rfl

@[simp] lemma balance_append (t u : List (Call × Reply)) (r : Res) :
    balance (t ++ u) r = balance t r + balance u r := by
  simp only [balance, List.countP_append]
  omega

lemma balance_cons (e : Call × Reply) (u : List (Call × Reply)) (r : Res) :
    balance (e :: u) r = balance [e] r + balance u r := balance_append [e] u r

lemma balance_singleton (e : Call × Reply) (r : Res) :
    balance [e] r = (if taken e = some r then 1 else 0) - if returned e = some r then 1 else 0 := by
  simp only [balance, List.countP_singleton, decide_eq_true_eq]
  split <;> split <;> rfl

def Balanced (past : List (Call × Reply)) (g : Global) : Prop :=
  ∀ r, balance past r = recorded g r

def Idle (e : Call × Reply) : Prop := taken e = none ∧ returned e = none

lemma Idle.balance {tr : List (Call × Reply)} (h : ∀ e ∈ tr, Idle e) (r : Res) :
    balance tr r = 0 := by
  induction tr with
  | nil => rfl
  | cons e tr ih =>
    obtain ⟨⟨h₁, h₂⟩, hrest⟩ := List.forall_mem_cons.1 h
    rw [balance_cons, balance_singleton, h₁, h₂, ih hrest]
    rfl

variable {past tr : List (Call × Reply)}

lemma Balanced.idle {g : Global} (h : Balanced past g)
    (ht : ∀ e ∈ tr, Idle e) : Balanced (past ++ tr) g := by
  intro r
  rw [balance_append, Idle.balance ht, h r, Int.add_zero]

variable {l : Lease}

lemma Balanced.take {past : List (Call × Reply)} (h : Balanced past (some l))
    {e : Call × Reply} {f : Field} (ht : taken e = some (.field f)) (hr : returned e = none)
    (hf : l.has f = false) : Balanced (past ++ [e]) (some (l.set f true)) := by
  intro r
  rw [balance_append, h r, balance_singleton, ht, hr]
  cases r with
  | field f' =>
    by_cases heq : f' = f
    · subst heq
      simp [recorded, hf]
    · simp [recorded, Lease.set_has_of_ne l heq, Ne.symm heq]
  | module | memory | consumer => simp [recorded]

lemma Balanced.give {past : List (Call × Reply)} (h : Balanced past (some l))
    {e : Call × Reply} {f : Field} (ht : taken e = none) (hr : returned e = some (.field f))
    (hf : l.has f = true) : Balanced (past ++ [e]) (some (l.set f false)) := by
  intro r
  rw [balance_append, h r, balance_singleton, ht, hr]
  cases r with
  | field f' =>
    by_cases heq : f' = f
    · subst heq
      simp [recorded, hf]
    · simp [recorded, Lease.set_has_of_ne l heq, Ne.symm heq]
  | module | memory | consumer => simp [recorded]

/-! ### Acts on the lease -/

/-- The lease is balanced and in `Q`. -/
def With (Q : Lease → Prop) (past : List (Call × Reply)) (l : Lease) : Prop :=
  Balanced past (some l) ∧ Q l

/-- However an act fails, the lease is balanced. -/
def Failed (past : List (Call × Reply)) (l : Lease) (_ : ℤ) : Prop := Balanced past (some l)

def Looks (f : LeaseAct) : Prop :=
  ∀ ⦃l tr l' ret⦄, Does (f l) tr (l', ret) → l' = l ∧ ∀ e ∈ tr, Idle e

variable {Q R : Lease → Prop}

lemma Looks.meets {f : LeaseAct} (h : Looks f) : Act.Meets (With Q) f (With Q) Failed := by
  rintro past l ⟨hb, hq⟩ tr l' ret hd
  obtain ⟨rfl, hidle⟩ := h hd
  exact ⟨fun _ => ⟨hb.idle hidle, hq⟩, fun _ => hb.idle hidle⟩

structure Takes (q : Call) (f : Field) : Prop where
  taken : ∀ r, taken (q, r) = if r.ret = 0 then some (.field f) else none
  returned : ∀ r, returned (q, r) = none

lemma take_meets {q : Call} {f : Field} (hq : Takes q f) (hf : ∀ l, Q l → l.has f = false)
    (h : ∀ l, Q l → R (l.set f true)) : Act.Meets (With Q) (take q f) (With R) Failed := by
  rintro past l ⟨hb, hl⟩ tr l' ret hd
  obtain ⟨r, u, rfl, hu⟩ := does_ask_bind.1 hd
  split_ifs at hu with h0
  · obtain ⟨rfl, rfl, rfl⟩ := Act.does_return.1 hu
    have hidle : ∀ e ∈ [(q, r)], Idle e := by
      intro e he
      obtain rfl := List.mem_singleton.1 he
      exact ⟨by rw [hq.taken, if_neg h0], hq.returned r⟩
    exact ⟨fun h => absurd h h0, fun _ => hb.idle hidle⟩
  · obtain ⟨rfl, rfl, rfl⟩ := Act.does_return.1 hu
    have htake := hb.take (by rw [hq.taken, if_pos (not_not.1 h0)]) (hq.returned r) (hf l hl)
    exact ⟨fun _ => ⟨htake, h l hl⟩, fun h => absurd rfl h⟩

lemma takes_getClk (c : Clk) : Takes (.getClk c) (.clk c) := ⟨fun _ => rfl, fun _ => rfl⟩
lemma takes_registerFixed (i : Fin 2) : Takes (.registerFixed i) (.unknownRx i) :=
  ⟨fun _ => rfl, fun _ => rfl⟩
lemma takes_exclusiveGet (i : Fin 2) : Takes (.exclusiveGet i) (.exclusive i) :=
  ⟨fun _ => rfl, fun _ => rfl⟩
lemma takes_enable (i : Fin 2) : Takes (.enable i) (.enabled i) := ⟨fun _ => rfl, fun _ => rfl⟩

lemma refusePrepared_looks (i : Fin 2) : Looks (refusePrepared i) := by
  intro l tr l' ret hd
  obtain ⟨r, u, rfl, h₁⟩ := does_ask_bind.1 hd
  split_ifs at h₁ with h0
  · obtain ⟨rfl, rfl, -⟩ := Act.does_return.1 h₁
    exact ⟨rfl, by simp [Idle, taken, returned]⟩
  obtain ⟨r', v, rfl, h₂⟩ := does_ask_bind.1 h₁
  split_ifs at h₂ with h0'
  · obtain ⟨rfl, rfl, -⟩ := Act.does_return.1 h₂
    exact ⟨rfl, by simp [Idle, taken, returned]⟩
  · obtain ⟨rfl, rfl, -⟩ := Act.does_return.1 h₂
    exact ⟨rfl, by simp [Idle, taken, returned]⟩

lemma needParent_looks (i j : Fin 2) : Looks (needParent i j) := by
  intro l tr l' ret hd
  obtain ⟨r, u, rfl, h₁⟩ := does_ask_bind.1 hd
  split_ifs at h₁ with h0
  · obtain ⟨rfl, rfl, -⟩ := Act.does_return.1 h₁
    exact ⟨rfl, by simp [Idle, taken, returned]⟩
  · obtain ⟨rfl, rfl, -⟩ := Act.does_return.1 h₁
    exact ⟨rfl, by simp [Idle, taken, returned]⟩

/-! ### Get -/

/-- These fields are not set yet. -/
def Unset (T : List Field) (l : Lease) : Prop := ∀ f ∈ T, l.has f = false

variable {T : List Field}

lemma Unset.set {f : Field} (hf : f ∉ T) (h : Unset (f :: T) l) :
    Unset T (l.set f true) := by
  intro f' hf'
  have hne : f' ≠ f := fun h => hf (h ▸ hf')
  rw [Lease.set_has_of_ne l hne]
  exact h f' (List.mem_cons_of_mem _ hf')

lemma take_unset {q : Call} {f : Field} (hq : Takes q f) (hf : f ∉ T) :
    Act.Meets (With (Unset (f :: T))) (take q f) (With (Unset T)) Failed :=
  take_meets hq (fun _ h => h f List.mem_cons_self) fun _ h => h.set hf

def clockFields (i : Fin 2) : List Field :=
  [.clk (.rx i), .clk (.mux i), .unknownRx i, .clk (.parent i 0), .clk (.parent i 1), .exclusive i]

variable {i : Fin 2}

lemma takeParent_one (hf : .clk (.parent i 1) ∉ T) :
    Act.Meets (With (Unset (.clk (.parent i 1) :: T))) (takeParent i 1) (With (Unset T))
      Failed := by
  rintro past l hl tr l' ret hd
  obtain ⟨r, u, rfl, h₁⟩ := does_ask_bind.1 hd
  have hb : With (Unset (.clk (.parent i 1) :: T)) (past ++ [(.parentByIndex i 1, r)]) l :=
    ⟨hl.1.idle (by simp [Idle, taken, returned]), hl.2⟩
  rw [List.append_cons]
  split_ifs at h₁ with h0 h1
  · exact take_unset (takes_getClk _) hf hb h₁
  · obtain ⟨rfl, rfl, rfl⟩ := Act.does_return.1 h₁
    rw [List.append_nil]
    exact ⟨fun h => absurd h (by decide), fun _ => hb.1⟩
  · simp at h1

lemma takeParent_zero (hf : .clk (.parent i 0) ∉ T) (hu : .unknownRx i ∉ T) :
    Act.Meets (With (Unset (.unknownRx i :: .clk (.parent i 0) :: T))) (takeParent i 0)
      (With (Unset T)) Failed := by
  rintro past l hl tr l' ret hd
  obtain ⟨r, u, rfl, h₁⟩ := does_ask_bind.1 hd
  have hb : With (Unset (.unknownRx i :: .clk (.parent i 0) :: T))
      (past ++ [(.parentByIndex i 0, r)]) l :=
    ⟨hl.1.idle (by simp [Idle, taken, returned]), hl.2⟩
  rw [List.append_cons]
  split_ifs at h₁ with h0 h1
  · refine take_unset (takes_getClk _) hf ⟨hb.1, ?_⟩ h₁
    exact fun f hf => hb.2 f (List.mem_cons_of_mem _ hf)
  · simp at h1
  · have hlist := (take_unset (takes_registerFixed i) (T := .clk (.parent i 0) :: T)
      (by simp [hu])).cons ((needParent_looks i 0).meets.cons
        ((take_unset (takes_getClk _) hf).cons Act.Meets.nil))
    exact hlist hb h₁

lemma takeClocks_meets (hT : ∀ f ∈ clockFields i, f ∉ T) :
    Act.Meets (With (Unset (clockFields i ++ T))) (takeClocks i) (With (Unset T)) Failed := by
  simp only [clockFields, List.forall_mem_cons, List.not_mem_nil, false_imp_iff, implies_true,
    and_true] at hT
  obtain ⟨h₁, h₂, h₃, h₄, h₅, h₆⟩ := hT
  refine (refusePrepared_looks i).meets.cons ((take_unset (takes_getClk _) ?_).cons
    ((take_unset (takes_getClk _) ?_).cons ((takeParent_zero ?_ ?_).cons
      ((takeParent_one ?_).cons ((take_unset (takes_exclusiveGet i) h₆).cons Act.Meets.nil)))))
  all_goals simp [h₁, h₂, h₃, h₄, h₅]

lemma takeLink_meets :
    Act.Meets (With (Unset [.link])) takeLink (With fun _ => True) Failed := by
  rintro past l ⟨hb, hl⟩ tr l' ret hd
  obtain ⟨r, u, rfl, hu⟩ := does_ask_bind.1 hd
  split_ifs at hu with h0
  · obtain ⟨rfl, rfl, rfl⟩ := Act.does_return.1 hu
    exact ⟨fun h => absurd h (by decide), fun _ => hb.idle (by simp [Idle, taken, returned, h0])⟩
  · obtain ⟨rfl, rfl, rfl⟩ := Act.does_return.1 hu
    have htake := hb.take (e := (.linkAdd, r)) (f := .link) (by simp [taken, h0]) rfl
      (hl _ List.mem_cons_self)
    exact ⟨fun _ => ⟨htake, trivial⟩, fun h => absurd rfl h⟩

lemma fill_meets :
    Act.Meets (With fun l => ∀ f, l.has f = false) fill (With fun _ => True) Failed := by
  have h := (takeClocks_meets (i := 0) (T := clockFields 1 ++ [.link]) (by decide)).cons
    ((takeClocks_meets (i := 1) (T := [.link]) (by decide)).cons
      (takeLink_meets.cons Act.Meets.nil))
  exact h.conseq (fun _ _ hl => ⟨hl.1, fun f _ => hl.2 f⟩) (fun _ _ h => h) fun _ _ _ h => h

/-! ### Release -/

def Gives (fq : Field × Call) : Prop :=
  ∀ r, taken (fq.2, r) = none ∧ returned (fq.2, r) = some (.field fq.1)

/-- `now` is the lease with the fields that were given back cleared. -/
lemma giveBack_does {tbl : List (Field × Call)} (hg : ∀ fq ∈ tbl, Gives fq)
    (hnd : (tbl.map Prod.fst).Nodup) {tr past : List (Call × Reply)} {now : Lease}
    (hb : Balanced past (some now)) (hnow : ∀ f ∈ tbl.map Prod.fst, now.has f = l.has f)
    (h : Does (giveBack l tbl) tr ()) :
    ∃ now' : Lease, Balanced (past ++ tr) (some now') ∧
      (∀ f ∈ tbl.map Prod.fst, now'.has f = false) ∧
      ∀ f, now.has f = false → now'.has f = false := by
  induction tbl generalizing tr past now with
  | nil =>
    obtain ⟨rfl, -⟩ := does_pure.1 h
    exact ⟨now, by rwa [List.append_nil], by simp, fun _ h => h⟩
  | cons fq tbl ih =>
    obtain ⟨f, q⟩ := fq
    obtain ⟨hq, hg⟩ := List.forall_mem_cons.1 hg
    obtain ⟨hf, hnd⟩ := List.nodup_cons.1 hnd
    obtain ⟨hnf, hnow⟩ := List.forall_mem_cons.1 hnow
    have hf : f ∉ tbl.map Prod.fst := hf
    unfold giveBack at h
    split_ifs at h with hset
    · obtain ⟨r, u, rfl, hu⟩ := does_ask_bind.1 h
      -- The field was set, so what is returned here was taken.
      have hgive := hb.give (hq r).1 (hq r).2 (hnf.trans hset)
      obtain ⟨now', hb', hall, hmono⟩ := ih hg hnd hgive (fun f' hf' => by
        have hne : f' ≠ f := fun h => hf (h ▸ hf')
        rw [Lease.set_has_of_ne now hne]
        exact hnow f' hf') hu
      refine ⟨now', by rwa [List.append_cons], List.forall_mem_cons.2 ⟨?_, hall⟩, ?_⟩
      · exact hmono f (Lease.set_has_self ..)
      · intro f' hf'
        refine hmono f' ?_
        by_cases heq : f' = f
        · rw [heq, Lease.set_has_self]
        · rwa [Lease.set_has_of_ne now heq]
    · obtain ⟨now', hb', hall, hmono⟩ := ih hg hnd hb hnow h
      refine ⟨now', hb', List.forall_mem_cons.2 ⟨hmono f ?_, hall⟩, hmono⟩
      rw [hnf]
      simpa using hset

lemma releases_all (f : Field) : f ∈ releases.map Prod.fst := by
  rcases f with - | ⟨i | i | ⟨i, j⟩⟩ | i | i | i
  · decide
  all_goals revert i
  · decide
  · decide
  · intro i
    revert i j
    decide
  · decide
  · decide
  · decide

lemma release_does {tr past : List (Call × Reply)} (hb : Balanced past (some l))
    (h : Does (release l) tr ()) (r : Res) :
    balance (past ++ tr) r = if r = .module then 1 else 0 := by
  obtain ⟨t, ⟨⟩, u, rfl, ht, hu⟩ := does_bind.1 h
  obtain ⟨d, v, rfl, hv⟩ := does_ask_bind.1 hu
  obtain ⟨m, w, rfl, hw⟩ := does_ask_bind.1 hv
  obtain ⟨rfl, -⟩ := does_pure.1 hw
  have hgives : ∀ fq ∈ releases, Gives fq := by
    simp only [releases, List.forall_mem_cons, List.not_mem_nil, false_imp_iff, implies_true,
      and_true]
    simp only [Gives, taken, returned, implies_true, and_self]
  obtain ⟨now, hnow, hclear, -⟩ := giveBack_does hgives (by decide) hb (fun _ _ => rfl) ht
  rw [← List.append_assoc, balance_append, hnow r, balance_cons, balance_singleton,
    balance_singleton]
  cases r with
  | field f => simp [recorded, taken, returned, hclear f (releases_all f)]
  | module | memory | consumer => simp [recorded, taken, returned]

/-! ### Receive select -/

lemma checkSelector_looks (i : Fin 2) : Looks (checkSelector i) := by
  intro l tr l' ret hd
  obtain ⟨r, u, rfl, h₁⟩ := does_ask_bind.1 hd
  have hread : Idle (.regRead i, r) := ⟨rfl, rfl⟩
  split_ifs at h₁ with h0 hv hen
  · obtain ⟨rfl, rfl, -⟩ := Act.does_return.1 h₁
    exact ⟨rfl, List.forall_mem_cons.2 ⟨hread, by simp⟩⟩
  · obtain ⟨rfl, rfl, -⟩ := Act.does_return.1 h₁
    exact ⟨rfl, List.forall_mem_cons.2 ⟨hread, by simp⟩⟩
  · obtain ⟨rfl, rfl, -⟩ := Act.does_return.1 h₁
    exact ⟨rfl, List.forall_mem_cons.2 ⟨hread, by simp⟩⟩
  · obtain ⟨rfl, hidle⟩ := refusePrepared_looks i h₁
    exact ⟨rfl, List.forall_mem_cons.2 ⟨hread, hidle⟩⟩

/-- The selector was read at the requested source, and nobody touched it after that. -/
def ReadBack (phy : Bool) (i : Fin 2) (tr : List (Call × Reply)) : Prop :=
  ∃ pre r post, tr = pre ++ (.regRead i, r) :: post ∧ r.ret = 0 ∧
    r.value &&& 3 = want phy ∧
    ∀ e ∈ post, e.1 ≠ .regRead i ∧ ∀ j, e.1 ≠ .setParent i j

lemma ReadBack.append {phy : Bool} {t u : List (Call × Reply)} (h : ReadBack phy i t)
    (hu : ∀ e ∈ u, e.1 ≠ .regRead i ∧ ∀ j, e.1 ≠ .setParent i j) : ReadBack phy i (t ++ u) := by
  obtain ⟨pre, r, post, rfl, h0, hv, hpost⟩ := h
  refine ⟨pre, r, post ++ u, by simp, h0, hv, fun e he => ?_⟩
  exact (List.mem_append.1 he).elim (hpost e) (hu e)

lemma reparent_does {phy : Bool} {l l' : Lease} {tr : List (Call × Reply)} {ret : ℤ}
    (h : Does (reparent phy i l) tr (l', ret)) :
    l' = l ∧ (∀ e ∈ tr, e.1 = .isPrepared (.mux i) ∨ e.1 = .setParent i (source phy) ∨
      e.1 = .regRead i) ∧ (ret = 0 → ReadBack phy i tr) := by
  obtain ⟨r, u, rfl, h₁⟩ := does_ask_bind.1 h
  split_ifs at h₁ with hp
  · obtain ⟨rfl, rfl, rfl⟩ := Act.does_return.1 h₁
    exact ⟨rfl, by simp, fun h0 => absurd h0 (by decide)⟩
  obtain ⟨r₁, u₁, rfl, h₂⟩ := does_ask_bind.1 h₁
  split_ifs at h₂ with hs
  · obtain ⟨rfl, rfl, rfl⟩ := Act.does_return.1 h₂
    exact ⟨rfl, by simp, fun h0 => absurd h0 hs⟩
  obtain ⟨r₂, u₂, rfl, h₃⟩ := does_ask_bind.1 h₂
  by_cases hr : r₂.ret = 0
  swap
  · simp only [ne_eq, hr, not_false_eq_true, if_true] at h₃
    obtain ⟨rfl, rfl, rfl⟩ := Act.does_return.1 h₃
    exact ⟨rfl, by simp, fun h0 => absurd h0 hr⟩
  by_cases hv : r₂.value &&& 3 = want phy
  · simp only [ne_eq, hr, hv, not_true_eq_false, if_false] at h₃
    obtain ⟨rfl, rfl, rfl⟩ := Act.does_return.1 h₃
    refine ⟨rfl, by simp, fun _ => ⟨[_, _], r₂, [], rfl, hr, hv, by simp⟩⟩
  · simp only [ne_eq, hr, hv, not_true_eq_false, if_false, not_false_eq_true, if_true] at h₃
    obtain ⟨rfl, rfl, rfl⟩ := Act.does_return.1 h₃
    exact ⟨rfl, by simp, fun h0 => absurd h0 (by decide)⟩

lemma reparent_looks (phy : Bool) (i : Fin 2) : Looks (reparent phy i) := by
  intro l tr l' ret hd
  obtain ⟨rfl, hcalls, -⟩ := reparent_does hd
  refine ⟨rfl, fun e he => ?_⟩
  obtain ⟨q, r⟩ := e
  rcases hcalls _ he with h | h | h <;> obtain rfl := h <;> exact ⟨rfl, rfl⟩

lemma enableIdle_meets (hQ : ∀ l, Q l → Q (l.set (.enabled i) true)) :
    Act.Meets (With Q) (enableIdle i) (With fun l => Q l ∧ l.has (.enabled i) = true) Failed := by
  rintro past l ⟨hb, hl⟩ tr l' ret hd
  unfold enableIdle at hd
  split_ifs at hd with hen
  · obtain ⟨rfl, rfl, rfl⟩ := Act.does_return.1 hd
    rw [List.append_nil]
    exact ⟨fun _ => ⟨hb, hl, hen⟩, fun h => absurd rfl h⟩
  · have htake := take_meets (Q := fun l => Q l ∧ l.has (.enabled i) = false)
      (R := fun l => Q l ∧ l.has (.enabled i) = true) (takes_enable i) (fun _ h => h.2)
      fun l h => ⟨hQ l h.1, Lease.set_has_self ..⟩
    exact htake ⟨hb, hl, by simpa using hen⟩ hd

lemma gate_meets (hi : ∀ l, Q l → l.has (.enabled i) = true)
    (h : ∀ l, Q l → R (l.set (.enabled i) false)) :
    Act.Meets (With Q) (gate i) (With R) Failed := by
  rintro past l ⟨hb, hl⟩ tr l' ret hd
  obtain ⟨r, u, rfl, hu⟩ := does_ask_bind.1 hd
  obtain ⟨rfl, rfl, rfl⟩ := Act.does_return.1 hu
  have hgive := hb.give (e := (.disable i, r)) (f := .enabled i) rfl rfl (hi l hl)
  exact ⟨fun _ => ⟨hgive, h l hl⟩, fun h => absurd rfl h⟩

/-- Which receive clocks the lease has enabled. -/
def Gates (a b : Bool) (l : Lease) : Prop := l.has (.enabled 0) = a ∧ l.has (.enabled 1) = b

lemma Gates.set_zero {a b : Bool} (h : Gates a b l) (c : Bool) :
    Gates c b (l.set (.enabled 0) c) :=
  ⟨Lease.set_has_self .., (Lease.set_has_of_ne l (by decide) c).trans h.2⟩

lemma Gates.set_one {a b : Bool} (h : Gates a b l) (c : Bool) :
    Gates a c (l.set (.enabled 1) c) :=
  ⟨(Lease.set_has_of_ne l (by decide) c).trans h.1, Lease.set_has_self ..⟩

lemma rxSelect_meets (phy : Bool) :
    Act.Meets (With fun _ => True) (rxSelect phy) (With (Gates true true)) Failed := by
  refine (checkSelector_looks 0).meets.cons ((checkSelector_looks 1).meets.cons ?_)
  refine (enableIdle_meets fun _ h => h).cons ((enableIdle_meets fun l h => ?_).cons ?_)
  · exact ⟨trivial, (Lease.set_has_of_ne l (by decide) true).trans h.2⟩
  refine (gate_meets (R := Gates false true) (fun _ h => h.1.2) fun l h => ?_).cons ?_
  · exact Gates.set_zero (a := true) ⟨h.1.2, h.2⟩ false
  refine (gate_meets (R := Gates false false) (fun _ h => h.2) fun l h => h.set_one false).cons ?_
  refine (reparent_looks phy 0).meets.cons ((reparent_looks phy 1).meets.cons ?_)
  refine (take_meets (R := Gates true false) (takes_enable 0) (fun _ h => h.1)
    fun l h => h.set_zero true).cons ?_
  exact (take_meets (takes_enable 1) (fun _ h => h.2) fun l h => h.set_one true).cons Act.Meets.nil

lemma ReadBack.prepend {phy : Bool} {u : List (Call × Reply)} (h : ReadBack phy i u)
    (t : List (Call × Reply)) : ReadBack phy i (t ++ u) := by
  obtain ⟨pre, r, post, rfl, h⟩ := h
  exact ⟨t ++ pre, r, post, by simp, h⟩

lemma take_readBack {phy : Bool} (i : Fin 2) :
    Act.Meets (fun past _ => ReadBack phy 0 past ∧ ReadBack phy 1 past)
      (take (.enable i) (.enabled i)) (fun past _ => ReadBack phy 0 past ∧ ReadBack phy 1 past)
      (fun _ _ _ => True) := by
  rintro past l ⟨h₀, h₁⟩ tr l' ret hd
  obtain ⟨r, u, rfl, hu⟩ := does_ask_bind.1 hd
  have hnil : u = [] := by
    split_ifs at hu
    · exact (Act.does_return.1 hu).1
    · exact (Act.does_return.1 hu).1
  subst hnil
  exact ⟨fun _ => ⟨h₀.append (by simp), h₁.append (by simp)⟩, fun _ => trivial⟩

lemma rxSelect_readBack (phy : Bool) :
    Act.Meets (fun _ _ => True) (rxSelect phy)
      (fun past _ => ReadBack phy 0 past ∧ ReadBack phy 1 past) (fun _ _ _ => True) := by
  refine Act.Meets.true.cons (Act.Meets.true.cons (Act.Meets.true.cons (Act.Meets.true.cons
    (Act.Meets.true.cons (Act.Meets.true.cons ?_)))))
  refine Act.Meets.cons (R := fun past _ => ReadBack phy 0 past) ?_
    (Act.Meets.cons (R := fun past _ => ReadBack phy 0 past ∧ ReadBack phy 1 past) ?_
      ((take_readBack 0).cons ((take_readBack 1).cons Act.Meets.nil)))
  · intro past l _ tr l' ret hd
    obtain ⟨-, -, hread⟩ := reparent_does hd
    exact ⟨fun h0 => (hread h0).prepend past, fun _ => trivial⟩
  · intro past l h₀ tr l' ret hd
    obtain ⟨-, hcalls, hread⟩ := reparent_does hd
    refine ⟨fun h0 => ⟨ReadBack.append h₀ fun e he => ?_, (hread h0).prepend past⟩,
      fun _ => trivial⟩
    rcases hcalls e he with h | h | h <;> rw [h] <;> simp

/-! ### Sequences of calls -/

inductive Op where
  | get (consumer : Bool) (port : ℕ) (probed : Bool)
  | put (p : ℕ)
  | rxSelect (p : ℕ) (phy probed : Bool)

def Op.act : Op → Act Call Reply Global
  | .get consumer port probed => gccGet consumer port probed
  | .put p => gccPut p
  | .rxSelect p phy probed => gccRxSelect p phy probed

/-- All that was said so far, and the active lease. -/
structure Sys where
  past : List (Call × Reply) := []
  lease : Global := none

/-- What the kernel answers may depend on all of the past. -/
abbrev Answer := List (Call × Reply) → Call → Reply

def Sys.call (answer : Answer) (s : Sys) (op : Op) : List (Call × Reply) × Global × ℤ :=
  (op.act s.lease).run answer s.past.reverse

def Sys.step (answer : Answer) (s : Sys) (op : Op) : Sys :=
  { past := s.past ++ (s.call answer op).1, lease := (s.call answer op).2.1 }

lemma Sys.call_does (answer : Answer) (s : Sys) (op : Op) :
    Does (op.act s.lease) (s.call answer op).1 ((s.call answer op).2.1, (s.call answer op).2.2) :=
  run_does answer s.past.reverse _

lemma Balanced.lease {past : List (Call × Reply)} (h : Balanced past none) {m p d : Reply}
    (hm : m.ret ≠ 0) (hp : p.value ≠ 0) (addr : ℕ) :
    Balanced (past ++ [(.moduleGet, m), (.alloc, p), (.deviceGet, d)]) (some { addr }) := by
  intro r
  rw [balance_append, h r, balance_cons, balance_cons (.alloc, p), balance_singleton,
    balance_singleton, balance_singleton]
  cases r <;> simp [recorded, taken, returned, hm, hp]

lemma Balanced.release {past t : List (Call × Reply)} (h : Balanced past (some l))
    (ht : Does (release l) t ()) (m : Reply) :
    Balanced (past ++ (t ++ [(.modulePut, m)])) none := by
  intro r
  rw [← List.append_assoc, balance_append, release_does h ht, balance_singleton]
  cases r <;> simp [recorded, taken, returned]

lemma gccGet_balanced {consumer : Bool} {port : ℕ} {probed : Bool} {g g' : Global}
    {ret : ℤ} (hb : Balanced past g) (h : Does (gccGet consumer port probed g) tr (g', ret)) :
    Balanced (past ++ tr) g' ∧ (ret ≠ 0 → g' = g) := by
  have hstay : ∀ {t : List (Call × Reply)} {r : ℤ}, Does (pure (g, r) : Dialog Call Reply _) t
      (g', ret) → t = [] ∧ g' = g := fun h => ⟨(Act.does_return.1 h).1, (Act.does_return.1 h).2.1⟩
  have hnone : tr = [] ∧ g' = g → Balanced (past ++ tr) g' ∧ (ret ≠ 0 → g' = g) := by
    rintro ⟨rfl, rfl⟩
    exact ⟨by rwa [List.append_nil], fun _ => rfl⟩
  unfold gccGet at h
  split_ifs at h with h₁ h₂ h₃ h₄
  · exact hnone (hstay h)
  · exact hnone (hstay h)
  · exact hnone (hstay h)
  · exact hnone (hstay h)
  obtain rfl : g = none := by simpa using h₄
  obtain ⟨m, u, rfl, hu⟩ := does_ask_bind.1 h
  split_ifs at hu with hm
  · obtain ⟨rfl, rfl⟩ := hstay hu
    exact ⟨hb.idle (by simp [Idle, taken, returned, hm]), fun _ => rfl⟩
  obtain ⟨p, v, rfl, hv⟩ := does_ask_bind.1 hu
  split_ifs at hv with hp
  · obtain ⟨q, w, rfl, hw⟩ := does_ask_bind.1 hv
    obtain ⟨rfl, rfl⟩ := hstay hw
    -- Out of memory: the module reference goes back.
    refine ⟨fun r => ?_, fun _ => rfl⟩
    rw [balance_append, hb r, balance_cons, balance_cons (.alloc, p), balance_singleton,
      balance_singleton, balance_singleton]
    cases r <;> simp [recorded, taken, returned, hm, hp]
  obtain ⟨d, w, rfl, hw⟩ := does_ask_bind.1 hv
  -- From here on the lease records what it has; a failure releases all of it.
  have hlease := hb.lease hm hp (d := d) p.value
  obtain ⟨t, ⟨l, e⟩, x, rfl, ht, hx⟩ := does_bind.1 hw
  obtain ⟨hok, hfail⟩ := fill_meets ⟨hlease, fun _ => rfl⟩ ht
  have hsplit : past ++ (Call.moduleGet, m) :: (.alloc, p) :: (.deviceGet, d) :: (t ++ x) =
      past ++ [(Call.moduleGet, m), (.alloc, p), (.deviceGet, d)] ++ t ++ x := by simp
  rw [hsplit]
  by_cases h0 : e = 0
  · simp only [h0, ne_eq, not_true_eq_false, if_false] at hx
    obtain ⟨rfl, rfl, rfl⟩ := Act.does_return.1 hx
    rw [List.append_nil]
    exact ⟨(hok h0).1, fun h => absurd rfl h⟩
  · simp only [h0, ne_eq, not_false_eq_true, if_true] at hx
    obtain ⟨y, ⟨⟩, z, rfl, hy, hz⟩ := does_bind.1 hx
    obtain ⟨q, z', rfl, hz'⟩ := does_ask_bind.1 hz
    obtain ⟨rfl, rfl⟩ := hstay hz'
    exact ⟨(hfail h0).release hy q, fun _ => rfl⟩

lemma gccPut_balanced {p : ℕ} {g g' : Global} {ret : ℤ}
    (hb : Balanced past g) (h : Does (gccPut p g) tr (g', ret)) :
    Balanced (past ++ tr) g' ∧ ∀ l, g = some l → l.addr = p → g' = none := by
  unfold gccPut at h
  split at h
  · obtain ⟨rfl, rfl, -⟩ := Act.does_return.1 h
    exact ⟨by rwa [List.append_nil], fun l hl => by cases hl⟩
  · rename_i l
    split_ifs at h with ha
    · obtain ⟨rfl, rfl, -⟩ := Act.does_return.1 h
      refine ⟨by rwa [List.append_nil], fun l' hl hp => absurd hp ?_⟩
      cases hl
      exact ha
    · obtain ⟨t, ⟨⟩, u, rfl, ht, hu⟩ := does_bind.1 h
      obtain ⟨m, v, rfl, hv⟩ := does_ask_bind.1 hu
      obtain ⟨rfl, rfl, -⟩ := Act.does_return.1 hv
      exact ⟨hb.release ht m, fun _ _ _ => rfl⟩

lemma gccRxSelect_balanced {p : ℕ} {phy probed : Bool} {g g' : Global}
    {ret : ℤ} (hb : Balanced past g) (h : Does (gccRxSelect p phy probed g) tr (g', ret)) :
    Balanced (past ++ tr) g' ∧ (ret = 0 → (∃ l, g' = some l ∧ Gates true true l) ∧
      ReadBack phy 0 tr ∧ ReadBack phy 1 tr) := by
  unfold gccRxSelect at h
  split at h
  · obtain ⟨rfl, rfl, rfl⟩ := Act.does_return.1 h
    exact ⟨by rwa [List.append_nil], fun h => absurd h (by decide)⟩
  · rename_i l
    split_ifs at h with ha
    · obtain ⟨rfl, rfl, rfl⟩ := Act.does_return.1 h
      exact ⟨by rwa [List.append_nil], fun h => absurd h (by decide)⟩
    · obtain ⟨t, ⟨l', e⟩, u, rfl, ht, hu⟩ := does_bind.1 h
      obtain ⟨rfl, rfl, rfl⟩ := Act.does_return.1 hu
      obtain ⟨hok, hfail⟩ := rxSelect_meets phy ⟨hb, trivial⟩ ht
      have hread := @rxSelect_readBack phy [] _ trivial _ _ _ ht
      rw [List.append_nil]
      by_cases h0 : ret = 0
      · exact ⟨(hok h0).1, fun _ => ⟨⟨l', rfl, (hok h0).2⟩, hread.1 h0⟩⟩
      · exact ⟨hfail h0, fun h => absurd h h0⟩

lemma step_balanced (answer : Answer) (s : Sys) (op : Op) (hb : Balanced s.past s.lease) :
    Balanced (s.step answer op).past (s.step answer op).lease := by
  have hd := s.call_does answer op
  cases op with
  | get consumer port probed => exact (gccGet_balanced hb hd).1
  | put p => exact (gccPut_balanced hb hd).1
  | rxSelect p phy probed => exact (gccRxSelect_balanced hb hd).1

lemma recorded_memory_le (g : Global) : recorded g .memory ≤ 1 := by
  cases g with
  | none => decide
  | some l => exact Int.le_refl 1

/-- In any sequence of calls with any answers the lease records what was taken through it, a failed
get and a put give everything back, and a select that succeeds has read both selectors back. -/
theorem lease_balanced (answer : Answer) (ops : List Op) :
    let s := Steps.run (Sys.step answer) {} ops
    (∀ r, balance s.past r = recorded s.lease r) ∧
    -- at most one lease exists
    balance s.past .memory ≤ 1 ∧
    (∀ consumer port probed, (s.call answer (.get consumer port probed)).2.2 ≠ 0 →
      ∀ r, balance (s.call answer (.get consumer port probed)).1 r = 0) ∧
    (∀ l, s.lease = some l → (s.step answer (.put l.addr)).lease = none ∧
      ∀ r, balance (s.step answer (.put l.addr)).past r = 0) ∧
    (∀ p phy probed, (s.call answer (.rxSelect p phy probed)).2.2 = 0 → ∀ i,
      ReadBack phy i (s.call answer (.rxSelect p phy probed)).1 ∧
      balance (s.step answer (.rxSelect p phy probed)).past (.field (.enabled i)) = 1) := by
  intro s
  have hb : Balanced s.past s.lease :=
    Steps.run_invariant (I := fun s : Sys => Balanced s.past s.lease) (step_balanced answer) ops
      fun _ => rfl
  refine ⟨hb, ?_, ?_, ?_, ?_⟩
  · rw [hb]
    exact recorded_memory_le _
  · intro consumer port probed hret r
    obtain ⟨hafter, hsame⟩ := gccGet_balanced hb (s.call_does answer (.get consumer port probed))
    have hr := hafter r
    rw [hsame hret, balance_append, hb r] at hr
    omega
  · intro l hl
    obtain ⟨hafter, hnone⟩ := gccPut_balanced hb (s.call_does answer (.put l.addr))
    have hgone := hnone l hl rfl
    refine ⟨hgone, fun r => ?_⟩
    have hr := hafter r
    rwa [hgone] at hr
  · intro p phy probed hret i
    obtain ⟨hafter, hok⟩ := gccRxSelect_balanced hb (s.call_does answer (.rxSelect p phy probed))
    obtain ⟨⟨l, hl, hg⟩, hread⟩ := hok hret
    have hr := hafter (.field (.enabled i))
    rw [hl] at hr
    obtain rfl | rfl : i = 0 ∨ i = 1 := by omega
    · exact ⟨hread.1, hr.trans (by simp [recorded, hg.1])⟩
    · exact ⟨hread.2, hr.trans (by simp [recorded, hg.2])⟩

end YogaUsb4.GccLease
