import YogaUsb4.LinkPacket
import YogaUsb4.Watch

/-!
The other frames of the diagnostic link: the few writes that it may make, the plug events of the
root router, and their acknowledgements. A frame that arrives is taken for at most one of a read
reply, a write reply and an event.
-/

namespace YogaUsb4.Link

open Wire LinkPacket

/-! ### The code -/

/-- `struct x1_write_spec`. -/
structure WriteSpec where
  port : BitVec 32
  space : BitVec 32
  offset : BitVec 32
  words : BitVec 32
  seq : BitVec 32
  before : ℕ → BitVec 32
  after : ℕ → BitVec 32
  route : BitVec 32

def rootPlan (header : ℕ → BitVec 32) : Except ℤ (ℕ → BitVec 32) :=
  if header 0 ≠ 0x093805c6 ∨ header 1 ≠ 0x0101c11c ∨ header 2 ≠ 0 ∨ header 3 ≠ 0 ∨
      header 4 ≠ 0x2000000a then .error (-eperm)
  -- root route 0, enabled, version and timeout
  else .ok fun i => [header 1, header 2, header 3 ||| 0x80000000,
    (header 4 &&& 0xffff0000) ||| 0x10ff].getD i 0

def externalPlan (header : ℕ → BitVec 32) : Except ℤ (ℕ → BitVec 32) :=
  if header 0 ≠ 0x113b059f ∨ header 1 ≠ 0x00014120 ∨ header 2 ≠ 0 ∨ header 3 ≠ 0 ∨
      header 4 ≠ 0x2000000a then .error (-eperm)
  -- upstream 1, depth 1, route 2, enabled, version and timeout
  else .ok fun i => [header 1 ||| (1 <<< 20), 2, 0x80000000, 0x200010ff].getD i 0

def externalSetupPlan (before : BitVec 32) : Except ℤ (BitVec 32) :=
  if before &&& 0x8700000f ≠ 0 then .error (-eperm) else .ok (before &&& ~~~ 0x00800000)

/-- The shapes that `x1_write_address` lets through. -/
def WriteSpec.permitted (s : WriteSpec) : Bool :=
  if s.route = 2 then
    if s.port ≠ 0 ∨ s.space ≠ 2 then false
    else if s.offset = 1 ∧ s.words = 4 then
      s.before 0 = 0x00014120 ∧ s.before 1 = 0 ∧ s.before 2 = 0 ∧ s.before 3 = 0x2000000a ∧
        s.after 0 = 0x00114120 ∧ s.after 1 = 2 ∧ s.after 2 = 0x80000000 ∧ s.after 3 = 0x200010ff
    else if s.offset = 5 ∧ s.words = 1 then
      match externalSetupPlan (s.before 0) with
      | .error _ => false
      | .ok expected => s.after 0 = expected
    else false
  else if s.route ≠ 0 then false
  else if s.port = 0 ∧ s.space = 2 ∧ s.offset = 1 ∧ s.words = 4 then
    s.before 0 = 0x0101c11c ∧ s.before 1 = 0 ∧ s.before 2 = 0 ∧ s.before 3 = 0x2000000a ∧
      s.after 0 = s.before 0 ∧ s.after 1 = 0 ∧ s.after 2 = 0x80000000 ∧ s.after 3 = 0x200010ff
  else if s.port = 2 ∧ s.space = 1 ∧ s.offset = 4 ∧ s.words = 1 then
    s.before 0 &&& 0x80000000 ≠ 0 ∧ s.after 0 = s.before 0 &&& 0x7fffffff
  else false

def WriteSpec.place (s : WriteSpec) : ReadSpec :=
  ⟨s.route, s.port, s.space, s.offset, s.words, s.seq⟩

/-- `x1_write_address`. -/
def writeAddress (s : WriteSpec) : Except ℤ (BitVec 32) :=
  if s.seq > 3 then .error (-einval)
  else if s.permitted then .ok s.place.address
  else .error (-eperm)

variable (crc32c : List Byte → BitVec 32)

/-- `x1_write_request`: the bytes it writes. -/
def writeRequest (s : WriteSpec) : Except ℤ (List Byte) := do
  let address ← writeAddress s
  let head := words ([0, s.route, address] ++ (List.range s.words.toNat).map s.after)
  return head ++ putBe32 (~~~ crc32c head)

def writeReply (f : Frame) (s : WriteSpec) : Except ℤ Unit := do
  let address ← writeAddress s
  if f.wire.length ≠ 16 ∨ f.sof ≠ 0 then throw (-eproto)
  if getBe32 f.wire 12 ≠ ~~~ crc32c (f.wire.take 12) then throw (-ebadmsg)
  if f.eof = 3 then throw (-enolink)
  if f.eof ≠ 2 ∨ getBe32 f.wire 0 ≠ 0x80000000 ∨ getBe32 f.wire 4 ≠ s.route then throw (-eproto)
  let got := getBe32 f.wire 8
  if got &&& ~~~ portField ≠ address &&& ~~~ portField then throw (-eproto)

/-- `struct x1_plug_event`. -/
structure PlugEvent where
  port : BitVec 32
  unplug : Bool
  deriving DecidableEq

def eventDecode (f : Frame) : Except ℤ PlugEvent := do
  if f.wire.length ≠ 16 ∨ f.sof ≠ 0 ∨ f.eof ≠ 5 then throw (-eproto)
  if getBe32 f.wire 12 ≠ ~~~ crc32c (f.wire.take 12) then throw (-ebadmsg)
  if getBe32 f.wire 0 ≠ 0x80000000 ∨ getBe32 f.wire 4 ≠ 0 then throw (-eproto)
  let data := getBe32 f.wire 8
  if data &&& 0x7fffffc0 ≠ 0 ∨ (data &&& 0x3f ≠ 2 ∧ data &&& 0x3f ≠ 3) then throw (-eproto)
  return ⟨data &&& 0x3f, data &&& 0x80000000 ≠ 0⟩

/-- `x1_event_ack`: the bytes it writes. -/
def eventAck (event : PlugEvent) : Except ℤ (List Byte) :=
  if event.port ≠ 2 ∧ event.port ≠ 3 then .error (-einval)
  else
    let head := words [0, 0, (if event.unplug then 0xc0000000 else 0x80000000) |||
      (event.port <<< 8) ||| 7]
    .ok (head ++ putBe32 (~~~ crc32c head))

/-! ### What may be written -/

inductive Write where
  | configureRoot
  | unlockPort
  | configureExternal
  | setupExternal
  deriving DecidableEq

namespace Write

def place (seq : BitVec 32) : Write → ReadSpec
  | configureRoot => ⟨0, 0, 2, 1, 4, seq⟩
  | unlockPort => ⟨0, 2, 1, 4, 1, seq⟩
  | configureExternal => ⟨2, 0, 2, 1, 4, seq⟩
  | setupExternal => ⟨2, 0, 2, 5, 1, seq⟩

/-- Of each word the bits that are written, and their new values. -/
def bits : Write → List (BitVec 32 × BitVec 32)
  | configureRoot => [(0, 0), (0, 0), (0x80000000, 0x80000000), (0xffff, 0x10ff)]
  | unlockPort => [(0x80000000, 0)]
  | configureExternal => [(0x00100000, 0x00100000), (2, 2), (0x80000000, 0x80000000),
      (0xffff, 0x10ff)]
  | setupExternal => [(0x00800000, 0)]

/-- What has to be there before. -/
def Ready : Write → (ℕ → BitVec 32) → Prop
  | configureRoot, before =>
    before 0 = 0x0101c11c ∧ before 1 = 0 ∧ before 2 = 0 ∧ before 3 = 0x2000000a
  | unlockPort, before => before 0 &&& 0x80000000 ≠ 0
  | configureExternal, before =>
    before 0 = 0x00014120 ∧ before 1 = 0 ∧ before 2 = 0 ∧ before 3 = 0x2000000a
  | setupExternal, before => before 0 &&& 0x8700000f = 0

/-- The words that it leaves: all other bits stay. -/
def apply (w : Write) (before : ℕ → BitVec 32) : List (BitVec 32) :=
  w.bits.mapIdx fun i b => before i &&& ~~~ b.1 ||| b.2

end Write

def WriteSpec.data (s : WriteSpec) : List (BitVec 32) := (List.range s.words.toNat).map s.after

structure WriteSpec.Is (s : WriteSpec) (w : Write) : Prop where
  place : s.place = w.place s.seq
  ready : w.Ready s.before
  data : s.data = w.apply s.before

lemma WriteSpec.permitted_at {s : WriteSpec} {w : Write} (h : s.place = w.place s.seq) :
    s.permitted ↔ w.Ready s.before ∧ s.data = w.apply s.before := by
  obtain ⟨port, space, offset, words, seq, before, after, route⟩ := s
  cases w <;>
    simp only [WriteSpec.place, Write.place, ReadSpec.mk.injEq, and_true] at h <;>
    obtain ⟨rfl, rfl, rfl, rfl, rfl⟩ := h <;>
    simp [WriteSpec.permitted, WriteSpec.data, Write.Ready, Write.apply, Write.bits,
      List.range_succ]
  case configureRoot =>
    constructor
    · rintro ⟨h₀, h₁, h₂, h₃, h₄, h₅, h₆, h₇⟩
      simp [*]
    · rintro ⟨⟨h₀, h₁, h₂, h₃⟩, h₄, h₅, h₆, h₇⟩
      simp [*]
  case configureExternal =>
    constructor
    · rintro ⟨h₀, h₁, h₂, h₃, h₄, h₅, h₆, h₇⟩
      simp [*]
    · rintro ⟨⟨h₀, h₁, h₂, h₃⟩, h₄, h₅, h₆, h₇⟩
      simp [*]
  case setupExternal =>
    simp only [externalSetupPlan]
    by_cases hbusy : before 0 &&& 0x8700000f#32 = 0#32
    · simp [hbusy]
    · simp [hbusy]

lemma WriteSpec.place_of_permitted {s : WriteSpec} (h : s.permitted) :
    ∃ w : Write, s.place = w.place s.seq := by
  obtain ⟨port, space, offset, words, seq, before, after, route⟩ := s
  simp only [WriteSpec.permitted, WriteSpec.place] at h ⊢
  split_ifs at h with h₁ h₂ h₃ h₄ h₅ h₆ h₇
  · simp only [not_or, not_not] at h₂
    exact ⟨.configureExternal, by simp [Write.place, *]⟩
  · simp only [not_or, not_not] at h₂
    exact ⟨.setupExternal, by simp [Write.place, *]⟩
  · rw [not_not] at h₅
    exact ⟨.configureRoot, by simp [Write.place, *]⟩
  · rw [not_not] at h₅
    exact ⟨.unlockPort, by simp [Write.place, *]⟩

lemma permitted_iff {s : WriteSpec} : s.permitted ↔ ∃ w, s.Is w := by
  constructor
  · intro h
    obtain ⟨w, hplace⟩ := s.place_of_permitted h
    obtain ⟨hready, hdata⟩ := (s.permitted_at hplace).1 h
    exact ⟨w, hplace, hready, hdata⟩
  · rintro ⟨w, h⟩
    exact (s.permitted_at h.place).2 ⟨h.ready, h.data⟩

/-! The plans are such updates. -/

lemma rootPlan_is {header after : ℕ → BitVec 32} (h : rootPlan header = .ok after)
    (seq : BitVec 32) :
    (⟨0, 2, 1, 4, seq, fun i => header (i + 1), after, 0⟩ : WriteSpec).Is .configureRoot := by
  unfold rootPlan at h
  split at h
  · cases h
  rename_i hheader
  simp only [not_or, not_not] at hheader
  obtain ⟨-, h₁, h₂, h₃, h₄⟩ := hheader
  cases h
  refine ⟨rfl, ⟨h₁, h₂, h₃, h₄⟩, ?_⟩
  simp [WriteSpec.data, Write.apply, Write.bits, List.range_succ, h₁, h₂, h₃, h₄]

lemma externalPlan_is {header after : ℕ → BitVec 32} (h : externalPlan header = .ok after)
    (seq : BitVec 32) :
    (⟨0, 2, 1, 4, seq, fun i => header (i + 1), after, 2⟩ : WriteSpec).Is .configureExternal := by
  unfold externalPlan at h
  split at h
  · cases h
  rename_i hheader
  simp only [not_or, not_not] at hheader
  obtain ⟨-, h₁, h₂, h₃, h₄⟩ := hheader
  cases h
  refine ⟨rfl, ⟨h₁, h₂, h₃, h₄⟩, ?_⟩
  simp [WriteSpec.data, Write.apply, Write.bits, List.range_succ, h₁, h₂, h₃, h₄]

lemma externalSetupPlan_is {before after : BitVec 32} (h : externalSetupPlan before = .ok after)
    (seq : BitVec 32) :
    (⟨0, 2, 5, 1, seq, fun _ => before, fun _ => after, 2⟩ : WriteSpec).Is .setupExternal := by
  unfold externalSetupPlan at h
  split at h
  · cases h
  rename_i hready
  cases h
  exact ⟨rfl, not_not.1 hready, by simp [WriteSpec.data, Write.apply, Write.bits]⟩

lemma unlock_is {before : BitVec 32} (h : before ≠ before &&& ~~~ 0x80000000) (seq : BitVec 32) :
    (⟨2, 1, 4, 1, seq, fun _ => before, fun _ => before &&& ~~~ 0x80000000, 0⟩ : WriteSpec).Is
      .unlockPort := by
  refine ⟨rfl, fun hclear => h ?_, by simp [WriteSpec.data, Write.apply, Write.bits]⟩
  have hbit : before[31] = false := by
    have hbits : (before &&& 0x80000000)[31] = false := by
      rw [hclear]
      rfl
    rw [BitVec.getElem_and] at hbits
    exact (Bool.and_true _).symm.trans hbits
  ext i hi
  interval_cases i <;> simp [hbit]

/-! ### Frames of four words -/

lemma WriteSpec.Is.fitsWord {s : WriteSpec} {w : Write} (h : s.Is w) (hseq : s.seq ≤ 3) :
    s.place.FitsWord := by
  have hq : s.seq < 4 := by bv_omega
  rw [h.place]
  cases w <;> exact ⟨by simp [Write.place], by simp [Write.place], by simp [Write.place],
    by simp [Write.place], hq⟩

lemma Write.place_inj {v w : Write} {p q : BitVec 32}
    (hroute : (v.place p).route = (w.place q).route)
    (hspace : (v.place p).space = (w.place q).space)
    (hoffset : (v.place p).offset = (w.place q).offset) : v = w := by
  cases v <;> cases w <;> first | rfl | (exfalso; revert hroute hspace hoffset; simp [Write.place])

/-- A frame from the router: a header of three words and the checksum. -/
def shortFrame (eof route data : BitVec 32) : Frame :=
  let head := words [0x80000000, route, data]
  ⟨head ++ putBe32 (~~~ crc32c head), 0, eof⟩

variable {crc32c : List Byte → BitVec 32} {f : Frame} {s t : WriteSpec}

lemma shortFrame_wire {eof route data : BitVec 32} : (shortFrame crc32c eof route data).wire =
    words [0x80000000, route, data, ~~~ crc32c (words [0x80000000, route, data])] := by
  simp [shortFrame]

lemma eq_shortFrame_iff {eof route data : BitVec 32} : f = shortFrame crc32c eof route data ↔
    f.wire.length = 16 ∧ f.sof = 0 ∧ f.eof = eof ∧
      getBe32 f.wire 12 = ~~~ crc32c (f.wire.take 12) ∧ getBe32 f.wire 0 = 0x80000000 ∧
      getBe32 f.wire 4 = route ∧ getBe32 f.wire 8 = data := by
  constructor
  · rintro rfl
    have hword := getBe32_words
      [0x80000000, route, data, ~~~ crc32c (words [0x80000000, route, data])]
    have htake : (shortFrame crc32c eof route data).wire.take 12 =
        words [0x80000000, route, data] := by
      rw [shortFrame_wire]
      exact take_words_append [0x80000000, route, data] [_]
    rw [htake, shortFrame_wire]
    exact ⟨length_words _, rfl, rfl, hword 3, hword 0, hword 1, hword 2⟩
  · rintro ⟨hsize, hsof, heof, hcrc, h₀, h₁, h₂⟩
    obtain ⟨wire, sof, eof'⟩ := f
    dsimp only at hsize hsof heof hcrc h₀ h₁ h₂
    -- Sixteen bytes are four words, and all four are known.
    have hwire := words_getBe32 (n := 4) hsize
    simp only [List.range_succ, List.range_zero, List.nil_append, List.cons_append, List.map_cons,
      List.map_nil, Nat.mul_zero, Nat.mul_one, Nat.reduceMul, h₀, h₁, h₂] at hwire
    have htake : wire.take 12 = words [0x80000000, route, data] := by
      rw [← hwire]
      exact take_words_append [0x80000000, route, data] [_]
    rw [htake] at hcrc
    rw [hcrc] at hwire
    subst hsof heof
    rw [← hwire]
    simp [shortFrame]

/-! ### Replies to writes -/

lemma and_portField_iff {r : ReadSpec} (hr : r.FitsWord) (got : BitVec 32) :
    got &&& ~~~ portField = r.address &&& ~~~ portField ↔
      ∃ port < 64, got = ({ r with port } : ReadSpec).address := by
  constructor
  · intro h
    have hport : ((got >>> 19) &&& 0x3f).toNat = got.toNat / 2 ^ 19 % 64 := by
      rw [BitVec.toNat_and, BitVec.toNat_ushiftRight, Nat.shiftRight_eq_div_pow]
      exact Nat.and_two_pow_sub_one_eq_mod _ 6
    have hlt : (got >>> 19) &&& 0x3f < 64 := by
      rw [BitVec.lt_def, hport]
      exact Nat.mod_lt _ (by decide)
    refine ⟨_, hlt, ?_⟩
    have hfits : ({ r with port := (got >>> 19) &&& 0x3f } : ReadSpec).FitsWord :=
      { hr with port := hlt }
    have hgot := hfits.toNat_address
    have hr' := hr.toNat_address
    rw [← BitVec.toNat_inj, toNat_and_portField, toNat_and_portField, hr'] at h
    rw [← BitVec.toNat_inj, hgot, hport]
    obtain ⟨ho, hw, hp, hs, hq⟩ := hr
    have := got.isLt
    bv_omega
  · rintro ⟨port, hport, rfl⟩
    have hfits : ({ r with port } : ReadSpec).FitsWord := { hr with port := hport }
    exact (hfits.and_portField hr).2 ⟨rfl, rfl, rfl, rfl⟩

structure WriteSpec.Sent (s : WriteSpec) (w : Write) : Prop extends s.Is w where
  seq : s.seq ≤ 3

lemma writeAddress_ok {address : BitVec 32} : writeAddress s = .ok address ↔
    (∃ w, s.Sent w) ∧ address = s.place.address := by
  unfold writeAddress
  split
  · rename_i hseq
    refine iff_of_false (by simp) ?_
    rintro ⟨⟨w, h⟩, -⟩
    have := h.seq
    bv_omega
  · rename_i hseq
    have hle : s.seq ≤ 3 := by bv_omega
    split
    · rename_i hperm
      obtain ⟨w, h⟩ := permitted_iff.1 hperm
      rw [Except.ok.injEq, eq_comm]
      exact (and_iff_right ⟨w, h, hle⟩).symm
    · rename_i hperm
      refine iff_of_false (by simp) ?_
      rintro ⟨⟨w, h⟩, -⟩
      exact hperm (permitted_iff.2 ⟨w, h.toIs⟩)

lemma refuse_eq_ok {α : Type} {p : Prop} [Decidable p] {e : ℤ} {x : Except ℤ α} {a : α} :
    (if p then .error e else x) = .ok a ↔ ¬ p ∧ x = .ok a := by
  by_cases hp : p <;> simp [hp]

lemma writeReply_ok : writeReply crc32c f s = .ok () ↔ (∃ w, s.Sent w) ∧
    ∃ port < 64, f = shortFrame crc32c 2 s.route ({ s.place with port } : ReadSpec).address := by
  unfold writeReply
  cases haddress : writeAddress s with
  | error e =>
    refine iff_of_false (by simp [bind, Except.bind]) ?_
    rintro ⟨h, -⟩
    rw [writeAddress_ok.2 ⟨h, rfl⟩] at haddress
    cases haddress
  | ok address =>
    obtain ⟨hsent, rfl⟩ := writeAddress_ok.1 haddress
    obtain ⟨w, hw⟩ := id hsent
    have hport := and_portField_iff (hw.toIs.fitsWord hw.seq) (getBe32 f.wire 8)
    simp only [bind, Except.bind, pure, Except.pure, throw, throwThe, MonadExceptOf.throw,
      refuse_eq_ok, not_or, not_not, eq_shortFrame_iff, and_iff_right hsent, hport]
    constructor
    · rintro ⟨⟨hsize, hsof⟩, hcrc, -, ⟨heof, h₀, h₁⟩, ⟨port, hlt, h₂⟩, -⟩
      exact ⟨port, hlt, hsize, hsof, heof, hcrc, h₀, h₁, h₂⟩
    · rintro ⟨port, hlt, hsize, hsof, heof, hcrc, h₀, h₁, h₂⟩
      refine ⟨⟨hsize, hsof⟩, hcrc, ?_, ⟨heof, h₀, h₁⟩, ⟨port, hlt, h₂⟩, trivial⟩
      rw [heof]
      decide

/-! ### Events -/

def PlugEvent.data (e : PlugEvent) : BitVec 32 := e.port ||| if e.unplug then 0x80000000 else 0

def PlugEvent.Known (e : PlugEvent) : Prop := e.port = 2 ∨ e.port = 3

lemma and_twoPow_eq (i : ℕ) (v : BitVec 32) :
    v &&& BitVec.twoPow 32 i = 0 ∨ v &&& BitVec.twoPow 32 i = BitVec.twoPow 32 i := by
  rw [BitVec.and_twoPow]
  split
  · exact .inr rfl
  · exact .inl rfl

lemma PlugEvent.data_iff (e : PlugEvent) (data : BitVec 32) :
    e.Known ∧ data = e.data ↔
      ¬ (data &&& 0x7fffffc0 ≠ 0 ∨ (data &&& 0x3f ≠ 2 ∧ data &&& 0x3f ≠ 3)) ∧
        e = ⟨data &&& 0x3f, data &&& 0x80000000 ≠ 0⟩ := by
  constructor
  · obtain ⟨port, unplug⟩ := e
    rintro ⟨rfl | rfl, rfl⟩ <;> cases unplug <;> decide
  · rintro ⟨hbits, rfl⟩
    simp only [not_or, not_and_or, not_not] at hbits
    obtain ⟨hzero, hport⟩ := hbits
    have hsplit : data = data &&& 0x7fffffc0 ||| data &&& 0x3f ||| data &&& 0x80000000 := by
      rw [← BitVec.and_or_distrib_left, ← BitVec.and_or_distrib_left]
      exact (BitVec.and_allOnes).symm
    have htop : data &&& 0x80000000#32 = 0#32 ∨ data &&& 0x80000000#32 = 0x80000000#32 :=
      and_twoPow_eq 31 data
    refine ⟨hport, hsplit.trans ?_⟩
    rw [hzero]
    rcases htop with htop | htop <;> simp [PlugEvent.data, htop]

lemma eventDecode_ok {e : PlugEvent} : eventDecode crc32c f = .ok e ↔
    e.Known ∧ f = shortFrame crc32c 5 0 e.data := by
  unfold eventDecode
  simp only [bind, Except.bind, pure, Except.pure, throw, throwThe, MonadExceptOf.throw,
    refuse_eq_ok, eq_shortFrame_iff, Except.ok.injEq]
  have hdata := e.data_iff (getBe32 f.wire 8)
  rw [eq_comm (a := e)] at hdata
  rw [← hdata]
  simp only [not_or, not_not]
  constructor
  · rintro ⟨⟨hsize, hsof, heof⟩, hcrc, ⟨h₀, h₁⟩, hknown, h₂⟩
    exact ⟨hknown, hsize, hsof, heof, hcrc, h₀, h₁, h₂⟩
  · rintro ⟨hknown, hsize, hsof, heof, hcrc, h₀, h₁, h₂⟩
    exact ⟨⟨hsize, hsof, heof⟩, hcrc, ⟨h₀, h₁⟩, hknown, h₂⟩

/-- The router's error frame with the event's port: its acknowledgement. -/
def ackWords (crc32c : List Byte → BitVec 32) (e : PlugEvent) : List (BitVec 32) :=
  let data := (if e.unplug then 0xc0000000 else 0x80000000) ||| (e.port <<< 8) ||| 7
  [0, 0, data, ~~~ crc32c (words [0, 0, data])]

lemma eventAck_ok {e : PlugEvent} {p : List Byte} : eventAck crc32c e = .ok p ↔
    e.Known ∧ p = words (ackWords crc32c e) := by
  unfold eventAck
  rw [refuse_eq_ok, Except.ok.injEq, eq_comm (a := p), not_and_or, not_not, not_not]
  simp [ackWords, PlugEvent.Known]

/-! ### Errors -/

/-- An error is not 0, which would be success. -/
def Refuses {α : Type} (x : Except ℤ α) : Prop := ∀ e, x = .error e → e ≠ 0

namespace Refuses

variable {α β : Type} {e : ℤ}

lemma ok {a : α} : Refuses (.ok a) := fun _ h => by cases h

lemma error (he : e ≠ 0) : Refuses (.error e : Except ℤ α) := fun _ h => Except.error.inj h ▸ he

lemma bind {x : Except ℤ α} {k : α → Except ℤ β} (hx : Refuses x) (hk : ∀ a, Refuses (k a)) :
    Refuses (x >>= k) := by
  cases x with
  | error e => exact error (hx e rfl)
  | ok a => exact hk a

lemma ite {p : Prop} [Decidable p] {x y : Except ℤ α} (hx : Refuses x) (hy : Refuses y) :
    Refuses (if p then x else y) := by
  split
  · exact hx
  · exact hy

lemma check {p : Prop} [Decidable p] {k : PUnit → Except ℤ α} (he : e ≠ 0)
    (hk : Refuses (k ⟨⟩)) : Refuses (if p then throw e >>= k else k ⟨⟩) :=
  ite (error he) hk

end Refuses

lemma refuses_readAddress {s : ReadSpec} : Refuses (readAddress s) := .ite (.error (by decide)) .ok

lemma refuses_writeAddress : Refuses (writeAddress s) :=
  .ite (.error (by decide)) (.ite .ok (.error (by decide)))

lemma refuses_readReply {s : ReadSpec} : Refuses (readReply crc32c f s) := by
  refine .bind refuses_readAddress fun address => .check (by decide) (.check (by decide) ?_)
  refine .ite (.ite (.error (by decide)) (.error (by decide))) (.check (by decide) ?_)
  exact .check (by decide) .ok

lemma refuses_writeReply : Refuses (writeReply crc32c f s) := by
  refine .bind refuses_writeAddress fun address => .check (by decide) (.check (by decide) ?_)
  refine .check (by decide) (.check (by decide) ?_)
  exact .ite (.error (by decide)) .ok

/-! ### The codecs -/

def requestWords (crc32c : List Byte → BitVec 32) (s : WriteSpec) : List (BitVec 32) :=
  [0, s.route, s.place.address] ++ s.data ++
    [~~~ crc32c (words ([0, s.route, s.place.address] ++ s.data))]

lemma writeRequest_ok {p : List Byte} : writeRequest crc32c s = .ok p ↔
    (∃ w, s.Sent w) ∧ p = words (requestWords crc32c s) := by
  unfold writeRequest
  cases haddress : writeAddress s with
  | error e =>
    refine iff_of_false (by simp [bind, Except.bind]) ?_
    rintro ⟨h, -⟩
    rw [writeAddress_ok.2 ⟨h, rfl⟩] at haddress
    cases haddress
  | ok address =>
    obtain ⟨hsent, rfl⟩ := writeAddress_ok.1 haddress
    simp only [bind, Except.bind, pure, Except.pure, Except.ok.injEq, and_iff_right hsent]
    rw [eq_comm]
    simp [requestWords, WriteSpec.data]

/-- What the codec of the writes has to do, with `crc32c` as its checksum. -/
structure WriteCodec (crc32c : List Byte → BitVec 32) : Prop where
  /-- A request is built for the four masked updates of what was read, and for nothing else. -/
  built : ∀ s p, writeRequest crc32c s = .ok p ↔
    (∃ w, s.Sent w) ∧ p = words (requestWords crc32c s)
  /-- It says where the write goes and what it leaves there. -/
  requests : ∀ s t p, writeRequest crc32c s = .ok p → writeRequest crc32c t = .ok p →
    s.place = t.place ∧ s.data = t.data
  /-- The reply is the router's frame for the write, with any port. -/
  replies : ∀ s f, writeReply crc32c f s = .ok () ↔ (∃ w, s.Sent w) ∧
    ∃ port < 64, f = shortFrame crc32c 2 s.route ({ s.place with port } : ReadSpec).address
  /-- A reply says where the write went that it answers, and with which sequence number. -/
  unique : ∀ s t f, writeReply crc32c f s = .ok () → writeReply crc32c f t = .ok () →
    s.place = t.place

lemma WriteSpec.Sent.place_eq {w v : Write} (hs : s.Sent w) (ht : t.Sent v)
    (hroute : s.route = t.route) (hspace : s.space = t.space) (hoffset : s.offset = t.offset)
    (hseq : s.seq = t.seq) : s.place = t.place := by
  have hw : w = v := by
    apply Write.place_inj (p := s.seq) (q := t.seq)
    · rw [← hs.place, ← ht.place]
      exact hroute
    · rw [← hs.place, ← ht.place]
      exact hspace
    · rw [← hs.place, ← ht.place]
      exact hoffset
  rw [hs.place, ht.place, hw, hseq]

theorem writeCodec (crc32c : List Byte → BitVec 32) : WriteCodec crc32c where
  built s p := writeRequest_ok
  requests s t p hs ht := by
    obtain ⟨⟨w, hw⟩, rfl⟩ := writeRequest_ok.1 hs
    obtain ⟨⟨v, hv⟩, heq⟩ := writeRequest_ok.1 ht
    rw [words_inj] at heq
    simp only [requestWords, List.cons_append, List.nil_append, List.cons.injEq, true_and] at heq
    obtain ⟨hroute, haddress, hdata⟩ := heq
    obtain ⟨hspace, hoffset, -, hseq, -⟩ :=
      (hw.toIs.fitsWord hw.seq).address_inj (hv.toIs.fitsWord hv.seq) haddress
    exact ⟨hw.place_eq hv hroute hspace hoffset hseq, (List.append_inj' hdata rfl).1⟩
  replies s f := writeReply_ok
  unique s t f hs ht := by
    obtain ⟨⟨w, hw⟩, port, hport, rfl⟩ := writeReply_ok.1 hs
    obtain ⟨⟨v, hv⟩, port', hport', heq⟩ := writeReply_ok.1 ht
    have hwire := congrArg Frame.wire heq
    rw [shortFrame_wire, shortFrame_wire, words_inj] at hwire
    simp only [List.cons.injEq, true_and] at hwire
    obtain ⟨hroute, haddress, -⟩ := hwire
    have hfit := hw.toIs.fitsWord hw.seq
    have hfit' := hv.toIs.fitsWord hv.seq
    obtain ⟨hspace, hoffset, -, hseq, -⟩ := ReadSpec.FitsWord.address_inj
      (s := { s.place with port }) (t := { t.place with port := port' })
      { hfit with port := hport } { hfit' with port := hport' } haddress
    exact hw.place_eq hv hroute hspace hoffset hseq

/-- What the codec of the events has to do, with `crc32c` as its checksum. -/
structure EventCodec (crc32c : List Byte → BitVec 32) : Prop where
  /-- An event of one of the two lanes is the router's frame for it, and nothing else is. -/
  decoded : ∀ f e, eventDecode crc32c f = .ok e ↔ e.Known ∧ f = shortFrame crc32c 5 0 e.data
  /-- What was decoded can be acknowledged. -/
  acked : ∀ f e, eventDecode crc32c f = .ok e →
    eventAck crc32c e = .ok (words (ackWords crc32c e))
  /-- An acknowledgement is for one event. -/
  acks : ∀ e e' p, eventAck crc32c e = .ok p → eventAck crc32c e' = .ok p → e = e'
  /-- No frame is taken for two things. -/
  notWrite : ∀ f e s, eventDecode crc32c f = .ok e → writeReply crc32c f s ≠ .ok ()
  notRead : ∀ f e s ws, eventDecode crc32c f = .ok e → readReply crc32c f s ≠ .ok ws
  oneReply : ∀ f s t ws, writeReply crc32c f s = .ok () → readReply crc32c f t ≠ .ok ws

lemma ackWords_inj {e e' : PlugEvent} (he : e.Known) (he' : e'.Known)
    (h : ackWords crc32c e = ackWords crc32c e') : e = e' := by
  obtain ⟨port, unplug⟩ := e
  obtain ⟨port', unplug'⟩ := e'
  have hdata := (List.cons.inj (List.cons.inj (List.cons.inj h).2).2).1
  rcases he with rfl | rfl <;> rcases he' with rfl | rfl <;> cases unplug <;> cases unplug' <;>
    first | rfl | exact absurd hdata (by decide)

theorem eventCodec (crc32c : List Byte → BitVec 32) : EventCodec crc32c where
  decoded f e := eventDecode_ok
  acked f e h := eventAck_ok.2 ⟨(eventDecode_ok.1 h).1, rfl⟩
  acks e e' p h h' := by
    obtain ⟨he, rfl⟩ := eventAck_ok.1 h
    obtain ⟨he', heq⟩ := eventAck_ok.1 h'
    exact ackWords_inj he he' (words_inj.1 heq)
  notWrite f e s h h' := by
    obtain ⟨-, rfl⟩ := eventDecode_ok.1 h
    obtain ⟨-, port, -, heq⟩ := writeReply_ok.1 h'
    exact absurd (congrArg Frame.eof heq) (by simp [shortFrame])
  notRead f e s ws h h' := by
    obtain ⟨-, rfl⟩ := eventDecode_ok.1 h
    exact absurd (readReply_ok.1 h').1.eof (by simp [shortFrame])
  oneReply f s t ws h h' := by
    obtain ⟨-, port, -, rfl⟩ := writeReply_ok.1 h
    exact absurd (readReply_ok.1 h').1.eof (by simp [shortFrame])

end YogaUsb4.Link
