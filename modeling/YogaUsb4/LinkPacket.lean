import YogaUsb4.Dialog
import YogaUsb4.Wire

/-!
The frames of a control read: the address word, the request, and what counts as its reply. The
checksum is any function of the bytes.
-/

namespace YogaUsb4.LinkPacket

open Wire

/-! ### The code -/

/-- `struct x1_read_spec`. -/
structure ReadSpec where
  route : BitVec 32
  port : BitVec 32
  space : BitVec 32
  offset : BitVec 32
  words : BitVec 32
  seq : BitVec 32
  deriving DecidableEq

def ReadSpec.refused (s : ReadSpec) : Bool :=
  (s.route ≠ 0 ∧ s.route ≠ 2) ∨ s.port > 7 ∨ s.seq > 3 ∨ s.words = 0 ∨ s.words > 8 ∨
    s.offset > 255 ∨ s.offset + s.words > 256 ∨ (s.space ≠ 1 ∧ s.space ≠ 2) ∨
    (s.space = 2 ∧ (s.port ≠ 0 ∨
      ¬ ((s.offset = 0 ∧ s.words = 5) ∨ (s.offset = 5 ∧ s.words = 4) ∨
        (s.route = 2 ∧ (s.offset = 5 ∨ s.offset = 6) ∧ s.words = 1) ∨
        (s.offset ≥ 9 ∧ s.words ≤ 2)))) ∨
    (s.space = 1 ∧ (s.port = 0 ∨ (s.route ≠ 0 ∧ s.port > 5)))

def ReadSpec.address (s : ReadSpec) : BitVec 32 :=
  s.offset ||| (s.words <<< 13) ||| (s.port <<< 19) ||| (s.space <<< 25) ||| (s.seq <<< 27)

def readAddress (s : ReadSpec) : Except ℤ (BitVec 32) :=
  if s.refused then .error (-einval) else .ok s.address

/-- A frame as it arrives: the bytes, and the two marks of its descriptor. -/
structure Frame where
  wire : List Byte
  sof : BitVec 32
  eof : BitVec 32

variable (crc32c : List Byte → BitVec 32)

/-- `x1_read_request`: the bytes it writes. -/
def readRequest (s : ReadSpec) : Except ℤ (List Byte) := do
  let address ← readAddress s
  let head := putBe32 0 ++ putBe32 s.route ++ putBe32 address
  return head ++ putBe32 (~~~ crc32c head)

def portField : BitVec 32 := 0x3f#32 <<< 19

/-- `x1_read_reply`: the words it stores. -/
def readReply (f : Frame) (s : ReadSpec) : Except ℤ (List (BitVec 32)) := do
  let address ← readAddress s
  let size := f.wire.length
  if size < 16 ∨ size > 48 ∨ f.sof ≠ 0 ∨ size % 4 ≠ 0 then throw (-eproto)
  if getBe32 f.wire (size - 4) ≠ ~~~ crc32c (f.wire.take (size - 4)) then throw (-ebadmsg)
  if f.eof = 3 then
    if size ≠ 16 then throw (-eproto)
    throw (-enolink)
  if f.eof ≠ 1 ∨ size ≠ 16 + 4 * s.words.toNat ∨ getBe32 f.wire 0 ≠ 0x80000000 ∨
      getBe32 f.wire 4 ≠ s.route then
    throw (-eproto)
  let got := getBe32 f.wire 8
  -- the reply's port is metadata, not an echoed request port
  if got &&& ~~~ portField ≠ address &&& ~~~ portField then throw (-eproto)
  return (List.range s.words.toNat).map fun i => getBe32 f.wire (12 + i * 4)

/-! ### The address word -/

def ReadSpec.Admitted (s : ReadSpec) : Prop := s.refused = false

instance (s : ReadSpec) : Decidable s.Admitted := inferInstanceAs (Decidable (_ = _))

/-- The values are as wide as their fields of the address word. -/
structure ReadSpec.FitsWord (s : ReadSpec) : Prop where
  offset : s.offset < 0x2000
  words : s.words < 64
  port : s.port < 64
  space : s.space < 4
  seq : s.seq < 4

/-- The same but for the port. -/
structure ReadSpec.Agrees (s t : ReadSpec) : Prop where
  route : s.route = t.route
  space : s.space = t.space
  offset : s.offset = t.offset
  words : s.words = t.words
  seq : s.seq = t.seq

variable {s t : ReadSpec}

lemma ReadSpec.Admitted.fitsWord (h : s.Admitted) : s.FitsWord := by
  simp only [ReadSpec.Admitted, ReadSpec.refused, decide_eq_false_iff_not, not_or] at h
  obtain ⟨-, hport, hseq, -, hwords, hoffset, -, hspace, -⟩ := h
  exact ⟨by bv_omega, by bv_omega, by bv_omega, by bv_omega, by bv_omega⟩

lemma ReadSpec.FitsWord.toNat_address (h : s.FitsWord) :
    s.address.toNat = s.offset.toNat + s.words.toNat * 2 ^ 13 + s.port.toNat * 2 ^ 19 +
      s.space.toNat * 2 ^ 25 + s.seq.toNat * 2 ^ 27 := by
  have ho : s.offset.toNat < 2 ^ 13 := h.offset
  have hw : s.words.toNat < 2 ^ 6 := h.words
  have hp : s.port.toNat < 2 ^ 6 := h.port
  have hs : s.space.toNat < 2 ^ 2 := h.space
  have hq : s.seq.toNat < 2 ^ 2 := h.seq
  have h₁ := toNat_or_shiftLeft s.offset s.words ho hw (by decide)
  have h₂ := toNat_or_shiftLeft (k := 19) _ s.port (by rw [h₁]; omega) hp (by decide)
  have h₃ := toNat_or_shiftLeft (k := 25) _ s.space (by rw [h₂, h₁]; omega) hs (by decide)
  have h₄ := toNat_or_shiftLeft (k := 27) _ s.seq (by rw [h₃, h₂, h₁]; omega) hq (by decide)
  rw [ReadSpec.address, h₄, h₃, h₂, h₁]

lemma toNat_and_portField (x : BitVec 32) :
    (x &&& ~~~ portField).toNat = x.toNat % 2 ^ 19 + x.toNat / 2 ^ 25 * 2 ^ 25 := by
  have hsplit : x &&& ~~~ portField = (x.setWidth 19).setWidth 32 ||| (x >>> 25) <<< 25 := by
    ext i hi
    simp only [portField, BitVec.getElem_and, BitVec.getElem_not]
    interval_cases i <;> simp
  have hlow : ((x.setWidth 19).setWidth 32).toNat = x.toNat % 2 ^ 19 := by
    simp only [BitVec.toNat_setWidth]
    omega
  have hhigh : (x >>> 25).toNat = x.toNat / 2 ^ 25 := by
    rw [BitVec.toNat_ushiftRight, Nat.shiftRight_eq_div_pow]
  rw [hsplit, toNat_or_shiftLeft (n := 7) _ _ (by rw [hlow]; omega) (by rw [hhigh]; omega)
    (by decide), hlow, hhigh]

lemma ReadSpec.FitsWord.and_portField (hs : s.FitsWord) (ht : t.FitsWord) :
    s.address &&& ~~~ portField = t.address &&& ~~~ portField ↔
      s.space = t.space ∧ s.offset = t.offset ∧ s.words = t.words ∧ s.seq = t.seq := by
  have := hs.toNat_address
  have := ht.toNat_address
  obtain ⟨_, _, _, _, _⟩ := hs
  obtain ⟨_, _, _, _, _⟩ := ht
  simp only [← BitVec.toNat_inj, toNat_and_portField]
  bv_omega

lemma ReadSpec.FitsWord.address_inj (hs : s.FitsWord) (ht : t.FitsWord)
    (h : s.address = t.address) : s.space = t.space ∧ s.offset = t.offset ∧ s.words = t.words ∧
      s.seq = t.seq ∧ s.port = t.port := by
  have := hs.toNat_address
  have := ht.toNat_address
  obtain ⟨_, _, _, _, _⟩ := hs
  obtain ⟨_, _, _, _, _⟩ := ht
  simp only [← BitVec.toNat_inj] at h ⊢
  bv_omega

/-! ### Replies -/

variable {crc32c : List Byte → BitVec 32} {f : Frame} {ws : List (BitVec 32)}

/-- A frame that is the reply to `s`. -/
structure Accepted (crc32c : List Byte → BitVec 32) (f : Frame) (s : ReadSpec) : Prop where
  admitted : s.Admitted
  size : f.wire.length = 16 + 4 * s.words.toNat
  sof : f.sof = 0
  checksum : getBe32 f.wire (f.wire.length - 4) =
    ~~~ crc32c (f.wire.take (f.wire.length - 4))
  eof : f.eof = 1
  response : getBe32 f.wire 0 = 0x80000000
  route : getBe32 f.wire 4 = s.route
  address : getBe32 f.wire 8 &&& ~~~ portField = s.address &&& ~~~ portField

/-- The words of the reply to `s`. -/
def payload (f : Frame) (s : ReadSpec) : List (BitVec 32) :=
  (List.range s.words.toNat).map fun i => getBe32 f.wire (12 + i * 4)

lemma ReadSpec.Admitted.words_le (h : s.Admitted) : s.words.toNat ≤ 8 := by
  simp only [ReadSpec.Admitted, ReadSpec.refused, decide_eq_false_iff_not, not_or] at h
  have := h.2.2.2.2.1
  bv_omega

theorem readReply_ok : readReply crc32c f s = .ok ws ↔ Accepted crc32c f s ∧ ws = payload f s := by
  unfold readReply readAddress
  split
  · rename_i hrefused
    exact iff_of_false nofun fun h => absurd (h.1.admitted.symm.trans hrefused) Bool.false_ne_true
  rename_i hadmitted
  replace hadmitted : s.Admitted := Bool.eq_false_iff.2 hadmitted
  simp only [bind, Except.bind, pure, Except.pure, throw, throwThe, MonadExceptOf.throw]
  split
  · rename_i hsize
    refine iff_of_false nofun fun h => ?_
    have := hadmitted.words_le
    rw [h.1.size, h.1.sof] at hsize
    simp only [ne_eq, not_true_eq_false, false_or] at hsize
    omega
  rename_i hsize
  simp only [not_or, not_not, not_lt] at hsize
  split
  · exact iff_of_false nofun fun h => ‹¬ _› h.1.checksum
  rename_i hcrc
  split
  · -- an error packet, whatever its size
    rename_i heof
    refine iff_of_false (by split <;> nofun) fun h => ?_
    exact absurd (heof.symm.trans h.1.eof) (by decide)
  split
  · rename_i hhead
    refine iff_of_false nofun fun h => ?_
    rcases hhead with hhead | hhead | hhead | hhead
    · exact hhead h.1.eof
    · exact hhead h.1.size
    · exact hhead h.1.response
    · exact hhead h.1.route
  rename_i hhead
  simp only [not_or, not_not] at hhead
  split
  · exact iff_of_false nofun fun h => ‹¬ _› h.1.address
  · rename_i haddress
    rw [not_not] at hcrc haddress
    rw [Except.ok.injEq, eq_comm]
    exact (and_iff_right ⟨hadmitted, hhead.2.1, hsize.2.2.1, hcrc, hhead.1, hhead.2.2.1,
      hhead.2.2.2, haddress⟩).symm

/-! ### What a router answers -/

/-- The frame that a router builds for `t`: the response bit, the route, the address word, the
words and the checksum. -/
def routerReply (crc32c : List Byte → BitVec 32) (t : ReadSpec) (ws : List (BitVec 32)) : Frame :=
  let head := words ([0x80000000, t.route, t.address] ++ ws)
  ⟨head ++ putBe32 (~~~ crc32c head), 0, 1⟩

def replyWords (crc32c : List Byte → BitVec 32) (t : ReadSpec) (ws : List (BitVec 32)) :
    List (BitVec 32) :=
  [0x80000000, t.route, t.address] ++ ws ++
    [~~~ crc32c (words ([0x80000000, t.route, t.address] ++ ws))]

lemma routerReply_wire : (routerReply crc32c t ws).wire = words (replyWords crc32c t ws) := by
  simp [routerReply, replyWords]

@[simp] lemma routerReply_length : (routerReply crc32c t ws).wire.length = 16 + 4 * ws.length := by
  simp only [routerReply_wire, length_words, replyWords, List.length_append, List.length_cons,
    List.length_nil]
  omega

lemma routerReply_checksum :
    getBe32 (routerReply crc32c t ws).wire ((routerReply crc32c t ws).wire.length - 4) =
      ~~~ crc32c ((routerReply crc32c t ws).wire.take
        ((routerReply crc32c t ws).wire.length - 4)) := by
  have hlast : (routerReply crc32c t ws).wire.length - 4 =
      4 * ([0x80000000, t.route, t.address] ++ ws).length := by
    simp only [routerReply_length, List.length_append, List.length_cons, List.length_nil]
    omega
  rw [hlast, routerReply_wire, getBe32_words, replyWords, take_words_append]
  simp

lemma payload_routerReply (h : ws.length = s.words.toNat) :
    payload (routerReply crc32c t ws) s = ws := by
  rw [payload, ← h, routerReply_wire]
  refine List.ext_getElem (by simp) fun i _ hi => ?_
  rw [List.getElem_map, List.getElem_range, show 12 + i * 4 = 4 * (3 + i) by omega, getBe32_words]
  simp [replyWords, Nat.add_comm 3 i, List.getElem?_append_left hi,
    List.getElem?_eq_getElem hi]

/-- The router's frame for `t` is the reply to `s` if the two agree and it has as many words. -/
theorem accepted_routerReply (hs : s.Admitted) (ht : t.FitsWord) :
    Accepted crc32c (routerReply crc32c t ws) s ↔
      t.Agrees s ∧ ws.length = s.words.toNat := by
  have hroute : getBe32 (routerReply crc32c t ws).wire 4 = t.route := by
    rw [routerReply_wire]
    exact getBe32_words _ 1
  have haddress : getBe32 (routerReply crc32c t ws).wire 8 = t.address := by
    rw [routerReply_wire]
    exact getBe32_words _ 2
  constructor
  · intro h
    have hsize := h.size
    have heq := h.address
    rw [routerReply_length] at hsize
    rw [haddress, ht.and_portField hs.fitsWord] at heq
    exact ⟨⟨hroute.symm.trans h.route, heq.1, heq.2.1, heq.2.2.1, heq.2.2.2⟩, by omega⟩
  · rintro ⟨h, hlen⟩
    refine ⟨hs, by rw [routerReply_length, hlen], rfl, routerReply_checksum, rfl, ?_,
      hroute.trans h.route, ?_⟩
    · rw [routerReply_wire]
      exact getBe32_words _ 0
    · rw [haddress, ht.and_portField hs.fitsWord]
      exact ⟨h.space, h.offset, h.words, h.seq⟩

/-- Two reads that one frame is the reply to. -/
theorem Accepted.agrees (hs : Accepted crc32c f s) (ht : Accepted crc32c f t) : s.Agrees t := by
  have heq := hs.address.symm.trans ht.address
  rw [hs.admitted.fitsWord.and_portField ht.admitted.fitsWord] at heq
  exact ⟨hs.route.symm.trans ht.route, heq.1, heq.2.1, heq.2.2.1, heq.2.2.2⟩

lemma readRequest_admitted (hs : s.Admitted) :
    readRequest crc32c s = .ok (words [0, s.route, s.address,
      ~~~ crc32c (words [0, s.route, s.address])]) := by
  have hrefused : s.refused = false := hs
  simp [readRequest, readAddress, hrefused, bind, Except.bind, pure, Except.pure]

/-- What the codec of the control reads has to do, with `crc32c` as its checksum. -/
structure ReadCodec (crc32c : List Byte → BitVec 32) : Prop where
  /-- A frame is the reply to one read, up to the port. -/
  unique : ∀ s t, s.Admitted → t.Admitted → ∀ f ws ws', readReply crc32c f s = .ok ws →
    readReply crc32c f t = .ok ws' → s.Agrees t
  /-- Different reads have different requests. -/
  requests : ∀ s t, s.Admitted → t.Admitted → s ≠ t → ∃ p q, readRequest crc32c s = .ok p ∧
    readRequest crc32c t = .ok q ∧ p ≠ q
  /-- The router's frame is accepted with any port, and read back. -/
  honest : ∀ s, s.Admitted → ∀ ws, ws.length = s.words.toNat → ∀ port < 64,
    readReply crc32c (routerReply crc32c { s with port } ws) s = .ok ws
  /-- With another route, space, offset, length or sequence number it is rejected. -/
  changed : ∀ s t, s.Admitted → t.FitsWord → ¬ t.Agrees s → ∀ ws,
    ∃ e, readReply crc32c (routerReply crc32c t ws) s = .error e

theorem readCodec (crc32c : List Byte → BitVec 32) : ReadCodec crc32c where
  unique s t _ _ f ws ws' h h' := (readReply_ok.1 h).1.agrees (readReply_ok.1 h').1
  requests s t hs ht hne := by
    refine ⟨_, _, readRequest_admitted hs, readRequest_admitted ht, fun h => hne ?_⟩
    have hword : ∀ i,
        getBe32 (words [0, s.route, s.address, ~~~ crc32c (words [0, s.route, s.address])])
          (4 * i) =
        getBe32 (words [0, t.route, t.address, ~~~ crc32c (words [0, t.route, t.address])])
          (4 * i) := fun i => by rw [h]
    simp only [getBe32_words] at hword
    have hroute : s.route = t.route := hword 1
    obtain ⟨hspace, hoffset, hwords, hseq, hport⟩ := hs.fitsWord.address_inj ht.fitsWord (hword 2)
    cases s
    cases t
    simp_all
  honest s hs ws hlen port hport := by
    have hfits : ({ s with port } : ReadSpec).FitsWord := { hs.fitsWord with port := hport }
    refine readReply_ok.2 ⟨(accepted_routerReply hs hfits).2 ⟨⟨rfl, rfl, rfl, rfl, rfl⟩, hlen⟩, ?_⟩
    exact (payload_routerReply hlen).symm
  changed s t hs ht hne ws := by
    cases h : readReply crc32c (routerReply crc32c t ws) s with
    | error e => exact ⟨e, rfl⟩
    | ok ws' => exact absurd ((accepted_routerReply hs ht).1 (readReply_ok.1 h).1).1 hne

end YogaUsb4.LinkPacket
