import YogaUsb4.LittleEndian
import YogaUsb4.Dialog
import Mathlib.Tactic.IntervalCases

/-!
The descriptor of a router: its identity with a checksum, and the data with another one. There are
two builders; the one of the X1 changes three bytes of what the other leaves and repairs the
checksum. The checksum of the data is any function of the bytes.
-/

namespace YogaUsb4.Mcu

open LittleEndian
open Wire (Byte byte)

/-! ### The code -/

def dromSize : ℕ := 116

def dromData : List Byte := [
  0x01, 0x67, 0x00, 0x28, 0x03, 0x00, 0x00, 0x00, 0x00, 0x05, 0x86, 0x00,
  0x00, 0x00, 0x05, 0x87, 0x00, 0x00, 0x00, 0x1e, 0x01, 0x51, 0x75, 0x61,
  0x6c, 0x63, 0x6f, 0x6d, 0x6d, 0x20, 0x54, 0x65, 0x63, 0x68, 0x6e, 0x6f,
  0x6c, 0x6f, 0x67, 0x69, 0x65, 0x73, 0x2c, 0x20, 0x49, 0x6e, 0x63, 0x2e,
  0x00, 0x11, 0x02, 0x53, 0x6e, 0x61, 0x70, 0x64, 0x72, 0x61, 0x67, 0x6f,
  0x6e, 0x20, 0x30, 0x31, 0x42, 0x00, 0x0f, 0x09, 0x10, 0x04, 0xc6, 0x05,
  0x38, 0x09, 0x00, 0x00, 0xeb, 0x34, 0x00, 0x00, 0x00, 0x08, 0x82, 0x80,
  0x03, 0x00, 0x00, 0x00, 0x00, 0x08, 0x83, 0x90, 0x02, 0x00, 0x00, 0x00,
  0x00, 0x03, 0x84, 0x00, 0x03, 0x08, 0x06]

/-- One bit of `qcom_usb4_uid_crc`. -/
def crcBit (crc : Byte) : Byte := (crc <<< 1) ^^^ (if crc &&& 0x80 ≠ 0 then 0x07 else 0)

/-- One byte of `qcom_usb4_uid_crc`. -/
def crcByte (crc b : Byte) : Byte := crcBit^[8] (crc ^^^ b)

/-- `qcom_usb4_uid_crc` of the bytes of an identity. -/
def uidCrc (bytes : List Byte) : Byte := bytes.foldl crcByte 0xff

def uid (serial : BitVec 32) (router : Byte) : BitVec 64 :=
  (0x5c6#64 <<< 48) ||| (serial.setWidth 64 <<< 4) ||| router.setWidth 64

/-- `put_unaligned_le64`. -/
def putLe64 (v : BitVec 64) : List Byte :=
  putLe32 (v.extractLsb' 0 32) ++ putLe32 (v.extractLsb' 32 32)

variable (crc32c : List Byte → BitVec 32)

/-- `qcom_usb4_drom_build`: what it leaves in the buffer, and its result. -/
def dromBuild (data : List Byte) (serial : BitVec 32) (router : Byte) : List Byte × ℤ :=
  if data.length < dromSize ∨ router > 2 then (data, -einval)
  else
    let id := putLe64 (uid serial router)
    ([uidCrc id] ++ (id ++ (putLe32 (~~~ crc32c dromData) ++ (dromData ++ data.drop dromSize))), 0)

/-- `qcom_usb4_x1_drom_build`. -/
def x1DromBuild (data : List Byte) (serial : BitVec 32) (router : Byte) : List Byte × ℤ :=
  let (data, ret) := dromBuild crc32c data serial router
  if ret ≠ 0 then (data, ret)
  else
    let data := ((data.set 0x4d 0x41).set 0x59 0x33).set 0x5a 0x28
    let crc := ~~~ crc32c ((data.drop 13).take (dromSize - 13))
    (data.take 9 ++ (putLe32 crc ++ data.drop 13), 0)

/-! ### The checksum of the identity -/

def crcBack (crc : Byte) : Byte :=
  if crc &&& 1 = 0 then crc >>> 1 else (crc ^^^ 0x07) >>> 1 ||| 0x80

lemma crcBack_crcBit : ∀ crc, crcBack (crcBit crc) = crc := by
  decide

lemma crcBit_injective : Function.Injective crcBit := Function.LeftInverse.injective crcBack_crcBit

lemma crcByte_left_injective (b : Byte) : Function.Injective fun crc => crcByte crc b := by
  intro c d h
  have := crcBit_injective.iterate 8 h
  simpa using this

lemma crcByte_right_injective (crc : Byte) : Function.Injective (crcByte crc) := by
  intro b c h
  have := crcBit_injective.iterate 8 h
  simpa using this

lemma foldl_crcByte_ne {a b : Byte} (h : a ≠ b) (crc : Byte) (post : List Byte) :
    post.foldl crcByte (crcByte crc a) ≠ post.foldl crcByte (crcByte crc b) := by
  have hfold : ∀ post : List Byte, Function.Injective fun crc => post.foldl crcByte crc := by
    intro post
    induction post with
    | nil => exact fun _ _ h => h
    | cons c post ih => exact ih.comp (crcByte_left_injective c)
  exact fun heq => h (crcByte_right_injective crc (hfold post heq))

/-! ### The identity -/

lemma toNat_uid {serial : BitVec 32} {router : Byte} (h : ¬ router > 2) :
    (uid serial router).toNat = 0x5c6 * 2 ^ 48 + serial.toNat * 2 ^ 4 + router.toNat := by
  have hs := serial.isLt
  have hr : router.toNat ≤ 2 := BitVec.not_lt.1 h
  have hserial : (serial.setWidth 64).toNat = serial.toNat := by
    rw [BitVec.toNat_setWidth, Nat.mod_eq_of_lt (by omega)]
  have hrouter : (router.setWidth 64).toNat = router.toNat := by
    rw [BitVec.toNat_setWidth, Nat.mod_eq_of_lt (by omega)]
  have h₁ := Wire.toNat_or_shiftLeft (k := 4) (n := 32) (router.setWidth 64) (serial.setWidth 64)
    (by omega) (by omega) (by decide)
  have h₂ := Wire.toNat_or_shiftLeft (k := 48) (n := 11)
    (router.setWidth 64 ||| serial.setWidth 64 <<< 4) 0x5c6#64 (by omega) (by decide) (by decide)
  have hor : uid serial router =
      router.setWidth 64 ||| serial.setWidth 64 <<< 4 ||| 0x5c6#64 <<< 48 := by
    rw [uid, BitVec.or_comm, BitVec.or_comm (0x5c6#64 <<< 48), BitVec.or_assoc]
  rw [hor, h₂, h₁, hserial, hrouter]
  have : (0x5c6#64).toNat = 0x5c6 := by decide
  rw [this, Nat.add_comm, Nat.add_comm router.toNat, ← Nat.add_assoc]

lemma toNat_halves (v : BitVec 64) :
    (v.extractLsb' 32 32).toNat * 2 ^ 32 + (v.extractLsb' 0 32).toNat = v.toNat := by
  have := v.isLt
  simp only [BitVec.extractLsb'_toNat, Nat.shiftRight_eq_div_pow]
  omega

/-! ### What is built -/

/-- Entries one after the other, each with its length in its first byte, up to the end. -/
def chained : ℕ → List Byte → Bool
  | _, [] => true
  | 0, _ :: _ => false
  | n + 1, b :: l =>
    decide (2 ≤ b.toNat ∧ b.toNat ≤ l.length + 1) && chained n (l.drop (b.toNat - 1))

/-- A descriptor of this router: both checksums are right, the identity is the router's, the
declared length is that of the data, and the entries end where the data ends. -/
structure Genuine (serial : BitVec 32) (router : Byte) (d : List Byte) : Prop where
  length : d.length = dromSize
  uidCrc : byte d 0 = uidCrc ((d.drop 1).take 8)
  uid : (word (byte d) 5).toNat * 2 ^ 32 + (word (byte d) 1).toNat =
    0x5c6 * 2 ^ 48 + serial.toNat * 2 ^ 4 + router.toNat
  crc : word (byte d) 9 = ~~~ crc32c (d.drop 13)
  declared : (byte d 15).toNat % 16 * 256 + (byte d 14).toNat = (d.drop 13).length
  entries : chained dromSize (d.drop 22) = true

def descriptor (serial : BitVec 32) (router : Byte) (body : List Byte) : List Byte :=
  let id := putLe64 (uid serial router)
  [uidCrc id] ++ (id ++ (putLe32 (~~~ crc32c body) ++ body))

def x1DromData : List Byte := ((dromData.set 64 0x41).set 76 0x33).set 77 0x28

variable {crc32c} {data : List Byte} {serial : BitVec 32} {router : Byte}

lemma genuine_descriptor {body : List Byte} (hr : ¬ router > 2) (hlen : body.length = 103)
    (hdecl : (byte body 2).toNat % 16 * 256 + (byte body 1).toNat = 103)
    (hent : chained dromSize (body.drop 9) = true) :
    Genuine crc32c serial router (descriptor crc32c serial router body) := by
  let id := uid serial router
  let rest := putLe32 (~~~ crc32c body) ++ body
  have hlow : word (byte (descriptor crc32c serial router body)) 1 = id.extractLsb' 0 32 :=
    holds_putLe32.1 (holds_byte [Mcu.uidCrc (putLe64 id)] (putLe32 (id.extractLsb' 0 32))
      (putLe32 (id.extractLsb' 32 32) ++ rest))
  have hhigh : word (byte (descriptor crc32c serial router body)) 5 = id.extractLsb' 32 32 :=
    holds_putLe32.1 (holds_byte (Mcu.uidCrc (putLe64 id) :: putLe32 (id.extractLsb' 0 32))
      (putLe32 (id.extractLsb' 32 32)) rest)
  refine ⟨by simp [descriptor, putLe64, hlen, dromSize], rfl, ?_, ?_, ?_, hent⟩
  · rw [hlow, hhigh, toNat_halves, toNat_uid hr]
  · exact holds_putLe32.1 (holds_byte (Mcu.uidCrc (putLe64 id) :: putLe64 id)
      (putLe32 (~~~ crc32c body)) body)
  · exact hdecl.trans hlen.symm

lemma dromBuild_eq : dromBuild crc32c data serial router =
    if data.length < dromSize ∨ router > 2 then (data, -einval)
    else (descriptor crc32c serial router dromData ++ data.drop dromSize, 0) := rfl

lemma x1DromBuild_eq : x1DromBuild crc32c data serial router =
    if data.length < dromSize ∨ router > 2 then (data, -einval)
    else (descriptor crc32c serial router x1DromData ++ data.drop dromSize, 0) := by
  unfold x1DromBuild
  rw [dromBuild_eq]
  by_cases h : data.length < dromSize ∨ router > 2
  · rw [if_pos h, if_pos h]
    rfl
  · rw [if_neg h, if_neg h]
    rfl

lemma x1DromBuild_replicate :
    (x1DromBuild crc32c (List.replicate dromSize 0) serial 0).2 = 0 := by
  rw [x1DromBuild_eq, if_neg (by decide)]

lemma genuine_dromData (hr : ¬ router > 2) :
    Genuine crc32c serial router (descriptor crc32c serial router dromData) :=
  genuine_descriptor hr rfl rfl (by decide)

lemma genuine_x1DromData (hr : ¬ router > 2) :
    Genuine crc32c serial router (descriptor crc32c serial router x1DromData) :=
  genuine_descriptor hr rfl rfl (by decide)

lemma Genuine.unique {serial' : BitVec 32} {router' : Byte} {d : List Byte}
    (h : Genuine crc32c serial router d) (h' : Genuine crc32c serial' router' d)
    (hr : router.toNat ≤ 2) (hr' : router'.toNat ≤ 2) : serial' = serial ∧ router' = router := by
  have heq := h.uid.symm.trans h'.uid
  exact ⟨BitVec.eq_of_toNat_eq (by omega), BitVec.eq_of_toNat_eq (by omega)⟩

lemma uidCrc_ne {a b : Byte} (h : a ≠ b) (pre post : List Byte) :
    uidCrc (pre ++ a :: post) ≠ uidCrc (pre ++ b :: post) := by
  simp only [uidCrc, List.foldl_append, List.foldl_cons]
  exact foldl_crcByte_ne h _ post

lemma build_eq (serial : BitVec 32) {build : List Byte → BitVec 32 → Byte → List Byte × ℤ}
    (hb : build = dromBuild crc32c ∨ build = x1DromBuild crc32c) (hlen : dromSize ≤ data.length)
    (hr : router.toNat ≤ 2) : ∃ d, Genuine crc32c serial router d ∧
      build data serial router = (d ++ data.drop dromSize, 0) := by
  have hr' : ¬ router > 2 := BitVec.not_lt.2 hr
  have hneg : ¬ (data.length < dromSize ∨ router > 2) := not_or.2 ⟨not_lt.2 hlen, hr'⟩
  rcases hb with rfl | rfl
  · exact ⟨_, genuine_dromData hr', by rw [dromBuild_eq, if_neg hneg]⟩
  · exact ⟨_, genuine_x1DromData hr', by rw [x1DromBuild_eq, if_neg hneg]⟩

/-- **The descriptors are genuine.** Both builders refuse a short buffer and a router above 2, and
leave the buffer as it is; otherwise they write a descriptor with both checksums right, from which
the serial number and the router can be told and whose identity checksum finds a change of any one
byte, and they leave the rest of the buffer alone. -/
theorem dromBuild_genuine (build : List Byte → BitVec 32 → Byte → List Byte × ℤ)
    (hb : build = dromBuild crc32c ∨ build = x1DromBuild crc32c) (data : List Byte)
    (serial : BitVec 32) (router : Byte) :
    (¬ (dromSize ≤ data.length ∧ router.toNat ≤ 2) ∧ build data serial router = (data, -einval)) ∨
    (dromSize ≤ data.length ∧ router.toNat ≤ 2) ∧
      ∃ d, build data serial router = (d ++ data.drop dromSize, 0) ∧
      Genuine crc32c serial router d ∧
      (∀ serial' router', router'.toNat ≤ 2 → Genuine crc32c serial' router' d →
        serial' = serial ∧ router' = router) ∧
      ∀ pre a b post, (d.drop 1).take 8 = pre ++ a :: post → a ≠ b →
        byte d 0 ≠ uidCrc (pre ++ b :: post) := by
  by_cases h : dromSize ≤ data.length ∧ router.toNat ≤ 2
  · obtain ⟨d, hd, heq⟩ := build_eq serial hb h.1 h.2
    refine .inr ⟨h, d, heq, hd, fun serial' router' hr' hd' => hd.unique hd' h.2 hr', ?_⟩
    intro pre a b post hsplit hne
    rw [hd.uidCrc, hsplit]
    exact uidCrc_ne hne pre post
  · have hpos : data.length < dromSize ∨ router > 2 := by
      rw [not_and_or, not_le, not_le] at h
      exact h
    refine .inl ⟨h, ?_⟩
    rcases hb with rfl | rfl
    · rw [dromBuild_eq, if_pos hpos]
    · rw [x1DromBuild_eq, if_pos hpos]

theorem dromBuild_genuine_zero : Genuine (fun _ => 0) 7 1
    ((x1DromBuild (fun _ => 0) (List.replicate dromSize 0) 7 1).1) := by
  rcases dromBuild_genuine (x1DromBuild fun _ => 0) (.inr rfl) (List.replicate dromSize 0) 7 1 with
    ⟨h, -⟩ | ⟨-, d, heq, hd, -⟩
  · exact absurd (by decide) h
  · rw [heq]
    simpa using hd

end YogaUsb4.Mcu
