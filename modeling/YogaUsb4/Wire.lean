import Mathlib.Tactic.Common
import Mathlib.Tactic.IntervalCases
import Mathlib.Data.Nat.Bitwise

/-!
Bytes and words. A packet is a list of bytes that is read at offsets, a frame of words is written
one word after the other, and a word is put together from fields by shifts and or.
-/

namespace YogaUsb4.Wire

abbrev Byte := BitVec 8

/-- The byte at an offset; there is nothing behind the end. -/
def byte (p : List Byte) (i : ℕ) : Byte := p.getD i 0

/-- `get_unaligned_be32`. -/
def getBe32 (p : List Byte) (i : ℕ) : BitVec 32 :=
  byte p i ++ byte p (i + 1) ++ byte p (i + 2) ++ byte p (i + 3)

/-- `put_unaligned_be32`. -/
def putBe32 (v : BitVec 32) : List Byte :=
  [v.extractLsb' 24 8, v.extractLsb' 16 8, v.extractLsb' 8 8, v.extractLsb' 0 8]

def words (l : List (BitVec 32)) : List Byte := l.flatMap putBe32

@[simp] lemma words_nil : words [] = [] := rfl

@[simp] lemma words_cons (v : BitVec 32) (l : List (BitVec 32)) :
    words (v :: l) = putBe32 v ++ words l := rfl

@[simp] lemma words_append (l m : List (BitVec 32)) : words (l ++ m) = words l ++ words m :=
  List.flatMap_append

@[simp] lemma length_words (l : List (BitVec 32)) : (words l).length = 4 * l.length := by
  induction l with
  | nil => rfl
  | cons v l ih =>
    rw [words_cons, List.length_append, ih, List.length_cons, putBe32]
    simp only [List.length_cons, List.length_nil]
    omega

lemma getBe32_putBe32_append (v : BitVec 32) (p : List Byte) : getBe32 (putBe32 v ++ p) 0 = v := by
  change v.extractLsb' 24 8 ++ v.extractLsb' 16 8 ++ v.extractLsb' 8 8 ++ v.extractLsb' 0 8 = v
  have join (i j m k : ℕ) (h : i = j + k) :
      v.extractLsb' i m ++ v.extractLsb' j k = v.extractLsb' j (m + k) :=
    BitVec.extractLsb'_append_extractLsb'_eq_extractLsb' h
  simp [join]

lemma getBe32_add_four (v : BitVec 32) (p : List Byte) (i : ℕ) :
    getBe32 (putBe32 v ++ p) (4 + i) = getBe32 p i := by
  have hbyte : ∀ j, byte (putBe32 v ++ p) (4 + j) = byte p j := by
    intro j
    rw [byte, List.getD_append_right _ _ _ _ (by simp [putBe32])]
    simp [byte, putBe32]
  simp only [getBe32, Nat.add_assoc, hbyte]

lemma getBe32_words (l : List (BitVec 32)) (i : ℕ) : getBe32 (words l) (4 * i) = l.getD i 0 := by
  induction l generalizing i with
  | nil => simp [getBe32, byte]
  | cons v l ih =>
    cases i with
    | zero => exact getBe32_putBe32_append v _
    | succ i =>
      rw [words_cons, Nat.mul_succ, Nat.add_comm, getBe32_add_four, ih]
      rfl

lemma take_words_append (l m : List (BitVec 32)) :
    (words (l ++ m)).take (4 * l.length) = words l := by
  rw [words_append, List.take_append_of_le_length (by simp), ← length_words, List.take_length]

lemma putBe32_getBe32 (p : List Byte) (i : ℕ) :
    putBe32 (getBe32 p i) = [byte p i, byte p (i + 1), byte p (i + 2), byte p (i + 3)] := by
  simp only [putBe32, getBe32, List.cons.injEq, and_true]
  refine ⟨?_, ?_, ?_, ?_⟩ <;> ext j hj <;>
    simp only [BitVec.getElem_extractLsb', BitVec.getLsbD_append] <;> grind

lemma words_getBe32 {n : ℕ} {p : List Byte} (h : p.length = 4 * n) :
    words ((List.range n).map fun i => getBe32 p (4 * i)) = p := by
  induction n generalizing p with
  | zero =>
    rw [List.length_eq_zero_iff.1 h]
    rfl
  | succ n ih =>
    have hsplit : p = putBe32 (getBe32 p 0) ++ p.drop 4 := by
      rw [putBe32_getBe32]
      match p, h with
      | a :: b :: c :: d :: p, _ => rfl
    have hrest : ∀ i, getBe32 p (4 * (i + 1)) = getBe32 (p.drop 4) (4 * i) := by
      intro i
      conv_lhs => rw [hsplit, Nat.mul_succ, Nat.add_comm, getBe32_add_four]
    rw [List.range_succ_eq_map, List.map_cons, List.map_map, words_cons]
    simp only [Function.comp_def, Nat.succ_eq_add_one, hrest]
    rw [ih (by rw [List.length_drop]; omega)]
    exact hsplit.symm

lemma words_inj {l m : List (BitVec 32)} : words l = words m ↔ l = m := by
  refine ⟨fun h => ?_, congrArg words⟩
  have hlen : l.length = m.length := by
    have := congrArg List.length h
    rw [length_words, length_words] at this
    omega
  refine List.ext_getElem hlen fun i hl hm => ?_
  have hword := getBe32_words l i
  rw [h, getBe32_words m i] at hword
  rw [← List.getD_eq_getElem l 0 hl, ← List.getD_eq_getElem m 0 hm, hword]

lemma toNat_or_shiftLeft {w : ℕ} (a b : BitVec w) {k n : ℕ} (ha : a.toNat < 2 ^ k)
    (hb : b.toNat < 2 ^ n) (h : k + n ≤ w) :
    (a ||| b <<< k).toNat = a.toNat + b.toNat * 2 ^ k := by
  have hlt : b.toNat <<< k < 2 ^ w := by
    rw [Nat.shiftLeft_eq]
    calc b.toNat * 2 ^ k < 2 ^ n * 2 ^ k := Nat.mul_lt_mul_of_pos_right hb (Nat.two_pow_pos k)
      _ = 2 ^ (k + n) := by rw [Nat.add_comm, Nat.pow_add]
      _ ≤ 2 ^ w := Nat.pow_le_pow_right (by decide) h
  rw [BitVec.toNat_or, BitVec.toNat_shiftLeft, Nat.mod_eq_of_lt hlt, Nat.or_comm,
    ← Nat.shiftLeft_add_eq_or_of_lt ha, Nat.shiftLeft_eq, Nat.add_comm]

end YogaUsb4.Wire
