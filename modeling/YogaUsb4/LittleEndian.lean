import YogaUsb4.Wire

/-!
Little-endian words in memory. Memory is a function of the position, and a list of bytes lies in it
from a position on; a word is its four bytes, the lowest first.
-/

namespace YogaUsb4.LittleEndian

open Wire (Byte)

/-- `get_unaligned_le32`. -/
def word (data : ℕ → Byte) (pos : ℕ) : BitVec 32 :=
  data (pos + 3) ++ data (pos + 2) ++ data (pos + 1) ++ data pos

/-- `put_unaligned_le32`. -/
def putLe32 (v : BitVec 32) : List Byte :=
  [v.extractLsb' 0 8, v.extractLsb' 8 8, v.extractLsb' 16 8, v.extractLsb' 24 8]

def leWords (l : List (BitVec 32)) : List Byte := l.flatMap putLe32

/-- These bytes lie in memory from `pos` on. -/
def Holds (data : ℕ → Byte) : ℕ → List Byte → Prop
  | _, [] => True
  | pos, b :: l => data pos = b ∧ Holds data (pos + 1) l

variable {data : ℕ → Byte} {pos : ℕ}

@[simp] lemma length_putLe32 (v : BitVec 32) : (putLe32 v).length = 4 := rfl

@[simp] lemma leWords_nil : leWords [] = [] := rfl

@[simp] lemma leWords_cons (v : BitVec 32) (l : List (BitVec 32)) :
    leWords (v :: l) = putLe32 v ++ leWords l := rfl

@[simp] lemma length_leWords (l : List (BitVec 32)) : (leWords l).length = 4 * l.length := by
  induction l with
  | nil => rfl
  | cons v l ih =>
    rw [leWords_cons, List.length_append, ih, length_putLe32, List.length_cons]
    omega

@[simp] lemma holds_nil : Holds data pos [] := trivial

lemma holds_append {l m : List Byte} :
    Holds data pos (l ++ m) ↔ Holds data pos l ∧ Holds data (pos + l.length) m := by
  induction l generalizing pos with
  | nil => simp
  | cons b l ih =>
    simp only [List.cons_append, Holds, ih, List.length_cons, and_assoc, Nat.add_assoc,
      Nat.add_comm 1]

lemma word_eq_iff {v : BitVec 32} : word data pos = v ↔
    data pos = v.extractLsb' 0 8 ∧ data (pos + 1) = v.extractLsb' 8 8 ∧
      data (pos + 2) = v.extractLsb' 16 8 ∧ data (pos + 3) = v.extractLsb' 24 8 := by
  constructor
  · rintro rfl
    refine ⟨?_, ?_, ?_, ?_⟩ <;>
    · ext i hi
      simp only [word, BitVec.getElem_extractLsb', BitVec.getLsbD_append]
      interval_cases i <;> rfl
  · rintro ⟨h₀, h₁, h₂, h₃⟩
    have join (i j m k : ℕ) (h : i = j + k) :
        v.extractLsb' i m ++ v.extractLsb' j k = v.extractLsb' j (m + k) :=
      BitVec.extractLsb'_append_extractLsb'_eq_extractLsb' h
    rw [word, h₀, h₁, h₂, h₃]
    simp [join]

lemma holds_putLe32 {v : BitVec 32} : Holds data pos (putLe32 v) ↔ word data pos = v := by
  simp [putLe32, Holds, word_eq_iff]

lemma holds_byte (l m n : List Byte) : Holds (Wire.byte (l ++ (m ++ n))) l.length m := by
  induction m generalizing l with
  | nil => trivial
  | cons b m ih =>
    refine ⟨by simp [Wire.byte], ?_⟩
    have := ih (l ++ [b])
    simpa using this

def contents (data : ℕ → Byte) (size : ℕ) : List Byte := (List.range size).map data

lemma holds_map_range (data : ℕ → Byte) (pos n : ℕ) :
    Holds data pos ((List.range n).map fun i => data (pos + i)) := by
  induction n generalizing pos with
  | zero => simp
  | succ n ih =>
    rw [List.range_succ_eq_map, List.map_cons, List.map_map]
    refine ⟨rfl, ?_⟩
    have := ih (pos + 1)
    simpa only [Function.comp_def, Nat.succ_eq_add_one, Nat.add_assoc, Nat.add_comm 1] using this

lemma Holds.eq {l m : List Byte} (hl : Holds data pos l) (hm : Holds data pos m)
    (h : l.length = m.length) : l = m := by
  induction l generalizing m pos with
  | nil => exact (List.length_eq_zero_iff.1 h.symm).symm
  | cons b l ih =>
    cases m with
    | nil => cases h
    | cons c m =>
      obtain ⟨rfl, hl⟩ := hl
      obtain ⟨rfl, hm⟩ := hm
      rw [ih hl hm (by simpa using h)]

lemma contents_eq_iff {size : ℕ} {l : List Byte} :
    contents data size = l ↔ Holds data 0 l ∧ l.length = size := by
  have hc : Holds data 0 (contents data size) := by
    have := holds_map_range data 0 size
    simpa [contents] using this
  constructor
  · rintro rfl
    exact ⟨hc, by simp [contents]⟩
  · rintro ⟨hl, rfl⟩
    exact hc.eq hl (by simp [contents])

end YogaUsb4.LittleEndian
