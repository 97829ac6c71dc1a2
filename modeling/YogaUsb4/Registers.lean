import YogaUsb4.Wire

/-!
Registers of a device, byte by byte. A store covers some bytes; what it would leave in a word is
that word with the covered bytes laid over it. Which bits a device really changes is its own
affair: of a bit that matters we only ask that it takes the value stored or keeps its own, and that
nothing but a store changes it.
-/

namespace YogaUsb4.Registers

open Wire

abbrev Contents := ℕ → Byte

/-- The word at an offset, little endian. -/
def word (c : Contents) (o : ℕ) : BitVec 16 := c (o + 1) ++ c o

lemma getLsbD_word (c : Contents) (o : ℕ) {i : ℕ} (hi : i < 16) :
    (word c o).getLsbD i = (c (o + i / 8)).getLsbD (i % 8) := by
  rw [word, BitVec.getLsbD_append]
  by_cases h : i < 8
  · simp [h, Nat.div_eq_of_lt h, Nat.mod_eq_of_lt h]
  · have hdiv : i / 8 = 1 := by omega
    have hmod : i % 8 = i - 8 := by omega
    simp [h, hdiv, hmod]

/-- A store of the low `size` bytes of a value. -/
structure Store where
  pos : ℕ
  size : ℕ
  value : BitVec 32

namespace Store

variable (st : Store)

def covers (o : ℕ) : Prop := st.pos ≤ o ∧ o < st.pos + st.size

instance (o : ℕ) : Decidable (st.covers o) := inferInstanceAs (Decidable (_ ∧ _))

/-- The bit that a covered byte is stored with. -/
def bit (o i : ℕ) : Bool := st.value.getLsbD (8 * (o - st.pos) + i)

end Store

/-! ### A word with a store laid over it -/

section Overlay

variable {w : ℕ}

/-- Byte `k` of the store laid over a word that stands at `offset` and is `len` bytes long. -/
def overlayByte (offset len : ℕ) (st : Store) (old : BitVec w) (k : ℕ) : BitVec w :=
  if st.pos + k < offset ∨ offset + len ≤ st.pos + k then old
  else
    let shift := 8 * (st.pos + k - offset)
    (old &&& ~~~(0xff#32 <<< shift).setWidth w) |||
      (((st.value >>> (8 * k)) &&& 0xff#32) <<< shift).setWidth w

/-- The word with all bytes of the store laid over it. -/
def overlay (old : BitVec w) (offset len : ℕ) (st : Store) : BitVec w :=
  (List.range st.size).foldl (overlayByte offset len st) old

lemma getLsbD_overlayByte {offset len : ℕ} (hw : 8 * len ≤ w) (hw' : w ≤ 32) (st : Store)
    (old : BitVec w) (k : ℕ) {i : ℕ} (hi : i < 8 * len) :
    (overlayByte offset len st old k).getLsbD i =
      if offset + i / 8 = st.pos + k then st.bit (offset + i / 8) (i % 8)
      else old.getLsbD i := by
  unfold overlayByte
  by_cases hout : st.pos + k < offset ∨ offset + len ≤ st.pos + k
  · rw [if_pos hout, if_neg (by omega)]
  rw [if_neg hout]
  have hmask (j : ℕ) : (0xff#32).getLsbD j = decide (j < 8) := by
    rw [show (0xff#32) = BitVec.ofNat 32 (2 ^ 8 - 1) from rfl, BitVec.getLsbD_ofNat,
      Nat.testBit_two_pow_sub_one]
    by_cases h : j < 8
    · simp [h]
      omega
    · simp [h]
  have hi32 : i < 32 := by omega
  have hiw : i < w := by omega
  dsimp only
  simp only [BitVec.getLsbD_or, BitVec.getLsbD_and, BitVec.getLsbD_not, BitVec.getLsbD_setWidth,
    BitVec.getLsbD_shiftLeft, BitVec.getLsbD_ushiftRight, hmask, hi32, hiw]
  by_cases hk : offset + i / 8 = st.pos + k
  · have hlow : ¬ i < 8 * (st.pos + k - offset) := by omega
    have hhigh : i - 8 * (st.pos + k - offset) < 8 := by omega
    have hbit : 8 * k + (i - 8 * (st.pos + k - offset)) =
        8 * (offset + i / 8 - st.pos) + i % 8 := by omega
    rw [if_pos hk, hbit]
    simp [hlow, hhigh, Store.bit]
  · rw [if_neg hk]
    by_cases hlow : i < 8 * (st.pos + k - offset)
    · simp [hlow]
    · have hhigh : ¬ i - 8 * (st.pos + k - offset) < 8 := by omega
      simp [hlow, hhigh]

/-- Every bit of the result: that of the store where it covers the byte, else that of the word. -/
lemma getLsbD_overlay {offset len : ℕ} (hw : 8 * len ≤ w) (hw' : w ≤ 32) (st : Store)
    (old : BitVec w) {i : ℕ} (hi : i < 8 * len) :
    (overlay old offset len st).getLsbD i =
      if st.covers (offset + i / 8) then st.bit (offset + i / 8) (i % 8)
      else old.getLsbD i := by
  -- by induction on how many bytes are laid over the word
  have key (n : ℕ) : ((List.range n).foldl (overlayByte offset len st) old).getLsbD i =
      if st.pos ≤ offset + i / 8 ∧ offset + i / 8 < st.pos + n then
        st.bit (offset + i / 8) (i % 8)
      else old.getLsbD i := by
    induction n with
    | zero =>
      rw [if_neg (by omega)]
      rfl
    | succ n ih =>
      rw [List.range_succ, List.foldl_append, List.foldl_cons, List.foldl_nil,
        getLsbD_overlayByte hw hw' st _ n hi, ih]
      by_cases hn : offset + i / 8 = st.pos + n
      · rw [if_pos hn, if_pos (by omega)]
      · rw [if_neg hn]
        exact if_congr (by omega) rfl rfl
  exact key st.size

end Overlay

/-! ### The bits that matter -/

section Control

variable {ctl : ℕ → ℕ → Prop} {st : Store} {c c' : Contents} {o : ℕ} {m : BitVec 16}

/-- What a device may make of a store: a bit that matters keeps its value, or takes the one
stored. -/
def Lands (ctl : ℕ → ℕ → Prop) (st : Store) (c c' : Contents) : Prop :=
  ∀ o i, i < 8 → ctl o i → (c' o).getLsbD i = (c o).getLsbD i ∨
    st.covers o ∧ (c' o).getLsbD i = st.bit o i

/-- Without a store the bits that matter stay. -/
def Still (ctl : ℕ → ℕ → Prop) (c c' : Contents) : Prop :=
  ∀ o i, i < 8 → ctl o i → (c' o).getLsbD i = (c o).getLsbD i

/-- A load shows the bits that matter. -/
def Shows (ctl : ℕ → ℕ → Prop) (c : Contents) (pos size : ℕ) (r : BitVec 32) : Prop :=
  ∀ k i, k < size → i < 8 → ctl (pos + k) i →
    r.getLsbD (8 * k + i) = (c (pos + k)).getLsbD i

/-- All bits of this word under the mask matter. -/
def Matters (ctl : ℕ → ℕ → Prop) (o : ℕ) (m : BitVec 16) : Prop :=
  ∀ i, i < 16 → m.getLsbD i = true → ctl (o + i / 8) (i % 8)

lemma and_eq_zero_iff {w : ℕ} {x m : BitVec w} :
    x &&& m = 0 ↔ ∀ i, i < w → m.getLsbD i = true → x.getLsbD i = false := by
  constructor
  · intro h i hi hm
    have hbit : (x &&& m).getLsbD i = false := by rw [h]; simp
    simpa [hm] using hbit
  · intro h
    refine BitVec.eq_of_getLsbD_eq fun i hi => ?_
    rw [BitVec.getLsbD_and]
    cases hm : m.getLsbD i with
    | false => simp
    | true => simp [h i hi hm]

/-- Bits that are clear, and that no store that touches them sets, stay clear. -/
lemma Lands.clear (h : Lands ctl st c c') (hc : Matters ctl o m) (hold : word c o &&& m = 0)
    (hset : ∀ i, i < 16 → m.getLsbD i = true → st.covers (o + i / 8) →
      st.bit (o + i / 8) (i % 8) = false) :
    word c' o &&& m = 0 := by
  rw [and_eq_zero_iff] at hold ⊢
  intro i hi hm
  have hlast := hold i hi hm
  rw [getLsbD_word _ _ hi] at hlast ⊢
  rcases h _ _ (Nat.mod_lt _ (by omega)) (hc i hi hm) with heq | ⟨hcov, heq⟩
  · rw [heq, hlast]
  · rw [heq, hset i hi hm hcov]

lemma Still.clear (h : Still ctl c c') (hc : Matters ctl o m) (hold : word c o &&& m = 0) :
    word c' o &&& m = 0 := by
  rw [and_eq_zero_iff] at hold ⊢
  intro i hi hm
  have hlast := hold i hi hm
  rw [getLsbD_word _ _ hi] at hlast ⊢
  rw [h _ _ (Nat.mod_lt _ (by omega)) (hc i hi hm), hlast]

/-- What the store would leave under a mask, as long as that was clear. -/
lemma overlay_clear (hold : word c o &&& m = 0)
    (hset : ∀ i, i < 16 → m.getLsbD i = true → st.covers (o + i / 8) →
      st.bit (o + i / 8) (i % 8) = false) :
    overlay (word c o) o 2 st &&& m = 0 := by
  rw [and_eq_zero_iff] at hold ⊢
  intro i hi hm
  rw [getLsbD_overlay (by omega) (by omega) st _ (by omega)]
  split
  · exact hset i hi hm ‹_›
  · exact hold i hi hm

lemma Lands.byte_eq (h : Lands ctl st c c') (hc : ∀ i, i < 8 → ctl o i)
    (hsame : ∀ i, i < 8 → st.covers o → st.bit o i = (c o).getLsbD i) : c' o = c o := by
  refine BitVec.eq_of_getLsbD_eq fun i hi => ?_
  rcases h o i hi (hc i hi) with heq | ⟨hcov, heq⟩
  · exact heq
  · rw [heq, hsame i hi hcov]

lemma Still.byte_eq (h : Still ctl c c') (hc : ∀ i, i < 8 → ctl o i) : c' o = c o :=
  BitVec.eq_of_getLsbD_eq fun i hi => h o i hi (hc i hi)

end Control

end YogaUsb4.Registers
