import YogaUsb4.Watch
import YogaUsb4.LittleEndian
import YogaUsb4.Startup
import Mathlib.Logic.Function.Basic

/-!
The firmware image of the router's microcontroller: records of an offset, a count and that many
words, up to the end of the file. The validator accepts the encodings of lists of records that fit
into the RAM, and nothing else; the loader then writes their words, in order.
-/

namespace YogaUsb4.Mcu

open Dialog LittleEndian Startup
open Wire (Byte byte)

variable {Q A : Type}

/-! ### The code -/

/-- The inner loop of `qcom_usb4_fw_upload`, with `words` to go. -/
def uploadWords (writeWord : BitVec 32 → BitVec 32 → Dialog Q A ℤ) (data : ℕ → Byte) :
    ℕ → BitVec 32 → ℕ → Dialog Q A ℤ
  | 0, _, _ => return 0
  | words + 1, offset, pos => do
    let ret ← writeWord offset (word data pos)
    if ret ≠ 0 then return ret
    uploadWords writeWord data words (offset + 4) (pos + 4)

/-- The outer loop of `qcom_usb4_fw_upload`. -/
def uploadFrom (writeWord : BitVec 32 → BitVec 32 → Dialog Q A ℤ) (data : ℕ → Byte) (size pos : ℕ) :
    Dialog Q A ℤ :=
  if pos < size then do
    let offset := word data pos
    let words := (word data (pos + 4)).toNat
    let ret ← uploadWords writeWord data words offset (pos + 8)
    if ret ≠ 0 then return ret
    uploadFrom writeWord data size (pos + 8 + words * 4)
  else return 0
  termination_by size - pos

/-- `qcom_usb4_fw_upload`. -/
def fwUpload (data : Option (ℕ → Byte)) (size ramSize : ℕ)
    (writeWord : BitVec 32 → BitVec 32 → Dialog Q A ℤ) : Dialog Q A ℤ :=
  -- a bad later record must not leave a partially uploaded image
  let ret := fwValidate data size ramSize
  if ret ≠ 0 then return ret
  else match data with
    | .none => return 0
    | .some data => uploadFrom writeWord data size 0

/-! ### The format -/

/-- A record: the words from an offset on. -/
structure Record where
  offset : BitVec 32
  words : List (BitVec 32)
  deriving DecidableEq

def Record.bytes (r : Record) : List Byte :=
  putLe32 r.offset ++ (putLe32 (BitVec.ofNat 32 r.words.length) ++ leWords r.words)

/-- A file of records. -/
def image (rs : List Record) : List Byte := rs.flatMap Record.bytes

/-- What is asked of a record: the destination is a word of the RAM, and its arithmetic does not
overflow. -/
structure Record.Fits (ramSize : ℕ) (r : Record) : Prop where
  aligned : r.offset.toNat % 4 = 0
  word32 : r.words.length * 4 ≤ 0xffffffff - r.offset.toNat
  ram : r.offset.toNat + r.words.length * 4 ≤ ramSize

/-- The words from an offset on, each with its own offset. -/
def cellsFrom : BitVec 32 → List (BitVec 32) → List (BitVec 32 × BitVec 32)
  | _, [] => []
  | offset, w :: ws => (offset, w) :: cellsFrom (offset + 4) ws

/-- What a list of records has to say, in order. -/
def cells (rs : List Record) : List (BitVec 32 × BitVec 32) :=
  rs.flatMap fun r => cellsFrom r.offset r.words

/-- Writes one word after the other, up to the first failure. -/
def writeCells (writeWord : BitVec 32 → BitVec 32 → Dialog Q A ℤ) :
    List (BitVec 32 × BitVec 32) → Dialog Q A ℤ
  | [] => return 0
  | c :: cs => do
    let ret ← writeWord c.1 c.2
    if ret ≠ 0 then return ret
    writeCells writeWord cs

variable {data data' : ℕ → Byte} {size ramSize pos : ℕ} {r : Record} {rs rs' : List Record}

@[simp] lemma image_nil : image [] = [] := rfl

@[simp] lemma image_cons (r : Record) (rs : List Record) : image (r :: rs) = r.bytes ++ image rs :=
  rfl

lemma Record.length_bytes (r : Record) : r.bytes.length = 8 + r.words.length * 4 := by
  simp only [Record.bytes, List.length_append, length_putLe32, length_leWords]
  omega

lemma holds_bytes : Holds data pos r.bytes ↔ word data pos = r.offset ∧
    word data (pos + 4) = BitVec.ofNat 32 r.words.length ∧
      Holds data (pos + 8) (leWords r.words) := by
  simp only [Record.bytes, holds_append, holds_putLe32, length_putLe32, Nat.add_assoc,
    Nat.reduceAdd]

lemma Record.Fits.words_lt (h : r.Fits ramSize) : r.words.length < 2 ^ 32 := by
  have := h.word32
  omega

lemma Record.Fits.toNat_words (h : r.Fits ramSize) :
    (BitVec.ofNat 32 r.words.length).toNat = r.words.length := by
  rw [BitVec.toNat_ofNat, Nat.mod_eq_of_lt h.words_lt]

/-! ### Reading the file -/

def wordsAt (data : ℕ → Byte) : ℕ → ℕ → List (BitVec 32)
  | _, 0 => []
  | pos, n + 1 => word data pos :: wordsAt data (pos + 4) n

lemma length_wordsAt (n : ℕ) : (wordsAt data pos n).length = n := by
  induction n generalizing pos with
  | zero => rfl
  | succ n ih => rw [wordsAt, List.length_cons, ih]

lemma holds_wordsAt (n : ℕ) : Holds data pos (leWords (wordsAt data pos n)) := by
  induction n generalizing pos with
  | zero => trivial
  | succ n ih => exact holds_append.2 ⟨holds_putLe32.2 rfl, ih⟩

def recordAt (data : ℕ → Byte) (pos : ℕ) : Record :=
  ⟨word data pos, wordsAt data (pos + 8) (word data (pos + 4)).toNat⟩

lemma wordsAt_eq {l : List (BitVec 32)} (h : Holds data pos (leWords l)) :
    wordsAt data pos l.length = l := by
  induction l generalizing pos with
  | nil => rfl
  | cons v l ih =>
    obtain ⟨hv, hl⟩ := holds_append.1 h
    replace hl : Holds data (pos + 4) (leWords l) := hl
    rw [List.length_cons, wordsAt, holds_putLe32.1 hv, ih hl]

lemma recordAt_eq (hr : r.Fits ramSize) (h : Holds data pos r.bytes) : recordAt data pos = r := by
  obtain ⟨hoffset, hcount, hwords⟩ := holds_bytes.1 h
  rw [recordAt, hoffset, hcount, hr.toNat_words, wordsAt_eq hwords]

lemma holds_recordAt : Holds data pos (recordAt data pos).bytes := by
  refine holds_bytes.2 ⟨rfl, ?_, holds_wordsAt _⟩
  simp [recordAt, length_wordsAt]

/-! ### What passes -/

lemma fwRecords_step (h : pos < size) : fwRecords data size ramSize pos = 0 ↔
    (recordAt data pos).Fits ramSize ∧ pos + (recordAt data pos).bytes.length ≤ size ∧
      fwRecords data size ramSize (pos + (recordAt data pos).bytes.length) = 0 := by
  have hlen : (recordAt data pos).bytes.length = 8 + (word data (pos + 4)).toNat * 4 := by
    rw [Record.length_bytes, recordAt, length_wordsAt]
  have hfit : (recordAt data pos).Fits ramSize ↔ (word data pos).toNat % 4 = 0 ∧
      (word data (pos + 4)).toNat * 4 ≤ 0xffffffff - (word data pos).toNat ∧
      (word data pos).toNat + (word data (pos + 4)).toNat * 4 ≤ ramSize := by
    have hw : (recordAt data pos).words.length = (word data (pos + 4)).toNat := length_wordsAt _
    constructor
    · rintro ⟨h₁, h₂, h₃⟩
      rw [hw] at h₂ h₃
      exact ⟨h₁, h₂, h₃⟩
    · rintro ⟨h₁, h₂, h₃⟩
      exact ⟨h₁, by rw [hw]; exact h₂, by rw [hw]; exact h₃⟩
  rw [hfit, hlen, fwRecords, if_pos h, ← Nat.add_assoc]
  -- the branches of the validator, in its order
  split
  · exact iff_of_false (by decide) fun hc => by omega
  dsimp only
  split
  · exact iff_of_false (by decide) fun hc => by omega
  split
  · exact iff_of_false (by decide) fun hc => by omega
  split
  · exact iff_of_false (by decide) fun hc => by omega
  split
  · rename_i hram
    simp only [Bool.or_eq_true, decide_eq_true_eq] at hram
    exact iff_of_false (by decide) fun hc => by omega
  · rename_i hram
    simp only [Bool.or_eq_true, decide_eq_true_eq, not_or] at hram
    exact (and_iff_right ⟨by omega, by omega, by omega⟩).trans (and_iff_right (by omega)) |>.symm

lemma fwRecords_eq_zero_iff (hpos : pos ≤ size) : fwRecords data size ramSize pos = 0 ↔
    ∃ rs, (∀ r ∈ rs, r.Fits ramSize) ∧ Holds data pos (image rs) ∧
      pos + (image rs).length = size := by
  -- The induction is on the bytes that are left: a record takes at least eight.
  induction hn : size - pos using Nat.strong_induction_on generalizing pos with
  | _ n ih =>
  subst hn
  rcases hpos.eq_or_lt with rfl | hlt
  · rw [fwRecords, if_neg (Nat.lt_irrefl _)]
    exact iff_of_true rfl ⟨[], by simp, trivial, rfl⟩
  rw [fwRecords_step hlt]
  have hpositive : 8 ≤ (recordAt data pos).bytes.length := by
    rw [Record.length_bytes]
    omega
  constructor
  · rintro ⟨hfit, hle, hrest⟩
    obtain ⟨rs, hrs, hholds, hend⟩ := (ih _ (by omega) hle rfl).1 hrest
    refine ⟨recordAt data pos :: rs, List.forall_mem_cons.2 ⟨hfit, hrs⟩,
      holds_append.2 ⟨holds_recordAt, hholds⟩, ?_⟩
    rw [image_cons, List.length_append]
    omega
  · rintro ⟨rs, hrs, hholds, hend⟩
    cases rs with
    | nil => exact absurd hend (by simpa using hlt.ne)
    | cons r rs =>
      obtain ⟨hr, hrest⟩ := holds_append.1 hholds
      obtain ⟨hfit, hfits⟩ := List.forall_mem_cons.1 hrs
      obtain rfl := recordAt_eq hfit hr
      rw [image_cons, List.length_append] at hend
      refine ⟨hfit, by omega, (ih _ (by omega) (by omega) rfl).2 ⟨rs, hfits, hrest, by omega⟩⟩

lemma image_unique (hrs : ∀ r ∈ rs, r.Fits ramSize) (hrs' : ∀ r ∈ rs', r.Fits ramSize)
    (h : Holds data pos (image rs)) (h' : Holds data pos (image rs'))
    (hlen : (image rs).length = (image rs').length) : rs = rs' := by
  have hpositive : ∀ r : Record, r.bytes.length ≠ 0 := fun r => by
    rw [Record.length_bytes]
    omega
  induction rs generalizing rs' pos with
  | nil =>
    cases rs' with
    | nil => rfl
    | cons r rs' =>
      rw [image_cons, List.length_append, image_nil, List.length_nil] at hlen
      exact absurd hlen (by have := hpositive r; omega)
  | cons r rs ih =>
    cases rs' with
    | nil =>
      rw [image_cons, List.length_append, image_nil, List.length_nil] at hlen
      exact absurd hlen (by have := hpositive r; omega)
    | cons r' rs' =>
      obtain ⟨hr, hrest⟩ := holds_append.1 h
      obtain ⟨hr', hrest'⟩ := holds_append.1 h'
      obtain ⟨hfit, hfits⟩ := List.forall_mem_cons.1 hrs
      obtain ⟨hfit', hfits'⟩ := List.forall_mem_cons.1 hrs'
      obtain rfl : r = r' := (recordAt_eq hfit hr).symm.trans (recordAt_eq hfit' hr')
      rw [image_cons, image_cons, List.length_append, List.length_append] at hlen
      rw [ih hfits hfits' hrest hrest' (by omega)]

/-- The records of a file, if it passes. -/
structure Reads (data : ℕ → Byte) (size ramSize : ℕ) (rs : List Record) : Prop where
  nonempty : rs ≠ []
  fits : ∀ r ∈ rs, r.Fits ramSize
  bytes : contents data size = image rs

lemma Reads.unique (h : Reads data size ramSize rs) (h' : Reads data size ramSize rs') :
    rs = rs' := by
  obtain ⟨hholds, hlen⟩ := contents_eq_iff.1 h.bytes
  obtain ⟨hholds', hlen'⟩ := contents_eq_iff.1 h'.bytes
  exact image_unique h.fits h'.fits hholds hholds' (hlen.trans hlen'.symm)

lemma fwValidate_reads :
    fwValidate (some data) size ramSize = 0 ↔ ∃ rs, Reads data size ramSize rs := by
  rw [fwValidate]
  split
  · rename_i hsize
    refine iff_of_false (by decide) ?_
    rintro ⟨rs, hne, -, hbytes⟩
    rw [hsize] at hbytes
    cases rs with
    | nil => exact hne rfl
    | cons r rs =>
      have := congrArg List.length hbytes
      rw [image_cons, List.length_append, Record.length_bytes] at this
      simp [contents] at this
      omega
  rename_i hsize
  rw [fwRecords_eq_zero_iff (Nat.zero_le _)]
  constructor
  · rintro ⟨rs, hfits, hholds, hlen⟩
    rw [Nat.zero_add] at hlen
    refine ⟨rs, ?_, hfits, contents_eq_iff.2 ⟨hholds, hlen⟩⟩
    rintro rfl
    exact hsize hlen.symm
  · rintro ⟨rs, -, hfits, hbytes⟩
    obtain ⟨hholds, hlen⟩ := contents_eq_iff.1 hbytes
    exact ⟨rs, hfits, hholds, by rw [Nat.zero_add, hlen]⟩

/-- **The validator accepts the encodings** of lists of records that fit, each in one way, and looks
at nothing beyond the end of the file. -/
theorem fwValidate_eq_zero_iff (data : ℕ → Byte) (size ramSize : ℕ) :
    (fwValidate (some data) size ramSize = 0 ↔ ∃! rs, Reads data size ramSize rs) ∧
      ∀ data', contents data' size = contents data size →
        (fwValidate (some data') size ramSize = 0 ↔ fwValidate (some data) size ramSize = 0) := by
  refine ⟨fwValidate_reads.trans ⟨?_, ExistsUnique.exists⟩, fun data' hdata => ?_⟩
  · rintro ⟨rs, hrs⟩
    exact ⟨rs, hrs, fun rs' hrs' => hrs'.unique hrs⟩
  · rw [fwValidate_reads, fwValidate_reads]
    refine exists_congr fun rs => ⟨fun h => ⟨h.nonempty, h.fits, hdata ▸ h.bytes⟩, fun h => ?_⟩
    exact ⟨h.nonempty, h.fits, hdata.trans h.bytes⟩

def oneWord : ℕ → Byte := byte [0, 0, 0, 0, 1, 0, 0, 0, 0x78, 0x56, 0x34, 0x12]

lemma reads_oneWord : Reads oneWord 12 0xf000 [⟨0, [0x12345678]⟩] := by
  refine ⟨by simp, ?_, by decide⟩
  rw [List.forall_mem_singleton]
  exact ⟨rfl, by decide, by decide⟩

theorem fwValidate_oneWord : fwValidate (some oneWord) 12 0xf000 = 0 ∧
    fwValidate (some fun i => if i < 12 then oneWord i else 0xff) 12 0xf000 = 0 := by
  obtain ⟨hiff, hend⟩ := fwValidate_eq_zero_iff oneWord 12 0xf000
  have hv := hiff.2 ⟨_, reads_oneWord, fun rs hrs => hrs.unique reads_oneWord⟩
  exact ⟨hv, (hend _ (by decide)).2 hv⟩

/-! ### What is written -/

@[simp] lemma cells_nil : cells [] = [] := rfl

@[simp] lemma cells_cons (r : Record) (rs : List Record) :
    cells (r :: rs) = cellsFrom r.offset r.words ++ cells rs := rfl

lemma writeCells_append (writeWord : BitVec 32 → BitVec 32 → Dialog Q A ℤ)
    (cs ds : List (BitVec 32 × BitVec 32)) :
    writeCells writeWord (cs ++ ds) = writeCells writeWord cs >>= fun ret =>
      if ret ≠ 0 then pure ret else writeCells writeWord ds := by
  induction cs with
  | nil => rfl
  | cons c cs ih =>
    simp only [List.cons_append, writeCells, ih, Dialog.bind_assoc]
    refine congrArg _ (funext fun ret => ?_)
    by_cases h : ret = 0
    · simp only [h, ne_eq, not_true_eq_false, if_false]
    · simp only [h, ne_eq, not_false_eq_true, if_true]
      exact (if_pos h).symm

lemma uploadWords_eq (writeWord : BitVec 32 → BitVec 32 → Dialog Q A ℤ) {l : List (BitVec 32)}
    (h : Holds data pos (leWords l)) (offset : BitVec 32) :
    uploadWords writeWord data l.length offset pos = writeCells writeWord (cellsFrom offset l) := by
  induction l generalizing offset pos with
  | nil => rfl
  | cons v l ih =>
    obtain ⟨hv, hl⟩ := holds_append.1 h
    replace hl : Holds data (pos + 4) (leWords l) := hl
    simp only [List.length_cons, uploadWords, cellsFrom, writeCells, holds_putLe32.1 hv, ih hl]

lemma uploadFrom_eq (writeWord : BitVec 32 → BitVec 32 → Dialog Q A ℤ)
    (hrs : ∀ r ∈ rs, r.Fits ramSize) (h : Holds data pos (image rs))
    (hsize : pos + (image rs).length = size) :
    uploadFrom writeWord data size pos = writeCells writeWord (cells rs) := by
  induction rs generalizing pos with
  | nil =>
    rw [uploadFrom, if_neg (by simpa using hsize.symm.le)]
    rfl
  | cons r rs ih =>
    obtain ⟨hr, hrest⟩ := holds_append.1 h
    obtain ⟨hfit, hfits⟩ := List.forall_mem_cons.1 hrs
    obtain ⟨hoffset, hcount, hwords⟩ := holds_bytes.1 hr
    rw [image_cons, List.length_append, Record.length_bytes] at hsize
    rw [Record.length_bytes, ← Nat.add_assoc] at hrest
    rw [uploadFrom, if_pos (by omega), cells_cons, writeCells_append]
    simp only [hoffset, hcount, hfit.toNat_words, uploadWords_eq writeWord hwords,
      ih hfits hrest (by omega)]

/-- The loop over a file goes through the words of the records in order. -/
lemma Reads.uploadFrom_eq (h : Reads data size ramSize rs)
    (writeWord : BitVec 32 → BitVec 32 → Dialog Q A ℤ) :
    uploadFrom writeWord data size 0 = writeCells writeWord (cells rs) := by
  obtain ⟨hholds, hlen⟩ := contents_eq_iff.1 h.bytes
  exact Mcu.uploadFrom_eq writeWord h.fits hholds (by rw [Nat.zero_add, hlen])

lemma Reads.fwUpload_eq (h : Reads data size ramSize rs)
    (writeWord : BitVec 32 → BitVec 32 → Dialog Q A ℤ) :
    fwUpload (some data) size ramSize writeWord = writeCells writeWord (cells rs) := by
  rw [fwUpload, fwValidate_reads.2 ⟨rs, h⟩, if_neg (not_not.2 rfl)]
  exact h.uploadFrom_eq writeWord

lemma mem_cellsFrom {offset : BitVec 32} {l : List (BitVec 32)} {c : BitVec 32 × BitVec 32}
    (hlen : l.length * 4 ≤ 0xffffffff - offset.toNat) (h : c ∈ cellsFrom offset l) :
    ∃ i < l.length, c.1.toNat = offset.toNat + 4 * i := by
  induction l generalizing offset with
  | nil => cases h
  | cons v l ih =>
    rw [List.length_cons] at hlen
    rcases List.mem_cons.1 h with rfl | h
    · exact ⟨0, by simp, rfl⟩
    · have hnext : (offset + 4).toNat = offset.toNat + 4 := by
        have := offset.isLt
        rw [BitVec.toNat_add, Nat.mod_eq_of_lt]
        · rfl
        · change _ + 4 < _
          omega
      obtain ⟨i, hi, heq⟩ := ih (by rw [hnext]; omega) h
      exact ⟨i + 1, by rw [List.length_cons]; omega, by rw [heq, hnext]; omega⟩

lemma mem_cells (hrs : ∀ r ∈ rs, r.Fits ramSize) {c : BitVec 32 × BitVec 32} (h : c ∈ cells rs) :
    c.1.toNat % 4 = 0 ∧ c.1.toNat + 4 ≤ ramSize := by
  obtain ⟨r, hr, hc⟩ := List.mem_flatMap.1 h
  obtain ⟨i, hi, heq⟩ := mem_cellsFrom (hrs r hr).word32 hc
  have := (hrs r hr).aligned
  have := (hrs r hr).ram
  omega

/-- How a loop over words ends: all are written, or it stops at the first that fails. -/
inductive WriteEnd (cs : List (BitVec 32 × BitVec 32)) :
    List ((BitVec 32 × BitVec 32) × ℤ) → ℤ → Prop
  | all : WriteEnd cs (cs.map fun c => (c, 0)) 0
  | stop (pre : List (BitVec 32 × BitVec 32)) (c : BitVec 32 × BitVec 32)
      (post : List (BitVec 32 × BitVec 32)) (ret : ℤ) (h : cs = pre ++ c :: post) (hret : ret ≠ 0) :
      WriteEnd cs (pre.map (fun c => (c, 0)) ++ [(c, ret)]) ret

variable {cs : List (BitVec 32 × BitVec 32)}

lemma does_writeCells {tr : List ((BitVec 32 × BitVec 32) × ℤ)}
    {ret : ℤ} (h : Does (writeCells (fun offset v => ask (offset, v)) cs) tr ret) :
    WriteEnd cs tr ret := by
  induction cs generalizing tr with
  | nil =>
    obtain ⟨rfl, rfl⟩ := does_pure.1 h
    exact .all
  | cons c cs ih =>
    obtain ⟨r, u, rfl, hu⟩ := does_ask_bind.1 h
    split at hu
    · rename_i hr
      obtain ⟨rfl, rfl⟩ := does_pure.1 hu
      exact .stop [] c cs _ rfl hr
    · rename_i hr
      obtain rfl := not_not.1 hr
      cases ih hu with
      | all => exact .all
      | stop pre d post ret hcs hret => exact .stop (c :: pre) d post ret (by rw [hcs]; rfl) hret

lemma WriteEnd.mem {tr : List ((BitVec 32 × BitVec 32) × ℤ)}
    {ret : ℤ} (h : WriteEnd cs tr ret) : ∀ e ∈ tr, e.1 ∈ cs := by
  intro e he
  cases h with
  | all =>
    obtain ⟨c, hc, rfl⟩ := List.mem_map.1 he
    exact hc
  | stop pre c post ret hcs hret =>
    rw [hcs]
    rcases List.mem_append.1 he with he | he
    · obtain ⟨d, hd, rfl⟩ := List.mem_map.1 he
      exact List.mem_append_left _ hd
    · obtain rfl := List.mem_singleton.1 he
      simp

/-- **The loader writes what the file says**: nothing if the file does not pass, and otherwise the
words of its records in order, each at a word of the RAM, up to the first that fails. -/
theorem fwUpload_writes (data : ℕ → Byte) (size ramSize : ℕ)
    {tr : List ((BitVec 32 × BitVec 32) × ℤ)} {ret : ℤ}
    (hd : Does (fwUpload (some data) size ramSize fun offset v => ask (offset, v)) tr ret) :
    (ret = fwValidate (some data) size ramSize ∧ ret ≠ 0 ∧ tr = []) ∨
    ∃ rs, Reads data size ramSize rs ∧ WriteEnd (cells rs) tr ret ∧
      ∀ e ∈ tr, e.1.1.toNat % 4 = 0 ∧ e.1.1.toNat + 4 ≤ ramSize := by
  by_cases hv : fwValidate (some data) size ramSize = 0
  · obtain ⟨rs, hrs⟩ := fwValidate_reads.1 hv
    rw [hrs.fwUpload_eq] at hd
    have hend := does_writeCells hd
    exact .inr ⟨rs, hrs, hend, fun e he => mem_cells hrs.fits (hend.mem e he)⟩
  · rw [fwUpload, if_pos hv] at hd
    obtain ⟨rfl, rfl⟩ := does_pure.1 hd
    exact .inl ⟨rfl, hv, rfl⟩

/-- A loader that is told of a failure at once. -/
theorem fwUpload_writes_oneWord :
    let out := run (fun _ _ => -eio) []
      (fwUpload (some oneWord) 12 0xf000 fun offset v => ask (offset, v))
    (out.2 = fwValidate (some oneWord) 12 0xf000 ∧ out.2 ≠ 0 ∧ out.1 = []) ∨
    ∃ rs, Reads oneWord 12 0xf000 rs ∧ WriteEnd (cells rs) out.1 out.2 ∧
      ∀ e ∈ out.1, e.1.1.toNat % 4 = 0 ∧ e.1.1.toNat + 4 ≤ 0xf000 :=
  fwUpload_writes oneWord 12 0xf000 (run_does _ [] _)

/-- What is left in memory by words that are written one after the other, from `base` on. -/
def overlay (base : ℕ) (f : ℕ → Option (BitVec 32)) (cs : List (BitVec 32 × BitVec 32)) :
    ℕ → Option (BitVec 32) :=
  cs.foldl (fun f c => Function.update f (base + c.1.toNat) (some c.2)) f

lemma overlay_of_ne {base offset : ℕ} {f : ℕ → Option (BitVec 32)}
    (h : ∀ c ∈ cs, offset ≠ base + c.1.toNat) :
    overlay base f cs offset = f offset := by
  induction cs generalizing f with
  | nil => rfl
  | cons c cs ih =>
    obtain ⟨hc, hcs⟩ := List.forall_mem_cons.1 h
    rw [overlay, List.foldl_cons]
    exact (ih hcs).trans (Function.update_of_ne hc _ _)

lemma overlay_congr {base offset : ℕ} {f f' : ℕ → Option (BitVec 32)}
    (h : f offset = f' offset) (cs : List (BitVec 32 × BitVec 32)) :
    overlay base f cs offset = overlay base f' cs offset := by
  induction cs generalizing f f' with
  | nil => exact h
  | cons c cs ih =>
    refine ih ?_
    dsimp only
    by_cases hc : offset = base + c.1.toNat
    · rw [hc, Function.update_self, Function.update_self]
    · rw [Function.update_of_ne hc, Function.update_of_ne hc, h]

/-- Words for the same place agree. -/
def Consistent (cs : List (BitVec 32 × BitVec 32)) : Prop :=
  ∀ c ∈ cs, ∀ d ∈ cs, c.1 = d.1 → c.2 = d.2

lemma overlay_mem (base : ℕ) (f : ℕ → Option (BitVec 32))
    {place : BitVec 32} (h : ∃ c ∈ cs, c.1 = place) :
    ∃ c ∈ cs, c.1 = place ∧ overlay base f cs (base + place.toNat) = some c.2 := by
  induction cs generalizing f with
  | nil =>
    obtain ⟨c, hc, -⟩ := h
    cases hc
  | cons b cs ih =>
    -- A later word for the same place wins.
    by_cases hlater : ∃ c ∈ cs, c.1 = place
    · obtain ⟨c, hc, heq, hval⟩ := ih (Function.update f (base + b.1.toNat) (some b.2)) hlater
      exact ⟨c, List.mem_cons_of_mem _ hc, heq, hval⟩
    · obtain ⟨c, hc, rfl⟩ := h
      obtain rfl : c = b := (List.mem_cons.1 hc).resolve_right fun hc => hlater ⟨c, hc, rfl⟩
      refine ⟨c, hc, rfl, ?_⟩
      rw [overlay, List.foldl_cons]
      refine (overlay_of_ne fun d hd heq => hlater ⟨d, hd, ?_⟩).trans (Function.update_self _ _ _)
      exact BitVec.eq_of_toNat_eq (by omega)

lemma overlay_eq_iff_consistent (base : ℕ) (f : ℕ → Option (BitVec 32))
    :
    (∀ c ∈ cs, overlay base f cs (base + c.1.toNat) = some c.2) ↔ Consistent cs := by
  constructor
  · intro h c hc d hd heq
    have hval := h c hc
    rw [heq, h d hd] at hval
    exact (Option.some.inj hval).symm
  · intro h c hc
    obtain ⟨d, hd, heq, hval⟩ := overlay_mem base f ⟨c, hc, rfl⟩
    rw [hval, h d hd c hc heq]

lemma safe_writeCells {γ : Type} {w : Watch Q A γ} {J : List (BitVec 32 × BitVec 32) → γ → Prop}
    {writeWord : BitVec 32 → BitVec 32 → Dialog Q A ℤ}
    (hw : ∀ done c rest, cs = done ++ c :: rest → ∀ g, J done g →
      Safe w (fun g ret => ret = 0 ∧ J (done ++ [c]) g) (writeWord c.1 c.2) g)
    {g : γ} (hg : J [] g) : Safe w (fun g ret => ret = 0 ∧ J cs g) (writeCells writeWord cs) g := by
  suffices hgen : ∀ rest done g, cs = done ++ rest → J done g →
      Safe w (fun g ret => ret = 0 ∧ J cs g) (writeCells writeWord rest) g from hgen cs [] g rfl hg
  intro rest
  induction rest with
  | nil =>
    intro done g heq hg
    rw [List.append_nil] at heq
    exact ⟨rfl, heq ▸ hg⟩
  | cons c rest ih =>
    intro done g heq hg
    refine safe_bind.2 ((hw done c rest heq g hg).mono ?_)
    rintro g ret ⟨rfl, hg⟩
    rw [if_neg (not_not.2 rfl)]
    exact ih (done ++ [c]) g (by simp [heq]) hg

end YogaUsb4.Mcu
