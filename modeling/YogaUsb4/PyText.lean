import Mathlib.Data.List.Basic
import Mathlib.Data.List.Infix

/-!
What the methods of Python's `str` make of a text: line breaks, white space, stripping, and the
pieces of a text that is cut at the characters of a class.
-/

namespace YogaUsb4.PyText

/-- A Python `str`. -/
abbrev Text := List Char

/-- `str.isspace`, by code point. -/
def pySpace (c : Char) : Bool :=
  let n := c.toNat
  (0x09 ≤ n && n ≤ 0x0d) || (0x1c ≤ n && n ≤ 0x20) || n == 0x85 || n == 0xa0 || n == 0x1680 ||
    (0x2000 ≤ n && n ≤ 0x200a) || n == 0x2028 || n == 0x2029 || n == 0x202f || n == 0x205f ||
    n == 0x3000

/-- What ends a line for `str.splitlines`. -/
def pyBreak (c : Char) : Bool :=
  let n := c.toNat
  (0x0a ≤ n && n ≤ 0x0d) || (0x1c ≤ n && n ≤ 0x1e) || n == 0x85 || n == 0x2028 || n == 0x2029

/-- The universal newlines of a file opened as text. -/
def newlines : Text → Text
  | [] => []
  | '\r' :: '\n' :: t => '\n' :: newlines t
  | '\r' :: t => '\n' :: newlines t
  | c :: t => c :: newlines t

/-- `str.splitlines`: a carriage return and a newline end one line, and a text that ends with a
break has no empty last line. -/
def splitlines (t : Text) : List Text :=
  let ls := (newlines t).splitOnP pyBreak
  if ls.getLast? = some [] then ls.dropLast else ls

/-- `str.split` without an argument. -/
def split (t : Text) : List Text := (t.splitOnP pySpace).filter (· ≠ [])

/-- `str.strip` without an argument. -/
def strip (t : Text) : Text := ((t.dropWhile pySpace).reverse.dropWhile pySpace).reverse

/-! ### Pieces -/

section Pieces

variable {α : Type} {q : α → Bool}

lemma splitOnP_append {s : List α} (h : ∀ c ∈ s, q c = false) (t : List α) :
    (s ++ t).splitOnP q = (t.splitOnP q).modifyHead (s ++ ·) := by
  induction s with
  | nil =>
    rw [List.nil_append]
    cases t.splitOnP q <;> rfl
  | cons c s ih =>
    rw [List.cons_append, List.splitOnP_cons_eq_if_modifyHead, h c (by simp),
      ih fun x hx => h x (by simp [hx])]
    simp [Function.comp_def]

lemma mem_modifyHead {β : Type} {f : β → β} {ls : List β} {s : β} (h : s ∈ ls.modifyHead f) :
    s ∈ ls ∨ ∃ l ∈ ls, s = f l := by
  cases ls with
  | nil => simp at h
  | cons l ls =>
    simp only [List.modifyHead_cons, List.mem_cons] at h
    rcases h with rfl | h
    · exact Or.inr ⟨l, by simp, rfl⟩
    · exact Or.inl (by simp [h])

lemma not_mem_piece {t s : List α} (h : s ∈ t.splitOnP q) : ∀ c ∈ s, q c = false := by
  induction t generalizing s with
  | nil =>
    simp only [List.splitOnP_nil, List.mem_singleton] at h
    simp [h]
  | cons x t ih =>
    rw [List.splitOnP_cons_eq_if_modifyHead] at h
    split_ifs at h with hx
    · rcases List.mem_cons.1 h with rfl | h
      · simp
      · exact ih h
    · rcases mem_modifyHead h with h | ⟨l, hl, rfl⟩
      · exact ih h
      · intro c hc
        rcases List.mem_cons.1 hc with rfl | hc
        · simpa using hx
        · exact ih hl c hc

lemma splitOnP_append_last (s t : List α) :
    (s ++ t).splitOnP q = (s.splitOnP q).dropLast ++
      ((s.splitOnP q).getLast (List.splitOnP_ne_nil q s) ++ t).splitOnP q := by
  induction s with
  | nil => simp
  | cons c s ih =>
    obtain ⟨p, ps, hp⟩ := List.exists_cons_of_ne_nil (List.splitOnP_ne_nil q s)
    by_cases hc : q c
    · simp only [List.cons_append, List.splitOnP_cons_eq_if_modifyHead, hc, if_true, ih]
      simp [hp]
    · simp only [List.cons_append, List.splitOnP_cons_eq_if_modifyHead, hc, ih, hp]
      cases ps with
      | nil => simp [List.splitOnP_cons_eq_if_modifyHead, hc]
      | cons p' ps => simp

end Pieces

/-! ### Fields and lines -/

/-- A field that `split` leaves whole. -/
def Clean (t : Text) : Prop := t ≠ [] ∧ ∀ c ∈ t, pySpace c = false

lemma split_field {f : Text} (h : Clean f) : split f = [f] := by
  rw [split, List.splitOnP_eq_singleton h.2]
  simp [h.1]

lemma split_field_cons {f : Text} (h : Clean f) (t : Text) :
    split (f ++ ' ' :: t) = f :: split t := by
  rw [split, List.splitOnP_append_cons_of_forall_mem h.2 ' ' (by decide)]
  simp [split, h.1]

lemma split_intercalate {fs : List Text} (h : ∀ f ∈ fs, Clean f) (hn : fs ≠ []) :
    split ([' '].intercalate fs) = fs := by
  induction fs with
  | nil => exact absurd rfl hn
  | cons f fs ih =>
    have hf := h f (by simp)
    cases fs with
    | nil => simpa using split_field hf
    | cons g gs =>
      rw [List.intercalate_cons_cons, List.append_assoc, List.singleton_append,
        split_field_cons hf, ih (fun k hk => h k (by simp [hk])) (by simp)]

lemma pySpace_of_pyBreak {c : Char} (h : pyBreak c) : pySpace c := by
  simp only [pyBreak] at h
  simp only [pySpace]
  simp at h ⊢
  omega

lemma eq_of_mem_intercalate {fs : List Text} (h : ∀ f ∈ fs, Clean f) {c : Char}
    (hc : c ∈ [' '].intercalate fs) (hs : pySpace c) : c = ' ' := by
  induction fs with
  | nil => simp at hc
  | cons f fs ih =>
    have hf := (h f (by simp)).2 c
    cases fs with
    | nil =>
      rw [hf (by simpa using hc)] at hs
      cases hs
    | cons g gs =>
      rw [List.intercalate_cons_cons, List.append_assoc, List.mem_append] at hc
      rcases hc with hc | hc
      · rw [hf hc] at hs
        cases hs
      · rcases List.mem_cons.1 hc with rfl | hc
        · rfl
        · exact ih (fun k hk => h k (by simp [hk])) hc

lemma newlines_cons {c : Char} (h : c ≠ '\r') (t : Text) :
    newlines (c :: t) = c :: newlines t := by
  rw [newlines]
  · intro t' e
    exact absurd e (by simp [h])
  · intro e
    exact absurd e h

lemma newlines_eq {t : Text} (h : '\r' ∉ t) : newlines t = t := by
  induction t with
  | nil => rfl
  | cons c t ih =>
    simp only [List.mem_cons, not_or] at h
    rw [newlines_cons (Ne.symm h.1), ih h.2]

lemma splitOnP_lines {ls : List Text} (h : ∀ l ∈ ls, ∀ c ∈ l, pyBreak c = false) :
    (ls.flatMap fun l => l ++ ['\n']).splitOnP pyBreak = ls ++ [[]] := by
  induction ls with
  | nil => simp
  | cons l ls ih =>
    rw [List.flatMap_cons, List.append_assoc, List.singleton_append,
      List.splitOnP_append_cons_of_forall_mem (h l (by simp)) '\n' (by decide),
      ih fun k hk => h k (by simp [hk])]
    simp

lemma splitlines_lines {ls : List Text} (h : ∀ l ∈ ls, ∀ c ∈ l, pyBreak c = false) :
    splitlines (newlines (ls.flatMap fun l => l ++ ['\n'])) = ls := by
  have hr : '\r' ∉ ls.flatMap fun l => l ++ ['\n'] := by
    intro hm
    obtain ⟨l, hl, hc⟩ := List.mem_flatMap.1 hm
    have hb := h l hl '\r'
    simp only [List.mem_append, List.mem_singleton] at hc
    rcases hc with hc | hc
    · exact absurd (hb hc) (by decide)
    · exact absurd hc (by decide)
  simp only [splitlines, newlines_eq hr, splitOnP_lines h]
  simp

end YogaUsb4.PyText
