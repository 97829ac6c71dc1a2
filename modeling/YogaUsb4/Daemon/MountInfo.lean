import YogaUsb4.PyText
import Mathlib.Data.List.Pairwise
import Mathlib.Data.Set.Defs

/-!
Reading `/proc/self/mountinfo`. The kernel writes one mount a line, its fields apart by one space,
and in the two paths of a mount it writes space, tab, newline and backslash as octal codes. The
service reads the text with `read_text`, `splitlines` and `split`, and these know more line breaks
and more white space than the kernel writes codes for.
-/

namespace YogaUsb4.MountInfo

open PyText

/-! ### The service -/

def octal (c : Char) : Bool := '0' ≤ c && c ≤ '7'

def digit (c : Char) : Nat := c.toNat - '0'.toNat

/-- A mountinfo path: a backslash and three octal digits stand for one character. -/
def unescape : Text → Text
  | '\\' :: a :: b :: c :: t =>
    if octal a && octal b && octal c then
      Char.ofNat (digit a * 64 + digit b * 8 + digit c) :: unescape t
    else
      '\\' :: unescape (a :: b :: c :: t)
  | c :: t => c :: unescape t
  | [] => []

/-- A field that is neither a path nor empty: a plain word of printable ASCII. -/
structure Word where
  chars : Text
  ne_nil : chars ≠ []
  plain : ∀ c ∈ chars, 0x21 ≤ c.toNat ∧ c.toNat ≤ 0x7e

/-- The disk or one of its partitions in sysfs, with the number in its `dev` file if it has one. -/
structure Entry where
  name : Text
  number : Option Word

/-- What `dev.read_text()` returns. -/
def Entry.dev (e : Entry) : Option Text := e.number.map fun w => w.chars ++ ['\n']

/-- `[base, *base.glob(disk + 'p*')]`; no two block devices have one number. -/
structure Disk where
  entries : List Entry
  distinct : entries.Pairwise fun a b => ∀ v ∈ a.number, ∀ w ∈ b.number, v.chars ≠ w.chars

/-- The stripped number of each entry that has one, with the entry's name. -/
def Disk.numbered (d : Disk) : List (Text × Text) :=
  d.entries.filterMap fun e => e.dev.map fun t => (strip t, e.name)

/-- The set `numbers` of `mounted`. -/
def Disk.numbers (d : Disk) : List Text := d.numbered.map (·.1)

/-- The dictionary `names` of `mounted_devices`: the last entry of a number counts. -/
def Disk.names (d : Disk) (number : Text) : Option Text :=
  (d.numbered.reverse.find? (·.1 == number)).map (·.2)

/-- `parts[2]` and `parts[4]` of a line of more than four parts. -/
def parts (line : Text) : Option (Text × Text) :=
  match split line with
  | _ :: _ :: number :: _ :: point :: _ => some (number, point)
  | _ => none

def table (file : Text) : List (Text × Text) := (splitlines (newlines file)).filterMap parts

/-- Mount points of the disk and its partitions. -/
def mounted (d : Disk) (file : Text) : List Text :=
  (table file).filterMap fun p => if p.1 ∈ d.numbers then some (unescape p.2) else none

/-- One line of the loop of `mounted_devices`. -/
def addName (d : Disk) (found : List Text) (p : Text × Text) : List Text :=
  match d.names p.1 with
  | some name => if name ∈ found then found else found ++ [name]
  | none => found

/-- Names of the disk and partitions that are mounted. -/
def mountedDevices (d : Disk) (file : Text) : List Text := (table file).foldl (addName d) []

/-! ### The kernel -/

/-- The characters the kernel writes as codes. -/
def escaped (c : Char) : Bool := c == ' ' || c == '\t' || c == '\n' || c == '\\'

def escapeChar (c : Char) : Text :=
  if c = ' ' then ['\\', '0', '4', '0']
  else if c = '\t' then ['\\', '0', '1', '1']
  else if c = '\n' then ['\\', '0', '1', '2']
  else if c = '\\' then ['\\', '1', '3', '4']
  else [c]

def escape (t : Text) : Text := t.flatMap escapeChar

structure Path where
  chars : Text
  absolute : chars.head? = some '/'
  noNul : '\x00' ∉ chars

/-- A mount, with its fields in the order of the line; `rest` is from the mount options on. -/
structure Mount where
  id : Word
  parent : Word
  number : Word
  root : Path
  point : Path
  rest : List Word

def Mount.fields (m : Mount) : List Text :=
  [m.id.chars, m.parent.chars, m.number.chars, escape m.root.chars, escape m.point.chars] ++
    m.rest.map (·.chars)

def Mount.line (m : Mount) : Text := [' '].intercalate m.fields

/-- The file the kernel shows for a list of mounts. -/
def render (ms : List Mount) : Text := ms.flatMap fun m => m.line ++ ['\n']

/-! ### What the service is to report -/

def Disk.Has (d : Disk) (m : Mount) : Prop :=
  ∃ e ∈ d.entries, ∃ w ∈ e.number, w.chars = m.number.chars

def Disk.HasNamed (d : Disk) (name : Text) (m : Mount) : Prop :=
  ∃ e ∈ d.entries, e.name = name ∧ ∃ w ∈ e.number, w.chars = m.number.chars

instance (d : Disk) (m : Mount) : Decidable (d.Has m) := by
  unfold Disk.Has
  infer_instance

/-- Both readers report what is mounted: the mount points in order, and each device once. -/
structure Right (d : Disk) (ms : List Mount) : Prop where
  points : mounted d (render ms) = (ms.filter (d.Has ·)).map (·.point.chars)
  devices : ∀ name, name ∈ mountedDevices d (render ms) ↔ ∃ m ∈ ms, d.HasNamed name m
  once : (mountedDevices d (render ms)).Nodup

/-! ### Codes -/

lemma unescape_cons {c : Char} (h : c ≠ '\\') (t : Text) :
    unescape (c :: t) = c :: unescape t := by
  rw [unescape]
  intro a b d t' e
  exact absurd e (by simp [h])

lemma unescape_escapeChar (c : Char) (t : Text) :
    unescape (escapeChar c ++ t) = c :: unescape t := by
  by_cases h : escaped c
  · simp only [escaped, Bool.or_eq_true, beq_iff_eq] at h
    rcases h with ((rfl | rfl) | rfl) | rfl <;> simp [escapeChar, unescape, octal, digit]
  · obtain ⟨h1, h2, h3, h4⟩ : c ≠ ' ' ∧ c ≠ '\t' ∧ c ≠ '\n' ∧ c ≠ '\\' := by
      simpa [escaped, and_assoc] using h
    have e : escapeChar c = [c] := by simp [escapeChar, h1, h2, h3, h4]
    rw [e, List.singleton_append, unescape_cons h4]

lemma unescape_escape (t : Text) : unescape (escape t) = t := by
  induction t with
  | nil => rfl
  | cons c t ih =>
    have e : escape (c :: t) = escapeChar c ++ escape t := by simp [escape]
    rw [e, unescape_escapeChar, ih]

lemma pySpace_of_mem_escapeChar {c x : Char} (h : x ∈ escapeChar c) (hx : pySpace x) :
    x = c ∧ escaped c = false := by
  unfold escapeChar at h
  split_ifs at h with h1 h2 h3 h4
  iterate 4
    simp only [List.mem_cons, List.not_mem_nil, or_false] at h
    rcases h with rfl | rfl | rfl | rfl <;> exact absurd hx (by decide)
  refine ⟨by simpa using h, ?_⟩
  simp [escaped, h1, h2, h3, h4]

lemma escapeChar_ne_nil (c : Char) : escapeChar c ≠ [] := by
  unfold escapeChar
  split_ifs <;> simp

/-! ### The lines of a table whose paths are safe -/

/-- Every character of the path that Python takes for white space is one the kernel escapes. -/
def Safe (t : Text) : Prop := ∀ c ∈ t, pySpace c → escaped c

lemma Word.clean (w : Word) : Clean w.chars := by
  refine ⟨w.ne_nil, fun c hc => ?_⟩
  obtain ⟨h1, h2⟩ := w.plain c hc
  simp only [pySpace]
  simp
  omega

lemma Path.clean {p : Path} (h : Safe p.chars) : Clean (escape p.chars) := by
  refine ⟨fun e => ?_, fun x hx => ?_⟩
  · have ha := p.absolute
    cases hp : p.chars with
    | nil => simp [hp] at ha
    | cons c t =>
      rw [hp, escape, List.flatMap_cons] at e
      exact escapeChar_ne_nil c (List.append_eq_nil_iff.1 e).1
  · by_contra hs
    obtain ⟨c, hc, hxc⟩ := List.mem_flatMap.1 hx
    obtain ⟨rfl, he⟩ := pySpace_of_mem_escapeChar hxc (by simpa using hs)
    have := h x hc (by simpa using hs)
    rw [he] at this
    cases this

lemma Mount.fields_clean {m : Mount} (hr : Safe m.root.chars) (hp : Safe m.point.chars) :
    ∀ f ∈ m.fields, Clean f := by
  intro f hf
  simp only [Mount.fields, List.cons_append, List.nil_append, List.mem_cons, List.mem_map] at hf
  rcases hf with rfl | rfl | rfl | rfl | rfl | ⟨w, -, rfl⟩
  · exact m.id.clean
  · exact m.parent.clean
  · exact m.number.clean
  · exact m.root.clean hr
  · exact m.point.clean hp
  · exact w.clean

lemma table_render {ms : List Mount}
    (h : ∀ m ∈ ms, Safe m.root.chars ∧ Safe m.point.chars) :
    table (render ms) = ms.map fun m => (m.number.chars, escape m.point.chars) := by
  have hl : ∀ l ∈ ms.map Mount.line, ∀ c ∈ l, pyBreak c = false := by
    intro l hl c hc
    obtain ⟨m, hm, rfl⟩ := List.mem_map.1 hl
    by_contra hb
    have hb' : pyBreak c = true := by simpa using hb
    have e := eq_of_mem_intercalate (Mount.fields_clean (h m hm).1 (h m hm).2) hc
      (pySpace_of_pyBreak hb')
    rw [e] at hb'
    exact absurd hb' (by decide)
  have e : render ms = (ms.map Mount.line).flatMap fun l => l ++ ['\n'] := by
    simp [render, List.flatMap_map]
  rw [table, e, splitlines_lines hl, List.filterMap_map]
  have hp : ∀ m ∈ ms, (parts ∘ Mount.line) m = some (m.number.chars, escape m.point.chars) := by
    intro m hm
    have es : split m.line = m.fields :=
      split_intercalate (Mount.fields_clean (h m hm).1 (h m hm).2) (by simp [Mount.fields])
    simp [Function.comp_apply, parts, es, Mount.fields]
  rw [List.filterMap_congr hp, ← List.filterMap_eq_map]
  rfl

/-! ### The numbers of the disk -/

lemma strip_dev (w : Word) : strip (w.chars ++ ['\n']) = w.chars := by
  have drop : ∀ t : Text, (∀ c ∈ t, pySpace c = false) → t.dropWhile pySpace = t := by
    intro t ht
    cases t with
    | nil => rfl
    | cons c t => simp [ht c (by simp)]
  have hw := w.clean
  have e : (w.chars ++ ['\n']).dropWhile pySpace = w.chars ++ ['\n'] := by
    cases hc : w.chars with
    | nil => exact absurd hc w.ne_nil
    | cons c t =>
      have := hw.2 c (by simp [hc])
      simp [this]
  rw [strip, e, List.reverse_append]
  have e' : (['\n'].reverse ++ w.chars.reverse).dropWhile pySpace =
      w.chars.reverse.dropWhile pySpace := by
    simp [show pySpace '\n' = true by decide]
  rw [e', drop _ (fun c hc => hw.2 c (by simpa using hc)), List.reverse_reverse]

variable {d : Disk}

lemma Disk.mem_numbered {number name : Text} :
    (number, name) ∈ d.numbered ↔
      ∃ e ∈ d.entries, e.name = name ∧ ∃ w ∈ e.number, w.chars = number := by
  simp only [Disk.numbered, List.mem_filterMap, Entry.dev, Option.map_map, Option.map_eq_some_iff,
    Function.comp_apply, strip_dev, Prod.mk.injEq, Option.mem_def]
  constructor
  · rintro ⟨e, he, w, hw, h1, h2⟩
    exact ⟨e, he, h2, w, hw, h1⟩
  · rintro ⟨e, he, h2, w, hw, h1⟩
    exact ⟨e, he, w, hw, h1, h2⟩

lemma Disk.mem_numbers {m : Mount} : m.number.chars ∈ d.numbers ↔ d.Has m := by
  simp only [Disk.numbers, List.mem_map, Prod.exists, exists_and_right, exists_eq_right,
    Disk.mem_numbered, Disk.Has]
  constructor
  · rintro ⟨name, e, he, -, w, hw, h⟩
    exact ⟨e, he, w, hw, h⟩
  · rintro ⟨e, he, w, hw, h⟩
    exact ⟨e.name, e, he, rfl, w, hw, h⟩

lemma Disk.numbered_inj {number a b : Text} (ha : (number, a) ∈ d.numbered)
    (hb : (number, b) ∈ d.numbered) : a = b := by
  have hd : d.numbered.Pairwise fun x y => x.1 ≠ y.1 := by
    rw [Disk.numbered, List.pairwise_filterMap]
    refine d.distinct.imp ?_
    intro e f hef x hx y hy
    simp only [Entry.dev, Option.map_map, Option.map_eq_some_iff, Function.comp_apply,
      strip_dev] at hx hy
    obtain ⟨v, hv, rfl⟩ := hx
    obtain ⟨w, hw, rfl⟩ := hy
    exact hef v hv w hw
  have : Std.Symm fun x y : Text × Text => x.1 ≠ y.1 := ⟨fun _ _ h => h.symm⟩
  by_contra hab
  exact hd.forall ha hb (by simpa using hab) rfl

lemma Disk.names_eq_some {number name : Text} :
    d.names number = some name ↔ (number, name) ∈ d.numbered := by
  simp only [Disk.names, Option.map_eq_some_iff, Prod.exists, exists_eq_right]
  constructor
  · rintro ⟨n, h⟩
    have hm := List.mem_of_find?_eq_some h
    have he := List.find?_some h
    simp only [beq_iff_eq] at he
    rw [← he]
    simpa using hm
  · intro h
    cases hf : d.numbered.reverse.find? (·.1 == number) with
    | none =>
      have := List.find?_eq_none.1 hf (number, name) (by simpa using h)
      simp at this
    | some p =>
      obtain ⟨n, a⟩ := p
      have hm := List.mem_of_find?_eq_some hf
      have he := List.find?_some hf
      simp only [beq_iff_eq] at he
      subst he
      have e : a = name := Disk.numbered_inj (List.mem_reverse.1 hm) h
      exact ⟨n, by rw [e]⟩

/-! ### Names found -/

variable {found : List Text}

lemma mem_addName {p : Text × Text} {name : Text} :
    name ∈ addName d found p ↔ name ∈ found ∨ (p.1, name) ∈ d.numbered := by
  rw [← Disk.names_eq_some, addName]
  cases h : d.names p.1 with
  | none => simp
  | some n =>
    by_cases hn : n ∈ found
    · simp only [hn, if_true, Option.some.injEq]
      constructor
      · exact Or.inl
      · rintro (h' | rfl)
        · exact h'
        · exact hn
    · simp only [hn, if_false, List.mem_append, List.mem_singleton, Option.some.injEq]
      exact or_congr_right eq_comm

lemma nodup_addName (h : found.Nodup) (p : Text × Text) :
    (addName d found p).Nodup := by
  unfold addName
  split
  · split_ifs with hn
    · exact h
    · rw [List.nodup_append]
      refine ⟨h, by simp, ?_⟩
      rintro a ha b hb rfl
      rw [List.mem_singleton] at hb
      exact hn (hb ▸ ha)
  · exact h

lemma mem_foldl_addName {ps : List (Text × Text)} {name : Text} :
    name ∈ ps.foldl (addName d) found ↔ name ∈ found ∨ ∃ p ∈ ps, (p.1, name) ∈ d.numbered := by
  induction ps generalizing found with
  | nil => simp
  | cons p ps ih =>
    rw [List.foldl_cons, ih, mem_addName, or_assoc]
    simp

lemma nodup_foldl_addName {ps : List (Text × Text)}
    (h : found.Nodup) : (ps.foldl (addName d) found).Nodup := by
  induction ps generalizing found with
  | nil => exact h
  | cons p ps ih => exact ih (nodup_addName h p)

lemma right_of_safe {ms : List Mount}
    (h : ∀ m ∈ ms, Safe m.root.chars ∧ Safe m.point.chars) : Right d ms where
  points := by
    rw [mounted, table_render h, List.filterMap_map, ← List.filterMap_eq_map,
      ← List.filterMap_eq_filter, List.filterMap_filterMap]
    refine List.filterMap_congr fun m _ => ?_
    by_cases hm : d.Has m
    · simp [Disk.mem_numbers, hm, unescape_escape, Option.guard]
    · simp [Disk.mem_numbers, hm, Option.guard]
  devices name := by
    rw [mountedDevices, table_render h, mem_foldl_addName]
    simp [Disk.mem_numbered, Disk.HasNamed]
  once := nodup_foldl_addName List.nodup_nil

/-! ### An unsafe path is never reported -/

/-- A text whose backslashes all begin one of the four codes. -/
inductive Coded : Text → Prop
  | nil : Coded []
  | char {c : Char} {t : Text} (h : c ≠ '\\') : Coded t → Coded (c :: t)
  | code {c : Char} {t : Text} (h : escaped c) : Coded t → Coded (escapeChar c ++ t)

lemma Coded.append {s t : Text} (hs : Coded s) (ht : Coded t) : Coded (s ++ t) := by
  induction hs with
  | nil => exact ht
  | char h _ ih => exact .char h ih
  | code h _ ih =>
    rw [List.append_assoc]
    exact .code h ih

lemma coded_of_no_backslash {t : Text} (h : '\\' ∉ t) : Coded t := by
  induction t with
  | nil => exact .nil
  | cons c t ih =>
    simp only [List.mem_cons, not_or] at h
    exact .char (Ne.symm h.1) (ih h.2)

lemma coded_escape (t : Text) : Coded (escape t) := by
  induction t with
  | nil => exact .nil
  | cons c t ih =>
    rw [escape, List.flatMap_cons]
    by_cases h : escaped c
    · exact .code h ih
    · have hc : c ≠ ' ' ∧ c ≠ '\t' ∧ c ≠ '\n' ∧ c ≠ '\\' := by
        simpa [escaped, and_assoc] using h
      have e : escapeChar c = [c] := by simp [escapeChar, hc]
      rw [e]
      exact .char hc.2.2.2 ih

lemma coded_intercalate {fs : List Text} (h : ∀ f ∈ fs, Coded f) :
    Coded ([' '].intercalate fs) := by
  induction fs with
  | nil => exact .nil
  | cons f fs ih =>
    have hf := h f (by simp)
    cases fs with
    | nil => simpa using hf
    | cons g gs =>
      rw [List.intercalate_cons_cons, List.append_assoc, List.singleton_append]
      exact hf.append (.char (by decide) (ih fun k hk => h k (by simp [hk])))

lemma Coded.mem_unescape {t : Text} (h : Coded t) {x : Char} (hx : x ∈ unescape t) :
    escaped x ∨ x ∈ t := by
  induction h with
  | nil => simp [unescape] at hx
  | char hc _ ih =>
    rw [unescape_cons hc] at hx
    rcases List.mem_cons.1 hx with rfl | hx
    · simp
    · exact (ih hx).imp_right fun h => by simp [h]
  | code hc _ ih =>
    rw [unescape_escapeChar] at hx
    rcases List.mem_cons.1 hx with rfl | hx
    · exact Or.inl hc
    · exact (ih hx).imp_right fun h => by simp [h]

lemma not_pySpace_of_code {c x : Char} (h : escaped c) (hx : x ∈ escapeChar c) :
    pySpace x = false := by
  by_contra hs
  have := (pySpace_of_mem_escapeChar hx (by simpa using hs)).2
  rw [h] at this
  cases this

lemma Coded.newlines {t : Text} (h : Coded t) : Coded (newlines t) := by
  induction h with
  | nil => exact .nil
  | @char c t hc ht ih =>
    by_cases hr : c = '\r'
    · subst hr
      -- the newline after a carriage return is written when the rest is
      have e : PyText.newlines ('\r' :: t) = PyText.newlines t ∨
          PyText.newlines ('\r' :: t) = '\n' :: PyText.newlines t := by
        cases t with
        | nil => exact Or.inr rfl
        | cons x t =>
          by_cases hx : x = '\n'
          · subst hx
            exact Or.inl rfl
          · right
            rw [PyText.newlines]
            intro t' ht'
            exact hx (List.cons.inj ht').1
      rcases e with e | e
      · rw [e]
        exact ih
      · rw [e]
        exact .char (by decide) ih
    · rw [newlines_cons hr]
      exact .char hc ih
  | @code c t hc _ ih =>
    have e : ∀ s : Text, (∀ x ∈ s, pySpace x = false) →
        PyText.newlines (s ++ t) = s ++ PyText.newlines t := by
      intro s hs
      induction s with
      | nil => rfl
      | cons x s ihs =>
        have hx : x ≠ '\r' := by
          rintro rfl
          exact absurd (hs '\r' (by simp)) (by decide)
        rw [List.cons_append, newlines_cons hx, ihs fun y hy => hs y (by simp [hy]),
          List.cons_append]
    rw [e _ fun x hx => not_pySpace_of_code hc hx]
    exact .code hc ih

lemma Coded.piece {q : Char → Bool} (hq : ∀ c, q c → pySpace c) {t s : Text} (ht : Coded t)
    (h : s ∈ t.splitOnP q) : Coded s := by
  induction ht generalizing s with
  | nil =>
    simp only [List.splitOnP_nil, List.mem_singleton] at h
    rw [h]
    exact .nil
  | @char c t hc _ ih =>
    rw [List.splitOnP_cons_eq_if_modifyHead] at h
    split_ifs at h with hx
    · rcases List.mem_cons.1 h with rfl | h
      · exact .nil
      · exact ih h
    · rcases mem_modifyHead h with h | ⟨l, hl, rfl⟩
      · exact ih h
      · exact .char hc (ih hl)
  | @code c t hc _ ih =>
    -- No character of a code is a space, so a cut never falls inside one.
    have hs : ∀ x ∈ escapeChar c, q x = false := by
      intro x hx
      by_contra hqx
      have := hq x (by simpa using hqx)
      rw [not_pySpace_of_code hc hx] at this
      cases this
    rw [splitOnP_append hs] at h
    rcases mem_modifyHead h with h | ⟨l, hl, rfl⟩
    · exact ih h
    · exact .code hc (ih hl)

lemma Coded.splitlines {t l : Text} (h : Coded t) (hl : l ∈ splitlines t) : Coded l := by
  have hp : l ∈ (PyText.newlines t).splitOnP pyBreak := by
    simp only [PyText.splitlines] at hl
    split_ifs at hl
    · exact List.dropLast_subset _ hl
    · exact hl
  exact h.newlines.piece (fun _ => pySpace_of_pyBreak) hp

lemma mem_split_of_parts {line number point : Text} (h : parts line = some (number, point)) :
    point ∈ split line := by
  unfold parts at h
  split at h
  · rename_i e
    simp only [Option.some.injEq, Prod.mk.injEq] at h
    rw [e, h.2]
    simp
  · cases h

lemma safe_of_mem_mounted {file x : Text} (h : Coded file) (hx : x ∈ mounted d file) :
    Safe x := by
  obtain ⟨⟨number, point⟩, hp, e⟩ := List.mem_filterMap.1 hx
  split_ifs at e
  obtain ⟨line, hl, hparts⟩ := List.mem_filterMap.1 hp
  have hsplit := (List.mem_filter.1 (mem_split_of_parts hparts)).1
  have hcoded : Coded point := (h.newlines.splitlines hl).piece (fun _ h => h) hsplit
  have hspace := not_mem_piece hsplit
  cases e
  intro c hc hs
  rcases hcoded.mem_unescape hc with he | hm
  · exact he
  · rw [hspace c hm] at hs
    cases hs

/-! ### The main result -/

def exampleMount (root point : Path) : Mount where
  id := ⟨"36".toList, by decide, by simp⟩
  parent := ⟨"25".toList, by decide, by simp⟩
  number := ⟨"259:7".toList, by decide, by simp⟩
  root := root
  point := point
  rest := [⟨"rw".toList, by decide, by simp⟩, ⟨"-".toList, by decide, by simp⟩,
    ⟨"ext4".toList, by decide, by simp⟩, ⟨"/dev/nvme1n1p4".toList, by decide, by simp⟩,
    ⟨"rw".toList, by decide, by simp⟩]

def exampleDisk : Disk where
  entries := [⟨"nvme1n1".toList, some ⟨"259:6".toList, by decide, by simp⟩⟩,
    ⟨"nvme1n1p4".toList, some ⟨"259:7".toList, by decide, by simp⟩⟩]
  distinct := by simp

lemma exampleDisk_has (root point : Path) : exampleDisk.Has (exampleMount root point) :=
  ⟨⟨"nvme1n1p4".toList, some ⟨"259:7".toList, by decide, by simp⟩⟩, by simp [exampleDisk],
    ⟨"259:7".toList, by decide, by simp⟩, rfl, rfl⟩

lemma coded_exampleMount (root point : Path) : Coded (render [exampleMount root point]) := by
  rw [render, List.flatMap_cons, List.flatMap_nil, List.append_nil]
  refine (coded_intercalate ?_).append (.char (by decide) .nil)
  intro f hf
  simp only [Mount.fields, exampleMount, List.cons_append, List.nil_append, List.map_cons,
    List.map_nil, List.mem_cons, List.not_mem_nil, or_false] at hf
  rcases hf with rfl | rfl | rfl | rfl | rfl | rfl | rfl | rfl | rfl | rfl
  iterate 3 exact coded_of_no_backslash (by decide)
  iterate 2 exact coded_escape _
  iterate 5 exact coded_of_no_backslash (by decide)

/-- The tables over a set of paths are all read right, for every disk, exactly if every white space
of Python in these paths is a character the kernel escapes. -/
theorem mounted_right_iff (paths : Set Path) :
    (∀ (d : Disk) (ms : List Mount), (∀ m ∈ ms, m.root ∈ paths ∧ m.point ∈ paths) → Right d ms) ↔
      ∀ p ∈ paths, ∀ c ∈ p.chars, pySpace c → escaped c := by
  constructor
  · intro h p hp
    have hr := h exampleDisk [exampleMount p p] (by simp [exampleMount, hp])
    have hm : p.chars ∈ mounted exampleDisk (render [exampleMount p p]) := by
      rw [hr.points]
      refine List.mem_map.2 ⟨exampleMount p p, ?_, rfl⟩
      exact List.mem_filter.2 ⟨by simp, by simp only [exampleDisk_has, decide_true]⟩
    exact safe_of_mem_mounted (coded_exampleMount p p) hm
  · intro h d ms hms
    exact right_of_safe fun m hm => ⟨h _ (hms m hm).1, h _ (hms m hm).2⟩

/-- A directory whose name has a line separator in it, mounted at `/mnt`: the drive is reported as
not mounted. -/
theorem mounted_line_separator :
    let m := exampleMount ⟨"/a\u2028b".toList, by decide, by simp⟩
      ⟨"/mnt".toList, by decide, by simp⟩
    exampleDisk.Has m ∧ mounted exampleDisk (render [m]) = [] ∧
      mountedDevices exampleDisk (render [m]) = [] := by
  refine ⟨exampleDisk_has _ _, ?_, ?_⟩
  · decide
  · decide

end YogaUsb4.MountInfo
