import YogaUsb4.PyText
import YogaUsb4.Daemon.Questions

/-!
The sleep announcements of logind: the monitor's output is read in pieces of any size, cut into
lines and parsed to the values that were announced, and the values of each wait are answered as
one batch. The helper processes run once they are started.
-/

namespace YogaUsb4.Daemon

open PyText Prog

abbrev Bytes := List UInt8

/-- The fields of `Logind`: whether the monitor and the lock's helper run, the part of a line that
was read, and whether the last signal was an announcement. -/
structure Logind where
  monitor : Bool := false
  lock : Bool := false
  buffer : Bytes := []
  announcing : Bool := false
  retryAt : ℚ := 0

namespace Logind

def announcement : Text :=
  "interface=org.freedesktop.login1.Manager; member=PrepareForSleep".toList

def take (l : Logind) : Logind := { l with lock := true }

def release (l : Logind) : Logind := { l with lock := false }

def close (l : Logind) : Logind := { l.release with monitor := false }

/-- Starts the monitor, then the lock. -/
def watch (now : ℚ) (l : Logind) : Logind × Bool :=
  if l.monitor then (l, true)
  else if now < l.close.retryAt then (l.close, false)
  else
    ({ { l.close with retryAt := now + 10, monitor := true }.take with
        buffer := [], announcing := false }, true)

section Parse

/-! `decode` is `bytes.decode(errors='replace')`. -/

variable (decode : Bytes → Text)

/-- One line: whether an announcement is open after it, and the value it gives. -/
def parseLine (announcing : Bool) (line : Bytes) : Bool × List Bool :=
  let text := decode line
  let word := strip text
  if "signal ".toList <+: text then (announcement <:+: text, [])
  else if announcing ∧ (word = "boolean true".toList ∨ word = "boolean false".toList) then
    (false, [word = "boolean true".toList])
  else (announcing, [])

def parse : Bool → List Bytes → Bool × List Bool
  | announcing, [] => (announcing, [])
  | announcing, line :: lines =>
    let r := parseLine decode announcing line
    let p := parse r.1 lines
    (p.1, r.2 ++ p.2)

/-- `*lines, buffer = bytes.split(b'\n')`. -/
def cut (b : Bytes) : List Bytes × Bytes :=
  ((b.splitOnP (· == 10)).dropLast,
    (b.splitOnP (· == 10)).getLast (List.splitOnP_ne_nil _ _))

def feed (l : Logind) (chunk : Bytes) : Logind × List Bool :=
  let c := cut (l.buffer ++ chunk)
  let p := parse decode l.announcing c.1
  ({ l with buffer := c.2, announcing := p.1 }, p.2)

/-- Waits, and returns the values that arrived in order. `ready` is what is read, if anything is
there; nothing read means that the monitor has ended. -/
def wait (now : ℚ) (ready : Option Bytes) (l : Logind) : Logind × List Bool :=
  let w := l.watch now
  if w.2 then
    match ready with
    | none => (w.1, [])
    | some chunk => if chunk = [] then (w.1.close, []) else w.1.feed decode chunk
  else (w.1, [])

/-- Waits one after the other, each with its time and what it reads; the values of each. -/
def waits : List (ℚ × Option Bytes) → Logind → Logind × List (List Bool)
  | [], l => (l, [])
  | (now, ready) :: ws, l =>
    let r := l.wait decode now ready
    let rs := waits ws r.1
    (rs.1, r.2 :: rs.2)

end Parse

def stream (ws : List (ℚ × Option Bytes)) : Bytes := (ws.filterMap (·.2)).flatten

end Logind

/-- A kernel beside logind: the two questions about the lock go to logind. -/
def Kernel.withLogind {κ : Type} (K : Kernel κ) : Kernel (κ × Logind) where
  answer q k :=
    match q with
    | .takeLock => (.ok (), k.1, k.2.take)
    | .releaseLock => (.ok (), k.1, k.2.release)
    | q => ((K.answer q k.1).1, (K.answer q k.1).2, k.2)
  int := K.int
  isdecimal := K.isdecimal
  stop_checks q k f h hf := by
    cases q with
    | takeLock => cases h
    | releaseLock => cases h
    | _ => exact K.stop_checks _ _ h hf

/-- `answer_logind` for one batch of values after the other. -/
def answerBatches {κ : Type} (K : Kernel κ) (n : ℕ) : List (List Bool) → SleepProg κ Unit
  | [] => pure ()
  | values :: batches => do
    answerLogind K n values
    answerBatches K n batches

/-! ### Reading in pieces -/

namespace Logind

variable {decode : Bytes → Text}

lemma parse_append (a : Bool) (xs ys : List Bytes) :
    parse decode a (xs ++ ys) =
      ((parse decode (parse decode a xs).1 ys).1,
        (parse decode a xs).2 ++ (parse decode (parse decode a xs).1 ys).2) := by
  induction xs generalizing a with
  | nil => simp [parse]
  | cons x xs ih => simp [parse, ih]

lemma cut_append (b c : Bytes) :
    cut (b ++ c) = ((cut b).1 ++ (cut ((cut b).2 ++ c)).1, (cut ((cut b).2 ++ c)).2) := by
  have h := splitOnP_append_last (q := (· == (10 : UInt8))) b c
  unfold cut
  refine Prod.ext ?_ ?_
  · simp only [h]
    rw [List.dropLast_append_of_ne_nil (List.splitOnP_ne_nil _ _)]
  · simp only [h]
    rw [List.getLast_append_of_ne_nil]

lemma feed_append (l : Logind) (b c : Bytes) :
    l.feed decode (b ++ c) =
      (((l.feed decode b).1.feed decode c).1,
        (l.feed decode b).2 ++ ((l.feed decode b).1.feed decode c).2) := by
  have h := cut_append (l.buffer ++ b) c
  rw [List.append_assoc] at h
  simp only [feed, h, parse_append]

lemma wait_of_monitor {l : Logind} (hl : l.monitor) (now : ℚ) {chunk : Bytes} (hc : chunk ≠ []) :
    l.wait decode now (some chunk) = l.feed decode chunk := by
  simp [wait, watch, hl, hc]

lemma wait_none {l : Logind} (hl : l.monitor) (now : ℚ) : l.wait decode now none = (l, []) := by
  simp [wait, watch, hl]

/-- Every wait but those that read nothing reads a piece of the stream. -/
lemma waits_eq {l : Logind} (hl : l.monitor) {ws : List (ℚ × Option Bytes)}
    (h : ∀ w ∈ ws, w.2 ≠ some []) :
    (stream ws = [] → (waits decode ws l).2.flatten = []) ∧
      (stream ws ≠ [] → (waits decode ws l).2.flatten = (l.feed decode (stream ws)).2) := by
  induction ws generalizing l with
  | nil => simp [waits, stream]
  | cons w ws ih =>
    obtain ⟨now, ready⟩ := w
    have h' : ∀ w ∈ ws, w.2 ≠ some [] := fun w hw => h w (by simp [hw])
    cases ready with
    | none =>
      have e : stream ((now, none) :: ws) = stream ws := by simp [stream]
      simp only [waits, wait_none hl, e, List.flatten_cons, List.nil_append]
      exact ih hl h'
    | some chunk =>
      -- A piece that was read is not empty, so the monitor is still there.
      have hc : chunk ≠ [] := fun e => h (now, some chunk) (by simp) (by simp [e])
      have e : stream ((now, some chunk) :: ws) = chunk ++ stream ws := by simp [stream]
      have hl' : (l.feed decode chunk).1.monitor := hl
      obtain ⟨h0, h1⟩ := ih hl' h'
      rw [e]
      simp only [waits, wait_of_monitor hl now hc, List.flatten_cons]
      refine ⟨fun e' => absurd (List.append_eq_nil_iff.1 e').1 hc, fun _ => ?_⟩
      by_cases hs : stream ws = []
      · rw [h0 hs, hs, List.append_nil, List.append_nil]
      · rw [h1 hs, feed_append]

lemma waits_congr {l : Logind} (hl : l.monitor) {ws vs : List (ℚ × Option Bytes)}
    (hw : ∀ w ∈ ws, w.2 ≠ some []) (hv : ∀ v ∈ vs, v.2 ≠ some []) (h : stream ws = stream vs) :
    (waits decode ws l).2.flatten = (waits decode vs l).2.flatten := by
  by_cases hs : stream ws = []
  · rw [(waits_eq hl hw).1 hs, (waits_eq hl hv).1 (h ▸ hs)]
  · rw [(waits_eq hl hw).2 hs, (waits_eq hl hv).2 (h ▸ hs), h]

end Logind

/-! ### Answering in batches -/

variable {κ : Type} {K : Kernel κ}

def Held (s : World (κ × Logind)) : Prop := s.kernel.2.lock

/-- What the last value says about lock and service: nothing else is remembered of the values. -/
def HeldAsAnnounced (last : Option Bool) (s : World (κ × Logind)) : Prop :=
  (Held s ↔ last ≠ some true) ∧ (last = some false → s.service.sleeping = false)

lemma answerAnnouncement_false (n : ℕ) (s : World (κ × Logind)) :
    wp Free Free (answerAnnouncement K.withLogind n false).1
      (fun _ t => t.log = s.log ∧ Held t ∧ t.service.sleeping = false) (fun _ _ => False) s :=
  fun _ => ⟨trivial, fun _ => ⟨trivial, List.append_nil _, rfl, rfl⟩⟩

lemma answerAnnouncement_true (n : ℕ) (s : World (κ × Logind)) :
    wp Free Free (answerAnnouncement K.withLogind n true).1 (fun _ t => ¬ Held t)
      (fun _ _ => True) s := by
  refine (wp_bind _ _).mpr (wp_mono (Q := fun _ _ => True) (E := fun _ _ => True) (fun _ t _ => ?_)
    (fun _ _ _ => trivial) ?_)
  · exact fun _ => ⟨trivial, Bool.false_ne_true⟩
  · exact (Vc.havoc _).sound ⟨trivial, fun _ _ => ⟨fun _ => trivial, fun _ => trivial⟩⟩

lemma answerLogind_eq (n : ℕ) (values : List Bool) :
    answerLogind K n values =
      (if values.contains false then answerAnnouncement K n false else pure ()) >>= fun _ =>
        if values.getLast? = some true then answerAnnouncement K n true else pure () := by
  unfold answerLogind
  split_ifs <;> rfl

lemma answerLogind_post (n : ℕ) (values : List Bool) (s : World (κ × Logind)) :
    wp Free Free (if values.contains false then answerAnnouncement K.withLogind n false
        else pure () : SleepProg (κ × Logind) Unit).1
      (fun _ t => t.log = s.log ∧ (false ∈ values → Held t ∧ t.service.sleeping = false) ∧
        (false ∉ values → t = s))
      (fun _ _ => False) s := by
  by_cases h : false ∈ values
  · rw [if_pos (by simpa using h)]
    exact wp_mono (fun _ u hu => ⟨hu.1, fun _ => hu.2, fun hn => absurd h hn⟩) (fun _ _ h => h)
      (answerAnnouncement_false n s)
  · rw [if_neg (by simpa using h)]
    exact ⟨rfl, fun h' => absurd h' h, fun _ => rfl⟩

lemma answerLogind_answered (n : ℕ) {last : Option Bool} (values : List Bool)
    {s : World (κ × Logind)} (hs : HeldAsAnnounced last s) :
    wp Free Free (answerLogind K.withLogind n values).1
      (fun _ => HeldAsAnnounced (values.getLast?.or last)) (fun _ _ => True) s := by
  rw [answerLogind_eq]
  refine (wp_bind _ _).mpr (wp_mono (fun _ t ht => ?_) (fun _ _ h => h.elim)
    (answerLogind_post n values s))
  obtain ⟨-, hpost, hsame⟩ := ht
  cases hl : values.getLast? with
  | none =>
    -- nothing announced, nothing done
    have hv : values = [] := List.getLast?_eq_none_iff.1 hl
    rw [if_neg (by simp), hsame (by simp [hv])]
    exact hs
  | some v =>
    cases v with
    | true =>
      rw [if_pos rfl]
      exact wp_mono (fun _ u hu => ⟨by simp [hu], by simp⟩) (fun _ _ h => h)
        (answerAnnouncement_true n t)
    | false =>
      obtain ⟨hh, hw⟩ := hpost (List.mem_of_getLast? hl)
      rw [if_neg (by simp)]
      exact ⟨by simp [hh], fun _ => hw⟩

lemma answerBatches_answered (n : ℕ) {last : Option Bool} (batches : List (List Bool))
    {s : World (κ × Logind)} (hs : HeldAsAnnounced last s) :
    wp Free Free (answerBatches K.withLogind n batches).1
      (fun _ => HeldAsAnnounced (batches.flatten.getLast?.or last)) (fun _ _ => True) s := by
  induction batches generalizing last s with
  | nil => exact hs
  | cons values batches ih =>
    refine (wp_bind _ _).mpr (wp_mono (fun _ t ht => ?_) (fun _ _ h => h)
      (answerLogind_answered n values hs))
    rw [List.flatten_cons, List.getLast?_append, Option.or_assoc]
    exact ih ht

/-! ### When a `'pre'` is performed -/

abbrev SomethingAsked (s t : World κ) : Prop := Happened (fun _ => True) s t

lemma sleepRequest_pre_looked (n : ℕ) (s : World κ) :
    wp Free Free (sleepRequest K n .pre true).1 (fun _ => SomethingAsked s)
      (fun _ => SomethingAsked s) s := by
  refine (wp_tryCatch _ _).mpr (wp_mono (fun _ _ h => h)
    (fun e t h => wp_happened h (answerExn K true e)) ?_)
  have hpre : wp Free Free (sleepPre K n true).1 (fun _ => SomethingAsked s)
      (fun _ => SomethingAsked s) s :=
    (wp_bind _ _).mpr ((wp_mapError Exn.fault (ask K .clock).1).mpr
      (wp_mono (fun now t h => wp_happened h (do
        quietForSleep K n (now + sleepBudget) true n
        assign fun s => { s with sleeping := true }
        let now ← ask K .clock
        assign fun s => { s with sleepStarted := now })) (fun _ _ h => h)
        (wp_ask_happened fun r => ⟨_, rfl, trivial⟩)))
  exact (wp_bind _ _).mpr ((wp_bind _ _).mpr
    (wp_mono (fun _ _ h => wp_happened h sleepOk) (fun _ _ h => h) hpre))

lemma answerLogind_looked (n : ℕ) (values : List Bool) (s : World (κ × Logind)) :
    SomethingAsked s (final s ((answerLogind K.withLogind n values).1 s).trace) ↔
      values.getLast? = some true := by
  rw [answerLogind_eq]
  by_cases h : values.getLast? = some true
  · refine iff_of_true (final_of_wp ((wp_bind _ _).mpr (wp_mono (fun _ t ht => ?_)
      (fun _ _ h => h.elim) (answerLogind_post n values s)))) h
    have hg : ∀ u, SomethingAsked t u → SomethingAsked s u := fun u hu => by
      rw [SomethingAsked, Happened, ht.1] at hu
      exact hu
    rw [if_pos h]
    exact (wp_bind _ _).mpr (wp_mono (fun _ u hu => wp_happened (hg u hu)
      (liftM (ask K.withLogind .releaseLock) : SleepProg (κ × Logind) Unit))
      (fun _ u hu => hg u hu) (sleepRequest_pre_looked n t))
  · refine iff_of_false (final_of_wp (P := fun t => ¬ SomethingAsked s t) ((wp_bind _ _).mpr
      (wp_mono (fun _ t ht => ?_) (fun _ _ h => h.elim) (answerLogind_post n values s)))) h
    rw [if_neg h]
    rintro ⟨es, hes, e, he, -⟩
    rw [ht.1, List.self_eq_append_right] at hes
    rw [hes] at he
    cases he

/-- The announced values do not depend on how the monitor's output is cut, and the lock is held
from the start of the monitor on. However the values are batched, the last one decides about the
lock and, if it is a resume, leaves the service awake; and only a batch that ends with a sleep
performs a `'pre'`, the only request that looks at the kernel or the clock. -/
theorem announcements_answered (K : Kernel κ) (decode : Bytes → Text) (n : ℕ) :
    (∀ (l : Logind) (ws vs : List (ℚ × Option Bytes)), l.monitor →
      (∀ w ∈ ws, w.2 ≠ some []) → (∀ v ∈ vs, v.2 ≠ some []) →
      Logind.stream ws = Logind.stream vs →
      (Logind.waits decode ws l).2.flatten = (Logind.waits decode vs l).2.flatten) ∧
    (∀ (l : Logind) (now : ℚ), ¬ l.monitor → (l.watch now).2 → (l.watch now).1.lock) ∧
    (∀ (batches : List (List Bool)) (s : World (κ × Logind)), Held s →
      ((answerBatches K.withLogind n batches).1 s).res = .ok () →
      let t := final s ((answerBatches K.withLogind n batches).1 s).trace
      (Held t ↔ batches.flatten.getLast? ≠ some true) ∧
        (batches.flatten.getLast? = some false → t.service.sleeping = false)) ∧
    ∀ (values : List Bool) (s : World (κ × Logind)),
      SomethingAsked s (final s ((answerLogind K.withLogind n values).1 s).trace) ↔
        values.getLast? = some true := by
  refine ⟨fun l ws vs hl hw hv h => Logind.waits_congr hl hw hv h, fun l now hl hw => ?_,
    fun batches s hs hr => ?_, fun values s => answerLogind_looked n values s⟩
  · unfold Logind.watch at hw ⊢
    rw [if_neg hl] at hw ⊢
    by_cases hn : now < l.close.retryAt
    · rw [if_pos hn] at hw
      cases hw
    · rw [if_neg hn]
      rfl
  · have h0 : HeldAsAnnounced none s := ⟨by simp [hs], by simp⟩
    have h := (Follow.along (answerBatches_answered (K := K) n batches h0) (along_true s _)).2
    rw [hr, Option.or_none] at h
    exact h

/-- A kernel that has a clock and is otherwise out of order. -/
def clockOnly : Kernel Unit where
  answer q _ :=
    match q with
    | .clock => (.ok 0, ())
    | _ => (.error .crash, ())
  int _ := none
  isdecimal _ := false
  stop_checks q k f h hf := by
    cases q <;> cases h <;> cases hf

def asciiText (b : Bytes) : Text := b.map fun c => Char.ofNat c.toNat

def announced (value : Text) : Bytes :=
  ("signal ".toList ++ Logind.announcement ++ "\n   ".toList ++ value ++ ['\n']).map fun c =>
    UInt8.ofNat c.toNat

/-- A sleep and its resume, read in two pieces or in four, and answered in two batches. -/
theorem announcements_answered_resume :
    let s : World (Unit × Logind) := { kernel := ((), { monitor := true, lock := true }) }
    let t := final s ((answerBatches clockOnly.withLogind 1 [[true], [false]]).1 s).trace
    let sleep := announced "boolean true".toList
    let resume := announced "boolean false".toList
    let pieces := [(0, some sleep), (0, some resume)]
    let smaller := [(0, some (sleep.take 9)), (0, some (sleep.drop 9 ++ resume.take 80)), (0, none),
      (0, some (resume.drop 80))]
    Held t ∧ t.service.sleeping = false ∧
      (Logind.waits asciiText pieces { monitor := true }).2 = [[true], [false]] ∧
      (Logind.waits asciiText smaller { monitor := true }).2.flatten =
        (Logind.waits asciiText pieces { monitor := true }).2.flatten ∧
      (Logind.watch 0 {}).1.lock = true := by
  intro s t sleep resume pieces smaller
  obtain ⟨hcut, hwatch, hbatch, -⟩ := announcements_answered clockOnly asciiText 1
  have h := hbatch [[true], [false]] s rfl rfl
  refine ⟨h.1.2 (by decide), h.2 (by decide), by decide +kernel, ?_,
    hwatch {} 0 (by decide) (by decide +kernel)⟩
  exact hcut _ _ _ rfl (by decide +kernel) (by decide +kernel) (by decide +kernel)

end YogaUsb4.Daemon
