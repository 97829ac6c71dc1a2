import YogaUsb4.Dialog
import YogaUsb4.Steps
import Mathlib.Algebra.Order.Field.Rat
import Mathlib.Tactic.Linarith
import Mathlib.Tactic.NormNum

/-!
The guard before an unmount: it looks for foreign mounts again and again until they are gone or the
time is up. The scan, the clock and the report are callbacks; time is exact here.
-/

namespace YogaUsb4.EjectGuard

open Dialog

variable {C D : Type}

/-! ### The code -/

/-- An entry of the history: when a scan found something else than the one before. -/
structure Observation (D : Type) where
  elapsedSeconds : ℚ
  conflicts : List D

/-- What the report is called with, apart from its constant fields. -/
structure Report (C D : Type) where
  scans : ℕ
  elapsedSeconds : ℚ
  cleared : Bool
  finalConflicts : List C
  observations : List (Observation D)

inductive Call (C D : Type) where
  | scan (allowInherited : Bool)
  | clock
  | sleep (seconds : ℚ)
  | describe (conflicts : List C)
  | report (value : Report C D)

/-- An answer; each call reads its own part of it. -/
structure Reply (C D : Type) where
  conflicts : List C := []
  time : ℚ := 0
  described : List D := []

/-- `WAIT_SECONDS`, `INTERVAL` and `MAX_SCANS`. -/
def waitSeconds : ℚ := 45
def interval : ℚ := 1 / 4
def maxScans : ℕ := 181

example : maxScans = (waitSeconds / interval).floor + 1 := by decide +kernel

/-- The local variables of `settle` in its loop. -/
structure Loop (C D : Type) where
  history : List (Observation D) := []
  previous : Option (List C) := none
  conflicts : List C := []
  number : ℕ := 0

/-- A conversation with the callbacks. -/
abbrev Talk (C D α : Type) := Dialog (Call C D) (Reply C D) α

section Code

variable [DecidableEq C]

/-- The first part of a round: the scan, and an entry if it found something else. -/
def look (start : ℚ) (number : ℕ) (s : Loop C D) : Talk C D (Loop C D) := do
  let found ← ask (.scan true)
  let s := { s with conflicts := found.conflicts, number := number }
  if some s.conflicts ≠ s.previous then
    let now ← ask .clock
    let entry ← ask (.describe s.conflicts)
    return { s with history := s.history ++ [⟨now.time - start, entry.described⟩]
                    previous := some s.conflicts }
  else return s

/-- The loop of `settle`, over the numbers of the rounds that are left. -/
def rounds (start deadline : ℚ) : List ℕ → Loop C D → Talk C D (Loop C D)
  | [], s => return s
  | number :: rest, s => do
    let s ← look start number s
    if s.conflicts = [] then return s
    let now ← ask .clock
    if deadline ≤ now.time then return s
    let now ← ask .clock
    let _ ← ask (.sleep (min interval (max 0 (deadline - now.time))))
    rounds start deadline rest s

/-- The end of `settle`; `given` says whether there is a report. -/
def finish (given : Bool) (start : ℚ) (s : Loop C D) : Talk C D (List C) := do
  if (∃ item ∈ s.history, item.conflicts ≠ []) ∧ given then
    let now ← ask .clock
    let _ ← ask (.report { scans := s.number + 1, elapsedSeconds := now.time - start
                           cleared := s.conflicts.isEmpty, finalConflicts := s.conflicts
                           observations := s.history })
  return s.conflicts

def settle (allowInherited given : Bool) : Talk C D (List C) := do
  -- the callers after the unmount keep one original strict scan
  if !allowInherited then
    let found ← ask (.scan false)
    return found.conflicts
  let start ← ask .clock
  let s ← rounds start.time (start.time + waitSeconds) (List.range maxScans) {}
  finish given start.time s

end Code

/-! ### The conversation -/

abbrev Trace (C D : Type) := List (Call C D × Reply C D)

/-- The parts of a conversation: what the scans found, the sleeps that were requested, the reports
that were made. -/
def scans (tr : Trace C D) : List (List C) :=
  tr.filterMap fun | (.scan _, r) => some r.conflicts | _ => none
def sleeps (tr : Trace C D) : List ℚ :=
  tr.filterMap fun | (.sleep d, _) => some d | _ => none
def reports (tr : Trace C D) : List (Report C D) :=
  tr.filterMap fun | (.report v, _) => some v | _ => none

/-- The clock shows no less than this, and from then on never goes back and advances at least by
each requested sleep. -/
def Steady : ℚ → Trace C D → Prop
  | _, [] => True
  | low, (.clock, r) :: tr => low ≤ r.time ∧ Steady r.time tr
  | low, (.sleep d, _) :: tr => Steady (low + d) tr
  | low, _ :: tr => Steady low tr

def ScansAfterSleep (tr : Trace C D) : Prop :=
  ∀ x u, x :: u <:+ tr → sleeps [x] ≠ [] → scans u ≠ []

/-- After the last scan, the clock has reached the deadline. -/
def Late (deadline : ℚ) (tr : Trace C D) : Prop :=
  ∃ now u, (.clock, now) :: u <:+ tr ∧ scans u = [] ∧ deadline ≤ now.time

/-- The entries of the history are empty exactly for empty scans. -/
def Describes (tr : Trace C D) : Prop :=
  ∀ c r, (.describe c, r) ∈ tr → (r.described = [] ↔ c = [])

/-- All that the settling mode is to do, in a conversation that ends with a result. -/
structure Settles (given : Bool) (tr : Trace C D) (result : List C) : Prop where
  scans_le : (scans tr).length ≤ 181
  sleeps_le : (sleeps tr).sum ≤ 45
  /-- Each scan but the last found something, and the last is the result. -/
  scans_eq : ∃ l, scans tr = l ++ [result] ∧ ∀ c ∈ l, c ≠ []
  scansAfterSleep : ScansAfterSleep tr
  late : result ≠ [] → ∃ start u, tr = (.clock, start) :: u ∧ Late (start.time + 45) u
  reported : Describes tr → given = true → (∃ c ∈ scans tr, c ≠ []) → ∃ r, reports tr = [r]
  not_reported : Describes tr → (given = false ∨ ∀ c ∈ scans tr, c = []) → reports tr = []
  cleared : ∀ r ∈ reports tr, (r.cleared = true ↔ result = [])

/-! ### One round -/

variable {start deadline low : ℚ} {number : ℕ} {s s' : Loop C D} {tr t u : Trace C D}

inductive Looked (start : ℚ) (number : ℕ) (s : Loop C D) : Trace C D → Loop C D → Prop
  | same {found : Reply C D} (h : s.previous = some found.conflicts) :
      Looked start number s [(.scan true, found)]
        { s with conflicts := found.conflicts, number := number }
  | new {found now entry : Reply C D} :
      Looked start number s
        [(.scan true, found), (.clock, now), (.describe found.conflicts, entry)]
        { history := s.history ++ [⟨now.time - start, entry.described⟩]
          previous := some found.conflicts, conflicts := found.conflicts, number := number }

lemma looked_of_does [DecidableEq C] (h : Does (look start number s) tr s') :
    Looked start number s tr s' := by
  obtain ⟨found, u, rfl, hfound⟩ := does_ask_bind.1 h
  dsimp only at hfound
  split at hfound
  · obtain ⟨now, u', rfl, hnow⟩ := does_ask_bind.1 hfound
    obtain ⟨entry, u'', rfl, hend⟩ := does_ask_bind.1 hnow
    obtain ⟨rfl, rfl⟩ := does_pure.1 hend
    exact .new
  · rename_i hsame
    obtain ⟨rfl, rfl⟩ := does_pure.1 hfound
    exact .same (not_not.1 hsame).symm

/-- The ways through the loop. -/
inductive Course (start deadline : ℚ) : List ℕ → Loop C D → Trace C D → Loop C D → Prop
  | spent {s : Loop C D} : Course start deadline [] s [] s
  | clear {number : ℕ} {rest : List ℕ} {s s' : Loop C D} {t : Trace C D}
      (hlook : Looked start number s t s') (hempty : s'.conflicts = []) :
      Course start deadline (number :: rest) s t s'
  | late {number : ℕ} {rest : List ℕ} {s s' : Loop C D} {t : Trace C D} {now : Reply C D}
      (hlook : Looked start number s t s') (hsome : s'.conflicts ≠ [])
      (hlate : deadline ≤ now.time) :
      Course start deadline (number :: rest) s (t ++ [(.clock, now)]) s'
  | again {number : ℕ} {rest : List ℕ} {s s₁ s' : Loop C D} {t u : Trace C D}
      {now now' slept : Reply C D} (hlook : Looked start number s t s₁) (hsome : s₁.conflicts ≠ [])
      (hearly : now.time < deadline) (hrest : Course start deadline rest s₁ u s') :
      Course start deadline (number :: rest) s
        (t ++ (.clock, now) :: (.clock, now') ::
          (.sleep (min interval (max 0 (deadline - now'.time))), slept) :: u) s'

lemma course_of_does [DecidableEq C] {ns : List ℕ}
    (h : Does (rounds start deadline ns s) tr s') : Course start deadline ns s tr s' := by
  induction ns generalizing s tr with
  | nil =>
    obtain ⟨rfl, rfl⟩ := does_pure.1 h
    exact .spent
  | cons number rest ih =>
    obtain ⟨t, s₁, u, rfl, hlook, hlooked⟩ := does_bind.1 h
    have hlook := looked_of_does hlook
    split at hlooked
    · obtain ⟨rfl, rfl⟩ := does_pure.1 hlooked
      rw [List.append_nil]
      exact .clear hlook ‹_›
    · rename_i hsome
      obtain ⟨now, u', rfl, hnow⟩ := does_ask_bind.1 hlooked
      split at hnow
      · obtain ⟨rfl, rfl⟩ := does_pure.1 hnow
        exact .late hlook hsome ‹_›
      · rename_i hearly
        obtain ⟨now', u'', rfl, hnow'⟩ := does_ask_bind.1 hnow
        obtain ⟨slept, v, rfl, hrest⟩ := does_ask_bind.1 hnow'
        exact .again hlook hsome (not_le.1 hearly) (ih hrest)

/-! ### The scans -/

section Parts

variable {r : Reply C D} {d : ℚ}

@[simp] lemma scans_nil : scans ([] : Trace C D) = [] := rfl
@[simp] lemma scans_append : scans (t ++ u) = scans t ++ scans u := List.filterMap_append
@[simp] lemma scans_clock : scans ((.clock, r) :: u) = scans u := rfl
@[simp] lemma scans_sleep : scans ((.sleep d, r) :: u) = scans u := rfl

@[simp] lemma sleeps_nil : sleeps ([] : Trace C D) = [] := rfl
@[simp] lemma sleeps_append : sleeps (t ++ u) = sleeps t ++ sleeps u := List.filterMap_append
@[simp] lemma sleeps_clock : sleeps ((.clock, r) :: u) = sleeps u := rfl
@[simp] lemma sleeps_sleep : sleeps ((.sleep d, r) :: u) = d :: sleeps u := rfl

@[simp] lemma reports_nil : reports ([] : Trace C D) = [] := rfl
@[simp] lemma reports_append : reports (t ++ u) = reports t ++ reports u := List.filterMap_append
@[simp] lemma reports_clock : reports ((.clock, r) :: u) = reports u := rfl
@[simp] lemma reports_sleep : reports ((.sleep d, r) :: u) = reports u := rfl

end Parts

lemma Looked.scans_eq (h : Looked start number s tr s') : scans tr = [s'.conflicts] := by
  cases h <;> rfl

lemma Looked.sleeps_eq (h : Looked start number s tr s') : sleeps tr = [] := by
  cases h <;> rfl

lemma Looked.reports_eq (h : Looked start number s tr s') : reports tr = [] := by
  cases h <;> rfl

variable {ns : List ℕ}

lemma Course.length_scans_le (h : Course start deadline ns s tr s') :
    (scans tr).length ≤ ns.length := by
  induction h with
  | spent => exact le_rfl
  | clear hlook => simp [hlook.scans_eq]
  | late hlook => simp [hlook.scans_eq]
  | again hlook _ _ _ ih => simpa [hlook.scans_eq] using ih

lemma Course.reports_eq (h : Course start deadline ns s tr s') : reports tr = [] := by
  induction h with
  | spent => rfl
  | clear hlook => exact hlook.reports_eq
  | late hlook => simp [hlook.reports_eq]
  | again hlook _ _ _ ih => simpa [hlook.reports_eq] using ih

lemma Course.scans_eq (h : Course start deadline ns s tr s') (hne : ns ≠ []) :
    ∃ l, scans tr = l ++ [s'.conflicts] ∧ ∀ c ∈ l, c ≠ [] := by
  induction h with
  | spent => exact absurd rfl hne
  | clear hlook => exact ⟨[], hlook.scans_eq, fun _ hc => absurd hc List.not_mem_nil⟩
  | late hlook =>
    exact ⟨[], by simp [hlook.scans_eq], fun _ hc => absurd hc List.not_mem_nil⟩
  | @again _ rest _ s₁ _ _ _ _ _ _ hlook hsome _ hrest ih =>
    -- The last round that may sleep is followed by no scan.
    by_cases hlast : rest = []
    · subst hlast
      cases hrest
      exact ⟨[], by simp [hlook.scans_eq], fun _ hc => absurd hc List.not_mem_nil⟩
    · obtain ⟨l, hl, hall⟩ := ih hlast
      exact ⟨s₁.conflicts :: l, by simp [hlook.scans_eq, hl], List.forall_mem_cons.2 ⟨hsome, hall⟩⟩

/-! ### The clock -/

lemma Steady.left (h : Steady low (t ++ u)) : Steady low t := by
  induction t generalizing low with
  | nil => trivial
  | cons x t ih =>
    obtain ⟨q, r⟩ := x
    cases q with
    | clock => exact ⟨h.1, ih h.2⟩
    | sleep d => exact @ih (low + d) h
    | scan _ | describe _ | report _ => exact @ih low h

lemma Looked.steady (h : Looked start number s t s') (hs : Steady low (t ++ u)) :
    ∃ low' ≥ low, Steady low' u := by
  cases h with
  | same => exact ⟨low, le_rfl, hs⟩
  | new => exact ⟨_, hs.1, hs.2⟩

lemma Looked.steady_sleep {now now' slept : Reply C D} {d : ℚ} (h : Looked start number s t s')
    (hs : Steady low (t ++ (.clock, now) :: (.clock, now') :: (.sleep d, slept) :: u)) :
    low ≤ now.time ∧ now.time ≤ now'.time ∧ Steady (now'.time + d) u := by
  obtain ⟨low', hlow, hnow, hnow', hu⟩ := h.steady hs
  exact ⟨hlow.trans hnow, hnow', hu⟩

lemma Course.sum_sleeps_le (h : Course start deadline ns s tr s') (hs : Steady low tr) :
    (sleeps tr).sum ≤ max 0 (deadline - low) := by
  induction h generalizing low with
  | spent => exact le_max_left _ _
  | clear hlook => simp [hlook.sleeps_eq]
  | late hlook => simp [hlook.sleeps_eq]
  | again hlook _ _ _ ih =>
    obtain ⟨hnow, hnow', hu⟩ := hlook.steady_sleep hs
    -- What is slept here brings the clock as much closer to the deadline.
    have hrest := ih hu
    simp only [sleeps_append, hlook.sleeps_eq, sleeps_clock, sleeps_sleep, List.nil_append,
      List.sum_cons]
    grind

lemma scansAfterSleep_nil : ScansAfterSleep ([] : Trace C D) :=
  fun _ _ h => absurd (List.suffix_nil.1 h) (List.cons_ne_nil _ _)

lemma scansAfterSleep_cons {x : Call C D × Reply C D} : ScansAfterSleep (x :: u) ↔
    (sleeps [x] ≠ [] → scans u ≠ []) ∧ ScansAfterSleep u :=
  Steps.forall_suffix_cons

lemma ScansAfterSleep.append_left (ht : sleeps t = []) (hu : ScansAfterSleep u) :
    ScansAfterSleep (t ++ u) := by
  induction t with
  | nil => exact hu
  | cons x t ih =>
    obtain ⟨hx, ht⟩ := List.append_eq_nil_iff.1 (sleeps_append (t := [x]) ▸ ht)
    exact scansAfterSleep_cons.2 ⟨fun h => absurd hx h, ih ht⟩

lemma ScansAfterSleep.append_right (ht : ScansAfterSleep t) (hu : sleeps u = []) :
    ScansAfterSleep (t ++ u) := by
  induction t with
  | nil => simpa using append_left hu scansAfterSleep_nil
  | cons x t ih =>
    obtain ⟨hx, ht⟩ := scansAfterSleep_cons.1 ht
    refine scansAfterSleep_cons.2 ⟨fun h => ?_, ih ht⟩
    simp [hx h]

lemma Late.append_left (h : Late deadline u) : Late deadline (t ++ u) := by
  obtain ⟨now, v, hv, hscans, hlate⟩ := h
  exact ⟨now, v, hv.trans (List.suffix_append t u), hscans, hlate⟩

lemma Late.append_right (h : Late deadline t) (hu : scans u = []) : Late deadline (t ++ u) := by
  obtain ⟨now, v, ⟨w, rfl⟩, hscans, hlate⟩ := h
  exact ⟨now, v ++ u, ⟨w, by simp⟩, by simp [hscans, hu], hlate⟩

/-- With one round left for each interval up to the deadline, the loop does not run out of rounds:
it never ends with a sleep, and a result that is not empty is from after the deadline. -/
lemma Course.ends (h : Course start deadline ns s tr s') (hne : ns ≠ []) (hs : Steady low tr)
    (hleft : deadline + interval ≤ low + ns.length * interval) :
    ScansAfterSleep tr ∧ (s'.conflicts ≠ [] → Late deadline tr) := by
  induction h generalizing low with
  | spent => exact absurd rfl hne
  | clear hlook hempty =>
    refine ⟨?_, fun hsome => absurd hempty hsome⟩
    simpa using ScansAfterSleep.append_left hlook.sleeps_eq scansAfterSleep_nil
  | @late _ _ _ _ _ now hlook hsome hlate =>
    constructor
    · exact .append_left hlook.sleeps_eq (scansAfterSleep_cons.2 ⟨by simp, scansAfterSleep_nil⟩)
    · exact fun _ => Late.append_left ⟨now, [], List.suffix_rfl, rfl, hlate⟩
  | @again _ rest _ _ _ _ u now now' slept hlook hsome hearly hrest ih =>
    obtain ⟨hnow, hnow', hu⟩ := hlook.steady_sleep hs
    simp only [List.length_cons, Nat.cast_add, Nat.cast_one] at hleft
    -- with no further round, the deadline would have been reached
    have hmore : rest ≠ [] := by
      rintro rfl
      simp only [List.length_nil, Nat.cast_zero] at hleft
      linarith
    have hone : (1 : ℚ) ≤ rest.length := by
      exact_mod_cast List.length_pos_iff.2 hmore
    -- the sleep takes a whole interval off, or all that is left
    have hleft' : deadline + interval ≤
        now'.time + min interval (max 0 (deadline - now'.time)) + rest.length * interval := by
      unfold interval at hleft ⊢
      rcases le_total (1 / 4 : ℚ) (max 0 (deadline - now'.time)) with hd | hd
      · rw [min_eq_left hd]
        linarith
      · rw [min_eq_right hd]
        have := le_max_right 0 (deadline - now'.time)
        linarith
    obtain ⟨hafter, hlate⟩ := ih hmore hu hleft'
    obtain ⟨l, hl, -⟩ := hrest.scans_eq hmore
    constructor
    · refine .append_left hlook.sleeps_eq ?_
      refine scansAfterSleep_cons.2 ⟨by simp, scansAfterSleep_cons.2 ⟨by simp, ?_⟩⟩
      exact scansAfterSleep_cons.2 ⟨fun _ => by simp [hl], hafter⟩
    · intro hsome'
      exact Late.append_left (Late.append_left (t := [_, _, _]) (hlate hsome'))

/-! ### The report -/

lemma Looked.history_prefix (h : Looked start number s tr s') : s.history <+: s'.history := by
  cases h with
  | same => exact List.prefix_rfl
  | new => exact List.prefix_append _ _

lemma Course.history_prefix (h : Course start deadline ns s tr s') : s.history <+: s'.history := by
  induction h with
  | spent => exact List.prefix_rfl
  | clear hlook | late hlook => exact hlook.history_prefix
  | again hlook _ _ _ ih => exact hlook.history_prefix.trans ih

lemma Describes.left (h : Describes (t ++ u)) : Describes t :=
  fun c r hr => h c r (List.mem_append_left u hr)

lemma Looked.first (h : Looked start number s tr s') (hp : s.previous = none)
    (hh : s.history = []) (hd : Describes tr) :
    ∃ item, s'.history = [item] ∧ (item.conflicts = [] ↔ s'.conflicts = []) := by
  cases h with
  | same hsame => cases hp.symm.trans hsame
  | @new found now entry => exact ⟨_, by rw [hh]; rfl, hd found.conflicts entry (by simp)⟩

lemma Course.history_iff (h : Course start deadline ns s tr s') (hne : ns ≠ [])
    (hp : s.previous = none) (hh : s.history = []) (hd : Describes tr) :
    (∃ item ∈ s'.history, item.conflicts ≠ []) ↔ ∃ c ∈ scans tr, c ≠ [] := by
  cases h with
  | spent => exact absurd rfl hne
  | clear hlook hempty =>
    obtain ⟨item, hitem, hiff⟩ := hlook.first hp hh hd
    simp [hitem, hiff, hlook.scans_eq]
  | late hlook hsome =>
    obtain ⟨item, hitem, hiff⟩ := hlook.first hp hh hd.left
    simp [hitem, hiff, hlook.scans_eq]
  | again hlook hsome hearly hrest =>
    obtain ⟨item, hitem, hiff⟩ := hlook.first hp hh hd.left
    have hkept : item ∈ s'.history := hrest.history_prefix.subset (by simp [hitem])
    exact iff_of_true ⟨item, hkept, hiff.not.2 hsome⟩ ⟨_, by simp [hlook.scans_eq], hsome⟩

/-- What `settle` does after the loop. -/
inductive Finished (given : Bool) (s : Loop C D) : Trace C D → Prop
  | quiet (h : ¬ ((∃ item ∈ s.history, item.conflicts ≠ []) ∧ given = true)) : Finished given s []
  | reported {now sent : Reply C D} {r : Report C D}
      (h : (∃ item ∈ s.history, item.conflicts ≠ []) ∧ given = true)
      (hr : r.cleared = s.conflicts.isEmpty) :
      Finished given s [(.clock, now), (.report r, sent)]

lemma finished_of_does {given : Bool} {result : List C}
    (h : Does (finish given start s) tr result) : result = s.conflicts ∧ Finished given s tr := by
  unfold finish at h
  split at h
  · rename_i hreport
    obtain ⟨now, u, rfl, hnow⟩ := does_ask_bind.1 h
    obtain ⟨sent, v, rfl, hend⟩ := does_ask_bind.1 hnow
    obtain ⟨rfl, rfl⟩ := does_pure.1 hend
    exact ⟨rfl, .reported hreport rfl⟩
  · rename_i hquiet
    obtain ⟨rfl, rfl⟩ := does_pure.1 h
    exact ⟨rfl, .quiet hquiet⟩

lemma Finished.scans_eq {given : Bool} (h : Finished given s tr) : scans tr = [] := by
  cases h <;> rfl

lemma Finished.sleeps_eq {given : Bool} (h : Finished given s tr) : sleeps tr = [] := by
  cases h <;> rfl

/-! ### The whole -/

lemma deadline_le (start : ℚ) :
    start + waitSeconds + interval ≤ start + (List.range maxScans).length * interval := by
  have h : waitSeconds + interval = (List.range maxScans).length * interval := by
    rw [List.length_range]
    norm_num [waitSeconds, interval, maxScans]
  rw [add_assoc, h]

lemma settles_of_does [DecidableEq C] {given : Bool} {result : List C}
    (h : Does (settle true given) tr result) (hs : Steady low tr) : Settles given tr result := by
  obtain ⟨start, u, rfl, hstart⟩ := does_ask_bind.1 h
  obtain ⟨t, s, v, rfl, hloop, hfinish⟩ := does_bind.1 hstart
  have hcourse := course_of_does hloop
  obtain ⟨rfl, hfin⟩ := finished_of_does hfinish
  have hsteady : Steady start.time t := hs.2.left
  have hne : List.range maxScans ≠ [] := by decide
  -- All scans and sleeps are in the loop, all reports behind it.
  have hscans : scans ((.clock, start) :: (t ++ v)) = scans t := by simp [hfin.scans_eq]
  have hsleeps : sleeps ((.clock, start) :: (t ++ v)) = sleeps t := by simp [hfin.sleeps_eq]
  have hreports : reports ((.clock, start) :: (t ++ v)) = reports v := by simp [hcourse.reports_eq]
  obtain ⟨hafter, hlate⟩ := hcourse.ends hne hsteady (deadline_le start.time)
  have hhistory : Describes ((.clock, start) :: (t ++ v)) →
      ((∃ item ∈ s.history, item.conflicts ≠ []) ↔ ∃ c ∈ scans t, c ≠ []) := fun hd =>
    hcourse.history_iff hne rfl rfl fun c r hr =>
      hd c r (List.mem_cons_of_mem _ (List.mem_append_left v hr))
  constructor
  · rw [hscans]
    exact hcourse.length_scans_le
  · rw [hsleeps]
    refine (hcourse.sum_sleeps_le hsteady).trans ?_
    norm_num [waitSeconds]
  · rw [hscans]
    exact hcourse.scans_eq hne
  · exact scansAfterSleep_cons.2 ⟨by simp, hafter.append_right hfin.sleeps_eq⟩
  · exact fun hsome => ⟨start, t ++ v, rfl, (hlate hsome).append_right hfin.scans_eq⟩
  · intro hd hgiven hsome
    rw [hscans] at hsome
    rw [hreports]
    cases hfin with
    | quiet hquiet => exact absurd ⟨(hhistory hd).2 hsome, hgiven⟩ hquiet
    | reported => exact ⟨_, rfl⟩
  · intro hd hnone
    rw [hscans] at hnone
    rw [hreports]
    cases hfin with
    | quiet => rfl
    | reported hreport =>
      obtain ⟨c, hc, hsome⟩ := (hhistory hd).1 hreport.1
      rcases hnone with hgiven | hempty
      · exact absurd (hgiven.symm.trans hreport.2) Bool.false_ne_true
      · exact absurd (hempty c hc) hsome
  · intro r hr
    rw [hreports] at hr
    cases hfin with
    | quiet => exact absurd hr List.not_mem_nil
    | reported _ hcleared =>
      obtain rfl := List.mem_singleton.1 hr
      rw [hcleared, List.isEmpty_iff]

/-- With every callback: the settling mode settles if the clock is steady, and the strict mode makes
one scan, returns its result and does nothing else. -/
theorem settle_settles [DecidableEq C] (given : Bool) (past : Trace C D)
    (answer : Trace C D → Call C D → Reply C D) :
    let settling := (settle true given).run answer past
    let strict := (settle false given).run answer past
    ((∃ low, Steady low settling.1) → Settles given settling.1 settling.2) ∧
      ∃ found, strict = ([(.scan false, found)], found.conflicts) := by
  intro settling strict
  refine ⟨?_, answer past (.scan false), rfl⟩
  rintro ⟨low, hs⟩
  exact settles_of_does (run_does answer past (settle true given)) hs

/-- Callbacks that find no conflicts, but describe even that. -/
def describesNothing (_ : Trace Unit Unit) (_ : Call Unit Unit) : Reply Unit Unit where
  described := [()]

/-- There is a report although no scan found anything; of a scan that did, the description would
not be empty. -/
theorem settle_reports_empty :
    let tr := ((settle true true).run describesNothing []).1
    Steady 0 tr ∧ (∀ c r, (.describe c, r) ∈ tr → c ≠ [] → r.described ≠ []) ∧
      scans tr = [[]] ∧ (reports tr).length = 1 := by
  refine ⟨?_, ?_, rfl, rfl⟩
  · exact ⟨le_rfl, le_rfl, le_rfl, trivial⟩
  · intro c r h _
    obtain ⟨now, hr⟩ := run_reply describesNothing [] (settle true true) _ h
    simp only at hr
    simp [hr, describesNothing]

end YogaUsb4.EjectGuard
