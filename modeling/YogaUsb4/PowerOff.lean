import YogaUsb4.Dialog
import Mathlib.Data.List.Sublists
import Mathlib.Logic.Function.Basic

/-!
The power-off of the router's domain in the global clock controller, which first moves the
selectors of the PHY clocks to where the domain can be powered up again, and moves them back when
the domain stays on.
-/

namespace YogaUsb4.PowerOff

/-! ### The code -/

/-- The muxes of `x1_usb4_0_selectors`; each has its own register. -/
inductive Selector where
  | sys | dp0 | dp1 | p2rr2p
  deriving DecidableEq

/-- The field `zero` of `x1_usb4_0_selectors`: where the selector has to be. -/
def Selector.zero : Selector → Bool
  | .p2rr2p => false
  | _ => true

def selectors : List Selector := [.sys, .dp0, .dp1, .p2rr2p]

/-- What the clock framework and the hardware decide in one call. No selector is sent twice to the
same side of it, so a write is named by the two. -/
structure Chip where
  /-- `clk_hw_is_prepared` -/
  prepared : Selector → Bool
  /-- The write that sends the selector there takes effect. -/
  takes : Selector → Bool → Bool
  /-- What `x1_usb4_0_gdsc_off` returns. -/
  off : ℤ

inductive Event where
  | select (i : Selector) (zero : Bool)
  /-- The real power-off, with the sources selected at that time. -/
  | off (content : Selector → ℕ)

structure State where
  /-- The source that each selector's register names. -/
  content : Selector → ℕ
  /-- What was done, latest last. -/
  log : List Event

/-- `clk_regmap_phy_mux_ops.is_enabled`. -/
def isEnabled (content : Selector → ℕ) (i : Selector) : Bool := content i == 0

/-- What `clk_regmap_phy_mux_ops.enable` and `disable` write. -/
def source (zero : Bool) : ℕ := if zero then 0 else 2

/-- `x1_usb4_0_select`. -/
def select (c : Chip) (i : Selector) (zero : Bool) (s : State) : State where
  content := if c.takes i zero then Function.update s.content i (source zero) else s.content
  log := s.log ++ [.select i zero]

def Misplaced (content : Selector → ℕ) (i : Selector) : Prop := isEnabled content i ≠ i.zero

instance (content : Selector → ℕ) (i : Selector) : Decidable (Misplaced content i) :=
  inferInstanceAs (Decidable (_ ≠ _))

/-- The second loop of `x1_usb4_0_gdsc_power_off`, with the set `moved`. -/
def move (c : Chip) : List Selector → List Selector → State → State × List Selector × ℤ
  | [], moved, s => (s, moved, 0)
  | i :: l, moved, s =>
    if ¬ Misplaced s.content i then move c l moved s
    else
      let s := select c i i.zero s
      if Misplaced s.content i then (s, i :: moved, -eio)
      else move c l (i :: moved) s

/-- The third loop. -/
def restore (c : Chip) (moved : List Selector) : List Selector → State → State
  | [], s => s
  | i :: l, s => restore c moved l (if i ∈ moved then select c i (!i.zero) s else s)

/-- `x1_usb4_0_gdsc_power_off`. -/
def powerOff (c : Chip) (s : State) : State × ℤ :=
  -- a held selector on a PHY clock means a consumer still runs: stay on
  if ∃ i ∈ selectors, Misplaced s.content i ∧ c.prepared i then (s, -ebusy)
  else
    let (s, moved, ret) := move c selectors [] s
    let (s, ret) :=
      if ret = 0 then ({ s with log := s.log ++ [.off s.content] }, c.off) else (s, ret)
    -- the domain stays on: leave the selectors as they were found
    if ret ≠ 0 then (restore c moved selectors s, ret) else (s, ret)

/-! ### One selector -/

variable {c : Chip} {s : State} {i j : Selector} {l moved : List Selector} {z : Bool}
variable {content : Selector → ℕ}

lemma select_content_of_ne (h : j ≠ i) : (select c i z s).content j = s.content j := by
  unfold select
  split
  · exact Function.update_of_ne h _ _
  · rfl

lemma select_content_of_takes (h : c.takes i z) : (select c i z s).content i = source z := by
  simp [select, h]

lemma select_content_of_not_takes (h : ¬ c.takes i z) : (select c i z s).content = s.content := by
  simp [select, h]

lemma misplaced_congr {content' : Selector → ℕ} (h : content i = content' i) :
    Misplaced content i ↔ Misplaced content' i := by
  simp [Misplaced, isEnabled, h]

lemma not_misplaced_source (h : content i = source i.zero) : ¬ Misplaced content i := by
  cases hz : i.zero <;> simp [Misplaced, isEnabled, h, hz, source]

/-- A misplaced selector is where it has to be after the write exactly if the write takes
effect. -/
lemma misplaced_select (h : Misplaced s.content i) :
    Misplaced (select c i i.zero s).content i ↔ ¬ c.takes i i.zero := by
  by_cases ht : c.takes i i.zero
  · simpa [ht] using not_misplaced_source (select_content_of_takes ht)
  · simpa [ht, select_content_of_not_takes ht] using h

/-! ### The loops -/

/-- Of these selectors, the loop writes this one: it is misplaced, and so far every write took
effect. -/
def Reached (c : Chip) (content : Selector → ℕ) (l : List Selector) (i : Selector) : Prop :=
  i ∈ l ∧ Misplaced content i ∧
    ∀ j, [j, i].Sublist l → Misplaced content j → c.takes j j.zero = true

lemma reached_cons (hi : i ∉ l) : Reached c content (i :: l) j ↔
    (j = i ∧ Misplaced content i) ∨
      ((Misplaced content i → c.takes i i.zero = true) ∧ Reached c content l j) := by
  constructor
  · rintro ⟨hj, hm, hbefore⟩
    rcases List.mem_cons.1 hj with rfl | hj
    · exact .inl ⟨rfl, hm⟩
    · refine .inr ⟨hbefore i ((List.singleton_sublist.2 hj).cons_cons i), hj, hm, fun k hk => ?_⟩
      exact hbefore k (hk.cons i)
  · rintro (⟨rfl, hm⟩ | ⟨htakes, hj, hm, hbefore⟩)
    · refine ⟨List.mem_cons_self, hm, fun k hk => ?_⟩
      -- nothing stands before the first
      have hmem : j ∈ l := by
        rcases List.sublist_cons_iff.1 hk with h | ⟨w, hw, h⟩
        · exact h.subset (by simp)
        · obtain ⟨-, rfl⟩ := List.cons.inj hw
          exact h.subset (by simp)
      exact absurd hmem hi
    · refine ⟨List.mem_cons_of_mem i hj, hm, fun k hk => ?_⟩
      rcases List.sublist_cons_iff.1 hk with h | ⟨w, hw, -⟩
      · exact hbefore k h
      · obtain ⟨rfl, -⟩ := List.cons.inj hw
        exact htakes

lemma reached_congr {content' : Selector → ℕ} (h : ∀ j ∈ l, content j = content' j) :
    Reached c content l i ↔ Reached c content' l i := by
  have hm : ∀ {j}, j ∈ l → (Misplaced content j ↔ Misplaced content' j) :=
    fun hj => misplaced_congr (h _ hj)
  constructor
  · rintro ⟨hi, hmi, hbefore⟩
    exact ⟨hi, (hm hi).1 hmi, fun j hj hmj => hbefore j hj ((hm (hj.subset (by simp))).2 hmj)⟩
  · rintro ⟨hi, hmi, hbefore⟩
    exact ⟨hi, (hm hi).2 hmi, fun j hj hmj => hbefore j hj ((hm (hj.subset (by simp))).1 hmj)⟩

/-- What the loop that moves the selectors does. -/
structure Moved (c : Chip) (l moved : List Selector) (s : State)
    (r : State × List Selector × ℤ) : Prop where
  mem_moved : ∀ i, i ∈ r.2.1 ↔ i ∈ moved ∨ Reached c s.content l i
  content_eq : ∀ i, ¬ Reached c s.content l i → r.1.content i = s.content i
  ret_eq : r.2.2 = 0 ↔ ∀ i ∈ l, Misplaced s.content i → c.takes i i.zero = true
  placed : r.2.2 = 0 → ∀ i ∈ l, ¬ Misplaced r.1.content i
  /-- The loop only sends selectors where they have to be. -/
  log_eq : ∀ e ∈ r.1.log, e ∈ s.log ∨ ∃ i : Selector, e = .select i i.zero

lemma select_log {e : Event} : e ∈ (select c i z s).log ↔ e ∈ s.log ∨ e = .select i z := by
  simp [select]

section Moved

variable {r : State × List Selector × ℤ} (hi : i ∉ l)
include hi

lemma Moved.skip (hm : ¬ Misplaced s.content i) (h : Moved c l moved s r) :
    Moved c (i :: l) moved s r := by
  have hreached : ∀ j, Reached c s.content (i :: l) j ↔ Reached c s.content l j := by
    intro j
    rw [reached_cons hi]
    simp [hm]
  constructor
  · exact fun j => by rw [h.mem_moved, hreached]
  · exact fun j hj => h.content_eq j ((hreached j).not.1 hj)
  · rw [h.ret_eq, List.forall_mem_cons]
    simp [hm]
  · intro hret
    refine List.forall_mem_cons.2 ⟨?_, h.placed hret⟩
    rwa [misplaced_congr (h.content_eq i fun hr => hi hr.1)]
  · exact h.log_eq

lemma Moved.stuck (hm : Misplaced s.content i) (ht : ¬ c.takes i i.zero) :
    Moved c (i :: l) moved s (select c i i.zero s, i :: moved, -eio) := by
  have hreached : ∀ j, Reached c s.content (i :: l) j ↔ j = i := by
    intro j
    rw [reached_cons hi]
    simp [hm, ht]
  constructor
  · intro j
    rw [hreached, List.mem_cons, or_comm]
  · exact fun j hj => select_content_of_ne ((hreached j).not.1 hj)
  · refine iff_of_false (by simp [eio]) fun h => ?_
    exact ht (h i List.mem_cons_self hm)
  · exact fun h => absurd h (by simp [eio])
  · exact fun e he => (select_log.1 he).imp_right fun h => ⟨i, h⟩

lemma Moved.cons (hm : Misplaced s.content i) (ht : c.takes i i.zero)
    (h : Moved c l (i :: moved) (select c i i.zero s) r) : Moved c (i :: l) moved s r := by
  -- the other selectors still are where they were
  have hsame : ∀ j ∈ l, (select c i i.zero s).content j = s.content j :=
    fun j hj => select_content_of_ne fun heq => hi (heq ▸ hj)
  have hreached : ∀ j, Reached c s.content (i :: l) j ↔
      j = i ∨ Reached c (select c i i.zero s).content l j := by
    intro j
    rw [reached_cons hi, reached_congr hsame]
    simp [hm, ht]
  constructor
  · intro j
    rw [h.mem_moved, hreached, List.mem_cons, or_left_comm, or_assoc]
  · intro j hj
    rw [hreached, not_or] at hj
    rw [h.content_eq j hj.2, select_content_of_ne hj.1]
  · rw [h.ret_eq, List.forall_mem_cons]
    simp only [ht, implies_true, true_and]
    exact forall₂_congr fun j hj => by rw [misplaced_congr (hsame j hj)]
  · intro hret
    refine List.forall_mem_cons.2 ⟨?_, h.placed hret⟩
    rw [misplaced_congr (h.content_eq i fun hr => hi hr.1), misplaced_select hm]
    exact not_not_intro ht
  · intro e he
    rcases h.log_eq e he with hold | hnew
    · exact (select_log.1 hold).imp_right fun h => ⟨i, h⟩
    · exact .inr hnew

end Moved

lemma move_moved (hl : l.Nodup) : Moved c l moved s (move c l moved s) := by
  induction l generalizing s moved with
  | nil =>
    exact ⟨fun i => by simp [move, Reached], fun _ _ => rfl, by simp [move],
      fun _ _ h => absurd h List.not_mem_nil, fun _ h => .inl h⟩
  | cons i l ih =>
    obtain ⟨hi, hl⟩ := List.nodup_cons.1 hl
    unfold move
    by_cases hm : Misplaced s.content i
    · rw [if_neg (not_not_intro hm)]
      dsimp only
      split
      · exact .stuck hi hm ((misplaced_select hm).1 ‹_›)
      · exact .cons hi hm (not_not.1 ((misplaced_select hm).not.1 ‹_›)) (ih hl)
    · rw [if_pos hm]
      exact .skip hi hm (ih hl)

lemma restore_content (hc : ∀ i ∈ moved, c.takes i (!i.zero) = true) (hl : l.Nodup) :
    (restore c moved l s).content i =
      if i ∈ l ∧ i ∈ moved then source (!i.zero) else s.content i := by
  induction l generalizing s with
  | nil => simp [restore]
  | cons j l ih =>
    obtain ⟨hj, hl⟩ := List.nodup_cons.1 hl
    rw [restore, ih hl]
    by_cases hij : i = j
    · subst hij
      by_cases hmoved : i ∈ moved
      · simp [hj, hmoved, select_content_of_takes (hc i hmoved)]
      · simp [hmoved]
    · by_cases hmoved : j ∈ moved
      · simp [hij, hmoved, select_content_of_ne hij]
      · simp [hij, hmoved]

lemma restore_log {e : Event} : e ∈ (restore c moved l s).log ↔
    e ∈ s.log ∨ ∃ i ∈ l, i ∈ moved ∧ e = .select i (!i.zero) := by
  induction l generalizing s with
  | nil => simp [restore]
  | cons i l ih =>
    rw [restore, ih, List.exists_mem_cons_iff]
    by_cases hi : i ∈ moved
    · rw [if_pos hi, select_log]
      simp only [hi, true_and, or_assoc]
    · simp only [hi, if_false, false_and, false_or]

/-! ### The call -/

lemma mem_selectors : i ∈ selectors := by cases i <;> decide

lemma nodup_selectors : selectors.Nodup := by decide

/-- A selector that is held for a consumer is misplaced. -/
def Held (c : Chip) (content : Selector → ℕ) : Prop :=
  ∃ i, Misplaced content i ∧ c.prepared i = true

/-- Everything that the call can do. -/
inductive Outcome (c : Chip) (content : Selector → ℕ) : State × ℤ → Prop
  | busy (hheld : Held c content) : Outcome c content (⟨content, []⟩, -ebusy)
  | stuck {s : State} {moved : List Selector} {ret : ℤ} (hheld : ¬ Held c content)
      (h : Moved c selectors [] ⟨content, []⟩ (s, moved, ret)) (hret : ret ≠ 0) :
      Outcome c content (restore c moved selectors s, ret)
  | stays {s : State} {moved : List Selector} (hheld : ¬ Held c content)
      (h : Moved c selectors [] ⟨content, []⟩ (s, moved, 0)) (hret : c.off ≠ 0) :
      Outcome c content
        (restore c moved selectors { s with log := s.log ++ [.off s.content] }, c.off)
  | off {s : State} {moved : List Selector} (hheld : ¬ Held c content)
      (h : Moved c selectors [] ⟨content, []⟩ (s, moved, 0)) (hret : c.off = 0) :
      Outcome c content ({ s with log := s.log ++ [.off s.content] }, 0)

lemma powerOff_outcome (c : Chip) (content : Selector → ℕ) :
    Outcome c content (powerOff c ⟨content, []⟩) := by
  have hheld : (∃ i ∈ selectors, Misplaced content i ∧ c.prepared i) ↔ Held c content := by
    simp [Held, mem_selectors]
  have hmove : Moved c selectors [] ⟨content, []⟩ (move c selectors [] ⟨content, []⟩) :=
    move_moved nodup_selectors
  unfold powerOff
  by_cases hh : Held c content
  · rw [if_pos (hheld.2 hh)]
    exact .busy hh
  · rw [if_neg (hheld.not.2 hh)]
    generalize move c selectors [] ⟨content, []⟩ = r at hmove ⊢
    obtain ⟨s, moved, ret⟩ := r
    dsimp only
    by_cases hret : ret = 0
    · subst hret
      rw [if_pos rfl]
      by_cases hoff : c.off = 0
      · rw [hoff, if_neg (not_not_intro rfl)]
        exact .off hh hmove hoff
      · rw [if_pos hoff]
        exact .stays hh hmove hoff
    · rw [if_neg hret, if_pos hret]
      exact .stuck hh hmove hret

/-- The restoring writes that were made took effect. -/
def Restored (c : Chip) (log : List Event) : Prop :=
  ∀ i : Selector, .select i (!i.zero) ∈ log → c.takes i (!i.zero) = true

/-- The real power-off is called only when every selector is where it has to be; no selector is
moved while one is held; and a call that fails leaves every selector as it was found, if the
restoring writes that it made took effect. -/
structure Sound (c : Chip) (content : Selector → ℕ) (r : State × ℤ) : Prop where
  placed : ∀ k, .off k ∈ r.1.log → ∀ i, ¬ Misplaced k i
  held : Held c content → ∀ i z, .select i z ∉ r.1.log
  restored : r.2 ≠ 0 → Restored c r.1.log → r.1.content = content

/-- The writes that would restore the selectors that are reached take effect. -/
def Chip.Restores (c : Chip) (content : Selector → ℕ) : Prop :=
  ∀ i, Reached c content selectors i → c.takes i (!i.zero) = true

/-- A selector is held, or nothing fails, or each selector that is reached on its way to 0 comes
from 2, the only other source that can be selected again. -/
def Restorable (c : Chip) (content : Selector → ℕ) : Prop :=
  Held c content ∨
    ((∀ i, Misplaced content i → c.takes i i.zero = true) ∧ c.off = 0) ∨
      ∀ i, i.zero = true → Reached c content selectors i → content i = 2

section Restore

variable {t : State} {ret : ℤ} (h : Moved c selectors [] ⟨content, []⟩ (s, moved, ret))
include h

lemma Moved.mem_iff : i ∈ moved ↔ Reached c content selectors i :=
  (h.mem_moved i).trans (by simp)

lemma Moved.restored_iff (ht : ∀ e ∈ t.log, e ∈ s.log ∨ ∃ k, e = .off k) :
    Restored c (restore c moved selectors t).log ↔ c.Restores content := by
  refine forall_congr' fun i => ?_
  have hlog : Event.select i (!i.zero) ∈ (restore c moved selectors t).log ↔
      Reached c content selectors i := by
    rw [restore_log]
    constructor
    · rintro (hmem | ⟨j, -, hj, heq⟩)
      · rcases ht _ hmem with hmem | ⟨k, hk⟩
        · -- a selector that is moved is sent to the other side
          rcases h.log_eq _ hmem with hnil | ⟨j, heq⟩
          · exact absurd hnil List.not_mem_nil
          · obtain ⟨rfl, hz⟩ := Event.select.inj heq
            cases i <;> cases hz
        · cases hk
      · obtain ⟨rfl, -⟩ := Event.select.inj heq
        exact h.mem_iff.1 hj
    · exact fun hr => .inr ⟨i, mem_selectors, h.mem_iff.2 hr, rfl⟩
  rw [hlog]

/-- The restoring writes lead back exactly if each selector that left for 0 had come from 2; one
that left 0 always gets back. -/
lemma Moved.restore_eq_iff (hc : c.Restores content) (ht : t.content = s.content) :
    (restore c moved selectors t).content = content ↔
      ∀ i, i.zero = true → Reached c content selectors i → content i = 2 := by
  have hcm : ∀ i ∈ moved, c.takes i (!i.zero) = true := fun i hi => hc i (h.mem_iff.1 hi)
  have hback : ∀ i, Reached c content selectors i →
      (restore c moved selectors t).content i = source (!i.zero) := by
    intro i hr
    rw [restore_content hcm nodup_selectors, if_pos ⟨mem_selectors, h.mem_iff.2 hr⟩]
  have hkept : ∀ i, ¬ Reached c content selectors i →
      (restore c moved selectors t).content i = content i := by
    intro i hr
    rw [restore_content hcm nodup_selectors, if_neg fun hm => hr (h.mem_iff.1 hm.2), ht]
    exact h.content_eq i hr
  constructor
  · intro heq i hz hr
    rw [← heq, hback i hr, hz]
    rfl
  · intro htwo
    funext i
    by_cases hr : Reached c content selectors i
    · rw [hback i hr]
      cases hz : i.zero with
      | true => exact (htwo i hz hr).symm
      | false =>
        have hzero : content i = 0 := by simpa [Misplaced, isEnabled, hz] using hr.2.1
        exact hzero.symm
    · exact hkept i hr

end Restore

lemma Moved.back_iff {t : State} {ret : ℤ} (h : Moved c selectors [] ⟨content, []⟩ (s, moved, ret))
    (ht : t.content = s.content) (hlog : ∀ e ∈ t.log, e ∈ s.log ∨ ∃ k, e = .off k) :
    (Restored c (restore c moved selectors t).log →
        (restore c moved selectors t).content = content) ↔
      (c.Restores content →
        ∀ i, i.zero = true → Reached c content selectors i → content i = 2) := by
  rw [h.restored_iff hlog]
  exact forall_congr' fun hc => h.restore_eq_iff hc ht

lemma mem_off_log {e : Event} (he : e ∈ s.log ++ [.off content]) :
    e ∈ s.log ∨ ∃ k, e = .off k := by
  rcases List.mem_append.1 he with he | he
  · exact .inl he
  · exact .inr ⟨content, List.mem_singleton.1 he⟩

lemma restorable_iff (hheld : ¬ Held c content)
    (hfail : ¬ ((∀ i, Misplaced content i → c.takes i i.zero = true) ∧ c.off = 0)) :
    Restorable c content ↔
      ∀ i, i.zero = true → Reached c content selectors i → content i = 2 := by
  rw [Restorable, or_iff_right hheld, or_iff_right hfail]

lemma restored_iff {r : State × ℤ} (h : Outcome c content r) :
    (r.2 ≠ 0 → Restored c r.1.log → r.1.content = content) ↔
      (c.Restores content → Restorable c content) := by
  cases h with
  | busy hheld => exact iff_of_true (fun _ _ => rfl) fun _ => .inl hheld
  | stuck hheld h hret =>
    rw [restorable_iff hheld fun hall => hret (h.ret_eq.2 fun i _ => hall.1 i)]
    exact (forall_prop_of_true hret).trans (h.back_iff rfl fun e he => .inl he)
  | stays hheld h hret =>
    rw [restorable_iff hheld fun hall => hret hall.2]
    exact (forall_prop_of_true hret).trans (h.back_iff rfl fun e he => mem_off_log he)
  | off hheld h hret =>
    have hall := h.ret_eq.1 rfl
    refine iff_of_true (fun hne => absurd rfl hne) fun _ => .inr (.inl ⟨?_, hret⟩)
    exact fun i => hall i mem_selectors

lemma Moved.off_notMem {ret : ℤ} (h : Moved c selectors [] ⟨content, []⟩ (s, moved, ret))
    (k : Selector → ℕ) : .off k ∉ s.log := by
  intro hk
  rcases h.log_eq _ hk with hnil | ⟨i, hi⟩
  · exact absurd hnil List.not_mem_nil
  · cases hi

lemma off_of_restore_log {k : Selector → ℕ} (hk : .off k ∈ (restore c moved l s).log) :
    .off k ∈ s.log := by
  rcases restore_log.1 hk with hk | ⟨i, -, -, hi⟩
  · exact hk
  · cases hi

lemma Outcome.placed {r : State × ℤ} (h : Outcome c content r) :
    ∀ k, .off k ∈ r.1.log → ∀ i, ¬ Misplaced k i := by
  -- the log at the power-off: the moves, and the power-off itself
  have hoff : ∀ {s : State} {moved : List Selector} {k},
      Moved c selectors [] ⟨content, []⟩ (s, moved, 0) →
        .off k ∈ s.log ++ [.off s.content] → ∀ i, ¬ Misplaced k i := by
    intro s moved k h hk i
    rcases List.mem_append.1 hk with hk | hk
    · exact absurd hk (h.off_notMem k)
    · obtain rfl : k = s.content := Event.off.inj (List.mem_singleton.1 hk)
      exact h.placed rfl i mem_selectors
  cases h with
  | busy hheld => exact fun k hk => absurd hk List.not_mem_nil
  | stuck hheld h hret => exact fun k hk => absurd (off_of_restore_log hk) (h.off_notMem k)
  | stays hheld h hret => exact fun k hk => hoff h (off_of_restore_log hk)
  | off hheld h hret => exact fun k hk => hoff h hk

lemma Outcome.held {r : State × ℤ} (h : Outcome c content r) (hheld : Held c content) :
    ∀ i z, .select i z ∉ r.1.log := by
  cases h with
  | busy _ => exact fun _ _ hz => absurd hz List.not_mem_nil
  | stuck hfree | stays hfree | off hfree => exact absurd hheld hfree

/-- The call does what it is for, whatever the selectors hold, whatever is prepared and whichever
writes take effect, exactly if each selector that it may have to restore can be restored. -/
theorem powerOff_sound_iff (c : Chip) (content : Selector → ℕ) :
    Sound c content (powerOff c ⟨content, []⟩) ↔
      (c.Restores content → Restorable c content) := by
  have h := powerOff_outcome c content
  constructor
  · intro hsound
    exact (restored_iff h).1 hsound.restored
  · intro hrest
    exact ⟨h.placed, h.held, (restored_iff h).2 hrest⟩

/-- The first selector names source 1 and the domain does not go off: the selector is left on 2. -/
theorem powerOff_leaves_two :
    let c : Chip := ⟨fun _ => false, fun _ _ => true, -etimedout⟩
    let r := powerOff c ⟨fun i => if i = .sys then 1 else 0, []⟩
    Restored c r.1.log ∧ r.2 = -etimedout ∧ r.1.content .sys = 2 := by
  refine ⟨fun _ _ => rfl, ?_⟩
  decide

end YogaUsb4.PowerOff
