import YogaUsb4.Imsi.Receiver

/-!
The life cycle of the MSI receiver: what each call can do, whatever it is answered, and what
follows for any number of them. A receiver has the slot from its allocation on; it loses it only
by a retirement, which needs a release, which needs a stop that silenced every bank and parent.
-/

namespace YogaUsb4.Imsi

open Dialog

/-! ### What was said -/

def Said (tr : List (Call × Reply)) (q : Call) (P : Reply → Prop) : Prop :=
  ∃ a, (q, a) ∈ tr ∧ P a

/-- None of the calls did anything. -/
def Idle (tr : List (Call × Reply)) : Prop := ∀ x ∈ tr, x.1.acts = false

section Said

variable {t u tr : List (Call × Reply)} {q : Call} {P : Reply → Prop} {x : Call × Reply}

@[simp] lemma said_nil : ¬ Said [] q P := by
  rintro ⟨a, ha, -⟩
  exact List.not_mem_nil ha

@[simp] lemma said_cons : Said (x :: tr) q P ↔ (x.1 = q ∧ P x.2) ∨ Said tr q P := by
  obtain ⟨q', a⟩ := x
  constructor
  · rintro ⟨b, hb, hp⟩
    rcases List.mem_cons.1 hb with h | h
    · obtain ⟨rfl, rfl⟩ := Prod.mk.injEq .. ▸ h
      exact .inl ⟨rfl, hp⟩
    · exact .inr ⟨b, h, hp⟩
  · rintro (⟨rfl, hp⟩ | ⟨b, hb, hp⟩)
    · exact ⟨a, List.mem_cons_self, hp⟩
    · exact ⟨b, List.mem_cons_of_mem _ hb, hp⟩

@[simp] lemma said_append : Said (t ++ u) q P ↔ Said t q P ∨ Said u q P := by
  simp only [Said, List.mem_append, or_and_right, exists_or]

@[simp] lemma idle_nil : Idle [] := fun _ h => absurd h List.not_mem_nil

@[simp] lemma idle_cons : Idle (x :: tr) ↔ x.1.acts = false ∧ Idle tr := List.forall_mem_cons

@[simp] lemma idle_append : Idle (t ++ u) ↔ Idle t ∧ Idle u := List.forall_mem_append

end Said

def BankOff (tr : List (Call × Reply)) (i : Fin 8) : Prop :=
  Said tr (.readl (.mask i)) (·.word = U32_MAX) ∧ Said tr (.readl (.enable i)) (·.word = 0)

def ParentOff (tr : List (Call × Reply)) (i : Fin 8) : Prop := Said tr (.handlerSet i) (·.ret = 0)

def Silenced (tr : List (Call × Reply)) : Prop := (∀ i, BankOff tr i) ∧ ∀ i, ParentOff tr i

def DetachTried (tr : List (Call × Reply)) : Prop :=
  ∀ i, Said tr (.disableIrq i) (fun _ => True) ∧ Said tr (.clearHandler i) fun _ => True

/-- Before anything was done, the call was made and answered in `P`. -/
def First (tr : List (Call × Reply)) (q : Call) (P : Reply → Prop) : Prop :=
  ∃ t a u, tr = t ++ (q, a) :: u ∧ Idle t ∧ q.acts = false ∧ P a

/-! ### Stop -/

section Stop

variable {r r' : X1Imsi} {tr : List (Call × Reply)} {ret : ℤ}

lemma does_writeChecked {g : Reg} {v : BitVec 32} (h : Does (writeChecked g v r) tr (r', ret)) :
    r' = r ∧ ∃ a b, tr = [(.writel g v, a), (.readl g, b)] ∧ (ret = 0 ↔ b.word = v) := by
  simp only [writeChecked, does_ask_bind] at h
  obtain ⟨a, u, rfl, b, u', rfl, h⟩ := h
  split at h
  · obtain ⟨rfl, rfl, rfl⟩ := Act.does_return.1 h
    exact ⟨rfl, a, b, rfl, by simp_all⟩
  · obtain ⟨rfl, rfl, rfl⟩ := Act.does_return.1 h
    exact ⟨rfl, a, b, rfl, by simp_all [eio]⟩

def Unread (tr : List (Call × Reply)) (i : Fin 8) : Prop :=
  ∀ P, ¬ Said tr (.readl (.mask i)) P ∧ ¬ Said tr (.readl (.enable i)) P

variable {t u : List (Call × Reply)}

lemma bankOff_append_left {i : Fin 8} (h : Unread u i) :
    BankOff (t ++ u) i ↔ BankOff t i := by
  simp [BankOff, (h _).1, (h _).2]

lemma bankOff_append_right {i : Fin 8} (h : Unread t i) :
    BankOff (t ++ u) i ↔ BankOff u i := by
  simp [BankOff, (h _).1, (h _).2]

lemma does_disableBank {i : Fin 8} (h : Does (disableBank i r) tr (r', ret)) :
    (ret = 0 ↔ BankOff tr i) ∧ (∀ j, i ≠ j → Unread tr j) ∧ (∀ j, ¬ ParentOff tr j) ∧
      r'.receipt = { r.receipt with
        stop.banksDisabled := r.receipt.stop.banksDisabled + if ret = 0 then 1 else 0 } := by
  rcases Act.does_seq.1 h with ⟨hm, h0⟩ | ⟨t, u, s₁, rfl, hm, hrest⟩
  · obtain ⟨rfl, a, b, rfl, hb⟩ := does_writeChecked hm
    exact ⟨by simp [BankOff, h0], fun j hj P => by simp [hj], fun j => by simp [ParentOff],
      by simp [h0]⟩
  obtain ⟨rfl, a, b, rfl, hb⟩ := does_writeChecked hm
  rcases Act.does_seq.1 hrest with ⟨he, h0⟩ | ⟨t, v, s₂, rfl, he, hset⟩
  · obtain ⟨rfl, c, d, rfl, hd⟩ := does_writeChecked he
    have hd : ¬ d.word = 0#32 := fun h => h0 (hd.2 h)
    exact ⟨by simp [BankOff, h0, hd], fun j hj P => by simp [hj], fun j => by simp [ParentOff],
      by simp [h0]⟩
  obtain ⟨rfl, c, d, rfl, hd⟩ := does_writeChecked he
  rcases Act.does_seq.1 hset with ⟨hs, h0⟩ | ⟨t, w, s₃, rfl, hs, hnil⟩
  · exact absurd (Act.does_set.1 hs).2.2 h0
  obtain ⟨rfl, rfl, -⟩ := Act.does_set.1 hs
  obtain ⟨rfl, rfl, rfl⟩ := Act.does_list_nil.1 hnil
  exact ⟨by simp [BankOff, hb.1 rfl, hd.1 rfl], fun j hj P => by simp [hj],
    fun j => by simp [ParentOff], by simp⟩

variable {l : List (Fin 8)}

lemma does_disableBanks (hl : l.Nodup) (h : Does (Act.list (l.map disableBank) r) tr (r', ret)) :
    (ret = 0 ↔ ∀ i ∈ l, BankOff tr i) ∧ (∀ j ∉ l, Unread tr j) ∧ (∀ j, ¬ ParentOff tr j) ∧
      ∃ n ≤ l.length, (n = l.length ↔ ret = 0) ∧ r'.receipt = { r.receipt with
        stop.banksDisabled := r.receipt.stop.banksDisabled + n } := by
  induction l generalizing r tr with
  | nil =>
    obtain ⟨rfl, rfl, rfl⟩ := Act.does_list_nil.1 h
    exact ⟨by simp, by simp [Unread], by simp [ParentOff], 0, Nat.le_refl 0, by simp, rfl⟩
  | cons i l ih =>
    -- The banks are distinct, so what is said of one is not said of a later one.
    obtain ⟨hi, hl⟩ := List.nodup_cons.1 hl
    rcases Act.does_seq.1 h with ⟨h, h0⟩ | ⟨t, u, r₁, rfl, h, h'⟩
    · obtain ⟨hret, hother, hpar, hr⟩ := does_disableBank h
      refine ⟨⟨fun h => absurd h h0, fun h => hret.2 (h i List.mem_cons_self)⟩,
        fun j hj => hother j fun hij => hj (hij ▸ List.mem_cons_self), hpar, 0, Nat.zero_le _,
        ⟨fun h => by simp at h, fun h => absurd h h0⟩, ?_⟩
      rw [hr, if_neg h0]
    · obtain ⟨hret, hother, hpar, hr⟩ := does_disableBank h
      obtain ⟨hret', hother', hpar', n, hle, hn, hr'⟩ := ih hl h'
      refine ⟨?_, fun j hj => ?_, fun j => ?_, n + 1, ?_, ?_, ?_⟩
      · rw [List.forall_mem_cons, bankOff_append_left (hother' i hi), hret']
        refine ⟨fun h => ⟨hret.1 rfl, fun j hj => ?_⟩, fun h j hj => ?_⟩
        · exact (bankOff_append_right (hother j fun hij => hi (hij ▸ hj))).2 (h j hj)
        · exact (bankOff_append_right (hother j fun hij => hi (hij ▸ hj))).1 (h.2 j hj)
      · intro P
        have h₁ := hother j (fun hij => hj (hij ▸ List.mem_cons_self)) P
        have h₂ := hother' j (fun hjl => hj (List.mem_cons_of_mem _ hjl)) P
        simp only [said_append, not_or]
        exact ⟨⟨h₁.1, h₂.1⟩, h₁.2, h₂.2⟩
      · simp only [ParentOff, said_append, not_or]
        exact ⟨hpar j, hpar' j⟩
      · simpa using hle
      · simpa using hn
      · rw [hr', hr]
        simp [Nat.add_assoc, Nat.add_comm 1]

lemma does_detachParents_cons {i : Fin 8} {e : ℤ}
    (h : Does (detachParents (i :: l) r e) tr (r', ret)) :
    ∃ a b c u, tr = (.disableIrq i, a) :: (.clearHandler i, b) :: (.handlerSet i, c) :: u ∧
      ((c.ret ≠ 0 ∧ Does (detachParents l r (-eio)) u (r', ret)) ∨
        (c.ret = 0 ∧ Does (detachParents l { r with
          receipt.stop.parentsDetached := r.receipt.stop.parentsDetached + 1 } e) u
            (r', ret))) := by
  simp only [detachParents, does_ask_bind] at h
  obtain ⟨a, u, rfl, b, u', rfl, c, v, rfl, h⟩ := h
  refine ⟨a, b, c, v, rfl, ?_⟩
  split at h
  · exact .inl ⟨‹_›, h⟩
  · exact .inr ⟨not_not.1 ‹_›, h⟩

section Round

variable {i j : Fin 8} {a b c : Reply} {u : List (Call × Reply)} {P : Reply → Prop}

lemma said_handlerSet_round :
    Said ((.disableIrq i, a) :: (.clearHandler i, b) :: (.handlerSet i, c) :: u) (.handlerSet j) P ↔
      (i = j ∧ P c) ∨ Said u (.handlerSet j) P := by
  simp

lemma parentOff_round_self (h : ∀ P, ¬ Said u (.handlerSet i) P) :
    ParentOff ((.disableIrq i, a) :: (.clearHandler i, b) :: (.handlerSet i, c) :: u) i ↔
      c.ret = 0 := by
  simp [ParentOff, h]

lemma forall_parentOff_round (hi : i ∉ l) (h : ∀ P, ¬ Said u (.handlerSet i) P) :
    (∀ j ∈ i :: l, ParentOff ((.disableIrq i, a) :: (.clearHandler i, b) ::
      (.handlerSet i, c) :: u) j) ↔ c.ret = 0 ∧ ∀ j ∈ l, ParentOff u j := by
  have hne (j) (hj : j ∈ l) : i ≠ j := fun hij => hi (hij ▸ hj)
  rw [List.forall_mem_cons, parentOff_round_self h]
  exact and_congr_right fun _ => forall₂_congr fun j hj => by simp [ParentOff, hne j hj]

end Round

lemma detachParents_tried {e : ℤ} (h : Does (detachParents l r e) tr (r', ret)) :
    (∀ i, Unread tr i) ∧ (∀ j ∉ l, ∀ P, ¬ Said tr (.handlerSet j) P) ∧
      ∀ i ∈ l, Said tr (.disableIrq i) (fun _ => True) ∧
        Said tr (.clearHandler i) fun _ => True := by
  induction l generalizing r tr e with
  | nil =>
    obtain ⟨rfl, -, -⟩ := Act.does_return.1 h
    exact ⟨by simp [Unread], by simp, by simp⟩
  | cons i l ih =>
    obtain ⟨a, b, c, u, rfl, hrec⟩ := does_detachParents_cons h
    have hu : (∀ i, Unread u i) ∧ (∀ j ∉ l, ∀ P, ¬ Said u (.handlerSet j) P) ∧
        ∀ i ∈ l, Said u (.disableIrq i) (fun _ => True) ∧
          Said u (.clearHandler i) fun _ => True := by
      rcases hrec with ⟨-, h⟩ | ⟨-, h⟩
      · exact ih h
      · exact ih h
    obtain ⟨hun, hother, htried⟩ := hu
    refine ⟨fun j P => by simpa using hun j P, fun j hj P => ?_, ?_⟩
    · rw [said_handlerSet_round, not_or]
      exact ⟨fun h => hj (h.1 ▸ List.mem_cons_self),
        hother j (fun h => hj (List.mem_cons_of_mem _ h)) P⟩
    · refine List.forall_mem_cons.2 ⟨by simp, fun j hj => ?_⟩
      simp [htried j hj]

lemma detachParents_ret (hl : l.Nodup) {e : ℤ} (h : Does (detachParents l r e) tr (r', ret)) :
    ret = 0 ↔ e = 0 ∧ ∀ i ∈ l, ParentOff tr i := by
  induction l generalizing r tr e with
  | nil =>
    obtain ⟨rfl, -, rfl⟩ := Act.does_return.1 h
    simp
  | cons i l ih =>
    obtain ⟨hi, hl⟩ := List.nodup_cons.1 hl
    obtain ⟨a, b, c, u, rfl, hrec⟩ := does_detachParents_cons h
    rcases hrec with ⟨hc, h⟩ | ⟨hc, h⟩
    · rw [forall_parentOff_round hi ((detachParents_tried h).2.1 i hi), ih hl h]
      simp [hc, eio]
    · rw [forall_parentOff_round hi ((detachParents_tried h).2.1 i hi), ih hl h]
      simp [hc]

lemma detachParents_count (hl : l.Nodup) {e : ℤ} (h : Does (detachParents l r e) tr (r', ret)) :
    ∃ n ≤ l.length, (n = l.length ↔ ∀ i ∈ l, ParentOff tr i) ∧ r'.receipt = { r.receipt with
      stop.parentsDetached := r.receipt.stop.parentsDetached + n } := by
  induction l generalizing r tr e with
  | nil =>
    obtain ⟨rfl, rfl, -⟩ := Act.does_return.1 h
    exact ⟨0, Nat.le_refl 0, by simp, rfl⟩
  | cons i l ih =>
    obtain ⟨hi, hl⟩ := List.nodup_cons.1 hl
    obtain ⟨a, b, c, u, rfl, hrec⟩ := does_detachParents_cons h
    rcases hrec with ⟨hc, h⟩ | ⟨hc, h⟩
    · obtain ⟨n, hle, -, hr⟩ := ih hl h
      rw [forall_parentOff_round hi ((detachParents_tried h).2.1 i hi)]
      refine ⟨n, by simp; omega, ?_, hr⟩
      simp only [hc, false_and, iff_false, List.length_cons]
      omega
    · obtain ⟨n, hle, hn, hr⟩ := ih hl h
      rw [forall_parentOff_round hi ((detachParents_tried h).2.1 i hi)]
      refine ⟨n + 1, by simpa using hle, by simpa [hc] using hn, ?_⟩
      rw [hr]
      simp [Nat.add_assoc, Nat.add_comm 1]

def Looks (f : ImsiAct) : Prop := Act.Within (fun q => q.acts = false) (fun r r' => r' = r) f

lemma Looks.does {f : ImsiAct} (hf : Looks f) (h : Does (f r) tr (r', ret)) : Idle tr ∧ r' = r :=
  All.does (hf r) h

lemma Looks.list {l : List ImsiAct} (h : ∀ f ∈ l, Looks f) : Looks (Act.list l) :=
  Act.Within.list (K := fun r r' => r' = r) (fun _ => rfl) (fun _ _ _ h h' => h'.trans h) h

lemma Looks.map {ι : Type} {f : ι → ImsiAct} (h : ∀ i, Looks (f i)) (l : List ι) :
    Looks (Act.list (l.map f)) :=
  Looks.list (List.forall_mem_map.2 fun i _ => h i)

lemma looks_test (p : X1Imsi → Bool) (e : ℤ) : Looks (test p e) := fun _ => rfl

lemma looks_demand {q : Call} (hq : q.acts = false) (yes : Bool) : Looks (demand q yes) := by
  refine fun r => all_ask_bind.2 ⟨hq, fun a => ?_⟩
  split <;> rfl

lemma does_ownsParents (h : Does (Act.list ((List.finRange 8).map ownsParent) r) tr (r', ret)) :
    (∀ x ∈ tr, ∃ i, x.1 = .handlerOurs i) ∧ r' = r := by
  refine All.does (Act.Within.list (S := fun q => ∃ i, q = .handlerOurs i)
    (K := fun r r' => r' = r) (fun _ => rfl) (fun _ _ _ h h' => h'.trans h)
    (List.forall_mem_map.2 fun i _ => ?_) r) h
  intro r
  unfold ownsParent
  split
  · rfl
  · refine all_ask_bind.2 ⟨⟨i, rfl⟩, fun a => ?_⟩
    split <;> rfl

lemma idle_of_handlerOurs {t : List (Call × Reply)} (h : ∀ x ∈ t, ∃ i, x.1 = .handlerOurs i) :
    Idle t := by
  intro x hx
  obtain ⟨i, hi⟩ := h x hx
  rw [hi]
  rfl

lemma silenced_behind (h : ∀ x ∈ t, ∃ i, x.1 = .handlerOurs i)
    (a : Reply) : Silenced (t ++ (.vectorsFree, a) :: u) ↔ Silenced u := by
  have ht : ∀ q P, (∀ i, q ≠ .handlerOurs i) → ¬ Said t q P := by
    rintro q P hq ⟨b, hb, -⟩
    obtain ⟨i, hi⟩ := h _ hb
    exact hq i hi
  simp [Silenced, BankOff, ParentOff, ht]

lemma stopAdmitted_keeps (r : X1Imsi) :
    All (fun q => q ≠ .releaseGroup) (fun _ => True) (stopAdmitted r) := by
  have hparents : ∀ (l : List (Fin 8)) (r : X1Imsi) (e : ℤ),
      All (fun q => q ≠ .releaseGroup) (fun _ => True) (detachParents l r e) := by
    intro l
    induction l with
    | nil => exact fun _ _ => trivial
    | cons i l ih =>
      intro r e
      refine all_ask_bind.2 ⟨nofun, fun _ => all_ask_bind.2 ⟨nofun, fun _ => ?_⟩⟩
      refine all_ask_bind.2 ⟨nofun, fun c => ?_⟩
      split
      · exact ih _ _
      · exact ih _ _
  have hwrite : ∀ g v, Act.Within (fun q => q ≠ .releaseGroup) (fun _ _ => True)
      (writeChecked g v) := by
    refine fun g v r => all_ask_bind.2 ⟨nofun, fun _ => all_ask_bind.2 ⟨nofun, fun a => ?_⟩⟩
    split <;> exact trivial
  have hbank : ∀ i, Act.Within (fun q => q ≠ .releaseGroup) (fun _ _ => True) (disableBank i) := by
    refine fun i => Act.Within.list (fun _ => trivial) (fun _ _ _ _ _ => trivial) ?_
    simp only [List.forall_mem_cons, List.not_mem_nil, IsEmpty.forall_iff, implies_true, and_true]
    exact ⟨hwrite _ _, hwrite _ _, fun _ => trivial⟩
  refine All.bind (R := fun _ => True) (Act.Within.list (K := fun _ _ => True) (fun _ => trivial)
    (fun _ _ _ _ _ => trivial) (List.forall_mem_map.2 fun i _ => hbank i) _) fun x _ => ?_
  exact All.bind (R := fun _ => True) (hparents _ _ _) fun y _ => trivial

lemma does_stopAdmitted (h : Does (stopAdmitted r) tr (r', ret)) :
    DetachTried tr ∧ (ret = 0 ↔ Silenced tr) ∧ ∃ n ≤ 8, ∃ m ≤ 8, (ret = 0 ↔ n = 8 ∧ m = 8) ∧
      r'.receipt = { r.receipt with stop := {
        attempted := true
        finished := ret == 0
        banksDisabled := r.receipt.stop.banksDisabled + n
        parentsDetached := r.receipt.stop.parentsDetached + m
        error := ret } } := by
  obtain ⟨t, ⟨r₁, e⟩, u, rfl, hbanks, h⟩ := does_bind.1 h
  obtain ⟨v, ⟨r₂, e₂⟩, w, rfl, hparents, h⟩ := does_bind.1 h
  obtain ⟨rfl, rfl, rfl⟩ := Act.does_return.1 h
  obtain ⟨hret, -, hpar, n, hn, hn8, hr₁⟩ := does_disableBanks (List.nodup_finRange 8) hbanks
  obtain ⟨hun, -, htried⟩ := detachParents_tried hparents
  have hret₂ := detachParents_ret (List.nodup_finRange 8) hparents
  obtain ⟨m, hm, hm8, hr₂⟩ := detachParents_count (List.nodup_finRange 8) hparents
  rw [List.append_nil]
  have hoff : ∀ i, ParentOff (t ++ v) i ↔ ParentOff v i := fun i => by
    have := hpar i
    simp_all [ParentOff]
  have hsilenced : Silenced (t ++ v) ↔ e = 0 ∧ ∀ i ∈ List.finRange 8, ParentOff v i := by
    rw [hret]
    simp only [Silenced, bankOff_append_left (hun _), hoff, List.mem_finRange, true_implies]
  refine ⟨fun i => ?_, hret₂.trans hsilenced.symm, n, by simpa using hn, m, by simpa using hm,
    ?_, ?_⟩
  · simp [htried i (List.mem_finRange i)]
  · rw [hret₂, ← hn8, ← hm8, List.length_finRange]
  · rw [hr₂, hr₁]

lemma does_stopRetained (h : Does (stopRetained r) tr (r', ret)) :
    (r' = r ∧ ret ≠ 0 ∧ Idle tr) ∨
      (r.receipt.stop.attempted = false ∧ stoppable r = true ∧
        ∃ t a u, tr = t ++ (.vectorsFree, a) :: u ∧ (∀ x ∈ t, ∃ i, x.1 = .handlerOurs i) ∧
          a.ret ≠ 0 ∧ Does (stopAdmitted r) u (r', ret)) := by
  unfold stopRetained at h
  split at h
  · obtain ⟨rfl, rfl, rfl⟩ := Act.does_return.1 h
    exact .inl ⟨rfl, by decide, idle_nil⟩
  split at h
  · obtain ⟨rfl, rfl, rfl⟩ := Act.does_return.1 h
    exact .inl ⟨rfl, by decide, idle_nil⟩
  obtain ⟨t, ⟨r₁, e⟩, u, rfl, hown, hrest⟩ := does_bind.1 h
  obtain ⟨ht, rfl⟩ := does_ownsParents hown
  have hidle := idle_of_handlerOurs ht
  dsimp only at hrest
  split at hrest
  · obtain ⟨rfl, rfl, rfl⟩ := Act.does_return.1 hrest
    exact .inl ⟨rfl, by decide, idle_append.2 ⟨hidle, idle_nil⟩⟩
  obtain ⟨a, v, rfl, hask⟩ := does_ask_bind.1 hrest
  split at hask
  · obtain ⟨rfl, rfl, rfl⟩ := Act.does_return.1 hask
    exact .inl ⟨rfl, by decide, idle_append.2 ⟨hidle, idle_cons.2 ⟨rfl, idle_nil⟩⟩⟩
  · exact .inr ⟨by simpa using ‹¬ r₁.receipt.stop.attempted = true›, by simp_all, t, a, v, rfl, ht,
      ‹_›, hask⟩

end Stop

/-! ### Release and retire -/

section Release

variable {r r' : X1Imsi} {tr : List (Call × Reply)} {ret : ℤ}

lemma looks_parentBare (i : Fin 8) : Looks (parentBare i) := by
  refine Looks.list ?_
  simp only [List.forall_mem_cons, List.not_mem_nil, IsEmpty.forall_iff, implies_true, and_true]
  exact ⟨looks_demand rfl false, looks_demand rfl false⟩

lemma looks_parents (p : X1Imsi → Fin 8 → Bool) :
    Looks (Act.list ((List.finRange 8).map fun i => Act.list [
      test (fun r => p r i) (-eperm), parentBare i])) := by
  refine Looks.map (fun i => Looks.list ?_) _
  simp only [List.forall_mem_cons, List.not_mem_nil, IsEmpty.forall_iff, implies_true, and_true]
  exact ⟨looks_test _ _, looks_parentBare i⟩

lemma looks_releaseQuestions : Looks releaseQuestions := by
  refine Looks.list ?_
  simp only [List.forall_mem_cons, List.not_mem_nil, IsEmpty.forall_iff, implies_true, and_true]
  exact ⟨looks_demand rfl true, looks_demand rfl false, looks_demand rfl false,
    looks_demand rfl true, looks_demand rfl true, looks_parents parentKept⟩

lemma does_releaseAdmitted (h : Does (releaseAdmitted r) tr (r', ret)) :
    ∃ a b c, tr = [(.setMsiDomain false, a), (.freeMsi, b), (.releaseGroup, c)] ∧
      r'.receipt.error = r.receipt.error ∧ r'.receipt.stop = r.receipt.stop ∧
      r'.receipt.releaseAttempted = true ∧
      ((ret = 0 ∧ 0 < c.ret ∧ r'.receipt.released = true) ∨
        (ret ≠ 0 ∧ r'.receipt.released = r.receipt.released)) := by
  obtain ⟨a, u, rfl, ha⟩ := does_ask_bind.1 h
  obtain ⟨b, v, rfl, hb⟩ := does_ask_bind.1 ha
  obtain ⟨c, w, rfl, hc⟩ := does_ask_bind.1 hb
  dsimp only at hc
  split at hc
  case isTrue hle =>
    obtain ⟨rfl, rfl, rfl⟩ := Act.does_return.1 hc
    refine ⟨a, b, c, rfl, rfl, rfl, rfl, .inr ⟨?_, rfl⟩⟩
    unfold enoent
    split <;> omega
  case isFalse hpos =>
    obtain ⟨rfl, rfl, rfl⟩ := Act.does_return.1 hc
    exact ⟨a, b, c, rfl, rfl, rfl, rfl, .inl ⟨rfl, not_le.1 hpos, rfl⟩⟩

lemma does_releaseStopped (h : Does (releaseStopped r) tr (r', ret)) :
    (r' = r ∧ ret ≠ 0 ∧ Idle tr) ∨
      (r.receipt.releaseAttempted = false ∧ releasable r = true ∧
        ∃ t a u, tr = t ++ (.checkStopped, a) :: u ∧ Idle t ∧ a.ret = 0 ∧
          Does (releaseAdmitted r) u (r', ret)) := by
  unfold releaseStopped at h
  split at h
  · obtain ⟨rfl, rfl, rfl⟩ := Act.does_return.1 h
    exact .inl ⟨rfl, by decide, idle_nil⟩
  split at h
  · obtain ⟨rfl, rfl, rfl⟩ := Act.does_return.1 h
    exact .inl ⟨rfl, by decide, idle_nil⟩
  obtain ⟨t, ⟨r₁, e⟩, u, rfl, hask, hrest⟩ := does_bind.1 h
  obtain ⟨ht, rfl⟩ := looks_releaseQuestions.does hask
  dsimp only at hrest
  split at hrest
  · obtain ⟨rfl, rfl, rfl⟩ := Act.does_return.1 hrest
    exact .inl ⟨rfl, ‹_›, idle_append.2 ⟨ht, idle_nil⟩⟩
  obtain ⟨a, v, rfl, hlast⟩ := does_ask_bind.1 hrest
  split at hlast
  · obtain ⟨rfl, rfl, rfl⟩ := Act.does_return.1 hlast
    exact .inl ⟨rfl, ‹_›, idle_append.2 ⟨ht, idle_cons.2 ⟨rfl, idle_nil⟩⟩⟩
  · exact .inr ⟨by simpa using ‹¬ r₁.receipt.releaseAttempted = true›, by simp_all, t, a, v, rfl,
      ht, not_not.1 ‹_›, hlast⟩

lemma looks_retireQuestions : Looks retireQuestions := by
  refine Looks.list ?_
  simp only [List.forall_mem_cons, List.not_mem_nil, IsEmpty.forall_iff, implies_true, and_true]
  exact ⟨looks_demand rfl false, looks_demand rfl false,
    looks_parents fun r i => 0 < r.parents i, fun r => ⟨rfl, fun a => rfl⟩⟩

end Release

/-! ### Prepare -/

/-- Nothing of a stop or of a release changed. -/
structure Unstopped (r r' : X1Imsi) : Prop where
  stop : r'.receipt.stop = r.receipt.stop
  releaseAttempted : r'.receipt.releaseAttempted = r.receipt.releaseAttempted
  released : r'.receipt.released = r.receipt.released

lemma Unstopped.refl (r : X1Imsi) : Unstopped r r := ⟨rfl, rfl, rfl⟩

lemma Unstopped.trans {r r' r'' : X1Imsi} (h : Unstopped r r') (h' : Unstopped r' r'') :
    Unstopped r r'' :=
  ⟨h'.stop.trans h.stop, h'.releaseAttempted.trans h.releaseAttempted,
    h'.released.trans h.released⟩

/-- The act releases nothing and writes nothing of a stop or of a release. -/
def Prepares (f : ImsiAct) : Prop := Act.Within (fun q => q ≠ .releaseGroup) Unstopped f

section Prepare

lemma Prepares.list {l : List ImsiAct} (h : ∀ f ∈ l, Prepares f) : Prepares (Act.list l) :=
  Act.Within.list .refl (fun _ _ _ => .trans) h

lemma Prepares.map {ι : Type} {f : ι → ImsiAct} (h : ∀ i, Prepares (f i)) (l : List ι) :
    Prepares (Act.list (l.map f)) :=
  Prepares.list (List.forall_mem_map.2 fun i _ => h i)

lemma prepares_atStep (t : String) : Prepares (atStep t) := fun _ => ⟨rfl, rfl, rfl⟩

lemma prepares_callback {q : Call} (hq : q ≠ .releaseGroup) : Prepares (callback q) :=
  fun r => ⟨hq, fun _ => .refl r⟩

lemma prepares_test (p : X1Imsi → Bool) (e : ℤ) : Prepares (test p e) := fun r => .refl r

lemma prepares_expect (g : Reg) (v : X1Imsi → BitVec 32) (e : ℤ) : Prepares (expect g v e) := by
  refine fun r => all_ask_bind.2 ⟨nofun, fun a => ?_⟩
  split <;> exact .refl r

lemma prepares_writeChecked (g : Reg) (v : BitVec 32) : Prepares (writeChecked g v) := by
  refine fun r => all_ask_bind.2 ⟨nofun, fun _ => all_ask_bind.2 ⟨nofun, fun a => ?_⟩⟩
  split <;> exact .refl r

lemma prepares_imsiGuard : Prepares imsiGuard := by
  refine fun r => all_ask_bind.2 ⟨nofun, fun a => ?_⟩
  dsimp only
  split
  · exact .refl r
  · refine all_ask_bind.2 ⟨nofun, fun b => ?_⟩
    split
    · exact .refl r
    · refine all_ask_bind.2 ⟨nofun, fun c => ?_⟩
      split <;> exact .refl r

lemma prepares_maskBank (i : Fin 8) : Prepares (maskBank i) := by
  refine Prepares.list ?_
  simp only [List.forall_mem_cons, List.not_mem_nil, IsEmpty.forall_iff, implies_true, and_true]
  exact ⟨prepares_imsiGuard, prepares_writeChecked _ _, prepares_expect _ _ _⟩

lemma prepares_checkBank (i : Fin 8) : Prepares (checkBank i) := by
  refine Prepares.list ?_
  simp only [List.forall_mem_cons, List.not_mem_nil, IsEmpty.forall_iff, implies_true, and_true]
  exact ⟨prepares_expect _ _ _, prepares_expect _ _ _, prepares_expect _ _ _⟩

lemma prepares_openGroup : Prepares openGroup := by
  refine fun r => all_ask_bind.2 ⟨nofun, fun a => ?_⟩
  split
  · exact .refl r
  · exact ⟨rfl, rfl, rfl⟩

lemma prepares_imsiSetup : Prepares imsiSetup := by
  refine Prepares.list ?_
  simp only [List.forall_mem_cons, List.not_mem_nil, IsEmpty.forall_iff, implies_true, and_true]
  exact ⟨prepares_atStep _, prepares_imsiGuard, prepares_expect _ _ _, prepares_atStep _,
    Prepares.map prepares_maskBank _, fun _ => ⟨rfl, rfl, rfl⟩, prepares_atStep _,
    prepares_imsiGuard, prepares_openGroup,
    fun _ => ⟨nofun, fun _ => ⟨nofun, fun _ => ⟨rfl, rfl, rfl⟩⟩⟩, fun _ => ⟨rfl, rfl, rfl⟩,
    prepares_test _ _, prepares_test _ _,
    fun r => prepares_callback (q := .targetCheck r.pp.msiData) nofun r, prepares_atStep _,
    prepares_imsiGuard, fun _ => ⟨nofun, fun _ => ⟨rfl, rfl, rfl⟩⟩, prepares_expect _ _ _,
    prepares_expect _ _ _, Prepares.map prepares_checkBank _, prepares_atStep _,
    prepares_imsiGuard, fun r => prepares_callback (q := .globalRoute r.global) nofun r,
    fun _ => ⟨rfl, rfl, rfl⟩,
    prepares_atStep _, prepares_imsiGuard, fun _ => ⟨nofun, fun _ => ⟨rfl, rfl, rfl⟩⟩⟩

lemma admitParents_unstopped (f : Fin 8 → ParentFound) (l : List (Fin 8)) (r : X1Imsi) :
    Unstopped r (admitParents f l r).1 := by
  induction l generalizing r with
  | nil => exact .refl r
  | cons i l ih =>
    unfold admitParents
    dsimp only
    split
    · exact .refl r
    · split
      · exact .refl r
      · have h := ih { r with parents := Function.update r.parents i (imsiParent (f i)) }
        exact ⟨h.stop, h.releaseAttempted, h.released⟩

lemma prepares_imsiAdmit (f : Found) : Prepares (imsiAdmit f) := by
  refine Prepares.list ?_
  simp only [List.forall_mem_cons, List.not_mem_nil, IsEmpty.forall_iff, implies_true, and_true]
  refine ⟨fun r => .refl r, admitParents_unstopped _ _, fun r => ?_⟩
  show Unstopped r (admitGlobal f.global r).1
  unfold admitGlobal
  dsimp only
  split
  · exact .refl r
  · split <;> exact ⟨rfl, rfl, rfl⟩

lemma prepares_prepareSteps (q : Request) : Prepares (prepareSteps q) := by
  refine Prepares.list ?_
  simp only [List.forall_mem_cons, List.not_mem_nil, IsEmpty.forall_iff, implies_true, and_true]
  refine ⟨prepares_atStep _, prepares_imsiAdmit _, fun r => ?_, prepares_atStep _,
    prepares_callback nofun, fun _ => ⟨rfl, rfl, rfl⟩, prepares_imsiSetup⟩
  unfold requirePolicy
  split
  · exact ⟨rfl, rfl, rfl⟩
  · exact .refl r

end Prepare

/-! ### What a call does -/

/-- What happened in one call of the interface. -/
structure Event where
  op : Op
  said : List (Call × Reply)
  out : Option ℕ
  ret : ℤ

def Stops (i : ℕ) (e : Event) : Prop := e.op = .stop (some i) ∧ ¬ Idle e.said

def Releases (i : ℕ) (e : Event) : Prop := (∃ g, e.op = .release (some i) g) ∧ ¬ Idle e.said

/-- A release that gave back the message target: devres counts what it released. -/
def Frees (i : ℕ) (e : Event) : Prop :=
  Releases i e ∧ e.ret = 0 ∧ Said e.said .releaseGroup (0 < ·.ret)

def Retires (i : ℕ) (e : Event) : Prop := (∃ g, e.op = .retire (some i) g) ∧ e.ret = 0

def InUse (h : List Event) (i : ℕ) : Prop := (∃ e ∈ h, e.out = some i) ∧ ∀ e ∈ h, ¬ Retires i e

/-- Everything a call can do to the receivers. -/
inductive Effect (s : Sys) (e : Event) : Sys → Prop
  /-- It is refused. -/
  | refused (ho : e.out = none) (hr : e.ret ≠ 0) (hi : Idle e.said) : Effect s e s
  /-- A receiver is allocated and becomes the active one. -/
  | prepared (q : Request) (r : X1Imsi) (hop : e.op = .prepare q) (ha : s.active = none)
      (ho : e.out = some s.receivers.length) (hr : e.ret = r.receipt.error)
      (hu : Unstopped {} r) (hn : ∀ x ∈ e.said, x.1 ≠ .releaseGroup) :
      Effect s e { receivers := s.receivers ++ [r], active := some s.receivers.length }
  | stopped (i : ℕ) (r r' : X1Imsi) (t u : List (Call × Reply)) (a : Reply)
      (hop : e.op = .stop (some i)) (ho : e.out = none) (hi : s.receivers[i]? = some r)
      (hs : r.receipt.stop.attempted = false) (hg : stoppable r = true)
      (he : e.said = t ++ (.vectorsFree, a) :: u) (ht : ∀ x ∈ t, ∃ k, x.1 = .handlerOurs k)
      (ha : a.ret ≠ 0)
      (hd : Does (stopAdmitted r) u (r', e.ret)) :
      Effect s e { s with receivers := s.receivers.set i r' }
  | released (i : ℕ) (g : Bool) (r r' : X1Imsi) (t u : List (Call × Reply)) (a : Reply)
      (hop : e.op = .release (some i) g) (ho : e.out = none) (hi : s.receivers[i]? = some r)
      (hs : r.receipt.releaseAttempted = false) (hg : releasable r = true)
      (he : e.said = t ++ (.checkStopped, a) :: u) (ht : Idle t) (ha : a.ret = 0)
      (hd : Does (releaseAdmitted r) u (r', e.ret)) :
      Effect s e { s with receivers := s.receivers.set i r' }
  | retired (i : ℕ) (g : Bool) (r : X1Imsi) (hop : e.op = .retire (some i) g) (ho : e.out = none)
      (hi : s.receivers[i]? = some r) (ha : s.active = some i) (hg : retirable r = true)
      (hr : e.ret = 0) (hid : Idle e.said) : Effect s e { s with active := none }

section Effect

variable {s s' : Sys} {tr : List (Call × Reply)} {res : Result}

lemma prepare_effect {q : Request} (h : Does (imsiPrepare q s) tr (s', res)) :
    Effect s ⟨.prepare q, tr, res.out, res.ret⟩ s' := by
  unfold imsiPrepare at h
  split at h
  · obtain ⟨rfl, rfl, rfl⟩ := Act.does_return.1 h
    exact .refused rfl (show -einval ≠ 0 by decide) idle_nil
  split at h
  · obtain ⟨rfl, rfl, rfl⟩ := Act.does_return.1 h
    exact .refused rfl (show -ealready ≠ 0 by decide) idle_nil
  obtain ⟨a, u, rfl, halloc⟩ := does_ask_bind.1 h
  split at halloc
  · obtain ⟨rfl, rfl, rfl⟩ := Act.does_return.1 halloc
    exact .refused rfl (show -enomem ≠ 0 by decide) (idle_cons.2 ⟨rfl, idle_nil⟩)
  obtain ⟨t, ⟨r, ret⟩, v, rfl, hsteps, hlast⟩ := does_bind.1 halloc
  obtain ⟨rfl, rfl, rfl⟩ := Act.does_return.1 hlast
  obtain ⟨hn, hu⟩ := (prepares_prepareSteps q _).does hsteps
  refine .prepared q _ rfl (by simpa using ‹¬ s.active.isSome = true›) rfl rfl
    ⟨hu.stop, hu.releaseAttempted, hu.released⟩ ?_
  simpa using hn

variable {i : Option ℕ}

lemma onReceiver_effect {op : Op} {f : ℕ → X1Imsi → Dialog Call Reply (Sys × Result)}
    (h : Does (onReceiver i s f) tr (s', res))
    (hf : ∀ j r, i = some j → s.receivers[j]? = some r → Does (f j r) tr (s', res) →
      Effect s ⟨op, tr, res.out, res.ret⟩ s') :
    Effect s ⟨op, tr, res.out, res.ret⟩ s' := by
  unfold onReceiver at h
  cases i with
  | none =>
    obtain ⟨rfl, rfl, rfl⟩ := Act.does_return.1 h
    exact .refused rfl (show -einval ≠ 0 by decide) idle_nil
  | some j =>
    cases hj : s.receivers[j]? with
    | none =>
      simp only [hj] at h
      obtain ⟨rfl, rfl, rfl⟩ := Act.does_return.1 h
      exact .refused rfl (show -einval ≠ 0 by decide) idle_nil
    | some r =>
      simp only [hj] at h
      exact hf j r rfl hj h

lemma set_self {l : List X1Imsi} {i : ℕ} {r : X1Imsi} (h : l[i]? = some r) : l.set i r = l := by
  obtain ⟨hi, rfl⟩ := List.getElem?_eq_some_iff.1 h
  exact List.set_getElem_self hi

lemma stop_effect (h : Does (imsiStopRetained i s) tr (s', res)) :
    Effect s ⟨.stop i, tr, res.out, res.ret⟩ s' := by
  refine onReceiver_effect h fun j r hi hj hd => ?_
  subst hi
  obtain ⟨t, ⟨r', ret⟩, v, rfl, hstop, hlast⟩ := does_bind.1 hd
  obtain ⟨rfl, rfl, rfl⟩ := Act.does_return.1 hlast
  rw [List.append_nil]
  rcases does_stopRetained hstop with ⟨rfl, hret, hidle⟩ | ⟨hs, hg, t, a, u, rfl, ht, ha, hd⟩
  · rw [set_self hj]
    exact .refused rfl hret hidle
  · exact .stopped j r r' t u a rfl rfl hj hs hg rfl ht ha hd

lemma release_effect {g : Bool} (h : Does (imsiReleaseStopped i g s) tr (s', res)) :
    Effect s ⟨.release i g, tr, res.out, res.ret⟩ s' := by
  refine onReceiver_effect h fun j r hi hj hd => ?_
  subst hi
  split at hd
  · obtain ⟨rfl, rfl, rfl⟩ := Act.does_return.1 hd
    exact .refused rfl (show -einval ≠ 0 by decide) idle_nil
  obtain ⟨t, ⟨r', ret⟩, v, rfl, hrel, hlast⟩ := does_bind.1 hd
  obtain ⟨rfl, rfl, rfl⟩ := Act.does_return.1 hlast
  rw [List.append_nil]
  rcases does_releaseStopped hrel with ⟨rfl, hret, hidle⟩ | ⟨hs, hg, t, a, u, rfl, ht, ha, hd⟩
  · rw [set_self hj]
    exact .refused rfl hret hidle
  · exact .released j g r r' t u a rfl rfl hj hs hg rfl ht ha hd

lemma retire_effect {g : Bool} (h : Does (imsiRetireContext i g s) tr (s', res)) :
    Effect s ⟨.retire i g, tr, res.out, res.ret⟩ s' := by
  refine onReceiver_effect h fun j r hi hj hd => ?_
  subst hi
  split at hd
  · obtain ⟨rfl, rfl, rfl⟩ := Act.does_return.1 hd
    exact .refused rfl (show -einval ≠ 0 by decide) idle_nil
  split at hd
  · obtain ⟨rfl, rfl, rfl⟩ := Act.does_return.1 hd
    exact .refused rfl (show -eperm ≠ 0 by decide) idle_nil
  case isFalse hguard =>
  simp only [ne_eq, Bool.or_eq_true, decide_eq_true_eq, Bool.not_eq_eq_eq_not, Bool.not_true,
    not_or, not_not, Bool.not_eq_false] at hguard
  obtain ⟨t, ⟨r', ret⟩, v, rfl, hask, hlast⟩ := does_bind.1 hd
  obtain ⟨ht, rfl⟩ := looks_retireQuestions.does hask
  dsimp only at hlast
  split at hlast
  · obtain ⟨rfl, rfl, rfl⟩ := Act.does_return.1 hlast
    exact .refused rfl ‹_› (idle_append.2 ⟨ht, idle_nil⟩)
  · obtain ⟨rfl, rfl, rfl⟩ := Act.does_return.1 hlast
    exact .retired j g _ rfl rfl hj hguard.1 hguard.2 (not_not.1 ‹_›)
      (idle_append.2 ⟨ht, idle_nil⟩)

lemma op_effect {op : Op} (h : Does (op.dialog s) tr (s', res)) :
    Effect s ⟨op, tr, res.out, res.ret⟩ s' := by
  cases op with
  | prepare q => exact prepare_effect h
  | stop i => exact stop_effect h
  | release i g => exact release_effect h
  | retire i g => exact retire_effect h

end Effect

/-! ### Runs -/

/-- The receivers, what happened so far, and all that was said, the latest first. -/
structure World where
  sys : Sys := {}
  events : List Event := []
  said : List (Call × Reply) := []

def World.step (answer : List (Call × Reply) → Call → Reply) (w : World) (op : Op) : World :=
  let o := (op.dialog w.sys).run answer w.said
  { sys := o.2.1
    events := ⟨op, o.1, o.2.2.out, o.2.2.ret⟩ :: w.events
    said := o.1.reverse ++ w.said }

/-- What a receiver's receipt says about what happened to it. -/
structure Tracks (h : List Event) (i : ℕ) (r : X1Imsi) : Prop where
  prepared : ∀ e ∈ h, e.out = some i → e.ret = r.receipt.error
  unstopped : r.receipt.stop.attempted = false → r.receipt.stop = {} ∧ ∀ e ∈ h, ¬ Stops i e
  stopped : r.receipt.stop.attempted = true → ∃ e ∈ h, Stops i e
  silenced : ∀ e ∈ h, Stops i e →
    (e.ret = 0 ↔ r.receipt.stop.finished = true) ∧ (e.ret = 0 ↔ Silenced e.said)
  counted : r.receipt.stop.finished = true ↔
    r.receipt.stop.banksDisabled = 8 ∧ r.receipt.stop.parentsDetached = 8
  unreleased : r.receipt.releaseAttempted = false →
    r.receipt.released = false ∧ ∀ e ∈ h, ¬ Releases i e
  released : r.receipt.released = true → ∃ e ∈ h, Frees i e
  outcome : ∀ e ∈ h, Releases i e → e.ret ≠ 0 → r.receipt.released = false
  order : r.receipt.releaseAttempted = true →
    r.receipt.error = 0 ∧ r.receipt.stop.finished = true

lemma Tracks.other {h : List Event} {i : ℕ} {r : X1Imsi} {e : Event} (ht : Tracks h i r)
    (ho : e.out ≠ some i) (hs : ¬ Stops i e) (hr : ¬ Releases i e) : Tracks (e :: h) i r where
  prepared := List.forall_mem_cons.2 ⟨fun h => absurd h ho, ht.prepared⟩
  unstopped ha := ⟨(ht.unstopped ha).1, List.forall_mem_cons.2 ⟨hs, (ht.unstopped ha).2⟩⟩
  stopped ha := by
    obtain ⟨e', he', h'⟩ := ht.stopped ha
    exact ⟨e', List.mem_cons_of_mem _ he', h'⟩
  silenced := List.forall_mem_cons.2 ⟨fun h => absurd h hs, ht.silenced⟩
  counted := ht.counted
  unreleased ha := ⟨(ht.unreleased ha).1, List.forall_mem_cons.2 ⟨hr, (ht.unreleased ha).2⟩⟩
  released ha := by
    obtain ⟨e', he', h'⟩ := ht.released ha
    exact ⟨e', List.mem_cons_of_mem _ he', h'⟩
  outcome := List.forall_mem_cons.2 ⟨fun h => absurd h hr, ht.outcome⟩
  order := ht.order

/-- What holds between any two calls. -/
structure Inv (h : List Event) (s : Sys) : Prop where
  allocated : ∀ i, (∃ e ∈ h, e.out = some i) ↔ i < s.receivers.length
  known : ∀ e ∈ h, ∀ i, Stops i e ∨ Releases i e ∨ Retires i e → i < s.receivers.length
  active : ∀ i, s.active = some i → i < s.receivers.length ∧ ∀ e ∈ h, ¬ Retires i e
  others : ∀ i r, s.receivers[i]? = some r → s.active ≠ some i →
    r.receipt.released = true ∧ ∃ e ∈ h, Retires i e
  tracks : ∀ i r, s.receivers[i]? = some r → Tracks h i r

/-- What holds when a call was made after others. -/
structure Fits (e : Event) (before : List Event) : Prop where
  admitted : ∀ i, e.out = some i → ∀ j, ¬ InUse before j
  stopOnce : ∀ i, Stops i e → ∀ e' ∈ before, ¬ Stops i e'
  stopEffect : ∀ i, Stops i e → First e.said .vectorsFree (·.ret ≠ 0) ∧ DetachTried e.said
  releaseOnce : ∀ i, Releases i e → ∀ e' ∈ before, ¬ Releases i e'
  releaseOnly : ∀ x ∈ e.said, x.1 = .releaseGroup → ∃ i, Releases i e
  releaseCount : e.said.countP (·.1 == .releaseGroup) ≤ 1
  releaseAfter : ∀ i, Releases i e → First e.said .checkStopped (·.ret = 0) ∧
    ∃ e' ∈ before, Stops i e' ∧ Silenced e'.said
  retireAfter : ∀ i, Retires i e → ∃ e' ∈ before, Frees i e'

section Kinds

variable {e : Event} {i j : ℕ} {g : Bool}

lemma not_stops_of_idle (h : Idle e.said) : ¬ Stops i e := fun hs => hs.2 h

lemma not_releases_of_idle (h : Idle e.said) : ¬ Releases i e := fun hs => hs.2 h

lemma countP_of_never (h : ∀ x ∈ e.said, x.1 ≠ .releaseGroup) :
    e.said.countP (·.1 == .releaseGroup) ≤ 1 := by
  have : e.said.countP (·.1 == .releaseGroup) = 0 :=
    List.countP_eq_zero.2 fun x hx => by simpa using h x hx
  omega

lemma never_of_idle {t : List (Call × Reply)} (h : Idle t) : ∀ x ∈ t, x.1 ≠ .releaseGroup := by
  rintro x hx hq
  have := h x hx
  rw [hq] at this
  exact Bool.noConfusion this

end Kinds

section Step

variable {h : List Event} {s : Sys} {e : Event}

lemma Inv.refused (hv : Inv h s) (ho : e.out = none) (hr : e.ret ≠ 0) (hi : Idle e.said) :
    Inv (e :: h) s ∧ Fits e h := by
  have hs : ∀ i, ¬ Stops i e := fun i => not_stops_of_idle hi
  have hl : ∀ i, ¬ Releases i e := fun i => not_releases_of_idle hi
  have ht : ∀ i, ¬ Retires i e := fun i h => hr h.2
  have hno : ∀ i, e.out ≠ some i := fun i => by simp [ho]
  refine ⟨⟨fun i => ?_, ?_, fun i ha => ?_, fun i r hir ha => ?_, fun i r hir => ?_⟩, ?_⟩
  · rw [← hv.allocated i]
    simp [hno i]
  · exact List.forall_mem_cons.2 ⟨fun i h => absurd h (by simp [hs, hl, ht]), hv.known⟩
  · exact ⟨(hv.active i ha).1, List.forall_mem_cons.2 ⟨ht i, (hv.active i ha).2⟩⟩
  · obtain ⟨hrel, e', he', h'⟩ := hv.others i r hir ha
    exact ⟨hrel, e', List.mem_cons_of_mem _ he', h'⟩
  · exact (hv.tracks i r hir).other (hno i) (hs i) (hl i)
  · exact {
      admitted := fun i h => absurd h (hno i)
      stopOnce := fun i h => absurd h (hs i)
      stopEffect := fun i h => absurd h (hs i)
      releaseOnce := fun i h => absurd h (hl i)
      releaseOnly := fun x hx hq => absurd hq (never_of_idle hi x hx)
      releaseCount := countP_of_never (never_of_idle hi)
      releaseAfter := fun i h => absurd h (hl i)
      retireAfter := fun i h => absurd h (ht i) }

lemma Inv.idle (hv : Inv h s) (ha : s.active = none) (j : ℕ) : ¬ InUse h j := by
  rintro ⟨ho, hn⟩
  have hj := (hv.allocated j).1 ho
  obtain ⟨-, e', he', ht⟩ := hv.others j _ (List.getElem?_eq_getElem hj) (by simp [ha])
  exact hn e' he' ht

lemma Tracks.fresh {i : ℕ} {r : X1Imsi} (ho : ∀ e' ∈ h, e'.out ≠ some i)
    (hk : ∀ e' ∈ e :: h, ¬ Stops i e' ∧ ¬ Releases i e') (hr : e.ret = r.receipt.error)
    (hu : Unstopped {} r) : Tracks (e :: h) i r where
  prepared := List.forall_mem_cons.2 ⟨fun _ => hr, fun e' he' h => absurd h (ho e' he')⟩
  unstopped _ := ⟨hu.stop, fun e' he' => (hk e' he').1⟩
  stopped ha := by
    rw [hu.stop] at ha
    exact absurd ha Bool.false_ne_true
  silenced e' he' hs := absurd hs (hk e' he').1
  counted := by
    rw [hu.stop]
    decide
  unreleased _ := ⟨hu.released, fun e' he' => (hk e' he').2⟩
  released ha := absurd (hu.released.symm.trans ha) Bool.false_ne_true
  outcome e' he' hs := absurd hs (hk e' he').2
  order ha := absurd (hu.releaseAttempted.symm.trans ha) Bool.false_ne_true

lemma Inv.prepared (hv : Inv h s) {q : Request} {r : X1Imsi} (hop : e.op = .prepare q)
    (ha : s.active = none) (ho : e.out = some s.receivers.length) (hr : e.ret = r.receipt.error)
    (hu : Unstopped {} r) (hn : ∀ x ∈ e.said, x.1 ≠ .releaseGroup) :
    Inv (e :: h) { receivers := s.receivers ++ [r], active := some s.receivers.length } ∧
      Fits e h := by
  have hs : ∀ i, ¬ Stops i e := fun i h => by simp [Stops, hop] at h
  have hl : ∀ i, ¬ Releases i e := fun i h => by simp [Releases, hop] at h
  have ht : ∀ i, ¬ Retires i e := fun i h => by simp [Retires, hop] at h
  -- The new receiver has a fresh index, which no earlier event names.
  have hnew : ∀ e' ∈ h, ¬ (Stops s.receivers.length e' ∨ Releases s.receivers.length e' ∨
      Retires s.receivers.length e') := fun e' he' h' =>
    absurd (hv.known e' he' _ h') (Nat.lt_irrefl _)
  refine ⟨⟨fun i => ?_, ?_, fun i hi => ?_, fun i r' hir hi => ?_, fun i r' hir => ?_⟩, ?_⟩
  · simp only [List.exists_mem_cons_iff, ho, hv.allocated i, Option.some.injEq, List.length_append,
      List.length_singleton]
    omega
  · refine List.forall_mem_cons.2
      ⟨fun i h => absurd h (by simp [hs, hl, ht]), fun e' he' i hi => ?_⟩
    have := hv.known e' he' i hi
    simp only [List.length_append, List.length_singleton]
    omega
  · obtain rfl := Option.some.inj hi
    refine ⟨by simp, List.forall_mem_cons.2 ⟨ht _, fun e' he' h' => ?_⟩⟩
    exact hnew e' he' (.inr (.inr h'))
  · have hlt : i < s.receivers.length := by
      have := (List.getElem?_eq_some_iff.1 hir).1
      simp only [List.length_append, List.length_singleton] at this
      have : s.receivers.length ≠ i := fun h => hi (h ▸ rfl)
      omega
    rw [List.getElem?_append_left hlt] at hir
    obtain ⟨hrel, e', he', h'⟩ := hv.others i r' hir (by simp [ha])
    exact ⟨hrel, e', List.mem_cons_of_mem _ he', h'⟩
  · by_cases hlt : i < s.receivers.length
    · rw [List.getElem?_append_left hlt] at hir
      refine (hv.tracks i r' hir).other (fun h => ?_) (hs i) (hl i)
      obtain rfl := Option.some.inj (ho.symm.trans h)
      exact absurd hlt (Nat.lt_irrefl _)
    · have hlen := (List.getElem?_eq_some_iff.1 hir).1
      simp only [List.length_append, List.length_singleton] at hlen
      obtain rfl : i = s.receivers.length := by omega
      obtain rfl : r = r' := by simpa using hir
      refine Tracks.fresh (fun e' he' h' => ?_) ?_ hr hu
      · exact absurd ((hv.allocated _).1 ⟨e', he', h'⟩) (Nat.lt_irrefl _)
      · refine List.forall_mem_cons.2 ⟨⟨hs _, hl _⟩, fun e' he' => ?_⟩
        exact ⟨fun h' => hnew e' he' (.inl h'), fun h' => hnew e' he' (.inr (.inl h'))⟩
  · exact {
      admitted := fun _ _ => hv.idle ha
      stopOnce := fun i h => absurd h (hs i)
      stopEffect := fun i h => absurd h (hs i)
      releaseOnce := fun i h => absurd h (hl i)
      releaseOnly := fun x hx hq => absurd hq (hn x hx)
      releaseCount := countP_of_never hn
      releaseAfter := fun i h => absurd h (hl i)
      retireAfter := fun i h => absurd h (ht i) }

lemma set_cases {l : List X1Imsi} {i j : ℕ} {r r' x : X1Imsi} (hi : l[i]? = some r)
    (hx : (l.set i r')[j]? = some x) : (j = i ∧ x = r') ∨ (j ≠ i ∧ l[j]? = some x) := by
  by_cases hij : i = j
  · subst hij
    rw [List.getElem?_set_self (List.getElem?_eq_some_iff.1 hi).1] at hx
    exact .inl ⟨rfl, (Option.some.inj hx).symm⟩
  · rw [List.getElem?_set_ne hij] at hx
    exact .inr ⟨fun h => hij h.symm, hx⟩

lemma Inv.changed (hv : Inv h s) {i : ℕ} {r r' : X1Imsi} (ho : e.out = none)
    (hi : s.receivers[i]? = some r) (ht : ∀ j, ¬ Retires j e)
    (hother : ∀ j, j ≠ i → ¬ Stops j e ∧ ¬ Releases j e)
    (hrel : s.active ≠ some i → r.receipt.released = true → r'.receipt.released = true)
    (hnew : Tracks h i r → Tracks (e :: h) i r') :
    Inv (e :: h) { s with receivers := s.receivers.set i r' } := by
  have hlen := (List.getElem?_eq_some_iff.1 hi).1
  have hno : ∀ j, e.out ≠ some j := fun j => by simp [ho]
  refine ⟨fun j => ?_, ?_, fun j ha => ?_, fun j x hx ha => ?_, fun j x hx => ?_⟩
  · rw [List.length_set, ← hv.allocated j]
    simp [hno j]
  · rw [List.length_set]
    refine List.forall_mem_cons.2 ⟨fun j hj => ?_, hv.known⟩
    by_cases hji : j = i
    · exact hji ▸ hlen
    · exact absurd hj (by simp [hother j hji, ht j])
  · rw [List.length_set]
    exact ⟨(hv.active j ha).1, List.forall_mem_cons.2 ⟨ht j, (hv.active j ha).2⟩⟩
  · rcases set_cases hi hx with ⟨rfl, rfl⟩ | ⟨-, hx⟩
    · obtain ⟨hr, e', he', h'⟩ := hv.others _ r hi ha
      exact ⟨hrel ha hr, e', List.mem_cons_of_mem _ he', h'⟩
    · obtain ⟨hr, e', he', h'⟩ := hv.others j x hx ha
      exact ⟨hr, e', List.mem_cons_of_mem _ he', h'⟩
  · rcases set_cases hi hx with ⟨rfl, rfl⟩ | ⟨hji, hx⟩
    · exact hnew (hv.tracks _ r hi)
    · exact (hv.tracks j x hx).other (hno j) (hother j hji).1 (hother j hji).2

lemma Inv.stopped (hv : Inv h s) {i : ℕ} {r r' : X1Imsi} {t u : List (Call × Reply)} {a : Reply}
    (hop : e.op = .stop (some i)) (ho : e.out = none) (hi : s.receivers[i]? = some r)
    (hs : r.receipt.stop.attempted = false) (he : e.said = t ++ (.vectorsFree, a) :: u)
    (ht : ∀ x ∈ t, ∃ k, x.1 = .handlerOurs k) (ha : a.ret ≠ 0)
    (hd : Does (stopAdmitted r) u (r', e.ret)) :
    Inv (e :: h) { s with receivers := s.receivers.set i r' } ∧ Fits e h := by
  obtain ⟨htried, hret, n, -, m, -, hcount, hr'⟩ := does_stopAdmitted hd
  have hnever : ∀ x ∈ e.said, x.1 ≠ .releaseGroup := by
    rw [he, List.forall_mem_append, List.forall_mem_cons]
    exact ⟨never_of_idle (idle_of_handlerOurs ht), nofun, ((stopAdmitted_keeps r).does hd).1⟩
  have hidle : ¬ Idle e.said := by
    intro hid
    obtain ⟨b, hb, -⟩ := (htried 0).1
    have := hid _ (he ▸ List.mem_append_right _ (List.mem_cons_of_mem _ hb))
    exact Bool.noConfusion this
  have hstops : ∀ j, Stops j e ↔ j = i := fun j => by simp [Stops, hop, hidle, eq_comm]
  have hl : ∀ j, ¬ Releases j e := fun j h => by simp [Releases, hop] at h
  have htr : ∀ j, ¬ Retires j e := fun j h => by simp [Retires, hop] at h
  -- It was not stopped before, so this is its only stop.
  have hold := (hv.tracks i r hi).unstopped hs
  refine ⟨hv.changed ho hi htr (fun j hj => ⟨fun h => hj ((hstops j).1 h), hl j⟩)
    (fun _ h => ?_) fun hT => ?_, ?_⟩
  · rw [hr']
    exact h
  · have hsil : (e.ret = 0 ↔ r'.receipt.stop.finished = true) ∧
        (e.ret = 0 ↔ Silenced e.said) := by
      rw [hr', he, silenced_behind ht]
      exact ⟨by simp, hret⟩
    refine ⟨?_, ?_, ?_, ?_, ?_, ?_, ?_, ?_, ?_⟩
    · rw [hr']
      exact List.forall_mem_cons.2 ⟨fun h => by simp [ho] at h, hT.prepared⟩
    · rw [hr']
      exact nofun
    · exact fun _ => ⟨e, List.mem_cons_self, (hstops i).2 rfl⟩
    · exact List.forall_mem_cons.2 ⟨fun _ => hsil, fun e' he' h => absurd h (hold.2 e' he')⟩
    · rw [hr', hold.1]
      simpa using hcount
    · rw [hr']
      exact fun h => ⟨(hT.unreleased h).1, List.forall_mem_cons.2 ⟨hl i, (hT.unreleased h).2⟩⟩
    · rw [hr']
      intro h
      obtain ⟨e', he', h'⟩ := hT.released h
      exact ⟨e', List.mem_cons_of_mem _ he', h'⟩
    · rw [hr']
      exact List.forall_mem_cons.2 ⟨fun h => absurd h (hl i), hT.outcome⟩
    · -- A receiver that was released had been stopped.
      rw [hr']
      intro h
      have := (hT.order h).2
      rw [hold.1] at this
      exact absurd this Bool.false_ne_true
  · exact {
      admitted := fun j h => by simp [ho] at h
      stopOnce := fun j h => by
        obtain rfl := (hstops j).1 h
        exact hold.2
      stopEffect := fun j _ => by
        refine ⟨⟨t, a, u, he, idle_of_handlerOurs ht, rfl, ha⟩, fun k => ?_⟩
        rw [he]
        simp [htried k]
      releaseOnce := fun j h => absurd h (hl j)
      releaseOnly := fun x hx hq => absurd hq (hnever x hx)
      releaseCount := countP_of_never hnever
      releaseAfter := fun j h => absurd h (hl j)
      retireAfter := fun j h => absurd h (htr j) }

lemma Inv.released (hv : Inv h s) {i : ℕ} {g : Bool} {r r' : X1Imsi} {t u : List (Call × Reply)}
    {a : Reply} (hop : e.op = .release (some i) g) (ho : e.out = none)
    (hi : s.receivers[i]? = some r) (hs : r.receipt.releaseAttempted = false)
    (hg : releasable r = true) (he : e.said = t ++ (.checkStopped, a) :: u) (ht : Idle t)
    (ha : a.ret = 0) (hd : Does (releaseAdmitted r) u (r', e.ret)) :
    Inv (e :: h) { s with receivers := s.receivers.set i r' } ∧ Fits e h := by
  obtain ⟨x, y, z, rfl, herr, hstop, hatt, hend⟩ := does_releaseAdmitted hd
  simp only [releasable, Bool.and_eq_true, beq_iff_eq] at hg
  have hidle : ¬ Idle e.said := by
    intro hid
    have := hid (.releaseGroup, z) (by simp [he])
    exact Bool.noConfusion this
  have hrels : ∀ j, Releases j e ↔ j = i := fun j => by simp [Releases, hop, hidle, eq_comm]
  have hst : ∀ j, ¬ Stops j e := fun j h => by simp [Stops, hop] at h
  have htr : ∀ j, ¬ Retires j e := fun j h => by simp [Retires, hop] at h
  have hT := hv.tracks i r hi
  have hold := hT.unreleased hs
  -- The gate has seen an error-free receiver whose stop was finished.
  have hfin : r.receipt.error = 0 ∧ r.receipt.stop.finished = true := by tauto
  refine ⟨hv.changed ho hi htr (fun j hj => ⟨hst j, fun h => hj ((hrels j).1 h)⟩)
    (fun _ h => absurd (hold.1.symm.trans h) Bool.false_ne_true) fun hT => ?_, ?_⟩
  · refine ⟨?_, ?_, ?_, ?_, ?_, ?_, ?_, ?_, ?_⟩
    · rw [herr]
      exact List.forall_mem_cons.2 ⟨fun h => by simp [ho] at h, hT.prepared⟩
    · rw [hstop]
      exact fun h => ⟨(hT.unstopped h).1, List.forall_mem_cons.2 ⟨hst i, (hT.unstopped h).2⟩⟩
    · rw [hstop]
      intro h
      obtain ⟨e', he', h'⟩ := hT.stopped h
      exact ⟨e', List.mem_cons_of_mem _ he', h'⟩
    · rw [hstop]
      exact List.forall_mem_cons.2 ⟨fun h => absurd h (hst i), hT.silenced⟩
    · rw [hstop]
      exact hT.counted
    · exact fun h => absurd (h.symm.trans hatt) Bool.false_ne_true
    · intro h
      rcases hend with ⟨hret, hpos, -⟩ | ⟨-, hsame⟩
      · exact ⟨e, List.mem_cons_self, (hrels i).2 rfl, hret, z, by simp [he], hpos⟩
      · exact absurd (hold.1.symm.trans (hsame.symm.trans h)) Bool.false_ne_true
    · refine List.forall_mem_cons.2 ⟨fun _ hne => ?_, fun e' he' h' => absurd h' (hold.2 e' he')⟩
      rcases hend with ⟨hret, -⟩ | ⟨-, hsame⟩
      · exact absurd hret hne
      · exact hsame.trans hold.1
    · rw [herr, hstop]
      exact fun _ => hfin
  · exact {
      admitted := fun j h => by simp [ho] at h
      stopOnce := fun j h => absurd h (hst j)
      stopEffect := fun j h => absurd h (hst j)
      releaseOnce := fun j h => by
        obtain rfl := (hrels j).1 h
        exact hold.2
      releaseOnly := fun _ _ _ => ⟨i, (hrels i).2 rfl⟩
      releaseCount := by
        have hzero : t.countP (·.1 == .releaseGroup) = 0 :=
          List.countP_eq_zero.2 fun x hx => by simpa using never_of_idle ht x hx
        simp [he, hzero]
      releaseAfter := fun j h => by
        obtain rfl := (hrels j).1 h
        obtain ⟨e', he', h'⟩ := hT.stopped (by tauto)
        have hsil := hT.silenced e' he' h'
        exact ⟨⟨t, a, _, he, ht, rfl, ha⟩, e', he', h', hsil.2.1 (hsil.1.2 hfin.2)⟩
      retireAfter := fun j h => absurd h (htr j) }

lemma Inv.retired (hv : Inv h s) {i : ℕ} {g : Bool} {r : X1Imsi}
    (hop : e.op = .retire (some i) g) (ho : e.out = none) (hi : s.receivers[i]? = some r)
    (ha : s.active = some i) (hg : retirable r = true) (hr : e.ret = 0) (hid : Idle e.said) :
    Inv (e :: h) { s with active := none } ∧ Fits e h := by
  have hs : ∀ j, ¬ Stops j e := fun j => not_stops_of_idle hid
  have hl : ∀ j, ¬ Releases j e := fun j => not_releases_of_idle hid
  have ht : ∀ j, Retires j e ↔ j = i := fun j => by simp [Retires, hop, hr, eq_comm]
  have hno : ∀ j, e.out ≠ some j := fun j => by simp [ho]
  -- The gate has seen a released receiver.
  have hrel : r.receipt.released = true := by
    simp only [retirable, Bool.and_eq_true] at hg
    tauto
  refine ⟨⟨fun j => ?_, ?_, fun j => nofun, fun j x hx _ => ?_, fun j x hx => ?_⟩, ?_⟩
  · rw [← hv.allocated j]
    simp [hno j]
  · refine List.forall_mem_cons.2 ⟨fun j hj => ?_, hv.known⟩
    rcases hj with hj | hj | hj
    · exact absurd hj (hs j)
    · exact absurd hj (hl j)
    · exact (ht j).1 hj ▸ (hv.active i ha).1
  · by_cases hji : j = i
    · subst hji
      obtain rfl := Option.some.inj (hi.symm.trans hx)
      exact ⟨hrel, e, List.mem_cons_self, (ht j).2 rfl⟩
    · obtain ⟨hx', e', he', h'⟩ := hv.others j x hx fun h => hji (Option.some.inj (h.symm.trans ha))
      exact ⟨hx', e', List.mem_cons_of_mem _ he', h'⟩
  · exact (hv.tracks j x hx).other (hno j) (hs j) (hl j)
  · exact {
      admitted := fun j h => absurd h (hno j)
      stopOnce := fun j h => absurd h (hs j)
      stopEffect := fun j h => absurd h (hs j)
      releaseOnce := fun j h => absurd h (hl j)
      releaseOnly := fun x hx hq => absurd hq (never_of_idle hid x hx)
      releaseCount := countP_of_never (never_of_idle hid)
      releaseAfter := fun j h => absurd h (hl j)
      retireAfter := fun j h => by
        obtain rfl := (ht j).1 h
        exact (hv.tracks j r hi).released hrel }

lemma Inv.step {s' : Sys} (hv : Inv h s) (he : Effect s e s') : Inv (e :: h) s' ∧ Fits e h := by
  cases he with
  | refused ho hr hi => exact hv.refused ho hr hi
  | prepared q r hop ha ho hr hu hn => exact hv.prepared hop ha ho hr hu hn
  | stopped i r r' t u a hop ho hi hs hg he ht ha hd => exact hv.stopped hop ho hi hs he ht ha hd
  | released i g r r' t u a hop ho hi hs hg he ht ha hd =>
    exact hv.released hop ho hi hs hg he ht ha hd
  | retired i g r hop ho hi ha hg hr hid => exact hv.retired hop ho hi ha hg hr hid

end Step

/-- What holds of any run: `h` is what happened, the latest first, and `s` is what it led to. -/
structure LifeCycle (h : List Event) (s : Sys) : Prop where
  slot : ∀ i, InUse h i ↔ s.active = some i
  prepareFailed : ∀ e ∈ h, ∀ i, e.out = some i → e.ret ≠ 0 → s.active = some i
  stopFailed : ∀ e ∈ h, ∀ i, Stops i e → e.ret ≠ 0 → s.active = some i
  releaseFailed : ∀ e ∈ h, ∀ i, Releases i e → e.ret ≠ 0 → s.active = some i
  finished : ∀ i r, s.receivers[i]? = some r →
    (r.receipt.stop.finished = true ↔ ∃ e ∈ h, Stops i e ∧ Silenced e.said) ∧
    (r.receipt.stop.finished = true ↔
      r.receipt.stop.banksDisabled = 8 ∧ r.receipt.stop.parentsDetached = 8)
  fits : ∀ e before, e :: before <:+ h → Fits e before

lemma Inv.released_of_not_active {h : List Event} {s : Sys} {i : ℕ} (hv : Inv h s)
    (hi : i < s.receivers.length) (ha : s.active ≠ some i) :
    ∃ r, Tracks h i r ∧ r.receipt.released = true ∧ r.receipt.error = 0 ∧
      r.receipt.stop.finished = true := by
  have hr := List.getElem?_eq_getElem hi
  have ht := hv.tracks i _ hr
  obtain ⟨hrel, -⟩ := hv.others i _ hr ha
  refine ⟨_, ht, hrel, ht.order ?_⟩
  by_contra hn
  exact absurd ((ht.unreleased (by simpa using hn)).1.symm.trans hrel) Bool.false_ne_true

lemma Inv.lifeCycle {h : List Event} {s : Sys} (hv : Inv h s)
    (hf : ∀ e before, e :: before <:+ h → Fits e before) : LifeCycle h s where
  slot i := by
    constructor
    · rintro ⟨ho, hn⟩
      by_contra ha
      have hr := List.getElem?_eq_getElem ((hv.allocated i).1 ho)
      obtain ⟨-, e, he, ht⟩ := hv.others i _ hr ha
      exact hn e he ht
    · intro ha
      exact ⟨(hv.allocated i).2 (hv.active i ha).1, (hv.active i ha).2⟩
  prepareFailed e he i ho hr := by
    by_contra ha
    -- A receiver that is out of its slot was released, so all before it succeeded.
    obtain ⟨r, ht, -, herr, -⟩ :=
      hv.released_of_not_active ((hv.allocated i).1 ⟨e, he, ho⟩) ha
    exact hr ((ht.prepared e he ho).trans herr)
  stopFailed e he i hs hr := by
    by_contra ha
    obtain ⟨r, ht, -, -, hfin⟩ := hv.released_of_not_active (hv.known e he i (.inl hs)) ha
    exact hr ((ht.silenced e he hs).1.2 hfin)
  releaseFailed e he i hs hr := by
    by_contra ha
    obtain ⟨r, ht, hrel, -⟩ := hv.released_of_not_active (hv.known e he i (.inr (.inl hs))) ha
    exact absurd ((ht.outcome e he hs hr).symm.trans hrel) Bool.false_ne_true
  finished i r hr := by
    have ht := hv.tracks i r hr
    refine ⟨⟨fun hfin => ?_, ?_⟩, ht.counted⟩
    · have hatt : r.receipt.stop.attempted = true := by
        by_contra hn
        rw [(ht.unstopped (by simpa using hn)).1] at hfin
        exact absurd hfin Bool.false_ne_true
      obtain ⟨e, he, hs⟩ := ht.stopped hatt
      obtain ⟨h₁, h₂⟩ := ht.silenced e he hs
      exact ⟨e, he, hs, h₂.1 (h₁.2 hfin)⟩
    · rintro ⟨e, he, hs, hsil⟩
      obtain ⟨h₁, h₂⟩ := ht.silenced e he hs
      exact h₁.1 (h₂.2 hsil)
  fits := hf

/-- Answers of a platform on which everything goes well; a register reads as it was written. -/
def goodAnswers (past : List (Call × Reply)) : Call → Reply
  | .alloc | .pdevActive | .ownerActive | .openGroup | .vectorsFree | .handlerOurs _
  | .bridgeDomain | .bridgeMsiDomain | .releaseGroup => { ret := 1 }
  | .readl .vendor => { word := 0x011117cb }
  | .readl .addrLo => { word := 0x80000000 }
  | .readl .addrHi => { word := 0 }
  | .readl (.status _) => { word := 0 }
  | .readl g => { word := (past.findSome? fun x =>
      match x.1 with
      | .writel g' v => if g' = g then some v else none
      | _ => none).getD U32_MAX }
  | .msiHostInit => { pp := {
      irqDomain := true, numVectors := 256, msiIrq := fun i => 100 + i, msiData := 0x80000000 } }
  | _ => {}

def goodRequest : Request :=
  { found := { parents := fun i => { irq := 100 + i }, global := { irq := 200 } } }

-- A second receiver is admitted once the first one is retired.
example : (Steps.run (World.step goodAnswers) {} [.prepare goodRequest, .prepare goodRequest,
    .stop (some 0), .release (some 0) true, .retire (some 0) true,
    .prepare goodRequest]).sys.active = some 1 := by
  decide +kernel

end YogaUsb4.Imsi
