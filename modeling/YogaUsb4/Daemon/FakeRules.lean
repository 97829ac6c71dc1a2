import YogaUsb4.Daemon.Rules
import YogaUsb4.Daemon.Fake

/-!
What the service knows on the bench. The port and all that is still to come may be anything at
every answer; the session changes by the service's own stores only.
-/

namespace YogaUsb4.Daemon

open HostState Prog

abbrev World.session (s : World Bench) : FakeSession := s.kernel.fake.session

abbrev World.after (s : World Bench) (c : FakeSession) (p : Port) (ts : List Tick)
    (log : List Event) : World Bench :=
  { s with kernel := ⟨⟨c, p⟩, ts⟩, log := log }

@[simp] lemma after_service (s : World Bench) (c : FakeSession) (p : Port) (ts : List Tick)
    (log : List Event) : (s.after c p ts log).service = s.service := rfl

@[simp] lemma after_session (s : World Bench) (c : FakeSession) (p : Port) (ts : List Tick)
    (log : List Event) : (s.after c p ts log).session = c := rfl

@[simp] lemma session_mk (sv : Service) (op : Op) (c : FakeSession) (p : Port) (ts : List Tick)
    (log : List Event) : World.session ⟨sv, op, ⟨⟨c, p⟩, ts⟩, log⟩ = c := rfl

@[simp] lemma session_service (s : World Bench) (sv : Service) :
    World.session { s with service := sv } = s.session := rfl

@[simp] lemma session_op (s : World Bench) (op : Op) :
    World.session { s with op := op } = s.session := rfl

@[simp] lemma bench_int : bench.int = decimal := rfl

@[simp] lemma bench_isdecimal : bench.isdecimal = isDecimal := rfl

/-! ### Stores -/

/-- What a store comes to, for all its caller knows of the port: `Q` of the session after it
went through, `E` of the session and the error it raised. -/
@[simp] def storeVc (c : FakeSession) (Q : FakeSession → Prop) (E : Fault → FakeSession → Prop) :
    Attribute → Prop
  | .inventoryOnce =>
    if c.prepared then
      c.waiting →
        E (.osError .enotconn "not negotiated")
          { c with negotiationFailures := c.negotiationFailures + 1 } ∧
        Q { c with waiting := false, complete := true, diskName := some "nvme1n1" }
    else ∀ e, Q { c with prepared := true, waiting := true, initialEvent := e }
  | .endpointRemoveOnce => c.complete → Q { c with removed := true, diskName := none }
  | .tunnelQuiesceOnce =>
    c.removed → c.stages = [] → Q { c with stages := [.tunnel] }
  | .hostQuiesceOnce =>
    c.removed → c.stages = [.tunnel] → Q { c with stages := [.tunnel, .host] }
  | .powerQuiesceOnce =>
    c.removed → c.stages = [.tunnel, .host] →
      Q { c with stages := [.tunnel, .host, .power], retired := true }
  | .idleRetireOnce =>
    c.idleAttempted = false →
      E (.osError .ebusy "refused, session kept") c ∧ E (.osError .eperm "not idle") c ∧
      (c.prepared → c.waiting → c.complete = false →
        E (.osError .eio "power stop failed") { c with idleAttempted := true } ∧
        Q { c with idleAttempted := true, idle := true, retired := true })
  | .pulledRetireOnce =>
    c.complete → c.removed = false →
      E (.osError .eio "pulled retirement failed") c ∧
      Q { c with pulledRetired := true, retired := true, diskName := none }
  | .renewSession =>
    c.retired →
      E (.osError .ebusy "attached") c ∧
      Q { c with
        generation := c.generation + 1
        idle := false, idleAttempted := false, pulledRetired := false
        prepared := false, waiting := false, complete := false, retired := false
        removed := false, stages := [], negotiationFailures := 0 }

def Stored.Meets (r : Stored) (Q : FakeSession → Prop) (E : Fault → FakeSession → Prop) : Prop :=
  match r.1 with
  | .ok _ => Q r.2.session
  | .error f => E f r.2.session

lemma asserting_meets {k : FakeKernel} {b : Bool} {r : Stored} {Q : FakeSession → Prop}
    {E : Fault → FakeSession → Prop} (hc : E .crash k.session)
    (h : b = true → Stored.Meets r Q E) : Stored.Meets (asserting k b r) Q E := by
  cases b with
  | true => exact h rfl
  | false => exact hc

section Stores

variable {c : FakeSession} {p : Port} {Q : FakeSession → Prop} {E : Fault → FakeSession → Prop}

lemma storeInventory_meets (token : String) (h : storeVc c Q E .inventoryOnce)
    (hc : E .crash c) : Stored.Meets (storeInventory ⟨c, p⟩ token) Q E := by
  refine asserting_meets hc fun _ => ?_
  simp only [storeVc] at h
  by_cases hp : c.prepared = true
  · rw [if_pos hp] at h
    rw [if_neg (by simp [hp])]
    refine asserting_meets hc fun hw => ?_
    simp only [Bool.and_eq_true] at hw
    have hw := h hw.1.1
    dsimp only
    split_ifs
    · exact hw.1
    · exact hw.2
  · rw [if_neg hp] at h
    rw [if_pos (by simp [hp])]
    exact asserting_meets hc fun _ => h _

lemma storeQuiesce_meets (st : QuiesceStage)
    (h : c.removed → c.stages = st.before →
      Q { c with stages := c.stages ++ [st], retired := c.retired || st == .power })
    (hc : E .crash c) : Stored.Meets (storeQuiesce ⟨c, p⟩ st) Q E := by
  refine asserting_meets hc fun hs => ?_
  simp only [Bool.and_eq_true, beq_iff_eq] at hs
  exact h hs.1 hs.2

lemma storeIdle_meets (token : String) (h : storeVc c Q E .idleRetireOnce) (hc : E .crash c) :
    Stored.Meets (storeIdle ⟨c, p⟩ token) Q E := by
  refine asserting_meets hc fun ha => ?_
  simp only [Bool.and_eq_true, Bool.not_eq_true'] at ha
  obtain ⟨hbusy, hperm, hidle⟩ := h ha.2
  dsimp only
  split_ifs with hr hn hf
  · exact hbusy
  · exact hperm
  all_goals
    simp only [Bool.or_eq_true, Bool.not_eq_true', Bool.and_eq_false_iff, not_or,
      Bool.not_eq_false, Bool.not_eq_true] at hn
  · exact (hidle hn.1.1.1 hn.1.1.2 hn.1.2).1
  · exact (hidle hn.1.1.1 hn.1.1.2 hn.1.2).2

lemma storePulled_meets (token : String) (h : storeVc c Q E .pulledRetireOnce) (hc : E .crash c) :
    Stored.Meets (storePulled ⟨c, p⟩ token) Q E := by
  refine asserting_meets hc fun ha => ?_
  simp only [Bool.and_eq_true, Bool.not_eq_true'] at ha
  have hp := h ha.1.1.1.2 ha.1.1.2
  dsimp only
  split_ifs
  · exact hp.1
  · exact hp.2

lemma storeRenew_meets (token : String) (h : storeVc c Q E .renewSession) (hc : E .crash c) :
    Stored.Meets (storeRenew ⟨c, p⟩ token) Q E := by
  refine asserting_meets hc fun ha => ?_
  simp only [Bool.and_eq_true] at ha
  have hr := h ha.2
  dsimp only
  split_ifs
  · exact hr.1
  · exact hr.2

lemma storeVc_sound {name : Attribute} (token : String) (h : storeVc c Q E name)
    (hc : E .crash c) : Stored.Meets (FakeKernel.store ⟨c, p⟩ name token) Q E := by
  cases name with
  | inventoryOnce => exact storeInventory_meets token h hc
  | endpointRemoveOnce =>
    refine asserting_meets hc fun ha => ?_
    simp only [Bool.and_eq_true] at ha
    exact h ha.2
  | tunnelQuiesceOnce =>
    have hp : (QuiesceStage.tunnel == .power) = false := rfl
    refine storeQuiesce_meets .tunnel (fun hr hs => ?_) hc
    simpa [hp, hs, QuiesceStage.before] using h hr hs
  | hostQuiesceOnce =>
    have hp : (QuiesceStage.host == .power) = false := rfl
    refine storeQuiesce_meets .host (fun hr hs => ?_) hc
    simpa [hp, hs, QuiesceStage.before] using h hr hs
  | powerQuiesceOnce =>
    refine storeQuiesce_meets .power (fun hr hs => ?_) hc
    simpa [hs, QuiesceStage.before] using h hr hs
  | pulledRetireOnce => exact storePulled_meets token h hc
  | idleRetireOnce => exact storeIdle_meets token h hc
  | renewSession => exact storeRenew_meets token h hc

end Stores

/-! ### Questions -/

@[simp] def askVc (s : World Bench) : {α : Type} → Ask α → (α → World Bench → Prop) →
    (Fault → World Bench → Prop) → Prop
  | _, .read name, Q, _ => ∀ p₀ p ts log,
    Q (snapshot s.session p₀ name) (s.after s.session p ts log)
  | _, .disk, Q, _ => ∀ p ts log, Q s.session.diskName (s.after s.session p ts log)
  | _, .store name _, Q, E => ∀ p ts log,
    storeVc s.session (fun c => Q () (s.after c p ts log)) (fun f c => E f (s.after c p ts log))
      name
  | _, _, Q, _ => ∀ a p ts log, Q a (s.after s.session p ts log)

lemma askVc_sound {α : Type} {P : World Bench → Prop} {q : Ask α} {Q : α → World Bench → Prop}
    {E : Fault → World Bench → Prop} {s : World Bench} (h : askVc s q Q E)
    (hc : ∀ p ts log, E .crash (s.after s.session p ts log)) :
    wp Free (Between P) (ask bench q).1 Q E s := by
  have hw : ∀ r k, bench.answer q s.kernel = (r, k) →
      match r with
      | .ok a => Q a (s.asked k (q.event r))
      | .error f => E f (s.asked k (q.event r)) := by
    intro r k hr
    simp only [bench, Bench.answer] at hr
    split at hr
    · cases hr
      exact hc _ _ _
    · cases q with
      | store name token =>
        rcases hk : FakeKernel.store ⟨s.session, s.kernel.portNow⟩ name token with ⟨r', k'⟩
        simp only [FakeKernel.answer, hk, Prod.mk.injEq] at hr
        obtain ⟨rfl, rfl⟩ := hr
        have hm := storeVc_sound (p := s.kernel.portNow) token
          (h k'.port s.kernel.ticks.tail (s.log ++ [.store name token r'])) (hc _ _ _)
        rw [hk] at hm
        cases r' with
        | ok a => exact hm
        | error f => exact hm
      | _ =>
        cases hr
        first | exact h _ _ _ _ | exact h _ _ _
  rcases hr : bench.answer q s.kernel with ⟨f | a, k⟩
  · exact (wp_ask_error hr).mpr fun _ => ⟨by rintro ⟨⟩, hw _ _ hr⟩
  · exact (wp_ask_ok hr).mpr fun _ => ⟨by rintro ⟨⟩, hw _ _ hr⟩

namespace OnBench

scoped instance {α : Type} {P : World Bench → Prop} (q : Ask α) :
    Vc Free (Between P) (ask bench q) where
  vc Q E s := askVc s q Q E ∧ ∀ p ts log, E .crash (s.after s.session p ts log)
  sound h := askVc_sound h.1 h.2

end OnBench

end YogaUsb4.Daemon
