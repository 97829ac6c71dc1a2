import YogaUsb4.Steps
import YogaUsb4.Daemon.Fake
import Mathlib.Data.List.Count
import Mathlib.Logic.Function.Basic

/-!
The files between the sleep hook and the service. A hook writes a temporary file, renames it onto
`sleep-request` and polls `sleep-result`; the service reads the request, unlinks it, handles it and
renames its answer onto `sleep-result`. Reading and unlinking are two operations, and any number of
hooks may rename between them.
-/

namespace YogaUsb4.Daemon

open Steps

/-! ### The files -/

/-- A request as the service reads it; `{}` has neither key. -/
structure Request where
  action : Option String
  nonce : Option String
  deriving DecidableEq

inductive Contents
  | json (r : Request)
  | malformed
  deriving DecidableEq

/-- A text that is no JSON is read as `{}`. -/
def Contents.loads : Contents → Request
  | .json r => r
  | .malformed => ⟨none, none⟩

/-- What `sleep-result` holds; a text that is no JSON is the same to a hook as no file. -/
structure Result where
  nonce : Option String
  ok : Bool
  message : String
  phase : Phase
  deriving DecidableEq

/-- `str(request.get('action'))` as `sleep_request` takes it. -/
def Request.sleepAction (r : Request) : SleepAction :=
  if r.action = some "pre" then .pre else if r.action = some "post" then .post else .unknown

/-- Where a hook is: before its first write, before its rename, polling, or done. -/
inductive HookAt
  | start | written | waiting
  | answered (r : Result)
  | gaveUp
  deriving DecidableEq

/-- Where the service is in `answer_sleep`. An exception that it handles nowhere stops it. -/
inductive AnswerAt
  | idle
  | read (r : Request)
  | unlinked (r : Request)
  | handled (r : Request) (res : Result)
  | stopped
  deriving DecidableEq

structure History where
  posted : List Request := []
  /-- Replaced by a later request before they were read. -/
  overwritten : List Request := []
  /-- Unlinked before they were read. -/
  lost : List Request := []
  handled : List Request := []
  produced : List (Request × Result) := []
  /-- What `sleep-request` holds was not read yet. -/
  unread : Bool := false

structure Files (κ H : Type) where
  request : Option Contents
  result : Option Result
  temporary : H → Option Request
  hooks : H → HookAt
  service : AnswerAt
  world : World κ
  history : History

inductive FileAct (H : Type)
  | write (h : H)
  | rename (h : H)
  | poll (h : H)
  | timeout (h : H)
  | read
  | unlink
  | handle
  | reply

/-- The hooks, with the nonce of each, and what they and the service start from. The nonces are
unique, also among what the files hold. -/
structure Hooks (κ H : Type) where
  action : H → String
  nonce : H → String
  request : Option Contents
  result : Option Result
  world : World κ
  nonce_injective : Function.Injective nonce
  request_foreign : ∀ c h, request = some c → c.loads.nonce ≠ some (nonce h)
  result_foreign : ∀ r h, result = some r → r.nonce ≠ some (nonce h)

section

variable {κ H : Type} (P : Hooks κ H)

/-- `dict(action=action, nonce=nonce)`. -/
def Hooks.requestOf (h : H) : Request := ⟨some (P.action h), some (P.nonce h)⟩

def Hooks.start : Files κ H where
  request := P.request
  result := P.result
  temporary := fun _ => none
  hooks := fun _ => .start
  service := .idle
  world := P.world
  history := { posted := (P.request.map Contents.loads).toList, unread := P.request.isSome }

/-- The requests in `sleep-request` that were not read. -/
def Files.unread (s : Files κ H) : List Request :=
  if s.history.unread then (s.request.map Contents.loads).toList else []

/-- The request that the service has read and not handled. -/
def Files.inHand (s : Files κ H) : List Request :=
  match s.service with
  | .read r => [r]
  | .unlinked r => [r]
  | _ => []

variable [DecidableEq H] (K : Kernel κ) (n : ℕ)

/-- `sleep_request`, and the answer the service will write. -/
def handleRequest (s : Files κ H) (r : Request) : Files κ H :=
  let o := (sleepRequest K n r.sleepAction false).1 s.world
  let w := Prog.final s.world o.trace
  { s with
    world := w
    service := match o.res with
      | .ok (ok, message) => .handled r ⟨r.nonce, ok, message, w.service.phase⟩
      | .error _ => .stopped
    history := { s.history with handled := s.history.handled ++ [r] } }

def fileStep (s : Files κ H) : FileAct H → Files κ H
  | .write h =>
    if s.hooks h = .start then
      { s with
        temporary := Function.update s.temporary h (some (P.requestOf h))
        hooks := Function.update s.hooks h .written }
    else s
  | .rename h =>
    match s.hooks h, s.temporary h with
    | .written, some r =>
      { s with
        request := some (.json r)
        temporary := Function.update s.temporary h none
        hooks := Function.update s.hooks h .waiting
        history := { s.history with
          posted := s.history.posted ++ [r]
          overwritten := s.history.overwritten ++ s.unread
          unread := true } }
    | _, _ => s
  | .poll h =>
    match s.hooks h, s.result with
    | .waiting, some r =>
      if r.nonce = some (P.nonce h) then
        { s with hooks := Function.update s.hooks h (.answered r) }
      else s
    | _, _ => s
  | .timeout h =>
    if s.hooks h = .waiting then { s with hooks := Function.update s.hooks h .gaveUp } else s
  | .read =>
    match s.service, s.request with
    | .idle, some c =>
      { s with service := .read c.loads, history := { s.history with unread := false } }
    | _, _ => s
  | .unlink =>
    match s.service, s.request with
    | .read r, some _ =>
      { s with
        request := none
        service := .unlinked r
        history := { s.history with lost := s.history.lost ++ s.unread, unread := false } }
    | .read _, none => { s with service := .stopped }
    | _, _ => s
  | .handle =>
    match s.service with
    | .unlinked r => handleRequest K n s r
    | _ => s
  | .reply =>
    match s.service with
    | .handled r res =>
      { s with
        result := some res
        service := .idle
        history := { s.history with produced := s.history.produced ++ [(r, res)] } }
    | _ => s

/-! ### Where the requests go -/

/-- Every request that was posted is in one place. -/
def Conserved (s : Files κ H) : Prop := ∀ r,
  s.history.posted.count r = s.history.overwritten.count r + s.unread.count r + s.inHand.count r +
    s.history.handled.count r + s.history.lost.count r

/-- Between its read and its unlink the service's request file is there; at any other time what
the file holds was not read. -/
structure Marked (s : Files κ H) : Prop where
  present : ∀ r, s.service = .read r → s.request.isSome
  unread : (∀ r, s.service ≠ .read r) → s.history.unread = s.request.isSome

omit [DecidableEq H] in
/-- A request that was handled is answered under its own nonce, or has stopped the service. -/
lemma handleRequest_service (s : Files κ H) (r : Request) :
    (∃ res, (handleRequest K n s r).service = .handled r res ∧ res.nonce = r.nonce) ∨
      (handleRequest K n s r).service = .stopped := by
  simp only [handleRequest]
  split
  · exact .inl ⟨_, rfl, rfl⟩
  · exact .inr rfl

/-- Everything an operation can do to the files: each branch of `fileStep`, with what it has
tested. A hook that goes on waiting and a service that finds nothing to do are `still`. -/
inductive Stepped (s : Files κ H) : FileAct H → Files κ H → Prop
  | still {a} : Stepped s a s
  | write {h} (hs : s.hooks h = .start) : Stepped s (.write h)
      { s with
        temporary := Function.update s.temporary h (some (P.requestOf h))
        hooks := Function.update s.hooks h .written }
  | rename {h r} (hw : s.hooks h = .written) (hr : s.temporary h = some r) : Stepped s (.rename h)
      { s with
        request := some (.json r)
        temporary := Function.update s.temporary h none
        hooks := Function.update s.hooks h .waiting
        history := { s.history with
          posted := s.history.posted ++ [r]
          overwritten := s.history.overwritten ++ s.unread
          unread := true } }
  | answered {h res} (hr : s.result = some res) (hn : res.nonce = some (P.nonce h)) :
      Stepped s (.poll h) { s with hooks := Function.update s.hooks h (.answered res) }
  | gaveUp {h} : Stepped s (.timeout h) { s with hooks := Function.update s.hooks h .gaveUp }
  | read {c} (hs : s.service = .idle) (hc : s.request = some c) : Stepped s .read
      { s with service := .read c.loads, history := { s.history with unread := false } }
  | unlink {r} (hs : s.service = .read r) : Stepped s .unlink
      { s with
        request := none
        service := .unlinked r
        history := { s.history with lost := s.history.lost ++ s.unread, unread := false } }
  | vanished {r} (hs : s.service = .read r) (hc : s.request = none) :
      Stepped s .unlink { s with service := .stopped }
  | handle {r} (hs : s.service = .unlinked r) : Stepped s .handle (handleRequest K n s r)
  | reply {r res} (hs : s.service = .handled r res) : Stepped s .reply
      { s with
        result := some res
        service := .idle
        history := { s.history with produced := s.history.produced ++ [(r, res)] } }

lemma fileStep_stepped (s : Files κ H) (a : FileAct H) :
    Stepped P K n s a (fileStep P K n s a) := by
  fun_cases fileStep P K n s a <;> constructor <;> assumption

variable {P K n} {s t : Files κ H} {a : FileAct H}

lemma Stepped.marked (ht : Stepped P K n s a t) (h : Marked s) : Marked t := by
  cases ht with
  | still => exact h
  | write | answered | gaveUp => exact ⟨h.present, h.unread⟩
  | rename => exact ⟨fun _ _ => rfl, fun _ => rfl⟩
  | @read c _ hc => exact ⟨fun _ _ => by simp [hc], fun hn => absurd rfl (hn c.loads)⟩
  | unlink => exact ⟨fun _ hr => by simp at hr, fun _ => rfl⟩
  | @vanished r hs hc =>
    have := h.present r hs
    simp [hc] at this
  | @handle r hs =>
    refine ⟨fun q hq => ?_, fun _ => h.unread (by simp [hs])⟩
    rcases handleRequest_service K n s r with ⟨res, he, _⟩ | he <;> simp [he] at hq
  | reply hs => exact ⟨fun _ hr => by simp at hr, fun _ => h.unread (by simp [hs])⟩

lemma Stepped.conserved (ht : Stepped P K n s a t) (hm : Marked s) (h : Conserved s) :
    Conserved t := by
  intro q
  have hq := h q
  cases ht with
  | still | write | answered | gaveUp => exact hq
  | rename =>
    simp only [Files.unread, Files.inHand, List.count_append, Option.map_some,
      Option.toList_some, if_true, Contents.loads] at hq ⊢
    omega
  | read hs hc =>
    -- The service was idle, so what it reads had not been read before.
    have hu : s.history.unread = true := by rw [hm.unread (by simp [hs]), hc]; rfl
    simp only [Files.unread, Files.inHand, hu, hs, hc, if_true, Option.map_some,
      Option.toList_some, List.count_nil, Bool.false_eq_true, if_false] at hq ⊢
    omega
  | unlink hs =>
    -- What is in the file by now has replaced the request that was read, and is lost.
    simp only [Files.inHand, hs, List.count_append] at hq ⊢
    simp only [Files.unread, Bool.false_eq_true, if_false, List.count_nil] at hq ⊢
    omega
  | @vanished r hs hc =>
    have := hm.present r hs
    simp [hc] at this
  | @handle r hs =>
    have hn : (handleRequest K n s r).inHand = [] := by
      rcases handleRequest_service K n s r with ⟨res, he, _⟩ | he <;> simp [Files.inHand, he]
    have hu : (handleRequest K n s r).unread = s.unread := rfl
    rw [hn, hu]
    simp only [Files.inHand, hs] at hq
    simp only [handleRequest, List.count_append, List.count_nil]
    omega
  | reply hs =>
    simp only [Files.inHand, hs] at hq
    exact hq

/-! ### Whose requests they are -/

variable (P) in
/-- No hook has posted twice, and each request is a hook's own or was there before. -/
structure Owned (s : Files κ H) : Prop where
  temporary : ∀ h, s.hooks h = .written → s.temporary h = some (P.requestOf h)
  unposted : ∀ h, s.hooks h = .start ∨ s.hooks h = .written →
    s.history.posted.count (P.requestOf h) = 0
  once : ∀ r, s.history.posted.count r ≤ 1
  known : ∀ r ∈ s.history.posted, (∃ h, r = P.requestOf h) ∨ ∀ h, r.nonce ≠ some (P.nonce h)

omit [DecidableEq H] in
variable (P) in
lemma Hooks.requestOf_injective : Function.Injective P.requestOf := by
  intro x y h
  have hn : some (P.nonce x) = some (P.nonce y) := congrArg Request.nonce h
  exact P.nonce_injective (Option.some.inj hn)

lemma Owned.leave (h : Owned P s) {x : H} {v : HookAt} (hs : v ≠ .start) (hw : v ≠ .written) :
    Owned P { s with hooks := Function.update s.hooks x v } := by
  refine ⟨fun y hy => ?_, fun y hy => ?_, h.once, h.known⟩
  · rcases eq_or_ne y x with rfl | hne
    · simp [hw] at hy
    · simp only [ne_eq, hne, not_false_eq_true, Function.update_of_ne] at hy
      exact h.temporary y hy
  · rcases eq_or_ne y x with rfl | hne
    · simp [hs, hw] at hy
    · simp only [ne_eq, hne, not_false_eq_true, Function.update_of_ne] at hy
      exact h.unposted y hy

lemma Stepped.owned (ht : Stepped P K n s a t) (h : Owned P s) : Owned P t := by
  cases ht with
  | still => exact h
  | @write x hx =>
    refine ⟨fun y hy => ?_, fun y hy => ?_, h.once, h.known⟩
    · rcases eq_or_ne y x with rfl | hne
      · simp
      · simp only [ne_eq, hne, not_false_eq_true, Function.update_of_ne] at hy ⊢
        exact h.temporary y hy
    · rcases eq_or_ne y x with rfl | hne
      · exact h.unposted y (.inl hx)
      · simp only [ne_eq, hne, not_false_eq_true, Function.update_of_ne] at hy
        exact h.unposted y hy
  | @rename x r hw hr =>
    have hrx : r = P.requestOf x := Option.some.inj (hr.symm.trans (h.temporary x hw))
    subst hrx
    -- The hook's request was not posted before, and no other hook has the same.
    have h0 := h.unposted x (.inr hw)
    refine ⟨fun y hy => ?_, fun y hy => ?_, fun r => ?_, fun r hr => ?_⟩
    · rcases eq_or_ne y x with rfl | hne
      · simp at hy
      · simp only [ne_eq, hne, not_false_eq_true, Function.update_of_ne] at hy ⊢
        exact h.temporary y hy
    · rcases eq_or_ne y x with rfl | hne
      · simp at hy
      · simp only [ne_eq, hne, not_false_eq_true, Function.update_of_ne] at hy
        have hxy : P.requestOf x ≠ P.requestOf y := fun he => hne (P.requestOf_injective he).symm
        have := h.unposted y hy
        simp only [List.count_append, List.count_singleton, beq_iff_eq, hxy, if_false]
        omega
    · have := h.once r
      simp only [List.count_append, List.count_singleton, beq_iff_eq]
      split_ifs with he
      · subst he
        omega
      · omega
    · rcases List.mem_append.mp hr with hr | hr
      · exact h.known r hr
      · exact .inl ⟨x, List.mem_singleton.mp hr⟩
  | answered | gaveUp => exact h.leave (by simp) (by simp)
  | read | unlink | vanished | handle | reply =>
    exact ⟨h.temporary, h.unposted, h.once, h.known⟩

/-! ### Whose answers they are -/

variable (P) in
/-- Each answer is under the nonce of a request that was posted, and a hook has taken only the one
to its own. -/
structure Answered (s : Files κ H) : Prop where
  handled : ∀ r res, s.service = .handled r res → res.nonce = r.nonce ∧ r ∈ s.history.posted
  produced : ∀ x ∈ s.history.produced, x.2.nonce = x.1.nonce ∧ x.1 ∈ s.history.posted
  result : ∀ res, s.result = some res →
    (∃ r, (r, res) ∈ s.history.produced) ∨ ∀ h, res.nonce ≠ some (P.nonce h)
  hooks : ∀ h res, s.hooks h = .answered res →
    res.nonce = some (P.nonce h) ∧ (P.requestOf h, res) ∈ s.history.produced

omit [DecidableEq H] in
lemma Conserved.posted (h : Conserved s) {r : Request} (hr : r ∈ s.inHand) :
    r ∈ s.history.posted := by
  have := h r
  have := List.count_pos_iff.mpr hr
  exact List.count_pos_iff.mp (by omega)

omit [DecidableEq H] in
lemma Answered.own (h : Answered P s) (ho : Owned P s) {res : Result} {x : H}
    (hr : s.result = some res) (hn : res.nonce = some (P.nonce x)) :
    (P.requestOf x, res) ∈ s.history.produced := by
  rcases h.result res hr with ⟨r, hp⟩ | hf
  · have hrn := h.produced _ hp
    rcases ho.known r hrn.2 with ⟨y, rfl⟩ | hf
    · have hy : some (P.nonce y) = some (P.nonce x) := hrn.1.symm.trans hn
      rw [P.nonce_injective (Option.some.inj hy)] at hp
      exact hp
    · exact absurd (hrn.1.symm.trans hn) (hf x)
  · exact absurd hn (hf x)

lemma Answered.hooks_update (h : Answered P s) {x : H} {v : HookAt} (hv : ∀ res, v = .answered res →
      res.nonce = some (P.nonce x) ∧ (P.requestOf x, res) ∈ s.history.produced) (y : H)
    (res : Result) (hy : Function.update s.hooks x v y = .answered res) :
    res.nonce = some (P.nonce y) ∧ (P.requestOf y, res) ∈ s.history.produced := by
  rcases eq_or_ne y x with rfl | hne
  · exact hv res (by simpa using hy)
  · simp only [ne_eq, hne, not_false_eq_true, Function.update_of_ne] at hy
    exact h.hooks y res hy

lemma Stepped.answers (ht : Stepped P K n s a t) (hc : Conserved s) (ho : Owned P s)
    (h : Answered P s) : Answered P t := by
  cases ht with
  | still => exact h
  | write | gaveUp => exact ⟨h.handled, h.produced, h.result, h.hooks_update (by simp)⟩
  | rename =>
    refine ⟨fun r res hs => ?_, fun y hy => ?_, h.result, h.hooks_update (by simp)⟩
    · exact ⟨(h.handled r res hs).1, List.mem_append_left _ (h.handled r res hs).2⟩
    · exact ⟨(h.produced y hy).1, List.mem_append_left _ (h.produced y hy).2⟩
  | answered hr hn =>
    refine ⟨h.handled, h.produced, h.result, h.hooks_update fun res he => ?_⟩
    cases he
    exact ⟨hn, h.own ho hr hn⟩
  | read | unlink | vanished =>
    exact ⟨fun r res hs => by simp at hs, h.produced, h.result, h.hooks⟩
  | @handle r hs =>
    refine ⟨fun q res hq => ?_, h.produced, h.result, h.hooks⟩
    rcases handleRequest_service K n s r with ⟨res', he, hn⟩ | he
    · rw [he] at hq
      cases hq
      exact ⟨hn, hc.posted (by simp [Files.inHand, hs])⟩
    · rw [he] at hq
      cases hq
  | @reply r res hs =>
    refine ⟨fun q res hq => by simp at hq, fun y hy => ?_, fun res' hr => ?_, fun y res' hy => ?_⟩
    · rcases List.mem_append.mp hy with hy | hy
      · exact h.produced y hy
      · rw [List.mem_singleton.mp hy]
        exact h.handled r res hs
    · simp only [Option.some.injEq] at hr
      subst hr
      exact .inl ⟨r, List.mem_append_right _ List.mem_cons_self⟩
    · exact ⟨(h.hooks y res' hy).1, List.mem_append_left _ (h.hooks y res' hy).2⟩

/-! ### Runs -/

variable (P K n)

structure Orderly (s : Files κ H) : Prop where
  marked : Marked s
  conserved : Conserved s
  owned : Owned P s
  answered : Answered P s

omit [DecidableEq H] in
lemma start_orderly : Orderly P P.start := by
  refine ⟨⟨fun r hr => ?_, fun _ => rfl⟩, fun r => ?_,
    ⟨?_, fun h _ => ?_, fun r => ?_, fun r hr => ?_⟩,
    ⟨?_, ?_, fun res hr => .inr fun h => P.result_foreign res h hr, ?_⟩⟩
  · simp [Hooks.start] at hr
  · cases hq : P.request <;> simp [Hooks.start, Files.unread, Files.inHand, hq]
  · simp [Hooks.start]
  · cases hq : P.request with
    | none => simp [Hooks.start, hq]
    | some c =>
      have hne : c.loads ≠ P.requestOf h := fun he =>
        P.request_foreign c h hq (congrArg Request.nonce he)
      simp [Hooks.start, hq, hne]
  · cases hq : P.request <;> simp [Hooks.start, hq, List.count_singleton]
    split_ifs <;> omega
  · right
    intro h
    cases hq : P.request with
    | none => simp [Hooks.start, hq] at hr
    | some c =>
      simp only [Hooks.start, hq, Option.map_some, Option.toList_some, List.mem_singleton] at hr
      rw [hr]
      exact P.request_foreign c h hq
  · simp [Hooks.start]
  · simp [Hooks.start]
  · simp [Hooks.start]

lemma run_orderly (as : List (FileAct H)) : Orderly P (run (fileStep P K n) P.start as) := by
  refine run_invariant (fun s a h => ?_) as (start_orderly P)
  have ht := fileStep_stepped P K n s a
  exact ⟨ht.marked h.marked, ht.conserved h.marked h.conserved, ht.owned h.owned,
    ht.answers h.conserved h.owned h.answered⟩

/-- The service has read the request and not unlinked it. -/
def AnswerAt.isRead : AnswerAt → Bool
  | .read _ => true
  | _ => false

/-- No hook renames onto the request file between the service's read and its unlink. -/
def Undisturbed (s : Files κ H) : FileAct H → Prop
  | .rename _ => s.service.isRead = false
  | _ => True

instance (s : Files κ H) (a : FileAct H) : Decidable (Undisturbed s a) := by
  cases a <;> unfold Undisturbed <;> infer_instance

/-- No request was unlinked unread, and none is about to be. -/
def Lossless (s : Files κ H) : Prop :=
  s.history.lost = [] ∧ (s.service.isRead → s.history.unread = false)

variable {P K n} in
lemma Stepped.lossless {s t : Files κ H} {a : FileAct H} (ht : Stepped P K n s a t)
    (ha : Undisturbed s a) (h : Lossless s) : Lossless t := by
  cases ht with
  | still | write | answered | gaveUp => exact h
  | rename =>
    have hn : s.service.isRead = false := ha
    exact ⟨h.1, fun hr => by simp [hn] at hr⟩
  | read => exact ⟨h.1, fun _ => rfl⟩
  | unlink hs =>
    -- Nobody has renamed since the read, so the file holds nothing unread.
    have hu : s.history.unread = false := h.2 (by simp [hs, AnswerAt.isRead])
    exact ⟨by simp [h.1, Files.unread, hu], fun _ => rfl⟩
  | vanished | reply => exact ⟨h.1, fun hr => by simp [AnswerAt.isRead] at hr⟩
  | @handle r hs =>
    refine ⟨h.1, fun hr => ?_⟩
    rcases handleRequest_service K n s r with ⟨res, he, _⟩ | he <;>
      simp [he, AnswerAt.isRead] at hr

/-- **The request files.** After any file operations of any hooks and the service, a hook has taken
only a result that was produced for its own request; and if no hook renamed between a read and its
unlink, every request that was not overwritten unread is still unread, in the service's hands, or
handled exactly once. -/
theorem requests_handled_once (as : List (FileAct H)) :
    let s := run (fileStep P K n) P.start as
    (∀ h res, s.hooks h = .answered res →
      res.nonce = some (P.nonce h) ∧ (P.requestOf h, res) ∈ s.history.produced) ∧
    (Meets (fileStep P K n) Undisturbed P.start as →
      ∀ h, P.requestOf h ∈ s.history.posted → P.requestOf h ∉ s.history.overwritten →
        s.history.handled.count (P.requestOf h) =
          if P.requestOf h ∈ s.unread ∨ P.requestOf h ∈ s.inHand then 0 else 1) := by
  intro s
  have ho : Orderly P s := run_orderly P K n as
  refine ⟨ho.answered.hooks, fun hm h hp hw => ?_⟩
  have h0 : Lossless P.start := ⟨rfl, fun h => by simp [Hooks.start, AnswerAt.isRead] at h⟩
  have hl : s.history.lost = [] :=
    (hm.invariant (fun s a => (fileStep_stepped P K n s a).lossless) h0).1
  have hc := ho.conserved (P.requestOf h)
  have h1 := ho.owned.once (P.requestOf h)
  have hpos := List.count_pos_iff.mpr hp
  have hov := List.count_eq_zero.mpr hw
  rw [hl, List.count_nil] at hc
  split_ifs with hu
  · rcases hu with hu | hu
    · have := List.count_pos_iff.mpr hu
      omega
    · have := List.count_pos_iff.mpr hu
      omega
  · rw [not_or] at hu
    have := List.count_eq_zero.mpr hu.1
    have := List.count_eq_zero.mpr hu.2
    omega

end

/-! ### Two hooks -/

def twoHooks : Hooks Bench Bool where
  action _ := "pre"
  nonce b := if b then "1" else "0"
  request := none
  result := none
  world := { kernel := {} }
  nonce_injective := by unfold Function.Injective; decide
  request_foreign := by simp
  result_foreign := by simp

theorem requests_handled_once_twoHooks :
    let s := run (fileStep twoHooks bench 3) twoHooks.start
      [.write true, .rename true, .read, .unlink, .handle, .reply, .poll true]
    s.history.handled.count (twoHooks.requestOf true) = 1 :=
  (requests_handled_once twoHooks bench 3
    [.write true, .rename true, .read, .unlink, .handle, .reply, .poll true]).2
    (by decide +kernel) true (by decide +kernel) (by decide +kernel)

/-- The second hook renames between the service's read and its unlink: its request is gone
unread. -/
theorem twoHooks_lost :
    let s := run (fileStep twoHooks bench 3) twoHooks.start
      [.write false, .rename false, .read, .write true, .rename true, .unlink, .handle, .reply,
        .read]
    twoHooks.requestOf true ∈ s.history.posted ∧ twoHooks.requestOf true ∉ s.history.overwritten ∧
      s.unread = [] ∧ s.inHand = [] ∧ s.history.handled.count (twoHooks.requestOf true) = 0 := by
  decide +kernel

end YogaUsb4.Daemon
