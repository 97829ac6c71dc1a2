import YogaUsb4.Daemon.Service

/-!
The serve loop: what its iterations do with the requests that are waiting, and the lives of a
service that is stopped and started again.
-/

namespace YogaUsb4.Daemon

open HostState

variable {κ : Type} (K : Kernel κ)

def ejectRefused : Fault → ServiceProg κ Unit
  | .stop _ => pure ()
  | f => throw f

def ejectRequest : ServiceProg κ Unit := tryCatchThe Fault (ejectNow K) ejectRefused

/-- `answer_sleep` on a request for `action`. -/
def answerSleep (n : ℕ) (action : SleepAction) : SleepProg κ Unit := do
  let _ ← sleepRequest K n action false

/-- One announcement of logind: a sleep (`true`) or a resume. -/
def answerAnnouncement (n : ℕ) (preparing : Bool) : SleepProg κ Unit := do
  let _ ← sleepRequest K n (if preparing then .pre else .post) preparing
  if preparing then ask K .releaseLock else ask K .takeLock

/-- `answer_logind`: a sleep already followed by its resume is over. -/
def answerLogind (n : ℕ) (values : List Bool) : SleepProg κ Unit := do
  if values.contains false then answerAnnouncement K n false
  if values.getLast? = some true then answerAnnouncement K n true

def Op.run (n : ℕ) : Op → SleepProg κ Bool
  | .poll => step K n
  | .eject => do ejectRequest K; pure true
  | .sleep action => do answerSleep K n action; pure true
  | .announce values => do answerLogind K n values; pure true

/-- Operations one after the other, for as long as the loop goes on. -/
def serveOps (n : ℕ) : List Op → LoopProg κ Unit
  | [] => pure ()
  | op :: ops => do
    begins op
    if ← op.run K n then
      goOn
      serveOps n ops
    else pure ()

/-- What an iteration of the loop finds: an eject request, a sleep request, and the
announcements that arrived. -/
structure Inputs where
  eject : Bool
  sleep : Option SleepAction
  announced : List Bool

def Inputs.ops (i : Inputs) : List Op :=
  .poll :: ((if i.eject then [.eject] else []) ++ (i.sleep.map Op.sleep).toList ++
    [.announce i.announced])

def serve (n : ℕ) (is : List Inputs) : LoopProg κ Unit := serveOps K n (is.flatMap Inputs.ops)

/-- A service is started and runs. -/
def life (n : ℕ) (ops : List Op) : LoopProg κ Unit := do
  (assign fun _ => {} : SleepProg κ Unit)
  (start K : SleepProg κ Unit)
  serveOps K n ops

/-- One service after the other on one kernel, however each of them ends. -/
def lives (n : ℕ) (opss : List (List Op)) : Prog (World κ) Label Exn Unit :=
  Prog.runAll (opss.map fun ops => (life K n ops).1)

end YogaUsb4.Daemon
