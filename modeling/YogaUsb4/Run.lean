import YogaUsb4.Renew

/-!
The driver as a whole: its operations, and the runs of any number of them in any order from a
probed device.
-/

namespace YogaUsb4.Run

open HostState Typec Driver Activate Batch Quiesce Renew

variable (mp : Params)

/-- What can be asked of the driver: a write to one of its attributes, the part of
`inventory_once` that runs with no lock, an entry point of the device or power-management
core, or nothing while the surroundings act. -/
inductive Op
  | activateOnce (w : Write)
  | pciePrepareOnce (w : Write)
  | inventoryOnce (w : Write)
  | bindStage
  | endpointRemoveOnce (w : Write)
  | tunnelQuiesceOnce (w : Write)
  | hostQuiesceOnce (w : Write)
  | powerQuiesceOnce (w : Write)
  | idleRetireOnce (w : Write)
  | pulledRetireOnce (w : Write)
  | renewSession (w : Write)
  | shutdown
  | suspend
  | pmComplete
  | idle (acts : List EnvAct)

def Op.prog : Op → DriverProg mp Unit
  | .activateOnce w => Activate.activateOnce mp w
  | .pciePrepareOnce w => Activate.pciePrepareOnce mp w
  | .inventoryOnce w => Batch.inventoryOnce mp w
  | .bindStage => Batch.bindStage mp
  | .endpointRemoveOnce w => Quiesce.endpointRemoveOnce mp w
  | .tunnelQuiesceOnce w => Quiesce.tunnelQuiesceOnce mp w
  | .hostQuiesceOnce w => Quiesce.hostQuiesceOnce mp w
  | .powerQuiesceOnce w => Quiesce.powerQuiesceOnce mp w
  | .idleRetireOnce w => Renew.idleRetireOnce mp w
  | .pulledRetireOnce w => Renew.pulledRetireOnce mp w
  | .renewSession w => Renew.renewSession mp w
  | .shutdown => x1Shutdown mp
  | .suspend => x1Suspend mp
  | .pmComplete => x1PmComplete mp
  | .idle acts => surroundings mp acts

/-- The device before its first operation, with the answers its providers will give. -/
def probed (env : List Answer) : Sys :=
  { back := { host := { generation := 1 }, nextGeneration := 1 }, env }

/-- Probe, and then the operations one after the other, whether they fail or not. -/
def runOps (ops : List Op) : Prog Sys Label Errno Unit := do
  (x1Probe mp).1
  Prog.runAll (ops.map fun op => (op.prog mp).1)

/-- The parameters that the storage service requires. -/
def required : Params :=
  { inventoryBatch := true, imsiReceiver := true, nvmeRead := true, tunnelQuiesce := true
    hostQuiesce := true, powerQuiesce := true, namespaceRetire := true, pciRetire := true
    controlRetire := true, cmRetire := true, managed := true, general := true }

/-- A drive is plugged in and asks for USB4. -/
def plug : Op :=
  .idle [.begin (.orientation .normal), .finish 0 none, .begin (.usb4 ⟨2, 3, 0, false⟩),
    .finish 0 none]

/-- One session of the service: prepared, connected and bound. -/
def connectOps : List Op :=
  [.inventoryOnce ⟨true, "inventory any"⟩, plug, .inventoryOnce ⟨true, "inventory any"⟩, .bindStage]

def ejectOps : List Op :=
  [.endpointRemoveOnce ⟨true, "remove-endpoint-v1"⟩, .tunnelQuiesceOnce ⟨true, "stop-retain-v1"⟩,
    .hostQuiesceOnce ⟨true, "stop-host-retain-v1"⟩,
    .powerQuiesceOnce ⟨true, "stop-power-retain-v1"⟩]

/-- Answers without a failure, with an identity for the router that is plugged in. -/
def undisturbed : List Answer := List.replicate 400 { val := 7 }

variable {mp}

/-- What the probe and every operation keep, with their guarantee, a run keeps. -/
lemma runOps_keeps {A G : Sys → Label → Sys → Prop} {I : Sys → Prop} {ops : List Op}
    (hp : Prog.Triple A G I (x1Probe mp).1 (fun _ => I) fun _ => I)
    (ho : ∀ op ∈ ops, Prog.Triple A G I (op.prog mp).1 (fun _ => I) fun _ => I) :
    Prog.Triple A G I (runOps mp ops) (fun _ => I) fun _ => I := by
  refine Prog.Triple.bind hp fun _ => ?_
  refine Prog.Triple.conseq (Prog.Triple.runAll fun m hm => ?_) (fun _ h => h)
    (fun _ _ h => h) fun _ _ h => h.elim
  obtain ⟨op, hop, rfl⟩ := List.mem_map.mp hm
  exact ho op hop

end YogaUsb4.Run
