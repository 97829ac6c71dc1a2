import YogaUsb4.Frames

/-!
What each function of the driver may write: an instance names the sections a function writes
and the calls it makes, and a relation that allows those is kept by the whole function.
-/

set_option synthInstance.maxSize 1000

namespace YogaUsb4.Footprint

open HostState Typec Driver Prog Frames Cm Pcie PcieRetire Activate Batch Quiesce Renew

variable {mp : Params} {R S : Sys → Label → Sys → Prop} [Acts mp S]

/-! ### The connection manager and the control channel -/

section Cm

variable [Checks S]

instance (c : Check) (e : Errno) : Keeps S (checkOr mp c e) := by unfold checkOr; infer_instance

instance : Keeps S (tbX1PcieOwner mp) := by unfold tbX1PcieOwner; infer_instance

instance (u : ℕ) : Keeps S (tbX1PcieApproved mp u) := by unfold tbX1PcieApproved; infer_instance

instance (u : ℕ) : Keeps S (tbX1ValidatePcie mp u) := by unfold tbX1ValidatePcie; infer_instance

instance (u : ℕ) : Keeps S (tbX1RetainedCheck mp u) := by unfold tbX1RetainedCheck; infer_instance

instance (u : ℕ) : Keeps S (tbX1PcieStopped mp u) := by unfold tbX1PcieStopped; infer_instance

instance : Keeps S (tbX1IdleCmCheck mp) := by unfold tbX1IdleCmCheck; infer_instance

instance (u : ℕ) : Keeps S (tbX1CmRetireCheck mp u) := by unfold tbX1CmRetireCheck; infer_instance

instance [Writes S .cm] (u : ℕ) : Keeps S (tbX1ApprovePcie mp u) := by
  unfold tbX1ApprovePcie; infer_instance

instance [Writes S .cm] (u : ℕ) : Keeps S (tbX1HoldPcie mp u) := by
  unfold tbX1HoldPcie; infer_instance

instance [Writes S .cm] : Keeps S (tbX1IdleFreeze mp) := by unfold tbX1IdleFreeze; infer_instance

instance [Writes S .cm] [Writes S .tunnelStage] [Writes S .history] (u : ℕ) :
    Keeps S (tbX1StopPcieRetained mp u) := by
  unfold tbX1StopPcieRetained; infer_instance

instance [Writes S .cm] [Writes S .tunnelStage] [Writes S .history] (u : ℕ) :
    Keeps S (tbX1StopPciePulled mp u) := by
  unfold tbX1StopPciePulled; infer_instance

instance [Writes S .cm] [Writes S .cmRetire] [Writes S .history]
    (treeCheck release checkStopped : BackProg mp Unit) [Keeps S treeCheck] [Keeps S release]
    [Keeps S checkStopped] : Keeps S (tbX1RetireTree mp treeCheck release checkStopped) := by
  unfold tbX1RetireTree; infer_instance

instance [Writes S .cm] [Writes S .cmRetire] [Writes S .history] (u : ℕ)
    (checkStopped : BackProg mp Unit) [Keeps S checkStopped] :
    Keeps S (tbX1RetireCm mp u checkStopped) := by
  unfold tbX1RetireCm; infer_instance

instance [Writes S .cm] [Writes S .cmRetire] [Writes S .history]
    (checkStopped : BackProg mp Unit) [Keeps S checkStopped] :
    Keeps S (tbX1IdleRetireCm mp checkStopped) := by
  unfold tbX1IdleRetireCm; infer_instance

instance [Writes S .ctl] [Writes S .hostStop] [Writes S .qnhi] [Writes S .history] :
    Keeps S (tbCtlStopX1Retained mp) := by
  unfold tbCtlStopX1Retained; infer_instance

instance [Writes S .ctl] [Writes S .controlRetire] [Writes S .qnhi] [Writes S .history]
    (checkStopped : BackProg mp Unit) [Keeps S checkStopped] :
    Keeps S (tbCtlRetireX1Stopped mp checkStopped) := by
  unfold tbCtlRetireX1Stopped; infer_instance

end Cm

/-! ### PCIe0, up to a bound endpoint -/

section Pcie

instance [Silent S] : Keeps S (x1PcieMode mp) := by unfold x1PcieMode; infer_instance

instance [Checks S] [Writes S .pcie] : Keeps S (x1PcieInspect mp) := by
  unfold x1PcieInspect; infer_instance

instance [Checks S] [Writes S .pcie] : Keeps S (x1PcieLocalCfg0 mp) := by
  unfold x1PcieLocalCfg0; infer_instance

instance [Silent S] [Writes S .bus] [Writes S .port] :
    Keeps S (x1PcieReleaseRetiredReset mp) := by
  unfold x1PcieReleaseRetiredReset; infer_instance

instance [Silent S] [Writes S .port] : Keeps S (qcomUsb4X1ReleaseRetiredReset mp) := by
  unfold qcomUsb4X1ReleaseRetiredReset; infer_instance

instance [Silent S] [Writes S .hold] : Keeps S (enableClock mp) := by
  unfold enableClock; infer_instance

instance [Silent S] [Writes S .hold] : Keeps S (resumePlatform mp) := by
  unfold resumePlatform; infer_instance

instance [Silent S] : Keeps S (votePlatform mp) := by unfold votePlatform; infer_instance

instance [Silent S] [Writes S .bus] [Writes S .hold] [Writes S .pcie] :
    Keeps S (x1PciePrepareProviders mp) := by
  unfold x1PciePrepareProviders; infer_instance

instance [Silent S] [Writes S .bus] [Writes S .hold] [Writes S .pcie] :
    Keeps S (x1PciePrepareProbe mp) := by
  unfold x1PciePrepareProbe; infer_instance

instance [Checks S] [h : Writes S .newContext] : Keeps S (newContext mp) := by
  have : Keeps S
      (assign mp fun b => { b with x1Pcie := some { state := b.host.generation } }) :=
    ⟨within_step fun s => h.step s _ ⟨_, rfl⟩⟩
  unfold newContext; infer_instance

instance [Silent S] [Writes S .bus] [Writes S .hold] [Writes S .newContext] [Writes S .pcie]
    [Writes S .port] (i : Bool) : Keeps S (x1PciePrepareOnce mp i) := by
  unfold x1PciePrepareOnce; infer_instance

section Batch

variable (batchLive : BackProg mp Unit) [Keeps S batchLive] [Checks S]

instance : Keeps S (x1PcieBatchLive mp batchLive) := by unfold x1PcieBatchLive; infer_instance

instance : Keeps S (x1PcieWindowSurvived mp batchLive) := by
  unfold x1PcieWindowSurvived; infer_instance

instance [Answers S .configRead] : Keeps S (x1PcieInventoryRead mp batchLive) := by
  unfold x1PcieInventoryRead; infer_instance

instance [Answers S .configRead] : Keeps S (x1PcieReceiverLive mp batchLive) := by
  unfold x1PcieReceiverLive; infer_instance

instance [Silent S] [Writes S .hold] : Keeps S (retainReceiver mp) := by
  unfold retainReceiver; infer_instance

instance [Silent S] [Answers S .configRead] [Writes S .hold] :
    Keeps S (x1PcieReceiverRetain mp batchLive) := by
  unfold x1PcieReceiverRetain; infer_instance

instance [Writes S .pcie] : Keeps S (x1ImsiCached mp) := by unfold x1ImsiCached; infer_instance

instance [Writes S .hold] [Writes S .newReceiver] : Keeps S (newReceiver mp) := by
  unfold newReceiver; infer_instance

instance [Writes S .hold] [Writes S .receiver] [Writes S .newReceiver]
    (retain : BackProg mp Unit) [Keeps S retain] : Keeps S (x1ImsiPrepare mp retain) := by
  unfold x1ImsiPrepare; infer_instance

instance [Silent S] [Answers S .configRead] [Writes S .bus] [Writes S .hold] [Writes S .receiver]
    [Writes S .newReceiver] [Writes S .pcie] : Keeps S (x1PcieReceiverPrepare mp batchLive) := by
  unfold x1PcieReceiverPrepare; infer_instance

instance [Answers S .configRead] : Keeps S (x1PcieHostLocal mp) := by
  unfold x1PcieHostLocal; infer_instance

instance : Keeps S (raiseCfgError mp) := by unfold raiseCfgError; infer_instance

instance [Writes S .bus] : Keeps S (x1PcieScanIdentity mp) := by
  unfold x1PcieScanIdentity; infer_instance

instance [Answers S .configRead] : Keeps S (x1PcieAssignedBars mp) := by
  unfold x1PcieAssignedBars; infer_instance

instance [Answers S .configRead] [Writes S .bus] [Writes S .pcie] :
    Keeps S (x1PcieHostScan mp batchLive) := by
  unfold x1PcieHostScan; infer_instance

instance [Writes S .stages] : Keeps S (x1PcieTrain mp) := by
  unfold x1PcieTrain runStage; infer_instance

instance [Answers S .configRead] [Writes S .stages] :
    Keeps S (qcomUsb4X1Inventory mp batchLive) := by
  unfold qcomUsb4X1Inventory runStage; infer_instance

instance [Silent S] [Answers S .configRead] [Writes S .bus] [Writes S .hold] [Writes S .receiver]
    [Writes S .newReceiver] [Writes S .pcie] [Writes S .stages] (v d : ℕ) :
    Keeps S (qcomUsb4X1BatchInventory mp batchLive v d) := by
  unfold qcomUsb4X1BatchInventory; infer_instance

instance [Answers S .configRead] [Writes S .bus] [Writes S .pcie] [Writes S .history] :
    Keeps S (qcomUsb4X1NvmeBind mp) := by
  unfold qcomUsb4X1NvmeBind; infer_instance

end Batch

end Pcie

/-! ### PCIe0, from a bound endpoint on -/

section PcieRetire

variable [Checks S]

instance : Keeps S (removeEndpoint mp) := by unfold removeEndpoint; infer_instance

instance [Writes S .pcie] [Writes S .history] (r : Option Errno) :
    Keeps S (endpointReceipt mp r) := by
  unfold endpointReceipt; infer_instance

instance [Answers S .configRead] [Writes S .pcie] [Writes S .history] [Writes S .configLock] :
    Keeps S (qcomUsb4X1GeneralRemove mp) := by
  unfold qcomUsb4X1GeneralRemove; infer_instance

instance [Writes S .pcie] [Writes S .history] : Keeps S (qcomUsb4X1PulledRemove mp) := by
  unfold qcomUsb4X1PulledRemove; infer_instance

instance [Writes S .receiver] (n : ℕ) : Keeps S (x1ImsiBanks mp n) := by
  induction n with
  | zero => unfold x1ImsiBanks; infer_instance
  | succ n ih =>
    unfold x1ImsiBanks
    refine ⟨Within.bind (inferInstance : Keeps S (attempt (call mp (.check .imsiBank)))).within
      fun r => ?_⟩
    cases r with
    | some e => exact within_pure _
    | none => exact Within.bind (inferInstance : Keeps S (assignImsi mp _)).within fun _ =>
        ih.within

instance [Writes S .receiver] (n : ℕ) (r : Option Errno) : Keeps S (x1ImsiParents mp n r) := by
  induction n generalizing r with
  | zero => unfold x1ImsiParents; infer_instance
  | succ n ih =>
    unfold x1ImsiParents
    refine ⟨Within.bind (inferInstance : Keeps S (attempt (call mp (.check .imsiParent)))).within
      fun r => ?_⟩
    cases r with
    | some e => exact (ih _).within
    | none => exact Within.bind (inferInstance : Keeps S (assignImsi mp _)).within fun _ =>
        (ih _).within

omit [Acts mp S] [Checks S] in
lemma keeps_receiver (e : Errno) (k : X1ImsiReceipt → BackProg mp Unit) [hk : ∀ r, Keeps S (k r)] :
    Keeps S (do
      let s ← Guarded.get
      match s.back.x1ImsiActive with
      | none => throw e
      | some r => k r : BackProg mp Unit) := by
  refine ⟨Within.bind within_get fun s => ?_⟩
  dsimp only
  cases s.back.x1ImsiActive with
  | none => exact within_throw _
  | some r => exact (hk r).within

instance [Writes S .receiver] [Writes S .history] : Keeps S (x1ImsiStopRetained mp) :=
  keeps_receiver _ _

instance [Writes S .configLock] [Writes S .bus] [Writes S .pcie] [Writes S .history]
    [Writes S .receiver] (action : BackProg mp Unit) [Keeps S action] :
    Keeps S (x1PcieFenceAction mp action) := by
  unfold x1PcieFenceAction; infer_instance

instance [Writes S .configLock] [Writes S .bus] [Writes S .pcie] [Writes S .history]
    [Writes S .receiver] (action : BackProg mp Unit) [Keeps S action] :
    Keeps S (qcomUsb4X1FenceAndQuiesce mp action) := by
  unfold qcomUsb4X1FenceAndQuiesce; infer_instance

section Stopped

variable (checkStopped : BackProg mp Unit) [Keeps S checkStopped]

instance [Writes S .pcie] : Keeps S (qcomUsb4X1RetireNamespaces mp checkStopped) := by
  unfold qcomUsb4X1RetireNamespaces; infer_instance

instance : Keeps S (x1PcieReceiverReleaseProof mp checkStopped) := by
  unfold x1PcieReceiverReleaseProof; infer_instance

instance [Writes S .receiver] [Writes S .history] :
    Keeps S (x1ImsiReleaseStopped mp checkStopped) := by
  have hk (r : Option Errno) : Keeps S (match r with
      | some e => do
        assignImsi mp fun r => { r with releaseError := some e }
        throw e
      | none => do
        assignImsi mp fun r => { r with targetReserved := false, released := true }
        mark mp (.done · .receiverReleased) : BackProg mp Unit) := by
    cases r <;> infer_instance
  exact keeps_receiver _ _

instance [Writes S .bus] [Writes S .pcie] [Writes S .history] [Writes S .receiver] :
    Keeps S (qcomUsb4X1RetirePci mp checkStopped) := by
  unfold qcomUsb4X1RetirePci; infer_instance

instance [Writes S .newReceiver] : Keeps S (x1ImsiRetireContext mp checkStopped) :=
  keeps_receiver _ _

instance [Silent S] [Writes S .hold] [Writes S .pcie] : Keeps S (disableClock mp) := by
  unfold disableClock; infer_instance

instance [Silent S] [Writes S .hold] [Writes S .pcie] [Writes S .port] :
    Keeps S (stopPlatform mp) := by
  unfold stopPlatform; infer_instance

instance [Silent S] [Writes S .bus] [Writes S .hold] : Keeps S (suspendPlatform mp) := by
  unfold suspendPlatform; infer_instance

instance [Silent S] [Writes S .bus] [Writes S .hold] [Writes S .pcie] [Writes S .port] :
    Keeps S (releasePlatform mp) := by
  unfold releasePlatform; infer_instance

instance [h : Writes S .newContext] [Writes S .pcie] : Keeps S (freeContext mp) := by
  have : Keeps S (assign mp fun b => { b with x1Pcie := none }) :=
    ⟨within_step fun s => h.step s _ ⟨_, rfl⟩⟩
  unfold freeContext; infer_instance

instance [Silent S] [Writes S .bus] [Writes S .hold] [Writes S .newContext] [Writes S .newReceiver]
    [Writes S .pcie] [Writes S .port] [Writes S .history] :
    Keeps S (qcomUsb4X1RetirePlatform mp checkStopped) := by
  unfold qcomUsb4X1RetirePlatform; infer_instance

instance [Silent S] [Writes S .bus] [Writes S .hold] [Writes S .newContext] [Writes S .pcie]
    [Writes S .port] [Writes S .history] :
    Keeps S (qcomUsb4X1IdleRetirePlatform mp checkStopped) := by
  unfold qcomUsb4X1IdleRetirePlatform; infer_instance

end Stopped

end PcieRetire

/-! ### Activation -/

section Activate

section Checks

variable [Checks S]

instance (n : ℕ) : Keeps S (clear1200c mp n) := by
  induction n <;> unfold clear1200c <;> infer_instance

instance [Writes S .startup] : Keeps S (x1Owner mp) := by unfold x1Owner; infer_instance

instance : Keeps S (x1GccUsb4ResetState mp) := by
  unfold x1GccUsb4ResetState; infer_instance

instance [Writes S .restore] : Keeps S (readRestoreState mp) := by
  unfold readRestoreState; infer_instance

instance [WritesFront S] : Keeps S (applyLink mp) := by unfold applyLink; infer_instance

instance [Writes S .ready] [Writes S .hostLock] [WritesFront S] : Keeps S (x1Publish mp) := by
  unfold x1Publish; infer_instance

instance [Writes S .power] [Writes S .hostLock] [WritesFront S] (e : Errno) :
    Keeps S (x1Stopped mp e) := by
  unfold x1Stopped; infer_instance

end Checks

variable [Silent S]

instance [Writes S .power] (st : X1Step) : Keeps S (x1Step mp st) := by
  cases st <;> unfold x1Step <;> infer_instance

instance [Writes S .power] (op : Operation) : Keeps S (execute mp op) := by
  cases op <;> unfold execute <;> infer_instance

instance [Writes S .power] (ops : List Operation) : Keeps S (executeAll mp ops) := by
  induction ops <;> unfold executeAll <;> infer_instance

instance [Writes S .startup] [Writes S .power] : Keeps S (x1StartupRun mp) := by
  unfold x1StartupRun; infer_instance

instance : Keeps S (x1GccUsb4Get mp) := by unfold x1GccUsb4Get; infer_instance

instance [Writes S .power] : Keeps S (leaseGcc mp) := by unfold leaseGcc; infer_instance

instance [Writes S .power] : Keeps S (x1ReleasePower mp) := by
  unfold x1ReleasePower; infer_instance

instance (is : List (Fin 11)) : Keeps S (deassertEach mp is) := by
  induction is <;> unfold deassertEach <;> infer_instance

instance [Writes S .restore] [Writes S .port] : Keeps S (x1RestoreResets mp) := by
  unfold x1RestoreResets; infer_instance

instance (is : List (Fin 11)) (r : Option Errno) : Keeps S (assertEach mp is r) := by
  induction is generalizing r <;> unfold assertEach <;> infer_instance

instance [Writes S .restore] : Keeps S (x1ReholdResets mp) := by
  unfold x1ReholdResets; infer_instance

instance [Writes S .restore] [Writes S .power] : Keeps S (releaseStarted mp) := by
  unfold releaseStarted; infer_instance

instance [Writes S .restore] [Writes S .power] (m : BackProg mp Unit) [Keeps S m] :
    Keeps S (orRelease mp m) := by
  unfold orRelease; infer_instance

instance [Writes S .qnhi] [Writes S .tb] [WritesFront S] : Keeps S (x1StartDomain mp) := by
  unfold x1StartDomain; infer_instance

instance [Writes S .power] [Writes S .port] : Keeps S (x1Admission mp) := by
  unfold x1Admission; infer_instance

instance [Writes S .restore] [Writes S .power] [Writes S .port] :
    Keeps S (x1RestoreBaseline mp) := by
  unfold x1RestoreBaseline; infer_instance

instance [Writes S .restore] [Writes S .power] : Keeps S (x1Resume mp) := by
  unfold x1Resume; infer_instance

instance [Writes S .restore] [Writes S .power] [Writes S .port] : Keeps S (x1Providers mp) := by
  unfold x1Providers; infer_instance

instance [Writes S .restore] [Writes S .power] [Writes S .port] : Keeps S (x1PowerUp mp) := by
  unfold x1PowerUp; infer_instance

instance [Writes S .startup] [Writes S .ready] [Writes S .hostLock] [Writes S .power]
    [Writes S .restore] [Writes S .port] [Writes S .qnhi] [Writes S .tb] [WritesFront S] :
    Keeps S (x1Start mp) := by
  unfold x1Start; infer_instance

instance [Writes S .bus] [Writes S .hold] [Writes S .newContext] [Writes S .pcie] [Writes S .port]
    [Writes S .hostLock] [WritesFront S] (w : Write) : Keeps S (pciePrepareOnce mp w) := by
  unfold pciePrepareOnce; infer_instance

end Activate

/-! ### The batch -/

section Batch

variable [Checks S]

instance : Keeps S (expired mp) := by unfold expired; infer_instance

instance [Writes S .switch] : Keeps S (findSwitch mp) := by
  refine ⟨Within.bind (inferInstance : Keeps S
    (tryCatchThe Errno (do return some (← callVal mp (.check .findSwitch)))
      fun _ => pure none : BackProg mp (Option ℕ))).within fun found => ?_⟩
  refine Within.bind (inferInstance : Keeps S (assignBatch mp _)).within fun _ => ?_
  cases found with
  | none =>
    exact (inferInstance : Keeps S (do
      pure ()
      if ← expired mp then throw .etimedout : BackProg mp Unit)).within
  | some uid =>
    exact (inferInstance : Keeps S (do
      if mp.general && (← getHost mp).batch.uid == 0 then
        require (uid != 0 && uid != u64Max) .enodev
        assignBatch mp fun x => { x with uid := uid }
      require (uid == (← getHost mp).batch.uid) .enodev
      if ← expired mp then throw .etimedout : BackProg mp Unit)).within

instance [Writes S .switch] : Keeps S (observe mp) := by unfold observe; infer_instance

instance [Writes S .switch] [Writes S .hostLock] (n : ℕ) : Keeps S (x1BatchWait mp n) := by
  induction n <;> unfold x1BatchWait <;> infer_instance

instance : Keeps S (x1BatchLive mp) := by unfold x1BatchLive; infer_instance

instance (n : ℕ) : Keeps S (drainEvents mp n) := by
  induction n <;> unfold drainEvents <;> infer_instance

instance : Keeps S (x1GeneralDrainEvents mp) := by unfold x1GeneralDrainEvents; infer_instance

instance [Silent S] [Writes S .cm] [Writes S .tunnelStage] [Writes S .tb] (u : ℕ) :
    Keeps S (holdTunnel mp u) := by
  unfold holdTunnel; infer_instance

instance [Silent S] [Answers S .configRead] [Writes S .cm] [Writes S .tunnelStage] [Writes S .tb]
    [Writes S .bus] [Writes S .hold] [Writes S .receiver] [Writes S .newReceiver] [Writes S .pcie]
    [Writes S .stages] (a : Admitted) : Keeps S (runBatch mp a) := by
  unfold runBatch; infer_instance

instance [Writes S .batch] [Writes S .hostLock] [WritesFront S] (r : Option Errno) :
    Keeps S (batchTerminal mp r) := by
  unfold batchTerminal; infer_instance

instance [Silent S] [Answers S .configRead] [Writes S .batch] [Writes S .cm] [Writes S .tunnelStage]
    [Writes S .tb] [Writes S .bus] [Writes S .hold] [Writes S .receiver] [Writes S .newReceiver]
    [Writes S .pcie] [Writes S .stages] [Writes S .hostLock] [WritesFront S] (a : Admitted) :
    Keeps S (waitAttachment mp a) := by
  unfold waitAttachment; infer_instance

instance [Silent S] [Writes S .batch] [Writes S .bus] [Writes S .hold] [Writes S .newContext]
    [Writes S .pcie] [Writes S .port] : Keeps S (prepareLocal mp) := by
  unfold prepareLocal; infer_instance

instance [Answers S .configRead] [Writes S .bind] [Writes S .hostLock] [Writes S .bus]
    [Writes S .pcie] [Writes S .history] : Keeps S (bindStage mp) := by
  unfold bindStage; infer_instance

end Batch

/-! ### The ordered teardown -/

section Quiesce

variable [Checks S]

instance [Writes S .hostLock] (m : BackProg mp Unit) [Keeps S m] : Keeps S (locked mp m) := by
  unfold locked; infer_instance

instance [Answers S .configRead] [Writes S .hostLock] [Writes S .pcie] [Writes S .history]
    [Writes S .configLock] (w : Write) : Keeps S (endpointRemoveOnce mp w) := by
  unfold endpointRemoveOnce; infer_instance

instance [Writes S .tunnel] [Writes S .configLock] [Writes S .bus] [Writes S .pcie]
    [Writes S .history] [Writes S .receiver] (stop : BackProg mp Unit) [Keeps S stop] :
    Keeps S (fenceAndStop mp stop) := by
  unfold fenceAndStop; infer_instance

instance [Writes S .hostLock] [Writes S .tunnel] [Writes S .configLock] [Writes S .bus]
    [Writes S .pcie] [Writes S .history] [Writes S .receiver] [Writes S .cm] (w : Write) :
    Keeps S (tunnelQuiesceOnce mp w) := by
  unfold tunnelQuiesceOnce; infer_instance

instance [Writes S .hostStopAttempted] [Writes S .hostStop] [Writes S .ready] [Writes S .ctl]
    [Writes S .qnhi] [Writes S .history] (before after : BackProg mp Unit) [Keeps S before]
    [Keeps S after] : Keeps S (stopControl mp before after) := by
  unfold stopControl; infer_instance

instance [Writes S .hostLock] [Writes S .hostStopAttempted] [Writes S .hostStop]
    [Writes S .ready] [Writes S .ctl] [Writes S .qnhi] [Writes S .history] (w : Write) :
    Keeps S (hostQuiesceOnce mp w) := by
  unfold hostQuiesceOnce; infer_instance

instance [Writes S .powerStop] : Keeps S (readStopRequests mp) := by
  unfold readStopRequests; infer_instance

instance : Keeps S (x1NamespaceOwnerStopped mp) := by
  unfold x1NamespaceOwnerStopped; infer_instance

instance : Keeps S (x1ControlOwnerStopped mp) := by unfold x1ControlOwnerStopped; infer_instance

instance : Keeps S (x1CmOwnerStopped mp) := by unfold x1CmOwnerStopped; infer_instance

instance : Keeps S (x1PlatformOwnerStopped mp) := by
  unfold x1PlatformOwnerStopped; infer_instance

instance [Writes S .powerStop] (m : BackProg mp Unit) [Keeps S m] :
    Keeps S (powerStopReceipt mp m) := by
  unfold powerStopReceipt; infer_instance

section Silent

variable [Silent S]

instance [Writes S .powerStop] (is : List (Fin 11)) : Keeps S (assertCounted mp is) := by
  induction is <;> unfold assertCounted <;> infer_instance

instance [Writes S .powerStop] [Writes S .history] : Keeps S (resetRouter mp) := by
  unfold resetRouter; infer_instance

instance [Writes S .power] [Writes S .powerStop] : Keeps S (releaseRouter mp) := by
  unfold releaseRouter; infer_instance

instance [Writes S .power] [Writes S .powerStop] [Writes S .history] : Keeps S (powerDown mp) := by
  unfold powerDown; infer_instance

instance [Writes S .power] [Writes S .powerStop] : Keeps S (putRuntime mp) := by
  unfold putRuntime; infer_instance

instance [Writes S .power] [Writes S .powerStop] [Writes S .history] [Writes S .stopping] :
    Keeps S (x1PowerStopRun mp) := by
  unfold x1PowerStopRun; infer_instance

instance [Writes S .powerStop] (is : List (Fin 11)) : Keeps S (deassertCounted mp is) := by
  induction is <;> unfold deassertCounted <;> infer_instance

instance [Writes S .powerStop] [Writes S .port] : Keeps S (x1StopReleaseResets mp) := by
  unfold x1StopReleaseResets; infer_instance

instance [Writes S .hostLock] [Writes S .tb] [Writes S .domain] [Writes S .history]
    (expected : X1Host → Bool) (put : BackProg mp Unit) [Keeps S put] :
    Keeps S (unregisterDomain mp expected put) := by
  unfold unregisterDomain; infer_instance

instance [Writes S .hostLock] [Writes S .tb] [Writes S .domain] [Writes S .history]
    [Writes S .cm] [Writes S .cmRetire] : Keeps S (x1RetireDomain mp) := by
  unfold x1RetireDomain; infer_instance

instance [Writes S .power] [Writes S .powerStop] [Writes S .port] :
    Keeps S (x1RetiredRelease mp) := by
  unfold x1RetiredRelease; infer_instance

end Silent

end Quiesce

/-! ### The other retirements -/

section Renew

variable [Checks S]

instance : Keeps S (x1IdleOwnerStopped mp) := by unfold x1IdleOwnerStopped; infer_instance

instance : Keeps S (x1IdleCmOwnerStopped mp) := by unfold x1IdleCmOwnerStopped; infer_instance

instance : Keeps S (x1IdlePlatformOwnerStopped mp) := by
  unfold x1IdlePlatformOwnerStopped; infer_instance

instance [Silent S] [Writes S .hostLock] [Writes S .tb] [Writes S .domain] [Writes S .history]
    [Writes S .cm] [Writes S .cmRetire] : Keeps S (x1IdleRetireDomain mp) := by
  unfold x1IdleRetireDomain; infer_instance

instance [Writes S .cm] : Keeps S (tryFreeze mp) := by unfold tryFreeze; infer_instance

instance [Writes S .cm] (n : ℕ) : Keeps S (x1IdleFreezeCm mp n) := by
  induction n <;> unfold x1IdleFreezeCm <;> infer_instance

instance [Writes S .suspended] : Keeps S (x1Suspend mp) := by unfold x1Suspend; infer_instance

omit [Acts mp S] [Checks S] in
instance [Writes S .suspended] : Keeps S (x1PmComplete mp) := by
  unfold x1PmComplete; infer_instance

end Renew

end YogaUsb4.Footprint
