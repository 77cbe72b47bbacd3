/-
# The representation of the device

The options of the request slot are unwrapped where the state of the device is supposed to
tell that they hold something. Whether they do depends on all of the slot, the operation
data and the state, and a cancelled operation leaves the slot behind. Of a slot and its data
a call changes little: it holds them, with another instance ID at most, it settles the slot,
or it sends a request.
-/

import PldmLib.FirmwareDevice.Status

namespace PldmLib.FirmwareDevice

open PldmLib.Machine PldmLib.Protocol PldmLib.Message

/-! ## What a call does to the slot -/

/-- `SlotStep pre post sent`: what the slot and the range of a download become in a call
that hands over the request `sent`. -/
inductive SlotStep (pre post : FdInternal) : Option FdRequest → Prop
  | held (req : post.req = pre.req ∨ post.req = pre.allocNextInstanceId.req)
      (range : ∀ offset length, pre.initiatorModeState = .download offset length →
        post.initiatorModeState = .download offset length) :
      SlotStep pre post none
  | settled (unsent : post.req.state ≠ .sent)
      (result : post.req.complete = true → ∃ result, post.req.result = some result) :
      SlotStep pre post none
  | asked {id offset length} (time : PldmFdTime)
      (req : post.req = ⟨.sent, false, none, some pre.nextInstanceId,
        some FwUpdateCmd.requestFirmwareData.toU8, some time⟩)
      (range : post.initiatorModeState = .download offset length) :
      SlotStep pre post (some (.requestFirmwareData id offset.toNat length.toNat))
  | reported {state : FirmwareDeviceState} {report : FwUpdateCmd} {id result : UInt8}
      (stored : UInt8) (time : PldmFdTime) (reports : reportCommand state = some report)
      (req : post.req = ⟨.sent, true, some stored, some pre.nextInstanceId, some report.toU8,
        some time⟩) :
      SlotStep pre post (some (.complete report id result))

namespace SlotStep

variable {profile : Profile} {ops : FdOps} {payload : List UInt8} {pre post : FdInternal}
  {log : List Invocation}

theorem of_eq (req : post.req = pre.req)
    (mode : post.initiatorModeState = pre.initiatorModeState) : SlotStep pre post none :=
  .held (.inl req) fun _ _ range => mode.trans range

theorem request {handler : Handler} {outcome : Outcome MsgHandlerError ℕ}
    (step : RequestStep ops payload pre handler outcome post log) : SlotStep pre post none := by
  rcases step.slot_cases with ⟨hreq, hmode⟩ | ⟨internal, rfl⟩
  · exact of_eq hreq hmode
  · apply settled
    · rw [FdContext.enterDownload_req]
      rintro ⟨⟩
    · rw [FdContext.enterDownload_req]
      rintro ⟨⟩

/-- Recording progress does not touch the range of a download. -/
theorem setProgress_range (kind : OperationKind) (progress : UInt8) {offset length : UInt32}
    (range : pre.initiatorModeState = .download offset length) :
    (kind.setProgress progress pre).initiatorModeState = .download offset length := by
  cases kind <;> simp [OperationKind.setProgress, FdInternal.setFdVerifyProgress,
    FdInternal.setFdApplyProgress, range]

theorem allocated : SlotStep pre pre.allocNextInstanceId none :=
  .held (.inr rfl) fun _ _ range => range

theorem poll {outcome : Outcome MsgHandlerError ℕ} {sent : Option FdRequest}
    (coherent : Coherent pre) (step : PollStep profile ops payload pre outcome post log sent) :
    SlotStep pre post sent := by
  cases step with
  | inactive => exact of_eq rfl rfl
  | timedOut => exact .settled (by rintro ⟨⟩) (by rintro ⟨⟩)
  | timeoutRefused => exact of_eq rfl rfl
  | undue => exact of_eq rfl rfl
  | transferUnsent => exact allocated
  | transferUnknown => exact allocated
  | @transferReported result => exact .reported result _ (rfl : reportCommand .download = _) rfl
  | rangeUnknown => exact allocated
  | rangeRefused => exact allocated
  | rangeOverflowed => exact allocated
  | dataUnsent => exact allocated
  | dataRequested state =>
      obtain ⟨offset, length, hmode⟩ := coherent.downloads state
      exact .asked _ rfl (by simp [FdInternal.setFdDownloadState, hmode])
  | operationFailed => exact of_eq rfl rfl
  | @operationPending kind _ progress =>
      exact .held (.inl (kind.setProgress_req progress.value pre)) fun _ _ range =>
        setProgress_range kind progress.value range
  | @operationUnsent kind _ progress =>
      refine .held (.inr ?_) fun _ _ range => setProgress_range kind progress.value range
      simp only [FdInternal.allocNextInstanceId, PollStep.setProgress_nextInstanceId,
        OperationKind.setProgress_req]
  | @operationReported kind result => exact .reported result _ kind.reportCommand_state rfl
  | reportUnsent => exact allocated
  | @reportRepeated kind => exact .reported 0x0a _ kind.reportCommand_state rfl

theorem response {outcome : Outcome MsgHandlerError PUnit} (coherent : Coherent pre)
    (step : ResponseStep ops payload pre outcome post log) : SlotStep pre post none := by
  cases step with
  | ignored => exact of_eq rfl rfl
  | heard => exact of_eq rfl rfl
  | dataRefused => exact of_eq rfl rfl
  | @dataRejected _ _ result => exact .settled (by rintro ⟨⟩) fun _ => ⟨result.toU8, rfl⟩
  | dataStored => exact .settled (by rintro ⟨⟩) (by rintro ⟨⟩)
  | dataCompleted => exact .settled (by rintro ⟨⟩) fun _ => ⟨_, rfl⟩
  | transferAborted => exact .settled (by rintro ⟨⟩) fun _ => ⟨_, rfl⟩
  | acknowledged _ active =>
      refine .settled (advance_not_sent active) ?_
      rw [advance_incomplete active]
      rintro ⟨⟩
  | disappointed _ active complete =>
      exact .settled (by rintro ⟨⟩) fun _ => (coherent.slot active).result complete

theorem step {input : FdInput} {output : FdOutput} {sent : Option FdRequest}
    (coherent : Coherent pre) (step : FdStep profile pre input output sent) :
    SlotStep pre output.internal sent := by
  cases step with
  | request step => exact request step
  | poll step => exact poll coherent step
  | response step => exact response coherent step
  | touch => exact of_eq rfl rfl
  | query => exact of_eq rfl rfl

end SlotStep

/-! ## What the slot keeps in every state -/

/-- The last request that a run has handed over. -/
def lastSent (events : List FdEvent) : Option FdRequest :=
  (events.filterMap FdEvent.sent).getLast?

theorem lastSent_concat (events : List FdEvent) (event : FdEvent) :
    lastSent (events ++ [event]) = event.sent.or (lastSent events) :=
  getLast?_filterMap_concat FdEvent.sent events event

/-- What holds of the slot in every state, for an operation that is cancelled leaves
it as it is. -/
structure Retained (events : List FdEvent) (internal : FdInternal) : Prop where
  outstanding : internal.req.state = .sent → ∃ time command id,
    internal.req.sentTime = some time ∧ internal.req.command = some command ∧
      internal.req.instanceId = some id ∧ id < instanceIdCount
  result : internal.req.complete = true → ∃ result, internal.req.result = some result
  range : internal.req.state = .sent →
    internal.req.command = some FwUpdateCmd.requestFirmwareData.toU8 →
      ∃ id offset length, internal.initiatorModeState = .download offset length ∧
        lastSent events = some (.requestFirmwareData id offset.toNat length.toNat)

namespace Retained

variable {events after : List FdEvent} {pre post : FdInternal}

theorem init : Retained [] .default where
  outstanding sent := by cases sent
  result complete := by cases complete
  range sent := by cases sent

/-- Another ID makes no other request of the one in the slot. -/
theorem held (retained : Retained events pre)
    (req : post.req = pre.req ∨ post.req = pre.allocNextInstanceId.req)
    (range : ∀ offset length, pre.initiatorModeState = .download offset length →
      post.initiatorModeState = .download offset length)
    (last : lastSent after = lastSent events) : Retained after post := by
  have hrange (sent : pre.req.state = .sent)
      (command : pre.req.command = some FwUpdateCmd.requestFirmwareData.toU8) :
      ∃ id offset length, post.initiatorModeState = .download offset length ∧
        lastSent after = some (.requestFirmwareData id offset.toNat length.toNat) := by
    obtain ⟨id, offset, length, hstored, hsent⟩ := retained.range sent command
    exact ⟨id, offset, length, range offset length hstored, last.trans hsent⟩
  rcases req with req | req
  · refine ⟨?_, ?_, ?_⟩
    · rw [req]
      exact retained.outstanding
    · rw [req]
      exact retained.result
    · rw [req]
      exact hrange
  · refine ⟨?_, ?_, ?_⟩
    · rw [req]
      intro sent
      obtain ⟨time, command, _, htime, hcommand, _⟩ := retained.outstanding sent
      exact ⟨time, command, pre.nextInstanceId, htime, hcommand, rfl, pre.nextInstanceId_lt⟩
    · rw [req]
      exact retained.result
    · rw [req]
      exact hrange

/-- The command of a report is not the one that asks for data. -/
theorem report_ne_requestFirmwareData {state : FirmwareDeviceState} {report : FwUpdateCmd}
    (reports : reportCommand state = some report) :
    report.toU8 ≠ FwUpdateCmd.requestFirmwareData.toU8 := by
  cases state with
  | download => cases reports; decide
  | verify => cases reports; decide
  | apply => cases reports; decide
  | _ => cases reports

/-- Every call keeps what holds of the slot. -/
theorem step {sent : Option FdRequest} (retained : Retained events pre)
    (step : SlotStep pre post sent) (last : lastSent after = sent.or (lastSent events)) :
    Retained after post := by
  cases step with
  | held req range => exact retained.held req range last
  | settled unsent result =>
      exact ⟨fun sent => absurd sent unsent, result, fun sent => absurd sent unsent⟩
  | @asked id offset length time req range =>
      refine ⟨fun _ => ?_, fun complete => ?_, fun _ _ => ⟨id, offset, length, range, last⟩⟩
      · rw [req]
        exact ⟨time, _, _, rfl, rfl, rfl, pre.nextInstanceId_lt⟩
      · rw [req] at complete
        cases complete
  | reported stored time reports req =>
      refine ⟨fun _ => ?_, fun _ => ?_, fun _ command => ?_⟩
      · rw [req]
        exact ⟨time, _, _, rfl, rfl, rfl, pre.nextInstanceId_lt⟩
      · rw [req]
        exact ⟨stored, rfl⟩
      · rw [req] at command
        exact absurd (Option.some.inj command) (report_ne_requestFirmwareData reports)

end Retained

/-- In every state of a run the slot has what it keeps. -/
theorem FdTrace.retained {profile : Profile} {events : List FdEvent} {state : FdInternal}
    (trace : FdTrace profile events state) : Retained events state := by
  refine (FdRun.induct trace Coherent.init (fun events state => Retained events state)
    Retained.init ?_).1
  intro events pre input output sent coherent retained step _ hsent
  refine retained.step (SlotStep.step coherent step) ?_
  rw [lastSent_concat, hsent]

/-! ## The invariant -/

/-- What the fields of the device say of one another. -/
structure Represents (events : List FdEvent) (internal : FdInternal) : Prop
    extends Retained events internal where
  download : internal.state = .download → internal.req.state = .sent →
    internal.req.command = some FwUpdateCmd.requestFirmwareData.toU8 ∧
        internal.req.complete = false ∨
      internal.req.command = some FwUpdateCmd.transferComplete.toU8 ∧ internal.req.complete = true
  verify : internal.state = .verify → internal.req.state = .sent →
    internal.req.command = some FwUpdateCmd.verifyComplete.toU8 ∧ internal.req.complete = true
  apply : internal.state = .apply → internal.req.state = .sent →
    internal.req.command = some FwUpdateCmd.applyComplete.toU8 ∧ internal.req.complete = true
  mode : ModeOf internal.state internal.initiatorModeState
  progress : ∀ percent, internal.initiatorModeState = .verify percent ∨
    internal.initiatorModeState = .apply percent → percent.toNat ≤ 101

/-- The report that an operation has outstanding. -/
theorem Coherent.reported {internal : FdInternal} {report : FwUpdateCmd}
    (coherent : Coherent internal) (reports : reportCommand internal.state = some report)
    (other : internal.state ≠ .download) (sent : internal.req.state = .sent) :
    internal.req.command = some report.toU8 ∧ internal.req.complete = true := by
  have hactive : internal.state.isInitiator = true := by
    cases hstate : internal.state <;> rw [hstate] at reports <;> first | rfl | cases reports
  rcases outstanding_cases coherent hactive sent with
    ⟨download, _⟩ | ⟨complete, other', reports', command⟩
  · exact absurd download other
  · obtain rfl := Option.some.inj (reports.symm.trans reports')
    exact ⟨command, complete⟩

theorem FdTrace.represents {profile : Profile} {events : List FdEvent} {state : FdInternal}
    (trace : FdTrace profile events state) : Represents events state where
  toRetained := trace.retained
  download downloading sent := by
    rcases outstanding_cases trace.coherent (by rw [downloading]; rfl) sent with
      ⟨_, unfinished, command⟩ | ⟨complete, report, reports, command⟩
    · exact .inl ⟨command, unfinished⟩
    · rw [downloading] at reports
      cases reports
      exact .inr ⟨command, complete⟩
  verify verifying sent :=
    trace.coherent.reported (by rw [verifying]; rfl) (by rw [verifying]; rintro ⟨⟩) sent
  apply applying sent :=
    trace.coherent.reported (by rw [applying]; rfl) (by rw [applying]; rintro ⟨⟩) sent
  mode := trace.coherent.mode
  progress percent recorded := by
    have hmeasured := trace.measured
    rcases recorded with recorded | recorded
    · rwa [Measured, recorded] at hmeasured
    · rwa [Measured, recorded] at hmeasured

/-! ## What is unwrapped -/

/-- The calls that unwrap something the device has stored find it there. A poll can only
panic over a result that is no transfer result, or over the sums of the range check. -/
structure Unwraps (profile : Profile) (internal : FdInternal) : Prop where
  instanceId : internal.allocNextInstanceId.req.instanceId = some internal.nextInstanceId
  increment : ∀ id, internal.req.instanceId = some id → id.toNat + 1 < UInt8.size
  sentTime : ∀ ops payload log,
    (FdContext.shouldSendFdRequest ops ⟨internal, payload, log⟩).1 ≠ .panic
  downloadState : internal.state = .download → ∃ range, internal.getFdDownloadState = some range
  response : ∀ ops payload, (FdContext.handleResponse ops ⟨internal, payload, []⟩).1 ≠ .panic
  progress : ∃ percent, FdContext.recordedProgress internal = .ok percent
  status : ∀ ops payload, (FdContext.getStatusRsp ops ⟨internal, payload, []⟩).1 ≠ .panic
  poll : ∀ ops payload, (FdContext.fdProgress profile ops ⟨internal, payload, []⟩).1 = .panic →
    (∃ stored error, internal.req.result = some stored ∧
      TransferResult.tryFrom stored = .error error) ∨
    ∃ range, ops.queryDownloadOffsetAndLength internal.updateComp = .ok range ∧
      internal.getFdDownloadChunk profile (UInt32.ofNat range.1) (UInt32.ofNat range.2) =
        (.panic : Outcome MsgHandlerError _)

/-- The status of a device whose progress is a percentage is reported or refused. -/
theorem FdContext.getStatusRsp_ne_panic {ops : FdOps} {payload : List UInt8} {pre : FdInternal}
    (measured : Measured pre) : (getStatusRsp ops ⟨pre, payload, []⟩).1 ≠ .panic := by
  have hstatus : (getStatusRsp ops).wp (fun outcome _ => outcome ≠ .panic)
      ⟨pre, payload, []⟩ := by
    apply FdCall.withRequest_refuses
    · exact fun _ _ _ _ refused => refused.ne_panic
    · intro request _
      rw [Call.wp_bind]
      apply statusProgress_reports
      · intro _ progress log
        simp only [Call.wp_bind, FdCall.wp_internal]
        apply FdCall.respond_refuses
        · exact fun _ _ _ => by rintro ⟨⟩
        · exact fun _ _ _ refused => refused.ne_panic
        · exact fun _ panicked => absurd panicked (writeToPrefix_ne_panic _ _ _)
      · intro error unclear
        obtain ⟨progress, recorded⟩ := measured.recordedProgress
        cases recorded.symm.trans unclear
  exact hstatus

/-- In every reachable state what is unwrapped is there. -/
theorem unwraps_of_reachable {profile : Profile} {state : FdInternal}
    (reachable : (fdSystem profile).Reachable state) : Unwraps profile state := by
  obtain ⟨events, reached⟩ := reachable
  have trace : FdTrace profile events state := reached
  have coherent : Coherent state := trace.coherent
  refine ⟨rfl, fun id held => ?_, fun ops payload log => ?_, fun downloading => ?_,
    fun ops payload => (ResponseStep.run coherent).ne_panic, trace.measured.recordedProgress,
    fun ops payload => FdContext.getStatusRsp_ne_panic trace.measured,
    fun ops payload panicked => ?_⟩
  · have hlt := UInt8.lt_iff_toNat_lt.mp (coherent.id_lt id held)
    simp only [instanceIdCount, UInt8.reduceToNat] at hlt
    simp only [UInt8.size]
    omega
  · have hanswers : (FdContext.shouldSendFdRequest ops).wp (fun outcome _ => outcome ≠ .panic)
        ⟨state, payload, log⟩ := by
      apply PollStep.shouldSendFdRequest_rule
      · intro sent
        obtain ⟨time, _, _, htime, _⟩ := trace.retained.outstanding sent
        rw [htime]
        rintro ⟨⟩
      · rintro ⟨⟩
    exact hanswers
  · obtain ⟨offset, length, hmode⟩ := coherent.downloads downloading
    exact ⟨(offset, length), by rw [FdInternal.getFdDownloadState, hmode]⟩
  · have hstep : PollStep.After profile ops payload state _ _ := PollStep.run coherent
    rw [panicked] at hstep
    rcases PollStep.panics hstep with ⟨_, _, _, stored, error, stores, unknown⟩ |
      ⟨_, range, asked, _, overflowed⟩
    · exact .inl ⟨stored, error, stores, unknown⟩
    · exact .inr ⟨range, asked, overflowed⟩

/-- In every state of a run the fields of the device agree, and what is unwrapped is
there. -/
theorem representation_kept {profile : Profile} {events : List FdEvent} {state : FdInternal}
    (trace : FdTrace profile events state) : Represents events state ∧ Unwraps profile state :=
  ⟨trace.represents, unwraps_of_reachable ⟨events, trace⟩⟩

/-- The component is cancelled while the device waits for data. -/
def untilAbandoned : List FdInput :=
  opening 100 ++ [poll (platform 1), receive .cancelUpdateComponent
    (Agent.plainRequest .cancelUpdateComponent 1) (platform 2)]

/-- The request for data is still in the slot of a device that is ready for a component. -/
theorem representation_kept_abandoned : ∃ events state, FdTrace .debug events state ∧
    state.state = .readyXfer ∧ state.req.state = .sent ∧
    lastSent events = some (.requestFirmwareData 1 0 32) ∧
    Represents events state ∧ Unwraps .debug state := by
  obtain ⟨events, state, trace, hcheck⟩ := exists_run .debug untilAbandoned
    (fun events state => state.state = .readyXfer && state.req.state = .sent &&
      lastSent events = some (.requestFirmwareData 1 0 32)) (by decide +kernel)
  simp only [Bool.and_eq_true, decide_eq_true_eq] at hcheck
  obtain ⟨⟨hstate, hsent⟩, hlast⟩ := hcheck
  exact ⟨events, state, trace, hstate, hsent, hlast, representation_kept trace⟩

end PldmLib.FirmwareDevice
