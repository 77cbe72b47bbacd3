/-
# Steps of the device context

`FdStep` puts the steps of the requests, the polls and the responses together:
it says what any call of a public method can do. Coherence of the device state
holds initially and is kept by every step, so in a run every call takes one of
the steps listed.
-/

import PldmLib.FirmwareDevice.ResponseStep

namespace PldmLib.FirmwareDevice

open PldmLib.Machine PldmLib.Protocol PldmLib.Message

/-- `FdStep profile pre input output sent`: the call `input` takes the device from
`pre` to the state in `output` and hands over the request `sent`. -/
inductive FdStep (profile : Profile) (pre : FdInternal) :
    FdInput → FdOutput → Option FdRequest → Prop
  | request {handler : Handler} {payload final : List UInt8} {ops : FdOps}
      {outcome : Outcome MsgHandlerError ℕ} {post : FdInternal} {log : List Invocation}
      (step : RequestStep ops payload pre handler outcome post log) :
      FdStep profile pre ⟨.request handler payload, ops⟩
        ⟨outcome.map .length, post, final, log⟩ none
  | poll {payload final : List UInt8} {ops : FdOps} {outcome : Outcome MsgHandlerError ℕ}
      {post : FdInternal} {log : List Invocation} {sent : Option FdRequest}
      (step : PollStep profile ops payload pre outcome post log sent) :
      FdStep profile pre ⟨.fdProgress payload, ops⟩ ⟨outcome.map .length, post, final, log⟩ sent
  | response {payload final : List UInt8} {ops : FdOps}
      {outcome : Outcome MsgHandlerError PUnit} {post : FdInternal} {log : List Invocation}
      (step : ResponseStep ops payload pre outcome post log) :
      FdStep profile pre ⟨.handleResponse payload, ops⟩
        ⟨outcome.map fun _ => .done, post, final, log⟩ none
  | touch {ops : FdOps} :
      FdStep profile pre ⟨.setFdT1Ts, ops⟩
        ⟨.ok .done, pre.setFdT1UpdateTs (ops.now 0), [], [⟨.now, ops.now 0⟩]⟩ none
  | query {operation : FdOperation} {ops : FdOps} {value : Bool}
      (reads : operation = .isUpdateMode ∨ operation = .shouldStartInitiatorMode ∨
        operation = .shouldStopInitiatorMode) :
      FdStep profile pre ⟨operation, ops⟩ ⟨.ok (.flag value), pre, [], []⟩ none

namespace FdStep

variable {profile : Profile} {pre : FdInternal}

/-- The output of a method that converts the value of a call. -/
theorem fdStep_eq {operation : FdOperation} {ops : FdOps} {α : Type} (call : FdCall α)
    (convert : α → Returned)
    (runs : operation.run profile ops = call >>= fun value => pure (convert value)) :
    fdStep profile pre ⟨operation, ops⟩ =
      let ended := call ⟨pre, operation.payload, []⟩
      ⟨ended.1.map convert, ended.2.internal, ended.2.payload, ended.2.log⟩ := by
  simp only [fdStep, runs, Call.map_apply]

/-- What a poll hands over is read off its output. -/
theorem sent_poll (payload : List UInt8) (ops : FdOps) :
    FdEvent.sent ((fdSystem profile).event pre ⟨.fdProgress payload, ops⟩) =
      let ended := FdContext.fdProgress profile ops ⟨pre, payload, []⟩
      PollStep.handedOver ended.1 ended.2.payload := by
  have hstep : fdStep profile pre ⟨.fdProgress payload, ops⟩ = _ :=
    fdStep_eq (FdContext.fdProgress profile ops) .length rfl
  show FdEvent.sent ⟨pre, ⟨.fdProgress payload, ops⟩, fdStep profile pre _⟩ = _
  rw [hstep]
  simp only [FdEvent.sent, PollStep.handedOver, FdOperation.payload]
  cases (FdContext.fdProgress profile ops ⟨pre, payload, []⟩).1 <;> rfl

/-- Every call on a coherent device takes one of the steps. -/
theorem run (coherent : Coherent pre) (input : FdInput) :
    FdStep profile pre input (fdStep profile pre input)
      (FdEvent.sent ((fdSystem profile).event pre input)) := by
  obtain ⟨operation, ops⟩ := input
  cases operation with
  | request handler payload =>
      rw [fdStep_eq (handler.run ops) .length rfl]
      exact .request (RequestStep.run handler)
  | fdProgress payload =>
      rw [fdStep_eq (FdContext.fdProgress profile ops) .length rfl, sent_poll]
      exact .poll (PollStep.run coherent)
  | handleResponse payload =>
      rw [fdStep_eq (FdContext.handleResponse ops) (fun _ => .done) rfl]
      exact .response (ResponseStep.run coherent)
  | setFdT1Ts => exact .touch
  | isUpdateMode => exact .query (.inl rfl)
  | shouldStartInitiatorMode => exact .query (.inr (.inl rfl))
  | shouldStopInitiatorMode => exact .query (.inr (.inr rfl))

/-! ### The step of a given operation -/

variable {output : FdOutput} {sent : Option FdRequest} {ops : FdOps} {payload : List UInt8}

theorem of_request {handler : Handler}
    (step : FdStep profile pre ⟨.request handler payload, ops⟩ output sent) :
    sent = none ∧ ∃ outcome : Outcome MsgHandlerError ℕ, output.outcome = outcome.map .length ∧
      RequestStep ops payload pre handler outcome output.internal output.log := by
  cases step with
  | request step => exact ⟨rfl, _, rfl, step⟩
  | query reads => simp at reads

theorem of_poll (step : FdStep profile pre ⟨.fdProgress payload, ops⟩ output sent) :
    ∃ outcome : Outcome MsgHandlerError ℕ, output.outcome = outcome.map .length ∧
      PollStep profile ops payload pre outcome output.internal output.log sent := by
  cases step with
  | poll step => exact ⟨_, rfl, step⟩
  | query reads => simp at reads

theorem of_response (step : FdStep profile pre ⟨.handleResponse payload, ops⟩ output sent) :
    sent = none ∧ ∃ outcome : Outcome MsgHandlerError PUnit,
      output.outcome = outcome.map (fun _ => .done) ∧
      ResponseStep ops payload pre outcome output.internal output.log := by
  cases step with
  | response step => exact ⟨rfl, _, rfl, step⟩
  | query reads => simp at reads

end FdStep

/-! ## Coherence is kept -/

/-- The slot with another ID in it: what a call leaves that took an ID and failed. -/
theorem ActiveSlot.realloc {state : FirmwareDeviceState} {req : FdReq}
    (slot : ActiveSlot state req) (live : req.state ≠ .failed) (id : UInt8) :
    ActiveSlot state { req with instanceId := some id } := by
  cases slot with
  | working _ active => exact .working _ active
  | awaitingData _ time => exact .awaitingData id time
  | transferred result _ => exact .transferred result _
  | reported result _ time reports => exact .reported result id time reports
  | failed result active => exact absurd rfl live

theorem FdInternal.nextInstanceId_lt (internal : FdInternal) :
    internal.nextInstanceId < instanceIdCount := by
  unfold nextInstanceId
  cases internal.req.instanceId with
  | none => decide
  | some id => exact UInt8.mod_lt _ (by decide)

/-- A failed slot is never due. -/
theorem FdInternal.live_of_due {internal : FdInternal} {reading : PldmFdTime}
    (due : internal.due reading = true) : internal.req.state ≠ .failed := by
  intro failed
  simp [FdInternal.due, failed] at due

namespace Coherent

variable {pre post : FdInternal}

theorem init : Coherent .default where
  slot active := by cases active
  mode := trivial
  id_lt id held := by cases held

/-- Coherence is about the state, the slot and the operation data. -/
theorem congr (coherent : Coherent pre) (state : post.state = pre.state)
    (req : post.req = pre.req) (mode : post.initiatorModeState = pre.initiatorModeState) :
    Coherent post := by
  refine ⟨?_, ?_, ?_⟩
  · rw [state, req]
    exact coherent.slot
  · rw [state, mode]
    exact coherent.mode
  · rw [req]
    exact coherent.id_lt

theorem touched {log : List Invocation} (coherent : Coherent pre)
    (touched : Touched log pre post) : Coherent post :=
  coherent.congr touched.state touched.req touched.initiatorModeState

/-- Outside the operation states any slot will do. -/
theorem inactive (passive : post.state.isInitiator = false)
    (id_lt : ∀ id, post.req.instanceId = some id → id < instanceIdCount) : Coherent post := by
  refine ⟨fun active => absurd active (by simp [passive]), ?_, id_lt⟩
  revert passive
  cases post.state <;> simp [FirmwareDeviceState.isInitiator, ModeOf]

theorem allocated (coherent : Coherent pre) (active : pre.state.isInitiator = true)
    (live : pre.req.state ≠ .failed) : Coherent pre.allocNextInstanceId := by
  refine ⟨fun _ => (coherent.slot active).realloc live _, coherent.mode, ?_⟩
  rintro id held
  obtain rfl : pre.nextInstanceId = id := by
    simpa [FdInternal.allocNextInstanceId] using held
  exact pre.nextInstanceId_lt

theorem enterDownload (internal : FdInternal) : Coherent (FdContext.enterDownload internal) where
  slot _ := by
    rw [FdContext.enterDownload_state, FdContext.enterDownload_req]
    exact .working none rfl
  mode := by
    rw [FdContext.enterDownload_state, FdContext.enterDownload_initiatorModeState]
    exact ⟨0, 0, rfl⟩
  id_lt id held := by
    rw [FdContext.enterDownload_req] at held
    cases held

/-- A successful operation is followed by the next one, or by none. -/
theorem advance (internal : FdInternal) {state : FirmwareDeviceState}
    (active : state.isInitiator = true) :
    Coherent (PldmLib.FirmwareDevice.advance state internal) := by
  refine ⟨fun operates => ?_, ?_, fun id held => ?_⟩
  · rw [advance_state active] at operates ⊢
    rw [advance_req active]
    cases state with
    | download => exact .working none rfl
    | verify => exact .working none rfl
    | _ => cases operates
  · rw [advance_state active]
    cases state with
    | download => exact ⟨0, FdInternal.setFdState_initiatorModeState _ _⟩
    | verify => exact ⟨0, FdInternal.setFdState_initiatorModeState _ _⟩
    | _ => exact trivial
  · rw [advance_req active] at held
    cases held

theorem request {ops : FdOps} {payload : List UInt8} {handler : Handler}
    {outcome : Outcome MsgHandlerError ℕ} {log : List Invocation} (coherent : Coherent pre)
    (step : RequestStep ops payload pre handler outcome post log) : Coherent post := by
  cases step with
  | quiet touched idle spared => exact coherent.touched touched
  | sizeRecorded state touched idle =>
      exact (coherent.touched touched).congr rfl rfl rfl
  | updateStarted state decoded sized touched idle =>
      refine inactive (by simp [FirmwareDeviceState.isInitiator]) fun id held => ?_
      exact (coherent.touched touched).id_lt id (by simpa using held)
  | tableComplete state touched idle =>
      refine inactive (by simp [FirmwareDeviceState.isInitiator]) fun id held => ?_
      exact (coherent.touched touched).id_lt id (by simpa using held)
  | componentRecorded state decoded touched idle =>
      exact (coherent.touched touched).congr rfl rfl rfl
  | componentAccepted state decoded read idle => exact enterDownload _
  | activated state unread idle =>
      refine inactive (by simp [FdContext.enterActivate, FirmwareDeviceState.isInitiator])
        fun id held => ?_
      exact coherent.id_lt id (by simpa [FdContext.enterActivate] using held)
  | cancelRefused cancels effective refused touched worked => exact coherent.touched touched
  | cancelLost cancels effective cancelled unanswered touched worked =>
      exact coherent.touched touched
  | componentCancelled effective cancelled answered unread worked =>
      refine inactive (by simp [FirmwareDeviceState.isInitiator]) fun id held => ?_
      exact coherent.id_lt id (by simpa using held)
  | updateCancelled effective cancelled answered touched worked =>
      refine inactive (by simp [FirmwareDeviceState.isInitiator]) fun id held => ?_
      exact (coherent.touched touched).id_lt id (by simpa using held)

/-- Recording progress stays within the operation. -/
theorem setProgress (coherent : Coherent pre) (kind : OperationKind) (progress : UInt8) :
    Coherent (kind.setProgress progress pre) := by
  refine ⟨?_, ?_, ?_⟩
  · simpa using coherent.slot
  · rw [OperationKind.setProgress_state]
    have hmode := coherent.mode
    cases kind with
    | verify =>
        simp only [OperationKind.setProgress, FdInternal.setFdVerifyProgress]
        split
        · next hverify =>
            rw [hverify] at hmode
            cases hstate : pre.state <;> rw [hstate] at hmode <;> simp_all [ModeOf]
        · exact hmode
    | apply =>
        simp only [OperationKind.setProgress, FdInternal.setFdApplyProgress]
        split
        · next happly =>
            rw [happly] at hmode
            cases hstate : pre.state <;> rw [hstate] at hmode <;> simp_all [ModeOf]
        · exact hmode
  · simpa using coherent.id_lt

/-- The slot of a report that has just been sent. -/
theorem report {result id : UInt8} {time : PldmFdTime} {report : FwUpdateCmd}
    (coherent : Coherent pre) (reports : reportCommand pre.state = some report)
    (small : id < instanceIdCount) :
    Coherent (pre.setFdReq .sent true (some result) (some id) (some report.toU8)
      (some time)) where
  slot _ := .reported result id time reports
  mode := coherent.mode
  id_lt held same := by
    obtain rfl : id = held := by simpa using same
    exact small

theorem poll {profile : Profile} {ops : FdOps} {payload : List UInt8}
    {outcome : Outcome MsgHandlerError ℕ} {log : List Invocation} {sent : Option FdRequest}
    (coherent : Coherent pre)
    (step : PollStep profile ops payload pre outcome post log sent) : Coherent post := by
  -- An ID that was taken for a message that could not be sent.
  have hallocated (passed : Open ops pre) (active : pre.state.isInitiator = true) :
      Coherent pre.allocNextInstanceId :=
    coherent.allocated active (FdInternal.live_of_due passed.due)
  have hdownload (state : pre.state = .download) : pre.state.isInitiator = true := by
    rw [state]; rfl
  have hkind {kind : OperationKind} (state : pre.state = kind.state) :
      pre.state.isInitiator = true ∧ reportCommand pre.state = some kind.command := by
    rw [state]
    cases kind <;> exact ⟨rfl, rfl⟩
  cases step with
  | inactive state => exact coherent
  | timedOut active silence cancelled =>
      exact inactive (by simp [FirmwareDeviceState.isInitiator]) fun id held => by simp at held
  | timeoutRefused active silence refused => exact coherent
  | undue active heard early => exact coherent
  | transferUnsent state passed => exact hallocated passed (hdownload state)
  | transferUnknown state passed complete stored unknown =>
      exact hallocated passed (hdownload state)
  | transferReported state passed complete stored known room =>
      exact (hallocated passed (hdownload state)).report (by simp [state, reportCommand])
        pre.nextInstanceId_lt
  | rangeUnknown state passed complete asked => exact hallocated passed (hdownload state)
  | rangeRefused state passed complete asked outside => exact hallocated passed (hdownload state)
  | rangeOverflowed state passed complete asked overflowed =>
      exact hallocated passed (hdownload state)
  | dataUnsent state passed complete asked inside short =>
      exact hallocated passed (hdownload state)
  | @dataRequested range offset length state passed complete asked inside room =>
      obtain ⟨oldOffset, oldLength, hmode⟩ := coherent.downloads state
      refine ⟨fun _ => ?_, ?_, fun id held => ?_⟩
      · simp only [FdInternal.setFdReq_state, FdInternal.setFdReq_req,
          FdInternal.setFdDownloadState_state, FdInternal.allocNextInstanceId_state, state]
        exact .awaitingData _ _
      · simp only [FdInternal.setFdReq_state, FdInternal.setFdReq_initiatorModeState,
          FdInternal.allocNextInstanceId_state, state, FdInternal.setFdDownloadState,
          FdInternal.allocNextInstanceId_initiatorModeState, hmode]
        exact ⟨offset, length, rfl⟩
      · obtain rfl : pre.nextInstanceId = id := by simpa using held
        exact pre.nextInstanceId_lt
  | operationFailed state passed complete failed => exact coherent
  | operationPending state passed complete ran unfinished =>
      exact (coherent.setProgress _ _).congr rfl rfl rfl
  | operationUnsent state passed complete ran finished short =>
      refine (coherent.setProgress _ _).allocated ?_ ?_
      · simpa using (hkind state).1
      · simpa using FdInternal.live_of_due passed.due
  | @operationReported kind result progress state passed complete ran finished room =>
      refine Coherent.report ?_ (by simpa using (hkind state).2) pre.nextInstanceId_lt
      refine (coherent.setProgress _ _).allocated ?_ ?_
      · simpa using (hkind state).1
      · simpa using FdInternal.live_of_due passed.due
  | reportUnsent state passed complete short => exact hallocated passed (hkind state).1
  | reportRepeated state passed complete room =>
      exact (hallocated passed (hkind state).1).report (hkind state).2 pre.nextInstanceId_lt

/-- The slot of a request about to be sent: it holds no ID. -/
theorem ready {complete : Bool} {result : Option UInt8} {reqState : FdReqState}
    (coherent : Coherent pre)
    (slot : ActiveSlot pre.state ⟨reqState, complete, result, none, none, none⟩) :
    Coherent (pre.setFdReq reqState complete result none none none) where
  slot _ := slot
  mode := coherent.mode
  id_lt _ held := by simp at held

theorem response {ops : FdOps} {payload : List UInt8} {outcome : Outcome MsgHandlerError PUnit}
    {log : List Invocation} (coherent : Coherent pre)
    (step : ResponseStep ops payload pre outcome post log) : Coherent post := by
  have hheard : Coherent (pre.setFdT1UpdateTs (ops.now 0)) := coherent.congr rfl rfl rfl
  have hdone (state : pre.state = .download) (result : UInt8) :
      Coherent ((pre.setFdT1UpdateTs (ops.now 0)).setFdReq .ready true (some result)
        none none none) := by
    refine hheard.ready ?_
    rw [FdInternal.setFdT1UpdateTs_state, state]
    exact .transferred result none
  cases step with
  | ignored unexpected => exact coherent
  | heard accepted returned => exact hheard
  | dataRefused accepted delivery refused => exact hheard
  | dataRejected accepted delivery ran failed => exact hdone delivery.state _
  | dataStored accepted delivery ran more =>
      refine hheard.ready (.working none ?_)
      rw [FdInternal.setFdT1UpdateTs_state, delivery.state]
      rfl
  | dataCompleted accepted delivery ran done => exact hdone delivery.state _
  | transferAborted accepted state complete => exact hdone state _
  | acknowledged accepted active complete success => exact advance _ active
  | disappointed accepted active complete failure =>
      obtain ⟨result, hresult⟩ := (coherent.slot active).result complete
      rw [hresult]
      exact hheard.ready (.failed result active)

/-- Every step keeps the device coherent. -/
theorem step {profile : Profile} {input : FdInput} {output : FdOutput}
    {sent : Option FdRequest} (coherent : Coherent pre)
    (step : FdStep profile pre input output sent) : Coherent output.internal := by
  cases step with
  | request step => exact coherent.request step
  | poll step => exact coherent.poll step
  | response step => exact coherent.response step
  | touch => exact coherent.congr rfl rfl rfl
  | query reads => exact coherent

end Coherent

/-! ## What an operation leaves alone -/

/-- The part of the state that only the agent's requests change. -/
structure Kept (pre post : FdInternal) : Prop where
  updateComp : post.updateComp = pre.updateComp
  maxXferSize : post.maxXferSize = pre.maxXferSize
  fdT1Timeout : post.fdT1Timeout = pre.fdT1Timeout
  fdT2RetryTime : post.fdT2RetryTime = pre.fdT2RetryTime

namespace Kept

variable {pre between post : FdInternal}

theorem refl (pre : FdInternal) : Kept pre pre := ⟨rfl, rfl, rfl, rfl⟩

theorem trans (first : Kept pre between) (second : Kept between post) : Kept pre post :=
  ⟨second.updateComp.trans first.updateComp, second.maxXferSize.trans first.maxXferSize,
    second.fdT1Timeout.trans first.fdT1Timeout,
    second.fdT2RetryTime.trans first.fdT2RetryTime⟩

theorem touched {log : List Invocation} (touched : Touched log pre post) : Kept pre post :=
  ⟨touched.updateComp, touched.maxXferSize, touched.fdT1Timeout, touched.fdT2RetryTime⟩

theorem setFdT1UpdateTs (time : PldmFdTime) : Kept pre (pre.setFdT1UpdateTs time) :=
  ⟨rfl, rfl, rfl, rfl⟩

theorem setFdReq (reqState : FdReqState) (complete : Bool)
    (result instanceId command : Option UInt8) (sentTime : Option PldmFdTime) :
    Kept pre (pre.setFdReq reqState complete result instanceId command sentTime) :=
  ⟨rfl, rfl, rfl, rfl⟩

theorem allocNextInstanceId : Kept pre pre.allocNextInstanceId := ⟨rfl, rfl, rfl, rfl⟩

theorem setFdState (state : FirmwareDeviceState) : Kept pre (pre.setFdState state) := by
  unfold FdInternal.setFdState
  split <;> exact ⟨rfl, rfl, rfl, rfl⟩

theorem setFdIdle (reason : GetStatusReasonCode) : Kept pre (pre.setFdIdle reason) := by
  unfold FdInternal.setFdIdle
  split <;> exact ⟨rfl, rfl, rfl, rfl⟩

theorem fdIdleTimeout : Kept pre pre.fdIdleTimeout := by
  unfold FdInternal.fdIdleTimeout
  split
  · exact refl pre
  · exact setFdIdle _

theorem setProgress (kind : OperationKind) (progress : UInt8) :
    Kept pre (kind.setProgress progress pre) := by
  rw [OperationKind.setProgress_eq]
  exact ⟨rfl, rfl, rfl, rfl⟩

theorem setFdDownloadState (offset length : UInt32) :
    Kept pre (pre.setFdDownloadState offset length) := by
  unfold FdInternal.setFdDownloadState
  split <;> exact ⟨rfl, rfl, rfl, rfl⟩

theorem advance (state : FirmwareDeviceState) :
    Kept pre (FirmwareDevice.advance state pre) := by
  have hready (mode : InitiatorModeState) (reqState : FdReqState) : Kept pre
      ((pre.setInitiatorMode mode).setFdReq reqState false none none none none) :=
    ⟨rfl, rfl, rfl, rfl⟩
  cases state with
  | download =>
      simp only [FirmwareDevice.advance, FdContext.enterVerify]
      exact (hready _ _).trans (setFdState _)
  | verify =>
      simp only [FirmwareDevice.advance, FdContext.enterApply]
      exact (hready _ _).trans (setFdState _)
  | apply =>
      simp only [FirmwareDevice.advance, FdContext.leaveApply]
      exact (setFdReq _ _ _ _ _ _).trans (setFdState _)
  | _ => exact refl pre

end Kept

/-- A poll keeps the component and its parameters. -/
theorem PollStep.kept {profile : Profile} {ops : FdOps} {payload : List UInt8}
    {pre post : FdInternal} {outcome : Outcome MsgHandlerError ℕ} {log : List Invocation}
    {sent : Option FdRequest}
    (step : PollStep profile ops payload pre outcome post log sent) : Kept pre post := by
  cases step with
  | timedOut active silence cancelled =>
      exact Kept.fdIdleTimeout.trans ⟨rfl, rfl, rfl, rfl⟩
  | dataRequested state passed complete asked inside room =>
      exact (Kept.allocNextInstanceId.trans (Kept.setFdDownloadState _ _)).trans
        (Kept.setFdReq _ _ _ _ _ _)
  | operationPending state passed complete ran unfinished =>
      exact (Kept.setProgress _ _).trans ⟨rfl, rfl, rfl, rfl⟩
  | operationUnsent state passed complete ran finished short =>
      exact (Kept.setProgress _ _).trans ⟨rfl, rfl, rfl, rfl⟩
  | operationReported state passed complete ran finished room =>
      exact (Kept.setProgress _ _).trans ⟨rfl, rfl, rfl, rfl⟩
  | _ => exact ⟨rfl, rfl, rfl, rfl⟩

/-- A poll leaves the state of the device unless T1 ends the update. -/
theorem PollStep.state_eq {profile : Profile} {ops : FdOps} {payload : List UInt8}
    {pre post : FdInternal} {outcome : Outcome MsgHandlerError ℕ} {log : List Invocation}
    {sent : Option FdRequest}
    (step : PollStep profile ops payload pre outcome post log sent)
    (live : outcome ≠ .err .t1Timeout) : post.state = pre.state := by
  cases step with
  | timedOut active silence cancelled => exact absurd rfl live
  | dataRequested state passed complete asked inside room =>
      simp only [FdInternal.setFdReq_state, FdInternal.setFdDownloadState_state,
        FdInternal.allocNextInstanceId_state]
  | operationPending state passed complete ran unfinished =>
      simp only [FdInternal.setFdT1UpdateTs_state, OperationKind.setProgress_state]
  | operationUnsent state passed complete ran finished short =>
      simp only [FdInternal.allocNextInstanceId_state, OperationKind.setProgress_state]
  | operationReported state passed complete ran finished room =>
      simp only [FdInternal.setFdReq_state, FdInternal.allocNextInstanceId_state,
        OperationKind.setProgress_state]
  | _ => rfl

theorem OperationKind.state_isInitiator (kind : OperationKind) :
    kind.state.isInitiator = true := by
  cases kind <;> rfl

/-- Outside the operation states a poll does nothing. -/
theorem PollStep.of_passive {profile : Profile} {ops : FdOps} {payload : List UInt8}
    {pre post : FdInternal} {outcome : Outcome MsgHandlerError ℕ} {log : List Invocation}
    {sent : Option FdRequest}
    (step : PollStep profile ops payload pre outcome post log sent)
    (passive : pre.state.isInitiator = false) :
    outcome = .err .fdInitiatorModeError ∧ post = pre ∧ log = [] ∧ sent = none := by
  have hdownload (state : pre.state = .download) : False := by
    rw [state] at passive
    cases passive
  have hkind {kind : OperationKind} (state : pre.state = kind.state) : False := by
    rw [state, kind.state_isInitiator] at passive
    cases passive
  cases step with
  | inactive state => exact ⟨rfl, rfl, rfl, rfl⟩
  | timedOut active silence cancelled => exact absurd active (by simp [passive])
  | timeoutRefused active silence refused => exact absurd active (by simp [passive])
  | undue active heard early => exact absurd active (by simp [passive])
  | transferUnsent state => exact (hdownload state).elim
  | transferUnknown state => exact (hdownload state).elim
  | transferReported state => exact (hdownload state).elim
  | rangeUnknown state => exact (hdownload state).elim
  | rangeRefused state => exact (hdownload state).elim
  | rangeOverflowed state => exact (hdownload state).elim
  | dataUnsent state => exact (hdownload state).elim
  | dataRequested state => exact (hdownload state).elim
  | operationFailed state => exact (hkind state).elim
  | operationPending state => exact (hkind state).elim
  | operationUnsent state => exact (hkind state).elim
  | operationReported state => exact (hkind state).elim
  | reportUnsent state => exact (hkind state).elim
  | reportRepeated state => exact (hkind state).elim

/-- Outside the operation states a response is at most heard. -/
theorem ResponseStep.of_passive {ops : FdOps} {payload : List UInt8} {pre post : FdInternal}
    {outcome : Outcome MsgHandlerError PUnit} {log : List Invocation}
    (step : ResponseStep ops payload pre outcome post log)
    (passive : pre.state.isInitiator = false) : Touched log pre post ∧ works log = [] := by
  have hdelivery {offset : UInt32} {data : List UInt8}
      (delivery : Delivery payload pre offset data) : False := by
    rw [delivery.state] at passive
    cases passive
  cases step with
  | ignored unexpected => exact ⟨.kept rfl, rfl⟩
  | heard accepted returned => exact ⟨.refreshed _ rfl, rfl⟩
  | dataRefused accepted delivery => exact (hdelivery delivery).elim
  | dataRejected accepted delivery => exact (hdelivery delivery).elim
  | dataStored accepted delivery => exact (hdelivery delivery).elim
  | dataCompleted accepted delivery => exact (hdelivery delivery).elim
  | transferAborted accepted state complete =>
      rw [state] at passive
      cases passive
  | acknowledged accepted active => exact absurd active (by simp [passive])
  | disappointed accepted active => exact absurd active (by simp [passive])

/-- A response that takes the device out of the operation states ends the
operation for good. -/
theorem ResponseStep.unused_of_passive {ops : FdOps} {payload : List UInt8}
    {pre post : FdInternal} {outcome : Outcome MsgHandlerError PUnit} {log : List Invocation}
    (step : ResponseStep ops payload pre outcome post log)
    (active : pre.state.isInitiator = true) (passive : post.state.isInitiator = false) :
    post.req.state = .unused := by
  cases step with
  | acknowledged accepted active complete success =>
      rw [advance_state active] at passive
      rw [advance_req active]
      cases hstate : pre.state with
      | apply => rfl
      | download => simp [hstate, successor, FirmwareDeviceState.isInitiator] at passive
      | verify => simp [hstate, successor, FirmwareDeviceState.isInitiator] at passive
      | _ => simp [hstate, FirmwareDeviceState.isInitiator] at active
  | _ => simp_all

/-- A response keeps the component and its parameters. -/
theorem ResponseStep.kept {ops : FdOps} {payload : List UInt8} {pre post : FdInternal}
    {outcome : Outcome MsgHandlerError PUnit} {log : List Invocation}
    (step : ResponseStep ops payload pre outcome post log) : Kept pre post := by
  cases step with
  | acknowledged accepted active complete success =>
      exact (Kept.setFdT1UpdateTs _).trans (Kept.advance _)
  | _ => exact ⟨rfl, rfl, rfl, rfl⟩

/-! ## The work of a step -/

/-- A cancellation is asked for in an operation state. -/
theorem isInitiator_of_shouldCancel {internal : FdInternal} {cancel : Bool}
    (asked : FdContext.shouldCancel internal = some cancel) :
    internal.state.isInitiator = true := by
  unfold FdContext.shouldCancel at asked
  cases hstate : internal.state <;> rw [hstate] at asked <;> first | rfl | cases asked

/-- The only work a request asks for is a cancellation. -/
theorem RequestStep.works_eq {ops : FdOps} {payload : List UInt8} {pre post : FdInternal}
    {handler : Handler} {outcome : Outcome MsgHandlerError ℕ} {log : List Invocation}
    (step : RequestStep ops payload pre handler outcome post log) :
    works log = [] ∨ ∃ answer, handler.isCancel = true ∧
      FdContext.shouldCancel pre = some true ∧
      ops.cancelUpdateComponent pre.updateComp = answer ∧
      works log = [.cancelUpdateComponent pre.updateComp answer] := by
  cases step with
  | quiet _ idle => exact .inl idle
  | sizeRecorded _ _ idle => exact .inl idle
  | updateStarted _ _ _ _ idle => exact .inl idle
  | tableComplete _ _ idle => exact .inl idle
  | componentRecorded _ _ _ idle => exact .inl idle
  | componentAccepted _ _ _ idle => exact .inl idle
  | activated _ _ idle => exact .inl idle
  | cancelRefused cancels effective refused _ worked =>
      exact .inr ⟨_, cancels, effective, refused, worked⟩
  | cancelLost cancels effective cancelled _ _ worked =>
      exact .inr ⟨_, cancels, effective, cancelled, worked⟩
  | componentCancelled effective cancelled _ _ worked =>
      exact .inr ⟨_, rfl, effective, cancelled, worked⟩
  | updateCancelled effective cancelled _ _ worked =>
      exact .inr ⟨_, rfl, effective, cancelled, worked⟩

@[simp] theorem OperationKind.callback_isWork (kind : OperationKind) (ops : FdOps)
    (component : FirmwareComponent) : (kind.callback ops component).isWork = true := by
  cases kind <;> rfl

/-- The work a poll asks for. -/
theorem PollStep.works_eq {profile : Profile} {ops : FdOps} {payload : List UInt8}
    {pre post : FdInternal} {outcome : Outcome MsgHandlerError ℕ} {log : List Invocation}
    {sent : Option FdRequest}
    (step : PollStep profile ops payload pre outcome post log sent) :
    works log = [] ∨
      (∃ answer, pre.state.isInitiator = true ∧ silent ops pre = true ∧
        ops.cancelUpdateComponent pre.updateComp = answer ∧
        (answer = .ok () → outcome = .err .t1Timeout ∧
          post = pre.fdIdleTimeout.setFdReq .unused false none none none none) ∧
        works log = [.cancelUpdateComponent pre.updateComp answer]) ∨
      (∃ answer, pre.state = .download ∧ Open ops pre ∧ pre.req.complete = false ∧
        ops.queryDownloadOffsetAndLength pre.updateComp = answer ∧
        works log = [.queryDownloadOffsetAndLength pre.updateComp answer]) ∨
      ∃ kind : OperationKind, pre.state = kind.state ∧ Open ops pre ∧
        pre.req.complete = false ∧ works log = [kind.callback ops pre.updateComp] := by
  cases step with
  | inactive state => exact .inl rfl
  | timedOut active silence cancelled =>
      exact .inr (.inl ⟨_, active, silence, cancelled, fun _ => ⟨rfl, rfl⟩, rfl⟩)
  | timeoutRefused active silence refused =>
      exact .inr (.inl ⟨_, active, silence, refused, nofun, rfl⟩)
  | rangeUnknown state passed complete asked =>
      exact .inr (.inr (.inl ⟨_, state, passed, complete, asked, by simp; rfl⟩))
  | rangeRefused state passed complete asked outside =>
      exact .inr (.inr (.inl ⟨_, state, passed, complete, asked, by simp; rfl⟩))
  | rangeOverflowed state passed complete asked overflowed =>
      exact .inr (.inr (.inl ⟨_, state, passed, complete, asked, by simp; rfl⟩))
  | dataUnsent state passed complete asked inside short =>
      exact .inr (.inr (.inl ⟨_, state, passed, complete, asked, by simp; rfl⟩))
  | dataRequested state passed complete asked inside room =>
      exact .inr (.inr (.inl ⟨_, state, passed, complete, asked, by simp; rfl⟩))
  | operationFailed state passed complete failed =>
      exact .inr (.inr (.inr ⟨_, state, passed, complete, by simp [works_cons]⟩))
  | operationPending state passed complete ran unfinished =>
      exact .inr (.inr (.inr ⟨_, state, passed, complete, by simp [works_cons]⟩))
  | operationUnsent state passed complete ran finished short =>
      exact .inr (.inr (.inr ⟨_, state, passed, complete, by simp [works_cons]⟩))
  | operationReported state passed complete ran finished room =>
      exact .inr (.inr (.inr ⟨_, state, passed, complete, by simp [works_cons]⟩))
  | _ => exact .inl (by simp [works_cons])

/-- A response never has the platform cancel, ask for a range, verify or apply. -/
theorem ResponseStep.works_eq {ops : FdOps} {payload : List UInt8} {pre post : FdInternal}
    {outcome : Outcome MsgHandlerError PUnit} {log : List Invocation}
    (step : ResponseStep ops payload pre outcome post log) :
    ∀ callback ∈ works log,
      (∃ offset data result, callback = .downloadFwData offset data pre.updateComp result) ∨
        ∃ result, callback = .isDownloadComplete pre.updateComp result := by
  cases step <;> simp [works_cons, Callback.isWork]

/-- Where the verify and the apply callback run. -/
theorem FdStep.of_operation {profile : Profile} {pre : FdInternal} {input : FdInput}
    {output : FdOutput} {sent : Option FdRequest} (step : FdStep profile pre input output sent)
    {callback : Callback} (member : callback ∈ works output.log)
    (operates : (∃ component answer, callback = .verify component answer) ∨
      ∃ component answer, callback = .apply component answer) :
    ∃ kind : OperationKind, pre.state = kind.state ∧
      callback = kind.callback input.ops pre.updateComp := by
  cases step with
  | request step =>
      rcases step.works_eq with hnone | ⟨_, _, _, _, hcancel⟩
      · simp [hnone] at member
      · rw [hcancel, List.mem_singleton] at member
        simp [member] at operates
  | poll step =>
      rcases step.works_eq with hnone | ⟨_, _, _, _, _, hcancel⟩ | ⟨_, _, _, _, _, hquery⟩ |
        ⟨kind, state, _, _, hcallback⟩
      · simp [hnone] at member
      · rw [hcancel, List.mem_singleton] at member
        simp [member] at operates
      · rw [hquery, List.mem_singleton] at member
        simp [member] at operates
      · rw [hcallback, List.mem_singleton] at member
        exact ⟨kind, state, member⟩
  | response step =>
      rcases step.works_eq _ member with ⟨_, _, _, rfl⟩ | ⟨_, rfl⟩ <;> simp at operates
  | touch => simp [works_cons] at member
  | query reads => simp at member

/-- The event takes the device from another state to `Download`. -/
def MovesToDownload (event : FdEvent) : Prop :=
  event.before.state ≠ .download ∧ event.after.state = .download

instance (event : FdEvent) : Decidable (MovesToDownload event) :=
  inferInstanceAs (Decidable (_ ∧ _))

/-- A response keeps the state, or advances it. -/
theorem ResponseStep.state_eq {ops : FdOps} {payload : List UInt8} {pre post : FdInternal}
    {outcome : Outcome MsgHandlerError PUnit} {log : List Invocation}
    (step : ResponseStep ops payload pre outcome post log) :
    post.state = pre.state ∨
      (pre.state.isInitiator = true ∧ pre.req.complete = true ∧ pre.req.result = some 0 ∧
        post = advance pre.state (pre.setFdT1UpdateTs (ops.now 0))) := by
  cases step with
  | acknowledged accepted active complete success =>
      exact .inr ⟨active, complete, success, rfl⟩
  | _ => exact .inl rfl

/-- Only the answer to a report of success moves the device on. -/
theorem ResponseStep.of_movesOn {ops : FdOps} {payload : List UInt8} {pre post : FdInternal}
    {outcome : Outcome MsgHandlerError PUnit} {log : List Invocation}
    (step : ResponseStep ops payload pre outcome post log) (moves : post.state ≠ pre.state) :
    accepts pre.req payload = true ∧ pre.state.isInitiator = true ∧
      pre.req.complete = true ∧ pre.req.result = some 0 := by
  cases step with
  | acknowledged accepted active complete success =>
      exact ⟨accepted, active, complete, success⟩
  | _ => exact absurd rfl moves

/-- The two kinds of request an active device can have outstanding. -/
theorem outstanding_cases {pre : FdInternal} (coherent : Coherent pre)
    (active : pre.state.isInitiator = true)
    (sent : pre.req.state = .sent) :
    (pre.state = .download ∧ pre.req.complete = false ∧
      pre.req.command = some FwUpdateCmd.requestFirmwareData.toU8) ∨
    (pre.req.complete = true ∧ ∃ report, reportCommand pre.state = some report ∧
      pre.req.command = some report.toU8) := by
  have hslot := coherent.slot active
  generalize hstate : pre.state = state at hslot ⊢
  generalize hreq : pre.req = req at hslot sent ⊢
  cases hslot with
  | working id => cases sent
  | awaitingData id time => exact .inl ⟨rfl, rfl, rfl⟩
  | transferred result id => cases sent
  | reported result id time reports => exact .inr ⟨rfl, _, reports, rfl⟩
  | failed result => cases sent

/-- No operation is followed by a download. -/
theorem advance_state_ne_download {state : FirmwareDeviceState} {internal : FdInternal}
    (active : state.isInitiator = true) : (advance state internal).state ≠ .download := by
  rw [advance_state active]
  cases state <;> rintro ⟨⟩

/-- The only way into a download is a component that the platform accepts. -/
theorem FdStep.of_movesToDownload {profile : Profile} {pre : FdInternal} {input : FdInput}
    {output : FdOutput} {sent : Option FdRequest} (step : FdStep profile pre input output sent)
    (moves : MovesToDownload ⟨pre, input, output⟩) :
    ∃ payload request time, input.operation = .request .updateComponent payload ∧
      UpdateComponentRequest.decode payload = .ok request ∧ pre.state = .readyXfer ∧
      readings output.log = [time] ∧ works output.log = [] ∧
      output.internal = FdContext.enterDownload
        (((pre.setFdT1UpdateTs time).setComponent
          (FdContext.describedComponent request)).setUpdateFlags ⟨request.updateOptionFlags⟩) := by
  obtain ⟨outside, inside⟩ := moves
  dsimp only [FdEvent.after] at outside inside
  cases step with
  | request step =>
      cases step with
      | quiet touched => exact absurd (touched.state.symm.trans inside) outside
      | sizeRecorded _ touched => exact absurd (touched.state.symm.trans inside) outside
      | componentRecorded _ _ touched => exact absurd (touched.state.symm.trans inside) outside
      | componentAccepted state decoded read idle =>
          exact ⟨_, _, _, rfl, decoded, state, read, idle, rfl⟩
      | cancelRefused _ _ _ touched => exact absurd (touched.state.symm.trans inside) outside
      | cancelLost _ _ _ _ touched => exact absurd (touched.state.symm.trans inside) outside
      | _ => simp [FdContext.enterActivate] at inside
  | @poll _ _ _ outcome post _ _ step =>
      by_cases timedOut : outcome = .err .t1Timeout
      · subst timedOut
        cases step
        simp at inside
      · exact absurd ((step.state_eq timedOut).symm.trans inside) outside
  | response step =>
      rcases step.state_eq with same | ⟨active, _, _, hpost⟩
      · exact absurd (same.symm.trans inside) outside
      · rw [hpost] at inside
        exact absurd inside (advance_state_ne_download active)
  | touch => exact absurd inside outside
  | query reads => exact absurd inside outside

/-! ## Runs -/

/-- A run of the device context from some state on. -/
abbrev FdRun (profile : Profile) (origin : FdInternal) (events : List FdEvent)
    (state : FdInternal) : Prop :=
  (fdSystem profile).Trace origin events state

/-- A run of a device context from its construction on. -/
abbrev FdTrace (profile : Profile) (events : List FdEvent) (state : FdInternal) : Prop :=
  FdRun profile .default events state

/-- The event of a call. -/
abbrev fdEvent (profile : Profile) (state : FdInternal) (input : FdInput) : FdEvent :=
  (fdSystem profile).event state input

section Runs

variable {profile : Profile} {origin state : FdInternal} {events : List FdEvent}

/-- An induction over runs, with what a step can do. -/
theorem FdRun.induct (run : FdRun profile origin events state) (coherent : Coherent origin)
    (holds : List FdEvent → FdInternal → Prop) (start : holds [] origin)
    (step : ∀ events pre input output sent, Coherent pre → holds events pre →
      FdStep profile pre input output sent → output.outcome ≠ .panic →
      sent = FdEvent.sent ⟨pre, input, output⟩ →
      holds (events ++ [⟨pre, input, output⟩]) output.internal) :
    holds events state ∧ Coherent state := by
  refine run.invariant (fun events state => holds events state ∧ Coherent state)
    ⟨start, coherent⟩ ?_
  rintro events pre input reached prior ⟨ih, hpre⟩ live
  have hstep := @FdStep.run profile pre hpre input
  have hlive : (fdStep profile pre input).outcome ≠ .panic := by
    intro panicked
    have hnone : (fdSystem profile).next (fdStep profile pre input) = none := by
      simp [fdSystem, panicked]
    exact absurd (hnone.symm.trans live) (by rintro ⟨⟩)
  rw [fdSystem_next live]
  exact ⟨step _ _ input _ _ hpre ih hstep hlive rfl, hpre.step hstep⟩

/-- Every state a run from a coherent state reaches is coherent. -/
theorem FdRun.coherent (run : FdRun profile origin events state) (coherent : Coherent origin) :
    Coherent state :=
  (run.induct coherent (fun _ _ => True) trivial fun _ _ _ _ _ _ _ _ _ _ => trivial).2

/-- Every state a run reaches is coherent. -/
theorem FdTrace.coherent (trace : FdTrace profile events state) : Coherent state :=
  FdRun.coherent trace Coherent.init

/-- A call that does not panic has a successor. -/
theorem fdSystem_next_of_live {input : FdInput}
    (live : (fdEvent profile state input).output.outcome ≠ .panic) :
    (fdSystem profile).next ((fdSystem profile).step state input) =
      some (fdEvent profile state input).after := by
  show (fdSystem profile).next (fdEvent profile state input).output = _
  cases houtcome : (fdEvent profile state input).output.outcome with
  | panic => exact absurd houtcome live
  | _ => simp [fdSystem, houtcome, FdEvent.after]

/-- A run goes on with every call that does not panic. -/
theorem FdRun.extend (run : FdRun profile origin events state) (input : FdInput)
    (live : (fdEvent profile state input).output.outcome ≠ .panic) :
    FdRun profile origin (events ++ [fdEvent profile state input])
      (fdEvent profile state input).after :=
  System.Trace.extend run input (fdSystem_next_of_live live)

/-- A run up to one of its calls, up to the end of that call, and from there on. -/
theorem FdRun.cut {before after : List FdEvent} {event : FdEvent}
    (run : FdRun profile origin (before ++ event :: after) state) :
    FdRun profile origin before event.before ∧
      event = fdEvent profile event.before event.input ∧
      FdRun profile origin (before ++ [event]) event.after ∧
      FdRun profile event.after after state := by
  obtain ⟨prior, hevent, reached, live, through, rest⟩ := System.Trace.cut run
  rw [fdSystem_next live] at through rest
  exact ⟨prior, hevent, through, rest⟩

/-- The first call of a run, and the rest. -/
theorem FdRun.uncons {event : FdEvent} (run : FdRun profile origin (event :: events) state) :
    event.before = origin ∧ event = fdEvent profile event.before event.input ∧
      FdRun profile event.after events state := by
  have hsplit : FdRun profile origin ([] ++ event :: events) state := run
  obtain ⟨nothing, hevent, _, rest⟩ := hsplit.cut
  exact ⟨System.Trace.eq_of_nil nothing, hevent, rest⟩

/-- The first call of a run is a step from its origin. -/
theorem FdRun.head {event : FdEvent} (run : FdRun profile origin (event :: events) state)
    (coherent : Coherent origin) :
    FdStep profile origin event.input event.output event.sent ∧ event.before = origin ∧
      FdRun profile event.after events state := by
  obtain ⟨hbefore, hevent, hrest⟩ := run.uncons
  rw [hevent, hbefore]
  exact ⟨FdStep.run coherent event.input, rfl, by rwa [hevent, hbefore] at hrest⟩

/-- Each call of a run, the last one included whether or not it panics, comes at the
end of a run. -/
theorem FdTrace.cut_next {before after : List FdEvent} {event : FdEvent}
    (trace : FdTrace profile events state) {input : FdInput}
    (split : events ++ [fdEvent profile state input] = before ++ event :: after) :
    FdTrace profile before event.before ∧ event = fdEvent profile event.before event.input :=
  System.Trace.cut_next trace split

/-- What holds of each next call if and only if something else does, does so throughout. -/
theorem FdTrace.throughout_congr {holds holds' : List FdEvent → FdEvent → Prop}
    (trace : FdTrace profile events state) (input : FdInput)
    (step : ∀ {events state} (_ : FdTrace profile events state) (input : FdInput),
      holds events (fdEvent profile state input) ↔ holds' events (fdEvent profile state input)) :
    Throughout holds (events ++ [fdEvent profile state input]) ↔
      Throughout holds' (events ++ [fdEvent profile state input]) := by
  apply Machine.throughout_congr
  intro before event after split
  obtain ⟨prior, hevent⟩ := trace.cut_next split
  rw [hevent]
  exact step prior event.input

/-- Every call at the end of a run takes one of the steps. -/
theorem FdTrace.step (trace : FdTrace profile events state) (input : FdInput) :
    FdStep profile state input (fdEvent profile state input).output
      (fdEvent profile state input).sent :=
  FdStep.run trace.coherent input

/-- What is known of a handler is known of the call. -/
theorem request_rule {handler : Handler} {payload : List UInt8} {ops : FdOps}
    {holds : Outcome MsgHandlerError ℕ → CallState → Prop}
    (rule : (handler.run ops).wp holds ⟨state, payload, []⟩) :
    ∃ outcome final, holds outcome final ∧
      (fdEvent profile state ⟨.request handler payload, ops⟩).output.outcome =
        outcome.map .length ∧
      (fdEvent profile state ⟨.request handler payload, ops⟩).after = final.internal ∧
      (fdEvent profile state ⟨.request handler payload, ops⟩).output.payload = final.payload ∧
      (fdEvent profile state ⟨.request handler payload, ops⟩).callbacks =
        final.log.map Invocation.callback := by
  have houtput : (fdEvent profile state ⟨.request handler payload, ops⟩).output = _ :=
    FdStep.fdStep_eq (handler.run ops) .length rfl
  rw [FdEvent.after, FdEvent.callbacks, FdEvent.log, houtput]
  exact ⟨_, _, rule, rfl, rfl, rfl, rfl⟩

end Runs

end PldmLib.FirmwareDevice
