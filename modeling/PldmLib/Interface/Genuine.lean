/-
# Which responses are acted on

A response is matched with the outstanding request by its instance ID and its command.
Whether it is a response at all, of which version and of which type is not looked at, so
any other message with these two values is acted on as well: the request of the device
itself, sent back to it, acknowledges that request.
-/

import PldmLib.Interface.Dispatch
import PldmLib.Interface.Session

namespace PldmLib.Interface

open PldmLib.Machine PldmLib.Protocol PldmLib.Message PldmLib.FirmwareDevice

/-! ## What it takes to act -/

/-- The update has gone on: another state, another slot, or data handed to the platform. -/
def Acted (pre post : FdInternal) (log : List Invocation) : Prop :=
  post.state ≠ pre.state ∨ post.req ≠ pre.req ∨ ∃ offset data component result,
    Callback.downloadFwData offset data component result ∈ log.map Invocation.callback

/-- The body of a data response that is acted on: all of the data asked for, or a code that
aborts the transfer. -/
inductive Telling (internal : FdInternal) (payload : List UInt8) : Prop
  | data {offset length : UInt32} (code : payload[3]? = some PldmBaseCompletionCode.success.toU8)
      (range : internal.getFdDownloadState = some (offset, length))
      (whole : RequestFirmwareDataResponseFixed.size + length.toNat ≤ payload.length)
  | abort {code : UInt8} (found : payload[3]? = some code)
      (failure : code ≠ PldmBaseCompletionCode.success.toU8)
      (final : code ≠ FwUpdateCompletionCode.retryRequestFwData.toU8)

/-- An operation is under way that acts on the message, should it be accepted. -/
def Effective (internal : FdInternal) (payload : List UInt8) : Prop :=
  internal.state.isInitiator = true ∧ (internal.req.complete = true ∨ Telling internal payload)

namespace Telling

variable {internal : FdInternal} {payload : List UInt8}

theorem code (telling : Telling internal payload) : ∃ code, payload[3]? = some code := by
  cases telling with
  | data code => exact ⟨_, code⟩
  | abort found => exact ⟨_, found⟩

theorem ne_retry (telling : Telling internal payload) :
    payload[3]? ≠ some FwUpdateCompletionCode.retryRequestFwData.toU8 := by
  intro retry
  cases telling with
  | data code => exact absurd (code.symm.trans retry) (by decide)
  | abort found _ final => exact final (Option.some.inj (found.symm.trans retry))

/-- After a success it is the length that counts. -/
theorem iff_of_success {offset length : UInt32}
    (success : payload[3]? = some PldmBaseCompletionCode.success.toU8)
    (range : internal.getFdDownloadState = some (offset, length)) :
    Telling internal payload ↔
      RequestFirmwareDataResponseFixed.size + length.toNat ≤ payload.length := by
  constructor
  · intro telling
    cases telling with
    | data _ range' whole =>
        obtain ⟨rfl, rfl⟩ := Prod.mk.inj (Option.some.inj (range.symm.trans range'))
        exact whole
    | abort found failure => exact absurd (Option.some.inj (found.symm.trans success)) failure
  · exact .data success range

end Telling

section Device

variable {ops : FdOps} {pre post : FdInternal} {payload : List UInt8} {log : List Invocation}

theorem not_acted_of_heard (unheard : log.map Invocation.callback = [] ∨
    log.map Invocation.callback = [.now]) (state : post.state = pre.state)
    (req : post.req = pre.req) : ¬ Acted pre post log := by
  rintro (moved | changed | ⟨_, _, _, _, member⟩)
  · exact moved state
  · exact changed req
  · rcases unheard with hnone | hnow
    · simp [hnone] at member
    · simp [hnow] at member

/-- Nothing is acted on that is not accepted by an active device. -/
theorem ResponseStep.active_of_acted {outcome : Outcome MsgHandlerError PUnit}
    (step : ResponseStep ops payload pre outcome post log) (acted : Acted pre post log) :
    accepts pre.req payload = true ∧ pre.state.isInitiator = true := by
  have hdownload (state : pre.state = .download) : pre.state.isInitiator = true := by
    rw [state]
    rfl
  cases step with
  | ignored unexpected => exact absurd acted (not_acted_of_heard (.inl rfl) rfl rfl)
  | heard accepted => exact absurd acted (not_acted_of_heard (.inr rfl) rfl rfl)
  | dataRefused accepted delivery => exact ⟨accepted, hdownload delivery.state⟩
  | dataRejected accepted delivery => exact ⟨accepted, hdownload delivery.state⟩
  | dataStored accepted delivery => exact ⟨accepted, hdownload delivery.state⟩
  | dataCompleted accepted delivery => exact ⟨accepted, hdownload delivery.state⟩
  | transferAborted accepted state => exact ⟨accepted, hdownload state⟩
  | acknowledged accepted active => exact ⟨accepted, active⟩
  | disappointed accepted active => exact ⟨accepted, active⟩

/-- The acknowledgement of a report always has an effect: the next operation or a parked
slot. -/
theorem processCompleteRsp_acted {expected : FirmwareDeviceState}
    (active : expected.isInitiator = true) (state : pre.state = expected)
    (sent : pre.req.state = .sent) (complete : pre.req.complete = true) :
    (FdContext.processCompleteRsp expected 0 (advance expected)).wp
      (fun _ final => Acted pre final.internal final.log)
      (ResponseStep.listening ops payload pre) := by
  have hstate : ¬ (ResponseStep.listening ops payload pre).internal.state ≠ expected :=
    not_not.mpr state
  have houtstanding : ¬ ((ResponseStep.listening ops payload pre).internal.req.state ≠ .sent ∨
      (!(ResponseStep.listening ops payload pre).internal.req.complete) = true) := by
    simp [sent, complete]
  simp only [FdContext.processCompleteRsp, Call.wp_bind, FdCall.wp_internal, Call.wp_ite]
  rw [if_neg hstate, if_neg houtstanding]
  split
  · refine .inl ?_
    rw [state]
    have hnext := @advance_state expected (ResponseStep.listening ops payload pre).internal active
    exact fun same => successor_ne active (hnext.symm.trans same)
  · refine .inr (.inl ?_)
    intro same
    have hfailed : FdReqState.failed = .sent := (congrArg FdReq.state same).trans sent
    cases hfailed

theorem storeFwData_acted {offset length : UInt32}
    (range : pre.getFdDownloadState = some (offset, length))
    (fixed : RequestFirmwareDataResponseFixed.size ≤ payload.length) :
    (FdContext.storeFwData ops).wp
      (fun _ final => Acted pre final.internal final.log ↔
        RequestFirmwareDataResponseFixed.size + length.toNat ≤ payload.length)
      (ResponseStep.listening ops payload pre) := by
  by_cases whole : RequestFirmwareDataResponseFixed.size + length.toNat ≤ payload.length
  · apply Call.wp_mono (storeFwData_handsOver range whole)
    intro _ _ handsOver
    obtain ⟨result, member⟩ := handsOver.mem
    exact iff_of_true (.inr (.inr ⟨_, _, _, result, member⟩)) whole
  · have hkept : (ResponseStep.listening ops payload pre).internal.getFdDownloadState =
        some (offset, length) := range
    have hshort : (payload.drop RequestFirmwareDataResponseFixed.size).length <
        length.toNat := by
      rw [List.length_drop]
      omega
    simp only [FdContext.storeFwData, Call.wp_bind, FdCall.wp_internal, hkept, FdCall.wp_payload,
      Call.wp_ite]
    rw [if_pos hshort]
    exact iff_of_false (not_acted_of_heard (.inr rfl) rfl rfl) whole

/-- Data is acted on when it is complete or its code ends the transfer. -/
theorem processRequestFwDataRsp_acted (coherent : Coherent pre) (state : pre.state = .download)
    (complete : pre.req.complete = false) :
    (FdContext.processRequestFwDataRsp ops).wp
      (fun _ final => Acted pre final.internal final.log ↔ Telling pre payload)
      (ResponseStep.listening ops payload pre) := by
  obtain ⟨offset, length, hmode⟩ := coherent.downloads state
  have hrange : pre.getFdDownloadState = some (offset, length) := by
    simp [FdInternal.getFdDownloadState, hmode]
  have hstate : ¬ (ResponseStep.listening ops payload pre).internal.state ≠ .download :=
    not_not.mpr state
  have hunfinished : ¬ (ResponseStep.listening ops payload pre).internal.req.complete = true := by
    simp [complete]
  simp only [FdContext.processRequestFwDataRsp, Call.wp_bind, FdCall.wp_internal, Call.wp_ite]
  rw [if_neg hstate, if_neg hunfinished]
  simp only [FdCall.wp_payload]
  cases hdecode : RequestFirmwareDataResponseFixed.decode payload with
  | error error =>
      refine iff_of_false (not_acted_of_heard (.inr rfl) rfl rfl) fun telling => ?_
      obtain ⟨code, found⟩ := telling.code
      obtain ⟨hdr, decoded⟩ := RequestFirmwareDataResponseFixed.decode_of_code found
      cases hdecode.symm.trans decoded
  | ok fixed =>
      have hcode := RequestFirmwareDataResponseFixed.code_of_decode hdecode
      simp only [Call.wp_ite]
      split
      · next success =>
          rw [success] at hcode
          rw [Telling.iff_of_success hcode hrange]
          exact storeFwData_acted hrange (List.getElem?_eq_some_iff.mp hcode).1
      · next failure =>
          split
          · next retry =>
              refine iff_of_false (not_acted_of_heard (.inr rfl) rfl rfl) fun telling => ?_
              rw [retry] at hcode
              exact telling.ne_retry hcode
          · next final =>
              refine iff_of_true ?_ (.abort hcode failure final)
              refine .inr (.inl fun same => ?_)
              have hcomplete : true = pre.req.complete := congrArg FdReq.complete same
              rw [complete] at hcomplete
              cases hcomplete

/-- The reports have the three processors of a completion. -/
theorem processRsp_report {report : FwUpdateCmd} (reports : reportCommand pre.state = some report) :
    FdContext.processRsp ops report.toU8 =
      FdContext.processCompleteRsp pre.state 0 (advance pre.state) := by
  generalize pre.state = state at reports
  cases state <;> cases reports <;> rfl

/-- A message has an effect exactly when it is accepted and an operation under way acts on
it. -/
theorem handleResponse_acted (coherent : Coherent pre) :
    (FdContext.handleResponse ops).wp
      (fun _ final => Acted pre final.internal final.log ↔
        accepts pre.req payload = true ∧ Effective pre payload) ⟨pre, payload, []⟩ := by
  by_cases able : accepts pre.req payload = true ∧ pre.state.isInitiator = true
  · obtain ⟨accepted, active⟩ := able
    obtain ⟨_, _, sent, _⟩ := ResponseStep.accepts_iff.mp accepted
    rw [and_iff_right accepted, Effective, and_iff_right active]
    rcases outstanding_cases coherent active sent with ⟨state, complete, command⟩ |
      ⟨complete, report, reports, command⟩
    · apply handleResponse_of_accepts accepted command
      apply Call.wp_mono (processRequestFwDataRsp_acted coherent state complete)
      intro outcome final hacted
      rw [hacted, complete]
      simp
    · apply handleResponse_of_accepts accepted command
      rw [processRsp_report reports]
      apply Call.wp_mono (processCompleteRsp_acted active rfl sent complete)
      exact fun outcome final acted => iff_of_true acted (.inl complete)
  · apply Call.wp_mono (ResponseStep.run coherent)
    intro outcome final step
    refine iff_of_false (fun acted => able (ResponseStep.active_of_acted step acted)) ?_
    exact fun effective => able ⟨effective.1, effective.2.1⟩

end Device

/-! ## At the interface -/

/-- The outstanding request is one of an operation, and the message is a response to it. -/
structure GenuineResponse (internal : FdInternal) (msgBuf : List UInt8) : Prop where
  active : internal.state.isInitiator = true
  sent : internal.req.state = .sent
  response : ∃ payload header, extractPldmMsg msgBuf = .ok payload ∧
    PldmMsgHeader.decode payload = .ok header ∧ header.rq = 0 ∧ header.hdrVer = 0 ∧
    header.pldmType = PldmSupportedType.fwUpdate.toU8 ∧
    internal.req.command = some header.cmdCode ∧ internal.req.instanceId = some header.instanceId

/-- A message with the instance ID and the command of the outstanding request which is not
a response of this protocol, and which the operation under way would act on. -/
structure Counterfeit (internal : FdInternal) (msgBuf : List UInt8) : Prop where
  matching : ∃ payload header, extractPldmMsg msgBuf = .ok payload ∧
    PldmMsgHeader.decode payload = .ok header ∧
    (header.rq ≠ 0 ∨ header.hdrVer ≠ 0 ∨ header.pldmType ≠ PldmSupportedType.fwUpdate.toU8) ∧
    accepts internal.req payload = true ∧ Effective internal payload

section Interface

variable {profile : Profile} {caps : List ProtocolCapability} {interface : CmdInterface}
  {events : List InterfaceEvent}

/-- The call had an effect on the update. -/
def Acts (event : InterfaceEvent) : Prop :=
  Acted event.before.fdCtx event.output.interface.fdCtx event.output.log

/-- The effect of a message is that of the message behind its transport byte. -/
theorem acts_iff (coherent : Coherent interface.fdCtx) (msgBuf : List UInt8) (ops : FdOps) :
    Acts (interfaceEvent profile interface ⟨.processInitiatorResponse msgBuf, ops⟩) ↔
      ∃ payload, extractPldmMsg msgBuf = .ok payload ∧
        accepts interface.fdCtx.req payload = true ∧ Effective interface.fdCtx payload := by
  have hperforms := @performs_interfaceStep profile interface
    ⟨.processInitiatorResponse msgBuf, ops⟩
  show Acted interface.fdCtx
    (interfaceStep profile interface ⟨.processInitiatorResponse msgBuf, ops⟩).interface.fdCtx
    (interfaceStep profile interface ⟨.processInitiatorResponse msgBuf, ops⟩).log ↔ _
  cases hextract : extractPldmMsg msgBuf with
  | error error =>
      have hnone : performedOperation interface (.processInitiatorResponse msgBuf) = none := by
        simp [performedOperation, hextract]
      rw [hnone] at hperforms
      obtain ⟨hfdCtx, hlog⟩ := hperforms.idle rfl
      rw [hfdCtx, hlog]
      refine iff_of_false (not_acted_of_heard (.inl rfl) rfl rfl) ?_
      rintro ⟨_, extracted, _⟩
      cases extracted
  | ok payload =>
      have hmade : performedOperation interface (.processInitiatorResponse msgBuf) =
          some (.handleResponse payload) := by
        simp [performedOperation, hextract]
      rw [hmade] at hperforms
      obtain ⟨hfdCtx, hlog, _⟩ := hperforms.device _ rfl
      rw [hfdCtx, hlog, FdStep.fdStep_eq (FdContext.handleResponse ops) (fun _ => .done) rfl]
      have hacted : Acted interface.fdCtx _ _ ↔ _ := @handleResponse_acted ops _ payload coherent
      refine hacted.trans ⟨fun effective => ⟨payload, rfl, effective⟩, ?_⟩
      rintro ⟨_, extracted, effective⟩
      obtain rfl := Except.ok.inj extracted
      exact effective

/-- In every state a run reaches, a message has an effect only if it is a genuine response,
exactly when it is not a counterfeit. -/
theorem acts_on_genuine_iff (trace : InterfaceTrace profile caps events interface)
    (msgBuf : List UInt8) (ops : FdOps) :
    (Acts (interfaceEvent profile interface ⟨.processInitiatorResponse msgBuf, ops⟩) →
      GenuineResponse interface.fdCtx msgBuf) ↔ ¬ Counterfeit interface.fdCtx msgBuf := by
  have hcoherent := FdTrace.coherent (InterfaceTrace.device trace)
  rw [acts_iff hcoherent]
  constructor
  · rintro genuine ⟨payload, header, hextract, hdecode, hforeign, hmatching⟩
    obtain ⟨_, _, _, _, hextract', hdecode', hrq, hversion, htype, _⟩ :=
      genuine ⟨payload, hextract, hmatching⟩
    obtain rfl := Except.ok.inj (hextract.symm.trans hextract')
    obtain rfl := Except.ok.inj (hdecode.symm.trans hdecode')
    rcases hforeign with request | version | foreign
    · exact request hrq
    · exact version hversion
    · exact foreign htype
  · rintro authentic ⟨payload, hextract, accepted, effective⟩
    obtain ⟨header, hdecode, hsent, hid, hcommand⟩ := ResponseStep.accepts_iff.mp accepted
    refine ⟨effective.1, hsent, payload, header, hextract, hdecode, ?_, ?_, ?_, hcommand, hid⟩
    · by_contra request
      exact authentic ⟨payload, header, hextract, hdecode, .inl request, accepted, effective⟩
    · by_contra version
      exact authentic
        ⟨payload, header, hextract, hdecode, .inr (.inl version), accepted, effective⟩
    · by_contra foreign
      exact authentic
        ⟨payload, header, hextract, hdecode, .inr (.inr foreign), accepted, effective⟩

end Interface

/-! ## A request sent back -/

/-- The report itself, as the device sends it. -/
def transferCompleteReport : List UInt8 :=
  (PldmMsgHeader.new 1 .request .fwUpdate FwUpdateCmd.transferComplete.toU8).toBytes ++
    [TransferResult.transferSuccess.toU8]

theorem reflected_report_acknowledged : ∃ events interface,
    InterfaceTrace .release updateTable events interface ∧
    events.getLast?.map (fun event => event.output.msgBuf.take 5) =
      some (mctpPldmMsgType :: transferCompleteReport) ∧
    interface.fdCtx.state = .download ∧
    (interfaceEvent .release interface (respondMctp transferCompleteReport
      (platform 4))).output.interface.fdCtx.state = .verify ∧
    ¬ GenuineResponse interface.fdCtx (mctpPldmMsgType :: transferCompleteReport) := by
  obtain ⟨events, interface, trace, _, hcheck⟩ := System.exists_of_replay
    (interfaceSystem .release updateTable) (.new updateTable) untilTransferComplete
    (fun events interface =>
      events.getLast?.map (fun event => event.output.msgBuf.take 5) =
        some (mctpPldmMsgType :: transferCompleteReport) &&
      interface.fdCtx.state = .download &&
      (interfaceEvent .release interface (respondMctp transferCompleteReport
        (platform 4))).output.interface.fdCtx.state = .verify) (by decide +kernel)
  simp only [Bool.and_eq_true, decide_eq_true_eq] at hcheck
  refine ⟨events, interface, trace, hcheck.1.1, hcheck.1.2, hcheck.2, ?_⟩
  rintro ⟨_, _, payload, header, hextract, hdecode, hrq, _⟩
  obtain rfl := Except.ok.inj hextract
  obtain rfl := Except.ok.inj hdecode
  exact absurd hrq (by decide)

theorem acts_on_genuine_iff_reflected : ∃ events interface,
    InterfaceTrace .release updateTable events interface ∧
    ((Acts (interfaceEvent .release interface ⟨.processInitiatorResponse
        (mctpPldmMsgType :: transferCompleteReport), platform 4⟩) →
      GenuineResponse interface.fdCtx (mctpPldmMsgType :: transferCompleteReport)) ↔
      ¬ Counterfeit interface.fdCtx (mctpPldmMsgType :: transferCompleteReport)) := by
  obtain ⟨events, interface, trace, _⟩ := System.exists_of_replay
    (interfaceSystem .release updateTable) (.new updateTable) untilTransferComplete
    (fun _ _ => true) (by decide +kernel)
  exact ⟨events, interface, trace, acts_on_genuine_iff trace _ _⟩

end PldmLib.Interface
