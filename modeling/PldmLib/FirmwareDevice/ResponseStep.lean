/-
# What a response of the agent can do

A response is acted on only if it answers the request in the slot, and then only
if the device is in the state that sent the request. Data goes to the platform
at the stored offset; the acknowledgement of a successful report takes the
device to the next state and that of any other report parks the slot as failed.
-/

import PldmLib.FirmwareDevice.PollStep

namespace PldmLib.FirmwareDevice

open PldmLib.Machine PldmLib.Protocol PldmLib.Message

/-- The guard of `handleResponse`: the message answers the request in the slot. -/
def accepts (req : FdReq) (payload : List UInt8) : Bool :=
  match PldmMsgHeader.decode payload with
  | .ok header => FdContext.answers req header
  | .error _ => false

/-- The device after a successful operation has been acknowledged. -/
def advance : FirmwareDeviceState → FdInternal → FdInternal
  | .download => FdContext.enterVerify
  | .verify => FdContext.enterApply
  | .apply => FdContext.leaveApply
  | _ => id

/-- The state that follows a successful operation. -/
def successor : FirmwareDeviceState → FirmwareDeviceState
  | .download => .verify
  | .verify => .apply
  | _ => .readyXfer

section Advance

variable {state : FirmwareDeviceState} {internal : FdInternal}

theorem successor_ne (active : state.isInitiator = true) : successor state ≠ state := by
  intro same
  cases state with
  | download => cases same
  | verify => cases same
  | apply => cases same
  | _ => cases active

theorem advance_state (active : state.isInitiator = true) :
    (advance state internal).state = successor state := by
  cases state with
  | download => exact FdInternal.setFdState_state _ _
  | verify => exact FdInternal.setFdState_state _ _
  | apply => exact FdInternal.setFdState_state _ _
  | _ => cases active

/-- Nothing of the acknowledged report is left in the slot. -/
theorem advance_req (active : state.isInitiator = true) : (advance state internal).req =
    ⟨if state = .apply then .unused else .ready, false, none, none, none, none⟩ := by
  cases state with
  | download => exact FdInternal.setFdState_req _ _
  | verify => exact FdInternal.setFdState_req _ _
  | apply => exact FdInternal.setFdState_req _ _
  | _ => cases active

theorem advance_not_sent (active : state.isInitiator = true) :
    (advance state internal).req.state ≠ .sent := by
  rw [advance_req active]
  dsimp only
  split
  · rintro ⟨⟩
  · rintro ⟨⟩

theorem advance_incomplete (active : state.isInitiator = true) :
    (advance state internal).req.complete = false := by
  rw [advance_req active]

theorem advance_fdT1UpdateTs (state : FirmwareDeviceState) :
    (advance state internal).fdT1UpdateTs = internal.fdT1UpdateTs := by
  cases state with
  | download => exact FdInternal.setFdState_fdT1UpdateTs _ _
  | verify => exact FdInternal.setFdState_fdT1UpdateTs _ _
  | apply => exact FdInternal.setFdState_fdT1UpdateTs _ _
  | _ => rfl

end Advance

/-- The data that an accepted response hands to the platform. -/
structure Delivery (payload : List UInt8) (pre : FdInternal) (offset : UInt32)
    (data : List UInt8) : Prop where
  state : pre.state = .download
  complete : pre.req.complete = false
  sent : pre.req.state = .sent
  command : pre.req.command = some FwUpdateCmd.requestFirmwareData.toU8
  range : ∃ length, pre.getFdDownloadState = some (offset, length) ∧
    data = (payload.drop RequestFirmwareDataResponseFixed.size).take length.toNat ∧
    data.length = length.toNat

/-- `ResponseStep ops payload pre outcome post log`: a response takes the device
from `pre` to `post`. -/
inductive ResponseStep (ops : FdOps) (payload : List UInt8) (pre : FdInternal) :
    Outcome MsgHandlerError PUnit → FdInternal → List Invocation → Prop
  | ignored {error : MsgHandlerError} (unexpected : accepts pre.req payload = false) :
      ResponseStep ops payload pre (.err error) pre []
  /-- The agent has been heard, and nothing else. -/
  | heard {outcome : Outcome MsgHandlerError PUnit} (accepted : accepts pre.req payload = true)
      (returned : outcome ≠ .panic) :
      ResponseStep ops payload pre outcome (pre.setFdT1UpdateTs (ops.now 0)) [⟨.now, ops.now 0⟩]
  | dataRefused {offset : UInt32} {data : List UInt8} {error : FdOpsError}
      (accepted : accepts pre.req payload = true) (delivery : Delivery payload pre offset data)
      (refused : ops.downloadFwData offset.toNat data pre.updateComp = .error error) :
      ResponseStep ops payload pre (.err (.fdOps error)) (pre.setFdT1UpdateTs (ops.now 0))
        [⟨.now, ops.now 0⟩,
          ⟨.downloadFwData offset.toNat data pre.updateComp (.error error), ops.now 1⟩]
  | dataRejected {offset : UInt32} {data : List UInt8} {result : TransferResult}
      (accepted : accepts pre.req payload = true) (delivery : Delivery payload pre offset data)
      (ran : ops.downloadFwData offset.toNat data pre.updateComp = .ok result)
      (failed : result ≠ .transferSuccess) :
      ResponseStep ops payload pre (.ok ⟨⟩)
        ((pre.setFdT1UpdateTs (ops.now 0)).setFdReq .ready true (some result.toU8) none none none)
        [⟨.now, ops.now 0⟩,
          ⟨.downloadFwData offset.toNat data pre.updateComp (.ok result), ops.now 1⟩]
  | dataStored {offset : UInt32} {data : List UInt8}
      (accepted : accepts pre.req payload = true) (delivery : Delivery payload pre offset data)
      (ran : ops.downloadFwData offset.toNat data pre.updateComp = .ok .transferSuccess)
      (more : ops.isDownloadComplete pre.updateComp = false) :
      ResponseStep ops payload pre (.ok ⟨⟩)
        ((pre.setFdT1UpdateTs (ops.now 0)).setFdReq .ready false none none none none)
        [⟨.now, ops.now 0⟩,
          ⟨.downloadFwData offset.toNat data pre.updateComp (.ok .transferSuccess), ops.now 1⟩,
          ⟨.isDownloadComplete pre.updateComp false, ops.now 2⟩]
  | dataCompleted {offset : UInt32} {data : List UInt8}
      (accepted : accepts pre.req payload = true) (delivery : Delivery payload pre offset data)
      (ran : ops.downloadFwData offset.toNat data pre.updateComp = .ok .transferSuccess)
      (done : ops.isDownloadComplete pre.updateComp = true) :
      ResponseStep ops payload pre (.ok ⟨⟩)
        ((pre.setFdT1UpdateTs (ops.now 0)).setFdReq .ready true
          (some TransferResult.transferSuccess.toU8) none none none)
        [⟨.now, ops.now 0⟩,
          ⟨.downloadFwData offset.toNat data pre.updateComp (.ok .transferSuccess), ops.now 1⟩,
          ⟨.isDownloadComplete pre.updateComp true, ops.now 2⟩]
  /-- The agent answered with an error code. -/
  | transferAborted (accepted : accepts pre.req payload = true)
      (state : pre.state = .download) (complete : pre.req.complete = false)
      (failure : payload[3]? ≠ some PldmBaseCompletionCode.success.toU8) :
      ResponseStep ops payload pre (.ok ⟨⟩)
        ((pre.setFdT1UpdateTs (ops.now 0)).setFdReq .ready true
          (some TransferResult.fdAbortedTransfer.toU8) none none none)
        [⟨.now, ops.now 0⟩]
  | acknowledged (accepted : accepts pre.req payload = true)
      (active : pre.state.isInitiator = true) (complete : pre.req.complete = true)
      (success : pre.req.result = some 0) :
      ResponseStep ops payload pre (.ok ⟨⟩)
        (advance pre.state (pre.setFdT1UpdateTs (ops.now 0))) [⟨.now, ops.now 0⟩]
  | disappointed (accepted : accepts pre.req payload = true)
      (active : pre.state.isInitiator = true) (complete : pre.req.complete = true)
      (failure : pre.req.result ≠ some 0) :
      ResponseStep ops payload pre (.ok ⟨⟩)
        ((pre.setFdT1UpdateTs (ops.now 0)).setFdReq .failed true pre.req.result none none none)
        [⟨.now, ops.now 0⟩]

theorem ResponseStep.ne_panic {ops : FdOps} {payload : List UInt8} {pre post : FdInternal}
    {outcome : Outcome MsgHandlerError PUnit} {log : List Invocation}
    (step : ResponseStep ops payload pre outcome post log) : outcome ≠ .panic := by
  cases step with
  | heard _ returned => exact returned
  | _ => exact nofun

/-! ## Every response takes one of the steps -/

namespace ResponseStep

open FdContext FdCall

variable {ops : FdOps} {payload : List UInt8} {pre : FdInternal}

/-- The postcondition of a response: what it did is one of the steps. -/
def After (ops : FdOps) (payload : List UInt8) (pre : FdInternal)
    (outcome : Outcome MsgHandlerError PUnit) (final : CallState) : Prop :=
  ResponseStep ops payload pre outcome final.internal final.log

/-- What an accepted message says about the slot. -/
theorem accepts_iff {req : FdReq} : accepts req payload = true ↔
    ∃ header, PldmMsgHeader.decode payload = .ok header ∧ req.state = .sent ∧
      req.instanceId = some header.instanceId ∧ req.command = some header.cmdCode := by
  unfold accepts
  cases PldmMsgHeader.decode payload with
  | error error => simp
  | ok header => simp [answers, and_assoc]

/-- The state of the device while an accepted response is processed. -/
abbrev listening (ops : FdOps) (payload : List UInt8) (pre : FdInternal) : CallState :=
  ⟨pre.setFdT1UpdateTs (ops.now 0), payload, [⟨.now, ops.now 0⟩]⟩

theorem storeFwData_step (coherent : Coherent pre) (accepted : accepts pre.req payload = true)
    (state : pre.state = .download) (complete : pre.req.complete = false)
    (command : pre.req.command = some FwUpdateCmd.requestFirmwareData.toU8) :
    (storeFwData ops).wp (After ops payload pre) (listening ops payload pre) := by
  obtain ⟨_, _, hsent, _, _⟩ := accepts_iff.mp accepted
  obtain ⟨offset, length, hmode⟩ := coherent.downloads state
  have hrange : pre.getFdDownloadState = some (offset, length) := by
    simp [FdInternal.getFdDownloadState, hmode]
  have hkept : (pre.setFdT1UpdateTs (ops.now 0)).getFdDownloadState = some (offset, length) :=
    hrange
  simp only [storeFwData, Call.wp_bind, wp_internal, hkept, wp_payload, Call.wp_ite]
  split
  · exact heard accepted (by rintro ⟨⟩)
  · next enough =>
      have hdelivery : Delivery payload pre offset
          ((payload.drop RequestFirmwareDataResponseFixed.size).take length.toNat) := by
        refine ⟨state, complete, hsent, command, length, hrange, rfl, ?_⟩
        rw [List.length_take]
        omega
      simp only [wp_invoke]
      refine ofOps_rule (fun result ran => ?_) fun error refused => ?_
      · simp only [ran]
        split
        · next success =>
            subst success
            cases hdone : ops.isDownloadComplete pre.updateComp with
            | true =>
                have hkept : ops.isDownloadComplete
                    (pre.setFdT1UpdateTs (ops.now 0)).updateComp = true := hdone
                simp only [hkept, ↓reduceIte, completeTransfer, wp_modify]
                exact dataCompleted accepted hdelivery ran hdone
            | false =>
                have hkept : ops.isDownloadComplete
                    (pre.setFdT1UpdateTs (ops.now 0)).updateComp = false := hdone
                simp only [hkept, Bool.false_eq_true, ↓reduceIte, wp_modify]
                exact dataStored accepted hdelivery ran hdone
        · next failed => exact dataRejected accepted hdelivery ran failed
      · simp only [refused]
        exact dataRefused accepted hdelivery refused

theorem processRequestFwDataRsp_step (coherent : Coherent pre)
    (accepted : accepts pre.req payload = true)
    (command : pre.req.command = some FwUpdateCmd.requestFirmwareData.toU8) :
    (processRequestFwDataRsp ops).wp (After ops payload pre) (listening ops payload pre) := by
  simp only [processRequestFwDataRsp, Call.wp_bind, wp_internal, Call.wp_ite]
  split
  · exact heard accepted (by rintro ⟨⟩)
  · next downloading =>
      have hstate : pre.state = .download := by simpa using downloading
      split
      · exact heard accepted (by rintro ⟨⟩)
      · next unfinished =>
          have hcomplete : pre.req.complete = false := by simpa using unfinished
          simp only [wp_payload]
          split
          · exact heard accepted (by rintro ⟨⟩)
          · next decoded =>
              simp only [Call.wp_ite]
              split
              · exact storeFwData_step coherent accepted hstate hcomplete command
              · next failure =>
                  split
                  · exact heard accepted (by rintro ⟨⟩)
                  · refine transferAborted accepted hstate hcomplete ?_
                    rw [RequestFirmwareDataResponseFixed.code_of_decode decoded]
                    exact fun success => failure (Option.some.inj success)

/-- An acknowledgement that finds its report outstanding. -/
theorem processCompleteRsp_step {expected : FirmwareDeviceState}
    (active : expected.isInitiator = true) (accepted : accepts pre.req payload = true) :
    (processCompleteRsp expected 0 (advance expected)).wp (After ops payload pre)
      (listening ops payload pre) := by
  simp only [processCompleteRsp, Call.wp_bind, wp_internal, Call.wp_ite]
  split
  · exact heard accepted (by rintro ⟨⟩)
  · next state =>
      have hstate : pre.state = expected := by simpa using state
      split
      · exact heard accepted (by rintro ⟨⟩)
      · next outstanding =>
          have hcomplete : pre.req.complete = true := by
            cases hslot : pre.req.complete with
            | true => rfl
            | false =>
                exact absurd (Or.inr (by simp [FdInternal.setFdT1UpdateTs, hslot])) outstanding
          have hactive : pre.state.isInitiator = true := by rw [hstate]; exact active
          split
          · next success =>
              simp only [wp_modify, After]
              rw [← hstate]
              exact acknowledged accepted hactive hcomplete success
          · next failure =>
              simp only [wp_modify, After]
              exact disappointed accepted hactive hcomplete failure

/-- Every response to a coherent device takes one of the steps. -/
theorem run (coherent : Coherent pre) :
    (handleResponse ops).wp (After ops payload pre) ⟨pre, payload, []⟩ := by
  simp only [handleResponse, Call.wp_bind, wp_payload]
  cases hdecode : PldmMsgHeader.decode payload with
  | error error =>
      exact ignored (by simp [accepts, hdecode])
  | ok header =>
      simp only [Call.wp_bind, wp_internal, Call.wp_ite]
      cases hanswers : answers pre.req header with
      | false =>
          exact ignored (by simp [accepts, hdecode, hanswers])
      | true =>
          have haccepted : accepts pre.req payload = true := by
            simp [accepts, hdecode, hanswers]
          simp only [Bool.not_true, Bool.false_eq_true, ↓reduceIte, wp_setFdT1Ts]
          obtain ⟨_, hheader, _, _, hcommand⟩ := accepts_iff.mp haccepted
          obtain rfl : header = _ := Except.ok.inj (hdecode.symm.trans hheader)
          unfold processRsp
          split
          · next known =>
              rw [← FwUpdateCmd.toU8_of_tryFrom known] at hcommand
              exact processRequestFwDataRsp_step coherent haccepted hcommand
          · exact processCompleteRsp_step rfl haccepted
          · exact processCompleteRsp_step rfl haccepted
          · exact processCompleteRsp_step rfl haccepted
          · exact heard haccepted (by rintro ⟨⟩)

end ResponseStep

/-- The command of an accepted response is that of the request in the slot. -/
theorem command_of_accepts {req : FdReq} {payload : List UInt8}
    (accepted : accepts req payload = true) : payload[2]? = req.command := by
  obtain ⟨header, hdecode, _, _, hcommand⟩ := ResponseStep.accepts_iff.mp accepted
  rw [PldmMsgHeader.decode_eq] at hdecode
  split at hdecode
  · obtain rfl := Except.ok.inj hdecode
    rw [hcommand]
    rfl
  · cases hdecode

/-- An accepted message goes to the processor of the command in the slot. -/
theorem handleResponse_of_accepts {ops : FdOps} {payload : List UInt8} {pre : FdInternal}
    {command : FwUpdateCmd}
    (accepted : accepts pre.req payload = true) (slot : pre.req.command = some command.toU8)
    {holds : Outcome MsgHandlerError PUnit → CallState → Prop}
    (processed : (FdContext.processRsp ops command.toU8).wp holds
      (ResponseStep.listening ops payload pre)) :
    (FdContext.handleResponse ops).wp holds ⟨pre, payload, []⟩ := by
  obtain ⟨header, hdecode, hsent, hid, hcommand⟩ := ResponseStep.accepts_iff.mp accepted
  have hanswers : FdContext.answers pre.req header = true := by
    simpa [accepts, hdecode] using accepted
  rw [← Option.some.inj (hcommand.symm.trans slot)] at processed
  simp only [FdContext.handleResponse, Call.wp_bind, FdCall.wp_payload, hdecode,
    FdCall.wp_internal, Call.wp_ite, hanswers, Bool.not_true, Bool.false_eq_true, ↓reduceIte,
    FdCall.wp_setFdT1Ts]
  exact processed

/-- Data is handed to the platform right behind the reading of the clock. -/
def HandsOver (offset : UInt32) (data : List UInt8) (component : FirmwareComponent)
    (log : List Invocation) : Prop :=
  ∃ result, log[1]?.map Invocation.callback =
    some (.downloadFwData offset.toNat data component result)

theorem HandsOver.mem {offset : UInt32} {data : List UInt8} {component : FirmwareComponent}
    {log : List Invocation} (handsOver : HandsOver offset data component log) :
    ∃ result, .downloadFwData offset.toNat data component result ∈
      log.map Invocation.callback := by
  obtain ⟨result, second⟩ := handsOver
  obtain ⟨invocation, found, hcallback⟩ := Option.map_eq_some_iff.mp second
  exact ⟨result, List.mem_map.mpr ⟨invocation, List.mem_of_getElem? found, hcallback⟩⟩

/-- All of the data asked for is handed over. -/
theorem storeFwData_handsOver {ops : FdOps} {payload : List UInt8} {pre : FdInternal}
    {offset length : UInt32} (range : pre.getFdDownloadState = some (offset, length))
    (whole : RequestFirmwareDataResponseFixed.size + length.toNat ≤ payload.length) :
    (FdContext.storeFwData ops).wp
      (fun _ final => HandsOver offset
        ((payload.drop RequestFirmwareDataResponseFixed.size).take length.toNat) pre.updateComp
          final.log) (ResponseStep.listening ops payload pre) := by
  have hkept : (ResponseStep.listening ops payload pre).internal.getFdDownloadState =
      some (offset, length) := range
  have henough : ¬ (payload.drop RequestFirmwareDataResponseFixed.size).length <
      length.toNat := by
    rw [List.length_drop]
    omega
  simp only [FdContext.storeFwData, Call.wp_bind, FdCall.wp_internal, hkept, FdCall.wp_payload,
    Call.wp_ite]
  rw [if_neg henough]
  simp only [FdCall.wp_invoke]
  apply FdCall.ofOps_rule
  · intro result _
    dsimp only
    split
    · split
      · exact ⟨_, rfl⟩
      · exact ⟨_, rfl⟩
    · exact ⟨_, rfl⟩
  · intro error _
    exact ⟨_, rfl⟩

end PldmLib.FirmwareDevice
