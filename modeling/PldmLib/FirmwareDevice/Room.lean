/-
# Room for a response

The request and its response share one buffer. A handler that finds no room for its response
refuses the request for its length, and so does one that finds its request cut short. Either
way the agent is told of the buffer when it gets no answer that a longer buffer has room for.

The rules below run a handler on a payload and on the same payload with more bytes behind it.
Up to the end of the shorter one both do the same.
-/

import PldmLib.FirmwareDevice.Verdict

namespace PldmLib.FirmwareDevice

open PldmLib.Machine PldmLib.Protocol PldmLib.Message

/-! ## Callbacks that fail -/

/-- The error that a callback returned. -/
def Callback.error (ops : FdOps) : Callback → Option FdOpsError
  | .now => none
  | .getDeviceIdentifiers => errorOf ops.getDeviceIdentifiers
  | .getFirmwareParms => errorOf ops.getFirmwareParms
  | .getXferSize _ result => errorOf result
  | .handleComponent _ _ result => errorOf result
  | .queryDownloadOffsetAndLength _ result => errorOf result
  | .downloadFwData _ _ _ result => errorOf result
  | .isDownloadComplete _ _ => none
  | .queryDownloadProgress component => errorOf (ops.queryDownloadProgress component)
  | .verify _ result => errorOf result
  | .apply _ result => errorOf result
  | .activate _ result => errorOf result
  | .cancelUpdateComponent _ result => errorOf result
  | .handlePendingComponent _ result => errorOf result
  | .getNonFunctionalComponentInfo => errorOf ops.getNonFunctionalComponentInfo
  | .updateSecurityRevision _ result => errorOf result

/-- No callback has returned an error. -/
def Quiet (ops : FdOps) (log : List Invocation) : Prop :=
  ∀ invocation ∈ log, invocation.callback.error ops = none

theorem quiet_nil (ops : FdOps) : Quiet ops [] := by rintro _ ⟨⟩

theorem quiet_concat {ops : FdOps} {log : List Invocation} {invocation : Invocation} :
    Quiet ops (log ++ [invocation]) ↔
      Quiet ops log ∧ invocation.callback.error ops = none :=
  forall_mem_concat

/-! ## Two payloads -/

/-- The call has refused the request in the payload with a completion code. -/
def RefusedWith (payload : List UInt8) (code : UInt8) (outcome : Outcome MsgHandlerError ℕ)
    (final : List UInt8) : Prop :=
  outcome = .ok pldmFailureRespLen ∧ ∃ header, PldmMsgHeader.decode payload = .ok header ∧
    final.take pldmFailureRespLen = header.intoResponse.toBytes ++ [code]

/-- If the call with ample room returns a response longer than the payload, the call on the
payload refuses the request for its length. -/
def Replaces (payload : List UInt8) (ample outcome : Outcome MsgHandlerError ℕ)
    (final : List UInt8) : Prop :=
  ∀ count, ample = .ok count → payload.length < count →
    RefusedWith payload PldmBaseCompletionCode.invalidLength.toU8 outcome final

/-- How a call ends, next to one with ample room: it fails on a callback, or excused; it does
not panic behind a callback that failed; and it replaces a response that does not fit. -/
structure Settles (ops : FdOps) (payload : List UInt8) (excused : Prop)
    (ample outcome : Outcome MsgHandlerError ℕ) (final : CallState) : Prop where
  fails : ∀ error, outcome = .err error → ¬ Quiet ops final.log ∨ excused
  crashes : outcome = .panic → Quiet ops final.log
  replaces : Replaces payload ample outcome final.payload

/-- What a call makes of a payload and of the payload with `more` bytes behind it. -/
def SettlesBoth (ops : FdOps) (payload more : List UInt8) (excused : Prop) (call : FdCall ℕ)
    (between : FdInternal) (log : List Invocation) : Prop :=
  Quiet ops log → Settles ops payload excused (call ⟨between, payload ++ more, log⟩).1
    (call ⟨between, payload, log⟩).1 (call ⟨between, payload, log⟩).2

section Steps

variable {ops : FdOps} {payload more : List UInt8} {excused : Prop} {between : FdInternal}
  {log : List Invocation} {α β : Type}

theorem settlesBoth_internal {next : FdInternal → FdCall ℕ}
    (goesOn : SettlesBoth ops payload more excused (next between) between log) :
    SettlesBoth ops payload more excused (FdCall.internal >>= next) between log := goesOn

theorem settlesBoth_setFdT1Ts {next : PUnit → FdCall ℕ}
    (goesOn : SettlesBoth ops payload more excused (next ⟨⟩)
      (between.setFdT1UpdateTs (ops.now log.length)) (log ++ [⟨.now, ops.now log.length⟩])) :
    SettlesBoth ops payload more excused (FdCall.setFdT1Ts ops >>= next) between log :=
  fun quiet => goesOn (quiet_concat.mpr ⟨quiet, rfl⟩)

theorem settlesBoth_modify {change : FdInternal → FdInternal} {next : PUnit → FdCall ℕ}
    (goesOn : SettlesBoth ops payload more excused (next ⟨⟩) (change between) log) :
    SettlesBoth ops payload more excused (FdCall.modify change >>= next) between log := goesOn

/-- A callback whose error the handler returns. -/
theorem settlesBoth_ask {callback : Callback} {result : Except FdOpsError α} {next : α → FdCall ℕ}
    (reports : callback.error ops = errorOf result)
    (goesOn : ∀ value, result = .ok value → SettlesBoth ops payload more excused (next value)
      between (log ++ [⟨callback, ops.now log.length⟩])) :
    SettlesBoth ops payload more excused
      (FdCall.invoke ops callback >>= fun _ => FdCall.ofOps result >>= next) between log := by
  intro quiet
  cases result with
  | ok value => exact goesOn value rfl (quiet_concat.mpr ⟨quiet, reports⟩)
  | error error =>
      refine ⟨fun _ _ => .inl ?_, by rintro ⟨⟩, by rintro _ ⟨⟩⟩
      intro silent
      have hnone := (quiet_concat.mp silent).2
      rw [reports] at hnone
      cases hnone

theorem settlesBoth_fail {error : MsgHandlerError} (allowed : excused) :
    SettlesBoth ops payload more excused (Call.fail error) between log :=
  fun _ => ⟨fun _ _ => .inr allowed, by rintro ⟨⟩, by rintro _ ⟨⟩⟩

theorem settlesBoth_panic :
    SettlesBoth ops payload more excused (Call.ofOutcome .panic) between log :=
  fun quiet => ⟨by rintro _ ⟨⟩, fun _ => quiet, by rintro _ ⟨⟩⟩

theorem withRequest_of_ok {decode : List UInt8 → Except PldmCodecError β} {handle : β → FdCall ℕ}
    {request : β} (decoded : decode payload = .ok request) :
    FdCall.withRequest decode handle ⟨between, payload, log⟩ =
      handle request ⟨between, payload, log⟩ := by
  simp only [FdCall.withRequest, bind, Call.bind, FdCall.payload, Call.get, pure, decoded]

theorem withRequest_of_error {decode : List UInt8 → Except PldmCodecError β}
    {handle : β → FdCall ℕ} {error : PldmCodecError} (failed : decode payload = .error error) :
    FdCall.withRequest decode handle ⟨between, payload, log⟩ =
      FdCall.generateFailureResponse (FdCall.decodeFailureCode error)
        ⟨between, payload, log⟩ := by
  simp only [FdCall.withRequest, bind, Call.bind, FdCall.payload, Call.get, pure, failed]

/-- A refusal with the code of a response that does not fit. -/
theorem settles_of_refusedWith {ample outcome : Outcome MsgHandlerError ℕ} {final : CallState}
    (refuses : RefusedWith payload PldmBaseCompletionCode.invalidLength.toU8 outcome
      final.payload) :
    Settles ops payload excused ample outcome final := by
  have hcount := refuses.1
  refine ⟨?_, ?_, fun _ _ _ => refuses⟩
  · rintro error rfl
    cases hcount
  · rintro rfl
    cases hcount

variable (room : pldmFailureRespLen ≤ payload.length)
include room

theorem refusedWith_generateFailureResponse (code : UInt8) :
    RefusedWith payload code (FdCall.generateFailureResponse code ⟨between, payload, log⟩).1
      (FdCall.generateFailureResponse code ⟨between, payload, log⟩).2.payload := by
  have hends : (FdCall.generateFailureResponse code).wp (Ends payload between log (.refusal code))
      ⟨between, payload, log⟩ := generateFailureResponse_ends code
  rw [Call.wp_iff] at hends
  obtain ⟨finished, _⟩ := hends
  revert finished
  generalize FdCall.generateFailureResponse code ⟨between, payload, log⟩ = ended
  obtain ⟨outcome, final⟩ := ended
  intro finished
  dsimp only at finished ⊢
  generalize final.internal = post at finished
  generalize final.payload = left at finished
  cases finished with
  | refused addressed _ written => exact ⟨rfl, _, addressed, written⟩
  | unrefused short => exact absurd room (not_le.mpr short)

/-- A refusal always fits. -/
theorem settlesBoth_refuse (code : UInt8) :
    SettlesBoth ops payload more excused (FdCall.generateFailureResponse code) between log := by
  intro _
  have hsmall := (@refusedWith_generateFailureResponse payload between log room code).1
  have hample := (@refusedWith_generateFailureResponse (payload ++ more) between log
    (by rw [List.length_append]; omega) code).1
  rw [hample, hsmall]
  refine ⟨by rintro _ ⟨⟩, by rintro ⟨⟩, ?_⟩
  rintro _ ⟨⟩ beyond
  omega

theorem settlesBoth_withRequest {decode : List UInt8 → Except PldmCodecError β}
    {handle : β → FdCall ℕ} (longer : Reader.DecodeExtends decode .bufferTooShort)
    (goesOn : ∀ request, decode payload = .ok request →
      SettlesBoth ops payload more excused (handle request) between log) :
    SettlesBoth ops payload more excused (FdCall.withRequest decode handle) between log := by
  intro quiet
  cases hdecode : decode payload with
  | ok request =>
      rw [withRequest_of_ok (longer.value payload more request hdecode),
        withRequest_of_ok hdecode]
      exact goesOn request hdecode quiet
  | error error =>
      rw [withRequest_of_error hdecode]
      by_cases short : error = .bufferTooShort
      · subst short
        exact settles_of_refusedWith (refusedWith_generateFailureResponse room _)
      · rw [withRequest_of_error (longer.error payload more error hdecode short)]
        exact settlesBoth_refuse room _ quiet

section Responses

variable {response : Response} {commit : FdInternal → FdInternal}

omit room in
/-- A response that is written, or that panics. -/
theorem respond_of_encode (commit : FdInternal → FdInternal) (between : FdInternal)
    (log : List Invocation) {left : List UInt8} {outcome : Outcome PldmCodecError ℕ}
    (ran : response.encode payload = (outcome, left)) (taken : ∀ error, outcome ≠ .err error) :
    (FdCall.respond response.encode commit ⟨between, payload, log⟩).1 = outcome.mapErr .codec ∧
      (FdCall.respond response.encode commit ⟨between, payload, log⟩).2.log = log := by
  simp only [FdCall.respond, FdCall.tryEncode, Call.attemptOn, bind, Call.bind, ran]
  cases outcome with
  | ok count => exact ⟨rfl, rfl⟩
  | err error => exact absurd rfl (taken error)
  | panic => exact ⟨rfl, rfl⟩

theorem settles_of_refused {error : PldmCodecError} {ample : Outcome MsgHandlerError ℕ}
    (refused : response.encode payload = (.err error, payload)) :
    Settles ops payload excused ample
      (FdCall.respond response.encode commit ⟨between, payload, log⟩).1
      (FdCall.respond response.encode commit ⟨between, payload, log⟩).2 := by
  have hrun : FdCall.respond response.encode commit ⟨between, payload, log⟩ =
      FdCall.generateFailureResponse PldmBaseCompletionCode.invalidLength.toU8
        ⟨between, payload, log⟩ := by
    simp only [FdCall.respond, FdCall.tryEncode, Call.attemptOn, bind, Call.bind, refused]
  rw [hrun]
  exact settles_of_refusedWith (refusedWith_generateFailureResponse room _)

/-- A response that can be written as a whole. -/
theorem settles_respond (response : Response) (fits : response.Fits) :
    Settles ops payload excused
      (FdCall.respond response.encode commit ⟨between, payload ++ more, log⟩).1
      (FdCall.respond response.encode commit ⟨between, payload, log⟩).1
      (FdCall.respond response.encode commit ⟨between, payload, log⟩).2 := by
  have hencode := Response.encode_eq fits
  by_cases inside : response.toBytes.length ≤ payload.length
  · have hsmall := respond_of_encode commit between log ((congrFun hencode payload).trans
      (writeToPrefix_of_le inside)) (by rintro _ ⟨⟩)
    have hample := respond_of_encode commit between log ((congrFun hencode (payload ++ more)).trans
      (writeToPrefix_of_le (by rw [List.length_append]; omega))) (by rintro _ ⟨⟩)
    rw [hsmall.1, hample.1]
    refine ⟨by rintro _ ⟨⟩, by rintro ⟨⟩, ?_⟩
    rintro _ ⟨⟩ beyond
    omega
  · exact settles_of_refused room ((congrFun hencode payload).trans (if_neg inside))

theorem settlesBoth_respond (response : Response) (sound : response.Sound) :
    SettlesBoth ops payload more excused (FdCall.respond response.encode commit) between log := by
  intro quiet
  rcases Response.encode_ends sound with fits | ⟨_, size, overruns⟩
  · exact settles_respond room response fits
  · by_cases inside : size ≤ payload.length
    · obtain ⟨left, hpanic⟩ := (overruns payload).2 inside
      obtain ⟨left', hpanic'⟩ := (overruns (payload ++ more)).2
        (by rw [List.length_append]; omega)
      have hsmall := respond_of_encode commit between log hpanic (by rintro _ ⟨⟩)
      have hample := respond_of_encode commit between log hpanic' (by rintro _ ⟨⟩)
      rw [hsmall.1, hample.1]
      refine ⟨by rintro _ ⟨⟩, fun _ => ?_, by rintro _ ⟨⟩⟩
      rw [hsmall.2]
      exact quiet
    · exact settles_of_refused room ((overruns payload).1 (not_le.mp inside))

end Responses

end Steps

/-! ## The handlers -/

/-- A count of descriptors that the handler of `QueryDeviceIdentifiers` rejects. -/
def Miscounted (ops : FdOps) : Prop :=
  ∃ descriptors count, ops.getDeviceIdentifiers = .ok (descriptors, count) ∧
    (count = 0 ∨ count > maxDescriptorsCount)

/-- The answers of the platform that a handler rejects. -/
def Handler.Rejects (ops : FdOps) : Handler → Prop
  | .queryDevid => Miscounted ops
  | _ => False

section Handlers

open FdContext FdCall

variable {ops : FdOps} {payload more : List UInt8} {excused : Prop} {pre : FdInternal}
  {log : List Invocation} (room : pldmFailureRespLen ≤ payload.length)
include room

theorem queryDevidRsp_settlesBoth :
    SettlesBoth ops payload more (Miscounted ops) (queryDevidRsp ops) pre log := by
  apply settlesBoth_withRequest room HeaderRequest.extends_decode
  intro request decoded
  apply settlesBoth_ask rfl
  rintro ⟨descriptors, count⟩ answered
  dsimp only
  split
  · next outside => exact settlesBoth_fail ⟨descriptors, count, answered, outside⟩
  · next inside =>
      obtain ⟨response, hnew, _⟩ := QueryDeviceIdentifiersResponse.new_of_counted
        request.hdr.instanceId PldmBaseCompletionCode.success.toU8 descriptors (not_or.mp inside).2
      rw [hnew]
      exact settlesBoth_respond room (.queryDeviceIdentifiers response) trivial

theorem getFirmwareParametersRsp_settlesBoth :
    SettlesBoth ops payload more excused (getFirmwareParametersRsp ops) pre log := by
  apply settlesBoth_withRequest room HeaderRequest.extends_decode
  intro request _
  apply settlesBoth_ask rfl
  intro params _
  exact settlesBoth_respond room (.getFirmwareParameters (.new _ _ params)) trivial

theorem requestUpdateRsp_settlesBoth :
    SettlesBoth ops payload more excused (requestUpdateRsp ops) pre log := by
  apply settlesBoth_internal
  split
  · exact settlesBoth_refuse room _
  · apply settlesBoth_setFdT1Ts
    apply settlesBoth_withRequest room RequestUpdateRequest.extends_decode
    intro request _
    dsimp only
    split
    · exact settlesBoth_refuse room _
    · apply settlesBoth_ask rfl
      intro size _
      exact settlesBoth_respond room (.requestUpdate _) rfl

theorem passComponentRsp_settlesBoth :
    SettlesBoth ops payload more excused (passComponentRsp ops) pre log := by
  apply settlesBoth_internal
  split
  · exact settlesBoth_refuse room _
  · apply settlesBoth_setFdT1Ts
    apply settlesBoth_withRequest room PassComponentTableRequest.extends_decode
    intro request _
    split
    · exact settlesBoth_refuse room _
    · apply settlesBoth_ask rfl
      intro params _
      apply settlesBoth_ask rfl
      intro code _
      exact settlesBoth_respond room (.passComponentTable _) trivial

theorem updateComponentRsp_settlesBoth :
    SettlesBoth ops payload more excused (updateComponentRsp ops) pre log := by
  apply settlesBoth_internal
  split
  · exact settlesBoth_refuse room _
  · apply settlesBoth_setFdT1Ts
    apply settlesBoth_withRequest room UpdateComponentRequest.extends_decode
    intro request _
    apply settlesBoth_modify
    apply settlesBoth_modify
    apply settlesBoth_ask rfl
    intro params _
    apply settlesBoth_ask rfl
    intro code _
    cases ComponentCompatibilityResponseCode.tryFrom code.toU8 with
    | error error => exact settlesBoth_panic
    | ok compatibility => exact settlesBoth_respond room (.updateComponent _) trivial

theorem activateFirmwareRsp_settlesBoth :
    SettlesBoth ops payload more excused (activateFirmwareRsp ops) pre log := by
  apply settlesBoth_internal
  split
  · exact settlesBoth_refuse room _
  · apply settlesBoth_withRequest room ActivateFirmwareRequest.extends_decode
    intro request _
    dsimp only
    split
    · exact settlesBoth_refuse room _
    · apply settlesBoth_ask rfl
      rintro ⟨code, time⟩ _
      exact settlesBoth_respond room (.activateFirmware _) trivial

/-- The checks of the two commands served while idle. -/
theorem componentCommandRsp_settlesBoth
    {handle : ComponentRequest → FirmwareParameters → FdCall ℕ}
    (goesOn : ∀ request params between log,
      SettlesBoth ops payload more excused (handle request params) between log) :
    SettlesBoth ops payload more excused (componentCommandRsp ops ComponentRequest.decode handle)
      pre log := by
  apply settlesBoth_internal
  split
  · exact settlesBoth_refuse room _
  · apply settlesBoth_withRequest room ComponentRequest.extends_decode
    intro request _
    split
    · exact settlesBoth_refuse room _
    · apply settlesBoth_ask rfl
      intro params _
      exact goesOn request params _ _

theorem activatePendingComponentImageRsp_settlesBoth :
    SettlesBoth ops payload more excused (activatePendingComponentImageRsp ops) pre log := by
  apply componentCommandRsp_settlesBoth room
  intro request params between log
  apply settlesBoth_ask rfl
  intro result _
  exact settlesBoth_respond room (.activatePendingComponentImage _) trivial

theorem updateSecurityRevisionRsp_settlesBoth :
    SettlesBoth ops payload more excused (updateSecurityRevisionRsp ops) pre log := by
  apply componentCommandRsp_settlesBoth room
  intro request params between log
  apply settlesBoth_ask rfl
  intro result _
  exact settlesBoth_respond room (.updateSecurityRevision _) trivial

omit room in
/-- A cancellation, before the response to it. -/
theorem settlesBoth_cancelComponent {next : PUnit → FdCall ℕ}
    (goesOn : ∀ log, SettlesBoth ops payload more excused (next ⟨⟩) pre log) :
    SettlesBoth ops payload more excused (cancelComponent ops >>= next) pre log := by
  have hasks : SettlesBoth ops payload more excused
      (invoke ops (.cancelUpdateComponent pre.updateComp
        (ops.cancelUpdateComponent pre.updateComp)) >>= fun _ =>
          ofOps (ops.cancelUpdateComponent pre.updateComp) >>= fun _ => next ⟨⟩) pre log :=
    settlesBoth_ask rfl fun _ _ => goesOn _
  intro quiet
  have hsettles := hasks quiet
  have hrun (payload : List UInt8) : (cancelComponent ops >>= next) ⟨pre, payload, log⟩ =
      (invoke ops (.cancelUpdateComponent pre.updateComp
        (ops.cancelUpdateComponent pre.updateComp)) >>= fun _ =>
          ofOps (ops.cancelUpdateComponent pre.updateComp) >>= fun _ => next ⟨⟩)
            ⟨pre, payload, log⟩ := by
    show Call.bind (cancelComponent ops) next _ = Call.bind _ _ _
    simp only [cancelComponent, Call.bind, bind, FdCall.internal, Call.get, pure, invoke,
      Call.update]
    cases ops.cancelUpdateComponent pre.updateComp <;> rfl
  rw [hrun, hrun]
  exact hsettles

theorem cancelUpdateComponentRsp_settlesBoth :
    SettlesBoth ops payload more excused (cancelUpdateComponentRsp ops) pre log := by
  apply settlesBoth_internal
  split
  · exact settlesBoth_refuse room _
  · apply settlesBoth_internal
    cases shouldCancel pre with
    | none => exact settlesBoth_refuse room _
    | some cancel =>
        have hanswer (log : List Invocation) : SettlesBoth ops payload more excused
            (answerCancelUpdateComponent cancel) pre log := by
          apply settlesBoth_withRequest room HeaderRequest.extends_decode
          intro request _
          exact settlesBoth_respond room (.cancelUpdateComponent _) trivial
        cases cancel with
        | true => exact settlesBoth_cancelComponent fun log => hanswer log
        | false => exact hanswer log

theorem cancelUpdateRsp_settlesBoth :
    SettlesBoth ops payload more excused (cancelUpdateRsp ops) pre log := by
  apply settlesBoth_internal
  split
  · exact settlesBoth_refuse room _
  · apply settlesBoth_setFdT1Ts
    generalize pre.setFdT1UpdateTs _ = touched
    generalize log ++ _ = log
    have hanswer (cancel : Bool) (log : List Invocation) : SettlesBoth ops payload more excused
        (answerCancelUpdate ops cancel) touched log := by
      apply settlesBoth_withRequest room HeaderRequest.extends_decode
      intro request _
      apply settlesBoth_ask rfl
      rintro ⟨indication, bitmap⟩ _
      exact settlesBoth_respond room (.cancelUpdate _) trivial
    apply settlesBoth_internal
    cases (shouldCancel touched).getD false with
    | true => exact settlesBoth_cancelComponent fun log => hanswer true log
    | false => exact hanswer false log

theorem getStatusRsp_settlesBoth :
    SettlesBoth ops payload more excused (getStatusRsp ops) pre log := by
  apply settlesBoth_withRequest room HeaderRequest.extends_decode
  intro request _ quiet
  show Settles _ _ _ (Call.bind (statusProgress ops) _ _).1 (Call.bind (statusProgress ops) _ _).1
    (Call.bind (statusProgress ops) _ _).2
  simp only [Call.bind, statusProgress_eq]
  by_cases downloading : pre.state = .download
  · simp only [if_pos downloading]
    exact settles_respond room (.getStatus _) trivial
  · simp only [if_neg downloading]
    cases recordedProgress pre with
    | ok progress => exact settles_respond room (.getStatus _) trivial
    | error error => exact ⟨by rintro _ ⟨⟩, fun _ => quiet, by rintro _ ⟨⟩⟩

theorem handler_settlesBoth (handler : Handler) :
    SettlesBoth ops payload more (handler.Rejects ops) (handler.run ops) pre log := by
  cases handler with
  | queryDevid => exact queryDevidRsp_settlesBoth room
  | getFirmwareParameters => exact getFirmwareParametersRsp_settlesBoth room
  | requestUpdate => exact requestUpdateRsp_settlesBoth room
  | passComponent => exact passComponentRsp_settlesBoth room
  | updateComponent => exact updateComponentRsp_settlesBoth room
  | activateFirmware => exact activateFirmwareRsp_settlesBoth room
  | activatePendingComponentImage => exact activatePendingComponentImageRsp_settlesBoth room
  | updateSecurityRevision => exact updateSecurityRevisionRsp_settlesBoth room
  | cancelUpdateComponent => exact cancelUpdateComponentRsp_settlesBoth room
  | cancelUpdate => exact cancelUpdateRsp_settlesBoth room
  | getStatus => exact getStatusRsp_settlesBoth room

omit room in
/-- A rejected count is no failed callback. -/
theorem queryDevidRsp_of_miscounted {request : HeaderRequest}
    (decoded : QueryDeviceIdentifiersRequest.decode payload = .ok request)
    (miscounted : Miscounted ops) :
    (queryDevidRsp ops).wp (fun outcome final =>
      outcome = .err (.fdOps .deviceIdentifiersError) ∧ Quiet ops final.log)
      ⟨pre, payload, []⟩ := by
  obtain ⟨descriptors, count, answered, outside⟩ := miscounted
  apply FdCall.withRequest_rule
  · intro error failed
    cases decoded.symm.trans failed
  · intro _ _
    simp only [Call.wp_bind, wp_invoke]
    apply ofOps_rule
    · intro value returned
      obtain rfl := Except.ok.inj (answered.symm.trans returned)
      dsimp only
      rw [if_pos outside, Call.wp_fail]
      refine ⟨rfl, quiet_concat.mpr ⟨quiet_nil ops, ?_⟩⟩
      rw [Callback.error, answered]
      rfl
    · intro error failed
      cases answered.symm.trans failed

end Handlers

end PldmLib.FirmwareDevice
