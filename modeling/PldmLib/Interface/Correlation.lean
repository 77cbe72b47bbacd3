/-
# Replies correlate with requests

The handlers of the control context keep the rules of a reply as those of the device
context do, and none of them panics. With both, what the interface leaves in the buffer
of a request that it answers is one message for that request, behind an untouched
transport byte.
-/

import PldmLib.FirmwareDevice.Session
import PldmLib.Interface.Reply

namespace PldmLib.Interface

open PldmLib.Machine PldmLib.Protocol PldmLib.Message PldmLib.FirmwareDevice

/-! ## The handlers of the control context -/

section CtrlCalls

variable {ops : FdOps} {request : PldmMsgHeader} {payload : List UInt8} {state : CtrlState}

/-- The postcondition of a handler of the control context. -/
def CtrlServed (ops : FdOps) (request : PldmMsgHeader) (payload : List UInt8)
    (outcome : Outcome MsgHandlerError ℕ) (final : CtrlState) : Prop :=
  Served ops request False payload outcome final.payload

theorem ctrl_generateFailureResponse_served {completionCode : UInt8}
    (addressed : PldmMsgHeader.decode payload = .ok request) (same : state.payload = payload)
    (code : CompletionCode ops request.pldmType completionCode) :
    (CtrlCall.generateFailureResponse completionCode).wp (CtrlServed ops request payload)
      state := by
  rw [CtrlCall.generateFailureResponse, CtrlCall.onPayload, Call.wp_on, same]
  exact PayloadCall.generateFailureResponse_served addressed code id

theorem ctrl_withRequest_served {β : Type} {decode : List UInt8 → Except PldmCodecError β}
    {hdr : β → PldmMsgHeader} {handle : β → CtrlCall ℕ} (carries : CarriesHeader decode hdr)
    (addressed : PldmMsgHeader.decode payload = .ok request) (same : state.payload = payload)
    (handled : ∀ decoded, hdr decoded = request →
      (handle decoded).wp (CtrlServed ops request payload) state) :
    (CtrlCall.withRequest decode handle).wp (CtrlServed ops request payload) state := by
  simp only [CtrlCall.withRequest, Call.wp_bind, Call.wp_get, same]
  cases hdecode : decode payload with
  | error error =>
      apply ctrl_generateFailureResponse_served addressed same
      cases error
      · exact .base _ .invalidLength
      · exact .base _ .invalidData
      · exact .base _ .invalidData
  | ok decoded =>
      exact handled decoded (Except.ok.inj ((carries payload decoded hdecode).symm.trans addressed))

theorem ctrl_encode_served {message : List UInt8} (same : state.payload = payload)
    (reply : Reply ops request message) :
    (CtrlCall.encode (writeToPrefix message)).wp (CtrlServed ops request payload) state := by
  rw [CtrlCall.encode, CtrlCall.onPayload, Call.wp_on, same, PayloadCall.encode, Call.wp_mapErr,
    Call.wp_iff]
  rcases hrun : writeToPrefix message payload with ⟨_ | _ | _, final⟩
  · exact served_written reply id hrun
  · exact served_err id (by rintro ⟨⟩)
  · exact absurd hrun (writeToPrefix_ne_panic _ _ _)

theorem ctrl_respond_served {message : List UInt8}
    (addressed : PldmMsgHeader.decode payload = .ok request) (same : state.payload = payload)
    (reply : Reply ops request message) :
    (CtrlCall.respond (writeToPrefix message)).wp (CtrlServed ops request payload) state := by
  rw [CtrlCall.respond, Call.wp_bind, Call.wp_attemptOn, same, Call.wp_iff]
  rcases hrun : writeToPrefix message payload with ⟨_ | _ | _, final⟩
  · exact served_written reply id hrun
  · exact ctrl_generateFailureResponse_served addressed (writeToPrefix_err hrun).2.2
      (.base _ .invalidLength)
  · exact absurd hrun (writeToPrefix_ne_panic _ _ _)

/-- The types have a bit each. -/
theorem typeBit_inside (context : ControlContext) :
    ∀ item ∈ context.getSupportedTypes 6, (item / 8).toNat < pldmTypesBitmapLen := by
  intro item member
  rcases ControlContext.mem_collectTypes member with none | ⟨pldmType, rfl⟩
  · cases none
  · cases pldmType <;> decide

/-- Every code has a bit among the commands. -/
theorem commandBit_inside (commands : List UInt8) :
    ∀ item ∈ commands, (item / 8).toNat < pldmCmdsBitmapLen := by
  intro item _
  have hsmall := item.toNat_lt
  simp only [UInt8.toNat_div, UInt8.reduceToNat, pldmCmdsBitmapLen]
  omega

/-- A response whose bitmap has a bit for every item. -/
theorem built_served {size : ℕ} {header : PldmMsgHeader} {code : UInt8} {items : List UInt8}
    {handle : BitmapResponse size → CtrlCall ℕ}
    (inside : ∀ item ∈ items, (item / 8).toNat < size)
    (handled : ∀ bitmap, (handle ⟨header, code, bitmap⟩).wp (CtrlServed ops request payload)
      state) :
    (CtrlCall.built (do
        let bitmap ← constructBitmap size items
        pure ⟨header, code, bitmap⟩) >>= handle).wp (CtrlServed ops request payload) state := by
  obtain ⟨bitmap, hbitmap⟩ := constructBitmap_of_inside inside
  simp only [CtrlCall.built, Call.wp_bind, Call.wp_ofOutcome, hbitmap]
  exact handled bitmap

variable (addressed : PldmMsgHeader.decode payload = .ok request)
  (typed : request.pldmType = PldmSupportedType.base.toU8)
include addressed typed

theorem withSupportedType_served {value : UInt8} {handle : PldmSupportedType → CtrlCall ℕ}
    (same : state.payload = payload)
    (handled : ∀ pldmType, state.context.isSupportedType pldmType = true →
      (handle pldmType).wp (CtrlServed ops request payload) state) :
    (CtrlCall.withSupportedType value handle).wp (CtrlServed ops request payload) state := by
  have hrefused := @ctrl_generateFailureResponse_served ops request payload state
    PldmControlCompletionCode.invalidPldmTypeInRequestData.toU8 addressed same
    (typed ▸ .control .invalidPldmTypeInRequestData)
  rw [CtrlCall.withSupportedType]
  split
  · exact hrefused
  · simp only [CtrlCall.context, Call.wp_bind, Call.wp_get, Call.wp_pure, Call.wp_ite]
    split
    · exact hrefused
    · next supported => exact handled _ (by simpa using supported)

theorem getTidRsp_served (commanded : request.cmdCode = PldmControlCmd.getTid.toU8) :
    ControlContext.getTidRsp.wp (CtrlServed ops request payload) ⟨state.context, payload⟩ := by
  apply ctrl_withRequest_served carriesHeader_request addressed rfl
  rintro decoded rfl
  simp only [CtrlCall.context, Call.wp_bind, Call.wp_get, Call.wp_pure]
  exact ctrl_encode_served rfl ⟨_, _, _, rfl, answering_new typed commanded, .base _ .success⟩

theorem setTidRsp_served (commanded : request.cmdCode = PldmControlCmd.setTid.toU8) :
    ControlContext.setTidRsp.wp (CtrlServed ops request payload) ⟨state.context, payload⟩ := by
  apply ctrl_withRequest_served carriesHeader_setTid addressed rfl
  rintro decoded rfl
  simp only [CtrlCall.modify, Call.wp_bind, Call.wp_update]
  exact ctrl_encode_served rfl ⟨_, _, _, rfl, answering_new typed commanded, .base _ .success⟩

theorem getPldmTypesRsp_served (commanded : request.cmdCode = PldmControlCmd.getPldmTypes.toU8) :
    ControlContext.getPldmTypesRsp.wp (CtrlServed ops request payload)
      ⟨state.context, payload⟩ := by
  apply ctrl_withRequest_served carriesHeader_request addressed rfl
  rintro decoded rfl
  show (CtrlCall.built _ >>= _).wp _ _
  apply built_served (typeBit_inside _)
  intro bitmap
  exact ctrl_encode_served rfl
    ⟨_, PldmBaseCompletionCode.success.toU8, bitmap.toList, by simp [BitmapResponse.toBytes]; rfl,
      answering_new typed commanded, .base _ .success⟩

theorem getPldmCommandsRsp_served
    (commanded : request.cmdCode = PldmControlCmd.getPldmCommands.toU8) :
    ControlContext.getPldmCommandsRsp.wp (CtrlServed ops request payload)
      ⟨state.context, payload⟩ := by
  apply ctrl_withRequest_served carriesHeader_getPldmCommands addressed rfl
  rintro decoded rfl
  apply withSupportedType_served addressed typed rfl
  intro pldmType _
  simp only [CtrlCall.context, Call.wp_bind, Call.wp_get, Call.wp_pure, Call.wp_ite]
  split
  · exact ctrl_generateFailureResponse_served addressed rfl
      (typed ▸ .control .invalidPldmVersionInRequestData)
  · next supported =>
      obtain ⟨commands, hcommands⟩ := ControlContext.getSupportedCommands_of_version
        (by simpa using supported)
      rw [hcommands]
      apply built_served (commandBit_inside _)
      intro bitmap
      exact ctrl_respond_served addressed rfl
        ⟨_, PldmBaseCompletionCode.success.toU8, bitmap.toList,
          by simp [BitmapResponse.toBytes]; rfl, answering_new typed commanded, .base _ .success⟩

theorem getPldmVersionRsp_served
    (commanded : request.cmdCode = PldmControlCmd.getPldmVersion.toU8) :
    ControlContext.getPldmVersionRsp.wp (CtrlServed ops request payload)
      ⟨state.context, payload⟩ := by
  apply ctrl_withRequest_served carriesHeader_getPldmVersion addressed rfl
  rintro decoded rfl
  apply withSupportedType_served addressed typed rfl
  intro pldmType _
  simp only [CtrlCall.context, Call.wp_bind, Call.wp_get, Call.wp_pure, Call.wp_ite]
  split
  · exact ctrl_generateFailureResponse_served addressed rfl
      (typed ▸ .control .invalidTransferOperationFlag)
  · split
    · exact ctrl_generateFailureResponse_served addressed rfl (.base _ .error)
    · exact ctrl_respond_served addressed rfl
        ⟨_, PldmBaseCompletionCode.success.toU8, _, by simp [GetPldmVersionResponse.toBytes]; rfl,
          PldmMsgHeader.answering_intoResponse, .base _ .success⟩

/-- Every control handler replies to its request or fails. -/
theorem controlHandler_served {cmd : PldmControlCmd} (commanded : request.cmdCode = cmd.toU8) :
    (CmdInterface.controlHandler cmd).wp (CtrlServed ops request payload)
      ⟨state.context, payload⟩ := by
  cases cmd with
  | getTid => exact getTidRsp_served addressed typed commanded
  | setTid => exact setTidRsp_served addressed typed commanded
  | getPldmTypes => exact getPldmTypesRsp_served addressed typed commanded
  | getPldmCommands => exact getPldmCommandsRsp_served addressed typed commanded
  | getPldmVersion => exact getPldmVersionRsp_served addressed typed commanded

end CtrlCalls

/-! ## The interface -/

/-- The routes on which a request is not survived. -/
def RouteCrashes (ops : FdOps) (payload : List UInt8) (fdCtx : FdInternal) : Route → Prop
  | .device handler => HandlerCrashes ops payload fdCtx handler
  | .unserved => True
  | _ => False

/-- A buffer in which a request has been answered: `count` bytes of reply behind the
transport byte. -/
structure Answered (ops : FdOps) (first : UInt8) (payload : List UInt8) (count : ℕ)
    (msgBuf : List UInt8) : Prop where
  replied : ∃ request reply, PldmMsgHeader.decode payload = .ok request ∧
    msgBuf = first :: reply ∧ reply.length = payload.length ∧ count ≤ reply.length ∧
    Reply ops request (reply.take count)

section Routes

variable {ops : FdOps} {interface : CmdInterface} {first : UInt8} {payload : List UInt8}
  {log : List Invocation}

theorem answered_of_served {request : PldmMsgHeader} {crash : Prop}
    {outcome : Outcome MsgHandlerError ℕ} {reply : List UInt8}
    (addressed : PldmMsgHeader.decode payload = .ok request)
    (served : Served ops request crash payload outcome reply) {count : ℕ}
    (returned : outcome = .ok count) : Answered ops first payload count (first :: reply) := by
  obtain ⟨hlength, hcount, hreply⟩ := served.replies count returned
  exact ⟨request, reply, addressed, rfl, hlength, hcount, hreply⟩

/-- Whatever its route, a request is answered, or the call fails, or it crashes as said. -/
theorem route_served :
    ((route interface.ctrlCtx payload).call ops).wp
      (fun outcome reached =>
        (outcome = .panic ↔
          RouteCrashes ops payload interface.fdCtx (route interface.ctrlCtx payload)) ∧
        outcome ≠ .err .notReady ∧
        ∀ count, outcome = .ok count → Answered ops first payload count reached.msgBuf)
      ⟨interface, first :: payload, []⟩ := by
  cases hroute : route interface.ctrlCtx payload with
  | refused completionCode =>
      obtain ⟨code, rfl⟩ := route_refused hroute
      simp only [Route.call, InterfaceCall.onPayload, Call.wp_on, InterfaceState.payload_cons,
        InterfaceState.withPayload_cons]
      cases hheader : PldmMsgHeader.decode payload with
      | error error =>
          have hfails : (PayloadCall.generateFailureResponse code.toU8 payload).1 =
              .err (.codec error) := by
            simp [PayloadCall.generateFailureResponse, Call.get, bind, Call.bind, hheader,
              Call.fail]
          rw [Call.wp_iff, hfails]
          exact ⟨iff_of_false (by simp) id, (by simp), (by simp)⟩
      | ok request =>
          have hserved : Served ops request False payload _ _ :=
            PayloadCall.generateFailureResponse_served hheader (.base _ code) not_false
          exact ⟨hserved.panics, hserved.ready,
            fun count returned => answered_of_served hheader hserved returned⟩
  | control cmd =>
      obtain ⟨request, hheader, htype, hcommand⟩ := route_control hroute
      have hserved : Served ops request False payload _ _ :=
        @controlHandler_served ops request payload ⟨interface.ctrlCtx, payload⟩ hheader htype cmd
          hcommand
      simp only [Route.call, InterfaceCall.onCtrlCtx, Call.wp_on, InterfaceState.payload_cons,
        InterfaceState.withPayload_cons]
      exact ⟨hserved.panics, hserved.ready,
        fun count returned => answered_of_served hheader hserved returned⟩
  | device handler =>
      obtain ⟨request, hheader, htype, hcommand⟩ := route_device hroute
      have hserved : Served ops request (HandlerCrashes ops payload interface.fdCtx handler)
          payload _ _ := @handler_served ops request payload interface.fdCtx hheader htype handler
            hcommand
      simp only [Route.call, InterfaceCall.onFdCtx, Call.wp_on, InterfaceState.payload_cons,
        InterfaceState.withPayload_cons]
      exact ⟨hserved.panics, hserved.ready,
        fun count returned => answered_of_served hheader hserved returned⟩
  | unserved =>
      simp only [Route.call, Call.wp_ofOutcome]
      exact ⟨iff_of_true trivial trivial, (by simp), (by simp)⟩

end Routes

/-- A reply in the buffer is one message for the request that was there: same length of the
buffer, same transport byte, a response header with the request's instance ID, type and
command, and its completion code behind the header. -/
theorem reply_correlates (ops : FdOps) (interface : CmdInterface) (msgBuf : List UInt8)
    (count : ℕ) (reached : InterfaceState)
    (returned : CmdInterface.handleResponderMsg ops ⟨interface, msgBuf, []⟩ =
      (.ok count, reached)) :
    5 ≤ count ∧ count ≤ msgBuf.length ∧ reached.msgBuf.length = msgBuf.length ∧
      reached.msgBuf.head? = msgBuf.head? ∧
      ∃ request response code body, PldmMsgHeader.decode (msgBuf.drop pldmMsgOffset) = .ok request ∧
        (reached.msgBuf.take count).drop pldmMsgOffset =
          PldmMsgHeader.toBytes response ++ code :: body ∧
        Answering request response ∧ CompletionCode ops request.pldmType code := by
  have hrule : (CmdInterface.handleResponderMsg ops).wp (fun outcome final =>
      ∀ count, outcome = .ok count → ∃ first payload bytes, msgBuf = first :: payload ∧
        count = pldmMsgOffset + bytes ∧ Answered ops first payload bytes final.msgBuf)
      ⟨interface, msgBuf, []⟩ := by
    apply handleResponderMsg_cases
    · exact fun _ => nofun
    · exact fun _ _ => nofun
    · rintro - first payload rfl
      apply Call.wp_mono (@route_served ops { interface with busy := true } first payload)
      rintro outcome final ⟨_, _, hanswered⟩ count hcount
      obtain ⟨bytes, hbytes, hsum⟩ := Outcome.map_eq_ok.mp hcount
      exact ⟨first, payload, bytes, rfl, hsum.symm, hanswered bytes hbytes⟩
  rw [Call.wp_iff, returned] at hrule
  obtain ⟨first, payload, bytes, rfl, rfl, ⟨request, reply, haddressed, hbuf, hlength, hroom,
    header, code, body, hmessage, hheader, hcode⟩⟩ := hrule count rfl
  have hsize := congrArg List.length hmessage
  rw [List.length_take, min_eq_left hroom] at hsize
  simp only [List.length_append, PldmMsgHeader.length_toBytes, List.length_cons] at hsize
  rw [hbuf]
  refine ⟨?_, ?_, ?_, rfl, request, header, code, body, haddressed, ?_, hheader, hcode⟩
  · simp only [pldmMsgOffset]
    omega
  · simp only [pldmMsgOffset, List.length_cons]
    omega
  · simp [hlength]
  · rw [← hmessage, pldmMsgOffset, Nat.add_comm 1 bytes]
    rfl

/-- A table with `GetTID`, of version 1.1.0. -/
def baseTable : List ProtocolCapability := [⟨.base, 0xF1F1F000, [PldmControlCmd.getTid.toU8]⟩]

/-- The request for it, in a buffer with room for one more byte than the answer has. -/
def getTidRequest : List UInt8 :=
  mctpPldmMsgType :: (PldmMsgHeader.new 7 .request .base PldmControlCmd.getTid.toU8).toBytes ++
    List.replicate 3 0

theorem reply_correlates_getTid : ∃ reached,
    CmdInterface.handleResponderMsg (platform 0) ⟨.new baseTable, getTidRequest, []⟩ =
      (.ok 6, reached) ∧
    reached.msgBuf.length = 7 ∧ reached.msgBuf.head? = some mctpPldmMsgType := by
  have returned : CmdInterface.handleResponderMsg (platform 0)
      ⟨.new baseTable, getTidRequest, []⟩ = (.ok 6, (CmdInterface.handleResponderMsg (platform 0)
        ⟨.new baseTable, getTidRequest, []⟩).2) := Prod.ext (by decide +kernel) rfl
  obtain ⟨_, _, hlength, hhead, _⟩ := reply_correlates (platform 0) (.new baseTable) getTidRequest
    6 _ returned
  exact ⟨_, returned, hlength, hhead⟩

end PldmLib.Interface
