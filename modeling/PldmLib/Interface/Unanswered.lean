/-
# Requests that get no response

The responder turns whatever it can into a response: a request that it refuses, one that it
cannot read and one whose response finds no room. Two handlers of the control context hand the
error of their encoder to the caller instead, and the agent hears nothing. It hears nothing
either where the platform miscounts its descriptors, and where it answers with something that
no response can be built from.
-/

import PldmLib.FirmwareDevice.Room
import PldmLib.Interface.Availability

namespace PldmLib.Interface

open PldmLib.Machine PldmLib.Protocol PldmLib.Message PldmLib.FirmwareDevice

/-! ## The handlers of the control context -/

/-- The size of the response of the handlers that return the error of their encoder. -/
def plainSize : PldmControlCmd → Option ℕ
  | .getTid => some 5
  | .setTid => some 4
  | .getPldmTypes => some 12
  | _ => none

/-- A call of the control context returns, and replaces a response that does not fit. -/
def CtrlSettled (payload more : List UInt8) (call : CtrlCall ℕ) (context : ControlContext) :
    Prop :=
  (∀ error, (call ⟨context, payload⟩).1 ≠ .err error) ∧
    Replaces payload (call ⟨context, payload ++ more⟩).1 (call ⟨context, payload⟩).1
      (call ⟨context, payload⟩).2.payload

section CtrlCalls

variable {payload more : List UInt8} {context : ControlContext}

theorem ctrl_settled_context {next : ControlContext → CtrlCall ℕ}
    (goesOn : CtrlSettled payload more (next context) context) :
    CtrlSettled payload more (CtrlCall.context >>= next) context := goesOn

/-- A response that fits. -/
theorem ctrl_settled_encode {message : List UInt8} (inside : message.length ≤ payload.length) :
    CtrlSettled payload more (CtrlCall.encode (writeToPrefix message)) context := by
  have hrun (buffer : List UInt8) (fits : message.length ≤ buffer.length) :
      (CtrlCall.encode (writeToPrefix message) ⟨context, buffer⟩).1 = .ok message.length := by
    show (writeToPrefix message buffer).1.mapErr MsgHandlerError.codec = _
    rw [writeToPrefix_of_le fits]
    rfl
  rw [CtrlSettled, hrun payload inside, hrun (payload ++ more) (by rw [List.length_append]; omega)]
  refine ⟨by rintro _ ⟨⟩, ?_⟩
  rintro _ ⟨⟩ beyond
  omega

/-- A response whose bitmap has a bit for every item. -/
theorem ctrl_settled_built {size : ℕ} {header : PldmMsgHeader} {code : UInt8} {items : List UInt8}
    {handle : BitmapResponse size → CtrlCall ℕ}
    (inside : ∀ item ∈ items, (item / 8).toNat < size)
    (goesOn : ∀ bitmap, CtrlSettled payload more (handle ⟨header, code, bitmap⟩) context) :
    CtrlSettled payload more (CtrlCall.built (do
        let bitmap ← constructBitmap size items
        pure ⟨header, code, bitmap⟩) >>= handle) context := by
  obtain ⟨bitmap, hbitmap⟩ := constructBitmap_of_inside inside
  rw [hbitmap]
  exact goesOn bitmap

variable (room : pldmFailureRespLen ≤ payload.length)
include room

theorem PayloadCall.refusedWith_generateFailureResponse (code : UInt8) :
    RefusedWith payload code (PayloadCall.generateFailureResponse code payload).1
      (PayloadCall.generateFailureResponse code payload).2 := by
  have hrefuses := @FirmwareDevice.refusedWith_generateFailureResponse payload .default [] room code
  rw [generateFailureResponse_eq] at hrefuses
  exact hrefuses

/-- A refusal always fits. -/
theorem ctrl_settled_refuse (code : UInt8) :
    CtrlSettled payload more (CtrlCall.generateFailureResponse code) context := by
  have hsmall : (CtrlCall.generateFailureResponse code ⟨context, payload⟩).1 = _ :=
    (PayloadCall.refusedWith_generateFailureResponse room code).1
  have hample : (CtrlCall.generateFailureResponse code ⟨context, payload ++ more⟩).1 = _ :=
    (@PayloadCall.refusedWith_generateFailureResponse (payload ++ more)
      (by rw [List.length_append]; omega) code).1
  rw [CtrlSettled, hsmall, hample]
  refine ⟨by rintro _ ⟨⟩, ?_⟩
  rintro _ ⟨⟩ beyond
  omega

theorem ctrl_settled_respond {message : List UInt8} :
    CtrlSettled payload more (CtrlCall.respond (writeToPrefix message)) context := by
  have hwritten (buffer : List UInt8) (fits : message.length ≤ buffer.length) :
      (CtrlCall.respond (writeToPrefix message) ⟨context, buffer⟩).1 = .ok message.length := by
    simp only [CtrlCall.respond, Call.attemptOn, bind, Call.bind, writeToPrefix_of_le fits]
    rfl
  by_cases inside : message.length ≤ payload.length
  · rw [CtrlSettled, hwritten payload inside,
      hwritten (payload ++ more) (by rw [List.length_append]; omega)]
    refine ⟨by rintro _ ⟨⟩, ?_⟩
    rintro _ ⟨⟩ beyond
    omega
  · have hrefused : CtrlCall.respond (writeToPrefix message) ⟨context, payload⟩ =
        CtrlCall.generateFailureResponse PldmBaseCompletionCode.invalidLength.toU8
          ⟨context, payload⟩ := by
      have hshort : writeToPrefix message payload = (.err .bufferTooShort, payload) :=
        if_neg inside
      simp only [CtrlCall.respond, Call.attemptOn, bind, Call.bind, hshort]
    have hrefuses := PayloadCall.refusedWith_generateFailureResponse room
      PldmBaseCompletionCode.invalidLength.toU8
    rw [CtrlSettled, hrefused]
    refine ⟨?_, fun _ _ _ => hrefuses⟩
    intro error failed
    cases hrefuses.1.symm.trans failed

theorem ctrl_settled_withRequest {β : Type} {decode : List UInt8 → Except PldmCodecError β}
    {handle : β → CtrlCall ℕ} (longer : Reader.DecodeExtends decode .bufferTooShort)
    (goesOn : ∀ request, decode payload = .ok request →
      CtrlSettled payload more (handle request) context) :
    CtrlSettled payload more (CtrlCall.withRequest decode handle) context := by
  have hread (buffer : List UInt8) {request : β} (decoded : decode buffer = .ok request) :
      CtrlCall.withRequest decode handle ⟨context, buffer⟩ = handle request ⟨context, buffer⟩ := by
    simp only [CtrlCall.withRequest, bind, Call.bind, Call.get, decoded]
  have hunread (buffer : List UInt8) {error : PldmCodecError}
      (failed : decode buffer = .error error) :
      CtrlCall.withRequest decode handle ⟨context, buffer⟩ =
        CtrlCall.generateFailureResponse (FdCall.decodeFailureCode error)
          ⟨context, buffer⟩ := by
    simp only [CtrlCall.withRequest, bind, Call.bind, Call.get, failed]
  cases hdecode : decode payload with
  | ok request =>
      rw [CtrlSettled, hread _ hdecode, hread _ (longer.value payload more request hdecode)]
      exact goesOn request hdecode
  | error error =>
      rw [CtrlSettled, hunread _ hdecode]
      by_cases short : error = .bufferTooShort
      · subst short
        have hrefuses := PayloadCall.refusedWith_generateFailureResponse room
          PldmBaseCompletionCode.invalidLength.toU8
        refine ⟨?_, fun _ _ _ => hrefuses⟩
        intro error failed
        cases hrefuses.1.symm.trans failed
      · rw [hunread _ (longer.error payload more error hdecode short)]
        exact ctrl_settled_refuse room _

theorem ctrl_settled_withSupportedType {value : UInt8} {handle : PldmSupportedType → CtrlCall ℕ}
    (goesOn : ∀ pldmType, CtrlSettled payload more (handle pldmType) context) :
    CtrlSettled payload more (CtrlCall.withSupportedType value handle) context := by
  unfold CtrlCall.withSupportedType
  split
  · exact ctrl_settled_refuse room _
  · apply ctrl_settled_context
    split
    · exact ctrl_settled_refuse room _
    · exact goesOn _

theorem getPldmCommandsRsp_settled :
    CtrlSettled payload more ControlContext.getPldmCommandsRsp context := by
  apply ctrl_settled_withRequest room GetPldmCommandsRequest.extends_decode
  intro request _
  apply ctrl_settled_withSupportedType room
  intro pldmType
  apply ctrl_settled_context
  split
  · exact ctrl_settled_refuse room _
  · next supported =>
      apply ctrl_settled_context
      obtain ⟨commands, hcommands⟩ := ControlContext.getSupportedCommands_of_version
        (by simpa using supported)
      rw [hcommands]
      apply ctrl_settled_built (commandBit_inside _)
      intro bitmap
      exact ctrl_settled_respond room

theorem getPldmVersionRsp_settled :
    CtrlSettled payload more ControlContext.getPldmVersionRsp context := by
  apply ctrl_settled_withRequest room GetPldmVersionRequest.extends_decode
  intro request _
  apply ctrl_settled_withSupportedType room
  intro pldmType
  split
  · exact ctrl_settled_refuse room _
  · apply ctrl_settled_context
    split
    · exact ctrl_settled_refuse room _
    · exact ctrl_settled_respond room

/-- A control handler settles a request unless it finds no room for a response that it does
not replace. -/
theorem controlHandler_settled {cmd : PldmControlCmd}
    (fits : ∀ size, plainSize cmd = some size → size ≤ payload.length) :
    CtrlSettled payload more (CmdInterface.controlHandler cmd) context := by
  cases cmd with
  | getTid =>
      apply ctrl_settled_withRequest room HeaderRequest.extends_decode
      intro request _
      exact ctrl_settled_encode (fits 5 rfl)
  | setTid =>
      apply ctrl_settled_withRequest room SetTidRequest.extends_decode
      intro request _
      exact @ctrl_settled_encode payload more (context.setTid request.tid) _ room
  | getPldmTypes =>
      apply ctrl_settled_withRequest room HeaderRequest.extends_decode
      intro request _
      apply ctrl_settled_context
      apply ctrl_settled_built (typeBit_inside _)
      intro bitmap
      apply ctrl_settled_encode
      rw [BitmapResponse.length_toBytes]
      exact fits 12 rfl
  | getPldmCommands => exact getPldmCommandsRsp_settled room
  | getPldmVersion => exact getPldmVersionRsp_settled room

/-- A plain handler that finds no room fails. -/
theorem controlHandler_of_short {cmd : PldmControlCmd} {size : ℕ}
    (plain : plainSize cmd = some size) (short : payload.length < size) :
    (CmdInterface.controlHandler cmd ⟨context, payload⟩).1 = .err (.codec .bufferTooShort) := by
  obtain ⟨header, haddressed, _⟩ := (PayloadCall.refusedWith_generateFailureResponse room 0).2
  have hdecode : HeaderRequest.decode payload = .ok ⟨header⟩ := by
    rw [HeaderRequest.decode, haddressed]
    rfl
  have hread {handle : HeaderRequest → CtrlCall ℕ} :
      CtrlCall.withRequest HeaderRequest.decode handle ⟨context, payload⟩ =
        handle ⟨header⟩ ⟨context, payload⟩ := by
    simp only [CtrlCall.withRequest, bind, Call.bind, Call.get, hdecode]
  have hencode {message : List UInt8} (long : payload.length < message.length) :
      (CtrlCall.encode (writeToPrefix message) ⟨context, payload⟩).1 =
        .err (.codec .bufferTooShort) := by
    show (writeToPrefix message payload).1.mapErr MsgHandlerError.codec = _
    rw [writeToPrefix, if_neg (not_le.mpr long)]
    rfl
  cases cmd with
  | getTid =>
      obtain rfl := Option.some.inj plain
      show (CtrlCall.withRequest HeaderRequest.decode _ _).1 = _
      rw [hread]
      exact hencode short
  | setTid =>
      obtain rfl := Option.some.inj plain
      exact absurd room (not_le.mpr short)
  | getPldmTypes =>
      obtain rfl := Option.some.inj plain
      obtain ⟨bitmap, hbitmap⟩ := constructBitmap_of_inside (typeBit_inside context)
      show (CtrlCall.withRequest HeaderRequest.decode _ _).1 = _
      rw [hread]
      show ((CtrlCall.built (GetPldmTypeResponse.new _ _ (context.getSupportedTypes 6)) >>= _)
        ⟨context, payload⟩).1 = _
      rw [GetPldmTypeResponse.new, hbitmap]
      apply hencode
      rw [BitmapResponse.length_toBytes]
      exact short
  | getPldmCommands => cases plain
  | getPldmVersion => cases plain

end CtrlCalls

/-! ## The table -/

section Tables

variable {state : CtrlState} {caps : List ProtocolCapability}

/-- The table is left as it was. -/
def Keeps (caps : List ProtocolCapability) (_ : Outcome MsgHandlerError ℕ) (final : CtrlState) :
    Prop :=
  final.context.capabilities = caps

theorem keeps_withRequest {β : Type} {decode : List UInt8 → Except PldmCodecError β}
    {handle : β → CtrlCall ℕ} (kept : state.context.capabilities = caps)
    (goesOn : ∀ request, (handle request).wp (Keeps caps) state) :
    (CtrlCall.withRequest decode handle).wp (Keeps caps) state := by
  simp only [CtrlCall.withRequest, Call.wp_bind, Call.wp_get]
  cases decode state.payload with
  | error error => exact kept
  | ok request => exact goesOn request

theorem keeps_withSupportedType {value : UInt8} {handle : PldmSupportedType → CtrlCall ℕ}
    (kept : state.context.capabilities = caps)
    (goesOn : ∀ pldmType, (handle pldmType).wp (Keeps caps) state) :
    (CtrlCall.withSupportedType value handle).wp (Keeps caps) state := by
  rw [CtrlCall.withSupportedType]
  split
  · exact kept
  · simp only [CtrlCall.context, Call.wp_bind, Call.wp_get, Call.wp_pure, Call.wp_ite]
    split
    · exact kept
    · exact goesOn _

theorem keeps_respond {encoder : Encoder} (kept : state.context.capabilities = caps) :
    (CtrlCall.respond encoder).wp (Keeps caps) state := by
  rw [CtrlCall.respond, Call.wp_bind, Call.wp_attemptOn, Call.wp_iff]
  rcases encoder state.payload with ⟨_ | _ | _, left⟩
  · exact kept
  · exact kept
  · exact kept

theorem keeps_built {α : Type} {response : Outcome PldmCodecError α} {handle : α → CtrlCall ℕ}
    (kept : state.context.capabilities = caps)
    (goesOn : ∀ value, (handle value).wp (Keeps caps) state) :
    (CtrlCall.built response >>= handle).wp (Keeps caps) state := by
  simp only [CtrlCall.built, Call.wp_bind, Call.wp_ofOutcome]
  cases response with
  | ok value => exact goesOn value
  | err error => exact kept
  | panic => exact kept

/-- No handler changes the table. -/
theorem controlHandler_keeps (cmd : PldmControlCmd) (kept : state.context.capabilities = caps) :
    (CmdInterface.controlHandler cmd).wp (Keeps caps) state := by
  cases cmd with
  | getTid => exact keeps_withRequest kept fun _ => kept
  | setTid => exact keeps_withRequest kept fun _ => kept
  | getPldmTypes => exact keeps_withRequest kept fun _ => keeps_built kept fun _ => kept
  | getPldmCommands =>
      apply keeps_withRequest kept
      intro request
      apply keeps_withSupportedType kept
      intro pldmType
      simp only [CtrlCall.context, Call.wp_bind, Call.wp_get, Call.wp_pure, Call.wp_ite]
      split
      · exact kept
      · split
        · exact kept
        · exact keeps_built kept fun _ => keeps_respond kept
  | getPldmVersion =>
      apply keeps_withRequest kept
      intro request
      apply keeps_withSupportedType kept
      intro pldmType
      simp only [CtrlCall.context, Call.wp_bind, Call.wp_get, Call.wp_pure, Call.wp_ite]
      split
      · exact kept
      · split
        · exact kept
        · exact keeps_respond kept

theorem interfaceStep_capabilities {profile : Profile} (interface : CmdInterface)
    (input : InterfaceInput) :
    (interfaceStep profile interface input).interface.ctrlCtx.capabilities =
      interface.ctrlCtx.capabilities := by
  obtain ⟨operation, ops⟩ := input
  show (operation.run profile ops).wp (fun _ final =>
    final.interface.ctrlCtx.capabilities = interface.ctrlCtx.capabilities)
      ⟨interface, operation.msgBuf, []⟩
  cases operation with
  | handleResponderMsg msgBuf =>
      simp only [InterfaceOperation.run]
      rw [Call.wp_map]
      apply handleResponderMsg_cases
      · exact fun _ => rfl
      · exact fun _ _ => rfl
      · intro _ first payload _
        cases route interface.ctrlCtx payload with
        | control cmd => exact controlHandler_keeps cmd rfl
        | _ => exact rfl
  | generateInitiatorRequest msgBuf =>
      simp only [InterfaceOperation.run]
      rw [Call.wp_map]
      apply generateInitiatorRequest_rule
      · exact fun _ _ => rfl
      · exact fun _ _ => rfl
  | processInitiatorResponse msgBuf =>
      simp only [InterfaceOperation.run]
      rw [Call.wp_map]
      apply processInitiatorResponse_rule
      · exact fun _ _ => rfl
      · exact fun _ _ => rfl
  | fdCtx operation =>
      simp only [InterfaceOperation.run]
      rw [Call.wp_map]
      rfl
  | isUpdateMode => rfl
  | setTid tid => rfl

/-- An interface keeps the table that it was made with. -/
theorem InterfaceTrace.capabilities {profile : Profile} {events : List InterfaceEvent}
    {interface : CmdInterface} (trace : InterfaceTrace profile caps events interface) :
    interface.ctrlCtx.capabilities = caps := by
  apply System.Trace.state_invariant (fun interface : CmdInterface =>
    interface.ctrlCtx.capabilities = caps) rfl _ trace
  intro interface input reached kept live
  obtain ⟨_, rfl⟩ := interfaceSystem_next live
  exact (interfaceStep_capabilities interface input).trans kept

/-- With entries of the two served types only, no request is left without an arm. -/
theorem route_ne_unserved {context : ControlContext} {payload : List UInt8}
    (served : ∀ cap ∈ context.capabilities,
      cap.pldmType = .base ∨ cap.pldmType = .fwUpdate) :
    route context payload ≠ .unserved := by
  intro unserved
  obtain ⟨pldmType, _, passes, base, fwUpdate⟩ := route_eq_unserved_iff.mp unserved
  obtain ⟨cap, member, named⟩ :=
    List.any_eq_true.mp (ControlContext.isSupportedType_of_command passes.listed)
  obtain rfl := eq_of_beq named
  rcases served cap member with known | known
  · exact base known
  · exact fwUpdate known

end Tables

/-! ## Responses -/

/-- A message of the agent is handed to the responder. -/
abbrev handed (profile : Profile) (interface : CmdInterface) (ops : FdOps)
    (msgBuf : List UInt8) : InterfaceEvent :=
  interfaceEvent profile interface ⟨.handleResponderMsg msgBuf, ops⟩

/-- The agent gets a response to its request unless a callback failed. If the request, in a
longer buffer, has a response that does not fit this one, it is refused for its length. -/
structure Responds (profile : Profile) (interface : CmdInterface) (ops : FdOps) (first : UInt8)
    (payload : List UInt8) : Prop where
  answers : Quiet ops (handed profile interface ops (first :: payload)).output.log →
    ∃ count, (handed profile interface ops (first :: payload)).output.outcome =
        .ok (.length (pldmMsgOffset + count)) ∧
      Answered ops first payload count
        (handed profile interface ops (first :: payload)).output.msgBuf
  replaces : ∀ more count,
    (handed profile interface ops (first :: (payload ++ more))).output.outcome =
      .ok (.length (pldmMsgOffset + count)) → payload.length < count →
    (handed profile interface ops (first :: payload)).output.outcome =
        .ok (.length (pldmMsgOffset + pldmFailureRespLen)) ∧
      ∃ request, PldmMsgHeader.decode payload = .ok request ∧
        (handed profile interface ops (first :: payload)).output.msgBuf.take
            (pldmMsgOffset + pldmFailureRespLen) =
          first :: (request.intoResponse.toBytes ++ [PldmBaseCompletionCode.invalidLength.toU8])

/-- The requests that get no response, although no callback fails. -/
inductive Silences (ops : FdOps) (interface : CmdInterface) (payload : List UInt8) : Prop
  | short {cmd : PldmControlCmd} {size : ℕ}
      (passes : Passes interface.ctrlCtx payload .base cmd.toU8)
      (plain : plainSize cmd = some size) (short : payload.length < size)
  | miscounted
      (passes : Passes interface.ctrlCtx payload .fwUpdate
        FwUpdateCmd.queryDeviceIdentifiers.toU8) (miscounted : Miscounted ops)
  | unanswerable {cmd : FwUpdateCmd}
      (passes : Passes interface.ctrlCtx payload .fwUpdate cmd.toU8)
      (platform : Unanswerable ops payload interface.fdCtx.state cmd)

section Handing

variable {profile : Profile} {interface : CmdInterface} {ops : FdOps} {first : UInt8}
  {payload more : List UInt8}

/-- What the call along the route of a request leaves. -/
def routed (interface : CmdInterface) (ops : FdOps) (first : UInt8) (payload : List UInt8) :
    Outcome MsgHandlerError ℕ × InterfaceState :=
  (route interface.ctrlCtx payload).call ops ⟨{ interface with busy := true }, first :: payload, []⟩

theorem handed_eq (idle : interface.busy = false) :
    (handed profile interface ops (first :: payload)).output.outcome =
        (routed interface ops first payload).1.map
          (fun count => .length (pldmMsgOffset + count)) ∧
      (handed profile interface ops (first :: payload)).output.msgBuf =
        (routed interface ops first payload).2.msgBuf ∧
      (handed profile interface ops (first :: payload)).output.log =
        (routed interface ops first payload).2.log := by
  show (CmdInterface.handleResponderMsg ops >>= fun count =>
      pure (InterfaceReturned.length count)).wp (fun outcome final =>
    outcome = (routed interface ops first payload).1.map
        (fun count => .length (pldmMsgOffset + count)) ∧
      final.msgBuf = (routed interface ops first payload).2.msgBuf ∧
      final.log = (routed interface ops first payload).2.log) ⟨interface, first :: payload, []⟩
  rw [Call.wp_map]
  apply handleResponderMsg_rule idle
  rw [Call.wp_iff]
  refine ⟨?_, rfl, rfl⟩
  rw [routed]
  cases ((route interface.ctrlCtx payload).call ops
    ⟨{ interface with busy := true }, first :: payload, []⟩).1 <;> rfl

/-- The way of a request is read off its header. -/
theorem route_append {context : ControlContext} (room : pldmFailureRespLen ≤ payload.length) :
    route context (payload ++ more) = route context payload := by
  obtain ⟨header, hheader, _⟩ := (PayloadCall.refusedWith_generateFailureResponse room 0).2
  have hlonger := PldmMsgHeader.extends_decode.value payload more header hheader
  simp only [route, CmdInterface.preprocessRequest, hheader, hlonger]

/-- What the rules of the two contexts say of a route. -/
theorem routed_settles (room : pldmFailureRespLen ≤ payload.length)
    (served : route interface.ctrlCtx payload ≠ .unserved)
    (heard : ¬ Silences ops interface payload) :
    (∀ error, (routed interface ops first payload).1 = .err error →
      ¬ Quiet ops (routed interface ops first payload).2.log) ∧
    Replaces payload (routed interface ops first (payload ++ more)).1
      (routed interface ops first payload).1
      ((routed interface ops first payload).2.msgBuf.drop pldmMsgOffset) := by
  rw [routed, routed, route_append room]
  cases hroute : route interface.ctrlCtx payload with
  | refused code =>
      have hsmall := PayloadCall.refusedWith_generateFailureResponse room code
      have hample := @PayloadCall.refusedWith_generateFailureResponse (payload ++ more)
        (by rw [List.length_append]; omega) code
      constructor
      · intro error failed
        cases hsmall.1.symm.trans failed
      · intro count returned beyond
        cases hample.1.symm.trans returned
        omega
  | control cmd =>
      have hpasses := route_eq_control_iff.mp hroute
      have hsettled := @controlHandler_settled payload more interface.ctrlCtx room cmd (by
        intro size plain
        by_contra short
        exact heard (.short hpasses plain (not_le.mp short)))
      exact ⟨fun error failed => absurd failed (hsettled.1 error), hsettled.2⟩
  | device handler =>
      have hpasses := route_eq_device_iff.mp hroute
      have hsettles := @handler_settlesBoth ops payload more interface.fdCtx [] room handler
        (quiet_nil ops)
      refine ⟨fun error failed => (hsettles.fails error failed).resolve_right ?_,
        hsettles.replaces⟩
      intro rejects
      cases handler with
      | queryDevid => exact heard (.miscounted hpasses rejects)
      | _ => exact rejects
  | unserved => exact absurd hroute served

/-- A request on the list gets no response, and no callback is to blame. -/
theorem routed_of_silences (measured : Measured interface.fdCtx)
    (room : pldmFailureRespLen ≤ payload.length) (silences : Silences ops interface payload) :
    Quiet ops (routed interface ops first payload).2.log ∧
      ∀ count, (routed interface ops first payload).1 ≠ .ok count := by
  cases silences with
  | short passes plain short =>
      have hfails := @controlHandler_of_short payload interface.ctrlCtx room _ _ plain short
      rw [routed, route_eq_control_iff.mpr passes]
      refine ⟨quiet_nil ops, ?_⟩
      intro count returned
      cases hfails.symm.trans returned
  | miscounted passes miscounted =>
      obtain ⟨header, haddressed, _⟩ := (PayloadCall.refusedWith_generateFailureResponse room 0).2
      have hdecode : QueryDeviceIdentifiersRequest.decode payload = .ok ⟨header⟩ := by
        rw [QueryDeviceIdentifiersRequest.decode, HeaderRequest.decode, haddressed]
        rfl
      obtain ⟨hfails, hquiet⟩ : _ ∧ Quiet ops _ :=
        @queryDevidRsp_of_miscounted ops payload interface.fdCtx _ hdecode miscounted
      rw [routed, (@route_eq_device_iff _ _ .queryDevid).mpr passes]
      refine ⟨hquiet, ?_⟩
      intro count returned
      cases hfails.symm.trans returned
  | unanswerable passes platform =>
      have hcrashes := (@routeCrashes_iff ops interface first payload measured).mpr
        (.unanswerable passes platform)
      have hpanics : (routed interface ops first payload).1 = .panic :=
        (@route_served ops { interface with busy := true } first payload).1.mpr hcrashes
      refine ⟨?_, ?_⟩
      · rw [routed] at hpanics ⊢
        cases hroute : route interface.ctrlCtx payload with
        | device handler =>
            rw [hroute] at hpanics
            have hsettles := @handler_settlesBoth ops payload [] interface.fdCtx [] room handler
              (quiet_nil ops)
            exact hsettles.crashes hpanics
        | _ => exact quiet_nil ops
      · intro count returned
        cases hpanics.symm.trans returned

variable {caps : List ProtocolCapability} {events : List InterfaceEvent}

/-- In every reachable state of an interface with any table of base and firmware update
commands, a request in a buffer with room for a refusal gets its response unless it is one of
those listed. -/
theorem responds_iff (trace : InterfaceTrace profile caps events interface)
    (served : ∀ cap ∈ caps, cap.pldmType = .base ∨ cap.pldmType = .fwUpdate)
    (room : pldmFailureRespLen ≤ payload.length) (ops : FdOps) (first : UInt8) :
    Responds profile interface ops first payload ↔ ¬ Silences ops interface payload := by
  have idle := InterfaceTrace.idle trace
  have measured := FdTrace.measured (InterfaceTrace.device trace)
  obtain ⟨houtcome, hbuffer, hlog⟩ := @handed_eq profile interface ops first payload idle
  constructor
  · intro responds silences
    obtain ⟨hquiet, hsilent⟩ := @routed_of_silences interface ops first payload measured room
      silences
    obtain ⟨count, returned, _⟩ := responds.answers (hlog ▸ hquiet)
    rw [houtcome] at returned
    obtain ⟨bytes, hbytes, _⟩ := Outcome.map_eq_ok.mp returned
    exact hsilent bytes hbytes
  · intro heard
    have hunserved : route interface.ctrlCtx payload ≠ .unserved := by
      apply route_ne_unserved
      rw [InterfaceTrace.capabilities trace]
      exact served
    obtain ⟨hcrashes, _, hanswered⟩ : ((routed interface ops first payload).1 = .panic ↔
          RouteCrashes ops payload interface.fdCtx (route interface.ctrlCtx payload)) ∧
        (routed interface ops first payload).1 ≠ .err .notReady ∧
        ∀ count, (routed interface ops first payload).1 = .ok count →
          Answered ops first payload count (routed interface ops first payload).2.msgBuf :=
      @route_served ops { interface with busy := true } first payload
    constructor
    · intro quiet
      rw [hlog] at quiet
      rw [houtcome, hbuffer]
      cases hended : (routed interface ops first payload).1 with
      | ok count => exact ⟨count, rfl, hanswered count hended⟩
      | err error =>
          have hfails := (@routed_settles interface ops first payload [] room hunserved heard).1
          exact absurd quiet (hfails error hended)
      | panic =>
          have hfatal := (@routeCrashes_iff ops interface first payload measured).mp
            (hcrashes.mp hended)
          cases hfatal with
          | unserved passes base fwUpdate =>
              exact absurd (route_eq_unserved_iff.mpr ⟨_, _, passes, base, fwUpdate⟩) hunserved
          | unanswerable passes platform => exact absurd (.unanswerable passes platform) heard
    · intro more count returned beyond
      have hreplaces := (@routed_settles interface ops first payload more room hunserved heard).2
      rw [(@handed_eq profile interface ops first (payload ++ more) idle).1] at returned
      obtain ⟨bytes, hbytes, hcount⟩ := Outcome.map_eq_ok.mp returned
      have hsame : bytes = count := by
        injection hcount with hcount
        simp only [pldmMsgOffset] at hcount
        omega
      subst hsame
      obtain ⟨hrefused, header, hheader, hwritten⟩ := hreplaces bytes hbytes beyond
      obtain ⟨_, reply, _, hframed, _⟩ := (hanswered _ hrefused).replied
      rw [houtcome, hbuffer, hrefused]
      refine ⟨rfl, header, hheader, ?_⟩
      rw [hframed] at hwritten ⊢
      rw [Nat.add_comm, pldmMsgOffset, List.take_succ_cons]
      exact congrArg (first :: ·) hwritten

end Handing

/-- A `GetTID` request in a buffer with room for a refusal and no more. -/
def shortGetTid : List UInt8 :=
  (PldmMsgHeader.new 7 .request .base PldmControlCmd.getTid.toU8).toBytes ++ [0]

/-- The event of such a request. -/
def askTid (payload : List UInt8) : InterfaceEvent :=
  handed .release (.new baseTable) (platform 0) (mctpPldmMsgType :: payload)

/-- The terminus ID takes one byte more than the buffer has, and the agent gets nothing. -/
theorem getTid_unanswered :
    InterfaceTrace .release baseTable [] (.new baseTable) ∧
    (askTid shortGetTid).output.outcome = .err (.codec .bufferTooShort) ∧
    (askTid shortGetTid).output.log = [] ∧
    (askTid (shortGetTid ++ [0])).output.outcome = .ok (.length 6) ∧
    ¬ Responds .release (.new baseTable) (platform 0) mctpPldmMsgType shortGetTid := by
  have hfails : (askTid shortGetTid).output.outcome = .err (.codec .bufferTooShort) := by
    decide +kernel
  have hlonger : (askTid (shortGetTid ++ [0])).output.outcome = .ok (.length 6) := by
    decide +kernel
  refine ⟨.start, hfails, by decide +kernel, hlonger, fun responds => ?_⟩
  have hrefused := (responds.replaces [0] 5 hlonger (by decide)).1
  cases hfails.symm.trans hrefused

theorem responds_iff_getTid :
    Responds .release (.new baseTable) (platform 0) mctpPldmMsgType shortGetTid ↔
      ¬ Silences (platform 0) (.new baseTable) shortGetTid :=
  responds_iff (.start : InterfaceTrace .release baseTable [] (.new baseTable)) (by decide)
    (by decide) (platform 0) mctpPldmMsgType

end PldmLib.Interface
