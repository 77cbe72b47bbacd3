/-
# Discovery

What an agent finds out about a terminus through its control commands. The terminus ID is a
register: it tells what was assigned last. The types, the versions and the commands are read
off the capability table, and the agent that asks for the commands of the version that it was
told learns exactly the commands that are let through.
-/

import PldmLib.Interface.Planes
import PldmLib.Interface.Advertisement
import PldmLib.Message.Packed

namespace PldmLib.Interface

open PldmLib.Machine PldmLib.Protocol PldmLib.Message PldmLib.FirmwareDevice

/-! ## The terminus ID -/

/-- The terminus ID that a call assigns: the interface sets it itself, or a message that is
served as an assignment and can be read. -/
def InterfaceOperation.assignedTid (caps : List ProtocolCapability) :
    InterfaceOperation → Option UInt8
  | .setTid tid => some tid
  | .handleResponderMsg (_ :: payload) =>
      match route (.new caps) payload with
      | .control .setTid => (SetTidRequest.decode payload).toOption.map (·.tid)
      | _ => none
  | _ => none

/-- The terminus ID after some calls. -/
def lastTid (caps : List ProtocolCapability) (inputs : List InterfaceInput) : UInt8 :=
  (inputs.filterMap fun input => input.operation.assignedTid caps).getLast?.getD
    (.ofNat unassignedTid)

@[simp]
theorem ControlContext.getTid_setTid (tid : UInt8) (context : ControlContext) :
    (context.setTid tid).getTid = tid :=
  UInt8.ofNat_toNat

/-- A call that leaves the context alone. -/
def Untouched {α : Type} (call : CtrlCall α) : Prop :=
  ∀ state, (call state).2.context = state.context

section Untouched

variable {α : Type}

theorem untouched_onPayload (call : PayloadCall α) : Untouched (CtrlCall.onPayload call) :=
  fun _ => rfl

theorem untouched_ofOutcome (outcome : Outcome MsgHandlerError α) :
    Untouched (Call.ofOutcome outcome) :=
  fun _ => rfl

theorem untouched_withRequest {decode : List UInt8 → Except PldmCodecError α}
    {handle : α → CtrlCall ℕ} (goesOn : ∀ request, Untouched (handle request)) :
    Untouched (CtrlCall.withRequest decode handle) := by
  intro state
  simp only [CtrlCall.withRequest, bind, Call.bind, Call.get]
  cases decode state.payload with
  | error error => rfl
  | ok request => exact goesOn request state

theorem untouched_ofContext {next : ControlContext → CtrlCall α}
    (goesOn : ∀ context, Untouched (next context)) : Untouched (CtrlCall.context >>= next) :=
  fun state => goesOn state.context state

theorem untouched_withSupportedType {value : UInt8} {handle : PldmSupportedType → CtrlCall ℕ}
    (goesOn : ∀ pldmType, Untouched (handle pldmType)) :
    Untouched (CtrlCall.withSupportedType value handle) := by
  rw [CtrlCall.withSupportedType]
  cases PldmSupportedType.tryFrom value with
  | error error => exact untouched_onPayload _
  | ok pldmType =>
      apply untouched_ofContext
      intro context
      split
      · exact untouched_onPayload _
      · exact goesOn pldmType

theorem untouched_built {response : Outcome PldmCodecError α} {handle : α → CtrlCall ℕ}
    (goesOn : ∀ value, Untouched (handle value)) :
    Untouched (CtrlCall.built response >>= handle) := by
  intro state
  cases response with
  | ok value => exact goesOn value state
  | err error => rfl
  | panic => rfl

theorem untouched_respond (encoder : Encoder) : Untouched (CtrlCall.respond encoder) := by
  intro state
  simp only [CtrlCall.respond, Call.attemptOn, bind, Call.bind]
  rcases encoder state.payload with ⟨_ | _ | _, left⟩ <;> rfl

/-- Only an assignment touches the context. -/
theorem untouched_controlHandler {cmd : PldmControlCmd} (other : cmd ≠ .setTid) :
    Untouched (CmdInterface.controlHandler cmd) := by
  cases cmd with
  | setTid => exact absurd rfl other
  | getTid => exact untouched_withRequest fun _ => untouched_ofContext fun _ =>
      untouched_onPayload _
  | getPldmTypes => exact untouched_withRequest fun _ => untouched_ofContext fun _ =>
      untouched_built fun _ => untouched_onPayload _
  | getPldmCommands =>
      apply untouched_withRequest
      intro request
      apply untouched_withSupportedType
      intro pldmType
      apply untouched_ofContext
      intro context
      split
      · exact untouched_onPayload _
      · apply untouched_ofContext
        intro context
        cases context.getSupportedCommands pldmType request.protocolVersion with
        | none => exact untouched_ofOutcome _
        | some cmds => exact untouched_built fun _ => untouched_respond _
  | getPldmVersion =>
      apply untouched_withRequest
      intro request
      apply untouched_withSupportedType
      intro pldmType
      split
      · exact untouched_onPayload _
      · apply untouched_ofContext
        intro context
        cases context.getProtocolVersions pldmType 2 with
        | nil => exact untouched_onPayload _
        | cons version versions => exact untouched_respond _

end Untouched

section Register

variable {profile : Profile} {caps : List ProtocolCapability} {interface : CmdInterface}

/-- An assignment that can be read is made. -/
theorem setTidRsp_getTid (state : CtrlState) :
    (ControlContext.setTidRsp state).2.context.getTid =
      ((SetTidRequest.decode state.payload).toOption.map (·.tid)).getD state.context.getTid := by
  simp only [ControlContext.setTidRsp, CtrlCall.withRequest, bind, Call.bind, Call.get]
  cases SetTidRequest.decode state.payload with
  | error error => rfl
  | ok request => exact ControlContext.getTid_setTid request.tid state.context

theorem interfaceStep_getTid (settled : Settled caps interface) (input : InterfaceInput) :
    (interfaceStep profile interface input).interface.ctrlCtx.getTid =
      (input.operation.assignedTid caps).getD interface.ctrlCtx.getTid := by
  obtain ⟨operation, ops⟩ := input
  cases operation with
  | handleResponderMsg msgBuf =>
      cases msgBuf with
      | nil =>
          obtain ⟨context, device, busy⟩ := interface
          obtain rfl := settled.idle
          rfl
      | cons first payload =>
          have hroute : route (.new caps) payload = route interface.ctrlCtx payload :=
            route_congr settled.tabled.symm payload
          rw [interfaceStep_served settled.idle, InterfaceOperation.assignedTid, hroute]
          cases route interface.ctrlCtx payload with
          | refused code => rfl
          | device handler => rfl
          | unserved => rfl
          | control cmd =>
              cases cmd with
              | setTid => exact setTidRsp_getTid ⟨interface.ctrlCtx, payload⟩
              | _ =>
                  exact congrArg ControlContext.getTid
                    (untouched_controlHandler (by decide) ⟨interface.ctrlCtx, payload⟩)
  | setTid tid => exact ControlContext.getTid_setTid tid interface.ctrlCtx
  | _ =>
      exact congrArg ControlContext.getTid
        (interfaceStep_ctrlCtx rfl settled.tabled settled.idle)

/-- The register holds what was assigned last. -/
theorem getTid_of_trace {events : List InterfaceEvent}
    (trace : InterfaceTrace profile caps events interface) :
    interface.ctrlCtx.getTid = lastTid caps (events.map Event.input) := by
  rw [lastTid, List.filterMap_map]
  refine @System.Trace.latest _ _ _ _ _ _ (fun interface => interface.ctrlCtx.getTid) _ ?_ _ _
    trace
  intro events state input reached prior live
  obtain ⟨_, rfl⟩ := interfaceSystem_next live
  exact interfaceStep_getTid (settled_of_trace prior) input

end Register

/-! ## Exchanges -/

/-- A message that the control handler of a command serves. -/
structure Asks (caps : List ProtocolCapability) (cmd : PldmControlCmd) (payload : List UInt8)
    (event : InterfaceEvent) : Prop where
  sent : ∃ first, event.input.operation = .handleResponderMsg (first :: payload)
  routed : route (.new caps) payload = .control cmd

/-- The caller gets the bytes of a message back, behind the byte of the transport. -/
def Tells {α : Type} (layout : Layout α) (response : α) (event : InterfaceEvent) : Prop :=
  event.output.outcome = .ok (.length (pldmMsgOffset + layout.size)) ∧
    ∃ first rest, event.output.msgBuf = first :: (layout.toBytes response ++ rest)

section Exchanges

variable {profile : Profile} {caps : List ProtocolCapability} {α : Type} {layout : Layout α}
  {response : α} {cmd : PldmControlCmd} {payload : List UInt8} {events : List InterfaceEvent}
  {interface : CmdInterface} {event : InterfaceEvent}

/-- The handler answers with a message. -/
def Yields (layout : Layout α) (response : α) (handler : CtrlCall ℕ) (state : CtrlState) : Prop :=
  handler state = (.ok layout.size,
    ⟨state.context, layout.toBytes response ++ state.payload.drop layout.size⟩)

theorem tabled_of_mem (trace : InterfaceTrace profile caps events interface)
    (member : event ∈ events) : event.before.ctrlCtx.capabilities = caps := by
  obtain ⟨before, after, rfl⟩ := List.append_of_mem member
  exact (settled_of_trace (System.Trace.cut trace).1).tabled

/-- In a run the answer of a handler comes back from the call. -/
theorem tells_of_yields (trace : InterfaceTrace profile caps events interface)
    (member : event ∈ events) (asks : Asks caps cmd payload event)
    (yields : Yields layout response (CmdInterface.controlHandler cmd)
      ⟨event.before.ctrlCtx, payload⟩) :
    Tells layout response event := by
  obtain ⟨before, after, rfl⟩ := List.append_of_mem member
  obtain ⟨prior, hevent, _⟩ := System.Trace.cut trace
  obtain ⟨state, ⟨operation, ops⟩, output⟩ := event
  obtain ⟨⟨first, rfl⟩, routed⟩ := asks
  obtain rfl : output = interfaceStep profile state ⟨.handleResponderMsg (first :: payload), ops⟩ :=
    congrArg Event.output hevent
  have hsettled := settled_of_trace prior
  have hroute : route state.ctrlCtx payload = .control cmd := by
    rw [← routed]
    exact route_congr hsettled.tabled payload
  have hcall : (Route.control cmd).call ops ⟨{ state with busy := true }, first :: payload, []⟩ =
      (.ok layout.size, ⟨{ state with busy := true },
        first :: (layout.toBytes response ++ payload.drop layout.size), []⟩) := by
    show InterfaceCall.onCtrlCtx (CmdInterface.controlHandler cmd) _ = _
    simp only [InterfaceCall.onCtrlCtx, Call.on, InterfaceState.payload_cons,
      InterfaceState.withPayload_cons]
    rw [yields]
  rw [interfaceStep_served hsettled.idle, hroute]
  dsimp only
  rw [hcall]
  exact ⟨rfl, first, _, rfl⟩

end Exchanges

section Handlers

variable {context : ControlContext} {payload : List UInt8} {pldmType : PldmSupportedType}
  {cap : ProtocolCapability}

theorem getTidRsp_yields {header : PldmMsgHeader}
    (decoded : PldmMsgHeader.decode payload = .ok header)
    (room : GetTidResponse.layout.size ≤ payload.length) :
    Yields GetTidResponse.layout
      (.new header.instanceId context.getTid PldmBaseCompletionCode.success.toU8)
      ControlContext.getTidRsp ⟨context, payload⟩ := by
  have hrequest : GetTidRequest.decode payload = .ok ⟨header⟩ := by
    rw [GetTidRequest.decode, HeaderRequest.decode, decoded]
    rfl
  have hwritten := @Derived.encode_of_le _ _ (GetTidResponse.new header.instanceId
    context.getTid PldmBaseCompletionCode.success.toU8) _ room
  simp only [Yields, ControlContext.getTidRsp, CtrlCall.withRequest, CtrlCall.context, bind,
    Call.bind, Call.get, pure, hrequest, CtrlCall.encode, CtrlCall.onPayload, Call.on,
    PayloadCall.encode, Call.mapErr, GetTidResponse.encode_eq, hwritten, Outcome.mapErr]

/-- The versions of a type begin with that of its first entry. -/
theorem getProtocolVersions_of_first
    (first : FirstAmong context.capabilities (·.pldmType = pldmType) cap) :
    ∃ others, context.getProtocolVersions pldmType 2 = cap.protocolVersion :: others := by
  obtain ⟨named, earlier, later, hcaps, hearlier⟩ := first
  have hnone : earlier.filter (fun cap => cap.pldmType == pldmType) = [] :=
    List.filter_eq_nil_iff.mpr fun other member => by simpa using hearlier other member
  have hkept : (cap :: later).filter (fun cap => cap.pldmType == pldmType) =
      cap :: later.filter fun cap => cap.pldmType == pldmType :=
    List.filter_cons_of_pos (beq_iff_eq.mpr named)
  rw [ControlContext.getProtocolVersions, hcaps, List.filter_append, hnone, List.nil_append,
    hkept, List.map_cons, List.take_succ_cons]
  exact ⟨_, rfl⟩

/-- The version that is told is that of the first entry. -/
theorem getPldmVersionRsp_yields {request : GetPldmVersionRequest}
    (decoded : GetPldmVersionRequest.decode payload = .ok request)
    (typed : request.pldmType = pldmType.toU8)
    (flagged : request.transferOpFlag = TransferOperationFlag.getFirstPart.toU8)
    (first : FirstAmong context.capabilities (·.pldmType = pldmType) cap)
    (room : GetPldmVersionResponse.layout.size ≤ payload.length) :
    Yields GetPldmVersionResponse.layout
      ⟨request.hdr.intoResponse, PldmBaseCompletionCode.success.toU8, 0,
        TransferRespFlag.startAndEnd.toU8, cap.protocolVersion⟩
      ControlContext.getPldmVersionRsp ⟨context, payload⟩ := by
  have hsupported : context.isSupportedType pldmType = true :=
    List.any_eq_true.mpr ⟨cap, first.mem, beq_iff_eq.mpr first.1⟩
  obtain ⟨others, hversions⟩ := getProtocolVersions_of_first first
  have hwritten := @Derived.encode_of_le _ _ (GetPldmVersionResponse.mk request.hdr.intoResponse
    PldmBaseCompletionCode.success.toU8 0 TransferRespFlag.startAndEnd.toU8 cap.protocolVersion)
    _ room
  simp only [Yields, ControlContext.getPldmVersionRsp, CtrlCall.withRequest,
    CtrlCall.withSupportedType, CtrlCall.context, bind, Call.bind, Call.get, pure, decoded, typed,
    PldmSupportedType.tryFrom_toU8, hsupported, Bool.not_true, Bool.false_eq_true, if_false,
    flagged, ne_eq, not_true_eq_false, hversions, CtrlCall.respond, Call.attemptOn,
    GetPldmVersionResponse.encode_eq, hwritten]

/-- An answer with a bitmap is one of its layout. -/
theorem Answers.yields {size : ℕ} {handler : CtrlCall ℕ} {state : CtrlState}
    {response : BitmapResponse size} (answers : Answers handler state response) :
    Yields (BitmapResponse.layout size) response handler state := by
  have hsize : (BitmapResponse.layout size).size = pldmFailureRespLen + size := by
    show 1 + (1 + 1) + (1 + size) = 4 + size
    omega
  have hbytes : (BitmapResponse.layout size).toBytes response = response.toBytes := by
    simp [BitmapResponse.layout, BitmapResponse.toBytes, Layout.record, Layout.pair, Layout.byte,
      Layout.array, PldmMsgHeader.layout, PldmMsgHeader.toBytes]
  rw [Yields, hsize, hbytes]
  exact answers.returned

end Handlers

/-! ## What the agent learns -/

variable {profile : Profile} {caps : List ProtocolCapability} {events : List InterfaceEvent}
  {interface : CmdInterface}

/-- Whatever else is said in a run, an agent that asks for the terminus ID is told the one that
was assigned last, and that there is none before the first assignment. -/
theorem tid_register (trace : InterfaceTrace profile caps events interface) :
    Throughout (fun before event => ∀ payload, Asks caps .getTid payload event →
      GetTidResponse.layout.size ≤ payload.length →
        ∃ header, PldmMsgHeader.decode payload = .ok header ∧
          Tells GetTidResponse.layout (.new header.instanceId
            (lastTid caps (before.map Event.input)) PldmBaseCompletionCode.success.toU8)
            event) events := by
  intro before event after split payload asks room
  subst split
  obtain ⟨header, decoded, _⟩ := route_control asks.routed
  have htid := getTid_of_trace (System.Trace.cut trace).1
  have hyields := @getTidRsp_yields event.before.ctrlCtx payload header decoded room
  rw [htid] at hyields
  have hmember : event ∈ before ++ event :: after :=
    List.mem_append_right _ List.mem_cons_self
  exact ⟨header, decoded, tells_of_yields trace hmember asks hyields⟩

/-- A terminus ID that is assigned twice before it is asked for. -/
theorem tid_register_twice : ∃ before asking interface,
    InterfaceTrace .release bothTable (before ++ [asking]) interface ∧
    before.map Event.input = [assignTid 8, assignTid 9] ∧ asking.input = askForTid ∧
    ∃ header : PldmMsgHeader, Tells GetTidResponse.layout
      (.new header.instanceId 9 PldmBaseCompletionCode.success.toU8) asking := by
  obtain ⟨events, interface, trace, hinputs, _⟩ := System.exists_of_replay
    (interfaceSystem .release bothTable) (.new bothTable) [assignTid 8, assignTid 9, askForTid]
    (fun _ _ => true) (by decide +kernel)
  obtain ⟨before, last, rfl, hbefore, hlast⟩ :=
    List.map_eq_append_iff.mp (hinputs.trans (List.append_cons [_] _ [_]))
  obtain ⟨asking, rest, rfl, hasking, hrest⟩ := List.map_eq_cons_iff.mp hlast
  obtain rfl := List.map_eq_nil_iff.mp hrest
  have htid : lastTid bothTable (before.map Event.input) = 9 := by
    rw [hbefore]
    decide +kernel
  have hasks : Asks bothTable .getTid _ asking :=
    ⟨⟨_, congrArg InterfaceInput.operation hasking⟩, by decide +kernel⟩
  obtain ⟨header, _, told⟩ := tid_register trace before asking [] rfl _ hasks (by decide)
  exact ⟨before, asking, interface, trace, hbefore, hasking, header, htid ▸ told⟩

/-- A question for the types, with room for the answer. -/
def AsksTypes (caps : List ProtocolCapability) (event : InterfaceEvent) : Prop :=
  ∃ payload, Asks caps .getPldmTypes payload event ∧
    (BitmapResponse.layout pldmTypesBitmapLen).size ≤ payload.length

/-- A question for the version of a type. -/
def AsksVersion (caps : List ProtocolCapability) (pldmType : PldmSupportedType)
    (event : InterfaceEvent) : Prop :=
  ∃ payload request, Asks caps .getPldmVersion payload event ∧
    GetPldmVersionRequest.decode payload = .ok request ∧ request.pldmType = pldmType.toU8 ∧
    request.transferOpFlag = TransferOperationFlag.getFirstPart.toU8 ∧
    GetPldmVersionResponse.layout.size ≤ payload.length

/-- A question for the commands of a version of a type. -/
def AsksCommands (caps : List ProtocolCapability) (pldmType : PldmSupportedType)
    (protocolVersion : UInt32) (event : InterfaceEvent) : Prop :=
  ∃ payload request, Asks caps .getPldmCommands payload event ∧
    GetPldmCommandsRequest.decode payload = .ok request ∧ request.pldmType = pldmType.toU8 ∧
    request.protocolVersion = protocolVersion ∧
    (BitmapResponse.layout pldmCmdsBitmapLen).size ≤ payload.length

/-- A bitmap that is told with success. -/
def TellsBitmap {size : ℕ} (bitmap : FixedBytes size) (event : InterfaceEvent) : Prop :=
  ∃ header, Tells (BitmapResponse.layout size)
    ⟨header, PldmBaseCompletionCode.success.toU8, bitmap⟩ event

/-- A version that is told with success, in one part. -/
def TellsVersion (protocolVersion : UInt32) (event : InterfaceEvent) : Prop :=
  ∃ header, Tells GetPldmVersionResponse.layout
    ⟨header, PldmBaseCompletionCode.success.toU8, 0, TransferRespFlag.startAndEnd.toU8,
      protocolVersion⟩ event

section Bitmaps

variable {size : ℕ} {response : BitmapResponse size} {cmd : PldmControlCmd} {payload : List UInt8}
  {event : InterfaceEvent}

theorem room_iff : (BitmapResponse.layout size).size ≤ payload.length ↔
    pldmFailureRespLen + size ≤ payload.length := by
  show 1 + (1 + 1) + (1 + size) ≤ payload.length ↔ 4 + size ≤ payload.length
  omega

theorem tellsBitmap_of_answers (trace : InterfaceTrace profile caps events interface)
    (member : event ∈ events) (asks : Asks caps cmd payload event)
    (answers : Answers (CmdInterface.controlHandler cmd) ⟨event.before.ctrlCtx, payload⟩
      response) : TellsBitmap response.bitmap event := by
  have htells := tells_of_yields trace member asks answers.yields
  obtain ⟨header, code, bitmap⟩ := response
  obtain rfl := answers.success
  exact ⟨header, htells⟩

end Bitmaps

theorem PldmSupportedType.toU8_injective : Function.Injective PldmSupportedType.toU8 := by
  intro pldmType other same
  have hread := congrArg PldmSupportedType.tryFrom same
  rw [PldmSupportedType.tryFrom_toU8, PldmSupportedType.tryFrom_toU8] at hread
  exact Except.ok.inj hread

/-- The commands that are told are those whose requests are let through. -/
def LearnsCommands (context : ControlContext) (events : List InterfaceEvent)
    (pldmType : PldmSupportedType) (protocolVersion : UInt32) : Prop :=
  ∀ event ∈ events, AsksCommands context.capabilities pldmType protocolVersion event →
    ∃ bitmap : FixedBytes pldmCmdsBitmapLen, TellsBitmap bitmap event ∧
      ∀ cmd payload, RequestFor pldmType cmd payload →
        (isBitSet bitmap.toList cmd = .ok true ↔
          CmdInterface.preprocessRequest context payload = .ok (pldmType, cmd))

/-- A version is told, and it is one whose commands are learned. -/
def LearnsVersion (context : ControlContext) (events : List InterfaceEvent)
    (pldmType : PldmSupportedType) : Prop :=
  ∀ event ∈ events, AsksVersion context.capabilities pldmType event →
    ∃ protocolVersion, TellsVersion protocolVersion event ∧
      LearnsCommands context events pldmType protocolVersion

/-- The types that are told are those with an entry, and of each the version is learned. -/
def LearnsTypes (context : ControlContext) (events : List InterfaceEvent) : Prop :=
  ∀ event ∈ events, AsksTypes context.capabilities event →
    ∃ bitmap : FixedBytes pldmTypesBitmapLen, TellsBitmap bitmap event ∧
      ∀ pldmType : PldmSupportedType,
        (isBitSet bitmap.toList pldmType.toU8 = .ok true ↔
          ∃ cap ∈ context.capabilities, cap.pldmType = pldmType) ∧
        (isBitSet bitmap.toList pldmType.toU8 = .ok true →
          LearnsVersion context events pldmType)

section Learning

variable {pldmType : PldmSupportedType} {cap : ProtocolCapability}

/-- The first entry of a type tells the commands that the gate looks at. -/
theorem learnsCommands_of_first (trace : InterfaceTrace profile caps events interface)
    (distinct : cap.supportedCommands.Nodup)
    (first : FirstAmong caps (·.pldmType = pldmType) cap) :
    LearnsCommands interface.ctrlCtx events pldmType cap.protocolVersion := by
  have htabled : interface.ctrlCtx.capabilities = caps := (settled_of_trace trace).tabled
  intro event member asks
  obtain ⟨payload, request, asks, decoded, typed, versioned, room⟩ := asks
  rw [htabled] at asks
  have hfirst : FirstAmong event.before.ctrlCtx.capabilities
      (ProtocolCapability.Describes pldmType request.protocolVersion) cap := by
    rw [tabled_of_mem trace member, versioned]
    exact first.version
  obtain ⟨response, answers, hitems⟩ :=
    getPldmCommandsRsp_answers decoded typed hfirst (room_iff.mp room)
  refine ⟨response.bitmap, tellsBitmap_of_answers trace member asks answers, ?_⟩
  intro cmd payload asked
  rw [preprocessRequest_requestFor asked,
    ControlContext.isSupportedCommand_of_first (htabled.symm ▸ first), isBitSet_eq_ok_true_iff,
    hitems, take_of_nodup distinct]
  rfl

theorem learnsVersion_of_listed (trace : InterfaceTrace profile caps events interface)
    (distinct : ∀ cap ∈ caps, cap.supportedCommands.Nodup)
    (listed : ∃ cap ∈ caps, cap.pldmType = pldmType) :
    LearnsVersion interface.ctrlCtx events pldmType := by
  have htabled : interface.ctrlCtx.capabilities = caps := (settled_of_trace trace).tabled
  obtain ⟨cap, first⟩ : ∃ cap, FirstAmong caps (·.pldmType = pldmType) cap := exists_first listed
  intro event member asks
  obtain ⟨payload, request, asks, decoded, typed, flagged, room⟩ := asks
  rw [htabled] at asks
  have hyields := getPldmVersionRsp_yields decoded typed flagged
    ((tabled_of_mem trace member).symm ▸ first) room
  exact ⟨cap.protocolVersion, ⟨_, tells_of_yields trace member asks hyields⟩,
    learnsCommands_of_first trace (distinct cap first.mem) first⟩

end Learning

/-- An agent that asks for the types, for the version of a type and for the commands of the
version that it is told learns exactly the commands that are let through, whatever else is
said in between. -/
theorem discovery_exact (distinct : ∀ cap ∈ caps, cap.supportedCommands.Nodup)
    (trace : InterfaceTrace profile caps events interface) :
    LearnsTypes interface.ctrlCtx events := by
  have htabled : interface.ctrlCtx.capabilities = caps := (settled_of_trace trace).tabled
  intro event member asks
  obtain ⟨payload, asks, room⟩ := asks
  rw [htabled] at asks
  obtain ⟨header, decoded, _⟩ := route_control asks.routed
  have hrequest : GetPldmTypeRequest.decode payload = .ok ⟨header⟩ := by
    rw [GetPldmTypeRequest.decode, HeaderRequest.decode, decoded]
    rfl
  obtain ⟨response, answers, hitems⟩ :=
    @getPldmTypesRsp_answers event.before.ctrlCtx payload _ hrequest (room_iff.mp room)
  refine ⟨response.bitmap, tellsBitmap_of_answers trace member asks answers, ?_⟩
  intro pldmType
  have hbit : isBitSet response.bitmap.toList pldmType.toU8 = .ok true ↔
      ∃ cap ∈ caps, cap.pldmType = pldmType := by
    rw [isBitSet_eq_ok_true_iff, hitems, tabled_of_mem trace member]
    simp only [Set.mem_ofPred_eq, PldmSupportedType.toU8_injective.eq_iff]
  rw [htabled]
  exact ⟨hbit, fun told => learnsVersion_of_listed trace distinct (hbit.mp told)⟩

/-- The two-version table with the commands that ask about it. -/
def discoveryTable : List ProtocolCapability :=
  ⟨.base, 0xF1F1F000, [PldmControlCmd.getPldmTypes.toU8, PldmControlCmd.getPldmVersion.toU8,
    PldmControlCmd.getPldmCommands.toU8]⟩ :: twoVersions

def versionRequest (pldmType : PldmSupportedType) : List UInt8 :=
  (PldmMsgHeader.new 0 .request .base PldmControlCmd.getPldmVersion.toU8).toBytes ++
    [0, 0, 0, 0, TransferOperationFlag.getFirstPart.toU8, pldmType.toU8] ++ List.replicate 4 0

/-- The questions of an agent that wants to update the firmware. -/
def discovery : List InterfaceInput :=
  [receiveMctp typesRequest (platform 0), receiveMctp (versionRequest .fwUpdate) (platform 0),
    receiveMctp (commandsRequest .fwUpdate 0xF1F3F000) (platform 0)]

/-- A run in which all three questions are asked. -/
theorem discovery_exact_twoVersions : ∃ events interface,
    InterfaceTrace .release discoveryTable events interface ∧
    events.map Event.input = discovery ∧
    (∃ event ∈ events, AsksTypes discoveryTable event) ∧
    (∃ event ∈ events, AsksVersion discoveryTable .fwUpdate event) ∧
    (∃ event ∈ events, AsksCommands discoveryTable .fwUpdate 0xF1F3F000 event) ∧
    LearnsTypes interface.ctrlCtx events := by
  obtain ⟨events, interface, trace, hinputs, _⟩ := System.exists_of_replay
    (interfaceSystem .release discoveryTable) (.new discoveryTable) discovery
    (fun _ _ => true) (by decide +kernel)
  have hasked (input : InterfaceInput) (member : input ∈ discovery) :
      ∃ event ∈ events, event.input = input := by
    rw [← hinputs] at member
    exact List.mem_map.mp member
  obtain ⟨types, htypes, htypesSent⟩ := hasked (receiveMctp typesRequest (platform 0))
    (by simp [discovery])
  obtain ⟨version, hversion, hversionSent⟩ :=
    hasked (receiveMctp (versionRequest .fwUpdate) (platform 0)) (by simp [discovery])
  obtain ⟨commands, hcommands, hcommandsSent⟩ :=
    hasked (receiveMctp (commandsRequest .fwUpdate 0xF1F3F000) (platform 0))
      (by simp [discovery])
  refine ⟨events, interface, trace, hinputs, ⟨types, htypes, ?_⟩, ⟨version, hversion, ?_⟩,
    ⟨commands, hcommands, ?_⟩, discovery_exact (by decide) trace⟩
  · exact ⟨_, ⟨⟨_, congrArg InterfaceInput.operation htypesSent⟩, by decide +kernel⟩, by decide⟩
  · exact ⟨_, _, ⟨⟨_, congrArg InterfaceInput.operation hversionSent⟩, by decide +kernel⟩, rfl,
      by decide, by decide, by decide⟩
  · exact ⟨_, _, ⟨⟨_, congrArg InterfaceInput.operation hcommandsSent⟩, by decide +kernel⟩,
      decode_commandsRequest _ _, rfl, rfl, by decide⟩

end PldmLib.Interface
