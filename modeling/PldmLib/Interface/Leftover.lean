/-
# Conversations in a buffer that nobody clears

Every message arrives in a buffer that still holds something behind it, be it of the message
before. Two conversations that differ in nothing else take the same course, and nothing of
what was left over is ever sent.
-/

import PldmLib.FirmwareDevice.Leftover
import PldmLib.Interface.Planes

namespace PldmLib.Interface

open PldmLib.Machine PldmLib.Protocol PldmLib.Message PldmLib.FirmwareDevice Call

/-! ## The handlers of the control context -/

/-- Two calls with the same control context. -/
structure CtrlAlike (buffers : List UInt8 → List UInt8 → Prop) (state state' : CtrlState) :
    Prop where
  context : state'.context = state.context
  payload : buffers state.payload state'.payload

/-- A call that answers a request whose bytes are all in the front. -/
def CtrlImmune (front : List UInt8) (call : CtrlCall ℕ) : Prop :=
  Lockstep (CtrlAlike (Behind front)) (fun outcome => CtrlAlike (Written front outcome)) call

section Control

variable {front : List UInt8} {α β : Type}

theorem written_mapErr {outcome : Outcome PldmCodecError ℕ} {buffer buffer' : List UInt8}
    (written : Written front outcome buffer buffer') :
    Written front (outcome.mapErr MsgHandlerError.codec) buffer buffer' := by
  cases outcome with
  | ok count => exact written
  | err error => exact written
  | panic => trivial

theorem lockstep_mapErr {encoder : Encoder}
    (writes : Lockstep (Behind front) (Written front) encoder) :
    Lockstep (Behind front) (Written front) (PayloadCall.encode encoder) := by
  intro buffer buffer' behind
  have hboth := writes buffer buffer' behind
  exact ⟨congrArg (Outcome.mapErr MsgHandlerError.codec) hboth.1, written_mapErr hboth.2⟩

theorem ctrlImmune_onPayload {call : PayloadCall ℕ}
    (lockstep : Lockstep (Behind front) (Written front) call) :
    CtrlImmune front (CtrlCall.onPayload call) :=
  lockstep_on lockstep (fun _ _ alike => alike.payload)
    fun _ _ _ _ _ alike written => ⟨alike.context, written⟩

theorem ctrlImmune_context {next : ControlContext → CtrlCall ℕ}
    (goesOn : ∀ context, CtrlImmune front (next context)) :
    CtrlImmune front (CtrlCall.context >>= next) :=
  lockstep_read CtrlState.context (fun _ _ alike => alike.context) goesOn

theorem ctrlImmune_modify {change : ControlContext → ControlContext} {next : PUnit → CtrlCall ℕ}
    (goesOn : CtrlImmune front (next ⟨⟩)) :
    CtrlImmune front (CtrlCall.modify change >>= next) := by
  intro state state' alike
  exact goesOn _ _ ⟨congrArg change alike.context, alike.payload⟩

theorem ctrlImmune_built {response : Outcome PldmCodecError α} {next : α → CtrlCall ℕ}
    (goesOn : ∀ value, CtrlImmune front (next value)) :
    CtrlImmune front (CtrlCall.built response >>= next) := by
  intro state state' alike
  cases response with
  | ok value => exact goesOn value state state' alike
  | err error => exact ⟨rfl, alike⟩
  | panic => exact ⟨rfl, alike.context, trivial⟩

theorem lockstep_refusal (code : UInt8) (read : Except PldmCodecError PldmMsgHeader) :
    Lockstep (Behind front) (Written front)
      (match read with
      | .error error => (Call.fail (.codec error) : PayloadCall ℕ)
      | .ok header => PayloadCall.encode (writeToPrefix
          (PldmFailureResponse.toBytes ⟨header.intoResponse, code⟩))) := by
  cases read with
  | error error => exact lockstep_fail fun _ _ behind => behind
  | ok header => exact lockstep_mapErr (lockstep_writeToPrefix _)

variable (addressed : PldmMsgHeader.decode front ≠ .error .bufferTooShort)
include addressed

/-- A refusal by its code alone. -/
theorem lockstep_generateFailureResponse (code : UInt8) :
    Lockstep (Behind front) (Written front) (PayloadCall.generateFailureResponse code) := by
  refine lockstep_read PldmMsgHeader.decode ?_ (lockstep_refusal code)
  intro buffer buffer' behind
  have hread := behind.decode PldmMsgHeader.extends_decode addressed
  exact hread.2.trans hread.1.symm

theorem ctrlImmune_refuse (code : UInt8) :
    CtrlImmune front (CtrlCall.generateFailureResponse code) :=
  ctrlImmune_onPayload (lockstep_generateFailureResponse addressed code)

theorem ctrlImmune_handling {handle : β → CtrlCall ℕ}
    (goesOn : ∀ request, CtrlImmune front (handle request)) (read : Except PldmCodecError β) :
    CtrlImmune front
      (match read with
      | .error error => CtrlCall.generateFailureResponse (FdCall.decodeFailureCode error)
      | .ok request => handle request) := by
  cases read with
  | error error => exact ctrlImmune_refuse addressed _
  | ok request => exact goesOn request

theorem ctrlImmune_withRequest {decode : List UInt8 → Except PldmCodecError β}
    {handle : β → CtrlCall ℕ} (longer : Reader.DecodeExtends decode .bufferTooShort)
    (enough : decode front ≠ .error .bufferTooShort)
    (goesOn : ∀ request, CtrlImmune front (handle request)) :
    CtrlImmune front (CtrlCall.withRequest decode handle) := by
  refine lockstep_read (fun state : CtrlState => decode state.payload) ?_
    (ctrlImmune_handling addressed goesOn)
  intro state state' alike
  have hread := alike.payload.decode longer enough
  exact hread.2.trans hread.1.symm

theorem ctrlImmune_withSupportedType {value : UInt8} {handle : PldmSupportedType → CtrlCall ℕ}
    (goesOn : ∀ pldmType, CtrlImmune front (handle pldmType)) :
    CtrlImmune front (CtrlCall.withSupportedType value handle) := by
  rw [CtrlCall.withSupportedType]
  cases PldmSupportedType.tryFrom value with
  | error error => exact ctrlImmune_refuse addressed _
  | ok pldmType =>
      apply ctrlImmune_context
      intro context
      split
      · exact ctrlImmune_refuse addressed _
      · exact goesOn pldmType

theorem ctrlImmune_respond (message : List UInt8) :
    CtrlImmune front (CtrlCall.respond (writeToPrefix message)) := by
  intro state state' alike
  have hboth := lockstep_writeToPrefix message state.payload state'.payload alike.payload
  simp only [CtrlCall.respond, Call.attemptOn, Bind.bind, Call.bind]
  generalize writeToPrefix message state.payload = ended at hboth
  generalize writeToPrefix message state'.payload = ended' at hboth
  obtain ⟨outcome, left⟩ := ended
  obtain ⟨outcome', left'⟩ := ended'
  obtain ⟨rfl, hwritten⟩ := hboth
  cases outcome' with
  | ok count => exact ⟨rfl, alike.context, hwritten⟩
  | err error => exact ctrlImmune_refuse addressed _ _ _ ⟨alike.context, hwritten⟩
  | panic => exact ⟨rfl, alike.context, trivial⟩

omit addressed in
theorem ctrlImmune_encode (message : List UInt8) :
    CtrlImmune front (CtrlCall.encode (writeToPrefix message)) :=
  ctrlImmune_onPayload (lockstep_mapErr (lockstep_writeToPrefix message))

/-- The decoder of the handler does not want more than the front of the buffer. -/
def ControlEnough (front : List UInt8) : PldmControlCmd → Prop
  | .setTid => SetTidRequest.decode front ≠ .error .bufferTooShort
  | .getPldmCommands => GetPldmCommandsRequest.decode front ≠ .error .bufferTooShort
  | .getPldmVersion => GetPldmVersionRequest.decode front ≠ .error .bufferTooShort
  | _ => HeaderRequest.decode front ≠ .error .bufferTooShort

theorem controlHandler_immune {cmd : PldmControlCmd} (enough : ControlEnough front cmd) :
    CtrlImmune front (CmdInterface.controlHandler cmd) := by
  cases cmd with
  | getTid =>
      apply ctrlImmune_withRequest addressed HeaderRequest.extends_decode enough
      intro request
      apply ctrlImmune_context
      intro context
      exact ctrlImmune_encode _
  | setTid =>
      apply ctrlImmune_withRequest addressed SetTidRequest.extends_decode enough
      intro request
      apply ctrlImmune_modify
      exact ctrlImmune_encode _
  | getPldmTypes =>
      apply ctrlImmune_withRequest addressed HeaderRequest.extends_decode enough
      intro request
      apply ctrlImmune_context
      intro context
      apply ctrlImmune_built
      intro response
      exact ctrlImmune_encode _
  | getPldmCommands =>
      apply ctrlImmune_withRequest addressed GetPldmCommandsRequest.extends_decode enough
      intro request
      apply ctrlImmune_withSupportedType addressed
      intro pldmType
      apply ctrlImmune_context
      intro context
      split
      · exact ctrlImmune_refuse addressed _
      · apply ctrlImmune_context
        intro context
        cases context.getSupportedCommands pldmType request.protocolVersion with
        | none => exact lockstep_ofOutcome fun _ _ alike => ⟨alike.context, trivial⟩
        | some cmds =>
            apply ctrlImmune_built
            intro response
            exact ctrlImmune_respond addressed _
  | getPldmVersion =>
      apply ctrlImmune_withRequest addressed GetPldmVersionRequest.extends_decode enough
      intro request
      apply ctrlImmune_withSupportedType addressed
      intro pldmType
      split
      · exact ctrlImmune_refuse addressed _
      · apply ctrlImmune_context
        intro context
        cases context.getProtocolVersions pldmType 2 with
        | nil => exact ctrlImmune_refuse addressed _
        | cons version versions => exact ctrlImmune_respond addressed _

end Control

/-! ## Messages and polls -/

/-- Two calls of one interface, whose buffers begin with the same byte of the transport. -/
structure StateAlike (buffers : List UInt8 → List UInt8 → Prop) (state state' : InterfaceState) :
    Prop where
  interface : state'.interface = state.interface
  log : state'.log = state.log
  msgBuf : ∃ first payload payload', state.msgBuf = first :: payload ∧
    state'.msgBuf = first :: payload' ∧ buffers payload payload'

/-- The front of a message is all that the interface and the handler look at. -/
structure Whole (caps : List ProtocolCapability) (front : List UInt8) : Prop where
  addressed : PldmMsgHeader.decode front ≠ .error .bufferTooShort
  control : ∀ cmd, route (.new caps) front = .control cmd → ControlEnough front cmd
  device : ∀ handler, route (.new caps) front = .device handler → handler.Enough front

/-- The number of bytes of a message after a call, with that of the transport. -/
def InterfaceReturned.sent : InterfaceReturned → ℕ
  | .length count => count
  | .request (some count) => pldmMsgOffset + count
  | _ => 0

/-- The call returns the same, leaves the same and sends the same bytes. -/
structure SameAnswer (output output' : InterfaceOutput) : Prop where
  outcome : output'.outcome = output.outcome
  interface : output'.interface = output.interface
  log : output'.log = output.log
  sent : ∀ returned, output.outcome = .ok returned →
    output'.msgBuf.take returned.sent = output.msgBuf.take returned.sent

section Steps

variable {profile : Profile} {caps : List ProtocolCapability} {interface : CmdInterface}
  {ops : FdOps} {first : UInt8} {front payload payload' : List UInt8}

/-- A call of the interface on alike buffers. -/
def InterfaceImmune (front : List UInt8) (call : InterfaceCall ℕ) : Prop :=
  Lockstep (StateAlike (Behind front)) (fun outcome => StateAlike (Written front outcome)) call

theorem immune_onPayload {call : PayloadCall ℕ}
    (lockstep : Lockstep (Behind front) (Written front) call) :
    InterfaceImmune front (InterfaceCall.onPayload call) := by
  apply lockstep_on lockstep
  · intro ⟨_, _, _⟩ ⟨_, _, _⟩ ⟨_, _, first, payload, payload', hbuffer, hbuffer', behind⟩
    subst hbuffer hbuffer'
    exact behind
  · intro outcome ⟨_, _, _⟩ ⟨_, _, _⟩ left left' alike written
    obtain ⟨hinterface, hlog, first, _, _, hbuffer, hbuffer', _⟩ := alike
    subst hbuffer hbuffer'
    exact ⟨hinterface, hlog, first, left, left', rfl, rfl, written⟩

theorem immune_onCtrlCtx {call : CtrlCall ℕ} (immune : CtrlImmune front call) :
    InterfaceImmune front (InterfaceCall.onCtrlCtx call) := by
  apply lockstep_on immune
  · intro ⟨_, _, _⟩ ⟨_, _, _⟩ ⟨hinterface, _, first, _, _, hbuffer, hbuffer', behind⟩
    subst hbuffer hbuffer'
    exact ⟨congrArg CmdInterface.ctrlCtx hinterface, behind⟩
  · intro outcome ⟨_, _, _⟩ ⟨interface, _, _⟩ left left' alike ⟨hcontext, written⟩
    obtain ⟨hinterface, hlog, first, _, _, hbuffer, hbuffer', _⟩ := alike
    subst hbuffer hbuffer' hinterface
    exact ⟨congrArg interface.withCtrlCtx hcontext, hlog, first, _, _, rfl, rfl, written⟩

theorem immune_onFdCtx {call : FdCall ℕ} (immune : Immune front call) :
    InterfaceImmune front (InterfaceCall.onFdCtx call) := by
  apply lockstep_on immune
  · intro ⟨_, _, _⟩ ⟨_, _, _⟩ ⟨hinterface, hlog, first, _, _, hbuffer, hbuffer', behind⟩
    subst hbuffer hbuffer'
    exact ⟨congrArg CmdInterface.fdCtx hinterface, hlog, behind⟩
  · intro outcome ⟨_, _, _⟩ ⟨interface, _, _⟩ left left' alike ⟨hinternal, hlog', written⟩
    obtain ⟨hinterface, _, first, _, _, hbuffer, hbuffer', _⟩ := alike
    subst hbuffer hbuffer' hinterface
    exact ⟨congrArg interface.withFdCtx hinternal, hlog', first, _, _, rfl, rfl, written⟩

/-- Whatever the way of a message is, it is the same for both buffers. -/
theorem route_immune {taken : Route}
    (addressed : PldmMsgHeader.decode front ≠ .error .bufferTooShort)
    (control : ∀ cmd, taken = .control cmd → ControlEnough front cmd)
    (device : ∀ handler, taken = .device handler → handler.Enough front) :
    InterfaceImmune front (taken.call ops) := by
  cases taken with
  | refused code => exact immune_onPayload (lockstep_generateFailureResponse addressed code)
  | control cmd => exact immune_onCtrlCtx (controlHandler_immune addressed (control cmd rfl))
  | device handler => exact immune_onFdCtx (handler_immune addressed (device handler rfl))
  | unserved =>
      apply lockstep_ofOutcome
      intro state state' ⟨hinterface, hlog, first, payload, payload', hbuffer, hbuffer', _⟩
      exact ⟨hinterface, hlog, first, payload, payload', hbuffer, hbuffer', trivial⟩

/-- The way of a message is found in its front. -/
theorem route_of_behind {context : ControlContext}
    (addressed : PldmMsgHeader.decode front ≠ .error .bufferTooShort)
    (behind : Behind front payload payload') :
    route context payload = route context front ∧ route context payload' = route context front := by
  obtain ⟨hread, hread'⟩ := behind.decode PldmMsgHeader.extends_decode addressed
  constructor
  · simp only [route, CmdInterface.preprocessRequest, hread]
  · simp only [route, CmdInterface.preprocessRequest, hread']

/-- The bytes that a call of known length sends. -/
theorem sent_of_written {outcome : Outcome MsgHandlerError ℕ} {state state' : InterfaceState}
    (alike : StateAlike (Written front outcome) state state') {count : ℕ}
    (returned : outcome = .ok count) :
    state'.msgBuf.take (pldmMsgOffset + count) = state.msgBuf.take (pldmMsgOffset + count) := by
  subst returned
  obtain ⟨_, _, first, payload, payload', hbuffer, hbuffer', same⟩ := alike
  rw [hbuffer, hbuffer', pldmMsgOffset, Nat.add_comm, List.take_succ_cons, List.take_succ_cons,
    same]

theorem served_sameAnswer (settled : Settled caps interface) (whole : Whole caps front)
    (behind : Behind front payload payload') :
    SameAnswer (interfaceStep profile interface ⟨.handleResponderMsg (first :: payload), ops⟩)
      (interfaceStep profile interface ⟨.handleResponderMsg (first :: payload'), ops⟩) := by
  obtain ⟨hroute, hroute'⟩ := @route_of_behind _ _ _ interface.ctrlCtx whole.addressed behind
  have hknown : route interface.ctrlCtx front = route (.new caps) front :=
    route_congr settled.tabled front
  have himmune := @route_immune ops front (route interface.ctrlCtx front) whole.addressed
    (fun cmd taken => whole.control cmd (hknown ▸ taken))
    fun handler taken => whole.device handler (hknown ▸ taken)
  have hboth := himmune ⟨{ interface with busy := true }, first :: payload, []⟩
    ⟨{ interface with busy := true }, first :: payload', []⟩
    ⟨rfl, rfl, first, payload, payload', rfl, rfl, behind⟩
  rw [interfaceStep_served settled.idle, interfaceStep_served settled.idle, hroute, hroute']
  dsimp only [outputOf]
  generalize (route interface.ctrlCtx front).call ops
    ⟨{ interface with busy := true }, first :: payload, []⟩ = ended at hboth
  generalize (route interface.ctrlCtx front).call ops
    ⟨{ interface with busy := true }, first :: payload', []⟩ = ended' at hboth
  obtain ⟨outcome, final⟩ := ended
  obtain ⟨outcome', final'⟩ := ended'
  obtain ⟨rfl, halike⟩ := hboth
  refine ⟨rfl, ?_, halike.log, ?_⟩
  · rw [halike.interface]
  · intro returned hreturned
    obtain ⟨count, hcount, rfl⟩ := Outcome.map_eq_ok.mp hreturned
    exact sent_of_written halike hcount

/-- A poll sends the same from any buffer of the same length. -/
theorem polled_sameAnswer {msgBuf msgBuf' : List UInt8} (same : msgBuf'.length = msgBuf.length) :
    SameAnswer (interfaceStep profile interface ⟨.generateInitiatorRequest msgBuf, ops⟩)
      (interfaceStep profile interface ⟨.generateInitiatorRequest msgBuf', ops⟩) := by
  rw [interfaceStep_polled, interfaceStep_polled, constructMctpPldmMsg, constructMctpPldmMsg, same]
  by_cases short : msgBuf.length < 1 + pldmMsgHeaderLen
  · simp only [if_pos short]
    exact ⟨rfl, rfl, rfl, by rintro _ ⟨⟩⟩
  · simp only [if_neg short, outputOf]
    have himmune : InterfaceImmune [] (InterfaceCall.onFdCtx (FdContext.fdProgress profile ops)) :=
      immune_onFdCtx fdProgress_immune
    have hboth := himmune ⟨interface, mctpPldmMsgType :: msgBuf.drop pldmMsgOffset, []⟩
      ⟨interface, mctpPldmMsgType :: msgBuf'.drop pldmMsgOffset, []⟩
      ⟨rfl, rfl, _, _, _, rfl, rfl, _, _, rfl, rfl, by
        rw [List.length_drop, List.length_drop, same]⟩
    generalize InterfaceCall.onFdCtx (FdContext.fdProgress profile ops)
      ⟨interface, mctpPldmMsgType :: msgBuf.drop pldmMsgOffset, []⟩ = ended at hboth
    generalize InterfaceCall.onFdCtx (FdContext.fdProgress profile ops)
      ⟨interface, mctpPldmMsgType :: msgBuf'.drop pldmMsgOffset, []⟩ = ended' at hboth
    obtain ⟨outcome, final⟩ := ended
    obtain ⟨outcome', final'⟩ := ended'
    obtain ⟨rfl, halike⟩ := hboth
    refine ⟨rfl, halike.interface, halike.log, ?_⟩
    intro returned hreturned
    obtain ⟨count, hcount, rfl⟩ := Outcome.map_eq_ok.mp hreturned
    split
    · exact sent_of_written halike hcount
    · rfl

end Steps

/-! ## Conversations -/

/-- Inputs that differ in nothing but what is left over in the buffer: behind a message that
is whole, and anywhere in the buffer of a poll. -/
inductive LeftoverAlike (caps : List ProtocolCapability) : InterfaceInput → InterfaceInput → Prop
  | same (input : InterfaceInput) : LeftoverAlike caps input input
  | message {first : UInt8} {front payload payload' : List UInt8} (ops : FdOps)
      (whole : Whole caps front) (behind : Behind front payload payload') :
      LeftoverAlike caps ⟨.handleResponderMsg (first :: payload), ops⟩
        ⟨.handleResponderMsg (first :: payload'), ops⟩
  | poll {msgBuf msgBuf' : List UInt8} (ops : FdOps) (same : msgBuf'.length = msgBuf.length) :
      LeftoverAlike caps ⟨.generateInitiatorRequest msgBuf, ops⟩
        ⟨.generateInitiatorRequest msgBuf', ops⟩

variable {profile : Profile} {caps : List ProtocolCapability}

theorem interfaceStep_sameAnswer {interface : CmdInterface} {input input' : InterfaceInput}
    (settled : Settled caps interface) (alike : LeftoverAlike caps input input') :
    SameAnswer (interfaceStep profile interface input)
      (interfaceStep profile interface input') := by
  cases alike with
  | same input => exact ⟨rfl, rfl, rfl, fun _ _ => rfl⟩
  | message ops whole behind => exact served_sameAnswer settled whole behind
  | poll ops same => exact polled_sameAnswer same

/-- What is left over in the buffers makes no difference to a run: not to the states that it
goes through, not to what the platform is asked, and not to a byte that is sent. -/
theorem leftovers_ignored {events : List InterfaceEvent} {interface : CmdInterface}
    (trace : InterfaceTrace profile caps events interface) {inputs' : List InterfaceInput}
    (alike : List.Forall₂ (LeftoverAlike caps) (events.map Event.input) inputs') :
    ∃ events', InterfaceTrace profile caps events' interface ∧
      events'.map Event.input = inputs' ∧
      List.Forall₂ (fun event event' => SameAnswer event.output event'.output) events events' := by
  refine System.Trace.follow ?_ trace inputs' alike
  intro events state input input' reached prior hinput live
  have hsame := @interfaceStep_sameAnswer profile caps state input input'
    (settled_of_trace prior) hinput
  obtain ⟨calm, rfl⟩ := interfaceSystem_next live
  refine ⟨?_, hsame⟩
  have hcalm : (interfaceStep profile state input').outcome ≠ .panic := by
    rw [hsame.outcome]
    exact calm
  exact (interfaceSystem_next_of_calm profile caps hcalm).trans (congrArg some hsame.interface)

theorem whole_of_device {front : List UInt8} {handler : Handler}
    (addressed : PldmMsgHeader.decode front ≠ .error .bufferTooShort)
    (routed : route (.new caps) front = .device handler) (enough : handler.Enough front) :
    Whole caps front where
  addressed := addressed
  control := by
    intro cmd taken
    cases routed.symm.trans taken
  device := by
    intro other taken
    cases routed.symm.trans taken
    exact enough

/-- The beginning of an update in a cleared buffer, and in one that is not. -/
theorem leftovers_ignored_beginsUpdate : ∃ events events' interface,
    InterfaceTrace .release bothTable events interface ∧
    InterfaceTrace .release bothTable events' interface ∧
    events.map Event.input = [receiveMctp (Agent.requestUpdate 512 ++ [0, 0]) (platform 0),
      receiveMctp (Agent.passComponentTable ++ [0]) (platform 0)] ∧
    events'.map Event.input = [receiveMctp (Agent.requestUpdate 512 ++ [0xAA, 0xBB]) (platform 0),
      receiveMctp (Agent.passComponentTable ++ [0xCC]) (platform 0)] ∧
    interface.fdCtx.state = .readyXfer ∧
    List.Forall₂ (fun event event' => SameAnswer event.output event'.output) events events' := by
  obtain ⟨events, interface, trace, hinputs, hcheck⟩ := System.exists_of_replay
    (interfaceSystem .release bothTable) (.new bothTable)
    [receiveMctp (Agent.requestUpdate 512 ++ [0, 0]) (platform 0),
      receiveMctp (Agent.passComponentTable ++ [0]) (platform 0)]
    (fun _ interface => interface.fdCtx.state = .readyXfer) (by decide +kernel)
  have hrequest : Whole bothTable (Agent.requestUpdate 512) := by
    refine @whole_of_device bothTable _ .requestUpdate (by decide) (by decide) ?_
    show RequestUpdateRequest.decode _ ≠ _
    decide +kernel
  have hpass : Whole bothTable Agent.passComponentTable := by
    refine @whole_of_device bothTable _ .passComponent (by decide) (by decide) ?_
    show PassComponentTableRequest.decode _ ≠ _
    decide +kernel
  have halike : List.Forall₂ (LeftoverAlike bothTable) (events.map Event.input)
      [receiveMctp (Agent.requestUpdate 512 ++ [0xAA, 0xBB]) (platform 0),
        receiveMctp (Agent.passComponentTable ++ [0xCC]) (platform 0)] := by
    rw [hinputs]
    exact .cons (.message _ hrequest ⟨_, _, rfl, rfl, rfl⟩)
      (.cons (.message _ hpass ⟨_, _, rfl, rfl, rfl⟩) .nil)
  obtain ⟨events', trace', hinputs', hsame⟩ := leftovers_ignored trace halike
  exact ⟨events, events', interface, trace, trace', hinputs, hinputs', of_decide_eq_true hcheck,
    hsame⟩

end PldmLib.Interface
