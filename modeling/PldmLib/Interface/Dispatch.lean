/-
# Runs of the interface are runs of its device

Every call of the interface does at most one call of the device context, on the payload
behind the transport byte. `route` says which one a request leads to; `performed` reads
the call off any event of the interface. What is known of the runs of a device is then
known of the device in a run of the interface.
-/

import PldmLib.FirmwareDevice.Step
import PldmLib.Interface.CmdInterface

namespace PldmLib.Interface

open PldmLib.Machine PldmLib.Protocol PldmLib.Message PldmLib.FirmwareDevice

/-! ## Where a request goes -/

inductive Route
  | refused (completionCode : UInt8)
  | control (cmd : PldmControlCmd)
  | device (handler : Handler)
  /-- A type without a dispatch arm. -/
  | unserved
  deriving DecidableEq, Repr

/-- The way of a request behind the gate. -/
def routeOf (pldmType : PldmSupportedType) (cmdOpcode : UInt8) : Route :=
  match pldmType with
  | .base =>
      match PldmControlCmd.tryFrom cmdOpcode with
      | .ok cmd => .control cmd
      | .error _ => .refused PldmBaseCompletionCode.unsupportedPldmCmd.toU8
  | .fwUpdate =>
      match FwUpdateCmd.tryFrom cmdOpcode with
      | .ok cmd =>
          match CmdInterface.fwUpdateHandler cmd with
          | some handler => .device handler
          | none => .refused PldmBaseCompletionCode.unsupportedPldmCmd.toU8
      | .error _ => .refused PldmBaseCompletionCode.unsupportedPldmCmd.toU8
  | _ => .unserved

def route (context : ControlContext) (payload : List UInt8) : Route :=
  match CmdInterface.preprocessRequest context payload with
  | .error completionCode => .refused completionCode
  | .ok (pldmType, cmdOpcode) => routeOf pldmType cmdOpcode

/-- The command a handler serves. -/
def handledCommand : Handler → FwUpdateCmd
  | .queryDevid => .queryDeviceIdentifiers
  | .getFirmwareParameters => .getFirmwareParameters
  | .requestUpdate => .requestUpdate
  | .passComponent => .passComponentTable
  | .updateComponent => .updateComponent
  | .activateFirmware => .activateFirmware
  | .activatePendingComponentImage => .activatePendingComponentImage
  | .updateSecurityRevision => .updateSecurityRevision
  | .cancelUpdateComponent => .cancelUpdateComponent
  | .cancelUpdate => .cancelUpdate
  | .getStatus => .getStatus

theorem handledCommand_of_fwUpdateHandler {cmd : FwUpdateCmd} {handler : Handler}
    (served : CmdInterface.fwUpdateHandler cmd = some handler) : handledCommand handler = cmd := by
  cases cmd <;> cases served <;> rfl

/-! ### What a route says about its request -/

section Routes

variable {context : ControlContext} {payload : List UInt8}

/-- A request that passes the gate. -/
theorem of_preprocessRequest {pldmType : PldmSupportedType} {cmdOpcode : UInt8}
    (passed : CmdInterface.preprocessRequest context payload = .ok (pldmType, cmdOpcode)) :
    ∃ request, PldmMsgHeader.decode payload = .ok request ∧ request.isRequest = true ∧
      request.isHdrVerValid = true ∧ request.pldmType = pldmType.toU8 ∧
      request.cmdCode = cmdOpcode ∧ context.isSupportedType pldmType = true ∧
      context.isSupportedCommand pldmType cmdOpcode = true := by
  unfold CmdInterface.preprocessRequest at passed
  cases hheader : PldmMsgHeader.decode payload with
  | error error =>
      rw [hheader] at passed
      cases passed
  | ok request =>
      simp only [hheader] at passed
      split at passed
      · cases passed
      · next wellFormed =>
          obtain ⟨hrequest, hversion⟩ :
              request.isRequest = true ∧ request.isHdrVerValid = true := by
            simpa using wellFormed
          cases htype : PldmSupportedType.tryFrom request.pldmType with
          | error error =>
              rw [htype] at passed
              cases passed
          | ok found =>
              simp only [htype] at passed
              split at passed
              · cases passed
              · next typed =>
                  split at passed
                  · next supported =>
                      obtain ⟨rfl, rfl⟩ := Prod.mk.inj (Except.ok.inj passed)
                      exact ⟨request, rfl, hrequest, hversion,
                        (PldmSupportedType.toU8_of_tryFrom htype).symm, rfl, by simpa using typed,
                        supported⟩
                  · cases passed

/-- The gate refuses with a base completion code. -/
theorem code_of_preprocessRequest {completionCode : UInt8}
    (refused : CmdInterface.preprocessRequest context payload = .error completionCode) :
    ∃ code : PldmBaseCompletionCode, completionCode = code.toU8 := by
  unfold CmdInterface.preprocessRequest at refused
  repeat' split at refused
  · exact ⟨.invalidData, (Except.error.inj refused).symm⟩
  · exact ⟨.invalidData, (Except.error.inj refused).symm⟩
  · exact ⟨.invalidPldmType, (Except.error.inj refused).symm⟩
  · exact ⟨.invalidPldmType, (Except.error.inj refused).symm⟩
  · cases refused
  · exact ⟨.unsupportedPldmCmd, (Except.error.inj refused).symm⟩

theorem route_refused {completionCode : UInt8}
    (refused : route context payload = .refused completionCode) :
    ∃ code : PldmBaseCompletionCode, completionCode = code.toU8 := by
  unfold route at refused
  split at refused
  · next gate =>
      cases refused
      exact code_of_preprocessRequest gate
  · unfold routeOf at refused
    repeat' split at refused
    all_goals first
      | exact ⟨.unsupportedPldmCmd, (Route.refused.inj refused).symm⟩
      | cases refused

theorem route_control {cmd : PldmControlCmd} (controls : route context payload = .control cmd) :
    ∃ request, PldmMsgHeader.decode payload = .ok request ∧
      request.pldmType = PldmSupportedType.base.toU8 ∧ request.cmdCode = cmd.toU8 := by
  unfold route at controls
  split at controls
  · cases controls
  · next pldmType cmdOpcode gate =>
      obtain ⟨request, hheader, _, _, htype, hcommand, _⟩ := of_preprocessRequest gate
      unfold routeOf at controls
      repeat' split at controls
      all_goals try cases controls
      next known =>
        exact ⟨request, hheader, htype,
          hcommand.trans (PldmControlCmd.toU8_of_tryFrom known).symm⟩

theorem route_device {handler : Handler} (device : route context payload = .device handler) :
    ∃ request, PldmMsgHeader.decode payload = .ok request ∧
      request.pldmType = PldmSupportedType.fwUpdate.toU8 ∧
      request.cmdCode = (handledCommand handler).toU8 := by
  unfold route at device
  split at device
  · cases device
  · next pldmType cmdOpcode gate =>
      obtain ⟨request, hheader, _, _, htype, hcommand, _⟩ := of_preprocessRequest gate
      unfold routeOf at device
      repeat' split at device
      all_goals try cases device
      next known _ served =>
        rw [← handledCommand_of_fwUpdateHandler served] at known
        exact ⟨request, hheader, htype, hcommand.trans (FwUpdateCmd.toU8_of_tryFrom known).symm⟩

end Routes

/-- The call a route stands for. -/
def Route.call (ops : FdOps) : Route → InterfaceCall ℕ
  | .refused completionCode =>
      InterfaceCall.onPayload (.generateFailureResponse completionCode)
  | .control cmd => InterfaceCall.onCtrlCtx (CmdInterface.controlHandler cmd)
  | .device handler => InterfaceCall.onFdCtx (handler.run ops)
  | .unserved => Call.ofOutcome .panic

/-- No handler reaches the flag. -/
theorem Route.busy_call (ops : FdOps) (taken : Route) (state : InterfaceState) :
    (taken.call ops state).2.interface.busy = state.interface.busy := by
  cases taken <;> rfl

theorem dispatch_eq (ops : FdOps) (pldmType : PldmSupportedType) (cmdOpcode : UInt8) :
    CmdInterface.dispatch ops pldmType cmdOpcode = (routeOf pldmType cmdOpcode).call ops := by
  cases pldmType with
  | base =>
      simp only [CmdInterface.dispatch, CmdInterface.processControlCmd, routeOf]
      cases PldmControlCmd.tryFrom cmdOpcode <;> rfl
  | fwUpdate =>
      simp only [CmdInterface.dispatch, CmdInterface.processFwUpdateCmd, routeOf]
      cases FwUpdateCmd.tryFrom cmdOpcode with
      | error error => rfl
      | ok cmd =>
          dsimp only
          cases CmdInterface.fwUpdateHandler cmd <;> rfl
  | _ => rfl

/-- A call that panics never gets to clear the busy flag. -/
def stuck {ε α : Type} : Outcome ε α → Bool
  | .panic => true
  | _ => false

theorem stuck_eq_false {ε α : Type} {outcome : Outcome ε α} :
    stuck outcome = false ↔ outcome ≠ .panic := by
  cases outcome <;> simp [stuck]

theorem withBusy_eq {state : InterfaceState} {busy : Bool}
    (same : state.interface.busy = busy) :
    { state with interface := { state.interface with busy := busy } } = state := by
  subst same
  rfl

/-- A refusal returns or fails. -/
theorem PayloadCall.generateFailureResponse_ne_panic (completionCode : UInt8)
    (payload : List UInt8) :
    (PayloadCall.generateFailureResponse completionCode payload).1 ≠ .panic := by
  show (PayloadCall.generateFailureResponse completionCode).wp (fun outcome _ => outcome ≠ .panic)
    payload
  simp only [PayloadCall.generateFailureResponse, Call.wp_bind, Call.wp_get]
  cases PldmMsgHeader.decode payload with
  | error error => rintro ⟨⟩
  | ok header =>
      simp only [PayloadCall.encode, Call.wp_mapErr]
      rw [Call.wp_iff, writeToPrefix]
      split <;> rintro ⟨⟩

section Serving

variable {ops : FdOps} {interface : CmdInterface} {log : List Invocation}
  {post : Outcome MsgHandlerError ℕ → InterfaceState → Prop}

theorem wp_attempt (call : InterfaceCall ℕ)
    {post : Outcome MsgHandlerError (Except MsgHandlerError ℕ) → InterfaceState → Prop}
    {state : InterfaceState} : (InterfaceCall.attempt call).wp post state ↔
      call.wp (fun outcome reached =>
        match outcome with
        | .ok value => post (.ok (.ok value)) reached
        | .err error => post (.ok (.error error)) reached
        | .panic => post .panic reached) state := by
  simp only [Call.wp_iff, InterfaceCall.attempt, Call.attemptOn, id]
  rcases call state with ⟨_ | _ | _, reached⟩ <;> rfl

/-- A request to an idle interface is served along its route, and the flag is cleared unless
that panics. -/
theorem handleResponderMsg_rule (idle : interface.busy = false) {first : UInt8}
    {payload : List UInt8}
    (served : ((route interface.ctrlCtx payload).call ops).wp
      (fun outcome reached => post (outcome.map (pldmMsgOffset + ·))
        { reached with interface := { reached.interface with busy := stuck outcome } })
      ⟨{ interface with busy := true }, first :: payload, log⟩) :
    (CmdInterface.handleResponderMsg ops).wp post ⟨interface, first :: payload, log⟩ := by
  simp only [CmdInterface.handleResponderMsg, CmdInterface.processRequest, CmdInterface.serve,
    Call.wp_bind, Call.wp_get, idle, Bool.false_eq_true, ↓reduceIte, InterfaceCall.setBusy,
    Call.wp_update, Call.wp_ite]
  have hroom : ¬ (first :: payload).length < pldmMsgOffset := by simp [pldmMsgOffset]
  rw [if_neg hroom]
  simp only [InterfaceState.payload_cons]
  unfold route at served
  cases hgate : CmdInterface.preprocessRequest interface.ctrlCtx payload with
  | error completionCode =>
      have hcalm := PayloadCall.generateFailureResponse_ne_panic completionCode payload
      simp only [hgate, Route.call, InterfaceCall.onPayload, Call.wp_on,
        InterfaceState.payload_cons, InterfaceState.withPayload_cons] at served
      simp only [Call.wp_bind, Call.wp_update, InterfaceCall.onPayload, Call.wp_on, Call.wp_pure,
        InterfaceState.payload_cons, InterfaceState.withPayload_cons]
      rw [Call.wp_iff] at served ⊢
      cases hrun : (PayloadCall.generateFailureResponse completionCode payload).1 with
      | panic => exact absurd hrun hcalm
      | _ =>
          rw [hrun] at served
          exact served
  | ok passed =>
      obtain ⟨pldmType, cmdOpcode⟩ := passed
      simp only [hgate] at served
      simp only [Call.wp_bind, wp_attempt, dispatch_eq, Call.wp_update]
      rw [Call.wp_iff] at served ⊢
      cases hrun : ((routeOf pldmType cmdOpcode).call ops
        ⟨{ interface with busy := true }, first :: payload, log⟩).1 with
      | panic =>
          have hsame := withBusy_eq (Route.busy_call ops (routeOf pldmType cmdOpcode)
            ⟨{ interface with busy := true }, first :: payload, log⟩)
          rw [hrun] at served
          show post .panic _
          rw [← hsame]
          exact served
      | ok bytes =>
          rw [hrun] at served
          exact served
      | err error =>
          rw [hrun] at served
          exact served

/-- The ways of a message into the interface. -/
theorem handleResponderMsg_cases {msgBuf : List UInt8}
    (turnedAway : interface.busy = true → post (.err .notReady) ⟨interface, msgBuf, log⟩)
    (empty : interface.busy = false → msgBuf = [] →
      post .panic ⟨{ interface with busy := true }, [], log⟩)
    (served : interface.busy = false → ∀ first payload, msgBuf = first :: payload →
      ((route interface.ctrlCtx payload).call ops).wp
        (fun outcome reached => post (outcome.map (pldmMsgOffset + ·))
          { reached with interface := { reached.interface with busy := stuck outcome } })
        ⟨{ interface with busy := true }, first :: payload, log⟩) :
    (CmdInterface.handleResponderMsg ops).wp post ⟨interface, msgBuf, log⟩ := by
  cases hbusy : interface.busy with
  | true =>
      simp only [CmdInterface.handleResponderMsg, CmdInterface.processRequest, Call.wp_bind,
        Call.wp_get, hbusy, ↓reduceIte, Call.wp_fail]
      exact turnedAway hbusy
  | false =>
      cases msgBuf with
      | nil =>
          simp only [CmdInterface.handleResponderMsg, CmdInterface.processRequest,
            CmdInterface.serve, Call.wp_bind, Call.wp_get, hbusy, Bool.false_eq_true, ↓reduceIte,
            InterfaceCall.setBusy, Call.wp_update]
          exact empty hbusy rfl
      | cons first payload => exact handleResponderMsg_rule hbusy (served hbusy first payload rfl)

end Serving

section Initiating

variable {ops : FdOps} {state : InterfaceState}

/-- A poll through the interface runs in a buffer whose first byte has been overwritten. -/
theorem generateInitiatorRequest_rule {profile : Profile}
    {post : Outcome MsgHandlerError (Option ℕ) → InterfaceState → Prop}
    (refused : ∀ error, constructMctpPldmMsg state.msgBuf = .error error →
      post (.err (.util error)) state)
    (polled : ∀ marked, constructMctpPldmMsg state.msgBuf = .ok marked →
      (InterfaceCall.onFdCtx (FdContext.fdProgress profile ops)).wp
        (fun outcome final =>
          post (outcome.map fun count => if 0 < count then some count else none) final)
        { state with msgBuf := marked }) :
    (CmdInterface.generateInitiatorRequest profile ops).wp post state := by
  simp only [CmdInterface.generateInitiatorRequest]
  rw [Call.wp_bind, Call.wp_get]
  dsimp only
  cases hmarked : constructMctpPldmMsg state.msgBuf with
  | error error => exact refused error hmarked
  | ok marked =>
      dsimp only
      rw [Call.wp_bind, Call.wp_update, Call.wp_map]
      exact polled marked hmarked

theorem processInitiatorResponse_rule
    {post : Outcome MsgHandlerError PUnit → InterfaceState → Prop}
    (refused : ∀ error, extractPldmMsg state.msgBuf = .error error →
      post (.err (.util error)) state)
    (heard : ∀ payload, extractPldmMsg state.msgBuf = .ok payload →
      (InterfaceCall.onFdCtx (FdContext.handleResponse ops)).wp post state) :
    (CmdInterface.processInitiatorResponse ops).wp post state := by
  simp only [CmdInterface.processInitiatorResponse]
  rw [Call.wp_bind, Call.wp_get]
  dsimp only
  cases hextract : extractPldmMsg state.msgBuf with
  | error error => exact refused error hextract
  | ok payload => exact heard payload hextract

end Initiating

/-! ## The device behind the interface -/

/-- The call of the device context that a call of the interface makes. -/
def performedOperation (interface : CmdInterface) : InterfaceOperation → Option FdOperation
  | .handleResponderMsg msgBuf =>
      if interface.busy then none
      else
        match msgBuf with
        | [] => none
        | _ :: payload =>
            match route interface.ctrlCtx payload with
            | .device handler => some (.request handler payload)
            | _ => none
  | .generateInitiatorRequest msgBuf =>
      match constructMctpPldmMsg msgBuf with
      | .ok marked => some (.fdProgress (marked.drop pldmMsgOffset))
      | .error _ => none
  | .processInitiatorResponse msgBuf =>
      match extractPldmMsg msgBuf with
      | .ok payload => some (.handleResponse payload)
      | .error _ => none
  | .fdCtx operation => some operation
  | _ => none

/-- The event of the device in an event of the interface. -/
def performed (profile : Profile) (event : InterfaceEvent) : Option FdEvent :=
  (performedOperation event.before event.input.operation).map fun operation =>
    fdEvent profile event.before.fdCtx ⟨operation, event.input.ops⟩

/-- The device state, the callbacks and the panics of a call of the interface are those of
the call of the device context that it makes, if any. -/
structure Performs (profile : Profile) (interface : CmdInterface) (ops : FdOps)
    (operation : Option FdOperation) {α : Type} (outcome : Outcome MsgHandlerError α)
    (fdCtx : FdInternal) (log : List Invocation) : Prop where
  idle : operation = none → fdCtx = interface.fdCtx ∧ log = []
  device : ∀ made, operation = some made →
    fdCtx = (fdStep profile interface.fdCtx ⟨made, ops⟩).internal ∧
      log = (fdStep profile interface.fdCtx ⟨made, ops⟩).log ∧
      ((fdStep profile interface.fdCtx ⟨made, ops⟩).outcome = .panic → outcome = .panic)

section Performing

variable {profile : Profile} {interface : CmdInterface} {ops : FdOps} {α β : Type}

theorem Performs.of_idle {outcome : Outcome MsgHandlerError α} {fdCtx : FdInternal}
    (same : fdCtx = interface.fdCtx) :
    Performs profile interface ops none outcome fdCtx [] :=
  ⟨fun _ => ⟨same, rfl⟩, nofun⟩

/-- A call of the device context whose value is converted. -/
theorem Performs.of_device {made : FdOperation} {call : FdCall α} {convert : α → Returned}
    {outcome : Outcome MsgHandlerError β}
    (runs : made.run profile ops = call >>= fun value => pure (convert value))
    (panics : (call ⟨interface.fdCtx, made.payload, []⟩).1 = .panic → outcome = .panic) :
    Performs profile interface ops (some made) outcome
      (call ⟨interface.fdCtx, made.payload, []⟩).2.internal
      (call ⟨interface.fdCtx, made.payload, []⟩).2.log := by
  refine ⟨nofun, ?_⟩
  rintro _ ⟨⟩
  rw [FdStep.fdStep_eq call convert runs]
  exact ⟨rfl, rfl, fun panicked => panics (Outcome.map_eq_panic.mp panicked)⟩

theorem performs_handleResponderMsg (msgBuf : List UInt8) :
    (CmdInterface.handleResponderMsg ops).wp (fun outcome final =>
      Performs profile interface ops
        (performedOperation interface (.handleResponderMsg msgBuf)) outcome
        final.interface.fdCtx final.log) ⟨interface, msgBuf, []⟩ := by
  apply handleResponderMsg_cases
  · intro busy
    have hnone : performedOperation interface (.handleResponderMsg msgBuf) = none := by
      simp [performedOperation, busy]
    rw [hnone]
    exact .of_idle rfl
  · rintro idle rfl
    have hnone : performedOperation interface (.handleResponderMsg []) = none := by
      simp [performedOperation]
    rw [hnone]
    exact .of_idle rfl
  · rintro idle first payload rfl
    cases hroute : route interface.ctrlCtx payload with
    | device handler =>
        have hmade : performedOperation interface (.handleResponderMsg (first :: payload)) =
            some (.request handler payload) := by
          simp [performedOperation, idle, hroute]
        rw [hmade]
        simp only [Route.call, InterfaceCall.onFdCtx, Call.wp_on, InterfaceState.payload_cons]
        exact Performs.of_device rfl fun panicked => Outcome.map_eq_panic.mpr panicked
    | _ =>
        have hnone : performedOperation interface (.handleResponderMsg (first :: payload)) =
            none := by
          simp [performedOperation, idle, hroute]
        rw [hnone]
        exact .of_idle rfl

/-- An outcome that panics whenever the earlier one did. -/
theorem Performs.mono {operation : Option FdOperation} {outcome : Outcome MsgHandlerError α}
    {later : Outcome MsgHandlerError β} {fdCtx : FdInternal} {log : List Invocation}
    (performs : Performs profile interface ops operation outcome fdCtx log)
    (panics : outcome = .panic → later = .panic) :
    Performs profile interface ops operation later fdCtx log := by
  refine ⟨performs.idle, ?_⟩
  intro made same
  obtain ⟨hfdCtx, hlog, hpanic⟩ := performs.device made same
  exact ⟨hfdCtx, hlog, fun panicked => panics (hpanic panicked)⟩

theorem performs_generateInitiatorRequest (msgBuf : List UInt8) :
    (CmdInterface.generateInitiatorRequest profile ops).wp (fun outcome final =>
      Performs profile interface ops
        (performedOperation interface (.generateInitiatorRequest msgBuf)) outcome
        final.interface.fdCtx final.log) ⟨interface, msgBuf, []⟩ := by
  apply generateInitiatorRequest_rule
  · intro error unmarked
    simp only [performedOperation, unmarked]
    exact .of_idle rfl
  · intro marked hmarked
    simp only [performedOperation, hmarked]
    rw [InterfaceCall.onFdCtx, Call.wp_on]
    exact Performs.of_device rfl fun panicked => Outcome.map_eq_panic.mpr panicked

/-- The message behind the transport byte. -/
theorem eq_drop_of_extractPldmMsg {mctpPayload payload : List UInt8}
    (extracted : extractPldmMsg mctpPayload = .ok payload) :
    payload = mctpPayload.drop pldmMsgOffset := by
  simp only [extractPldmMsg] at extracted
  split at extracted
  · cases extracted
  · split at extracted
    · cases extracted
    · exact (Except.ok.inj extracted).symm

theorem performs_processInitiatorResponse (msgBuf : List UInt8) :
    (CmdInterface.processInitiatorResponse ops).wp (fun outcome final =>
      Performs profile interface ops
        (performedOperation interface (.processInitiatorResponse msgBuf)) outcome
        final.interface.fdCtx final.log) ⟨interface, msgBuf, []⟩ := by
  apply processInitiatorResponse_rule
  · intro error refused
    simp only [performedOperation, refused]
    exact .of_idle rfl
  · intro payload extracted
    simp only [performedOperation, extracted]
    rw [eq_drop_of_extractPldmMsg extracted]
    simp only [InterfaceCall.onFdCtx, Call.wp_on]
    have hruns : (FdOperation.handleResponse (msgBuf.drop pldmMsgOffset)).run profile ops =
        FdContext.handleResponse ops >>= fun _ => pure .done := rfl
    exact Performs.of_device hruns id

theorem performs_interfaceStep (input : InterfaceInput) :
    Performs profile interface input.ops (performedOperation interface input.operation)
      (interfaceStep profile interface input).outcome
      (interfaceStep profile interface input).interface.fdCtx
      (interfaceStep profile interface input).log := by
  obtain ⟨operation, ops⟩ := input
  show (operation.run profile ops).wp (fun outcome final =>
    Performs profile interface ops (performedOperation interface operation) outcome
      final.interface.fdCtx final.log) ⟨interface, operation.msgBuf, []⟩
  cases operation with
  | handleResponderMsg msgBuf =>
      simp only [InterfaceOperation.run]
      rw [Call.wp_map]
      exact Call.wp_mono (performs_handleResponderMsg msgBuf) fun _ _ performs =>
        performs.mono Outcome.map_eq_panic.mpr
  | generateInitiatorRequest msgBuf =>
      simp only [InterfaceOperation.run]
      rw [Call.wp_map]
      exact Call.wp_mono (performs_generateInitiatorRequest msgBuf) fun _ _ performs =>
        performs.mono Outcome.map_eq_panic.mpr
  | processInitiatorResponse msgBuf =>
      simp only [InterfaceOperation.run]
      rw [Call.wp_map]
      exact Call.wp_mono (performs_processInitiatorResponse msgBuf) fun _ _ performs =>
        performs.mono Outcome.map_eq_panic.mpr
  | fdCtx operation =>
      simp only [InterfaceOperation.run]
      rw [Call.wp_map, InterfaceCall.onFdCtx, Call.wp_on]
      exact ⟨nofun, fun made same => by
        obtain rfl := Option.some.inj same
        exact ⟨rfl, rfl, Outcome.map_eq_panic.mpr⟩⟩
  | isUpdateMode => exact .of_idle rfl
  | setTid tid => exact .of_idle rfl

end Performing

/-! ## Runs -/

/-- A call that does not panic leaves the busy flag as it found it. -/
theorem interfaceStep_busy {profile : Profile} {interface : CmdInterface} (input : InterfaceInput)
    (live : (interfaceStep profile interface input).outcome ≠ .panic) :
    (interfaceStep profile interface input).interface.busy = interface.busy := by
  obtain ⟨operation, ops⟩ := input
  revert live
  show (operation.run profile ops).wp (fun outcome final => outcome ≠ .panic →
    final.interface.busy = interface.busy) ⟨interface, operation.msgBuf, []⟩
  cases operation with
  | handleResponderMsg msgBuf =>
      simp only [InterfaceOperation.run]
      rw [Call.wp_map]
      apply handleResponderMsg_cases
      · exact fun _ _ => rfl
      · exact fun _ _ live => absurd rfl live
      · intro idle first payload _
        rw [Call.wp_iff]
        intro live
        rw [idle]
        refine stuck_eq_false.mpr fun panicked => live ?_
        rw [panicked]
        rfl
  | generateInitiatorRequest msgBuf =>
      simp only [InterfaceOperation.run]
      rw [Call.wp_map]
      apply generateInitiatorRequest_rule
      · exact fun _ _ _ => rfl
      · exact fun _ _ _ => rfl
  | processInitiatorResponse msgBuf =>
      simp only [InterfaceOperation.run]
      rw [Call.wp_map]
      apply processInitiatorResponse_rule
      · exact fun _ _ _ => rfl
      · exact fun _ _ _ => rfl
  | fdCtx operation =>
      simp only [InterfaceOperation.run]
      rw [Call.wp_map]
      exact fun _ => rfl
  | isUpdateMode => exact fun _ => rfl
  | setTid tid => exact fun _ => rfl

section Runs

variable {profile : Profile} {caps : List ProtocolCapability} {interface : CmdInterface}
  {events : List InterfaceEvent}

theorem interfaceSystem_next {output : InterfaceOutput} {reached : CmdInterface}
    (live : (interfaceSystem profile caps).next output = some reached) :
    output.outcome ≠ .panic ∧ reached = output.interface := by
  simp only [interfaceSystem] at live
  split at live
  · cases live
  · next calm => exact ⟨calm, (Option.some.inj live).symm⟩

/-- A call that returns finds the interface idle. -/
theorem InterfaceTrace.idle (trace : InterfaceTrace profile caps events interface) :
    interface.busy = false := by
  apply System.Trace.state_invariant (fun interface => interface.busy = false) rfl _ trace
  intro interface input reached idle live
  obtain ⟨calm, rfl⟩ := interfaceSystem_next live
  exact (interfaceStep_busy input calm).trans idle

/-- The device in a run of the interface makes a run of its own. -/
theorem InterfaceTrace.device (trace : InterfaceTrace profile caps events interface) :
    FdTrace profile (events.filterMap (performed profile)) interface.fdCtx := by
  apply System.Trace.invariant (fun events (interface : CmdInterface) =>
    FdTrace profile (events.filterMap (performed profile)) interface.fdCtx) .start _ trace
  intro events interface input reached _ device live
  obtain ⟨calm, rfl⟩ := interfaceSystem_next live
  have hperforms := @performs_interfaceStep profile interface input
  have hperformed : performed profile ((interfaceSystem profile caps).event interface input) =
      (performedOperation interface input.operation).map fun operation =>
        fdEvent profile interface.fdCtx ⟨operation, input.ops⟩ := rfl
  rw [List.filterMap_append]
  cases hoperation : performedOperation interface input.operation with
  | none =>
      rw [hoperation] at hperforms hperformed
      simp only [List.filterMap_cons, hperformed, Option.map_none, List.filterMap_nil,
        List.append_nil]
      exact (hperforms.idle rfl).1 ▸ device
  | some operation =>
      rw [hoperation] at hperforms hperformed
      obtain ⟨hfdCtx, _, hpanic⟩ := hperforms.device operation rfl
      simp only [List.filterMap_cons, hperformed, Option.map_some, List.filterMap_nil]
      show FdTrace profile _ (interfaceStep profile interface input).interface.fdCtx
      rw [hfdCtx]
      exact FdRun.extend device _ fun panicked => calm (hpanic panicked)

end Runs

end PldmLib.Interface
