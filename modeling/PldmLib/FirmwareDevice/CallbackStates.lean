/-
# The states of the callbacks

Each callback of the platform belongs to a state of the update, and the ones that work on
the active component are told which one it is. The active component is the one of the last
`UpdateComponent` request that the device took up: it takes one up in `ReadyXfer` only,
if the request can be decoded, and whether or not the platform then accepts the component.
-/

import PldmLib.FirmwareDevice.Session
import PldmLib.FirmwareDevice.StateMachine

namespace PldmLib.FirmwareDevice

open PldmLib.Machine PldmLib.Protocol PldmLib.Message

/-! ## The rules -/

/-- The component of a request that the device takes up. -/
def FdEvent.takenUp (event : FdEvent) : Option FirmwareComponent :=
  match event.input.operation with
  | .request .updateComponent payload =>
      if event.before.state = .readyXfer then
        match UpdateComponentRequest.decode payload with
        | .ok request => some (FdContext.describedComponent request)
        | .error _ => none
      else none
  | _ => none

/-- What is taken up of a request that arrives in `ReadyXfer`. -/
theorem FdEvent.takenUp_of_ready {event : FdEvent} {payload : List UInt8}
    (called : event.input.operation = .request .updateComponent payload)
    (ready : event.before.state = .readyXfer) :
    event.takenUp = match UpdateComponentRequest.decode payload with
      | .ok request => some (FdContext.describedComponent request)
      | .error _ => none := by
  rw [FdEvent.takenUp, called]
  exact if_pos ready

theorem FdEvent.takenUp_of_elsewhere {event : FdEvent}
    (elsewhere : event.before.state ≠ .readyXfer) : event.takenUp = none := by
  unfold FdEvent.takenUp
  split
  · exact if_neg elsewhere
  · rfl

/-- The component that was taken up last. -/
def lastTakenUp (events : List FdEvent) : Option FirmwareComponent :=
  (events.filterMap FdEvent.takenUp).getLast?

/-- A callback that the documentation allows in a call: in its state, and on the active
component if it takes one. -/
def Callback.Documented (active : FirmwareComponent → Prop) (event : FdEvent) :
    Callback → Prop
  | .handleComponent _ .passComponent _ => event.before.state = .learnComponents
  | .handleComponent component .updateComponent _ =>
      event.before.state = .readyXfer ∧ event.takenUp = some component
  | .activate _ _ => event.before.state = .readyXfer
  | .queryDownloadOffsetAndLength component _ => event.before.state = .download ∧ active component
  | .downloadFwData _ _ component _ => event.before.state = .download ∧ active component
  | .isDownloadComplete component _ => event.before.state = .download ∧ active component
  | .queryDownloadProgress component => event.before.state = .download ∧ active component
  | .verify component _ => event.before.state = .verify ∧ active component
  | .apply component _ => event.before.state = .apply ∧ active component
  | .cancelUpdateComponent component _ =>
      event.before.state.isInitiator = true ∧ active component
  | .handlePendingComponent component _ => event.before.state = .idle ∧
      component.classification ≠ ComponentClassification.downstreamDevice ∧
      event.after = event.before
  | .updateSecurityRevision component _ => event.before.state = .idle ∧
      component.classification ≠ ComponentClassification.downstreamDevice ∧
      event.after = event.before
  | _ => True

/-- All callbacks of a call are allowed. -/
def CallsAsDocumented (active : FirmwareComponent → Prop) (event : FdEvent) : Prop :=
  ∀ callback ∈ event.callbacks, callback.Documented active event

/-- It is the same whatever the active component is called by. -/
theorem CallsAsDocumented.mono {active known : FirmwareComponent → Prop} {event : FdEvent}
    (calls : CallsAsDocumented active event)
    (same : event.before.state.isInitiator = true →
      ∀ component, active component → known component) :
    CallsAsDocumented known event := by
  intro callback member
  have hallowed := calls callback member
  have hactive {state : FirmwareDeviceState} {component : FirmwareComponent}
      (initiator : state.isInitiator = true)
      (allowed : event.before.state = state ∧ active component) :
      event.before.state = state ∧ known component :=
    ⟨allowed.1, same (by rw [allowed.1]; exact initiator) component allowed.2⟩
  cases callback with
  | queryDownloadOffsetAndLength => exact hactive rfl hallowed
  | downloadFwData => exact hactive rfl hallowed
  | isDownloadComplete => exact hactive rfl hallowed
  | queryDownloadProgress => exact hactive rfl hallowed
  | verify => exact hactive rfl hallowed
  | apply => exact hactive rfl hallowed
  | cancelUpdateComponent => exact ⟨hallowed.1, same hallowed.1 _ hallowed.2⟩
  | handleComponent component operation => cases operation <;> exact hallowed
  | _ => exact hallowed

/-! ## The handlers -/

section Handlers

open FdContext

variable {ops : FdOps} {payload : List UInt8} {pre : FdInternal}

/-- The postcondition of a handler: its callbacks are allowed. -/
def Documents (handler : Handler) (ops : FdOps) (payload : List UInt8) (pre : FdInternal)
    (final : CallState) : Prop :=
  ∀ callback ∈ final.log.map Invocation.callback, ∀ output : FdOutput,
    output.internal = final.internal →
    callback.Documented (· = pre.updateComp) ⟨pre, ⟨.request handler payload, ops⟩, output⟩

/-- The callbacks so far are allowed, whatever the call goes on to change. -/
def AllDocumented (handler : Handler) (ops : FdOps) (payload : List UInt8) (pre : FdInternal)
    (log : List Invocation) : Prop :=
  ∀ post final, Documents handler ops payload pre ⟨post, final, log⟩

/-- What remains of a handler after allowed callbacks makes only allowed ones. -/
def DocumentsFrom (handler : Handler) (ops : FdOps) (payload : List UInt8) (pre : FdInternal)
    (call : FdCall ℕ) (between : FdInternal) (log : List Invocation) : Prop :=
  AllDocumented handler ops payload pre log →
    call.wp (fun _ final => Documents handler ops payload pre final) ⟨between, payload, log⟩

section Steps

variable {handler : Handler} {between : FdInternal} {log : List Invocation} {α β : Type}

theorem allDocumented_nil : AllDocumented handler ops payload pre [] := by
  rintro _ _ callback ⟨⟩

theorem documents_concat {callback : Callback} {time : PldmFdTime} {post : FdInternal}
    {final : List UInt8} (documented : Documents handler ops payload pre ⟨post, final, log⟩)
    (allowed : ∀ output : FdOutput, output.internal = post →
      callback.Documented (· = pre.updateComp) ⟨pre, ⟨.request handler payload, ops⟩, output⟩) :
    Documents handler ops payload pre ⟨post, final, log ++ [⟨callback, time⟩]⟩ := by
  intro asked member output left
  rw [List.map_append, List.mem_append] at member
  rcases member with earlier | last
  · exact documented asked earlier output left
  · obtain rfl := List.mem_singleton.mp last
    exact allowed output left

theorem allDocumented_concat {callback : Callback} (time : PldmFdTime)
    (documented : AllDocumented handler ops payload pre log)
    (allowed : ∀ output, callback.Documented (· = pre.updateComp)
      ⟨pre, ⟨.request handler payload, ops⟩, output⟩) :
    AllDocumented handler ops payload pre (log ++ [⟨callback, time⟩]) :=
  fun post final => documents_concat (documented post final) fun output _ => allowed output

theorem DocumentsFrom.start {call : FdCall ℕ}
    (documents : DocumentsFrom handler ops payload pre call pre []) :
    call.wp (fun _ final => Documents handler ops payload pre final) ⟨pre, payload, []⟩ :=
  documents allDocumented_nil

theorem documentsFrom_internal {next : FdInternal → FdCall ℕ}
    (goesOn : DocumentsFrom handler ops payload pre (next between) between log) :
    DocumentsFrom handler ops payload pre (FdCall.internal >>= next) between log := goesOn

theorem documentsFrom_modify {change : FdInternal → FdInternal} {next : PUnit → FdCall ℕ}
    (goesOn : DocumentsFrom handler ops payload pre (next ⟨⟩) (change between) log) :
    DocumentsFrom handler ops payload pre (FdCall.modify change >>= next) between log := goesOn

theorem documentsFrom_setFdT1Ts {next : PUnit → FdCall ℕ}
    (goesOn : DocumentsFrom handler ops payload pre (next ⟨⟩)
      (between.setFdT1UpdateTs (ops.now log.length)) (log ++ [⟨.now, ops.now log.length⟩])) :
    DocumentsFrom handler ops payload pre (FdCall.setFdT1Ts ops >>= next) between log :=
  fun documented => goesOn (allDocumented_concat _ documented fun _ => trivial)

/-- A callback whose error the handler returns. -/
theorem documentsFrom_ask {callback : Callback} {result : Except FdOpsError α}
    {next : α → FdCall ℕ}
    (allowed : ∀ output, callback.Documented (· = pre.updateComp)
      ⟨pre, ⟨.request handler payload, ops⟩, output⟩)
    (goesOn : ∀ value, DocumentsFrom handler ops payload pre (next value) between
      (log ++ [⟨callback, ops.now log.length⟩])) :
    DocumentsFrom handler ops payload pre
      (FdCall.invoke ops callback >>= fun _ => FdCall.ofOps result >>= next) between log := by
  intro documented
  have hasked := allDocumented_concat (ops.now log.length) documented allowed
  simp only [Call.wp_bind, FdCall.wp_invoke]
  apply FdCall.ofOps_rule
  · exact fun value _ => goesOn value hasked
  · exact fun _ _ => hasked _ _

/-- A cancellation, before the response to it. -/
theorem documentsFrom_cancelComponent {next : PUnit → FdCall ℕ}
    (active : pre.state.isInitiator = true) (same : between.updateComp = pre.updateComp)
    (goesOn : ∀ log, DocumentsFrom handler ops payload pre (next ⟨⟩) between log) :
    DocumentsFrom handler ops payload pre (cancelComponent ops >>= next) between log := by
  intro documented
  have hasked (result : Except FdOpsError Unit) (time : PldmFdTime) :
      AllDocumented handler ops payload pre
        (log ++ [⟨.cancelUpdateComponent between.updateComp result, time⟩]) := by
    apply allDocumented_concat time documented
    exact fun _ => ⟨active, same⟩
  rw [Call.wp_bind]
  apply RequestStep.cancelComponent_rule
  · exact fun _ => goesOn _ (hasked _ _)
  · exact fun _ _ => hasked _ _ _ _

theorem documentsFrom_fail (error : MsgHandlerError) :
    DocumentsFrom handler ops payload pre (Call.fail error) between log :=
  fun documented => documented _ _

theorem documentsFrom_refuse (code : UInt8) : DocumentsFrom handler ops payload pre
    (FdCall.generateFailureResponse code) between log :=
  fun documented => FdCall.generateFailureResponse_rule fun _ _ => documented _ _

theorem documentsFrom_respond (encoder : Encoder) (commit : FdInternal → FdInternal) :
    DocumentsFrom handler ops payload pre (FdCall.respond encoder commit) between log :=
  fun documented => FdCall.respond_rule (fun _ _ _ => documented _ _) fun _ _ _ => documented _ _

theorem documentsFrom_withRequest {decode : List UInt8 → Except PldmCodecError β}
    {handle : β → FdCall ℕ}
    (goesOn : ∀ request, decode payload = .ok request →
      DocumentsFrom handler ops payload pre (handle request) between log) :
    DocumentsFrom handler ops payload pre (FdCall.withRequest decode handle) between log := by
  intro documented
  apply FdCall.withRequest_rule
  · exact fun _ _ _ _ => documented _ _
  · exact fun request decoded => goesOn request decoded documented

/-- A callback that needs the device unchanged, and a response that changes nothing. -/
theorem documentsFrom_answer {callback : Callback} {result : Except FdOpsError α}
    {encoder : α → Encoder}
    (allowed : ∀ output : FdOutput, output.internal = between →
      callback.Documented (· = pre.updateComp) ⟨pre, ⟨.request handler payload, ops⟩, output⟩) :
    DocumentsFrom handler ops payload pre
      (FdCall.invoke ops callback >>= fun _ => FdCall.ofOps result >>= fun value =>
        FdCall.respond (encoder value) id) between log := by
  intro documented
  have hasked (final : List UInt8) : Documents handler ops payload pre
      ⟨between, final, log ++ [⟨callback, ops.now log.length⟩]⟩ :=
    documents_concat (documented between final) allowed
  simp only [Call.wp_bind, FdCall.wp_invoke]
  apply FdCall.ofOps_rule
  · intro value _
    exact FdCall.respond_rule (fun _ _ _ => hasked _) fun _ _ _ => hasked _
  · exact fun _ _ => hasked _

end Steps

theorem queryDevidRsp_documents {log : List Invocation} :
    DocumentsFrom .queryDevid ops payload pre (queryDevidRsp ops) pre log := by
  apply documentsFrom_withRequest
  intro request _
  apply documentsFrom_ask
  · exact fun _ => trivial
  rintro ⟨descriptors, count⟩
  dsimp only
  split
  · exact documentsFrom_fail _
  · cases QueryDeviceIdentifiersResponse.new request.hdr.instanceId
      PldmBaseCompletionCode.success.toU8 descriptors.head
      (some ((descriptors.toList.take count).drop 1)) with
    | error error => exact documentsFrom_fail _
    | ok response => exact documentsFrom_respond _ _

theorem getFirmwareParametersRsp_documents {log : List Invocation} :
    DocumentsFrom .getFirmwareParameters ops payload pre (getFirmwareParametersRsp ops)
      pre log := by
  apply documentsFrom_withRequest
  intro request _
  apply documentsFrom_ask
  · exact fun _ => trivial
  intro params
  exact documentsFrom_respond _ _

theorem requestUpdateRsp_documents {log : List Invocation} :
    DocumentsFrom .requestUpdate ops payload pre (requestUpdateRsp ops) pre log := by
  apply documentsFrom_internal
  split
  · exact documentsFrom_refuse _
  · apply documentsFrom_setFdT1Ts
    apply documentsFrom_withRequest
    intro request _
    dsimp only
    split
    · exact documentsFrom_refuse _
    · apply documentsFrom_ask
      · exact fun _ => trivial
      intro size
      exact documentsFrom_respond _ _

theorem passComponentRsp_documents {log : List Invocation} :
    DocumentsFrom .passComponent ops payload pre (passComponentRsp ops) pre log := by
  apply documentsFrom_internal
  split
  · exact documentsFrom_refuse _
  · next learning =>
      rw [not_not] at learning
      apply documentsFrom_setFdT1Ts
      apply documentsFrom_withRequest
      intro request _
      split
      · exact documentsFrom_refuse _
      · apply documentsFrom_ask
        · exact fun _ => trivial
        intro params
        apply documentsFrom_ask
        · exact fun _ => learning
        intro code
        exact documentsFrom_respond _ _

theorem updateComponentRsp_documents {log : List Invocation} :
    DocumentsFrom .updateComponent ops payload pre (updateComponentRsp ops) pre log := by
  apply documentsFrom_internal
  split
  · exact documentsFrom_refuse _
  · next ready =>
      rw [not_not] at ready
      apply documentsFrom_setFdT1Ts
      apply documentsFrom_withRequest
      intro request decoded
      have htaken (output : FdOutput) : FdEvent.takenUp
          ⟨pre, ⟨.request .updateComponent payload, ops⟩, output⟩ =
            some (describedComponent request) := by
        rw [FdEvent.takenUp_of_ready rfl ready, decoded]
      apply documentsFrom_modify
      apply documentsFrom_modify
      apply documentsFrom_ask
      · exact fun _ => trivial
      intro params
      apply documentsFrom_ask
      · exact fun output => ⟨ready, htaken output⟩
      intro code
      cases ComponentCompatibilityResponseCode.tryFrom code.toU8 with
      | error error => exact fun documented => documented _ _
      | ok compatibility => exact documentsFrom_respond _ _

theorem activateFirmwareRsp_documents {log : List Invocation} :
    DocumentsFrom .activateFirmware ops payload pre (activateFirmwareRsp ops) pre log := by
  apply documentsFrom_internal
  split
  · exact documentsFrom_refuse _
  · next ready =>
      rw [not_not] at ready
      apply documentsFrom_withRequest
      intro request _
      dsimp only
      split
      · exact documentsFrom_refuse _
      · apply documentsFrom_ask
        · exact fun _ => ready
        rintro ⟨code, time⟩
        exact documentsFrom_respond _ _

/-- The commands served while idle ask the platform about a component of the device itself. -/
theorem componentCommandRsp_documents {handler : Handler}
    {handle : ComponentRequest → FirmwareParameters → FdCall ℕ} {log : List Invocation}
    (handled : ∀ request params log, pre.state = .idle →
      request.compClassification ≠ ComponentClassification.downstreamDevice →
      DocumentsFrom handler ops payload pre (handle request params) pre log) :
    DocumentsFrom handler ops payload pre
      (componentCommandRsp ops ComponentRequest.decode handle) pre log := by
  apply documentsFrom_internal
  split
  · exact documentsFrom_refuse _
  · next idle =>
      rw [not_not] at idle
      apply documentsFrom_withRequest
      intro request _
      split
      · exact documentsFrom_refuse _
      · next own =>
          apply documentsFrom_ask
          · exact fun _ => trivial
          exact fun params => handled request params _ idle own

theorem activatePendingComponentImageRsp_documents {log : List Invocation} :
    DocumentsFrom .activatePendingComponentImage ops payload pre
      (activatePendingComponentImageRsp ops) pre log := by
  apply componentCommandRsp_documents
  intro request params log idle own
  exact documentsFrom_answer fun _ unchanged => ⟨idle, own, unchanged⟩

theorem updateSecurityRevisionRsp_documents {log : List Invocation} :
    DocumentsFrom .updateSecurityRevision ops payload pre (updateSecurityRevisionRsp ops)
      pre log := by
  apply componentCommandRsp_documents
  intro request params log idle own
  exact documentsFrom_answer fun _ unchanged => ⟨idle, own, unchanged⟩

theorem cancelUpdateComponentRsp_documents {log : List Invocation} :
    DocumentsFrom .cancelUpdateComponent ops payload pre (cancelUpdateComponentRsp ops)
      pre log := by
  apply documentsFrom_internal
  split
  · exact documentsFrom_refuse _
  · apply documentsFrom_internal
    cases asked : shouldCancel pre with
    | none => exact documentsFrom_refuse _
    | some cancel =>
        have hactive := isInitiator_of_shouldCancel asked
        have hanswer (log : List Invocation) : DocumentsFrom .cancelUpdateComponent ops payload pre
            (answerCancelUpdateComponent cancel) pre log :=
          documentsFrom_withRequest fun _ _ => documentsFrom_respond _ _
        cases cancel with
        | true => exact documentsFrom_cancelComponent hactive rfl fun log => hanswer log
        | false => exact hanswer log

theorem cancelUpdateRsp_documents {log : List Invocation} :
    DocumentsFrom .cancelUpdate ops payload pre (cancelUpdateRsp ops) pre log := by
  apply documentsFrom_internal
  split
  · exact documentsFrom_refuse _
  · apply documentsFrom_setFdT1Ts
    have hasked (time : PldmFdTime) :
        shouldCancel (pre.setFdT1UpdateTs time) = shouldCancel pre := rfl
    have hanswer (cancel : Bool) (time : PldmFdTime) (log : List Invocation) :
        DocumentsFrom .cancelUpdate ops payload pre (answerCancelUpdate ops cancel)
          (pre.setFdT1UpdateTs time) log := by
      apply documentsFrom_withRequest
      intro request _
      apply documentsFrom_ask
      · exact fun _ => trivial
      exact fun info => documentsFrom_respond _ _
    apply documentsFrom_internal
    rw [hasked]
    cases asked : shouldCancel pre with
    | none => exact hanswer false _ _
    | some cancel =>
        cases cancel with
        | true =>
            exact documentsFrom_cancelComponent (isInitiator_of_shouldCancel asked) rfl
              fun log => hanswer true _ log
        | false => exact hanswer false _ _

theorem getStatusRsp_documents {log : List Invocation} :
    DocumentsFrom .getStatus ops payload pre (getStatusRsp ops) pre log := by
  apply documentsFrom_withRequest
  intro request _ documented
  rw [Call.wp_bind]
  apply statusProgress_rule
  · intro downloading progress
    apply documentsFrom_respond
    apply allDocumented_concat _ documented
    exact fun _ => ⟨downloading, rfl⟩
  · intro _ progress _
    apply documentsFrom_respond
    exact documented
  · exact fun _ _ _ => documented _ _

theorem handler_documents (handler : Handler) : (handler.run ops).wp
    (fun _ final => Documents handler ops payload pre final) ⟨pre, payload, []⟩ := by
  apply DocumentsFrom.start
  cases handler with
  | queryDevid => exact queryDevidRsp_documents
  | getFirmwareParameters => exact getFirmwareParametersRsp_documents
  | requestUpdate => exact requestUpdateRsp_documents
  | passComponent => exact passComponentRsp_documents
  | updateComponent => exact updateComponentRsp_documents
  | activateFirmware => exact activateFirmwareRsp_documents
  | activatePendingComponentImage => exact activatePendingComponentImageRsp_documents
  | updateSecurityRevision => exact updateSecurityRevisionRsp_documents
  | cancelUpdateComponent => exact cancelUpdateComponentRsp_documents
  | cancelUpdate => exact cancelUpdateRsp_documents
  | getStatus => exact getStatusRsp_documents

end Handlers

/-! ## The calls -/

/-- A callback for work, or a look at the clock. -/
def Callback.isWorkOrNow (callback : Callback) : Bool := callback.isWork || callback = .now

/-- A poll reads the clock and asks for work. -/
theorem PollStep.isWorkOrNow {profile : Profile} {ops : FdOps} {payload : List UInt8}
    {pre post : FdInternal} {outcome : Outcome MsgHandlerError ℕ} {log : List Invocation}
    {sent : Option FdRequest}
    (step : PollStep profile ops payload pre outcome post log sent) :
    (log.map Invocation.callback).all Callback.isWorkOrNow = true := by
  have hgates : ((gates ops pre).map Invocation.callback).all Callback.isWorkOrNow = true := by
    unfold gates listened
    split <;> rfl
  have hwork (kind : OperationKind) :
      (kind.callback ops pre.updateComp).isWorkOrNow = true := by
    cases kind <;> rfl
  cases step with
  | inactive => rfl
  | timedOut => rfl
  | timeoutRefused => rfl
  | _ =>
      simp only [List.map_append, List.all_append, hgates, List.map_cons, List.map_nil,
        List.all_cons, List.all_nil, hwork]
      try rfl

theorem ResponseStep.isWorkOrNow {ops : FdOps} {payload : List UInt8}
    {pre post : FdInternal} {outcome : Outcome MsgHandlerError PUnit} {log : List Invocation}
    (step : ResponseStep ops payload pre outcome post log) :
    (log.map Invocation.callback).all Callback.isWorkOrNow = true := by
  cases step <;> rfl

section Calls

variable {profile : Profile} {events : List FdEvent} {state : FdInternal}

/-- Work that is allowed makes the call allowed, when all else is the clock. -/
theorem callsAsDocumented_of_works {active : FirmwareComponent → Prop} {event : FdEvent}
    (all : (event.log.map Invocation.callback).all Callback.isWorkOrNow = true)
    (allowed : ∀ callback ∈ works event.log, callback.Documented active event) :
    CallsAsDocumented active event := by
  intro callback member
  rcases Bool.or_eq_true_iff.mp (List.all_eq_true.mp all callback member) with work | now
  · exact allowed callback ((mem_works work).mp member)
  · rw [of_decide_eq_true now]
    exact trivial

theorem FdTrace.documents_poll (trace : FdTrace profile events state) (payload : List UInt8)
    (ops : FdOps) :
    CallsAsDocumented (· = state.updateComp)
      (fdEvent profile state ⟨.fdProgress payload, ops⟩) := by
  obtain ⟨outcome, _, step⟩ := (trace.step ⟨.fdProgress payload, ops⟩).of_poll
  apply callsAsDocumented_of_works step.isWorkOrNow
  intro callback member
  rw [FdEvent.log] at member
  rcases step.works_eq with hnone | ⟨answer, active, _, _, _, hcancel⟩ |
    ⟨answer, downloading, _, _, _, hquery⟩ | ⟨kind, operating, _, _, hcallback⟩
  · rw [hnone] at member
    cases member
  · rw [hcancel, List.mem_singleton] at member
    rw [member]
    exact ⟨active, rfl⟩
  · rw [hquery, List.mem_singleton] at member
    rw [member]
    exact ⟨downloading, rfl⟩
  · rw [hcallback, List.mem_singleton] at member
    rw [member]
    cases kind with
    | verify => exact ⟨operating, rfl⟩
    | apply => exact ⟨operating, rfl⟩

/-- Data is handed over in a download. -/
theorem ResponseStep.state_of_works {ops : FdOps} {payload : List UInt8} {pre post : FdInternal}
    {outcome : Outcome MsgHandlerError PUnit} {log : List Invocation}
    (step : ResponseStep ops payload pre outcome post log) {callback : Callback}
    (member : callback ∈ works log) : pre.state = .download := by
  cases step with
  | dataRefused _ delivery => exact delivery.state
  | dataRejected _ delivery => exact delivery.state
  | dataStored _ delivery => exact delivery.state
  | dataCompleted _ delivery => exact delivery.state
  | transferAborted _ state => exact state
  | _ => cases member

theorem FdTrace.documents_response (trace : FdTrace profile events state)
    (payload : List UInt8) (ops : FdOps) :
    CallsAsDocumented (· = state.updateComp)
      (fdEvent profile state ⟨.handleResponse payload, ops⟩) := by
  obtain ⟨_, outcome, _, step⟩ := (trace.step ⟨.handleResponse payload, ops⟩).of_response
  apply callsAsDocumented_of_works step.isWorkOrNow
  intro callback member
  have hdownload := step.state_of_works member
  rcases step.works_eq callback member with ⟨offset, data, result, rfl⟩ | ⟨result, rfl⟩
  · exact ⟨hdownload, rfl⟩
  · exact ⟨hdownload, rfl⟩

/-- Every callback is invoked in its state and on the component of the device. -/
theorem FdTrace.callsAsDocumented (trace : FdTrace profile events state) (input : FdInput) :
    CallsAsDocumented (· = state.updateComp) (fdEvent profile state input) := by
  obtain ⟨operation, ops⟩ := input
  cases operation with
  | request handler payload =>
      obtain ⟨_, final, documents, _, hafter, _, hcallbacks⟩ :=
        @request_rule profile state _ _ _ _ (@handler_documents ops payload state handler)
      intro callback member
      rw [hcallbacks] at member
      exact documents callback member _ hafter
  | fdProgress payload => exact trace.documents_poll payload ops
  | handleResponse payload => exact trace.documents_response payload ops
  | setFdT1Ts =>
      intro callback member
      obtain rfl := List.mem_singleton.mp member
      exact trivial
  | _ =>
      intro callback member
      cases member

end Calls

/-! ## The component taken up last -/

section History

open FdContext

variable {profile : Profile} {events : List FdEvent} {state : FdInternal}

theorem lastTakenUp_append (event : FdEvent) :
    lastTakenUp (events ++ [event]) = event.takenUp.or (lastTakenUp events) :=
  getLast?_filterMap_concat FdEvent.takenUp events event

/-- An `UpdateComponent` request is recorded exactly when it is taken up. -/
theorem updateComponentRsp_takesUp {ops : FdOps} {payload : List UInt8} {pre : FdInternal}
    (output : FdOutput) : (updateComponentRsp ops).wp (fun _ final =>
      final.internal.updateComp = (FdEvent.takenUp
        ⟨pre, ⟨.request .updateComponent payload, ops⟩, output⟩).getD pre.updateComp)
      ⟨pre, payload, []⟩ := by
  simp only [updateComponentRsp, Call.wp_bind, FdCall.wp_internal, Call.wp_ite]
  split
  · next elsewhere =>
      rw [FdEvent.takenUp_of_elsewhere elsewhere]
      exact FdCall.generateFailureResponse_rule fun _ _ => rfl
  · next ready =>
      rw [not_not] at ready
      rw [FdEvent.takenUp_of_ready rfl ready]
      simp only [FdCall.wp_setFdT1Ts]
      apply FdCall.withRequest_rule
      · intro error undecoded _ _
        rw [show UpdateComponentRequest.decode payload = .error error from undecoded]
        rfl
      · intro request decoded
        rw [show UpdateComponentRequest.decode payload = .ok request from decoded]
        simp only [Call.wp_bind, FdCall.wp_modify, FdCall.wp_invoke, Option.getD_some]
        apply FdCall.ofOps_rule
        · intro firmwareParams _
          apply FdCall.ofOps_rule
          · intro compRespCode _
            simp only [Call.wp_ofOutcome]
            cases ComponentCompatibilityResponseCode.tryFrom compRespCode.toU8 with
            | error error => rfl
            | ok compatibilityCode =>
                apply FdCall.respond_rule
                · intro _ _ _
                  dsimp only
                  split
                  · exact enterDownload_updateComp _
                  · rfl
                · exact fun _ _ _ => rfl
          · exact fun _ _ => rfl
        · exact fun _ _ => rfl

/-- No other request names the component of the device. -/
theorem RequestStep.updateComp_eq {ops : FdOps} {payload : List UInt8} {pre post : FdInternal}
    {handler : Handler} {outcome : Outcome MsgHandlerError ℕ} {log : List Invocation}
    (step : RequestStep ops payload pre handler outcome post log)
    (other : handler ≠ .updateComponent) : post.updateComp = pre.updateComp := by
  cases step with
  | quiet touched => exact touched.updateComp
  | sizeRecorded _ touched => exact touched.updateComp
  | updateStarted _ _ _ touched => simpa [FdInternal.setXferSize] using touched.updateComp
  | tableComplete _ touched => simpa using touched.updateComp
  | componentRecorded => exact absurd rfl other
  | componentAccepted => exact absurd rfl other
  | activated => exact ((Kept.setFdState _).trans (Kept.setFdIdle _)).updateComp
  | cancelRefused _ _ _ touched => exact touched.updateComp
  | cancelLost _ _ _ _ touched => exact touched.updateComp
  | componentCancelled => simp
  | updateCancelled _ _ _ touched =>
      exact ((Kept.touched touched).trans (Kept.setFdIdle _)).updateComp

/-- The step lemma: a call leaves the component it took up, if any, with the device. -/
theorem FdTrace.updateComp_step (trace : FdTrace profile events state) (input : FdInput) :
    (fdEvent profile state input).after.updateComp =
      (fdEvent profile state input).takenUp.getD state.updateComp := by
  obtain ⟨operation, ops⟩ := input
  cases operation with
  | request handler payload =>
      by_cases update : handler = .updateComponent
      · subst update
        obtain ⟨_, final, hrecorded, _, hafter, _⟩ := @request_rule profile state
          .updateComponent payload ops _ (updateComponentRsp_takesUp
            (fdEvent profile state ⟨.request .updateComponent payload, ops⟩).output)
        rw [hafter]
        exact hrecorded
      · obtain ⟨_, outcome, _, step⟩ := (trace.step ⟨.request handler payload, ops⟩).of_request
        have huntaken : (fdEvent profile state ⟨.request handler payload, ops⟩).takenUp = none := by
          cases handler with
          | updateComponent => exact absurd rfl update
          | _ => rfl
        rw [huntaken]
        exact step.updateComp_eq update
  | fdProgress payload =>
      obtain ⟨outcome, _, step⟩ := (trace.step ⟨.fdProgress payload, ops⟩).of_poll
      exact step.kept.updateComp
  | handleResponse payload =>
      obtain ⟨_, outcome, _, step⟩ := (trace.step ⟨.handleResponse payload, ops⟩).of_response
      exact step.kept.updateComp
  | _ => rfl

/-- An operation begins with a component that is taken up. -/
theorem FdTrace.takenUp_of_initiator (trace : FdTrace profile events state) (input : FdInput)
    (rests : state.state.isInitiator = false)
    (operates : (fdEvent profile state input).after.state.isInitiator = true) :
    (fdEvent profile state input).takenUp ≠ none := by
  rcases trace.documented input with same | ⟨transition, leads, _⟩
  · rw [same] at operates
    exact absurd (operates.symm.trans rests) nofun
  · obtain ⟨payload, request, _, hoperation, decoded, ready, _⟩ :=
      (trace.step input).of_movesToDownload (leads.download_of_initiator rests operates)
    have htaken : (fdEvent profile state input).takenUp = some (describedComponent request) := by
      rw [FdEvent.takenUp_of_ready hoperation ready, decoded]
    simp [htaken]

/-- The component of the device is the one taken up last, and an operation has one. -/
structure TracksComponent (events : List FdEvent) (internal : FdInternal) : Prop where
  component : internal.updateComp = (lastTakenUp events).getD .default
  operates : internal.state.isInitiator = true → lastTakenUp events ≠ none

theorem FdTrace.tracksComponent (trace : FdTrace profile events state) :
    TracksComponent events state := by
  apply System.Trace.invariant TracksComponent
    ⟨rfl, fun operates => absurd operates (by decide)⟩ _ trace
  intro events state input reached prior tracks live
  rw [fdSystem_next live]
  have htrace : FdTrace profile events state := prior
  have hstep : (fdEvent profile state input).after.updateComp = _ :=
    htrace.updateComp_step input
  constructor
  · rw [lastTakenUp_append]
    refine hstep.trans ?_
    cases htaken : (fdEvent profile state input).takenUp with
    | none => simpa using tracks.component
    | some component => simp
  · intro operates
    rw [lastTakenUp_append]
    cases htaken : (fdEvent profile state input).takenUp with
    | some component => simp
    | none =>
        simp only [Option.none_or]
        apply tracks.operates
        by_contra rests
        exact htrace.takenUp_of_initiator input (by simpa using rests) operates htaken

/-- In every run every callback is invoked in its documented state, and those that take the
active component get the one of the last `UpdateComponent` request that was taken up. -/
theorem callbacks_documented (trace : FdTrace profile events state) (input : FdInput) :
    CallsAsDocumented (fun component => lastTakenUp events = some component)
      (fdEvent profile state input) := by
  have htracks := trace.tracksComponent
  apply (trace.callsAsDocumented input).mono
  rintro operates _ rfl
  obtain ⟨component, hlast⟩ := Option.ne_none_iff_exists'.mp (htracks.operates operates)
  rw [htracks.component, hlast]
  rfl

end History

/-! ## A request that is not taken up -/

/-- The component of a request, wherever it arrives. -/
def FdEvent.requested (event : FdEvent) : Option FirmwareComponent :=
  match event.input.operation with
  | .request .updateComponent payload =>
      match UpdateComponentRequest.decode payload with
      | .ok request => some (FdContext.describedComponent request)
      | .error _ => none
  | _ => none

/-- During a download of 100 bytes a component of 200 bytes is asked for. -/
def secondRequest : List FdInput :=
  opening 100 ++ [receive .updateComponent (Agent.updateComponent 200) (platform 0)]

theorem downloads_first_component : ∃ events state, FdTrace .release events state ∧
    ∃ component requested, (events.filterMap FdEvent.requested).getLast? = some requested ∧
      component ≠ requested ∧ .queryDownloadOffsetAndLength component (.ok (0, 32)) ∈
        (fdEvent .release state (poll (platform 1))).callbacks := by
  obtain ⟨events, state, trace, hcheck⟩ := exists_run .release secondRequest
    (fun events state => (events.filterMap FdEvent.requested).getLast?.any fun requested =>
      state.updateComp ≠ requested && .queryDownloadOffsetAndLength state.updateComp (.ok (0, 32)) ∈
        (fdEvent .release state (poll (platform 1))).callbacks) (by decide +kernel)
  cases last : (events.filterMap FdEvent.requested).getLast? with
  | none => simp [last] at hcheck
  | some requested =>
      simp only [last, Option.any_some, Bool.and_eq_true, decide_eq_true_eq] at hcheck
      exact ⟨events, state, trace, state.updateComp, requested, last, hcheck⟩

theorem callbacks_documented_second : ∃ events state, FdTrace .release events state ∧
    CallsAsDocumented (fun component => lastTakenUp events = some component)
      (fdEvent .release state (poll (platform 1))) := by
  obtain ⟨events, state, trace, _⟩ := exists_run .release secondRequest (fun _ _ => true)
    (by decide +kernel)
  exact ⟨events, state, trace, callbacks_documented trace (poll (platform 1))⟩

end PldmLib.FirmwareDevice
