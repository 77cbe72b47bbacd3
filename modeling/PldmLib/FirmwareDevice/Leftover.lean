/-
# Bytes left over in the buffer

A request and its response share one buffer, which nobody clears. What stands behind a request
is of no account: the handler does the same whatever it is, and none of it gets into the part
of the buffer that is sent. A poll does not look at the buffer at all.
-/

import PldmLib.Machine.Lockstep
import PldmLib.FirmwareDevice.Room

namespace PldmLib.FirmwareDevice

open PldmLib.Machine PldmLib.Protocol PldmLib.Message Call

/-! ## Buffers -/

/-- Buffers of one length that begin with the same bytes. -/
def Behind (front buffer buffer' : List UInt8) : Prop :=
  ∃ rest rest', buffer = front ++ rest ∧ buffer' = front ++ rest' ∧ rest'.length = rest.length

/-- What an outcome says about the buffers: the bytes that it counts are the same, and after
an error the buffers are still as they were. -/
def Written {ε : Type} (front : List UInt8) :
    Outcome ε ℕ → List UInt8 → List UInt8 → Prop
  | .ok count, buffer, buffer' => buffer'.take count = buffer.take count
  | .err _, buffer, buffer' => Behind front buffer buffer'
  | .panic, _, _ => True

section Buffers

variable {front buffer buffer' : List UInt8}

theorem Behind.length (behind : Behind front buffer buffer') : buffer'.length = buffer.length := by
  obtain ⟨rest, rest', rfl, rfl, same⟩ := behind
  rw [List.length_append, List.length_append, same]

/-- A decoder that does not want more than the front reads the same twice. -/
theorem Behind.decode {α : Type} {decode : List UInt8 → Except PldmCodecError α}
    (behind : Behind front buffer buffer') (longer : Reader.DecodeExtends decode .bufferTooShort)
    (enough : decode front ≠ .error .bufferTooShort) :
    decode buffer = decode front ∧ decode buffer' = decode front := by
  obtain ⟨rest, rest', rfl, rfl, _⟩ := behind
  cases hdecode : decode front with
  | ok value => exact ⟨longer.value _ _ _ hdecode, longer.value _ _ _ hdecode⟩
  | error error =>
      have hother : error ≠ .bufferTooShort := by
        rintro rfl
        exact enough hdecode
      exact ⟨longer.error _ _ _ hdecode hother, longer.error _ _ _ hdecode hother⟩

theorem lockstep_writeToPrefix (message : List UInt8) :
    Lockstep (Behind front) (Written front) (writeToPrefix message) := by
  intro buffer buffer' behind
  have hlength := behind.length
  by_cases room : message.length ≤ buffer.length
  · rw [writeToPrefix_of_le room, writeToPrefix_of_le (hlength ▸ room)]
    refine ⟨rfl, ?_⟩
    show (message ++ _).take message.length = (message ++ _).take message.length
    rw [List.take_left, List.take_left]
  · rw [writeToPrefix, writeToPrefix, if_neg room, if_neg (hlength ▸ room)]
    exact ⟨rfl, behind⟩

/-- The encoder of a response writes it as a whole, or takes no notice of the buffer. -/
theorem lockstep_encode {response : Response} (sound : response.Sound) :
    Lockstep (Behind front) (Written front) response.encode := by
  rcases Response.encode_ends sound with fits | ⟨_, size, overruns⟩
  · rw [Response.encode_eq fits]
    exact lockstep_writeToPrefix _
  · intro buffer buffer' behind
    have hlength := behind.length
    by_cases room : size ≤ buffer.length
    · obtain ⟨left, hpanic⟩ := (overruns buffer).2 room
      obtain ⟨left', hpanic'⟩ := (overruns buffer').2 (hlength ▸ room)
      rw [hpanic, hpanic']
      exact ⟨rfl, trivial⟩
    · rw [(overruns buffer).1 (not_le.mp room), (overruns buffer').1 (hlength ▸ not_le.mp room)]
      exact ⟨rfl, behind⟩

end Buffers

/-! ## Steps that do not look at the buffer -/

/-- Two calls with the same device state that have asked the platform the same. -/
structure Alike (buffers : List UInt8 → List UInt8 → Prop) (state state' : CallState) : Prop where
  internal : state'.internal = state.internal
  log : state'.log = state.log
  payload : buffers state.payload state'.payload

/-- A call that leaves the buffer alone. -/
def Blind {α : Type} (call : FdCall α) : Prop :=
  ∀ buffers, Lockstep (Alike buffers) (fun _ => Alike buffers) call

namespace Blind

open FdCall FdContext

variable {α β : Type} {ops : FdOps}

theorem bind {call : FdCall α} {next : α → FdCall β} (first : Blind call)
    (goesOn : ∀ value, Blind (next value)) : Blind (call >>= next) :=
  fun buffers => (first buffers).bind (fun value => goesOn value buffers)
    (fun _ _ _ kept => kept) fun _ _ kept => kept

theorem ofOutcome (outcome : Outcome MsgHandlerError α) : Blind (Call.ofOutcome outcome) :=
  fun _ => lockstep_ofOutcome fun _ _ kept => kept

theorem pure (value : α) : Blind (Pure.pure value) := ofOutcome (.ok value)

theorem fail (error : MsgHandlerError) : Blind (Call.fail error : FdCall α) :=
  ofOutcome (.err error)

theorem ofInternal {next : FdInternal → FdCall α} (goesOn : ∀ value, Blind (next value)) :
    Blind (FdCall.internal >>= next) :=
  fun buffers => lockstep_read CallState.internal (fun _ _ alike => alike.internal)
    fun value => goesOn value buffers

theorem modify (change : FdInternal → FdInternal) : Blind (FdCall.modify change) :=
  fun _ => lockstep_update fun _ _ alike =>
    ⟨congrArg change alike.internal, alike.log, alike.payload⟩

theorem invoke (callback : Callback) : Blind (FdCall.invoke ops callback) := by
  intro buffers
  apply lockstep_update
  intro state state' alike
  refine ⟨alike.internal, ?_, alike.payload⟩
  show state'.log ++ _ = state.log ++ _
  rw [alike.log]

theorem now : Blind (FdCall.now ops) := by
  intro buffers state state' alike
  refine ⟨?_, (invoke .now buffers state state' alike).2⟩
  show Outcome.ok (ops.now state'.log.length) = .ok (ops.now state.log.length)
  rw [alike.log]

theorem ofOps (result : Except FdOpsError α) : Blind (FdCall.ofOps result) := by
  cases result with
  | ok value => exact pure value
  | error error => exact fail (.fdOps error)

theorem setFdT1Ts : Blind (FdCall.setFdT1Ts ops) :=
  now.bind fun _ => modify _

end Blind

/-! ## Steps that answer -/

/-- A call that answers a request whose bytes are all in the front. -/
def Immune (front : List UInt8) (call : FdCall ℕ) : Prop :=
  Lockstep (Alike (Behind front)) (fun outcome => Alike (Written front outcome)) call

section Immune

open FdCall

variable {front : List UInt8} {α β : Type} {ops : FdOps}

theorem Blind.immune {call : FdCall α} {next : α → FdCall ℕ} (blind : Blind call)
    (goesOn : ∀ value, Immune front (next value)) : Immune front (call >>= next) :=
  (blind (Behind front)).bind goesOn (fun _ _ _ kept => kept)
    fun _ _ kept => ⟨kept.internal, kept.log, trivial⟩

/-- A callback whose error the handler returns. -/
theorem immune_ask {callback : Callback} {result : Except FdOpsError α} {next : α → FdCall ℕ}
    (goesOn : ∀ value, Immune front (next value)) :
    Immune front (FdCall.invoke ops callback >>= fun _ => FdCall.ofOps result >>= next) :=
  (Blind.invoke callback).immune fun _ => (Blind.ofOps result).immune goesOn

theorem immune_internal {next : FdInternal → FdCall ℕ}
    (goesOn : ∀ value, Immune front (next value)) : Immune front (FdCall.internal >>= next) :=
  lockstep_read CallState.internal (fun _ _ alike => alike.internal) goesOn

theorem immune_ofOutcome {outcome : Outcome MsgHandlerError ℕ}
    (endless : ∀ count, outcome ≠ .ok count) :
    Immune front (Call.ofOutcome outcome) := by
  apply lockstep_ofOutcome
  intro state state' alike
  cases outcome with
  | ok count => exact absurd rfl (endless count)
  | err error => exact alike
  | panic => exact ⟨alike.internal, alike.log, trivial⟩

theorem immune_fail (error : MsgHandlerError) : Immune front (Call.fail error) :=
  immune_ofOutcome fun _ => nofun

/-- An attempt to encode, whose error is a value. -/
def Tried (front : List UInt8) :
    Outcome MsgHandlerError (Except PldmCodecError ℕ) → CallState → CallState → Prop
  | .ok (.ok count) => Alike (Written front (.ok count : Outcome MsgHandlerError ℕ))
  | .ok (.error _) => Alike (Behind front)
  | .err _ => fun _ _ => False
  | .panic => Alike fun _ _ => True

theorem lockstep_tryEncode {encoder : Encoder}
    (writes : Lockstep (Behind front) (Written front) encoder) :
    Lockstep (Alike (Behind front)) (Tried front) (tryEncode encoder) := by
  apply lockstep_attemptOn writes (fun _ _ alike => alike.payload)
  intro state state' payload payload' alike
  refine ⟨?_, ?_, ?_⟩
  · exact fun count same => ⟨alike.internal, alike.log, same⟩
  · exact fun error behind => ⟨alike.internal, alike.log, behind⟩
  · exact fun _ => ⟨alike.internal, alike.log, trivial⟩

/-- What follows an attempt to encode. -/
theorem immune_tryEncode {encoder : Encoder} {next : Except PldmCodecError ℕ → FdCall ℕ}
    (writes : Lockstep (Behind front) (Written front) encoder)
    (written : ∀ count, Lockstep (Alike (Written front (.ok count : Outcome MsgHandlerError ℕ)))
      (fun outcome => Alike (Written front outcome)) (next (.ok count)))
    (refused : ∀ error, Immune front (next (.error error))) :
    Immune front (tryEncode encoder >>= next) := by
  apply (lockstep_tryEncode writes).bind
  · intro result
    cases result with
    | ok count => exact written count
    | error error => exact refused error
  · exact fun _ _ _ never => never.elim
  · exact fun _ _ kept => kept

theorem immune_encode {encoder : Encoder}
    (writes : Lockstep (Behind front) (Written front) encoder) :
    Immune front (FdCall.encode encoder) :=
  immune_tryEncode writes (fun _ => lockstep_pure fun _ _ kept => kept) fun _ => immune_fail _

theorem immune_refusal (code : UInt8) (read : Except PldmCodecError PldmMsgHeader) :
    Immune front
      (match read with
      | .error error => Call.fail (.codec error)
      | .ok header => FdCall.encode (writeToPrefix
          (PldmFailureResponse.toBytes ⟨header.intoResponse, code⟩))) := by
  cases read with
  | error error => exact immune_fail (.codec error)
  | ok header => exact immune_encode (lockstep_writeToPrefix _)

variable (addressed : PldmMsgHeader.decode front ≠ .error .bufferTooShort)
include addressed

theorem immune_refuse (code : UInt8) : Immune front (generateFailureResponse code) := by
  refine lockstep_read (fun state : CallState => PldmMsgHeader.decode state.payload) ?_
    (immune_refusal code)
  intro state state' alike
  have hread := alike.payload.decode PldmMsgHeader.extends_decode addressed
  exact hread.2.trans hread.1.symm

theorem immune_handling {handle : β → FdCall ℕ}
    (goesOn : ∀ request, Immune front (handle request)) (read : Except PldmCodecError β) :
    Immune front
      (match read with
      | .error error => generateFailureResponse (decodeFailureCode error)
      | .ok request => handle request) := by
  cases read with
  | error error => exact immune_refuse addressed _
  | ok request => exact goesOn request

theorem immune_withRequest {decode : List UInt8 → Except PldmCodecError β}
    {handle : β → FdCall ℕ} (longer : Reader.DecodeExtends decode .bufferTooShort)
    (enough : decode front ≠ .error .bufferTooShort)
    (goesOn : ∀ request, Immune front (handle request)) :
    Immune front (withRequest decode handle) := by
  refine lockstep_read (fun state : CallState => decode state.payload) ?_
    (immune_handling addressed goesOn)
  intro state state' alike
  have hread := alike.payload.decode longer enough
  exact hread.2.trans hread.1.symm

theorem immune_respond (response : Response) (sound : response.Sound)
    (commit : FdInternal → FdInternal) :
    Immune front (FdCall.respond response.encode commit) := by
  apply immune_tryEncode (lockstep_encode sound)
  · intro count state state' alike
    exact ⟨rfl, congrArg commit alike.internal, alike.log, alike.payload⟩
  · exact fun _ => immune_refuse addressed _

end Immune

/-! ## The handlers -/

/-- The decoder of the handler does not want more than the front of the buffer. -/
def Handler.Enough (front : List UInt8) : Handler → Prop
  | .requestUpdate => RequestUpdateRequest.decode front ≠ .error .bufferTooShort
  | .passComponent => PassComponentTableRequest.decode front ≠ .error .bufferTooShort
  | .updateComponent => UpdateComponentRequest.decode front ≠ .error .bufferTooShort
  | .activateFirmware => ActivateFirmwareRequest.decode front ≠ .error .bufferTooShort
  | .activatePendingComponentImage => ComponentRequest.decode front ≠ .error .bufferTooShort
  | .updateSecurityRevision => ComponentRequest.decode front ≠ .error .bufferTooShort
  | _ => HeaderRequest.decode front ≠ .error .bufferTooShort

section Handlers

open FdContext FdCall

variable {ops : FdOps} {front : List UInt8}

theorem blind_cancelComponent : Blind (cancelComponent ops) :=
  Blind.ofInternal fun _ => (Blind.invoke _).bind fun _ => (Blind.ofOps _).bind fun _ =>
    Blind.pure _

theorem blind_statusProgress : Blind (statusProgress ops) := by
  apply Blind.ofInternal
  intro internal
  split
  · apply (Blind.invoke _).bind
    intro _
    split
    · exact Blind.pure _
    · exact Blind.pure _
  · split
    · exact Blind.ofOutcome _
    · exact Blind.pure _
  · split
    · exact Blind.ofOutcome _
    · exact Blind.pure _
  · exact Blind.pure _

variable (addressed : PldmMsgHeader.decode front ≠ .error .bufferTooShort)
include addressed

theorem queryDevidRsp_immune (enough : Handler.queryDevid.Enough front) :
    Immune front (queryDevidRsp ops) := by
  apply immune_withRequest addressed HeaderRequest.extends_decode enough
  intro request
  apply immune_ask
  intro ⟨deviceIdentifiers, descriptorCnt⟩
  dsimp only
  split
  · exact immune_fail _
  · split
    · exact immune_fail _
    · exact immune_respond addressed (.queryDeviceIdentifiers _) trivial _

theorem getFirmwareParametersRsp_immune (enough : Handler.getFirmwareParameters.Enough front) :
    Immune front (getFirmwareParametersRsp ops) := by
  apply immune_withRequest addressed HeaderRequest.extends_decode enough
  intro request
  apply immune_ask
  intro params
  exact immune_respond addressed (.getFirmwareParameters _) trivial _

theorem requestUpdateRsp_immune (enough : Handler.requestUpdate.Enough front) :
    Immune front (requestUpdateRsp ops) := by
  apply immune_internal
  intro internal
  split
  · exact immune_refuse addressed _
  · apply Blind.setFdT1Ts.immune
    intro _
    apply immune_withRequest addressed RequestUpdateRequest.extends_decode enough
    intro request
    dsimp only
    split
    · exact immune_refuse addressed _
    · apply immune_ask
      intro size
      apply (Blind.modify _).immune
      intro _
      exact immune_respond addressed (.requestUpdate (.new _ _ 0 0 none)) rfl _

theorem passComponentRsp_immune (enough : Handler.passComponent.Enough front) :
    Immune front (passComponentRsp ops) := by
  apply immune_internal
  intro internal
  split
  · exact immune_refuse addressed _
  · apply Blind.setFdT1Ts.immune
    intro _
    apply immune_withRequest addressed PassComponentTableRequest.extends_decode enough
    intro request
    split
    · exact immune_refuse addressed _
    · apply immune_ask
      intro params
      apply immune_ask
      intro code
      exact immune_respond addressed (.passComponentTable _) trivial _

theorem updateComponentRsp_immune (enough : Handler.updateComponent.Enough front) :
    Immune front (updateComponentRsp ops) := by
  apply immune_internal
  intro internal
  split
  · exact immune_refuse addressed _
  · apply Blind.setFdT1Ts.immune
    intro _
    apply immune_withRequest addressed UpdateComponentRequest.extends_decode enough
    intro request
    apply (Blind.modify _).immune
    intro _
    apply (Blind.modify _).immune
    intro _
    apply immune_ask
    intro params
    apply immune_ask
    intro code
    apply (Blind.ofOutcome _).immune
    intro compatibility
    exact immune_respond addressed (.updateComponent _) trivial _

theorem activateFirmwareRsp_immune (enough : Handler.activateFirmware.Enough front) :
    Immune front (activateFirmwareRsp ops) := by
  apply immune_internal
  intro internal
  split
  · exact immune_refuse addressed _
  · apply immune_withRequest addressed ActivateFirmwareRequest.extends_decode enough
    intro request
    dsimp only
    split
    · exact immune_refuse addressed _
    · apply immune_ask
      intro ⟨code, time⟩
      exact immune_respond addressed (.activateFirmware _) trivial _

/-- The checks of the two commands served while idle. -/
theorem componentCommandRsp_immune {handle : ComponentRequest → FirmwareParameters → FdCall ℕ}
    (enough : ComponentRequest.decode front ≠ .error .bufferTooShort)
    (goesOn : ∀ request params, Immune front (handle request params)) :
    Immune front (componentCommandRsp ops ComponentRequest.decode handle) := by
  apply immune_internal
  intro internal
  split
  · exact immune_refuse addressed _
  · apply immune_withRequest addressed ComponentRequest.extends_decode enough
    intro request
    split
    · exact immune_refuse addressed _
    · apply immune_ask
      intro params
      exact goesOn request params

theorem activatePendingComponentImageRsp_immune
    (enough : Handler.activatePendingComponentImage.Enough front) :
    Immune front (activatePendingComponentImageRsp ops) := by
  apply componentCommandRsp_immune addressed enough
  intro request params
  apply immune_ask
  intro result
  exact immune_respond addressed (.activatePendingComponentImage _) trivial _

theorem updateSecurityRevisionRsp_immune (enough : Handler.updateSecurityRevision.Enough front) :
    Immune front (updateSecurityRevisionRsp ops) := by
  apply componentCommandRsp_immune addressed enough
  intro request params
  apply immune_ask
  intro result
  exact immune_respond addressed (.updateSecurityRevision _) trivial _

theorem cancelUpdateComponentRsp_immune (enough : Handler.cancelUpdateComponent.Enough front) :
    Immune front (cancelUpdateComponentRsp ops) := by
  apply immune_internal
  intro internal
  split
  · exact immune_refuse addressed _
  · apply immune_internal
    intro internal
    cases shouldCancel internal with
    | none => exact immune_refuse addressed _
    | some cancel =>
        have hanswer : Immune front (answerCancelUpdateComponent cancel) := by
          apply immune_withRequest addressed HeaderRequest.extends_decode enough
          intro request
          exact immune_respond addressed (.cancelUpdateComponent _) trivial _
        cases cancel with
        | true => exact blind_cancelComponent.immune fun _ => hanswer
        | false => exact hanswer

theorem cancelUpdateRsp_immune (enough : Handler.cancelUpdate.Enough front) :
    Immune front (cancelUpdateRsp ops) := by
  have hanswer (cancel : Bool) : Immune front (answerCancelUpdate ops cancel) := by
    apply immune_withRequest addressed HeaderRequest.extends_decode enough
    intro request
    apply immune_ask
    intro info
    exact immune_respond addressed (.cancelUpdate _) trivial _
  apply immune_internal
  intro internal
  split
  · exact immune_refuse addressed _
  · apply Blind.setFdT1Ts.immune
    intro _
    apply immune_internal
    intro internal
    cases (shouldCancel internal).getD false with
    | true => exact blind_cancelComponent.immune fun _ => hanswer true
    | false => exact hanswer false

theorem getStatusRsp_immune (enough : Handler.getStatus.Enough front) :
    Immune front (getStatusRsp ops) := by
  apply immune_withRequest addressed HeaderRequest.extends_decode enough
  intro request
  apply blind_statusProgress.immune
  intro progress
  apply immune_internal
  intro internal
  exact immune_respond addressed (.getStatus _) trivial _

theorem handler_immune {handler : Handler} (enough : handler.Enough front) :
    Immune front (handler.run ops) := by
  cases handler with
  | queryDevid => exact queryDevidRsp_immune addressed enough
  | getFirmwareParameters => exact getFirmwareParametersRsp_immune addressed enough
  | requestUpdate => exact requestUpdateRsp_immune addressed enough
  | passComponent => exact passComponentRsp_immune addressed enough
  | updateComponent => exact updateComponentRsp_immune addressed enough
  | activateFirmware => exact activateFirmwareRsp_immune addressed enough
  | activatePendingComponentImage =>
      exact activatePendingComponentImageRsp_immune addressed enough
  | updateSecurityRevision => exact updateSecurityRevisionRsp_immune addressed enough
  | cancelUpdateComponent => exact cancelUpdateComponentRsp_immune addressed enough
  | cancelUpdate => exact cancelUpdateRsp_immune addressed enough
  | getStatus => exact getStatusRsp_immune addressed enough

end Handlers

/-! ## Polls -/

section Polls

open FdContext FdCall

variable {profile : Profile} {ops : FdOps} {front : List UInt8}

/-- What follows once the message is written, and returns its length. -/
theorem Immune.returning {call : FdCall ℕ} {next : ℕ → FdCall ℕ} (immune : Immune front call)
    (blind : ∀ count, Blind (next count))
    (returns : ∀ count state, (next count state).1 = .ok count) :
    Immune front (call >>= next) := by
  apply immune.bind
  · intro count state state' alike
    have hboth := blind count _ state state' alike
    refine ⟨hboth.1, ?_⟩
    rw [returns]
    exact hboth.2
  · exact fun _ _ _ kept => kept
  · exact fun _ _ kept => kept

theorem blind_markSent {complete : Bool} {result : Option UInt8} {instanceId : UInt8}
    {command : FwUpdateCmd} : Blind (markSent ops complete result instanceId command) :=
  Blind.now.bind fun _ => Blind.modify _

theorem blind_allocInstanceId : Blind allocInstanceId :=
  Blind.ofInternal fun _ => (Blind.modify _).bind fun _ => Blind.pure _

theorem blind_shouldSendFdRequest : Blind (shouldSendFdRequest ops) := by
  apply Blind.now.bind
  intro now
  apply Blind.ofInternal
  intro internal
  split
  · exact Blind.pure _
  · exact Blind.pure _
  · exact Blind.pure _
  · split
    · exact Blind.ofOutcome _
    · split
      · exact Blind.pure _
      · exact Blind.pure _

theorem blind_t1Expired : Blind (t1Expired ops) := by
  apply Blind.ofInternal
  intro internal
  split
  · exact Blind.now.bind fun _ => Blind.ofInternal fun _ => Blind.pure _
  · exact Blind.pure _

/-- A request that is written before the slot is marked. -/
theorem immune_sendTransferComplete (instanceId : UInt8) :
    Immune front (sendTransferComplete ops instanceId) := by
  apply immune_internal
  intro internal
  split
  · exact immune_fail _
  · apply (Blind.ofOutcome _).immune
    intro result
    apply (immune_encode (lockstep_writeToPrefix _)).returning
    · exact fun _ => blind_markSent.bind fun _ => Blind.pure _
    · exact fun _ _ => rfl

theorem immune_sendRequestFirmwareData (instanceId : UInt8) :
    Immune front (sendRequestFirmwareData profile ops instanceId) := by
  apply immune_internal
  intro internal
  apply immune_ask
  intro ⟨requestedOffset, requestedLength⟩
  apply immune_internal
  intro internal
  apply (Blind.ofOutcome _).immune
  intro chunk
  split
  · exact immune_fail _
  · apply (immune_encode (lockstep_writeToPrefix _)).returning
    · exact fun _ => (Blind.modify _).bind fun _ => blind_markSent.bind fun _ => Blind.pure _
    · exact fun _ _ => rfl

theorem immune_fdProgressDownload : Immune front (fdProgressDownload profile ops) := by
  apply blind_shouldSendFdRequest.immune
  intro due
  split
  · exact immune_fail _
  · apply blind_allocInstanceId.immune
    intro instanceId
    apply immune_internal
    intro internal
    split
    · exact immune_sendTransferComplete instanceId
    · exact immune_sendRequestFirmwareData instanceId

/-- An operation whose report is written as a whole. -/
theorem immune_fdProgressOperation {R : Type} [DecidableEq R] {operation : Operation R}
    (writes : ∀ instanceId result, Lockstep (Behind front) (Written front)
      (operation.encode instanceId result)) :
    Immune front (fdProgressOperation operation ops) := by
  have hsend (result : R) : Immune front (sendComplete operation ops result) := by
    apply blind_allocInstanceId.immune
    intro instanceId
    apply (immune_encode (writes instanceId result)).returning
    · exact fun _ => blind_markSent.bind fun _ => Blind.pure _
    · exact fun _ _ => rfl
  apply blind_shouldSendFdRequest.immune
  intro due
  split
  · exact immune_fail _
  · apply immune_internal
    intro internal
    split
    · exact hsend _
    · apply immune_internal
      intro internal
      apply immune_ask
      intro ⟨result, progress⟩
      apply (Blind.modify _).immune
      intro _
      split
      · exact lockstep_pure fun _ _ alike => ⟨alike.internal, alike.log, rfl⟩
      · exact hsend result

theorem immune_giveUp : Immune front (giveUp ops) := by
  apply immune_internal
  intro internal
  apply immune_ask
  intro _
  apply (Blind.modify _).immune
  intro _
  apply (Blind.modify _).immune
  intro _
  exact immune_fail _

/-- A poll sends the same, whatever the buffer held before. -/
theorem fdProgress_immune : Immune front (fdProgress profile ops) := by
  apply immune_internal
  intro internal
  dsimp only
  split
  · exact immune_fail _
  · apply blind_t1Expired.immune
    intro expired
    split
    · exact immune_giveUp
    · have hcall : Immune front (progressCall profile ops internal.state) := by
        cases internal.state with
        | download => exact immune_fdProgressDownload
        | verify => exact immune_fdProgressOperation fun _ _ => lockstep_writeToPrefix _
        | apply => exact immune_fdProgressOperation fun _ _ => lockstep_writeToPrefix _
        | _ => exact immune_fail _
      apply hcall.returning
      · intro count
        apply Blind.ofInternal
        intro now
        split
        · exact Blind.setFdT1Ts.bind fun _ => Blind.pure _
        · exact Blind.pure _
      · intro count state
        show ((if _ then _ else _ : FdCall ℕ) state).1 = _
        split <;> rfl

end Polls

end PldmLib.FirmwareDevice
