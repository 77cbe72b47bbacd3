/-
# Calls of the device context

The state a context method works on is the device state, the caller's payload
buffer and, for an observer, the callbacks invoked so far. This module has the
steps the methods are made of: reading and changing the device state, invoking a
callback, writing a response over the request, and refusing a request.
-/

import PldmLib.FirmwareDevice.FdInternal

namespace PldmLib.FirmwareDevice

open PldmLib.Machine PldmLib.Protocol PldmLib.Message

inductive MsgHandlerError
  | codec (error : PldmCodecError)
  | pldmCommon (error : PldmError)
  | util (error : UtilError)
  | fdOps (error : FdOpsError)
  | fdInitiatorModeError
  | notReady
  | t1Timeout
  deriving DecidableEq, Repr

/-- What one call of a context method reads and writes. -/
structure CallState where
  internal : FdInternal
  payload : List UInt8
  log : List Invocation
  deriving DecidableEq

/-- A method of the context, or a part of one. -/
abbrev FdCall := Call CallState MsgHandlerError

namespace FdCall

variable {α : Type}

def internal : FdCall FdInternal := do pure (← Call.get).internal

def payload : FdCall (List UInt8) := do pure (← Call.get).payload

def modify (change : FdInternal → FdInternal) : FdCall PUnit :=
  Call.update fun state => { state with internal := change state.internal }

/-- Record that a callback ran. The platform's clock is read at its return. -/
def invoke (ops : FdOps) (callback : Callback) : FdCall PUnit :=
  Call.update fun state =>
    { state with log := state.log ++ [⟨callback, ops.now state.log.length⟩] }

/-- `map_err(MsgHandlerError::FdOps)?` on the result of a callback. -/
def ofOps (result : Except FdOpsError α) : FdCall α :=
  match result with
  | .ok value => pure value
  | .error error => Call.fail (.fdOps error)

def now (ops : FdOps) : FdCall PldmFdTime := do
  let state ← Call.get
  invoke ops .now
  pure (ops.now state.log.length)

/-- Run an encoder on the payload and hand its error over as a value. -/
def tryEncode (encoder : Encoder) : FdCall (Except PldmCodecError ℕ) :=
  Call.attemptOn CallState.payload (fun state payload => { state with payload := payload })
    encoder

/-- `encode(payload).map_err(MsgHandlerError::Codec)?`. -/
def encode (encoder : Encoder) : FdCall ℕ := do
  match ← tryEncode encoder with
  | .ok bytes => pure bytes
  | .error error => Call.fail (.codec error)

/-! ## Refusals -/

/-- Answer the request in the payload with a bare completion code. The header is
read from the buffer as it is now. -/
def generateFailureResponse (completionCode : UInt8) : FdCall ℕ := do
  match PldmMsgHeader.decode (← payload) with
  | .error error => Call.fail (.codec error)
  | .ok header =>
      encode (writeToPrefix
        (PldmFailureResponse.toBytes ⟨header.intoResponse, completionCode⟩))

/-- The completion code for a request that does not decode. -/
def decodeFailureCode : PldmCodecError → UInt8
  | .bufferTooShort => PldmBaseCompletionCode.invalidLength.toU8
  | .invalidData => PldmBaseCompletionCode.invalidData.toU8
  | .unsupported => PldmBaseCompletionCode.invalidData.toU8

/-- Decode the request in the payload and go on with it, or refuse it. -/
def withRequest {β : Type} (decode : List UInt8 → Except PldmCodecError β)
    (handle : β → FdCall ℕ) : FdCall ℕ := do
  match decode (← payload) with
  | .error error => generateFailureResponse (decodeFailureCode error)
  | .ok request => handle request

/-- Encode a response over the request and, if it fits, commit the state change
that goes with it. A response that does not fit is replaced by a refusal. -/
def respond (encoder : Encoder) (commit : FdInternal → FdInternal) : FdCall ℕ := do
  match ← tryEncode encoder with
  | .ok bytes => do
      modify commit
      pure bytes
  | .error _ => generateFailureResponse PldmBaseCompletionCode.invalidLength.toU8

/-- Refresh the T1 timestamp. -/
def setFdT1Ts (ops : FdOps) : FdCall PUnit := do
  let now ← now ops
  modify (·.setFdT1UpdateTs now)

/-! ## What the steps do to a postcondition

The equivalences below are for steps that always return. For a step that can
refuse there is a rule with one premise for each way it can end, in which the
payload a refusal leaves behind is arbitrary. -/

section Rules

variable {β : Type} {ops : FdOps} {state : CallState}

@[simp]
theorem wp_internal {post : Outcome MsgHandlerError FdInternal → CallState → Prop} :
    internal.wp post state ↔ post (.ok state.internal) state := Iff.rfl

@[simp]
theorem wp_payload {post : Outcome MsgHandlerError (List UInt8) → CallState → Prop} :
    payload.wp post state ↔ post (.ok state.payload) state := Iff.rfl

@[simp]
theorem wp_modify {change : FdInternal → FdInternal}
    {post : Outcome MsgHandlerError PUnit → CallState → Prop} :
    (modify change).wp post state ↔
      post (.ok ⟨⟩) { state with internal := change state.internal } := Iff.rfl

@[simp]
theorem wp_invoke {callback : Callback}
    {post : Outcome MsgHandlerError PUnit → CallState → Prop} :
    (invoke ops callback).wp post state ↔
      post (.ok ⟨⟩)
        { state with log := state.log ++ [⟨callback, ops.now state.log.length⟩] } := Iff.rfl

@[simp]
theorem wp_now {post : Outcome MsgHandlerError PldmFdTime → CallState → Prop} :
    (now ops).wp post state ↔
      post (.ok (ops.now state.log.length))
        { state with log := state.log ++ [⟨.now, ops.now state.log.length⟩] } := Iff.rfl

@[simp]
theorem wp_setFdT1Ts {post : Outcome MsgHandlerError PUnit → CallState → Prop} :
    (setFdT1Ts ops).wp post state ↔
      post (.ok ⟨⟩)
        { state with
          internal := state.internal.setFdT1UpdateTs (ops.now state.log.length)
          log := state.log ++ [⟨.now, ops.now state.log.length⟩] } := Iff.rfl

theorem ofOps_rule {result : Except FdOpsError α}
    {post : Outcome MsgHandlerError α → CallState → Prop}
    (returned : ∀ value, result = .ok value → post (.ok value) state)
    (failed : ∀ error, result = .error error → post (.err (.fdOps error)) state) :
    (ofOps result).wp post state := by
  cases result with
  | ok value => exact returned value rfl
  | error error => exact failed error rfl

theorem tryEncode_rule {encoder : Encoder}
    {post : Outcome MsgHandlerError (Except PldmCodecError ℕ) → CallState → Prop}
    (written : ∀ bytes payload, encoder state.payload = (.ok bytes, payload) →
      post (.ok (.ok bytes)) { state with payload := payload })
    (refused : ∀ error payload, encoder state.payload = (.err error, payload) →
      post (.ok (.error error)) { state with payload := payload })
    (panicked : ∀ payload, encoder state.payload = (.panic, payload) →
      post .panic { state with payload := payload }) :
    (tryEncode encoder).wp post state := by
  rw [tryEncode, Call.wp_attemptOn, Call.wp_iff]
  rcases hrun : encoder state.payload with ⟨_ | _ | _, payload⟩
  · exact written _ _ hrun
  · exact refused _ _ hrun
  · exact panicked _ hrun

theorem encode_rule {encoder : Encoder}
    {post : Outcome MsgHandlerError ℕ → CallState → Prop}
    (written : ∀ bytes payload, encoder state.payload = (.ok bytes, payload) →
      post (.ok bytes) { state with payload := payload })
    (refused : ∀ error payload, encoder state.payload = (.err error, payload) →
      post (.err (.codec error)) { state with payload := payload })
    (panicked : ∀ payload, encoder state.payload = (.panic, payload) →
      post .panic { state with payload := payload }) :
    (encode encoder).wp post state := by
  rw [encode, Call.wp_bind]
  exact tryEncode_rule written refused panicked

/-- How a refusal ends: a bare completion code, or an error. -/
def Refused (outcome : Outcome MsgHandlerError ℕ) : Prop :=
  outcome = .ok 4 ∨ ∃ error, outcome = .err error

theorem Refused.ne_panic {outcome : Outcome MsgHandlerError ℕ} (refused : Refused outcome) :
    outcome ≠ .panic := by
  rcases refused with rfl | ⟨_, rfl⟩ <;> exact nofun

theorem generateFailureResponse_refuses {completionCode : UInt8}
    {post : Outcome MsgHandlerError ℕ → CallState → Prop}
    (refused : ∀ outcome payload, Refused outcome →
      post outcome { state with payload := payload }) :
    (generateFailureResponse completionCode).wp post state := by
  simp only [generateFailureResponse, Call.wp_bind, wp_payload]
  cases PldmMsgHeader.decode state.payload with
  | error error => exact refused (.err (.codec error)) state.payload (.inr ⟨_, rfl⟩)
  | ok header =>
      apply encode_rule
      · intro bytes payload written
        obtain ⟨_, rfl, _⟩ := writeToPrefix_ok written
        exact refused (.ok _) payload (.inl rfl)
      · exact fun error payload _ => refused (.err (.codec error)) payload (.inr ⟨_, rfl⟩)
      · intro payload panicked
        exact absurd panicked (writeToPrefix_ne_panic _ _ _)

theorem withRequest_refuses {decode : List UInt8 → Except PldmCodecError β}
    {handle : β → FdCall ℕ} {post : Outcome MsgHandlerError ℕ → CallState → Prop}
    (refused : ∀ error, decode state.payload = .error error →
      ∀ outcome payload, Refused outcome → post outcome { state with payload := payload })
    (decoded : ∀ request, decode state.payload = .ok request →
      (handle request).wp post state) :
    (withRequest decode handle).wp post state := by
  simp only [withRequest, Call.wp_bind, wp_payload]
  cases hdecode : decode state.payload with
  | error error => exact generateFailureResponse_refuses (refused error hdecode)
  | ok request => exact decoded request hdecode

/-- A response is either written, with its state change, or nothing but the
payload changes. -/
theorem respond_refuses {encoder : Encoder} {commit : FdInternal → FdInternal}
    {post : Outcome MsgHandlerError ℕ → CallState → Prop}
    (written : ∀ bytes payload, encoder state.payload = (.ok bytes, payload) →
      post (.ok bytes) { state with internal := commit state.internal, payload := payload })
    (refused : (∀ bytes payload, encoder state.payload ≠ (.ok bytes, payload)) →
      ∀ outcome payload, Refused outcome → post outcome { state with payload := payload })
    (panicked : ∀ payload, encoder state.payload = (.panic, payload) →
      post .panic { state with payload := payload }) :
    (respond encoder commit).wp post state := by
  rw [respond, Call.wp_bind]
  apply tryEncode_rule
  · exact written
  · intro error payload hrun
    refine generateFailureResponse_refuses fun outcome final => refused ?_ outcome final
    simp [hrun]
  · exact panicked

/-! The same rules for a postcondition that does not look at how a refusal ends. -/

theorem generateFailureResponse_rule {completionCode : UInt8}
    {post : Outcome MsgHandlerError ℕ → CallState → Prop}
    (refused : ∀ outcome payload, post outcome { state with payload := payload }) :
    (generateFailureResponse completionCode).wp post state :=
  generateFailureResponse_refuses fun outcome payload _ => refused outcome payload

theorem withRequest_rule {decode : List UInt8 → Except PldmCodecError β}
    {handle : β → FdCall ℕ} {post : Outcome MsgHandlerError ℕ → CallState → Prop}
    (refused : ∀ error, decode state.payload = .error error →
      ∀ outcome payload, post outcome { state with payload := payload })
    (decoded : ∀ request, decode state.payload = .ok request →
      (handle request).wp post state) :
    (withRequest decode handle).wp post state :=
  withRequest_refuses (fun error hdecode outcome payload _ => refused error hdecode outcome payload)
    decoded

theorem respond_rule {encoder : Encoder} {commit : FdInternal → FdInternal}
    {post : Outcome MsgHandlerError ℕ → CallState → Prop}
    (written : ∀ bytes payload, encoder state.payload = (.ok bytes, payload) →
      post (.ok bytes) { state with internal := commit state.internal, payload := payload })
    (refused : (∀ bytes payload, encoder state.payload ≠ (.ok bytes, payload)) →
      ∀ outcome payload, post outcome { state with payload := payload }) :
    (respond encoder commit).wp post state := by
  apply respond_refuses written
  · exact fun unwritten outcome payload _ => refused unwritten outcome payload
  · intro payload hrun
    exact refused (by simp [hrun]) .panic payload

end Rules

end FdCall

end PldmLib.FirmwareDevice
