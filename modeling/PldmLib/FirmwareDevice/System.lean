/-
# Runs of the device context

The platform integration owns one context and calls its methods one after the
other: it passes on the bytes it received and polls for requests to send.
`Operation`s in any order, each with any payload and with any answers of the
platform, are the runs of `fdSystem`. A call that panics has no successor.

What crosses the two interfaces is read off an event: the callbacks that ran,
and the request that a poll left in the payload for the update agent.
-/

import PldmLib.Machine.Run
import PldmLib.FirmwareDevice.Responder
import PldmLib.FirmwareDevice.Initiator

namespace PldmLib.FirmwareDevice

open PldmLib.Machine PldmLib.Protocol PldmLib.Message

/-- The handlers of the agent's requests. -/
inductive Handler
  | queryDevid
  | getFirmwareParameters
  | requestUpdate
  | passComponent
  | updateComponent
  | activateFirmware
  | activatePendingComponentImage
  | updateSecurityRevision
  | cancelUpdateComponent
  | cancelUpdate
  | getStatus
  deriving DecidableEq, Repr

def Handler.run (ops : FdOps) : Handler → FdCall ℕ
  | .queryDevid => FdContext.queryDevidRsp ops
  | .getFirmwareParameters => FdContext.getFirmwareParametersRsp ops
  | .requestUpdate => FdContext.requestUpdateRsp ops
  | .passComponent => FdContext.passComponentRsp ops
  | .updateComponent => FdContext.updateComponentRsp ops
  | .activateFirmware => FdContext.activateFirmwareRsp ops
  | .activatePendingComponentImage => FdContext.activatePendingComponentImageRsp ops
  | .updateSecurityRevision => FdContext.updateSecurityRevisionRsp ops
  | .cancelUpdateComponent => FdContext.cancelUpdateComponentRsp ops
  | .cancelUpdate => FdContext.cancelUpdateRsp ops
  | .getStatus => FdContext.getStatusRsp ops

/-- A call of a public method of the context. -/
inductive FdOperation
  | request (handler : Handler) (payload : List UInt8)
  | fdProgress (payload : List UInt8)
  | handleResponse (payload : List UInt8)
  | setFdT1Ts
  | isUpdateMode
  | shouldStartInitiatorMode
  | shouldStopInitiatorMode
  deriving DecidableEq, Repr

/-- The payload a method gets; the others have none. -/
def FdOperation.payload : FdOperation → List UInt8
  | .request _ payload => payload
  | .fdProgress payload => payload
  | .handleResponse payload => payload
  | _ => []

/-- What a method returns. -/
inductive Returned
  | length (count : ℕ)
  | done
  | flag (value : Bool)
  deriving DecidableEq, Repr

def FdOperation.run (profile : Profile) (ops : FdOps) : FdOperation → FdCall Returned
  | .request handler _ => do pure (.length (← handler.run ops))
  | .fdProgress _ => do pure (.length (← FdContext.fdProgress profile ops))
  | .handleResponse _ => do
      FdContext.handleResponse ops
      pure .done
  | .setFdT1Ts => do
      FdCall.setFdT1Ts ops
      pure .done
  | .isUpdateMode => do pure (.flag (← FdContext.isUpdateMode))
  | .shouldStartInitiatorMode => do pure (.flag (← FdContext.shouldStartInitiatorMode))
  | .shouldStopInitiatorMode => do pure (.flag (← FdContext.shouldStopInitiatorMode))

/-- One call of the context: the method with its payload, and the platform's
answers while it runs. -/
structure FdInput where
  operation : FdOperation
  ops : FdOps

/-- What a call returns and leaves behind. -/
structure FdOutput where
  outcome : Outcome MsgHandlerError Returned
  internal : FdInternal
  payload : List UInt8
  log : List Invocation
  deriving DecidableEq

/-- Run one method on a device state. -/
def fdStep (profile : Profile) (internal : FdInternal) (input : FdInput) : FdOutput :=
  let result := input.operation.run profile input.ops ⟨internal, input.operation.payload, []⟩
  ⟨result.1, result.2.internal, result.2.payload, result.2.log⟩

def fdSystem (profile : Profile) : System FdInternal FdInput FdOutput where
  init := .default
  step := fdStep profile
  next output :=
    match output.outcome with
    | .panic => none
    | _ => some output.internal

abbrev FdEvent := Event FdInternal FdInput FdOutput

namespace FdEvent

/-- The state a call left behind. -/
def after (event : FdEvent) : FdInternal := event.output.internal

def log (event : FdEvent) : List Invocation := event.output.log

/-- The callbacks a call invoked, without their times. -/
def callbacks (event : FdEvent) : List Callback := event.log.map Invocation.callback

/-- The request a poll hands over for sending. -/
def sent (event : FdEvent) : Option FdRequest :=
  match event.input.operation, event.output.outcome with
  | .fdProgress _, .ok (.length count) => FdRequest.parse (event.output.payload.take count)
  | _, _ => none

end FdEvent

/-- A live call ends in the state its output holds. -/
theorem fdSystem_next {profile : Profile} {output : FdOutput} {reached : FdInternal}
    (live : (fdSystem profile).next output = some reached) : reached = output.internal := by
  simp only [fdSystem] at live
  split at live
  · cases live
  · exact (Option.some.inj live).symm

end PldmLib.FirmwareDevice
