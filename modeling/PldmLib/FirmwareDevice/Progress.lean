/-
# The recorded progress is a percentage

`GetStatus` unwraps the progress that the last verify or apply callback reported. The
platform can only report a percentage, and an operation starts at zero, so the unwrap
holds in every state of a run.
-/

import PldmLib.FirmwareDevice.Step

namespace PldmLib.FirmwareDevice

open PldmLib.Machine PldmLib.Protocol PldmLib.Message

/-- The progress of an operation is a percentage or the mark that there is none. -/
def InitiatorModeState.Measured : InitiatorModeState → Prop
  | .download _ _ => True
  | .verify progressPercent => progressPercent.toNat ≤ progressPercentNotSupported
  | .apply progressPercent => progressPercent.toNat ≤ progressPercentNotSupported

def Measured (internal : FdInternal) : Prop := internal.initiatorModeState.Measured

namespace Measured

variable {pre post : FdInternal}

theorem of_eq (measured : Measured pre)
    (same : post.initiatorModeState = pre.initiatorModeState) : Measured post := by
  rwa [Measured, same]

theorem setFdDownloadState (measured : Measured pre) (offset length : UInt32) :
    Measured (pre.setFdDownloadState offset length) := by
  unfold FdInternal.setFdDownloadState
  split
  · exact trivial
  · exact measured

/-- Only a percentage is ever recorded. -/
theorem setProgress (measured : Measured pre) (kind : OperationKind)
    (progress : ProgressPercent) : Measured (kind.setProgress progress.value pre) := by
  cases kind with
  | verify =>
      simp only [OperationKind.setProgress, FdInternal.setFdVerifyProgress]
      split
      · exact progress.le_notSupported
      · exact measured
  | apply =>
      simp only [OperationKind.setProgress, FdInternal.setFdApplyProgress]
      split
      · exact progress.le_notSupported
      · exact measured

/-- An operation begins at zero. -/
theorem advance (measured : Measured pre) (state : FirmwareDeviceState) :
    Measured (advance state pre) := by
  cases state with
  | download =>
      simp [FirmwareDevice.advance, Measured, FdContext.enterVerify, FdInternal.setInitiatorMode,
        InitiatorModeState.Measured]
  | verify =>
      simp [FirmwareDevice.advance, Measured, FdContext.enterApply, FdInternal.setInitiatorMode,
        InitiatorModeState.Measured]
  | apply => exact measured.of_eq (by simp [FirmwareDevice.advance, FdContext.leaveApply])
  | _ => exact measured

theorem request {ops : FdOps} {payload : List UInt8} {handler : Handler}
    {outcome : Outcome MsgHandlerError ℕ} {log : List Invocation} (measured : Measured pre)
    (step : RequestStep ops payload pre handler outcome post log) : Measured post := by
  rcases step.slot_cases with ⟨_, hmode⟩ | ⟨internal, rfl⟩
  · exact measured.of_eq hmode
  · rw [Measured, FdContext.enterDownload_initiatorModeState]
    exact trivial

theorem poll {profile : Profile} {ops : FdOps} {payload : List UInt8}
    {outcome : Outcome MsgHandlerError ℕ} {log : List Invocation} {sent : Option FdRequest}
    (measured : Measured pre) (step : PollStep profile ops payload pre outcome post log sent) :
    Measured post := by
  cases step with
  | timedOut => exact measured.of_eq pre.fdIdleTimeout_initiatorModeState
  | dataRequested => exact @setFdDownloadState pre.allocNextInstanceId measured _ _
  | operationPending => exact measured.setProgress _ _
  | operationUnsent => exact measured.setProgress _ _
  | operationReported => exact measured.setProgress _ _
  | _ => exact measured

theorem response {ops : FdOps} {payload : List UInt8}
    {outcome : Outcome MsgHandlerError PUnit} {log : List Invocation} (measured : Measured pre)
    (step : ResponseStep ops payload pre outcome post log) : Measured post := by
  cases step with
  | acknowledged =>
      exact @advance (pre.setFdT1UpdateTs (ops.now 0)) measured pre.state
  | _ => exact measured

/-- Every call keeps the progress a percentage. -/
theorem step {profile : Profile} {input : FdInput} {output : FdOutput}
    {sent : Option FdRequest} (measured : Measured pre)
    (step : FdStep profile pre input output sent) : Measured output.internal := by
  cases step with
  | request step => exact measured.request step
  | poll step => exact measured.poll step
  | response step => exact measured.response step
  | touch => exact measured
  | query => exact measured

/-- A recorded percentage can be reported. -/
theorem recordedProgress (measured : Measured pre) :
    ∃ progress, FdContext.recordedProgress pre = .ok progress := by
  unfold FdContext.recordedProgress FdInternal.getFdVerifyProgress FdInternal.getFdApplyProgress
  rw [Measured] at measured
  cases hmode : pre.initiatorModeState with
  | download offset length => split <;> exact ⟨_, rfl⟩
  | verify percent =>
      rw [hmode] at measured
      split <;> first | exact ⟨_, rfl⟩ | exact ⟨_, dif_pos measured⟩
  | apply percent =>
      rw [hmode] at measured
      split <;> first | exact ⟨_, rfl⟩ | exact ⟨_, dif_pos measured⟩

end Measured

/-- In every state of a run the progress is a percentage. -/
theorem FdTrace.measured {profile : Profile} {events : List FdEvent} {state : FdInternal}
    (trace : FdTrace profile events state) : Measured state :=
  (FdRun.induct trace Coherent.init (fun _ state => Measured state) trivial
    fun _ _ _ _ _ _ measured step _ _ => measured.step step).1

end PldmLib.FirmwareDevice
