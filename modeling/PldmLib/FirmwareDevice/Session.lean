/-
# An update session

The messages of an update agent that goes through an update by the book, and a
platform that answers every callback. They make up the runs on which statements
about the device are tried out: `opening` takes a fresh device to the download
of a component of any size.
-/

import PldmLib.FirmwareDevice.Step

namespace PldmLib.FirmwareDevice

open PldmLib.Machine PldmLib.Protocol PldmLib.Message

/-! ## The agent -/

namespace Agent

def requestHeader (command : FwUpdateCmd) : List UInt8 :=
  (PldmMsgHeader.new 0 .request .fwUpdate command.toU8).toBytes

/-- One component is announced, and the image set has no version string. -/
def requestUpdate (maxTransferSize : UInt32) : List UInt8 :=
  requestHeader .requestUpdate ++ u32Bytes maxTransferSize ++ [1, 0, 1, 0, 0, 1, 0]

/-- The whole table in one message: component 1 without a version string. -/
def passComponentTable : List UInt8 :=
  requestHeader .passComponentTable ++ [5, 10, 0, 1, 0, 0, 1, 0, 0, 0, 1, 0]

def updateComponent (imageSize : UInt32) : List UInt8 :=
  requestHeader .updateComponent ++ [10, 0, 1, 0, 0, 1, 0, 0, 0] ++ u32Bytes imageSize ++
    [0, 0, 0, 0, 1, 0]

/-- A request without a body in a buffer that has room for `room` more bytes. -/
def plainRequest (command : FwUpdateCmd) (room : ℕ) : List UInt8 :=
  requestHeader command ++ List.replicate room 0

/-- A response to a request of the device. -/
def response (instanceId : UInt8) (command : FwUpdateCmd) (completionCode : UInt8)
    (body : List UInt8) : List UInt8 :=
  (PldmMsgHeader.new instanceId .response .fwUpdate command.toU8).toBytes ++
    [completionCode] ++ body

end Agent

/-! ## The platform -/

/-- No components and no version strings. -/
def bareParameters : FirmwareParameters :=
  ⟨0, 0, 0, 0, 0, 0, FixedBytes.padTo _ [], none,
    ⟨List.replicate maxComponentCount ⟨⟨0, 0, 0, 0, 0, 0, FixedBytes.padTo _ [], 0, 0, 0,
      FixedBytes.padTo _ [], 0, 0⟩, FixedBytes.padTo _ [], none⟩, rfl⟩⟩

/-- A platform on which everything succeeds at once, at a fixed time. It accepts
the agent's transfer size and asks for the first 32 bytes of the image. -/
def platform (time : PldmFdTime) : FdOps where
  getDeviceIdentifiers := .error .deviceIdentifiersError
  getFirmwareParms := .ok bareParameters
  getXferSize uaTransferSize := .ok uaTransferSize
  handleComponent _ _ _ := .ok .compCanBeUpdated
  queryDownloadOffsetAndLength _ := .ok (0, 32)
  downloadFwData _ _ _ := .ok .transferSuccess
  isDownloadComplete _ := true
  queryDownloadProgress _ := .ok .default
  verify _ := .ok (.verifySuccess, ⟨100, by decide⟩)
  apply _ := .ok (.applySuccess, ⟨100, by decide⟩)
  activate _ := .ok (0, 0)
  cancelUpdateComponent _ := .ok ()
  handlePendingComponent _ _ := .ok .activationNotRequired
  getNonFunctionalComponentInfo := .ok (.componentsFunctioning, 0)
  updateSecurityRevision _ _ := .ok .updated
  now _ := time

def receive (handler : Handler) (payload : List UInt8) (ops : FdOps) : FdInput :=
  ⟨.request handler payload, ops⟩

/-- A poll with room for any request. -/
def poll (ops : FdOps) : FdInput := ⟨.fdProgress (List.replicate 16 0), ops⟩

def respond (payload : List UInt8) (ops : FdOps) : FdInput := ⟨.handleResponse payload, ops⟩

/-- A call of an agent that goes by the book: a request that
leads through an update, a poll with room for any request of the device, an answer with a
header. -/
inductive ByTheBook : FdOperation → Prop
  | announcement : ByTheBook (.request .requestUpdate (Agent.requestUpdate 512))
  | table : ByTheBook (.request .passComponent Agent.passComponentTable)
  | component (imageSize : UInt32) :
      ByTheBook (.request .updateComponent (Agent.updateComponent imageSize))
  | activation :
      ByTheBook (.request .activateFirmware (Agent.plainRequest .activateFirmware 3))
  | cancellation : ByTheBook (.request .cancelUpdate (Agent.plainRequest .cancelUpdate 10))
  | poll : ByTheBook (.fdProgress (List.replicate 11 0))
  | answer {payload : List UInt8} (headed : pldmMsgHeaderLen ≤ payload.length) :
      ByTheBook (.handleResponse payload)

/-- From a fresh device to one that is ready for a component. -/
def untilReady : List FdInput :=
  [receive .requestUpdate (Agent.requestUpdate 512) (platform 0),
    receive .passComponent Agent.passComponentTable (platform 0)]

/-- From a fresh device to the download of a component. -/
def opening (imageSize : UInt32) : List FdInput :=
  [receive .requestUpdate (Agent.requestUpdate 512) (platform 0),
    receive .passComponent Agent.passComponentTable (platform 0),
    receive .updateComponent (Agent.updateComponent imageSize) (platform 0)]

/-- The agent's answer to a report that is the first request from its slot. -/
def acknowledge (report : FwUpdateCmd) (ops : FdOps) : FdInput :=
  respond (Agent.response 1 report PldmBaseCompletionCode.success.toU8 []) ops

/-- From a fresh device to the end of the download. -/
def throughDownload (imageSize : UInt32) : List FdInput :=
  opening imageSize ++ [poll (platform 1),
    respond (Agent.response 1 .requestFirmwareData PldmBaseCompletionCode.success.toU8
      (List.replicate 32 0)) (platform 2),
    poll (platform 3), acknowledge .transferComplete (platform 4)]

/-- From a fresh device to the end of the verification. -/
def throughVerification (imageSize : UInt32) : List FdInput :=
  throughDownload imageSize ++ [poll (platform 5), acknowledge .verifyComplete (platform 6)]

/-- What a computed run of a fresh device is found to satisfy. -/
theorem exists_run (profile : Profile) (inputs : List FdInput)
    (check : List FdEvent → FdInternal → Bool)
    (ran : ((fdSystem profile).replay .default inputs).map
      (fun run => check run.1 run.2) = some true) :
    ∃ events state, FdTrace profile events state ∧ check events state = true := by
  obtain ⟨events, state, trace, _, found⟩ :=
    System.exists_of_replay (fdSystem profile) .default inputs check ran
  exact ⟨events, state, trace, found⟩

/-- The same for a property of the inputs that is not computed. -/
theorem exists_run_of_inputs (profile : Profile) (inputs : List FdInput)
    (holds : FdInput → Prop) (all : ∀ input ∈ inputs, holds input)
    (check : List FdEvent → FdInternal → Bool)
    (ran : ((fdSystem profile).replay .default inputs).map
      (fun run => check run.1 run.2) = some true) :
    ∃ events state, FdTrace profile events state ∧ (∀ event ∈ events, holds event.input) ∧
      check events state = true := by
  obtain ⟨events, state, trace, hinputs, found⟩ :=
    System.exists_of_replay (fdSystem profile) .default inputs check ran
  refine ⟨events, state, trace, ?_, found⟩
  intro event member
  apply all
  rw [← hinputs]
  exact List.mem_map_of_mem member

/-- For every image size the opening ends with a download about to start. -/
theorem opening_downloads (profile : Profile) (imageSize : UInt32) :
    ∃ events state, FdTrace profile events state ∧ state.state = .download ∧
      state.req = ⟨.ready, false, none, none, none, none⟩ ∧
      state.updateComp.compImageSize = some imageSize := by
  have hsize : UInt32.ofNat (leValue (u32Bytes imageSize)) = imageSize := by
    rw [u32Bytes, leValue_leBytes imageSize.toNat_lt, UInt32.ofNat_toNat]
  obtain ⟨run, hrun, hstate⟩ : ∃ run,
      (fdSystem profile).replay .default (opening imageSize) = some run ∧
        run.2.state = .download ∧ run.2.req = ⟨.ready, false, none, none, none, none⟩ ∧
        run.2.updateComp.compImageSize = some (UInt32.ofNat (leValue (u32Bytes imageSize))) := by
    cases profile <;> exact ⟨_, rfl, rfl, rfl, rfl⟩
  obtain ⟨hdownload, hreq, hcomp⟩ := hstate
  exact ⟨run.1, run.2, System.trace_of_replay hrun, hdownload, hreq, by rw [hcomp, hsize]⟩

end PldmLib.FirmwareDevice
