/-
# A whole update

An agent has an image for each of a number of components. It announces an update, passes the
component table, has the device update one component after the other, and activates the
firmware at the end. The agent, the network and the platform choose the calls, as in the
installation of a single component, and calls that have nothing to do with the update may
come in between.

However they choose, all images are installed, in their order, and the device is idle again,
within a number of calls that is known beforehand.
-/

import PldmLib.FirmwareDevice.Recovery
import PldmLib.FirmwareDevice.DownloadRange

namespace PldmLib.FirmwareDevice

open PldmLib.Machine PldmLib.Protocol PldmLib.Message

/-! ## The surroundings of an update -/

/-- What is to be installed, and how far that has got: the images that have not been begun,
the one that is being installed with what its surroundings know, what the platform has stored
for those that are over, and whether the firmware has been activated. -/
structure Campaign where
  queue : List (List UInt8)
  image : List UInt8
  noted : Surroundings
  written : List (List UInt8)
  activated : Bool

/-- The calls that may be chosen next in an update. -/
inductive Pursues (profile : Profile) (state : FdInternal) (campaign : Campaign) : FdInput → Prop
  | announcement {payload : List UInt8} {ops : FdOps} {request : RequestUpdateRequest} {size : ℕ}
      (idle : state.state = .idle) (waiting : campaign.activated = false)
      (decoded : RequestUpdateRequest.decode payload = .ok request)
      (baseline : pldmFwupBaselineTransferSize ≤ request.maxTransferSize.toNat)
      (answered : ops.getXferSize request.maxTransferSize.toNat = .ok size)
      (positive : 0 < size) (offered : size ≤ request.maxTransferSize.toNat) :
      Pursues profile state campaign ⟨.request .requestUpdate payload, ops⟩
  | table {payload : List UInt8} {ops : FdOps} {request : PassComponentTableRequest}
      {flag : TransferRespFlag} {params : FirmwareParameters} {code : ComponentResponseCode}
      (learning : state.state = .learnComponents)
      (decoded : PassComponentTableRequest.decode payload = .ok request)
      (flagged : TransferRespFlag.tryFrom request.transferFlag = .ok flag)
      (last : flag = .end ∨ flag = .startAndEnd) (answered : ops.getFirmwareParms = .ok params)
      (handled : ops.handleComponent (FdContext.passedComponent request) params .passComponent =
        .ok code) :
      Pursues profile state campaign ⟨.request .passComponent payload, ops⟩
  | component {payload : List UInt8} {ops : FdOps} {request : UpdateComponentRequest}
      {params : FirmwareParameters} {image : List UInt8} {rest : List (List UInt8)}
      (ready : state.state = .readyXfer) (next : campaign.queue = image :: rest)
      (decoded : UpdateComponentRequest.decode payload = .ok request)
      (sized : request.compImageSize.toNat = image.length)
      (answered : ops.getFirmwareParms = .ok params)
      (handled : ops.handleComponent (FdContext.describedComponent request) params
        .updateComponent = .ok .compCanBeUpdated) :
      Pursues profile state campaign ⟨.request .updateComponent payload, ops⟩
  | installation {input : FdInput} (active : state.state.isInitiator = true)
      (chosen : Chooses profile campaign.image state campaign.noted input) :
      Pursues profile state campaign input
  | activation {payload : List UInt8} {ops : FdOps} {request : ActivateFirmwareRequest}
      {code : UInt8} {time : UInt16} (ready : state.state = .readyXfer)
      (finished : campaign.queue = [])
      (decoded : ActivateFirmwareRequest.decode payload = .ok request)
      (clear : ¬ (request.selfContainedActivationReq ≠ 0 ∧ request.selfContainedActivationReq ≠ 1))
      (answered : ops.activate request.selfContainedActivationReq = .ok (code, time))
      (granted : code = PldmBaseCompletionCode.success.toU8 ∨
        code = FwUpdateCompletionCode.activationNotRequired.toU8) (room : 6 ≤ payload.length) :
      Pursues profile state campaign ⟨.request .activateFirmware payload, ops⟩
  | aside {input : FdInput} (passive : state.state.isInitiator = false)
      (beside : FdEvent.isAside (fdEvent profile state input) = true)
      (spare : 0 < campaign.noted.spare)
      (live : (fdEvent profile state input).output.outcome ≠ .panic) :
      Pursues profile state campaign input

namespace Campaign

/-- What is made of a call: in an operation of the device it belongs to the installation,
which may end with it. Otherwise it leads on to the next state, or is a wasted one. -/
def after (campaign : Campaign) (event : FdEvent) : Campaign :=
  if event.before.state.isInitiator = true then
    let noted := campaign.noted.after campaign.image event
    { campaign with
      noted := noted
      written := if event.after.state = .readyXfer then campaign.written ++ [noted.stored]
        else campaign.written }
  else if event.after.state = event.before.state then
    { campaign with noted := { campaign.noted with spare := campaign.noted.spare - 1 } }
  else
    match event.after.state with
    | .download =>
        { campaign with
          queue := campaign.queue.tail
          image := campaign.queue.headD []
          noted := ⟨[], none, campaign.noted.spare⟩ }
    | .idle => { campaign with activated := true }
    | _ => campaign

/-- The beginning of an update. -/
def start (images : List (List UInt8)) (spare : ℕ) : Campaign :=
  ⟨images, [], ⟨[], none, spare⟩, [], false⟩

/-- The calls that an image takes, with the one that announces it. -/
def calls (image : List UInt8) : ℕ := 2 * image.length + 7

/-- The calls that are left at most. -/
def remaining (campaign : Campaign) (state : FdInternal) : ℕ :=
  (campaign.queue.map calls).sum +
    match state.state with
    | .idle => (if campaign.activated = true then 0 else 3) + campaign.noted.spare
    | .learnComponents => 2 + campaign.noted.spare
    | .readyXfer => 1 + campaign.noted.spare
    | _ => 1 + FirmwareDevice.remaining campaign.image state campaign.noted

end Campaign

/-- The agent, the network and the platform in an update. -/
def updaters (profile : Profile) : Environment FdInternal FdInput FdOutput Campaign where
  allows := Pursues profile
  react campaign event := campaign.after event

/-- The images have been installed, in their order, and the firmware has been activated. -/
structure Concluded (images : List (List UInt8)) (state : FdInternal) (campaign : Campaign) :
    Prop where
  idle : state.state = .idle
  reason : state.reason = some .activateFw
  activated : campaign.activated = true
  written : campaign.written = images

/-- An image that a component can have. -/
def Usable (image : List UInt8) : Prop := image ≠ [] ∧ image.length + 32 < UInt32.size

/-- Where an update stands. -/
inductive Pursuit (images : List (List UInt8)) (state : FdInternal) (campaign : Campaign) : Prop
  | waiting (idle : state.state = .idle) (waits : campaign.activated = false)
      (accounted : campaign.written ++ campaign.queue = images)
  | learning (learns : state.state = .learnComponents) (transfers : 0 < state.maxXferSize.toNat)
      (accounted : campaign.written ++ campaign.queue = images)
  | ready (arrived : state.state = .readyXfer) (transfers : 0 < state.maxXferSize.toNat)
      (accounted : campaign.written ++ campaign.queue = images)
  | installing (active : state.state.isInitiator = true) (usable : Usable campaign.image)
      (installing : Installing campaign.image state campaign.noted)
      (accounted : campaign.written ++ campaign.image :: campaign.queue = images)
  | ended (concluded : Concluded images state campaign)

/-- The invariant of an update. -/
structure Pursuing (profile : Profile) (images : List (List UInt8)) (state : FdInternal)
    (campaign : Campaign) : Prop where
  reached : ∃ events, FdTrace profile events state
  usable : ∀ image ∈ campaign.queue, Usable image
  stage : Pursuit images state campaign

/-! ## Single messages -/

section Messages

variable {state : FdInternal} {payload : List UInt8} {ops : FdOps}

open FdContext FdCall

/-- An update that is granted. -/
theorem requestUpdateRsp_announces {request : RequestUpdateRequest} {size : ℕ}
    (idle : state.state = .idle) (decoded : RequestUpdateRequest.decode payload = .ok request)
    (baseline : pldmFwupBaselineTransferSize ≤ request.maxTransferSize.toNat)
    (answered : ops.getXferSize request.maxTransferSize.toNat = .ok size) :
    (requestUpdateRsp ops).wp (fun outcome final => outcome ≠ .panic ∧
      final.internal.state = .learnComponents ∧ final.internal.maxXferSize = UInt32.ofNat size)
      ⟨state, payload, []⟩ := by
  have hmode : ¬ state.isUpdateMode = true := by simp [FdInternal.isUpdateMode, idle]
  simp only [requestUpdateRsp, Call.wp_bind, wp_internal, Call.wp_ite, if_neg hmode, wp_setFdT1Ts]
  apply withRequest_of_decoded decoded
  simp only [if_neg (not_lt.mpr baseline), Call.wp_bind, wp_invoke]
  apply ofOps_of_ok answered
  simp only [wp_modify]
  apply respond_of_room
  · apply RequestUpdateResponse.encode_eq
    exact rfl
  · have hroom := RequestUpdateRequest.length_le_of_decode decoded
    simp [RequestUpdateResponse.toBytes, RequestUpdateResponse.new,
      RequestUpdateResponse.fixedBytes, optionBytes]
    omega
  · intro bytes final
    exact ⟨by rintro ⟨⟩, FdInternal.setFdState_state _ _, (Kept.setFdState _).maxXferSize⟩

/-- A component that is accepted. -/
theorem updateComponentRsp_begins {request : UpdateComponentRequest} {params : FirmwareParameters}
    (ready : state.state = .readyXfer)
    (decoded : UpdateComponentRequest.decode payload = .ok request)
    (answered : ops.getFirmwareParms = .ok params)
    (handled : ops.handleComponent (describedComponent request) params .updateComponent =
      .ok .compCanBeUpdated) :
    (updateComponentRsp ops).wp (fun outcome final => outcome ≠ .panic ∧
      final.internal.state = .download ∧
      final.internal.req = ⟨.ready, false, none, none, none, none⟩ ∧
      final.internal.imageSize = request.compImageSize.toNat) ⟨state, payload, []⟩ := by
  simp only [updateComponentRsp, Call.wp_bind, wp_internal, Call.wp_ite,
    if_neg (not_not.mpr ready), wp_setFdT1Ts]
  apply withRequest_of_decoded decoded
  simp only [Call.wp_bind, wp_modify, wp_invoke]
  apply ofOps_of_ok answered
  dsimp only
  apply ofOps_of_ok handled
  simp only [Call.wp_ofOutcome]
  apply respond_of_room (UpdateComponentResponse.encode_toBytes _)
  · have hroom := UpdateComponentRequest.length_le_of_decode decoded
    rw [UpdateComponentResponse.length_toBytes]
    simp only [UpdateComponentResponse.codecSizeInBytes, UpdateComponentResponse.new]
    simp only [Option.isSome_none, Bool.false_eq_true, if_false]
    omega
  · intro bytes final
    simp [FdInternal.imageSize, FdInternal.setUpdateFlags, FdInternal.setComponent,
      describedComponent]

end Messages

/-! ## Steps -/

/-- A call takes the update further. -/
structure Closer (images : List (List UInt8)) (campaign : Campaign) (event : FdEvent) :
    Prop where
  live : event.output.outcome ≠ .panic
  stage : Pursuit images event.after (campaign.after event)
  less : (campaign.after event).remaining event.after < campaign.remaining event.before

section Steps

variable {profile : Profile} {images : List (List UInt8)} {state : FdInternal}
  {campaign : Campaign} {events : List FdEvent} {payload : List UInt8} {ops : FdOps}

theorem Campaign.remaining_of_active (active : state.state.isInitiator = true) :
    campaign.remaining state = (campaign.queue.map calls).sum +
      (1 + FirmwareDevice.remaining campaign.image state campaign.noted) := by
  unfold remaining
  cases hstate : state.state with
  | download => rfl
  | verify => rfl
  | apply => rfl
  | activate => rfl
  | _ =>
      rw [hstate] at active
      cases active

/-- Nothing is put into the queue. -/
theorem Campaign.mem_queue_of_after {event : FdEvent} {image : List UInt8}
    (member : image ∈ (campaign.after event).queue) : image ∈ campaign.queue := by
  unfold after at member
  split at member
  · exact member
  · split at member
    · exact member
    · split at member
      · exact List.mem_of_mem_tail member
      · exact member
      · exact member

/-- The transfer size lasts as long as the update. -/
theorem transfers_after (trace : FdTrace profile events state) (updating : state.state ≠ .idle)
    (transfers : 0 < state.maxXferSize.toNat) (input : FdInput) :
    0 < (fdEvent profile state input).after.maxXferSize.toNat := by
  have hsame : (fdEvent profile state input).after.maxXferSize = state.maxXferSize :=
    (trace.step input).maxXferSize updating
  rwa [hsame]

theorem closer_of_announcement {request : RequestUpdateRequest} {size : ℕ}
    (idle : state.state = .idle) (waits : campaign.activated = false)
    (accounted : campaign.written ++ campaign.queue = images)
    (decoded : RequestUpdateRequest.decode payload = .ok request)
    (baseline : pldmFwupBaselineTransferSize ≤ request.maxTransferSize.toNat)
    (answered : ops.getXferSize request.maxTransferSize.toNat = .ok size)
    (positive : 0 < size) (offered : size ≤ request.maxTransferSize.toNat) :
    Closer images campaign (fdEvent profile state ⟨.request .requestUpdate payload, ops⟩) := by
  obtain ⟨live, hstate, hsize⟩ := @request_settles profile state payload ops .requestUpdate
    (fun final => final.state = .learnComponents ∧ final.maxXferSize = UInt32.ofNat size)
    (requestUpdateRsp_announces idle decoded baseline answered)
  have hbefore : (fdEvent profile state ⟨.request .requestUpdate payload, ops⟩).before = state :=
    rfl
  generalize fdEvent profile state ⟨.request .requestUpdate payload, ops⟩ = event at *
  subst hbefore
  have hafter : campaign.after event = campaign := by
    simp [Campaign.after, idle, hstate, FirmwareDeviceState.isInitiator]
  have hfits : size < UInt32.size := offered.trans_lt request.maxTransferSize.toNat_lt
  refine ⟨live, ?_, ?_⟩
  · rw [hafter]
    refine .learning hstate ?_ accounted
    rwa [hsize, UInt32.toNat_ofNat_of_lt' hfits]
  · rw [hafter]
    simp [Campaign.remaining, idle, hstate, waits]

theorem closer_of_table {request : PassComponentTableRequest} {flag : TransferRespFlag}
    {params : FirmwareParameters} {code : ComponentResponseCode}
    (trace : FdTrace profile events state) (learns : state.state = .learnComponents)
    (transfers : 0 < state.maxXferSize.toNat)
    (accounted : campaign.written ++ campaign.queue = images)
    (decoded : PassComponentTableRequest.decode payload = .ok request)
    (flagged : TransferRespFlag.tryFrom request.transferFlag = .ok flag)
    (last : flag = .end ∨ flag = .startAndEnd) (answered : ops.getFirmwareParms = .ok params)
    (handled : ops.handleComponent (FdContext.passedComponent request) params .passComponent =
      .ok code) :
    Closer images campaign (fdEvent profile state ⟨.request .passComponent payload, ops⟩) := by
  obtain ⟨live, hstate⟩ := @request_settles profile state payload ops .passComponent
    (·.state = .readyXfer)
    (passComponentRsp_completes learns decoded flagged last answered handled)
  have htransfers := transfers_after trace (by rw [learns]; nofun) transfers
    ⟨.request .passComponent payload, ops⟩
  have hbefore : (fdEvent profile state ⟨.request .passComponent payload, ops⟩).before = state :=
    rfl
  generalize fdEvent profile state ⟨.request .passComponent payload, ops⟩ = event at *
  subst hbefore
  have hafter : campaign.after event = campaign := by
    simp [Campaign.after, learns, hstate, FirmwareDeviceState.isInitiator]
  refine ⟨live, ?_, ?_⟩
  · rw [hafter]
    exact .ready hstate htransfers accounted
  · rw [hafter]
    simp [Campaign.remaining, learns, hstate]

theorem closer_of_component {request : UpdateComponentRequest} {params : FirmwareParameters}
    {image : List UInt8} {rest : List (List UInt8)} (trace : FdTrace profile events state)
    (ready : state.state = .readyXfer) (transfers : 0 < state.maxXferSize.toNat)
    (accounted : campaign.written ++ campaign.queue = images)
    (next : campaign.queue = image :: rest) (usable : Usable image)
    (decoded : UpdateComponentRequest.decode payload = .ok request)
    (sized : request.compImageSize.toNat = image.length)
    (answered : ops.getFirmwareParms = .ok params)
    (handled : ops.handleComponent (FdContext.describedComponent request) params
      .updateComponent = .ok .compCanBeUpdated) :
    Closer images campaign (fdEvent profile state ⟨.request .updateComponent payload, ops⟩) := by
  obtain ⟨live, hstate, hreq, hsize⟩ := @request_settles profile state payload ops .updateComponent
    (fun final => final.state = .download ∧ final.req = ⟨.ready, false, none, none, none, none⟩ ∧
      final.imageSize = request.compImageSize.toNat)
    (updateComponentRsp_begins ready decoded answered handled)
  have htransfers := transfers_after trace (by rw [ready]; nofun) transfers
    ⟨.request .updateComponent payload, ops⟩
  have hcoherent := FdTrace.coherent (trace.extend _ live)
  have hbefore : (fdEvent profile state ⟨.request .updateComponent payload, ops⟩).before = state :=
    rfl
  generalize fdEvent profile state ⟨.request .updateComponent payload, ops⟩ = event at *
  subst hbefore
  have hactive : event.after.state.isInitiator = true := by
    rw [hstate]
    rfl
  have hafter : campaign.after event =
      { campaign with
        queue := rest
        image := image
        noted := ⟨[], none, campaign.noted.spare⟩ } := by
    simp [Campaign.after, ready, hstate, next, FirmwareDeviceState.isInitiator]
  refine ⟨live, ?_, ?_⟩
  · rw [hafter]
    refine .installing hactive usable ?_ ?_
    · exact .begun hcoherent hstate (congrArg FdReq.state hreq) (congrArg FdReq.complete hreq)
        (hsize.trans sized) htransfers usable.1 _
    · rw [← next]
      exact accounted
  · rw [hafter, Campaign.remaining_of_active hactive]
    simp [Campaign.remaining, remaining, ready, hstate, hreq, next, callsLeft, Campaign.calls]
    omega

theorem closer_of_activation {request : ActivateFirmwareRequest} {code : UInt8} {time : UInt16}
    (ready : state.state = .readyXfer)
    (accounted : campaign.written ++ campaign.queue = images) (finished : campaign.queue = [])
    (decoded : ActivateFirmwareRequest.decode payload = .ok request)
    (clear : ¬ (request.selfContainedActivationReq ≠ 0 ∧ request.selfContainedActivationReq ≠ 1))
    (answered : ops.activate request.selfContainedActivationReq = .ok (code, time))
    (granted : code = PldmBaseCompletionCode.success.toU8 ∨
      code = FwUpdateCompletionCode.activationNotRequired.toU8) (room : 6 ≤ payload.length) :
    Closer images campaign (fdEvent profile state ⟨.request .activateFirmware payload, ops⟩) := by
  obtain ⟨live, hfinal⟩ := @request_settles profile state payload ops .activateFirmware
    (· = FdContext.enterActivate state)
    (activateFirmwareRsp_activates ready decoded clear answered granted room)
  have hstate : (FdContext.enterActivate state).state = .idle := by
    simp [FdContext.enterActivate]
  have hreason : (FdContext.enterActivate state).reason = some .activateFw := by
    simp [FdContext.enterActivate, FdInternal.setFdIdle, FdInternal.setFdState, ready]
  have hbefore : (fdEvent profile state ⟨.request .activateFirmware payload, ops⟩).before = state :=
    rfl
  generalize fdEvent profile state ⟨.request .activateFirmware payload, ops⟩ = event at *
  subst hbefore
  rw [← hfinal] at hstate hreason
  have hafter : campaign.after event = { campaign with activated := true } := by
    simp [Campaign.after, ready, hstate, FirmwareDeviceState.isInitiator]
  refine ⟨live, ?_, ?_⟩
  · rw [hafter]
    rw [finished, List.append_nil] at accounted
    exact .ended ⟨hstate, hreason, rfl, accounted⟩
  · rw [hafter]
    simp [Campaign.remaining, ready, hstate]

/-- A call beside changes nothing that matters. -/
theorem same_of_isAside (coherent : Coherent state) {input : FdInput}
    (aside : FdEvent.isAside (fdEvent profile state input) = true) :
    (fdEvent profile state input).after.state = state.state ∧
      (fdEvent profile state input).after.maxXferSize = state.maxXferSize := by
  rcases after_of_isAside coherent aside with same | ⟨time, same⟩
  · rw [same]
    exact ⟨rfl, rfl⟩
  · rw [same]
    exact ⟨rfl, rfl⟩

theorem closer_of_aside {input : FdInput} (trace : FdTrace profile events state)
    (stage : Pursuit images state campaign) (pending : ¬ Concluded images state campaign)
    (passive : state.state.isInitiator = false)
    (aside : FdEvent.isAside (fdEvent profile state input) = true)
    (spare : 0 < campaign.noted.spare)
    (live : (fdEvent profile state input).output.outcome ≠ .panic) :
    Closer images campaign (fdEvent profile state input) := by
  obtain ⟨hstate, hsize⟩ := same_of_isAside trace.coherent aside
  have hbefore : (fdEvent profile state input).before = state := rfl
  generalize fdEvent profile state input = event at *
  subst hbefore
  have hafter : campaign.after event =
      { campaign with noted := { campaign.noted with spare := campaign.noted.spare - 1 } } := by
    simp [Campaign.after, passive, hstate]
  refine ⟨live, ?_, ?_⟩
  · rw [hafter]
    cases stage with
    | waiting idle waits accounted => exact .waiting (hstate.trans idle) waits accounted
    | learning learns transfers accounted =>
        exact .learning (hstate.trans learns) (hsize ▸ transfers) accounted
    | ready arrived transfers accounted =>
        exact .ready (hstate.trans arrived) (hsize ▸ transfers) accounted
    | installing active => exact absurd (active.symm.trans passive) nofun
    | ended concluded => exact absurd concluded pending
  · rw [hafter]
    cases stage with
    | waiting idle waits => simp [Campaign.remaining, idle, hstate, waits, spare]
    | learning learns => simp [Campaign.remaining, learns, hstate, spare]
    | ready arrived => simp [Campaign.remaining, arrived, hstate, spare]
    | installing active => exact absurd (active.symm.trans passive) nofun
    | ended concluded => exact absurd concluded pending

theorem closer_of_installation {input : FdInput} (active : state.state.isInitiator = true)
    (usable : Usable campaign.image) (installing : Installing campaign.image state campaign.noted)
    (accounted : campaign.written ++ campaign.image :: campaign.queue = images)
    (chosen : Chooses profile campaign.image state campaign.noted input) :
    Closer images campaign (fdEvent profile state input) := by
  have hpending : ¬ Installed campaign.image state campaign.noted := by
    intro installed
    rw [installed.1] at active
    cases active
  have furthers := installing.furthers usable.2 hpending chosen
  have hinstalling := installing.step furthers
  have hbefore : (fdEvent profile state input).before = state := rfl
  generalize fdEvent profile state input = event at *
  subst hbefore
  have hstage := furthers.stage
  have hless := furthers.less
  have hleft := campaign.remaining_of_active active
  by_cases arrived : event.after.state = .readyXfer
  · have hwhole : (campaign.noted.after campaign.image event).stored = campaign.image := by
      by_contra partly
      have hactive := hstage.active fun installed => partly installed.2
      rw [arrived] at hactive
      cases hactive
    have hafter : campaign.after event =
        { campaign with
          noted := campaign.noted.after campaign.image event
          written := campaign.written ++ [campaign.image] } := by
      simp [Campaign.after, active, arrived, hwhole]
    refine ⟨furthers.live, ?_, ?_⟩
    · rw [hafter]
      refine .ready arrived hinstalling.transfers ?_
      rw [List.append_assoc]
      exact accounted
    · rw [hafter, hleft]
      simp only [Campaign.remaining, arrived]
      rw [remaining] at hless
      omega
  · have hactive := hstage.active fun installed => arrived installed.1
    have hafter : campaign.after event =
        { campaign with noted := campaign.noted.after campaign.image event } := by
      simp [Campaign.after, active, arrived]
    refine ⟨furthers.live, ?_, ?_⟩
    · rw [hafter]
      exact .installing hactive usable hinstalling accounted
    · rw [hafter, Campaign.remaining_of_active hactive, hleft]
      dsimp only
      omega

/-! ### Any call -/

namespace Pursuit

variable (stage : Pursuit images state campaign)
include stage

theorem of_idle (idle : state.state = .idle) (pending : ¬ Concluded images state campaign) :
    campaign.activated = false ∧ campaign.written ++ campaign.queue = images := by
  cases stage with
  | waiting _ waits accounted => exact ⟨waits, accounted⟩
  | learning learns => exact absurd (idle.symm.trans learns) nofun
  | ready arrived => exact absurd (idle.symm.trans arrived) nofun
  | installing active =>
      rw [idle] at active
      cases active
  | ended concluded => exact absurd concluded pending

theorem of_learning (learns : state.state = .learnComponents) :
    0 < state.maxXferSize.toNat ∧ campaign.written ++ campaign.queue = images := by
  cases stage with
  | waiting idle => exact absurd (learns.symm.trans idle) nofun
  | learning _ transfers accounted => exact ⟨transfers, accounted⟩
  | ready arrived => exact absurd (learns.symm.trans arrived) nofun
  | installing active =>
      rw [learns] at active
      cases active
  | ended concluded => exact absurd (learns.symm.trans concluded.idle) nofun

theorem of_ready (arrived : state.state = .readyXfer) :
    0 < state.maxXferSize.toNat ∧ campaign.written ++ campaign.queue = images := by
  cases stage with
  | waiting idle => exact absurd (arrived.symm.trans idle) nofun
  | learning learns => exact absurd (arrived.symm.trans learns) nofun
  | ready _ transfers accounted => exact ⟨transfers, accounted⟩
  | installing active =>
      rw [arrived] at active
      cases active
  | ended concluded => exact absurd (arrived.symm.trans concluded.idle) nofun

theorem of_active (active : state.state.isInitiator = true) :
    Usable campaign.image ∧ Installing campaign.image state campaign.noted ∧
      campaign.written ++ campaign.image :: campaign.queue = images := by
  have hother {other : FirmwareDeviceState} (same : state.state = other) :
      other.isInitiator = true := same ▸ active
  cases stage with
  | waiting idle => exact absurd (hother idle) nofun
  | learning learns => exact absurd (hother learns) nofun
  | ready arrived => exact absurd (hother arrived) nofun
  | installing _ usable installing accounted => exact ⟨usable, installing, accounted⟩
  | ended concluded => exact absurd (hother concluded.idle) nofun

end Pursuit

/-- The step lemma. -/
theorem Pursuing.closer {input : FdInput} (pursuing : Pursuing profile images state campaign)
    (pending : ¬ Concluded images state campaign)
    (chosen : Pursues profile state campaign input) :
    Closer images campaign (fdEvent profile state input) := by
  obtain ⟨⟨events, trace⟩, usable, stage⟩ := pursuing
  cases chosen with
  | announcement idle waiting decoded baseline answered positive offered =>
      obtain ⟨waits, accounted⟩ := stage.of_idle idle pending
      exact closer_of_announcement idle waits accounted decoded baseline answered positive offered
  | table learning decoded flagged last answered handled =>
      obtain ⟨transfers, accounted⟩ := stage.of_learning learning
      exact closer_of_table trace learning transfers accounted decoded flagged last answered handled
  | component ready next decoded sized answered handled =>
      obtain ⟨transfers, accounted⟩ := stage.of_ready ready
      exact closer_of_component trace ready transfers accounted next
        (usable _ (next ▸ List.mem_cons_self)) decoded sized answered handled
  | installation active chosen =>
      obtain ⟨fits, installing, accounted⟩ := stage.of_active active
      exact closer_of_installation active fits installing accounted chosen
  | activation ready finished decoded clear answered granted room =>
      obtain ⟨_, accounted⟩ := stage.of_ready ready
      exact closer_of_activation ready accounted finished decoded clear answered granted room
  | aside passive beside spare live =>
      exact closer_of_aside trace stage pending passive beside spare live

/-- An update that has been taken further is still an update. -/
theorem Pursuing.step {input : FdInput} (pursuing : Pursuing profile images state campaign)
    (closer : Closer images campaign (fdEvent profile state input)) :
    Pursuing profile images (fdEvent profile state input).after
      (campaign.after (fdEvent profile state input)) where
  reached := by
    obtain ⟨events, trace⟩ := pursuing.reached
    exact ⟨_, trace.extend input closer.live⟩
  usable image member := pursuing.usable image (Campaign.mem_queue_of_after member)
  stage := closer.stage

theorem toNat_updateComponent {image : List UInt8} (usable : Usable image) :
    (UInt32.ofNat (leValue (u32Bytes (UInt32.ofNat image.length)))).toNat = image.length := by
  have hsmall := usable.2
  rw [leValue_u32Bytes, UInt32.toNat_ofNat_of_lt' (by omega)]

/-- There is a call to choose. -/
theorem Pursuing.exists_pursues (pursuing : Pursuing profile images state campaign)
    (pending : ¬ Concluded images state campaign) :
    ∃ operation ops, ByTheBook operation ∧ Pursues profile state campaign ⟨operation, ops⟩ := by
  obtain ⟨_, usable, stage⟩ := pursuing
  cases stage with
  | waiting idle waits =>
      exact ⟨_, platform 0, .announcement,
        .announcement idle waits rfl (by decide) rfl (by decide) (by decide)⟩
  | learning learns =>
      exact ⟨_, platform 0, .table, .table learns rfl rfl (.inr rfl) rfl rfl⟩
  | ready arrived =>
      cases queue : campaign.queue with
      | nil =>
          exact ⟨_, platform 0, .activation,
            .activation arrived queue rfl (by decide) rfl (.inl rfl) (by decide)⟩
      | cons image rest =>
          have hfits := usable image (queue ▸ List.mem_cons_self)
          exact ⟨_, platform 0, .component (UInt32.ofNat image.length),
            .component arrived queue rfl (toNat_updateComponent hfits) rfl rfl⟩
  | installing active =>
      obtain ⟨operation, ops, booked, chosen⟩ :=
        exists_chooses profile campaign.image state campaign.noted
      exact ⟨operation, ops, booked, .installation active chosen⟩
  | ended concluded => exact absurd concluded pending

theorem pursuing_variant (profile : Profile) (images : List (List UInt8)) :
    (fdSystem profile).Variant (updaters profile) (Concluded images) (Pursuing profile images)
      (fun state campaign => campaign.remaining state) where
  offers := by
    intro state campaign pursuing pending
    obtain ⟨operation, ops, _, chosen⟩ := pursuing.exists_pursues pending
    exact ⟨⟨operation, ops⟩, chosen⟩
  step := by
    intro state campaign input pursuing pending chosen
    have closer := pursuing.closer pending chosen
    exact ⟨_, fdSystem_next_of_live closer.live, pursuing.step closer, closer.less⟩

/-- The beginning of an update on an idle device. -/
theorem Pursuing.begun (trace : FdTrace profile events state) (idle : state.state = .idle)
    (usable : ∀ image ∈ images, Usable image) (spare : ℕ) :
    Pursuing profile images state (.start images spare) :=
  ⟨⟨events, trace⟩, usable, .waiting idle rfl (List.nil_append images)⟩

theorem Campaign.remaining_start (idle : state.state = .idle) (spare : ℕ) :
    (Campaign.start images spare).remaining state = (images.map calls).sum + 3 + spare := by
  simp [remaining, start, idle]
  omega

/-- However the agent, the network and the platform choose among their calls, an idle device
is brought through the whole update: every image is installed, in the order of the components,
and the firmware is activated, within seven calls and two for each byte for every image, three
more, and the calls that are spared. -/
theorem update_completes (trace : FdTrace profile events state) (idle : state.state = .idle)
    (usable : ∀ image ∈ images, Usable image) (spare : ℕ) :
    (fdSystem profile).Within (updaters profile) (Concluded images)
      ((images.map Campaign.calls).sum + 3 + spare) state (.start images spare) :=
  (pursuing_variant profile images).within (.begun trace idle usable spare)
    (Campaign.remaining_start idle spare).le

theorem update_completes_twoComponents :
    (fdSystem .release).Within (updaters .release) (Concluded [[1, 2, 3], [4, 5]]) (27 + 5)
      .default (.start [[1, 2, 3], [4, 5]] 5) := by
  have usable : ∀ image ∈ [[1, 2, 3], [(4 : UInt8), 5]], Usable image := by
    intro image member
    simp only [List.mem_cons, List.not_mem_nil, or_false] at member
    rcases member with rfl | rfl <;> exact ⟨nofun, by decide⟩
  exact update_completes .start rfl usable 5

end Steps

end PldmLib.FirmwareDevice
