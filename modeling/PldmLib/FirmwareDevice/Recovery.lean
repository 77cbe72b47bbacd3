/-
# The way back to `Idle`

Whatever has happened to a device, an agent can bring it back to `Idle`. What it takes
depends on the state: the component table is completed, an operation is cancelled, the
firmware is activated, and where a successful application waits for its acknowledgement,
which cannot be cancelled, it is acknowledged. Two messages are always enough, and it does
not matter what else the device is called for in between, as long as it is not kept busy for
ever.

From `Idle` any component can be updated. So there is no history after which a device could
not be updated any more.
-/

import PldmLib.FirmwareDevice.Installation
import PldmLib.FirmwareDevice.PlatformAnswer
import PldmLib.FirmwareDevice.StateMachine

namespace PldmLib.FirmwareDevice

open PldmLib.Machine PldmLib.Protocol PldmLib.Message

/-! ## Leaving an update -/

/-- The calls that lead towards `Idle`: well-formed messages of the agent, to a platform that
grants what it is asked for. -/
inductive Urges (state : FdInternal) : FdInput → Prop
  | table {payload : List UInt8} {ops : FdOps} {request : PassComponentTableRequest}
      {flag : TransferRespFlag} {params : FirmwareParameters} {code : ComponentResponseCode}
      (learning : state.state = .learnComponents)
      (decoded : PassComponentTableRequest.decode payload = .ok request)
      (flagged : TransferRespFlag.tryFrom request.transferFlag = .ok flag)
      (last : flag = .end ∨ flag = .startAndEnd) (answered : ops.getFirmwareParms = .ok params)
      (handled : ops.handleComponent (FdContext.passedComponent request) params .passComponent =
        .ok code) :
      Urges state ⟨.request .passComponent payload, ops⟩
  | activation {payload : List UInt8} {ops : FdOps} {request : ActivateFirmwareRequest}
      {code : UInt8} {time : UInt16} (ready : state.state = .readyXfer)
      (decoded : ActivateFirmwareRequest.decode payload = .ok request)
      (clear : ¬ (request.selfContainedActivationReq ≠ 0 ∧ request.selfContainedActivationReq ≠ 1))
      (answered : ops.activate request.selfContainedActivationReq = .ok (code, time))
      (granted : code = PldmBaseCompletionCode.success.toU8 ∨
        code = FwUpdateCompletionCode.activationNotRequired.toU8) (room : 6 ≤ payload.length) :
      Urges state ⟨.request .activateFirmware payload, ops⟩
  | cancellation {payload : List UInt8} {ops : FdOps}
      (cancels : FdContext.shouldCancel state = some true)
      (requested : CancelRequested payload ops state) :
      Urges state ⟨.request .cancelUpdate payload, ops⟩
  | acknowledgement {payload : List UInt8} {ops : FdOps} (applied : AwaitsApplied state)
      (answers : accepts state.req payload = true) :
      Urges state ⟨.handleResponse payload, ops⟩

/-- A call that has nothing to do with it. -/
def FdEvent.isAside (event : FdEvent) : Bool :=
  event.before.ignores event.input || event.input.operation == .setFdT1Ts

/-- An agent that wants the device to be idle, and a number of other calls. -/
def rescuers (profile : Profile) : Environment FdInternal FdInput FdOutput ℕ where
  allows state spare input := Urges state input ∨
    FdEvent.isAside (fdEvent profile state input) = true ∧ 0 < spare ∧
      (fdEvent profile state input).output.outcome ≠ .panic
  react spare event := if FdEvent.isAside event then spare - 1 else spare

/-- The messages that it takes. -/
def messagesLeft (internal : FdInternal) : ℕ :=
  match internal.state with
  | .idle => 0
  | .learnComponents => 2
  | .readyXfer => 1
  | .activate => 0
  | _ => if FdContext.shouldCancel internal = some true then 1 else 2

theorem messagesLeft_of_initiator {internal : FdInternal}
    (active : internal.state.isInitiator = true) : messagesLeft internal =
      if FdContext.shouldCancel internal = some true then 1 else 2 := by
  unfold messagesLeft
  cases hstate : internal.state with
  | download => rfl
  | verify => rfl
  | apply => rfl
  | _ =>
      rw [hstate] at active
      cases active

section Messages

variable {profile : Profile} {events : List FdEvent} {state : FdInternal} {payload : List UInt8}
  {ops : FdOps}

open FdContext FdCall

/-- What is not cancelled waits to be acknowledged. -/
theorem FdTrace.awaitsApplied (trace : FdTrace profile events state)
    (active : state.state.isInitiator = true) (spared : shouldCancel state ≠ some true) :
    AwaitsApplied state := by
  have hslot := trace.coherent.slot active
  have hfailed := failed_result trace
  cases hstate : state.state with
  | download => simp [shouldCancel, hstate] at spared
  | verify => simp [shouldCancel, hstate] at spared
  | apply =>
      have hdone : state.req.complete = true ∧
          state.req.result = some ApplyResult.applySuccess.toU8 := by
        simpa [shouldCancel, hstate] using spared
      refine ⟨hstate, ?_, hdone.1, hdone.2⟩
      rw [hstate] at hslot
      generalize state.req = req at hslot hdone hfailed ⊢
      cases hslot with
      | working => cases hdone.1
      | reported => rfl
      | failed => exact absurd hdone.2 (hfailed rfl)
  | _ =>
      rw [hstate] at active
      cases active

/-- A request that is decoded is handled. -/
theorem withRequest_of_decoded {β : Type} {decode : List UInt8 → Except PldmCodecError β}
    {handle : β → FdCall ℕ} {post : Outcome MsgHandlerError ℕ → CallState → Prop}
    {call : CallState} {request : β} (decoded : decode call.payload = .ok request)
    (handled : (handle request).wp post call) : (withRequest decode handle).wp post call := by
  apply withRequest_rule
  · intro error failed
    exact absurd (decoded.symm.trans failed) nofun
  · intro other decoded'
    obtain rfl := Except.ok.inj (decoded.symm.trans decoded')
    exact handled

/-- A response for which there is room is written. -/
theorem respond_of_room {encoder : Encoder} {message : List UInt8}
    {commit : FdInternal → FdInternal} {post : Outcome MsgHandlerError ℕ → CallState → Prop}
    {call : CallState}
    (encodes : encoder = writeToPrefix message) (room : message.length ≤ call.payload.length)
    (written : ∀ bytes final,
      post (.ok bytes) { call with internal := commit call.internal, payload := final }) :
    (FdCall.respond encoder commit).wp post call := by
  subst encodes
  apply respond_rule
  · intro bytes final _
    exact written bytes final
  · intro unwritten
    exact absurd (writeToPrefix_of_le room) (unwritten _ _)

theorem ofOps_of_ok {β : Type} {result : Except FdOpsError β} {value : β}
    {post : Outcome MsgHandlerError β → CallState → Prop} {call : CallState}
    (answered : result = .ok value) (holds : post (.ok value) call) :
    (ofOps result).wp post call := by
  subst answered
  exact holds

/-- What a handler that does not panic leaves behind, the call does. -/
theorem request_settles {handler : Handler} {holds : FdInternal → Prop}
    (rule : (handler.run ops).wp (fun outcome final => outcome ≠ .panic ∧ holds final.internal)
      ⟨state, payload, []⟩) :
    (fdEvent profile state ⟨.request handler payload, ops⟩).output.outcome ≠ .panic ∧
      holds (fdEvent profile state ⟨.request handler payload, ops⟩).after := by
  obtain ⟨outcome, final, ⟨live, settled⟩, houtcome, hafter, _⟩ :=
    @request_rule profile state handler payload ops _ rule
  rw [houtcome, hafter]
  exact ⟨fun panicked => live (Outcome.map_eq_panic.mp panicked), settled⟩

/-- The end of the component table. -/
theorem passComponentRsp_completes {request : PassComponentTableRequest} {flag : TransferRespFlag}
    {params : FirmwareParameters} {code : ComponentResponseCode}
    (learning : state.state = .learnComponents)
    (decoded : PassComponentTableRequest.decode payload = .ok request)
    (flagged : TransferRespFlag.tryFrom request.transferFlag = .ok flag)
    (last : flag = .end ∨ flag = .startAndEnd) (answered : ops.getFirmwareParms = .ok params)
    (handled : ops.handleComponent (passedComponent request) params .passComponent = .ok code) :
    (passComponentRsp ops).wp (fun outcome final => outcome ≠ .panic ∧
      final.internal.state = .readyXfer) ⟨state, payload, []⟩ := by
  simp only [passComponentRsp, Call.wp_bind, wp_internal, Call.wp_ite,
    if_neg (not_not.mpr learning), wp_setFdT1Ts]
  apply withRequest_of_decoded decoded
  simp only [flagged, Call.wp_bind, wp_invoke]
  apply ofOps_of_ok answered
  dsimp only
  apply ofOps_of_ok handled
  apply respond_of_room rfl
  · exact length_of_passComponentTable decoded
  · intro bytes final
    simp only [if_pos last, FdInternal.setFdState_state, ne_eq, reduceCtorEq, not_false_eq_true,
      and_self]

/-- An activation that is granted. -/
theorem activateFirmwareRsp_activates {request : ActivateFirmwareRequest} {code : UInt8}
    {time : UInt16} (ready : state.state = .readyXfer)
    (decoded : ActivateFirmwareRequest.decode payload = .ok request)
    (clear : ¬ (request.selfContainedActivationReq ≠ 0 ∧ request.selfContainedActivationReq ≠ 1))
    (answered : ops.activate request.selfContainedActivationReq = .ok (code, time))
    (granted : code = PldmBaseCompletionCode.success.toU8 ∨
      code = FwUpdateCompletionCode.activationNotRequired.toU8) (room : 6 ≤ payload.length) :
    (activateFirmwareRsp ops).wp (fun outcome final => outcome ≠ .panic ∧
      final.internal = enterActivate state) ⟨state, payload, []⟩ := by
  simp only [activateFirmwareRsp, Call.wp_bind, wp_internal, Call.wp_ite,
    if_neg (not_not.mpr ready)]
  apply withRequest_of_decoded decoded
  simp only [if_neg clear, Call.wp_bind, wp_invoke]
  apply ofOps_of_ok answered
  apply respond_of_room rfl
  · exact room
  · intro bytes final
    simp only [if_pos granted, ne_eq, reduceCtorEq, not_false_eq_true, and_self]

/-- What a message is good for: it does not panic, and one message less is left. -/
theorem Urges.closer {input : FdInput} (urges : Urges state input)
    (trace : FdTrace profile events state) :
    (fdEvent profile state input).output.outcome ≠ .panic ∧
      messagesLeft (fdEvent profile state input).after < messagesLeft state := by
  cases urges with
  | table learning decoded flagged last answered handled =>
      obtain ⟨live, hstate⟩ := @request_settles profile state _ _ .passComponent
        (·.state = .readyXfer)
        (passComponentRsp_completes learning decoded flagged last answered handled)
      exact ⟨live, by simp [messagesLeft, hstate, learning]⟩
  | activation ready decoded clear answered granted room =>
      obtain ⟨live, hfinal⟩ := @request_settles profile state _ _ .activateFirmware
        (· = enterActivate state)
        (activateFirmwareRsp_activates ready decoded clear answered granted room)
      exact ⟨live, by simp [messagesLeft, hfinal, ready, enterActivate]⟩
  | cancellation cancels requested =>
      have hactive := isInitiator_of_shouldCancel cancels
      have hupdating : state.state ≠ .idle := by
        intro idle
        rw [idle] at hactive
        cases hactive
      obtain ⟨outcome, final, ⟨rfl, _, hfinal⟩, houtcome, hafter, _⟩ :=
        @request_rule profile state .cancelUpdate _ _ _
          (cancelUpdateRsp_answers hupdating requested)
      refine ⟨?_, ?_⟩
      · rw [houtcome]
        rintro ⟨⟩
      · rw [cancels] at hfinal
        rw [messagesLeft_of_initiator hactive, if_pos cancels, hafter, hfinal]
        simp [messagesLeft]
  | @acknowledgement payload ops applied answers =>
      obtain ⟨live, _⟩ := response_step profile trace.coherent payload ops
      have hactive : state.state.isInitiator = true := by
        rw [applied.state]
        rfl
      have outstanding : Outstanding state 0 := ⟨hactive, applied.sent, applied.complete,
        applied.success, fun _ => ⟨.transferSuccess, rfl, rfl⟩⟩
      refine ⟨live, ?_⟩
      rw [outstanding.answered trace.coherent answers, messagesLeft_of_initiator hactive]
      have hspared : shouldCancel state ≠ some true := by
        simp [shouldCancel, applied.state, applied.complete, applied.success]
      have hready : (settle state.state 0 (state.setFdT1UpdateTs (ops.now 0))).state =
          .readyXfer := by
        rw [applied.state]
        show (advance .apply _).state = successor .apply
        exact advance_state rfl
      rw [if_neg hspared]
      simp [messagesLeft, hready]

/-- What is accepted has a header. -/
theorem headed_of_accepts {req : FdReq} (answers : accepts req payload = true) :
    pldmMsgHeaderLen ≤ payload.length := by
  rw [accepts, PldmMsgHeader.decode_eq] at answers
  split at answers
  · next header decoded =>
      split at decoded
      · exact Nat.le_add_left 3 _
      · cases decoded
  · cases answers

/-- There is always such a message. -/
theorem FdTrace.exists_urges (trace : FdTrace profile events state)
    (updating : state.state ≠ .idle) :
    ∃ operation ops, ByTheBook operation ∧ Urges state ⟨operation, ops⟩ := by
  by_cases active : state.state.isInitiator = true
  · by_cases cancels : shouldCancel state = some true
    · have requested : CancelRequested (Agent.plainRequest .cancelUpdate 10) (platform 0) state :=
        ⟨⟨_, rfl⟩, by decide, rfl, ⟨_, rfl⟩⟩
      exact ⟨_, _, .cancellation, .cancellation cancels requested⟩
    · have applied := trace.awaitsApplied active cancels
      obtain ⟨response, answers, _⟩ := trace.coherent.loses_of_realloc active applied.sent
      exact ⟨.handleResponse response, platform 0, .answer (headed_of_accepts answers),
        .acknowledgement applied answers⟩
  · cases hstate : state.state with
    | idle => exact absurd hstate updating
    | learnComponents =>
        exact ⟨_, platform 0, .table, .table hstate rfl rfl (.inr rfl) rfl rfl⟩
    | readyXfer =>
        exact ⟨_, platform 0, .activation,
          .activation hstate rfl (by decide) rfl (.inl rfl) (by decide)⟩
    | activate => exact absurd hstate trace.ne_activate
    | _ =>
        rw [hstate] at active
        exact absurd rfl active

/-- A call beside restarts the timer at most. -/
theorem after_of_isAside (coherent : Coherent state) {input : FdInput}
    (aside : FdEvent.isAside (fdEvent profile state input) = true) :
    (fdEvent profile state input).after = state ∨
      ∃ time, (fdEvent profile state input).after = state.setFdT1UpdateTs time := by
  obtain ⟨operation, answers⟩ := input
  rcases Bool.or_eq_true_iff.mp aside with ignored | touches
  · exact .inl (unmoved_of_ignores coherent ignored)
  · obtain rfl : operation = .setFdT1Ts := beq_iff_eq.mp touches
    exact .inr ⟨_, rfl⟩

/-- It does not make the way longer. -/
theorem messagesLeft_of_isAside (coherent : Coherent state) {input : FdInput}
    (aside : FdEvent.isAside (fdEvent profile state input) = true) :
    messagesLeft (fdEvent profile state input).after = messagesLeft state := by
  rcases after_of_isAside coherent aside with same | ⟨time, same⟩
  · rw [same]
  · rw [same]
    rfl

theorem rescue_variant (profile : Profile) :
    (fdSystem profile).Variant (rescuers profile) (fun internal _ => internal.state = .idle)
      (fun internal _ => ∃ events, FdTrace profile events internal)
      (fun internal spare => messagesLeft internal + spare) where
  offers := by
    rintro state spare ⟨events, trace⟩ updating
    obtain ⟨operation, ops, _, urges⟩ := trace.exists_urges updating
    exact ⟨⟨operation, ops⟩, .inl urges⟩
  step := by
    rintro state spare input ⟨events, trace⟩ updating (urges | ⟨aside, more, live⟩)
    · obtain ⟨live, closer⟩ := urges.closer trace
      refine ⟨_, fdSystem_next_of_live live, ⟨_, FdRun.extend trace input live⟩, ?_⟩
      dsimp only [rescuers]
      split
      · omega
      · omega
    · refine ⟨_, fdSystem_next_of_live live, ⟨_, FdRun.extend trace input live⟩, ?_⟩
      have hsame := messagesLeft_of_isAside trace.coherent aside
      have haside : FdEvent.isAside ((fdSystem profile).event state input) = true := aside
      dsimp only [rescuers]
      rw [hsame, if_pos haside]
      omega

/-- The device is idle within the messages that are left. -/
theorem FdTrace.rescued (trace : FdTrace profile events state) (spare : ℕ) :
    (fdSystem profile).Within (rescuers profile) (fun internal _ => internal.state = .idle)
      (messagesLeft state + spare) state spare :=
  (rescue_variant profile).within ⟨events, trace⟩ (Nat.le_refl _)

theorem messagesLeft_le (internal : FdInternal) : messagesLeft internal ≤ 2 := by
  unfold messagesLeft
  split
  · exact Nat.zero_le _
  · exact Nat.le_refl _
  · exact Nat.le_succ 1
  · exact Nat.zero_le _
  · split
    · exact Nat.le_succ 1
    · exact Nat.le_refl _

end Messages

/-! ## A whole update -/

section Updates

variable {profile : Profile} {events : List FdEvent} {state : FdInternal} {image : List UInt8}

/-- From `Idle` the opening leads to a download, as it does on a fresh device. -/
theorem replay_opening (idle : state.state = .idle) (imageSize : UInt32) : ∃ run,
    (fdSystem profile).replay state (opening imageSize) = some run ∧
      run.2.state = .download ∧ run.2.req = ⟨.ready, false, none, none, none, none⟩ ∧
      run.2.updateComp.compImageSize = some imageSize ∧ run.2.maxXferSize = 512 := by
  have hsize : UInt32.ofNat (leValue (u32Bytes imageSize)) = imageSize := by
    rw [u32Bytes, leValue_leBytes imageSize.toNat_lt, UInt32.ofNat_toNat]
  obtain ⟨run, hrun, hstate, hreq, hcomp, hmax⟩ : ∃ run,
      (fdSystem profile).replay state (opening imageSize) = some run ∧
        run.2.state = .download ∧ run.2.req = ⟨.ready, false, none, none, none, none⟩ ∧
        run.2.updateComp.compImageSize = some (UInt32.ofNat (leValue (u32Bytes imageSize))) ∧
        run.2.maxXferSize = 512 := by
    obtain ⟨_⟩ := state
    cases idle
    cases profile <;> exact ⟨_, rfl, rfl, rfl, rfl, rfl⟩
  exact ⟨run, hrun, hstate, hreq, by rw [hcomp, hsize], hmax⟩

/-- What is stored at the end of a play has been stored in its calls. -/
theorem stored_of_play {origin : FdInternal} {before noted : Surroundings}
    (play : (fdSystem profile).Play (surroundings profile image) origin before events state noted) :
    noted.stored = (events.flatMap FdEvent.callbacks).foldl store before.stored := by
  induction play with
  | start => rfl
  | move prior input allowed live ih =>
      rw [List.flatMap_append, List.foldl_append, ← ih]
      simp [surroundings, Surroundings.after]

/-- Whatever has happened to a device, any image can still be installed on it: there is a way
to go on, through an installation that stores exactly the image, to an activation. -/
theorem update_possible (trace : FdTrace profile events state) (nonempty : image ≠ [])
    (small : image.length + 32 < UInt32.size) :
    ∃ preparing installing concluding final,
      FdTrace profile (events ++ preparing ++ installing ++ concluding) final ∧
      (installing.flatMap FdEvent.callbacks).foldl store [] = image ∧
      final.state = .idle ∧ final.prevState = .activate ∧ final.reason = some .activateFw := by
  obtain ⟨leaving, idle, _, rescue, _, hidle⟩ := (trace.rescued 0).exists_play
  obtain ⟨run, hrun, hdownload, hreq, hsize, hmax⟩ :=
    @replay_opening profile idle hidle (UInt32.ofNat image.length)
  have opened : FdTrace profile (events ++ (leaving ++ run.1)) run.2 :=
    System.Trace.append trace (System.Trace.append rescue.trace (System.trace_of_replay hrun))
  have hannounced : run.2.imageSize = image.length := by
    rw [FdInternal.imageSize, hsize]
    exact UInt32.toNat_ofNat_of_lt' (by omega)
  have begun : Installing image run.2 ⟨[], none, 0⟩ := by
    apply Installing.begun opened.coherent hdownload (congrArg FdReq.state hreq)
      (congrArg FdReq.complete hreq) hannounced _ nonempty
    rw [hmax]
    decide
  obtain ⟨installing, ready, noted, play, _, hready, hwhole⟩ :=
    (@Installing.within profile _ _ _ begun small).exists_play
  obtain ⟨live, hfinal⟩ := @request_settles profile ready (Agent.plainRequest .activateFirmware 3)
    (platform 0) .activateFirmware (· = FdContext.enterActivate ready)
    (activateFirmwareRsp_activates hready rfl (by decide) rfl (.inl rfl) (by decide))
  have installed : FdTrace profile (events ++ (leaving ++ run.1) ++ installing) ready :=
    System.Trace.append opened play.trace
  refine ⟨leaving ++ run.1, installing, _, _, installed.extend ⟨.request .activateFirmware
    (Agent.plainRequest .activateFirmware 3), platform 0⟩ live, ?_, ?_⟩
  · exact (stored_of_play play).symm.trans hwhole
  · rw [hfinal]
    simp [FdContext.enterActivate, FdInternal.setFdIdle, FdInternal.setFdState, hready]

theorem update_possible_opening : ∃ events state, FdTrace .release events state ∧
    ∃ preparing installing concluding final,
      FdTrace .release (events ++ preparing ++ installing ++ concluding) final ∧
      (installing.flatMap FdEvent.callbacks).foldl store [] = List.replicate 64 7 ∧
      final.state = .idle ∧ final.prevState = .activate ∧ final.reason = some .activateFw := by
  obtain ⟨events, state, trace, _⟩ := opening_downloads .release 100
  exact ⟨events, state, trace, update_possible trace (by decide) (by decide)⟩

end Updates

end PldmLib.FirmwareDevice
