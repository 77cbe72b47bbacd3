/-
# The order of an update

A component goes through download, verification and application. The device
keeps no record of what it has been through: it knows its state and the slot of
the last request. The invariant here ties both to the calls made since the
component was accepted, so that a component that is applied can be traced back
to its verification, its download and the request that described it.
-/

import PldmLib.FirmwareDevice.Cancellation
import PldmLib.FirmwareDevice.Timeout

namespace PldmLib.FirmwareDevice

open PldmLib.Machine PldmLib.Protocol PldmLib.Message

/-! ## What has happened to a component -/

/-- `start` is the most recent call of a run that moved the device to `Download`,
and `since` is what followed. -/
structure Session (events : List FdEvent) (start : FdEvent) (since : List FdEvent) : Prop where
  split : ∃ earlier, events = earlier ++ start :: since
  starts : MovesToDownload start
  latest : ∀ event ∈ since, ¬ MovesToDownload event

/-- The call is an `UpdateComponent` request that describes the component. -/
def Describes (event : FdEvent) (component : FirmwareComponent) : Prop :=
  ∃ payload request, event.input.operation = .request .updateComponent payload ∧
    UpdateComponentRequest.decode payload = .ok request ∧
    component = FdContext.describedComponent request

/-- The platform stored data for the component and then said that the download is
complete. -/
def Downloads (event : FdEvent) (component : FirmwareComponent) : Prop :=
  ∃ offset data, [.downloadFwData offset data component (.ok .transferSuccess),
    .isDownloadComplete component true] <:+: event.callbacks

/-- The platform verified the component, and finished doing so. -/
def Verifies (event : FdEvent) (component : FirmwareComponent) : Prop :=
  ∃ progress : ProgressPercent, 100 ≤ progress.value ∧
    .verify component (.ok (.verifySuccess, progress)) ∈ event.callbacks

/-- No cancellation and no timeout took effect in this call: the device is still at
work on its component. -/
structure Undisturbed (event : FdEvent) : Prop where
  stays : event.after.state.isInitiator = true
  noCancel : ¬ CancelTakesEffect event
  noTimeout : ¬ TimesOut event

/-- The component was downloaded in the course of these calls. -/
def Downloaded (component : FirmwareComponent) (since : List FdEvent) : Prop :=
  ∃ event ∈ since, Downloads event component

/-- The component was downloaded, and verified after that. -/
def Verified (component : FirmwareComponent) (since : List FdEvent) : Prop :=
  ∃ first event rest, since = first ++ event :: rest ∧ Downloaded component first ∧
    Verifies event component

theorem Downloaded.append {component : FirmwareComponent} {since : List FdEvent}
    (downloaded : Downloaded component since) (event : FdEvent) :
    Downloaded component (since ++ [event]) := by
  obtain ⟨download, member, downloads⟩ := downloaded
  exact ⟨download, by simp [member], downloads⟩

theorem Verified.append {component : FirmwareComponent} {since : List FdEvent}
    (verified : Verified component since) (event : FdEvent) :
    Verified component (since ++ [event]) := by
  obtain ⟨first, verification, rest, rfl, downloaded, verifies⟩ := verified
  exact ⟨first, verification, rest ++ [event], by simp, downloaded, verifies⟩

/-- The update of a component from the request that described it on: how it
started, and that nothing ended it. -/
structure UnderWay (events : List FdEvent) (component : FirmwareComponent) (start : FdEvent)
    (since : List FdEvent) : Prop where
  session : Session events start since
  described : Describes start component
  undisturbed : ∀ event ∈ since, Undisturbed event

/-! ## What the device knows about it -/

/-- The state and the slot say that the download has succeeded. -/
def DownloadDone (internal : FdInternal) : Prop :=
  internal.state = .verify ∨ internal.state = .apply ∨
    internal.state = .download ∧ internal.req.complete = true ∧ internal.req.result = some 0

/-- The state and the slot say that the verification has succeeded. -/
def VerifyDone (internal : FdInternal) : Prop :=
  internal.state = .apply ∨
    internal.state = .verify ∧ internal.req.complete = true ∧ internal.req.result = some 0

/-- What the device knows has happened. -/
structure Backed (internal : FdInternal) (since : List FdEvent) : Prop where
  downloaded : DownloadDone internal → Downloaded internal.updateComp since
  verified : VerifyDone internal → Verified internal.updateComp since

/-- The invariant: in an operation state there is an update under way, and it has
come as far as the device thinks. -/
def InOrder (events : List FdEvent) (internal : FdInternal) : Prop :=
  internal.state.isInitiator = true →
    ∃ start since, UnderWay events internal.updateComp start since ∧ Backed internal since

/-- How far a call can take an update that stays under way: the device learns of a
success from the platform in this call, or knew of it before. -/
structure Advances (pre : FdInternal) (event : FdEvent) (post : FdInternal) : Prop where
  updateComp : post.updateComp = pre.updateComp
  downloaded : DownloadDone post → DownloadDone pre ∨ Downloads event pre.updateComp
  verified : VerifyDone post →
    VerifyDone pre ∨ DownloadDone pre ∧ Verifies event pre.updateComp

namespace Advances

variable {pre post : FdInternal} {event : FdEvent}

/-- Nothing is learnt from a call that keeps the state and the result. -/
theorem of_same (updateComp : post.updateComp = pre.updateComp) (state : post.state = pre.state)
    (complete : post.req.complete = pre.req.complete)
    (result : post.req.result = pre.req.result) : Advances pre event post where
  updateComp := updateComp
  downloaded done := .inl (by simpa only [DownloadDone, state, complete, result] using done)
  verified done := .inl (by simpa only [VerifyDone, state, complete, result] using done)

/-- Nothing is learnt from a call after which the operation has not succeeded. -/
theorem of_unfinished (updateComp : post.updateComp = pre.updateComp)
    (state : post.state = pre.state)
    (unfinished : ¬ (post.req.complete = true ∧ post.req.result = some 0)) :
    Advances pre event post where
  updateComp := updateComp
  downloaded done := by
    rcases done with done | done | ⟨_, finished⟩
    · exact .inl (.inl (state.symm.trans done))
    · exact .inl (.inr (.inl (state.symm.trans done)))
    · exact absurd finished unfinished
  verified done := by
    rcases done with done | ⟨_, finished⟩
    · exact .inl (.inl (state.symm.trans done))
    · exact absurd finished unfinished

theorem of_touched {log : List Invocation} (touched : Touched log pre post) :
    Advances pre event post :=
  .of_same touched.updateComp touched.state (by rw [touched.req]) (by rw [touched.req])

theorem request {ops : FdOps} {payload : List UInt8} {handler : Handler}
    {outcome : Outcome MsgHandlerError ℕ} {log : List Invocation}
    (step : RequestStep ops payload pre handler outcome post log)
    (active : pre.state.isInitiator = true) (remains : post.state.isInitiator = true) :
    Advances pre event post := by
  rcases step.of_operating remains with touched | ⟨ready, _⟩
  · exact .of_touched touched
  · exact (not_initiator_of_eq active ready rfl).elim

/-- A verification that finished with result 0 has succeeded. -/
theorem verified_of_finished {ops : FdOps} {component : FirmwareComponent}
    {progress : ProgressPercent}
    (ran : OperationKind.verify.answer ops component = .ok (0, progress))
    (finished : pending 0 progress = false) :
    100 ≤ progress.value ∧ ops.verify component = .ok (.verifySuccess, progress) := by
  refine ⟨by simpa [pending] using finished, ?_⟩
  simp only [OperationKind.answer] at ran
  cases hanswer : ops.verify component with
  | error error => simp [hanswer, Except.map] at ran
  | ok answer =>
      obtain ⟨result, percent⟩ := answer
      simp only [hanswer, Except.map, Except.ok.injEq, Prod.mk.injEq] at ran
      obtain ⟨hresult, rfl⟩ := ran
      have hsuccess : result = .verifySuccess := by
        cases result <;> first | rfl | exact absurd hresult (by decide)
      rw [hsuccess]

theorem poll {profile : Profile} {ops : FdOps} {payload final : List UInt8}
    {outcome : Outcome MsgHandlerError ℕ} {returned : Outcome MsgHandlerError Returned}
    {log : List Invocation} {sent : Option FdRequest} {operation : FdOperation}
    (step : PollStep profile ops payload pre outcome post log sent)
    (remains : post.state.isInitiator = true) :
    Advances pre ⟨pre, ⟨operation, ops⟩, ⟨returned, post, final, log⟩⟩ post := by
  have hkept := step.kept.updateComp
  cases step with
  | timedOut => simp [FirmwareDeviceState.isInitiator] at remains
  | transferReported _ _ complete stored => exact .of_same hkept rfl complete.symm stored.symm
  | dataRequested => exact .of_unfinished hkept (by simp) (by simp)
  | operationPending => exact .of_same hkept (by simp) (by simp) (by simp)
  | operationUnsent => exact .of_same hkept (by simp) (by simp) (by simp)
  | @operationReported kind result progress state passed complete ran finished room =>
      by_cases success : result = 0
      · subst success
        cases kind with
        | verify =>
            obtain ⟨hprogress, hverified⟩ := verified_of_finished ran finished
            have hbefore : DownloadDone pre := .inl state
            refine ⟨hkept, fun _ => .inl hbefore, fun _ => .inr ⟨hbefore, progress, hprogress, ?_⟩⟩
            simp [FdEvent.callbacks, FdEvent.log, OperationKind.callback, hverified]
        | apply =>
            exact ⟨hkept, fun _ => .inl (.inr (.inl state)), fun _ => .inl (.inl state)⟩
      · exact .of_unfinished hkept (by simp) (by simpa using success)
  | reportRepeated => exact .of_unfinished hkept rfl (by simp)
  | _ => exact .of_same hkept rfl rfl rfl

theorem response {ops : FdOps} {payload final : List UInt8} {operation : FdOperation}
    {outcome : Outcome MsgHandlerError PUnit} {returned : Outcome MsgHandlerError Returned}
    {log : List Invocation} (step : ResponseStep ops payload pre outcome post log)
    (remains : post.state.isInitiator = true) :
    Advances pre ⟨pre, ⟨operation, ops⟩, ⟨returned, post, final, log⟩⟩ post := by
  have hkept := step.kept.updateComp
  cases step with
  | @dataRejected _ _ result _ _ _ failed =>
      refine .of_unfinished hkept rfl ?_
      rintro ⟨_, success⟩
      have hzero : result.toU8 = 0 := Option.some.inj success
      exact failed (by cases result <;> first | rfl | exact absurd hzero (by decide))
  | dataStored => exact .of_unfinished hkept rfl (by simp)
  | @dataCompleted offset data accepted delivery ran done =>
      refine ⟨hkept, fun _ => .inr ⟨offset.toNat, data, [.now], [], rfl⟩, fun verified => ?_⟩
      simp [VerifyDone, delivery.state] at verified
  | transferAborted => exact .of_unfinished hkept rfl (by simp; decide)
  | acknowledged accepted active complete success =>
      cases hstate : pre.state with
      | download =>
          rw [hstate] at hkept
          refine ⟨hkept, fun _ => .inl (.inr (.inr ⟨hstate, complete, success⟩)), ?_⟩
          simp [VerifyDone, hstate, advance, FdContext.enterVerify]
      | verify =>
          rw [hstate] at hkept
          refine ⟨hkept, fun _ => .inl (.inl hstate), fun _ => .inl (.inr ?_)⟩
          exact ⟨hstate, complete, success⟩
      | apply =>
          simp [hstate, advance, FdContext.leaveApply, FirmwareDeviceState.isInitiator] at remains
      | _ =>
          rw [hstate] at active
          cases active
  | disappointed _ _ _ failure => exact .of_unfinished hkept rfl (by simpa using failure)
  | _ => exact .of_same hkept rfl rfl rfl

/-- The step lemma for a call within an update. -/
theorem step {profile : Profile} {input : FdInput} {output : FdOutput}
    {sent : Option FdRequest} (step : FdStep profile pre input output sent)
    (active : pre.state.isInitiator = true)
    (remains : output.internal.state.isInitiator = true) :
    Advances pre ⟨pre, input, output⟩ output.internal := by
  cases step with
  | request step => exact .request step active remains
  | poll step => exact .poll step remains
  | response step => exact .response step remains
  | touch => exact .of_same rfl rfl rfl rfl
  | query => exact .of_same rfl rfl rfl rfl

end Advances

/-- A call after which the device is still in an operation state was not the end of
the update. -/
theorem undisturbed_of_active {profile : Profile} {pre : FdInternal} {input : FdInput}
    {output : FdOutput} {sent : Option FdRequest} (step : FdStep profile pre input output sent)
    (remains : output.internal.state.isInitiator = true) :
    Undisturbed ⟨pre, input, output⟩ := by
  refine ⟨remains, ?_, ?_⟩
  · intro effect
    have hpassive := isResting_iff (step.left_of_cancel effect).1
    exact absurd (hpassive.symm.trans remains) nofun
  · intro timesOut
    rw [step.idle_of_timesOut timesOut] at remains
    cases remains

/-- The step lemma. -/
theorem inOrder_step {profile : Profile} {events : List FdEvent} {pre : FdInternal}
    {input : FdInput} {output : FdOutput} {sent : Option FdRequest}
    (step : FdStep profile pre input output sent) (inOrder : InOrder events pre) :
    InOrder (events ++ [⟨pre, input, output⟩]) output.internal := by
  intro remains
  by_cases starts : MovesToDownload ⟨pre, input, output⟩
  · obtain ⟨payload, request, time, hoperation, decoded, _, _, _, hpost⟩ :=
      step.of_movesToDownload starts
    refine ⟨⟨pre, input, output⟩, [], ⟨⟨⟨events, rfl⟩, starts, by simp⟩, ?_, by simp⟩, ?_⟩
    · refine ⟨payload, request, hoperation, decoded, ?_⟩
      rw [hpost, FdContext.enterDownload_updateComp]
      rfl
    · constructor <;> simp [hpost, DownloadDone, VerifyDone, FdContext.enterDownload]
  · have hactive : pre.state.isInitiator = true := by
      by_contra passive
      have hleft := passive_step step (by simpa using passive) starts
      exact absurd (hleft.symm.trans remains) (by rintro ⟨⟩)
    obtain ⟨start, since, underWay, backed⟩ := inOrder hactive
    obtain ⟨hsame, hdownloaded, hverified⟩ := Advances.step step hactive remains
    obtain ⟨earlier, rfl⟩ := underWay.session.split
    refine ⟨start, since ++ [⟨pre, input, output⟩], ⟨⟨⟨earlier, by simp⟩,
      underWay.session.starts, ?_⟩, by rw [hsame]; exact underWay.described, ?_⟩, ?_, ?_⟩
    · simpa [or_imp, forall_and] using ⟨underWay.session.latest, starts⟩
    · simpa [or_imp, forall_and] using
        ⟨underWay.undisturbed, undisturbed_of_active step remains⟩
    · intro done
      rw [hsame]
      rcases hdownloaded done with already | now
      · exact (backed.downloaded already).append _
      · exact ⟨_, by simp, now⟩
    · intro done
      rw [hsame]
      rcases hverified done with already | ⟨downloaded, now⟩
      · exact (backed.verified already).append _
      · exact ⟨since, _, [], rfl, backed.downloaded downloaded, now⟩

/-- The run lemma. -/
theorem inOrder_of_trace {profile : Profile} {events : List FdEvent} {state : FdInternal}
    (trace : FdTrace profile events state) : InOrder events state := by
  refine (FdRun.induct trace Coherent.init InOrder (fun active => by cases active) ?_).1
  intro events pre input output sent _ inOrder step _ _
  exact inOrder_step step inOrder

/-! ## Verification before application -/

/-- The component is the one whose download the agent started last; it was
downloaded, and nothing ended the update since. -/
def MayVerify (events : List FdEvent) (component : FirmwareComponent) : Prop :=
  ∃ start since, UnderWay events component start since ∧ Downloaded component since

/-- Moreover it was verified after the download. -/
def MayApply (events : List FdEvent) (component : FirmwareComponent) : Prop :=
  ∃ start since, UnderWay events component start since ∧ Verified component since

/-- In every run, whatever the agent sends and the platform answers, a component is
applied only after it was downloaded and verified, and verified only after it was
downloaded. -/
theorem applies_only_verified {profile : Profile} {events : List FdEvent} {state : FdInternal}
    (trace : FdTrace profile events state) (input : FdInput) :
    (∀ component answer, .apply component answer ∈ (fdEvent profile state input).callbacks →
      MayApply events component) ∧
    ∀ component answer, .verify component answer ∈ (fdEvent profile state input).callbacks →
      MayVerify events component := by
  have hstep := trace.step input
  constructor
  · intro component answer member
    obtain ⟨kind, hstate, hcallback⟩ :=
      hstep.of_operation ((mem_works rfl).mp member) (.inr ⟨_, _, rfl⟩)
    cases kind with
    | verify => cases hcallback
    | apply =>
        injection hcallback with hcomponent
        obtain ⟨start, since, underWay, backed⟩ :=
          inOrder_of_trace trace (by rw [hstate]; rfl)
        rw [hcomponent]
        exact ⟨start, since, underWay, backed.verified (.inl hstate)⟩
  · intro component answer member
    obtain ⟨kind, hstate, hcallback⟩ :=
      hstep.of_operation ((mem_works rfl).mp member) (.inl ⟨_, _, rfl⟩)
    cases kind with
    | apply => cases hcallback
    | verify =>
        injection hcallback with hcomponent
        obtain ⟨start, since, underWay, backed⟩ :=
          inOrder_of_trace trace (by rw [hstate]; rfl)
        rw [hcomponent]
        exact ⟨start, since, underWay, backed.downloaded (.inl hstate)⟩

theorem applies_only_verified_opening : ∃ events state component answer,
    FdTrace .release events state ∧
      .apply component answer ∈ (fdEvent .release state (poll (platform 7))).callbacks ∧
      MayApply events component := by
  obtain ⟨events, state, trace, hcheck⟩ := exists_run .release (throughVerification 100)
    (fun _ state => .apply state.updateComp (.ok (.applySuccess, ⟨100, by decide⟩)) ∈
      (fdEvent .release state (poll (platform 7))).callbacks) (by decide +kernel)
  have happlies := of_decide_eq_true hcheck
  exact ⟨events, state, _, _, trace, happlies,
    (applies_only_verified trace (poll (platform 7))).1 _ _ happlies⟩

end PldmLib.FirmwareDevice
