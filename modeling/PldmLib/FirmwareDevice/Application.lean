/-
# A component that has been applied

Once a component has been applied there is nothing left to cancel. Two of the
three paths that cancel look at the stored result to find out, the third does not
look at all, and what is stored is the result of the last report, not that of the
application.
-/

import PldmLib.FirmwareDevice.Report

namespace PldmLib.FirmwareDevice

open PldmLib.Machine PldmLib.Protocol PldmLib.Message

/-! ## Where the platform is told to cancel -/

/-- The call makes the device cancel: a request of the agent, or its silence. -/
def AsksToCancel (input : FdInput) (internal : FdInternal) : Prop :=
  (∃ handler payload, input.operation = .request handler payload ∧ handler.isCancel = true ∧
    FdContext.shouldCancel internal = some true) ∨
  ∃ payload, input.operation = .fdProgress payload ∧ internal.state.isInitiator = true ∧
    silent input.ops internal = true

section Steps

variable {profile : Profile} {pre : FdInternal} {input : FdInput} {output : FdOutput}
  {sent : Option FdRequest}

/-- A request that should cancel does. -/
theorem RequestStep.works_of_shouldCancel {ops : FdOps} {payload : List UInt8}
    {post : FdInternal} {handler : Handler} {outcome : Outcome MsgHandlerError ℕ}
    {log : List Invocation} (step : RequestStep ops payload pre handler outcome post log)
    (cancels : handler.isCancel = true) (effective : FdContext.shouldCancel pre = some true) :
    ∃ answer, works log = [.cancelUpdateComponent pre.updateComp answer] := by
  cases step with
  | quiet _ _ spared => exact absurd effective (spared cancels)
  | cancelRefused _ _ _ _ worked => exact ⟨_, worked⟩
  | cancelLost _ _ _ _ _ worked => exact ⟨_, worked⟩
  | componentCancelled _ _ _ _ worked => exact ⟨_, worked⟩
  | updateCancelled _ _ _ _ worked => exact ⟨_, worked⟩
  | _ => cases cancels

/-- So does a poll that finds the agent silent. -/
theorem PollStep.works_of_silent {ops : FdOps} {payload : List UInt8} {post : FdInternal}
    {outcome : Outcome MsgHandlerError ℕ} {log : List Invocation}
    (step : PollStep profile ops payload pre outcome post log sent)
    (active : pre.state.isInitiator = true) (silence : silent ops pre = true) :
    ∃ answer, works log = [.cancelUpdateComponent pre.updateComp answer] := by
  have hshut (passed : Open ops pre) : False := by
    rw [passed.heard] at silence
    cases silence
  cases step with
  | inactive passive => exact absurd (passive.symm.trans active) nofun
  | timedOut => exact ⟨_, rfl⟩
  | timeoutRefused => exact ⟨_, rfl⟩
  | undue _ heard => exact absurd (heard.symm.trans silence) nofun
  | transferUnsent _ passed => exact (hshut passed).elim
  | transferUnknown _ passed => exact (hshut passed).elim
  | transferReported _ passed => exact (hshut passed).elim
  | rangeUnknown _ passed => exact (hshut passed).elim
  | rangeRefused _ passed => exact (hshut passed).elim
  | rangeOverflowed _ passed => exact (hshut passed).elim
  | dataUnsent _ passed => exact (hshut passed).elim
  | dataRequested _ passed => exact (hshut passed).elim
  | operationFailed _ passed => exact (hshut passed).elim
  | operationPending _ passed => exact (hshut passed).elim
  | operationUnsent _ passed => exact (hshut passed).elim
  | operationReported _ passed => exact (hshut passed).elim
  | reportUnsent _ passed => exact (hshut passed).elim
  | reportRepeated _ passed => exact (hshut passed).elim

/-- The platform is told to cancel exactly in the calls that ask for it, and then the
active component. -/
theorem FdStep.cancels_iff (step : FdStep profile pre input output sent)
    {component : FirmwareComponent} :
    (∃ answer, .cancelUpdateComponent component answer ∈ works output.log) ↔
      component = pre.updateComp ∧ AsksToCancel input pre := by
  constructor
  · rintro ⟨answer, member⟩
    cases step with
    | request step =>
        rcases step.works_eq with hnone | ⟨_, cancels, effective, _, hcancel⟩
        · simp [hnone] at member
        · rw [hcancel, List.mem_singleton] at member
          injection member with hcomponent
          exact ⟨hcomponent, .inl ⟨_, _, rfl, cancels, effective⟩⟩
    | poll step =>
        rcases step.works_eq with hnone | ⟨_, active, silence, _, _, hcancel⟩ |
          ⟨_, _, _, _, _, hquery⟩ | ⟨kind, _, _, _, hcallback⟩
        · simp [hnone] at member
        · rw [hcancel, List.mem_singleton] at member
          injection member with hcomponent
          exact ⟨hcomponent, .inr ⟨_, rfl, active, silence⟩⟩
        · simp [hquery] at member
        · cases kind <;> simp [hcallback, OperationKind.callback] at member
    | response step =>
        rcases step.works_eq _ member with ⟨_, _, _, hother⟩ | ⟨_, hother⟩ <;> cases hother
    | touch => simp [works_cons] at member
    | query reads => simp at member
  · obtain ⟨operation, ops⟩ := input
    rintro ⟨rfl, ⟨handler, payload, hoperation, cancels, effective⟩ |
      ⟨payload, hoperation, active, silence⟩⟩
    · obtain rfl : operation = .request handler payload := hoperation
      obtain ⟨_, _, _, step⟩ := step.of_request
      obtain ⟨answer, worked⟩ := step.works_of_shouldCancel cancels effective
      exact ⟨answer, by simp [worked]⟩
    · obtain rfl : operation = .fdProgress payload := hoperation
      obtain ⟨_, _, step⟩ := step.of_poll
      obtain ⟨answer, worked⟩ := step.works_of_silent active silence
      exact ⟨answer, by simp [worked]⟩

/-- A reported application stays reported as long as the device is at work. -/
theorem Complete.apply_stays (complete : Complete .apply pre)
    (step : FdStep profile pre input output sent)
    (remains : output.internal.state.isInitiator = true) : Complete .apply output.internal := by
  obtain ⟨hstate, hcomplete⟩ := complete
  have hpassive {state : FirmwareDeviceState} (same : pre.state = state)
      (other : state ≠ .apply) : False := other (same.symm.trans hstate)
  have hunfinished (unfinished : pre.req.complete = false) : False :=
    absurd (unfinished.symm.trans hcomplete) (by rintro ⟨⟩)
  cases step with
  | request step =>
      rcases step.of_operating remains with touched | ⟨ready, _⟩
      · exact ⟨touched.state.trans hstate,
          (congrArg FdReq.complete touched.req).trans hcomplete⟩
      · exact (hpassive ready (by rintro ⟨⟩)).elim
  | poll step =>
      cases step with
      | inactive => exact ⟨hstate, hcomplete⟩
      | timedOut => simp [FirmwareDeviceState.isInitiator] at remains
      | timeoutRefused => exact ⟨hstate, hcomplete⟩
      | undue => exact ⟨hstate, hcomplete⟩
      | reportUnsent => exact ⟨hstate, hcomplete⟩
      | reportRepeated => exact ⟨hstate, rfl⟩
      | operationFailed _ _ unfinished => exact (hunfinished unfinished).elim
      | operationPending _ _ unfinished => exact (hunfinished unfinished).elim
      | operationUnsent _ _ unfinished => exact (hunfinished unfinished).elim
      | operationReported _ _ unfinished => exact (hunfinished unfinished).elim
      | transferUnsent state => exact (hpassive state (by rintro ⟨⟩)).elim
      | transferUnknown state => exact (hpassive state (by rintro ⟨⟩)).elim
      | transferReported state => exact (hpassive state (by rintro ⟨⟩)).elim
      | rangeUnknown state => exact (hpassive state (by rintro ⟨⟩)).elim
      | rangeRefused state => exact (hpassive state (by rintro ⟨⟩)).elim
      | rangeOverflowed state => exact (hpassive state (by rintro ⟨⟩)).elim
      | dataUnsent state => exact (hpassive state (by rintro ⟨⟩)).elim
      | dataRequested state => exact (hpassive state (by rintro ⟨⟩)).elim
  | response step =>
      cases step with
      | ignored => exact ⟨hstate, hcomplete⟩
      | heard => exact ⟨hstate, hcomplete⟩
      | dataRefused => exact ⟨hstate, hcomplete⟩
      | dataRejected => exact ⟨hstate, rfl⟩
      | dataStored _ delivery => exact (hpassive delivery.state (by rintro ⟨⟩)).elim
      | dataCompleted => exact ⟨hstate, rfl⟩
      | transferAborted => exact ⟨hstate, rfl⟩
      | acknowledged =>
          have hleft : (advance pre.state
              (pre.setFdT1UpdateTs _)).state.isInitiator = true := remains
          rw [hstate, advance_state rfl] at hleft
          cases hleft
      | disappointed => exact ⟨hstate, rfl⟩
  | touch => exact ⟨hstate, hcomplete⟩
  | query => exact ⟨hstate, hcomplete⟩

end Steps

/-! ## What has been applied -/

/-- In the course of the download session the platform applied the component, and a
report of it was sent. -/
def Applied (events : List FdEvent) (component : FirmwareComponent) : Prop :=
  ∃ start since, Session events start since ∧
    (∃ call ∈ since, ∃ progress : ProgressPercent, 100 ≤ progress.value ∧
      .apply component (.ok (.applySuccess, progress)) ∈ call.callbacks) ∧
    ∃ call ∈ since, ∃ result, Reports call .applyComplete result

/-- An applied component is not cancelled in this call. -/
def SparesApplied (before : List FdEvent) (event : FdEvent) : Prop :=
  ∀ component answer, Applied before component →
    .cancelUpdateComponent component answer ∉ event.callbacks

/-- The device loses sight of the application of its component: the report is
unanswered and the agent has been silent for too long, or the agent asks to cancel
after a report that carried another result. -/
def LosesSight (before : List FdEvent) (event : FdEvent) : Prop :=
  Applied before event.before.updateComp ∧ event.before.state = .apply ∧
    ((∃ payload, event.input.operation = .fdProgress payload ∧
        silent event.input.ops event.before = true) ∨
      (∃ handler payload, event.input.operation = .request handler payload ∧
        handler.isCancel = true) ∧
      ¬ LastReport before .applyComplete ApplyResult.applySuccess.toU8)

section Runs

variable {profile : Profile} {events : List FdEvent} {state : FdInternal}

/-- The session of a longer run, unless the last call starts one, is that of the
shorter run. -/
theorem Session.of_append {event start : FdEvent} {since : List FdEvent}
    (session : Session (events ++ [event]) start since) :
    since = [] ∨ ∃ earlier, since = earlier ++ [event] ∧ Session events start earlier ∧
      ¬ MovesToDownload event := by
  obtain ⟨⟨earlier, hsplit⟩, starts, latest⟩ := session
  rcases List.eq_nil_or_concat' since with rfl | ⟨rest, last, rfl⟩
  · exact .inl rfl
  · right
    have hsame : events ++ [event] = (earlier ++ start :: rest) ++ [last] := by
      simpa using hsplit
    obtain ⟨rfl, hlast⟩ := List.append_inj' hsame rfl
    simp only [List.cons.injEq, and_true] at hlast
    subst hlast
    exact ⟨rest, rfl, ⟨⟨earlier, rfl⟩, starts, fun call member => latest call (by simp [member])⟩,
      latest event (by simp)⟩

/-- While the device is at work on a component and its application is not complete,
no report of an application has been sent for it. -/
theorem unreported_of_trace (trace : FdTrace profile events state)
    (active : state.state.isInitiator = true) (incomplete : ¬ Complete .apply state)
    {start : FdEvent} {since : List FdEvent} (session : Session events start since) :
    ∀ call ∈ since, ∀ result, ¬ Reports call .applyComplete result := by
  refine (FdRun.induct trace Coherent.init (fun events state =>
    state.state.isInitiator = true → ¬ Complete .apply state → ∀ start since,
      Session events start since → ∀ call ∈ since, ∀ result,
        ¬ Reports call .applyComplete result) ?_ ?_).1 active incomplete start since session
  · intro active
    cases active
  · intro events pre input output sent _ ih step _ hands active incomplete start since session
    rcases session.of_append with rfl | ⟨earlier, rfl, prior, stays⟩
    · simp
    · have hactive : pre.state.isInitiator = true := by
        by_contra passive
        have hleft := passive_step step (by simpa using passive) stays
        exact absurd (hleft.symm.trans active) nofun
      have hincomplete : ¬ Complete .apply pre := by
        intro complete
        exact incomplete (complete.apply_stays step active)
      refine forall_mem_concat.mpr ⟨ih hactive hincomplete start earlier prior, ?_⟩
      rintro result ⟨id, sends⟩
      have hreported := step.of_reports .apply (hands.trans sends)
      exact incomplete hreported.2.1

/-- In an application that is complete, a cancellation is held back exactly when the
last report carried a success. -/
theorem shouldCancel_iff (trace : FdTrace profile events state)
    (complete : Complete .apply state) : FdContext.shouldCancel state = some true ↔
      ¬ LastReport events .applyComplete ApplyResult.applySuccess.toU8 := by
  obtain ⟨result, stored, last⟩ := lastReport_of_trace trace complete
  have hlast : LastReport events .applyComplete ApplyResult.applySuccess.toU8 ↔
      result = ApplyResult.applySuccess.toU8 := by
    constructor
    · intro success
      exact LastReport.unique last success
    · rintro rfl
      exact last
  rw [hlast]
  have hstate : state.state = .apply := complete.state
  simp [FdContext.shouldCancel, hstate, complete.complete, stored]

/-- The application of the component an applied device works on is complete. -/
theorem complete_of_applied (trace : FdTrace profile events state)
    (active : state.state.isInitiator = true) {component : FirmwareComponent}
    (applied : Applied events component) : Complete .apply state := by
  obtain ⟨start, since, session, _, call, member, result, reports⟩ := applied
  by_contra incomplete
  exact unreported_of_trace trace active incomplete session call member result reports

/-- The callbacks of the next call cancel exactly what the call asks to cancel. -/
theorem FdTrace.cancels_iff (trace : FdTrace profile events state) (input : FdInput)
    (component : FirmwareComponent) :
    (∃ answer, .cancelUpdateComponent component answer ∈
        (fdEvent profile state input).callbacks) ↔
      component = state.updateComp ∧ AsksToCancel input state := by
  rw [← (trace.step input).cancels_iff]
  exact exists_congr fun answer => mem_works rfl

/-- The step lemma: an applied component is cancelled exactly where the device has
lost sight of its application. -/
theorem sparesApplied_step (trace : FdTrace profile events state) (input : FdInput) :
    SparesApplied events (fdEvent profile state input) ↔
      ¬ LosesSight events (fdEvent profile state input) := by
  constructor
  · rintro spares ⟨applied, hstate, lost⟩
    have hactive : state.state.isInitiator = true := by
      rw [show state.state = .apply from hstate]
      rfl
    have hcomplete := complete_of_applied trace hactive applied
    have hasks : AsksToCancel input state := by
      rcases lost with ⟨payload, hoperation, silence⟩ |
        ⟨⟨handler, payload, hoperation, cancels⟩, other⟩
      · exact .inr ⟨payload, hoperation, hactive, silence⟩
      · exact .inl ⟨handler, payload, hoperation, cancels,
          (shouldCancel_iff trace hcomplete).mpr other⟩
    obtain ⟨answer, member⟩ := (trace.cancels_iff input state.updateComp).mpr ⟨rfl, hasks⟩
    exact spares state.updateComp answer applied member
  · intro sight component answer applied member
    obtain ⟨rfl, asks⟩ := (trace.cancels_iff input component).mp ⟨answer, member⟩
    apply sight
    rcases asks with ⟨handler, payload, hoperation, cancels, effective⟩ |
      ⟨payload, hoperation, active, silence⟩
    · have hcomplete :=
        complete_of_applied trace (isInitiator_of_shouldCancel effective) applied
      exact ⟨applied, hcomplete.state, .inr ⟨⟨handler, payload, hoperation, cancels⟩,
        (shouldCancel_iff trace hcomplete).mp effective⟩⟩
    · have hcomplete := complete_of_applied trace active applied
      exact ⟨applied, hcomplete.state, .inl ⟨payload, hoperation, silence⟩⟩

/-- Throughout a run, no component is cancelled once it has been applied, exactly
when the device never loses sight of an application. -/
theorem sparesApplied_iff_sight (trace : FdTrace profile events state) (input : FdInput) :
    Throughout SparesApplied (events ++ [fdEvent profile state input]) ↔
      Throughout (fun before event => ¬ LosesSight before event)
        (events ++ [fdEvent profile state input]) :=
  trace.throughout_congr input sparesApplied_step

end Runs

/-! ## Two ways to lose an application -/

/-- The session of a run, computed. -/
def session : List FdEvent → Option (FdEvent × List FdEvent)
  | [] => none
  | event :: rest =>
      match session rest with
      | some found => some found
      | none => if MovesToDownload event then some (event, rest) else none

theorem session_spec (events : List FdEvent) :
    match session events with
    | some (start, since) => Session events start since
    | none => ∀ event ∈ events, ¬ MovesToDownload event := by
  induction events with
  | nil => simp [session]
  | cons event rest ih =>
      simp only [session]
      cases hrest : session rest with
      | some found =>
          rw [hrest] at ih
          obtain ⟨⟨earlier, hsplit⟩, starts, latest⟩ := ih
          exact ⟨⟨event :: earlier, by simp [← hsplit]⟩, starts, latest⟩
      | none =>
          rw [hrest] at ih
          by_cases starts : MovesToDownload event
          · simp only [starts, ↓reduceIte]
            exact ⟨⟨[], rfl⟩, starts, ih⟩
          · simp only [starts, ↓reduceIte]
            simpa [starts] using ih

/-- The platform has applied the component, and the report is on its way. -/
def throughApplication (imageSize : UInt32) : List FdInput :=
  throughVerification imageSize ++ [poll (platform 7)]

/-- What a computed run is checked for: its component has been applied. -/
def hasApplied (events : List FdEvent) (component : FirmwareComponent) : Bool :=
  (session events).any fun found =>
    found.2.any (fun call => .apply component ((platform 0).apply component) ∈
      call.callbacks) &&
    found.2.any fun call => call.sent = some (.complete .applyComplete 1 0)

theorem applied_of_hasApplied {events : List FdEvent} {component : FirmwareComponent}
    (found : hasApplied events component = true) : Applied events component := by
  have hspec := session_spec events
  simp only [hasApplied, Option.any_eq_true, Bool.and_eq_true, List.any_eq_true,
    decide_eq_true_eq] at found
  obtain ⟨⟨start, since⟩, hsession, ⟨call, member, applies⟩, other, member', reports⟩ := found
  rw [hsession] at hspec
  exact ⟨start, since, hspec, ⟨call, member, ⟨100, by decide⟩, by decide, applies⟩,
    other, member', 0, 1, reports⟩

/-- A timeout cancels an applied component, and so does a cancellation that comes
after a repeated report. -/
theorem applied_component_cancelled :
    (∃ events state, FdTrace .release events state ∧
      ¬ Throughout SparesApplied (events ++ [fdEvent .release state (poll (platform 200000))])) ∧
    ∃ events state, FdTrace .release events state ∧
      ¬ Throughout SparesApplied (events ++ [fdEvent .release state
        (receive .cancelUpdateComponent (Agent.plainRequest .cancelUpdateComponent 1)
          (platform 10001))]) := by
  constructor
  · obtain ⟨events, state, trace, hcheck⟩ := exists_run .release (throughApplication 100)
      (fun events state => hasApplied events state.updateComp &&
        .cancelUpdateComponent state.updateComp (.ok ()) ∈
          (fdEvent .release state (poll (platform 200000))).callbacks) (by decide +kernel)
    simp only [Bool.and_eq_true, decide_eq_true_eq] at hcheck
    refine ⟨events, state, trace, ?_⟩
    intro spares
    exact spares events _ [] rfl _ _ (applied_of_hasApplied hcheck.1) hcheck.2
  · obtain ⟨events, state, trace, hcheck⟩ := exists_run .release
      (throughApplication 100 ++ [poll (platform 10000)])
      (fun events state => hasApplied events state.updateComp &&
        .cancelUpdateComponent state.updateComp (.ok ()) ∈
          (fdEvent .release state (receive .cancelUpdateComponent
            (Agent.plainRequest .cancelUpdateComponent 1) (platform 10001))).callbacks)
      (by decide +kernel)
    simp only [Bool.and_eq_true, decide_eq_true_eq] at hcheck
    refine ⟨events, state, trace, ?_⟩
    intro spares
    exact spares events _ [] rfl _ _ (applied_of_hasApplied hcheck.1) hcheck.2

theorem sparesApplied_iff_sight_opening : ∃ events state, FdTrace .release events state ∧
    (Throughout SparesApplied (events ++ [fdEvent .release state (poll (platform 8))]) ↔
      Throughout (fun before event => ¬ LosesSight before event)
        (events ++ [fdEvent .release state (poll (platform 8))])) := by
  obtain ⟨events, state, trace, _⟩ := exists_run .release (throughApplication 100)
    (fun _ _ => true) (by decide +kernel)
  exact ⟨events, state, trace, sparesApplied_iff_sight trace (poll (platform 8))⟩

end PldmLib.FirmwareDevice
