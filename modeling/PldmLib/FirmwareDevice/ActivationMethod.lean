/-
# Success with an activation method

The platform can say of an application that it succeeded in two ways, the second of which asks
the agent for other means of activation. The device compares with the first alone, when the
agent acknowledges the report and when it asks to cancel. What it compares is the result of the
last report, which a repeated report has replaced.
-/

import PldmLib.FirmwareDevice.Application
import PldmLib.FirmwareDevice.Retransmission

namespace PldmLib.FirmwareDevice

open PldmLib.Machine PldmLib.Protocol PldmLib.Message

/-! ## The platform's last word -/

/-- The results of an application that are a success. -/
def CountsAsSuccess (result : ApplyResult) : Prop :=
  result = .applySuccess ∨ result = .applySuccessWithActivationMethod

/-- In the course of the download session the platform completed the application of the
component with this result, in the first of the calls `since`, and was not asked again. -/
structure AppliedWith (events : List FdEvent) (component : FirmwareComponent)
    (result : ApplyResult) (since : List FdEvent) : Prop where
  session : ∃ start earlier, Session events start (earlier ++ since)
  last : ∃ call later progress, since = call :: later ∧
    .apply component (.ok (result, progress)) ∈ call.callbacks ∧
    pending result.toU8 progress = false ∧
    ∀ event ∈ later, ∀ other answer, .apply other answer ∉ event.callbacks

/-- The agent answers a report that carried the platform's result. -/
structure Acknowledged (before : List FdEvent) (event : FdEvent) (result : ApplyResult) :
    Prop where
  applying : event.before.state = .apply
  answered : ∃ payload, event.input.operation = .handleResponse payload ∧
    accepts event.before.req payload = true
  applied : ∃ component since, AppliedWith before component result since
  reported : LastReport before .applyComplete result.toU8

/-- A request to cancel the component or the update. -/
def FdEvent.IsCancel (event : FdEvent) : Prop :=
  ∃ handler payload, event.input.operation = .request handler payload ∧ handler.isCancel = true

/-- Either success ends the update of the component when the agent acknowledges it, and nothing
else does. Either success keeps the component from being cancelled. -/
structure HonoursSuccess (before : List FdEvent) (event : FdEvent) : Prop where
  finished : ∀ result, Acknowledged before event result →
    (event.after.state = .readyXfer ∧ event.after.req.state = .unused ↔ CountsAsSuccess result)
  parked : ∀ result, Acknowledged before event result →
    (event.after.state = .apply ∧ event.after.req.state = .failed ↔ ¬ CountsAsSuccess result)
  spared : ∀ component result since, AppliedWith before component result since →
    CountsAsSuccess result → event.IsCancel →
    ∀ answer, .cancelUpdateComponent component answer ∉ event.callbacks

/-- The two places where the device takes a success for a failure: the answer to a report of
success with an activation method, and a request to cancel when the last report since the
application, if there is one, did not carry the plain success. -/
inductive MistakesSuccess (before : List FdEvent) (event : FdEvent) : Prop
  | acknowledged (answers : Acknowledged before event .applySuccessWithActivationMethod)
  | cancelled {result : ApplyResult} {since : List FdEvent} (cancels : event.IsCancel)
      (applying : event.before.state = .apply)
      (applied : AppliedWith before event.before.updateComp result since)
      (success : CountsAsSuccess result)
      (unreported : ¬ LastReport since .applyComplete ApplyResult.applySuccess.toU8)

theorem CountsAsSuccess.eq_zero_iff {result : ApplyResult}
    (other : result ≠ .applySuccessWithActivationMethod) :
    result.toU8 = 0 ↔ CountsAsSuccess result := by
  cases result <;> simp_all [CountsAsSuccess, ApplyResult.toU8]

section Steps

variable {profile : Profile} {pre : FdInternal} {input : FdInput} {output : FdOutput}
  {sent : Option FdRequest}

/-- From an application the device goes to no other operation. -/
theorem FdStep.apply_stays (step : FdStep profile pre input output sent)
    (applying : pre.state = .apply) (remains : output.internal.state.isInitiator = true) :
    output.internal.state = .apply := by
  cases step with
  | request step =>
      rcases step.of_operating remains with touched | ⟨ready, _⟩
      · exact touched.state.trans applying
      · cases ready.symm.trans applying
  | @poll _ _ _ outcome _ _ _ step =>
      by_cases timedOut : outcome = .err .t1Timeout
      · subst timedOut
        cases step
        simp [FirmwareDeviceState.isInitiator] at remains
      · exact (step.state_eq timedOut).trans applying
  | response step =>
      rcases step.state_eq with same | ⟨_, _, _, hpost⟩
      · exact same.trans applying
      · dsimp only at remains
        rw [hpost, applying, advance_state rfl] at remains
        cases remains
  | touch => exact applying
  | query => exact applying

/-- The platform is asked to apply in an application that is not complete. -/
theorem FdStep.of_apply (step : FdStep profile pre input output sent)
    {component : FirmwareComponent} {answer : Except FdOpsError (ApplyResult × ProgressPercent)}
    (asked : .apply component answer ∈ works output.log) :
    pre.state = .apply ∧ pre.req.complete = false := by
  obtain ⟨kind, hstate, hcallback⟩ := step.of_operation asked (.inr ⟨_, _, rfl⟩)
  obtain rfl : kind = .apply := by
    cases kind with
    | verify => cases hcallback
    | apply => rfl
  refine ⟨hstate, ?_⟩
  cases step with
  | poll step =>
      rcases step.works_eq with hnone | ⟨_, _, _, _, _, hcancel⟩ | ⟨_, _, _, _, _, hquery⟩ |
        ⟨other, _, _, hcomplete, _⟩
      · simp [hnone] at asked
      · simp [hcancel] at asked
      · simp [hquery] at asked
      · exact hcomplete
  | request step =>
      rcases step.works_eq with hnone | ⟨_, _, _, _, hcancel⟩
      · simp [hnone] at asked
      · simp [hcancel] at asked
  | response step =>
      rcases step.works_eq _ asked with ⟨_, _, _, hother⟩ | ⟨_, hother⟩ <;> cases hother
  | touch => simp [works_cons] at asked
  | query => simp at asked

end Steps

section Runs

variable {profile : Profile} {events since : List FdEvent} {state : FdInternal}
  {component : FirmwareComponent} {result : ApplyResult}

/-- A device at work on a component that the platform was asked to apply is in `Apply`. -/
theorem applying_of_session (trace : FdTrace profile events state)
    (active : state.state.isInitiator = true) {start : FdEvent}
    (session : Session events start since) {call : FdEvent} (member : call ∈ since)
    {answer : Except FdOpsError (ApplyResult × ProgressPercent)}
    (asked : .apply component answer ∈ call.callbacks) : state.state = .apply := by
  refine (FdRun.induct trace Coherent.init (fun events state =>
    state.state.isInitiator = true → ∀ start since, Session events start since →
      ∀ call ∈ since, .apply component answer ∈ call.callbacks → state.state = .apply) ?_ ?_).1
      active start since session call member asked
  · intro active
    cases active
  · intro events pre input output sent _ ih step _ _ active start since session call member asked
    rcases session.of_append with rfl | ⟨earlier, rfl, prior, stays⟩
    · cases member
    · have hactive : pre.state.isInitiator = true := by
        by_contra passive
        have hleft := passive_step step (by simpa using passive) stays
        exact absurd (hleft.symm.trans active) (by rintro ⟨⟩)
      refine step.apply_stays ?_ active
      rcases List.mem_append.mp member with among | now
      · exact ih hactive start earlier prior call among asked
      · rw [List.mem_singleton.mp now] at asked
        exact (step.of_apply ((mem_works rfl).mp asked)).1

/-- In an application that the platform has completed, the slot holds the plain success exactly
when the last report since then carried it. -/
theorem reported_iff (trace : FdTrace profile events state) (applying : state.state = .apply)
    (applied : AppliedWith events component result since) :
    state.req.complete = true ∧ state.req.result = some ApplyResult.applySuccess.toU8 ↔
      LastReport since .applyComplete ApplyResult.applySuccess.toU8 := by
  obtain ⟨start, earlier, session⟩ := applied.session
  obtain ⟨before, hevents⟩ := session.split
  have hsplit : events = (before ++ start :: earlier) ++ since := by simpa using hevents
  constructor
  · rintro ⟨complete, stored⟩
    obtain ⟨origin, prior, run⟩ := System.Trace.split trace hsplit
    have hcoherent := FdTrace.coherent prior
    obtain ⟨call, later, _, rfl, asked, _, _⟩ := applied.last
    obtain ⟨step, _, _⟩ := FdRun.head run hcoherent
    have hfresh : ¬ Complete .apply origin := by
      intro already
      have hunfinished := (step.of_apply ((mem_works rfl).mp asked)).2
      exact absurd (hunfinished.symm.trans already.complete) (by rintro ⟨⟩)
    obtain ⟨byte, stored', last⟩ :=
      lastReport_of_run run hcoherent hfresh ⟨applying, complete⟩
    obtain rfl := Option.some.inj (stored.symm.trans stored')
    exact last
  · intro last
    have hactive : state.state.isInitiator = true := by
      rw [applying]
      rfl
    have hcomplete : Complete .apply state := by
      by_contra incomplete
      obtain ⟨first, call, rest, rfl, reports, _⟩ := last
      exact unreported_of_trace trace hactive incomplete session call (by simp) _ reports
    obtain ⟨byte, stored, last'⟩ := lastReport_of_trace trace hcomplete
    have hlast := last.prepend (before ++ start :: earlier)
    rw [← hsplit] at hlast
    obtain rfl := LastReport.unique last' hlast
    exact ⟨hcomplete.complete, stored⟩

theorem shouldCancel_iff_unreported (trace : FdTrace profile events state)
    (applied : AppliedWith events component result since) :
    FdContext.shouldCancel state = some true ↔
      state.state = .apply ∧ ¬ LastReport since .applyComplete ApplyResult.applySuccess.toU8 := by
  have hslot (applying : state.state = .apply) : FdContext.shouldCancel state = some true ↔
      ¬ (state.req.complete = true ∧ state.req.result = some ApplyResult.applySuccess.toU8) := by
    cases hcomplete : state.req.complete <;>
      simp [FdContext.shouldCancel, applying, hcomplete]
  constructor
  · intro effective
    obtain ⟨start, earlier, session⟩ := applied.session
    obtain ⟨call, later, _, rfl, asked, _, _⟩ := applied.last
    have happlying := applying_of_session trace (isInitiator_of_shouldCancel effective) session
      (List.mem_append_right earlier List.mem_cons_self) asked
    rw [hslot happlying, reported_iff trace happlying applied] at effective
    exact ⟨happlying, effective⟩
  · rintro ⟨applying, unreported⟩
    rwa [hslot applying, reported_iff trace applying applied]

/-- The answer to a report in `Apply` looks at whether the report carried the plain success. -/
theorem Acknowledged.settles (trace : FdTrace profile events state) {input : FdInput}
    (acknowledged : Acknowledged events (fdEvent profile state input) result) :
    if result.toU8 = 0 then
      (fdEvent profile state input).after.state = .readyXfer ∧
        (fdEvent profile state input).after.req.state = .unused
    else (fdEvent profile state input).after.state = .apply ∧
      (fdEvent profile state input).after.req.state = .failed := by
  obtain ⟨operation, ops⟩ := input
  obtain ⟨payload, hoperation, haccepted⟩ := acknowledged.answered
  obtain rfl : operation = .handleResponse payload := hoperation
  have happlying : state.state = .apply := acknowledged.applying
  have hactive : state.state.isInitiator = true := by
    rw [happlying]
    rfl
  obtain ⟨_, _, hsent, _⟩ := ResponseStep.accepts_iff.mp haccepted
  have hcomplete : state.req.complete = true := by
    rcases outstanding_cases trace.coherent hactive hsent with ⟨download, _⟩ | ⟨complete, _⟩
    · rw [happlying] at download
      cases download
    · exact complete
  have happlied : Complete .apply state := ⟨happlying, hcomplete⟩
  obtain ⟨byte, stored, last⟩ := lastReport_of_trace trace happlied
  obtain rfl := LastReport.unique last acknowledged.reported
  have houtstanding : Outstanding state result.toU8 :=
    ⟨hactive, hsent, hcomplete, stored, fun download => by
      rw [happlying] at download
      cases download⟩
  rw [houtstanding.answered trace.coherent haccepted ops]
  unfold settle
  split
  · rw [happlying, advance_state rfl, advance_req rfl]
    exact ⟨rfl, rfl⟩
  · exact ⟨happlying, rfl⟩

/-- The step lemma. -/
theorem honoursSuccess_step (trace : FdTrace profile events state) (input : FdInput) :
    HonoursSuccess events (fdEvent profile state input) ↔
      ¬ MistakesSuccess events (fdEvent profile state input) := by
  constructor
  · intro honours mistakes
    cases mistakes with
    | acknowledged answers =>
        have hsettles := answers.settles trace
        rw [if_neg (by decide)] at hsettles
        exact (honours.parked _ answers).mp hsettles (.inr rfl)
    | cancelled cancels applying applied success unreported =>
        obtain ⟨handler, payload, hoperation, hcancel⟩ := cancels
        have heffective := (shouldCancel_iff_unreported trace applied).mpr ⟨applying, unreported⟩
        obtain ⟨answer, member⟩ := (trace.cancels_iff input _).mpr
          ⟨rfl, .inl ⟨handler, payload, hoperation, hcancel, heffective⟩⟩
        exact honours.spared _ _ _ applied success ⟨handler, payload, hoperation, hcancel⟩
          answer member
  · intro right
    have hother {result : ApplyResult}
        (answers : Acknowledged events (fdEvent profile state input) result) :
        result ≠ .applySuccessWithActivationMethod := by
      rintro rfl
      exact right (.acknowledged answers)
    refine ⟨?_, ?_, ?_⟩
    · intro result answers
      have hsettles := answers.settles trace
      rw [← CountsAsSuccess.eq_zero_iff (hother answers)]
      split at hsettles
      · next zero => exact iff_of_true hsettles zero
      · next nonzero =>
          refine iff_of_false ?_ nonzero
          rintro ⟨left, _⟩
          rw [hsettles.1] at left
          cases left
    · intro result answers
      have hsettles := answers.settles trace
      rw [← CountsAsSuccess.eq_zero_iff (hother answers)]
      split at hsettles
      · next zero =>
          refine iff_of_false ?_ (not_not.mpr zero)
          rintro ⟨stays, _⟩
          rw [hsettles.1] at stays
          cases stays
      · next nonzero => exact iff_of_true hsettles nonzero
    · intro component result since applied success cancels answer member
      obtain ⟨rfl, asks⟩ := (trace.cancels_iff input component).mp ⟨answer, member⟩
      rcases asks with ⟨_, _, _, _, effective⟩ | ⟨payload, hpoll, _, _⟩
      · obtain ⟨applying, unreported⟩ := (shouldCancel_iff_unreported trace applied).mp effective
        exact right (.cancelled cancels applying applied success unreported)
      · obtain ⟨handler, request, hrequest, _⟩ := cancels
        exact absurd (hpoll.symm.trans hrequest) (by rintro ⟨⟩)

/-- Throughout a run the device treats both successes of an application as such, exactly when
the success with an activation method is never acknowledged and no request to cancel finds
the plain success unreported. -/
theorem honoursSuccess_iff (trace : FdTrace profile events state) (input : FdInput) :
    Throughout HonoursSuccess (events ++ [fdEvent profile state input]) ↔
      Throughout (fun before event => ¬ MistakesSuccess before event)
        (events ++ [fdEvent profile state input]) :=
  trace.throughout_congr input honoursSuccess_step

end Runs

/-- A platform that succeeds with an activation method. -/
def activating (time : PldmFdTime) : FdOps :=
  { platform time with
    apply := fun _ => .ok (.applySuccessWithActivationMethod, .default) }

/-- The poll that applies a verified component there. -/
def applied (state : FdInternal) : FdEvent := fdEvent .release state (poll (activating 7))

/-- The agent's answers to the report: it acknowledges it, or it cancels. -/
def acknowledgement : FdInput := acknowledge .applyComplete (activating 8)

def cancellation : FdInput :=
  receive .cancelUpdateComponent (Agent.plainRequest .cancelUpdateComponent 1) (activating 8)

/-- The application and its report, and what the device makes of the agent's answers. -/
theorem applied_run : ∃ events state, FdTrace .release events state ∧
    AppliedWith events state.updateComp .applySuccessWithActivationMethod
      (events.drop (events.length - 1)) ∧
    LastReport events .applyComplete ApplyResult.applySuccessWithActivationMethod.toU8 ∧
    state.state = .apply ∧
    accepts state.req (Agent.response 1 .applyComplete 0 []) = true ∧
    (fdEvent .release state acknowledgement).after.state = .apply ∧
    .cancelUpdateComponent state.updateComp (.ok ()) ∈
      (fdEvent .release state cancellation).callbacks := by
  obtain ⟨events, state, trace, hcheck⟩ := exists_run .release (throughVerification 100)
    (fun events state => (session events).isSome && (state.state = .apply &&
      ((applied state).output.outcome = .ok (.length 6) &&
      (.apply (applied state).after.updateComp
        (.ok (.applySuccessWithActivationMethod, .default)) ∈ (applied state).callbacks &&
      ((applied state).sent = some (.complete .applyComplete 1 1) &&
      ((applied state).after.state = .apply &&
      (accepts (applied state).after.req (Agent.response 1 .applyComplete 0 []) &&
      ((fdEvent .release (applied state).after acknowledgement).after.state = .apply &&
      .cancelUpdateComponent (applied state).after.updateComp (.ok ()) ∈
        (fdEvent .release (applied state).after cancellation).callbacks)))))))) (by decide +kernel)
  simp only [Bool.and_eq_true, decide_eq_true_eq] at hcheck
  obtain ⟨hsession, happlying, houtcome, hasked, hsent, hstate, haccepts, hstays,
    hcancelled⟩ := hcheck
  have hrun : FdTrace .release (events ++ [applied state]) (applied state).after := by
    apply FdRun.extend trace (poll (activating 7))
    exact fun panicked => absurd (houtcome.symm.trans panicked) (by rintro ⟨⟩)
  refine ⟨events ++ [applied state], (applied state).after, hrun, ?_, ?_, hstate, haccepts,
    hstays, hcancelled⟩
  · obtain ⟨⟨start, earlier⟩, hfound⟩ := Option.isSome_iff_exists.mp hsession
    have hspec := session_spec events
    rw [hfound] at hspec
    obtain ⟨⟨before, hsplit⟩, starts, latest⟩ := hspec
    have hlast : (events ++ [applied state]).drop ((events ++ [applied state]).length - 1) =
        [applied state] := by simp
    rw [hlast]
    refine ⟨⟨start, earlier, ⟨before, by simp [hsplit]⟩, starts, ?_⟩, applied state, [], .default,
      rfl, hasked, by decide, by simp⟩
    refine forall_mem_concat.mpr ⟨latest, ?_⟩
    rintro ⟨_, downloads⟩
    rw [hstate] at downloads
    cases downloads
  · exact LastReport.of_reports ⟨1, hsent⟩ events

/-- Either answer takes the component for one that has failed. -/
theorem activation_method_fails : ∃ events state, FdTrace .release events state ∧
    ¬ Throughout HonoursSuccess (events ++ [fdEvent .release state acknowledgement]) ∧
    ¬ Throughout HonoursSuccess (events ++ [fdEvent .release state cancellation]) := by
  obtain ⟨events, state, trace, happlied, hreported, hstate, haccepts, hstays, hcancelled⟩ :=
    applied_run
  refine ⟨events, state, trace, ?_, ?_⟩
  · intro honours
    have hanswers : Acknowledged events (fdEvent .release state acknowledgement)
        .applySuccessWithActivationMethod :=
      ⟨hstate, ⟨_, rfl, haccepts⟩, ⟨_, _, happlied⟩, hreported⟩
    have hleft := ((honours events _ [] rfl).finished _ hanswers).mpr (.inr rfl)
    rw [hstays] at hleft
    cases hleft.1
  · intro honours
    exact (honours events _ [] rfl).spared _ _ _ happlied (.inr rfl) ⟨_, _, rfl, rfl⟩ _ hcancelled

theorem honoursSuccess_iff_activating : ∃ events state, FdTrace .release events state ∧
    (Throughout HonoursSuccess (events ++ [fdEvent .release state acknowledgement]) ↔
      Throughout (fun before event => ¬ MistakesSuccess before event)
        (events ++ [fdEvent .release state acknowledgement])) := by
  obtain ⟨events, state, trace, _⟩ := exists_run .release
    (throughVerification 100 ++ [poll (activating 7)]) (fun _ _ => true) (by decide +kernel)
  exact ⟨events, state, trace, honoursSuccess_iff trace acknowledgement⟩

end PldmLib.FirmwareDevice
